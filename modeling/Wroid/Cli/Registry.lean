import Wroid.Cli.Interactive
import Wroid.Core.ControlProfileText
import Wroid.Lib.Outcomes

/-!
# The commands on profile files

`commands/profile.rs` and `registry.rs`: profiles in pixels are created, their bindings edited one
at a time, and the registry keeps profiles under identifiers in one directory.  A command reads the
file it works on, checks it, and writes the whole file anew; it does so without a temporary file.

A path is the file it names, whatever its text.  The screen that is asked for its size, the lower
case of Unicode and the quoting of a text are parameters.

## Main definitions

* `RegistryError` — what the commands fail with, and the texts.
* `ProfilePaths` — the paths, and where the registry keeps an identifier.
* `addTapBinding`, `addSwipeBinding`, `addJoystickBinding`, `removeBinding` — the edits.
* `importProfileToRegistry` and its kind — the commands on the registry.
* `ProfileCommand`, `ProfileCommand.program` — all of them.
-/

namespace Wroid

open Lib

/-! ### Errors -/

/-- What a command fails with, the causes as they were met. -/
inductive RegistryError
  | loadFailed (path : String) (cause : ProfileError)
  | invalid (path : String) (errors : List ValidationError)
  | updatedInvalid (path : String) (errors : List ValidationError)
  | newInvalid (errors : List ValidationError)
  | fileExists (path : String)
  | idTaken (id path : String)
  | notRegistered (id path : String)
  | emptyId
  | invalidId (quoted : String)
  | bindingExists (name : String)
  | bindingNotFound (name : String)
  | pointFormat (label : String)
  | pointX (label : String)
  | pointY (label : String)
  | outside (label : String) (point : Point) (resolution : Resolution)
  | zeroSwipeDuration
  | emptyDirection
  | zeroRadius
  | zeroTick
  | zeroJoystickDuration
  | directory (path : String) (cause : FileError)
  | writeFailed (path : String) (cause : FileError)
  | copyFailed (source target : String) (cause : FileError)
  | renameFailed (old new : String) (cause : FileError)
  | removeFailed (path : String) (cause : FileError)
  | screen (text : String)
  deriving DecidableEq

/-- The outermost message. -/
def RegistryError.text : RegistryError → String
  | .loadFailed path _ => s!"failed to load profile {path}"
  | .invalid path _ => s!"profile {path} is invalid"
  | .updatedInvalid path _ => s!"updated profile {path} is invalid"
  | .newInvalid _ => "new profile is invalid"
  | .fileExists path => s!"profile {path} already exists; pass --force to overwrite"
  | .idTaken id path => s!"profile {id} already exists at {path}"
  | .notRegistered id path => s!"profile {id} not found in registry at {path}"
  | .emptyId => "profile ID must not be empty"
  | .invalidId quoted =>
    s!"profile ID {quoted} is invalid; use only ASCII letters, digits, dot, dash, and underscore"
  | .bindingExists name => s!"binding {name} already exists"
  | .bindingNotFound name => s!"binding {name} not found"
  | .pointFormat label => s!"{label} must use x,y coordinate format"
  | .pointX label => s!"{label} has an invalid x coordinate"
  | .pointY label => s!"{label} has an invalid y coordinate"
  | .outside label point resolution =>
    s!"{label} {point.x},{point.y} is outside profile resolution " ++
      s!"{resolution.width}x{resolution.height}"
  | .zeroSwipeDuration => "swipe duration must be greater than zero"
  | .emptyDirection => "joystick directional keys must not be empty"
  | .zeroRadius => "joystick radius must be greater than zero"
  | .zeroTick => "joystick tick interval must be greater than zero"
  | .zeroJoystickDuration => "joystick swipe duration must be greater than zero"
  | .directory path _ => s!"failed to create profile directory {path}"
  | .writeFailed path _ => s!"failed to write profile {path}"
  | .copyFailed source target _ => s!"failed to copy profile {source} to {target}"
  | .renameFailed old new _ => s!"failed to rename profile {old} to {new}"
  | .removeFailed path _ => s!"failed to remove profile {path}"
  | .screen text => text

/-! ### Paths -/

structure ProfilePaths (Name : Type) where
  display : Name → String
  /-- The directory of a path, unless its text has none. -/
  parent : Name → Option String
  /-- The path of a file name in the registry. -/
  entry : String → Name
  /-- `str::to_lowercase` -/
  lower : String → String
  /-- A text as `Debug` prints it. -/
  quoted : String → String

variable {Name : Type} (paths : ProfilePaths Name)

def isProfileIdChar (character : Char) : Bool :=
  character.isAlphanum || character = '.' || character = '-' || character = '_'

def validateProfileId (id : String) : Except RegistryError Unit :=
  if id = "" then .error .emptyId
  else if id.toList.all isProfileIdChar then .ok ()
  else .error (.invalidId (paths.quoted id))

def registryProfileFilePath (id : String) : Except RegistryError Name := do
  validateProfileId paths id
  return paths.entry (id ++ ".json")

/-- The identifier that a file name of the registry is listed under: what stands before its
extension. -/
def listedId (fileName : String) : Option String :=
  if ".json".toList <:+ fileName.toList ∧ fileName ≠ ".json" then
    some (.ofList (fileName.toList.take (fileName.toList.length - 5)))
  else none

/-! ### Reading and writing profiles -/

def loadValidatedProfile (path : Name) :
    FileProgram Name (Except RegistryError ControlProfile) := do
  match ControlProfile.load (← FileOp.call (.read path)) with
  | .error error => return .error (.loadFailed (paths.display path) error)
  | .ok profile =>
    match profile.validate with
    | .error errors => return .error (.invalid (paths.display path) errors)
    | .ok _ => return .ok profile

/-- `fs::create_dir_all` for the directory of the file. -/
def createParent (path : Name) : FileProgram Name (Except RegistryError Unit) := do
  match paths.parent path with
  | none => return .ok ()
  | some directory =>
    match ← FileOp.call .createDirectory with
    | .error error => return .error (.directory directory error)
    | .ok _ => return .ok ()

def saveProfile (profile : ControlProfile) (path : Name) :
    FileProgram Name (Except RegistryError Unit) := do
  match ← createParent paths path with
  | .error error => return .error error
  | .ok _ =>
    match ← fsWrite path profile.text with
    | .error error => return .error (.writeFailed (paths.display path) error)
    | .ok _ => return .ok ()

def copyProfileJson (source target : Name) : FileProgram Name (Except RegistryError Unit) := do
  match ← createParent paths target with
  | .error error => return .error error
  | .ok _ =>
    match ← fsCopy source target with
    | .error error => return .error (.copyFailed (paths.display source) (paths.display target) error)
    | .ok _ => return .ok ()

def newEmptyControlProfile (name packageName : String) (resolution : Resolution) :
    Except RegistryError ControlProfile :=
  let profile : ControlProfile := ⟨name, packageName, resolution, []⟩
  match profile.validate with
  | .error errors => .error (.newInvalid errors)
  | .ok _ => .ok profile

/-- Nothing but a file that may be overwritten is in the way. -/
def ensureOverwritable (path : Name) (force : Bool) :
    FileProgram Name (Except RegistryError Unit) := do
  if (← FileOp.call (.present path)) && !force then return .error (.fileExists (paths.display path))
  else return .ok ()

def createProfile (path : Name) (name packageName : String) (resolution : Resolution)
    (force : Bool) : FileProgram Name (Except RegistryError Unit) := do
  match ← ensureOverwritable paths path force with
  | .error error => return .error error
  | .ok _ =>
    match newEmptyControlProfile name packageName resolution with
    | .error error => return .error error
    | .ok profile => saveProfile paths profile path

def createProfileFromCurrentScreen (screen : Except RegistryError Resolution) (path : Name)
    (name packageName : String) (force : Bool) : FileProgram Name (Except RegistryError Unit) := do
  match ← ensureOverwritable paths path force with
  | .error error => return .error error
  | .ok _ =>
    match screen with
    | .error error => return .error error
    | .ok resolution => createProfile paths path name packageName resolution force

/-! ### Editing bindings -/

def ensureBindingNameAvailable (profile : ControlProfile) (name : String) :
    Except RegistryError Unit :=
  if profile.bindings.any (·.name = name) then .error (.bindingExists name) else .ok ()

def ensurePointInBounds (profile : ControlProfile) (point : Point) (label : String) :
    Except RegistryError Unit :=
  if profile.resolution.width ≤ point.x ∨ profile.resolution.height ≤ point.y then
    .error (.outside label point profile.resolution)
  else .ok ()

def parsePointArg (value label : String) : Except RegistryError Point :=
  match (splitOn ',' value.toList).map (trimChars rustBlank) with
  | [x, y] =>
    if x = [] ∨ y = [] then .error (.pointFormat label)
    else
      match parseUnsigned u32Max (.ofList x) with
      | none => .error (.pointX label)
      | some x =>
        match parseUnsigned u32Max (.ofList y) with
        | none => .error (.pointY label)
        | some y => .ok ⟨x, y⟩
  | _ => .error (.pointFormat label)

/-- The profile is read, changed, checked and written. -/
def editProfile (path : Name) (edit : ControlProfile → Except RegistryError ControlProfile) :
    FileProgram Name (Except RegistryError Unit) := do
  match ← loadValidatedProfile paths path with
  | .error error => return .error error
  | .ok profile =>
    match edit profile with
    | .error error => return .error error
    | .ok edited =>
      match edited.validate with
      | .error errors => return .error (.updatedInvalid (paths.display path) errors)
      | .ok _ => saveProfile paths edited path

/-- `if condition { bail!(error) }` -/
def bailIf (condition : Prop) [Decidable condition] (error : RegistryError) :
    Except RegistryError Unit :=
  if condition then .error error else .ok ()

def pushBinding (profile : ControlProfile) (binding : Binding) : ControlProfile :=
  { profile with bindings := profile.bindings ++ [binding] }

def tapBindingEdit (name key : String) (point : Point) (profile : ControlProfile) :
    Except RegistryError ControlProfile := do
  ensureBindingNameAvailable profile name
  ensurePointInBounds profile point "tap point"
  return pushBinding profile ⟨name, .key (Interactive.normalizeKey paths.lower key), .tap point⟩

def swipeBindingEdit (name key start target : String) (durationMs : ℕ) (profile : ControlProfile) :
    Except RegistryError ControlProfile := do
  ensureBindingNameAvailable profile name
  let start ← parsePointArg start "--from"
  let target ← parsePointArg target "--to"
  bailIf (durationMs = 0) .zeroSwipeDuration
  ensurePointInBounds profile start "--from point"
  ensurePointInBounds profile target "--to point"
  return pushBinding profile
    ⟨name, .key (Interactive.normalizeKey paths.lower key), .swipe start target durationMs⟩

def joystickBindingEdit (name up left down right center : String)
    (radius tickMs swipeDurationMs : ℕ) (profile : ControlProfile) :
    Except RegistryError ControlProfile := do
  ensureBindingNameAvailable profile name
  let center ← parsePointArg center "--center"
  bailIf ([up, left, down, right].any fun key => trim rustBlank key = "") .emptyDirection
  bailIf (radius = 0) .zeroRadius
  bailIf (tickMs = 0) .zeroTick
  bailIf (swipeDurationMs = 0) .zeroJoystickDuration
  ensurePointInBounds profile center "--center point"
  let normalize := Interactive.normalizeKey paths.lower
  return pushBinding profile
    ⟨name, .keyCluster (normalize up) (normalize left) (normalize down) (normalize right),
      .virtualJoystick center radius tickMs swipeDurationMs⟩

def removeBindingEdit (name : String) (profile : ControlProfile) :
    Except RegistryError ControlProfile :=
  match profile.bindings.findIdx? (·.name = name) with
  | none => .error (.bindingNotFound name)
  | some index => .ok { profile with bindings := profile.bindings.eraseIdx index }

def addTapBinding (path : Name) (name key : String) (x y : ℕ) :
    FileProgram Name (Except RegistryError Unit) :=
  editProfile paths path (tapBindingEdit paths name key ⟨x, y⟩)

def addSwipeBinding (path : Name) (name key start target : String) (durationMs : ℕ) :
    FileProgram Name (Except RegistryError Unit) :=
  editProfile paths path (swipeBindingEdit paths name key start target durationMs)

def addJoystickBinding (path : Name) (name up left down right center : String)
    (radius tickMs swipeDurationMs : ℕ) : FileProgram Name (Except RegistryError Unit) :=
  editProfile paths path
    (joystickBindingEdit paths name up left down right center radius tickMs swipeDurationMs)

def removeBinding (path : Name) (name : String) : FileProgram Name (Except RegistryError Unit) :=
  editProfile paths path (removeBindingEdit name)

/-! ### The registry -/

def ensureRegistryProfileExists (id : String) (path : Name) :
    FileProgram Name (Except RegistryError Unit) := do
  if ← FileOp.call (.present path) then return .ok ()
  else return .error (.notRegistered id (paths.display path))

def importProfileToRegistry (source : Name) (profileId : Option String) (force : Bool) :
    FileProgram Name (Except RegistryError Unit) := do
  match ← loadValidatedProfile paths source with
  | .error error => return .error error
  | .ok profile =>
    match registryProfileFilePath paths (profileId.getD profile.packageName) with
    | .error error => return .error error
    | .ok target =>
      match ← ensureOverwritable paths target force with
      | .error error => return .error error
      | .ok _ => saveProfile paths profile target

def createCurrentProfileInRegistry (screen : Except RegistryError Resolution)
    (name packageName : String) (profileId : Option String) (force : Bool) :
    FileProgram Name (Except RegistryError Unit) := do
  match registryProfileFilePath paths (profileId.getD packageName) with
  | .error error => return .error error
  | .ok target =>
    match ← ensureOverwritable paths target force with
    | .error error => return .error error
    | .ok _ =>
      match screen with
      | .error error => return .error error
      | .ok resolution =>
        match newEmptyControlProfile name packageName resolution with
        | .error error => return .error error
        | .ok profile => saveProfile paths profile target

def exportProfileFromRegistry (id : String) (output : Name) (force : Bool) :
    FileProgram Name (Except RegistryError Unit) := do
  match registryProfileFilePath paths id with
  | .error error => return .error error
  | .ok source =>
    match ← ensureRegistryProfileExists paths id source with
    | .error error => return .error error
    | .ok _ =>
      match ← ensureOverwritable paths output force with
      | .error error => return .error error
      | .ok _ => copyProfileJson paths source output

def removeProfileFromRegistry (id : String) : FileProgram Name (Except RegistryError Unit) := do
  match registryProfileFilePath paths id with
  | .error error => return .error error
  | .ok path =>
    match ← ensureRegistryProfileExists paths id path with
    | .error error => return .error error
    | .ok _ =>
      match ← FileOp.call (.remove path) with
      | .error error => return .error (.removeFailed (paths.display path) error)
      | .ok _ => return .ok ()

/-- Nothing is registered under the identifier. -/
def ensureFree (id : String) (path : Name) : FileProgram Name (Except RegistryError Unit) := do
  if ← FileOp.call (.present path) then return .error (.idTaken id (paths.display path))
  else return .ok ()

def renameProfileInRegistry (old new : String) : FileProgram Name (Except RegistryError Unit) := do
  match registryProfileFilePath paths old with
  | .error error => return .error error
  | .ok oldPath =>
    match registryProfileFilePath paths new with
    | .error error => return .error error
    | .ok newPath =>
      match ← ensureRegistryProfileExists paths old oldPath with
      | .error error => return .error error
      | .ok _ =>
        match ← ensureFree paths new newPath with
        | .error error => return .error error
        | .ok _ =>
          match ← FileOp.call (.rename oldPath newPath) with
          | .error error =>
            return .error (.renameFailed (paths.display oldPath) (paths.display newPath) error)
          | .ok _ => return .ok ()

def duplicateProfileInRegistry (source target : String) :
    FileProgram Name (Except RegistryError Unit) := do
  match registryProfileFilePath paths source with
  | .error error => return .error error
  | .ok sourcePath =>
    match registryProfileFilePath paths target with
    | .error error => return .error error
    | .ok targetPath =>
      match ← ensureRegistryProfileExists paths source sourcePath with
      | .error error => return .error error
      | .ok _ =>
        match ← ensureFree paths target targetPath with
        | .error error => return .error error
        | .ok _ => copyProfileJson paths sourcePath targetPath

/-! ### All commands -/

inductive ProfileCommand (Name : Type)
  | create (path : Name) (name packageName : String) (resolution : Resolution) (force : Bool)
  | createFromScreen (screen : Except RegistryError Resolution) (path : Name)
      (name packageName : String) (force : Bool)
  | addTap (path : Name) (name key : String) (x y : ℕ)
  | addSwipe (path : Name) (name key start target : String) (durationMs : ℕ)
  | addJoystick (path : Name) (name up left down right center : String)
      (radius tickMs swipeDurationMs : ℕ)
  | removeBinding (path : Name) (name : String)
  | importProfile (source : Name) (profileId : Option String) (force : Bool)
  | createInRegistry (screen : Except RegistryError Resolution) (name packageName : String)
      (profileId : Option String) (force : Bool)
  | exportProfile (id : String) (output : Name) (force : Bool)
  | removeProfile (id : String)
  | renameProfile (old new : String)
  | duplicateProfile (source target : String)

def ProfileCommand.program : ProfileCommand Name → FileProgram Name (Except RegistryError Unit)
  | .create path name packageName resolution force =>
    createProfile paths path name packageName resolution force
  | .createFromScreen screen path name packageName force =>
    createProfileFromCurrentScreen paths screen path name packageName force
  | .addTap path name key x y => addTapBinding paths path name key x y
  | .addSwipe path name key start target durationMs =>
    addSwipeBinding paths path name key start target durationMs
  | .addJoystick path name up left down right center radius tickMs swipeDurationMs =>
    addJoystickBinding paths path name up left down right center radius tickMs swipeDurationMs
  | .removeBinding path name => Wroid.removeBinding paths path name
  | .importProfile source profileId force => importProfileToRegistry paths source profileId force
  | .createInRegistry screen name packageName profileId force =>
    createCurrentProfileInRegistry paths screen name packageName profileId force
  | .exportProfile id output force => exportProfileFromRegistry paths id output force
  | .removeProfile id => removeProfileFromRegistry paths id
  | .renameProfile old new => renameProfileInRegistry paths old new
  | .duplicateProfile source target => duplicateProfileInRegistry paths source target

end Wroid
