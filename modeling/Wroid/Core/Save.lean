import Wroid.Lib.Files
import Wroid.Lib.Json
import Wroid.Core.Validate

/-!
# Profile files

A profile with everything its file has, and `ProfileV2::save_to_path`: the text goes to a
temporary file next to the profile's, which is then renamed.  The temporary file is named after
the profile's file and the number of the process.

The form of the JSON text is not looked at: a codec writes and reads it.

## Main definitions

* `ProfileDocument`, `ProfileCodec` — what a profile file holds, and its text.
* `ProfileDocument.saveToPath`, `loadFromPath` — the texts of the two operations.
-/

namespace Wroid

open Lib

/-! ### Documents -/

namespace ActionV2

mutual

def same : ActionV2 → ActionV2 → Bool
  | .tap point, .tap point' | .hold point, .hold point' => point = point'
  | .virtualJoystick center radius deadZone mode reaffirmMs,
    .virtualJoystick center' radius' deadZone' mode' reaffirmMs' =>
    center = center' && radius = radius' && deadZone = deadZone' && mode = mode' &&
      reaffirmMs = reaffirmMs'
  | .mouseAim region sensitivity toggleKey recenterThreshold recenterGapMs adsMultiplier reaffirmMs,
    .mouseAim region' sensitivity' toggleKey' recenterThreshold' recenterGapMs' adsMultiplier'
      reaffirmMs' =>
    region = region' && sensitivity = sensitivity' && toggleKey = toggleKey' &&
      recenterThreshold = recenterThreshold' && recenterGapMs = recenterGapMs' &&
        adsMultiplier = adsMultiplier' && reaffirmMs = reaffirmMs'
  | .macroSteps steps, .macroSteps steps' => sameSteps steps steps'
  | _, _ => false

def sameSteps : List ActionV2 → List ActionV2 → Bool
  | [], [] => true
  | step :: steps, step' :: steps' => same step step' && sameSteps steps steps'
  | _, _ => false

end

mutual

theorem same_iff (a b : ActionV2) : same a b = true ↔ a = b := by
  cases a with
  | tap point => cases b <;> simp [same]
  | hold point => cases b <;> simp [same]
  | virtualJoystick center radius deadZone mode reaffirmMs =>
    cases b <;> simp [same, and_assoc]
  | mouseAim region sensitivity toggleKey threshold gap multiplier reaffirmMs =>
    cases b <;> simp [same, and_assoc]
  | macroSteps steps =>
    cases b with
    | macroSteps steps' => simpa [same] using sameSteps_iff steps steps'
    | tap | hold | virtualJoystick | mouseAim => simp [same]

theorem sameSteps_iff (steps steps' : List ActionV2) :
    sameSteps steps steps' = true ↔ steps = steps' := by
  cases steps with
  | nil => cases steps' <;> simp [sameSteps]
  | cons step steps =>
    cases steps' with
    | nil => simp [sameSteps]
    | cons step' steps' =>
      rw [sameSteps, Bool.and_eq_true, same_iff step step', sameSteps_iff steps steps',
        List.cons.injEq]

end

instance : DecidableEq ActionV2 := fun a b => decidable_of_iff _ (same_iff a b)

end ActionV2

deriving instance DecidableEq for BindingV2
deriving instance DecidableEq for ProfileV2

inductive Orientation
  | landscape
  | portrait
  | any
  deriving DecidableEq, Repr

/-- A profile with its orientation, which no session looks at. -/
structure ProfileDocument where
  profile : ProfileV2
  orientation : Orientation
  deriving DecidableEq

def ProfileDocument.validate (document : ProfileDocument) : Except (List String) Unit :=
  document.profile.validate

/-- How the text of a profile is written and read. -/
structure ProfileCodec where
  toPretty : ProfileDocument → List UInt8
  fromBytes : List UInt8 → Except String ProfileDocument

/-! ### Saving and loading -/

inductive ProfileSaveError
  | invalidProfile (errors : List String)
  | io (error : FileError)
  deriving DecidableEq

def ProfileSaveError.text : ProfileSaveError → String
  | .invalidProfile errors => s!"{errors.length} validation error(s)"
  | .io error => s!"I/O error: {error.text}"

/-- The error with its causes. -/
def ProfileSaveError.chain : ProfileSaveError → String
  | .invalidProfile errors => s!"{errors.length} validation error(s)"
  | .io error => s!"I/O error: {error.text}: {error.text}"

inductive ProfileLoadError
  | io (error : FileError)
  | json (error : String)
  deriving DecidableEq

section Programs

variable {Name : Type} (codec : ProfileCodec)

/-- The text of the file, with its last line ended. -/
def ProfileCodec.text (document : ProfileDocument) : List UInt8 := codec.toPretty document ++ [10]

/-- The document in what was read. -/
def ProfileCodec.load : Except FileError (List UInt8) → Except ProfileLoadError ProfileDocument
  | .error error => .error (.io error)
  | .ok data =>
    match codec.fromBytes data with
    | .error error => .error (.json error)
    | .ok document => .ok document

@[simp] theorem ProfileCodec.load_ok_iff {bytes : List UInt8} {document : ProfileDocument} :
    codec.load (.ok bytes) = .ok document ↔ codec.fromBytes bytes = .ok document := by
  unfold ProfileCodec.load
  cases h : codec.fromBytes bytes <;> simp [h]

def loadFromPath (path : Name) : FileProgram Name (Except ProfileLoadError ProfileDocument) := do
  return codec.load (← FileOp.call (.read path))

/-- Save the document under the name `path`, by way of the file `temporary`. -/
def ProfileDocument.saveToPath (document : ProfileDocument) (temporary path : Name) :
    FileProgram Name (Except ProfileSaveError Unit) := do
  match document.validate with
  | .error errors => return .error (.invalidProfile errors)
  | .ok _ =>
    match ← FileOp.call (.create temporary) with
    | .error error => return .error (.io error)
    | .ok file =>
      match ← FileOp.call (.write file (codec.text document)) with
      | .error error => return .error (.io error)
      | .ok _ =>
        match ← FileOp.call (.rename temporary path) with
        | .ok _ => return .ok ()
        | .error error => do
          let _ ← FileOp.call (.remove temporary)
          return .error (.io error)

/-- A document is saved by a process alone. -/
theorem solo_saveToPath [DecidableEq Name] {document : ProfileDocument}
    (hvalid : document.validate = .ok ()) (pid : ℕ) (s : Files Name) (temporary path : Name) :
    Solo (FileOp.Exec pid) (document.saveToPath codec temporary path) s (.done (.ok ()))
      (s.published pid temporary (codec.text document) path) := by
  rw [ProfileDocument.saveToPath, hvalid]
  have hcreate : FileOp.Exec pid s (.create temporary) (.ok (s.fileOf temporary))
    (s.create pid temporary) := ⟨rfl, rfl⟩
  have hwrite : FileOp.Exec pid (s.create pid temporary) (.write (s.fileOf temporary)
    (codec.text document)) (.ok ()) (s.prepared pid temporary (codec.text document)) := rfl
  have hrename : FileOp.Exec pid (s.prepared pid temporary (codec.text document))
      (.rename temporary path) (.ok ()) (s.published pid temporary (codec.text document) path) :=
    ⟨Files.entry_prepared _ _ _ _, rfl⟩
  exact .perform hcreate (.perform hwrite (.perform hrename (.refl ..)))

end Programs

/-! ### Bare profiles -/

def Orientation.name : Orientation → String
  | .landscape => "landscape"
  | .portrait => "portrait"
  | .any => "any"

def prettyLine (field : String × List Char) : List Char :=
  [' ', ' '] ++ jsonString field.1 ++ [':', ' '] ++ field.2

/-- The text of a profile without layers and bindings. -/
def ProfileDocument.bareText (document : ProfileDocument) : List Char :=
  ['\x7b', '\n'] ++ List.intercalate [',', '\n'] ([
    ("schema_version", jsonNat document.profile.schemaVersion),
    ("name", jsonString document.profile.name),
    ("package_name", jsonString document.profile.packageName),
    ("orientation", jsonString document.orientation.name),
    ("layers", jsonArray []), ("bindings", jsonArray [])].map prettyLine) ++ ['\n', '\x7d']

/-- A profile of a game, with this name. -/
def bareDocument (name : String) : ProfileDocument := ⟨⟨2, name, "com.tencent.ig", [], []⟩, .landscape⟩

def bareBytes (name : String) : List UInt8 := utf8Bytes (bareDocument name).bareText

/-- A codec for these profiles, which have neither layers nor bindings. -/
def ProfileCodec.bare (documents : List ProfileDocument) : ProfileCodec where
  toPretty document := utf8Bytes document.bareText
  fromBytes bytes :=
    match documents.find? fun document => utf8Bytes document.bareText = bytes ∨
        utf8Bytes document.bareText ++ [10] = bytes with
    | some document => .ok document
    | none => .error "expected value at line 1 column 1"

end Wroid
