import Wroid.Lib.JsonPretty
import Wroid.Lib.Faults
import Wroid.Desktop.LastSession

/-!
# Preferences

The preferences of the user are one file that every hub and every session looks at.  An update
reads it, changes some fields and replaces it: it holds the lock of another file meanwhile, and
the new text goes to a temporary file, which is renamed.  Who only reads takes no lock.

An error is given by its outermost message, as the hub shows it.

## Main definitions

* `UserPreferences`, `PreferencesPatch` — the preferences, and a change of some of them.
* `preferencesText`, `decodePreferences` — the text of the file, and how it is read.
* `patchOf` — the patch in the body of a request.
* `loadFromPath`, `updateAtPath`, `updateDefault` — the texts of the operations.
* `preferences` — any number of readers and updates at the same time.

## Main results

* `decodePreferences_text` — preferences are read as they were written.
-/

namespace Wroid.Preferences

open Lib
open LastSession (isControl readIfSome)
open BridgeBroker (optionalField stringOf)

def PREFERENCES_SCHEMA_VERSION : ℕ := 1
def DEFAULT_RESOLUTION : String := "1600x900"
def MAX_DEVICE_PATH_BYTES : ℕ := 4096

/-! ### Preferences -/

structure UserPreferences where
  schemaVersion : ℕ
  resolution : String
  keyboard : Option String
  mouse : Option String
  gameMode : Bool
  deriving DecidableEq, Repr

def defaultGameMode : Bool := true

instance : Inhabited UserPreferences :=
  ⟨⟨PREFERENCES_SCHEMA_VERSION, DEFAULT_RESOLUTION, none, none, defaultGameMode⟩⟩

/-- The fields that change.  A device may change to none. -/
structure PreferencesPatch where
  resolution : Option String
  keyboard : Option (Option String)
  mouse : Option (Option String)
  gameMode : Option Bool
  deriving DecidableEq, Repr

def PreferencesPatch.apply (patch : PreferencesPatch) (preferences : UserPreferences) :
    UserPreferences :=
  { preferences with
    resolution := patch.resolution.getD preferences.resolution
    keyboard := patch.keyboard.getD preferences.keyboard
    mouse := patch.mouse.getD preferences.mouse
    gameMode := patch.gameMode.getD preferences.gameMode }

def validateDevicePath (kind : String) : Option String → Except String Unit
  | none => .ok ()
  | some path =>
    if utf8Size path.toList > MAX_DEVICE_PATH_BYTES ∨ ¬ "/dev/input/".toList <+: path.toList ∨
        path.toList.any isControl then
      .error s!"invalid saved {kind} device path"
    else .ok ()

def validate (preferences : UserPreferences) : Except String Unit :=
  if preferences.schemaVersion ≠ PREFERENCES_SCHEMA_VERSION then
    .error s!"preferences schemaVersion must be {PREFERENCES_SCHEMA_VERSION}, got {preferences.schemaVersion}"
  else if preferences.resolution ∉ ["1280x720", "1600x900", "1920x1080"] then
    .error s!"unsupported session resolution {preferences.resolution}"
  else do
    validateDevicePath "keyboard" preferences.keyboard
    validateDevicePath "mouse" preferences.mouse

/-! ### The text of the file -/

def jsonOption : Option String → List Char
  | none => jsonNull
  | some text => jsonString text

/-- The fields before the last one. -/
def preferencesFields (preferences : UserPreferences) : List (String × List Char) :=
  [("schemaVersion", jsonNat preferences.schemaVersion),
    ("resolution", jsonString preferences.resolution),
    ("keyboard", jsonOption preferences.keyboard), ("mouse", jsonOption preferences.mouse)]

def preferencesText (preferences : UserPreferences) : List UInt8 :=
  utf8Bytes (prettyObject (preferencesFields preferences ++
    [("gameMode", jsonBool preferences.gameMode)]) ++ ['\n'])

def unsigned16 : Json → Option ℕ
  | .number literal => parseUnsigned 65535 (.ofList literal)
  | _ => none

def boolOf : Json → Option Bool
  | .bool b => some b
  | _ => none

/-- A value that has a default. -/
def readOr {α : Type} (default : α) (read : Json → Option α) : Option Json → Option α
  | none => some default
  | some value => read value

/-- The preferences in the values of the fields, of which some may be missing. -/
def preferencesFrom (schemaVersion resolution keyboard mouse gameMode : Option Json) :
    Option UserPreferences := do
  let schemaVersion ← readOr PREFERENCES_SCHEMA_VERSION unsigned16 schemaVersion
  let resolution ← readOr DEFAULT_RESOLUTION stringOf resolution
  let keyboard ← readIfSome stringOf keyboard
  let mouse ← readIfSome stringOf mouse
  let gameMode ← readOr defaultGameMode boolOf gameMode
  return { schemaVersion, resolution, keyboard, mouse, gameMode }

/-- The preferences in a value: an object without other fields, or the values in their order. -/
def preferencesOf : Json → Option UserPreferences
  | .object fields => do
    if ∃ field ∈ fields, field.1 ∉
        ["schemaVersion", "resolution", "keyboard", "mouse", "gameMode"] then none
    else
      let schemaVersion ← optionalField "schemaVersion" fields
      let resolution ← optionalField "resolution" fields
      let keyboard ← optionalField "keyboard" fields
      let mouse ← optionalField "mouse" fields
      let gameMode ← optionalField "gameMode" fields
      preferencesFrom schemaVersion resolution keyboard mouse gameMode
  | .array items =>
    if items.length > 5 then none
    else preferencesFrom items[0]? items[1]? items[2]? items[3]? items[4]?
  | _ => none

def decodePreferences (bytes : List UInt8) : Option UserPreferences :=
  (String.fromUTF8? bytes.toByteArray).bind fun text => (parseJson text.toList).bind preferencesOf

/-- **Preferences are read as they were written.** -/
theorem decodePreferences_text {preferences : UserPreferences}
    (h : preferences.schemaVersion ≤ 65535) :
    decodePreferences (preferencesText preferences) = some preferences := by
  have hoption (text : Option String) : ∃ value, Reads 1 (jsonOption text) value ∧
      readIfSome stringOf (some value) = some text := by
    cases text with
    | none => exact ⟨.null, ReadsAlone.null.reads, rfl⟩
    | some text => exact ⟨.string text, Reads.string text, rfl⟩
  obtain ⟨keyboard, hkeyboard, hkeyboardRead⟩ := hoption preferences.keyboard
  obtain ⟨mouse, hmouse, hmouseRead⟩ := hoption preferences.mouse
  have hfields : FieldsRead 1 (preferencesFields preferences)
      [("schemaVersion", .number (jsonNat preferences.schemaVersion)),
        ("resolution", .string preferences.resolution), ("keyboard", keyboard), ("mouse", mouse)] := by
    simp [preferencesFields, FieldsRead, Reads.nat, Reads.string, hkeyboard, hmouse]
  have hparse := @parseJson_pretty 1 _ _ hfields "gameMode" _ _
    (ReadsAlone.bool preferences.gameMode) Nat.one_pos (by decide) ['\n'] (by decide)
  have hversion : unsigned16 (.number (jsonNat preferences.schemaVersion)) =
      some preferences.schemaVersion := parseUnsigned_jsonNat h
  rw [decodePreferences, preferencesText, fromUTF8?_utf8Bytes, Option.bind_some, String.toList_ofList,
    hparse, Option.bind_some]
  simp [preferencesOf, preferencesFrom, optionalField, readOr, hversion, stringOf, boolOf,
    hkeyboardRead, hmouseRead]

/-! ### The text of a patch -/

def jsonOf (bytes : List UInt8) : Option Json :=
  (String.fromUTF8? bytes.toByteArray).bind fun text => parseJson text.toList

/-- A device, which `null` stands for none of. -/
def deviceOf (value : Json) : Option (Option String) := readIfSome stringOf (some value)

/-- The patch in the values of the fields.  A field that is `null` is one that is missing. -/
def patchFrom (resolution keyboard mouse gameMode : Option Json) : Option PreferencesPatch := do
  let resolution ← readIfSome stringOf resolution
  let keyboard ← readIfSome deviceOf keyboard
  let mouse ← readIfSome deviceOf mouse
  let gameMode ← readIfSome boolOf gameMode
  return { resolution, keyboard, mouse, gameMode }

def patchOf : Json → Option PreferencesPatch
  | .object fields => do
    if ∃ field ∈ fields, field.1 ∉ ["resolution", "keyboard", "mouse", "gameMode"] then none
    else
      let resolution ← optionalField "resolution" fields
      let keyboard ← optionalField "keyboard" fields
      let mouse ← optionalField "mouse" fields
      let gameMode ← optionalField "gameMode" fields
      patchFrom resolution keyboard mouse gameMode
  | .array [resolution, keyboard, mouse, gameMode] =>
    patchFrom (some resolution) (some keyboard) (some mouse) (some gameMode)
  | _ => none

/-! ### Files -/

/-- A temporary file is named after the process and a number of that process. -/
inductive PreferencesName
  | preferences
  | lock
  | temporary (process : ℕ) (sequence : UInt64)
  deriving DecidableEq

def PreferencesName.path (directory : String) : PreferencesName → String
  | .preferences => s!"{directory}/preferences.json"
  | .lock => s!"{directory}/preferences.lock"
  | .temporary process sequence => s!"{directory}/.preferences-{process}-{sequence}.tmp"

/-- The files, and `TEMP_SEQUENCE` of each process. -/
structure PreferencesFiles where
  files : Files PreferencesName
  sequence : ℕ → UInt64

inductive PreferencesOp
  | file (op : FileOp PreferencesName)
  | nextSequence (process : ℕ)

@[reducible] def PreferencesOp.Answer : PreferencesOp → Type
  | .file op => op.Answer
  | .nextSequence _ => UInt64

/-- The process takes its next number, which comes again after 2⁶⁴ others. -/
def PreferencesFiles.advance (s : PreferencesFiles) (process : ℕ) : PreferencesFiles :=
  { s with sequence := Function.update s.sequence process (s.sequence process + 1) }

def PreferencesOp.Exec (pid : ℕ) (s : PreferencesFiles) :
    (op : PreferencesOp) → op.Answer → PreferencesFiles → Prop
  | .file op, answer, s' =>
    FileOp.Exec pid s.files op answer s'.files ∧ s'.sequence = s.sequence
  | .nextSequence process, sequence, s' =>
    sequence = s.sequence process ∧ s' = s.advance process

abbrev PreferencesProgram := Program PreferencesOp PreferencesOp.Answer

def PreferencesOp.call (op : PreferencesOp) : PreferencesProgram op.Answer := Program.call op

/-! ### Loading and updating -/

section Programs

variable (directory : String)

/-- The preferences in what was read of the file. -/
def loaded : Except FileError (List UInt8) → Except String UserPreferences
  | .error .notFound => .ok default
  | .error _ => .error s!"failed to read preferences {PreferencesName.preferences.path directory}"
  | .ok data =>
    match decodePreferences data with
    | none => .error s!"invalid Wroid preferences {PreferencesName.preferences.path directory}"
    | some preferences =>
      match validate preferences with
      | .error error => .error error
      | .ok _ => .ok preferences

def loadFromPath : PreferencesProgram (Except String UserPreferences) := do
  return loaded directory (← PreferencesOp.call (.file (.read .preferences)))

/-- Write the temporary file and rename it. -/
def replaceWith (temporary : PreferencesName) (preferences : UserPreferences) :
    PreferencesProgram (Except String Unit) := do
  match ← PreferencesOp.call (.file (.createNew temporary)) with
  | .error _ => return .error s!"failed to create {temporary.path directory}"
  | .ok file =>
    match ← PreferencesOp.call (.file (.write file (preferencesText preferences))) with
    | .error error => return .error error.text
    | .ok _ =>
      match ← PreferencesOp.call (.file (.sync file)) with
      | .error error => return .error error.text
      | .ok _ =>
        match ← PreferencesOp.call (.file (.rename temporary .preferences)) with
        | .error _ =>
          return .error s!"failed to replace preferences {PreferencesName.preferences.path directory}"
        | .ok _ =>
          match ← PreferencesOp.call (.file .syncDirectory) with
          | .error error => return .error error.text
          | .ok _ => return .ok ()

def saveAtPath (process : ℕ) (preferences : UserPreferences) :
    PreferencesProgram (Except String Unit) := do
  let sequence ← PreferencesOp.call (.nextSequence process)
  match ← replaceWith directory (.temporary process sequence) preferences with
  | .ok _ => return .ok ()
  | .error error => do
    let _ ← PreferencesOp.call (.file (.remove (.temporary process sequence)))
    return .error error

/-- What is done while the lock is held. -/
def updateLocked (process : ℕ) (patch : PreferencesPatch) :
    PreferencesProgram (Except String UserPreferences) := do
  match ← loadFromPath directory with
  | .error error => return .error error
  | .ok preferences =>
    match validate (patch.apply preferences) with
    | .error error => return .error error
    | .ok _ =>
      match ← saveAtPath directory process (patch.apply preferences) with
      | .error error => return .error error
      | .ok _ => return .ok (patch.apply preferences)

/-- The lock is released when its file is closed, whatever the result. -/
def updateAtPath (process : ℕ) (patch : PreferencesPatch) :
    PreferencesProgram (Except String UserPreferences) := do
  match ← PreferencesOp.call (.file .createDirectory) with
  | .error _ => return .error s!"failed to create preferences directory {directory}"
  | .ok _ =>
    match ← PreferencesOp.call (.file (.touch .lock)) with
    | .error _ => return .error s!"failed to open {PreferencesName.lock.path directory}"
    | .ok _ =>
      match ← PreferencesOp.call (.file (.lock .lock)) with
      | .error _ => return .error s!"failed to lock preferences {PreferencesName.lock.path directory}"
      | .ok _ => do
        let updated ← updateLocked directory process patch
        PreferencesOp.call (.file (.unlock .lock))
        return updated

def updateDefault (process : ℕ) (body : List UInt8) :
    PreferencesProgram (Except String UserPreferences) := do
  match (jsonOf body).bind patchOf with
  | none => return .error "preferences request must be valid JSON"
  | some patch => updateAtPath directory process patch

end Programs

/-! ### The system -/

/-- A thread of a process updates the preferences, or only reads them. -/
inductive PreferencesTask
  | updates (process : ℕ) (patch : PreferencesPatch)
  | loads

def PreferencesTask.text (directory : String) :
    PreferencesTask → PreferencesProgram (Except String UserPreferences)
  | .updates process patch => updateAtPath directory process patch
  | .loads => loadFromPath directory

abbrev PreferencesConfig := Config PreferencesTask PreferencesFiles PreferencesOp
  PreferencesOp.Answer (Except String UserPreferences)

abbrev PreferencesEvent := Event PreferencesTask PreferencesFiles PreferencesOp.Answer

/-- Calls arrive at any time, in any process. -/
def preferences (directory : String) : System PreferencesTask PreferencesFiles PreferencesOp
    PreferencesOp.Answer (Except String UserPreferences) where
  Exec := PreferencesOp.Exec
  starts _ _ := none
  Arrives process := ∃ task : PreferencesTask, process = ⟨task, some (task.text directory)⟩
  Dies _ _ _ := False
  Drifts _ _ := False

/-- The directory at the start: nobody holds the lock.  Any files may be there. -/
structure PreferencesFiles.Opened (s : PreferencesFiles) : Prop where
  bounded : ∀ name file, s.files.entry name = some file → file < s.files.next
  unlocked : s.files.holder .lock = none

/-- No call has been made yet. -/
def PreferencesFiles.idle (s : PreferencesFiles) : PreferencesConfig := ⟨s, fun _ => none, []⟩

end Wroid.Preferences
