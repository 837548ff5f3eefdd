import Wroid.Core.Save

/-!
# The saves of the profile editor

`PUT /api/profile` of `editor.rs`.  The editor serves each connection on a thread of its own.  All
threads save the same profile, and all of them belong to one process: they share the temporary
file next to the profile, and the one next to the backup of the previous profile.

The routing and the authorisation of the requests are left out, and so are the other files next to
the backup.

## Main definitions

* `EditorFiles`, `EditorOp` — the two directories, and what is done in them.
* `saveProfileWithBackup`, `putProfile` — the text of a request.
* `profileEditor` — the requests of one editor.
-/

namespace Wroid

open Lib

/-! ### Directories -/

/-- The file to be saved, and the temporary file next to it. -/
inductive SaveName
  | published
  | temporary
  deriving DecidableEq

/-- The directory of the profile, and the one of its backup. -/
structure EditorFiles where
  main : Files SaveName
  assets : Files SaveName

inductive EditorOp
  | main (op : FileOp SaveName)
  | assets (op : FileOp SaveName)

@[reducible] def EditorOp.Answer : EditorOp → Type
  | .main op | .assets op => op.Answer

def EditorOp.Exec (pid : ℕ) (files : EditorFiles) :
    (op : EditorOp) → op.Answer → EditorFiles → Prop
  | .main op, answer, files' =>
    FileOp.Exec pid files.main op answer files'.main ∧ files'.assets = files.assets
  | .assets op, answer, files' =>
    FileOp.Exec pid files.assets op answer files'.assets ∧ files'.main = files.main

abbrev EditorProgram := Program EditorOp EditorOp.Answer

def inMain {α : Type} (program : FileProgram SaveName α) : EditorProgram α :=
  program.embed .main fun _ answer => answer

def inAssets {α : Type} (program : FileProgram SaveName α) : EditorProgram α :=
  program.embed .assets fun _ answer => answer

/-! ### Texts -/

def MAX_PROFILE_BYTES : ℕ := 2 * 1024 * 1024

/-- The response to a save. -/
inductive SaveReply
  | refused (status : ℕ) (error : String)
  | invalid (errors : List String)
  | saved (message : String) (changed backupAvailable : Bool)
  deriving DecidableEq

section Texts

variable (codec : ProfileCodec) (path assets backup : String)

/-- Save the document, and keep the previous one; says whether there was anything to save. -/
def saveProfileWithBackup (document : ProfileDocument) : EditorProgram (Except String Bool) := do
  match ← inMain (loadFromPath codec .published) with
  | .error _ => return .error s!"failed to read current profile {path}"
  | .ok current =>
    match current.validate with
    | .error errors =>
      let reasons := String.intercalate "; " errors
      return .error s!"current profile cannot be retained before saving: {reasons}"
    | .ok _ =>
      if current = document then return .ok false
      match ← inAssets (FileOp.call .createDirectory) with
      | .error _ => return .error s!"failed to create profile asset directory {assets}"
      | .ok _ =>
        match ← inAssets (current.saveToPath codec .temporary .published) with
        | .error _ => return .error s!"failed to retain previous profile {backup}"
        | .ok _ =>
          match ← inMain (document.saveToPath codec .temporary .published) with
          | .error _ => return .error s!"failed to save profile {path}"
          | .ok _ => return .ok true

def putProfile (body : List UInt8) : EditorProgram SaveReply := do
  if MAX_PROFILE_BYTES < body.length then return .refused 413 "profile document is too large"
  match codec.fromBytes body with
  | .error error => return .refused 422 s!"invalid JSON: {error}"
  | .ok document =>
    match document.validate with
    | .error errors => return .invalid errors
    | .ok _ =>
      match ← saveProfileWithBackup codec path assets backup document with
      | .error error => return .refused 500 error
      | .ok changed =>
        let backupAvailable ← inAssets (FileOp.call (.present .published))
        return .saved (if changed then "Profile saved" else "Profile unchanged") changed
          backupAvailable

end Texts

/-! ### The system -/

/-- The kind of a request is its body. -/
abbrev EditorConfig := Config (List UInt8) EditorFiles EditorOp EditorOp.Answer SaveReply

abbrev EditorEvent := Event (List UInt8) EditorFiles EditorOp.Answer

/-- Requests arrive at any time, with any body. -/
def profileEditor (codec : ProfileCodec) (path assets backup : String) :
    System (List UInt8) EditorFiles EditorOp EditorOp.Answer SaveReply where
  Exec := EditorOp.Exec
  starts _ _ := none
  Arrives process :=
    ∃ body, process = ⟨body, some (putProfile codec path assets backup body)⟩
  Dies _ _ _ := False
  Drifts _ _ := False

/-- The editor has been opened on a profile with these bytes.  The temporary file may be there,
from a save that failed. -/
structure EditorFiles.Opened (files : EditorFiles) (original : List UInt8) : Prop where
  bounded : ∀ name file, files.main.entry name = some file → file < files.main.next
  sole : files.main.Sole .temporary
  content : files.main.content .published = some original

/-- No request has arrived yet. -/
def EditorFiles.idle (files : EditorFiles) : EditorConfig := ⟨files, fun _ => none, []⟩

end Wroid
