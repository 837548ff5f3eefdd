import Wroid.Lib.Interleaving
import Wroid.Lib.Json

/-!
# Sideloaded packages

The requests of `hub.rs` on a package that was uploaded: to install it, to discard it and to
read its status, and the worker that installs it.  They run at the same time and in different
processes, and share three files of the ticket: the package, its status and a lock.

Every operation on these files is atomic.  A status is written to a temporary file first, which
nobody else looks at, and then renamed.  The directory, the parsing of the requests and the
form of the responses are left out.

## Main definitions

* `SideloadFiles`, `SideloadOp` — the files of a ticket, and what is done with them.
* `claimApkInstall`, `queueApkInstallWith`, `handleApkDiscard`, `handleApkStatus`,
  `runApkInstallWorkerWith` — the texts of the processes.
* `sideload` — the system of all of them.
-/

namespace Wroid

open Lib

/-! ### Files -/

inductive ApkState
  | inspected
  | queued
  | installing
  | installed
  | failed
  deriving DecidableEq, Repr

def ApkState.name : ApkState → String
  | .inspected => "inspected"
  | .queued => "queued"
  | .installing => "installing"
  | .installed => "installed"
  | .failed => "failed"

structure ApkStatus where
  state : ApkState
  detail : String
  updatedAtUnixMs : ℕ
  deriving DecidableEq, Repr

/-- The files of a ticket.  The lock is empty; `lock` says who created it, which no process can
see. -/
structure SideloadFiles where
  lock : Option ℕ
  status : Option ApkStatus
  artifact : Bool

def SideloadFiles.state (files : SideloadFiles) : Option ApkState := files.status.map ApkStatus.state

def APK_STATUS_BYTES : ℕ := 16 * 1024
def APK_STATUS_DETAIL_BYTES : ℕ := 4 * 1024

/-- The characters that fit into `limit` bytes. -/
def takeBytes : ℕ → List Char → List Char
  | _, [] => []
  | limit, c :: rest => if c.utf8Size ≤ limit then c :: takeBytes (limit - c.utf8Size) rest else []

def boundedApkStatusDetail (detail : String) : String :=
  .ofList (takeBytes APK_STATUS_DETAIL_BYTES detail.toList)

/-- The text of the status file. -/
def ApkStatus.encode (ticket : String) (status : ApkStatus) : List Char :=
  jsonObject [("detail", jsonString status.detail), ("ok", jsonBool (status.state ≠ .failed)),
    ("state", jsonString status.state.name), ("ticket", jsonString ticket),
    ("updatedAtUnixMs", jsonNat status.updatedAtUnixMs)]

/-! ### Operations -/

inductive SideloadOp
  | createLock
  | removeLock
  | inspectArtifact
  | removeArtifact
  | readStatus
  | renameStatus (status : ApkStatus)
  | secureStatus
  | removeStatus
  | clock
  | launchWorker
  /-- The second inspection of the package, and the installer. -/
  | install

/-- Creating and removing say whether the file was absent, or there. -/
@[reducible] def SideloadOp.Answer : SideloadOp → Type
  | .createLock | .removeLock | .inspectArtifact | .removeArtifact | .secureStatus
  | .removeStatus => Bool
  | .readStatus => Option ApkStatus
  | .renameStatus _ => Unit
  | .clock => ℕ
  | .launchWorker | .install => Except String Unit

/-- The effect of an operation of the process `pid`. -/
def SideloadOp.Exec (pid : ℕ) (files : SideloadFiles) :
    (op : SideloadOp) → op.Answer → SideloadFiles → Prop
  | .createLock, created, files' => created = files.lock.isNone ∧
      files' = if files.lock.isNone then { files with lock := some pid } else files
  | .removeLock, removed, files' =>
    removed = files.lock.isSome ∧ files' = { files with lock := none }
  | .inspectArtifact, present, files' => present = files.artifact ∧ files' = files
  | .removeArtifact, removed, files' =>
    removed = files.artifact ∧ files' = { files with artifact := false }
  | .readStatus, status, files' => status = files.status ∧ files' = files
  | .renameStatus status, _, files' => files' = { files with status := some status }
  | .secureStatus, secured, files' => secured = files.status.isSome ∧ files' = files
  | .removeStatus, removed, files' =>
    removed = files.status.isSome ∧ files' = { files with status := none }
  | .clock, _, files' => files' = files
  | .launchWorker, _, files' => files' = files
  | .install, _, files' => files' = files

abbrev SideloadProgram := Program SideloadOp SideloadOp.Answer

def SideloadOp.call (op : SideloadOp) : SideloadProgram op.Answer := Program.call op

open SideloadOp (call)

/-! ### Texts -/

/-- What a process ends with. -/
inductive SideloadReply
  | queued (message : String)
  | discarded (ticket : String)
  | status (status : ApkStatus)
  | installed

section Texts

variable (directory ticket : String)

def readApkInstallStatus : SideloadProgram (Except String ApkStatus) := do
  match ← call .readStatus with
  | some status => return .ok status
  | none => return .error s!"APK sideload ticket {ticket} was not found"

def writeApkInstallStatus (state : ApkState) (detail : String) :
    SideloadProgram (Except String Unit) := do
  let updatedAtUnixMs ← call .clock
  let status : ApkStatus := ⟨state, boundedApkStatusDetail detail, updatedAtUnixMs⟩
  if APK_STATUS_BYTES < utf8Size (status.encode ticket) then
    return .error "APK install status is too large"
  call (.renameStatus status)
  if ← call .secureStatus then return .ok ()
  else return .error s!"failed to write APK install status {directory}/{ticket}.json"

/-- The claim, once the lock is there. -/
def claimLocked : SideloadProgram (Except String Unit) := do
  if ← call .inspectArtifact then
    match ← readApkInstallStatus ticket with
    | .error error => return .error error
    | .ok status =>
      if status.state = .inspected then
        writeApkInstallStatus directory ticket .queued "Install worker queued"
      else return .error "APK sideload ticket is not ready to install"
  else return .error s!"APK sideload ticket {ticket} was not found"

def claimApkInstall : SideloadProgram (Except String Unit) := do
  if ← call .createLock then
    match ← claimLocked directory ticket with
    | .ok _ => return .ok ()
    | .error error => do
      let _ ← call .removeLock
      return .error error
  else return .error s!"APK sideload ticket {ticket} is already installing"

/-- A worker that cannot be launched gives the package back. -/
def queueApkInstallWith : SideloadProgram (Except String Unit) := do
  match ← claimApkInstall directory ticket with
  | .error error => return .error error
  | .ok _ =>
    match ← call .launchWorker with
    | .ok _ => return .ok ()
    | .error error => do
      let _ ← call .removeLock
      match ← writeApkInstallStatus directory ticket .inspected
          "Install worker could not start; package remains ready" with
      | .ok _ => return .error error
      | .error writeError => return .error writeError

def handleApkInstall : SideloadProgram (Except String SideloadReply) := do
  match ← queueApkInstallWith directory ticket with
  | .ok _ => return .ok (.queued "APK install queued; Waydroid will start automatically")
  | .error error => return .error error

/-- The discarding, once the lock is there. -/
def discardLocked : SideloadProgram (Except String Unit) := do
  match ← readApkInstallStatus ticket with
  | .error error => return .error error
  | .ok status =>
    if status.state = .queued ∨ status.state = .installing then
      return .error "APK installation is already in progress"
    else if status.state ≠ .inspected then
      return .error "APK sideload ticket is no longer discardable"
    else if ← call .removeArtifact then
      if ← call .removeStatus then return .ok ()
      else return .error "No such file or directory (os error 2)"
    else return .error s!"APK sideload ticket {ticket} was not found"

def handleApkDiscard : SideloadProgram (Except String SideloadReply) := do
  if ← call .createLock then
    let discarded ← discardLocked ticket
    let unlocked ← call .removeLock
    match discarded with
    | .error error => return .error error
    | .ok _ =>
      if unlocked then return .ok (.discarded ticket)
      else return .error "failed to release discard lock"
  else return .error s!"APK sideload ticket {ticket} is already installing"

def handleApkStatus : SideloadProgram (Except String SideloadReply) := do
  match ← readApkInstallStatus ticket with
  | .ok status => return .ok (.status status)
  | .error error => return .error error

/-- The worker removes the lock before it writes how the installation ended. -/
def runApkInstallWorkerWith : SideloadProgram (Except String SideloadReply) := do
  if ← call .inspectArtifact then
    match ← writeApkInstallStatus directory ticket .installing "Installing into Waydroid" with
    | .error error => return .error error
    | .ok _ =>
      let result ← call .install
      let _ ← call .removeArtifact
      let _ ← call .removeLock
      match result with
      | .ok _ =>
        match ← writeApkInstallStatus directory ticket .installed "Installed APK into Waydroid" with
        | .ok _ => return .ok .installed
        | .error error => return .error error
      | .error detail =>
        match ← writeApkInstallStatus directory ticket .failed detail with
        | .ok _ => return .error detail
        | .error error => return .error error
  else return .error s!"APK sideload ticket {ticket} was not found"

end Texts

/-! ### The system -/

inductive SideloadTask
  | install
  | discard
  | status
  | worker
  deriving DecidableEq

abbrev SideloadProcess :=
  Process SideloadTask SideloadOp SideloadOp.Answer (Except String SideloadReply)

abbrev SideloadConfig :=
  Config SideloadTask SideloadFiles SideloadOp SideloadOp.Answer (Except String SideloadReply)

abbrev SideloadEvent := Event SideloadTask SideloadFiles SideloadOp.Answer

/-- Requests arrive at any time, and any process may be killed. -/
def sideload (directory ticket : String) : System SideloadTask SideloadFiles SideloadOp
    SideloadOp.Answer (Except String SideloadReply) where
  Exec := SideloadOp.Exec
  starts
    | .launchWorker, .ok _ => some ⟨.worker, some (runApkInstallWorkerWith directory ticket)⟩
    | _, _ => none
  Arrives process :=
    process = ⟨.install, some (handleApkInstall directory ticket)⟩ ∨
      process = ⟨.discard, some (handleApkDiscard ticket)⟩ ∨
        process = ⟨.status, some (handleApkStatus ticket)⟩
  Dies _ files files' := files' = files
  Drifts _ _ := False

/-- The package was uploaded and inspected. -/
def uploaded (detail : String) (now : ℕ) : SideloadConfig :=
  ⟨⟨none, some ⟨.inspected, detail, now⟩, true⟩, fun _ => none, []⟩

end Wroid
