import Wroid.Lib.Interleaving
import Wroid.Lib.Text

/-!
# Restoring the desktop session

A launcher stops the Waydroid session of the desktop while a game runs, and starts it again
afterwards.  In case the launcher dies, a detached watchdog does it.  The two share a ticket:
a file that says that the session is still to be restored, and whether the launcher has begun
to do so.

`launch_v2.rs`: `run_with_desktop_restoration` over any `DesktopSessionControl`, and
`restore_desktop_session`.  The loops of the watchdog have fuel, and without fuel they stand
still.  Messages for the user and the check of the ticket's name are left out.

## Main definitions

* `DesktopFiles`, `DesktopOp` — the ticket, and what is done with it and with the session.
* `runWithDesktopRestoration`, `RestoreWatchdog.arm`, `beginRestore`, `disarm` — the launcher.
* `restoreDesktopSession`, `watchdogAction` — the watchdog.
* `restoration` — the system of both.
-/

namespace Wroid

open Lib

/-! ### Operations -/

/-- The text of the ticket, and whether the launcher is there. -/
structure DesktopFiles where
  ticket : Option String
  parentAlive : Bool

inductive DesktopOp
  | isRunning
  | stop
  | start
  /-- The closure that plays the game. -/
  | game
  /-- The name of the ticket, its directory and the empty file. -/
  | createTicket
  | writeTicket (text : String)
  /-- Open the ticket and empty it. -/
  | truncateTicket
  | removeTicket
  | currentExe
  | spawnWatchdog
  | ticketExists
  | parentExists
  | readTicket
  | status
  /-- What a loop without fuel waits for. -/
  | stall

/-- Reading and removing say whether the ticket was there. -/
@[reducible] def DesktopOp.Answer (T : Type) : DesktopOp → Type
  | .isRunning => Except String Bool
  | .stop | .start | .createTicket | .writeTicket _ | .truncateTicket | .currentExe
  | .spawnWatchdog => Except String Unit
  | .game => Except String T
  | .removeTicket => Except String Bool
  | .ticketExists | .parentExists => Bool
  | .readTicket => Except String (Option String)
  | .status => Except String String
  | .stall => Empty

/-- The effect of an operation.  Whatever can fail may fail at any time; a process that is gone
may still be listed, or another have its number. -/
def DesktopOp.Exec {T : Type} (files : DesktopFiles) :
    (op : DesktopOp) → op.Answer T → DesktopFiles → Prop
  | .isRunning, _, files' | .stop, _, files' | .start, _, files' | .game, _, files'
  | .currentExe, _, files' | .spawnWatchdog, _, files' | .status, _, files' => files' = files
  | .createTicket, .ok _, files' => files.ticket = none ∧ files' = { files with ticket := some "" }
  | .createTicket, .error _, files' => files' = files
  | .writeTicket text, .ok _, files' =>
    files' = { files with ticket := files.ticket.map fun _ => text }
  | .writeTicket _, .error _, files' =>
    ∃ part, files' = { files with ticket := files.ticket.map fun _ => part }
  | .truncateTicket, .ok _, files' => files.ticket.isSome ∧ files' = { files with ticket := some "" }
  | .truncateTicket, .error _, files' => files' = files
  | .removeTicket, .ok removed, files' =>
    removed = files.ticket.isSome ∧ files' = { files with ticket := none }
  | .removeTicket, .error _, files' => files' = files
  | .ticketExists, there, files' => there = files.ticket.isSome ∧ files' = files
  | .parentExists, alive, files' => (alive = false → files.parentAlive = false) ∧ files' = files
  | .readTicket, .ok text, files' => text = files.ticket ∧ files' = files
  | .readTicket, .error _, files' => files' = files
  | .stall, never, _ => never.elim

/-! ### The launcher -/

section Texts

variable {T : Type}

abbrev DesktopProgram (T : Type) := Program DesktopOp (DesktopOp.Answer T)

def DesktopOp.call (op : DesktopOp) : DesktopProgram T (op.Answer T) := Program.call op

open DesktopOp (call)

variable (ticketPath : String)

namespace RestoreWatchdog

def arm : DesktopProgram T (Except String Unit) := do
  match ← call .createTicket with
  | .error error => return .error s!"failed to create lifecycle ticket {ticketPath}: {error}"
  | .ok _ =>
    match ← call (.writeTicket "armed\n") with
    | .error error => do
      let _ ← call .removeTicket
      return .error s!"failed to initialize the lifecycle ticket: {error}"
    | .ok _ =>
      match ← call .currentExe with
      | .error error => return .error s!"failed to locate the wroid executable: {error}"
      | .ok _ =>
        match ← call .spawnWatchdog with
        | .error error => do
          let _ ← call .removeTicket
          return .error s!"failed to start the Waydroid lifecycle watchdog: {error}"
        | .ok _ => return .ok ()

def beginRestore : DesktopProgram T (Except String Unit) := do
  match ← call .truncateTicket with
  | .error error => return .error s!"failed to update lifecycle ticket {ticketPath}: {error}"
  | .ok _ =>
    match ← call (.writeTicket "restoring\n") with
    | .error error => return .error s!"failed to persist the lifecycle restore phase: {error}"
    | .ok _ => return .ok ()

/-- A ticket that is not there needs no disarming. -/
def disarm : DesktopProgram T (Except String Unit) := do
  match ← call .removeTicket with
  | .ok _ => return .ok ()
  | .error error => return .error s!"failed to disarm lifecycle ticket {ticketPath}: {error}"

end RestoreWatchdog

/-- A phase that cannot be written is only warned about. -/
def markWatchdogRestoring (watchdog : Bool) : DesktopProgram T Unit := do
  if watchdog then
    let _ ← RestoreWatchdog.beginRestore ticketPath
    return ()
  else return ()

def combineLifecycleErrors (context primary : String) : Option String → String
  | some secondary => s!"{context}: {primary}\nRestore also failed: {secondary}"
  | none => s!"{context}: {primary}"

/-- Arm a watchdog, if the session is to be restored and the control has watchdogs. -/
def armIf (arms restore : Bool) : DesktopProgram T (Except String Bool) := do
  if restore && arms then
    match ← RestoreWatchdog.arm ticketPath with
    | .ok _ => return .ok true
    | .error error => return .error error
  else return .ok false

/-- Start the session again, if it is to be restored. -/
def restoreIf (restore watchdog : Bool) : DesktopProgram T (Except String Unit) := do
  if restore then
    markWatchdogRestoring ticketPath watchdog
    call .start
  else return .ok ()

def disarmIf (watchdog : Bool) : DesktopProgram T (Except String Unit) := do
  if watchdog then RestoreWatchdog.disarm ticketPath else return .ok ()

def stopContext : String := "failed to stop desktop Waydroid"

def stopOutcome (lifecycleError : String) (disarmResult : Except String Unit) : String :=
  match disarmResult with
  | .ok _ => lifecycleError
  | .error disarmError =>
    s!"{lifecycleError}\nAdditionally, the lifecycle watchdog could not be disarmed: {disarmError}"

/-- The session could not be stopped. -/
def stopFailed (restore watchdog : Bool) (stopError : String) : DesktopProgram T (Except String T) := do
  match ← restoreIf ticketPath restore watchdog with
  | .error restoreError =>
    return .error (combineLifecycleErrors stopContext stopError (some restoreError))
  | .ok _ =>
    let disarmResult ← disarmIf ticketPath watchdog
    return .error (stopOutcome (combineLifecycleErrors stopContext stopError none) disarmResult)

def restoreOutcome (runResult : Except String T) (restoreResult : Except String Unit) :
    Except String T :=
  match runResult, restoreResult with
  | .ok value, .ok _ => .ok value
  | .error gameError, .ok _ => .error gameError
  | .ok _, .error restoreError =>
    .error s!"game session ended, but desktop Waydroid could not be restored: {restoreError}"
  | .error gameError, .error restoreError =>
    .error s!"{gameError}\nAdditionally, desktop Waydroid restore failed: {restoreError}"

def disarmOutcome (outcome : Except String T) (disarmResult : Except String Unit) : Except String T :=
  match outcome, disarmResult with
  | .ok value, .ok _ => .ok value
  | .error error, .ok _ => .error error
  | .ok _, .error disarmError => .error
      s!"desktop Waydroid was restored, but its recovery ticket remains armed: {disarmError}"
  | .error error, .error disarmError => .error
      s!"{error}\nAdditionally, the lifecycle watchdog could not be disarmed: {disarmError}"

/-- The session was stopped. -/
def playAndRestore (restore watchdog : Bool) : DesktopProgram T (Except String T) := do
  let runResult ← call .game
  let restoreResult ← restoreIf ticketPath restore watchdog
  let disarmResult ← disarmIf ticketPath (watchdog && restoreResult.toBool)
  return disarmOutcome (restoreOutcome runResult restoreResult) disarmResult

/-- `arms` says whether the control has watchdogs at all. -/
def runWithDesktopRestoration (arms : Bool) : DesktopProgram T (Except String T) := do
  match ← call .isRunning with
  | .error error => return .error error
  | .ok restore =>
    match ← armIf ticketPath arms restore with
    | .error error => return .error error
    | .ok watchdog =>
      match ← call .stop with
      | .error stopError => stopFailed ticketPath restore watchdog stopError
      | .ok _ => playAndRestore ticketPath restore watchdog

/-! ### The watchdog -/

inductive WatchdogAction
  | wait
  | complete
  | restore
  deriving DecidableEq, Repr

def watchdogAction (phase : String) (sessionRunning : Bool) : WatchdogAction :=
  if !sessionRunning then .restore else if phase = "restoring" then .complete else .wait

/-- The value of a line of the form `name: value`. -/
def lineValue (name line : String) : Option String :=
  match line.toList.span (· ≠ ':') with
  | (found, ':' :: value) =>
    if trim rustBlank (.ofList found) = name then some (trim rustBlank (.ofList value)) else none
  | _ => none

def sessionIsRunning (status : String) : Bool :=
  (status.splitOn "\n").any fun line => lineValue "Session" line = some "RUNNING"

def removeRestoreTicket : DesktopProgram T (Except String Unit) := do
  match ← call .removeTicket with
  | .ok _ => return .ok ()
  | .error error => return .error s!"failed to remove lifecycle ticket {ticketPath}: {error}"

def stalled {α : Type} : DesktopProgram T α := do
  let never ← call .stall
  never.elim

/-- Wait until the ticket or the launcher is gone. -/
def watchParent : ℕ → DesktopProgram T Unit
  | 0 => stalled
  | fuel + 1 => do
    if ← call .ticketExists then
      if ← call .parentExists then watchParent fuel else return ()
    else return ()

def phaseOf (read : Except String (Option String)) : String :=
  match read with
  | .ok (some text) => text
  | _ => "armed"

/-- One look at the session: what the watchdog ends with, if it does. -/
def watchOnce : DesktopProgram T (Option (Except String Unit)) := do
  let phase := phaseOf (← call .readTicket)
  match ← call .status with
  | .error _ => return none
  | .ok status =>
    match watchdogAction (trim rustBlank phase) (sessionIsRunning status) with
    | .wait => return none
    | .complete => some <$> removeRestoreTicket ticketPath
    | .restore =>
      match ← call .start with
      | .ok _ => some <$> removeRestoreTicket ticketPath
      | .error _ => return none

def watchSession : ℕ → DesktopProgram T (Except String Unit)
  | 0 => stalled
  | fuel + 1 => do
    match ← watchOnce ticketPath with
    | some result => return result
    | none => if ← call .ticketExists then watchSession fuel else return .ok ()

def restoreDesktopSession (fuel : ℕ) : DesktopProgram T (Except String Unit) := do
  watchParent fuel
  if ← call .ticketExists then watchSession ticketPath fuel else return .ok ()

end Texts

/-! ### The system -/

inductive DesktopTask
  | launcher
  | watchdog
  deriving DecidableEq

/-- What a process returns. -/
inductive DesktopResult (T : Type)
  | launched (result : Except String T)
  | watched (result : Except String Unit)

abbrev DesktopConfig (T : Type) :=
  Config DesktopTask DesktopFiles DesktopOp (DesktopOp.Answer T) (DesktopResult T)

abbrev DesktopEvent (T : Type) := Event DesktopTask DesktopFiles (DesktopOp.Answer T)

/-- The launcher and the watchdog it starts; each may be killed at any time. -/
def restoration (T : Type) (ticketPath : String) (fuel : ℕ) :
    System DesktopTask DesktopFiles DesktopOp (DesktopOp.Answer T) (DesktopResult T) where
  Exec _ files op answer files' := op.Exec files answer files'
  starts
    | .spawnWatchdog, .ok _ =>
      some ⟨.watchdog, some (.watched <$> restoreDesktopSession ticketPath fuel)⟩
    | _, _ => none
  Arrives _ := False
  Dies kind files files' :=
    files' = { files with parentAlive := files.parentAlive && kind ≠ .launcher }
  Drifts _ _ := False

/-- The launcher, before it does anything. -/
def launching (T : Type) (ticketPath : String) (arms : Bool) : DesktopConfig T :=
  ⟨⟨none, true⟩, Function.update (fun _ => none) 0
    (some ⟨.launcher, some (.launched <$> runWithDesktopRestoration ticketPath arms)⟩), []⟩

end Wroid
