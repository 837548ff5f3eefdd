import Wroid.Lib.Interleaving
import Wroid.Lib.Text

/-!
# Replacing a stale daemon

An upgrader stops the old daemon for good: it freezes the daemon, looks whether it has children,
and only then terminates it.  In case the upgrader dies while the daemon is frozen, a watchdog
waits at the other end of a control channel; the upgrader writes a byte before it closes the
channel, so that a channel closed without one means that the upgrader is dead.

`runtime_daemon.rs`: `stop_authenticated_idle_daemon`, `ContinueGuard` and
`watch_stopped_daemon`.  The loops have fuel, and without fuel they stand still.  How the
descriptors get to the watchdog is left out, and the wait for the exit is one operation.

## Main definitions

* `Replacement`, `ReplaceOp` — the daemon and the channel, and what is done with them.
* `stopAuthenticatedIdleDaemon`, `ContinueGuard.resume`, `ContinueGuard.drop` — the upgrader.
* `watchStoppedDaemon` — the watchdog.
* `replacement` — the system of both, and of the daemon.
-/

namespace Wroid

open Lib

/-! ### Operations -/

inductive DaemonState
  | running
  /-- The daemon was sent `SIGSTOP`, and has not stopped yet. -/
  | stopping
  | stopped
  | exited
  deriving DecidableEq, Repr

/-- The daemon is stopped, or about to be. -/
def DaemonState.Frozen : DaemonState → Prop
  | .stopping | .stopped => True
  | .running | .exited => False

inductive DaemonSignal
  | stop
  | term
  | cont
  deriving DecidableEq, Repr

/-- A daemon that is told to terminate does so by itself, when it runs. -/
def DaemonState.signal : DaemonState → DaemonSignal → DaemonState
  | .running, .stop => .stopping
  | .stopping, .cont | .stopped, .cont => .running
  | daemon, _ => daemon

structure Replacement where
  daemon : DaemonState
  children : Bool
  /-- The upgrader has no end of the control channel. -/
  closed : Bool
  /-- What was written to the control channel, and not read. -/
  channel : Option Char
  /-- The watchdog was sent `SIGKILL`. -/
  killed : Bool

inductive ReplaceOp
  | fileIdentity
  | processIsGone
  | hasExited
  | spawnWatchdog
  | signal (sent : DaemonSignal)
  | readStatus
  | deadline
  | readChildren
  | writeControl
  | closeControl
  | tryWait
  | killWatchdog
  | waitWatchdog
  | waitExit
  | readControl
  /-- What a loop without fuel waits for. -/
  | stall

/-- A status is missing if there is no such process; `tryWait` says whether the watchdog
succeeded, if it has exited. -/
@[reducible] def ReplaceOp.Answer : ReplaceOp → Type
  | .fileIdentity => Except String (ℕ × ℕ)
  | .processIsGone | .deadline => Bool
  | .hasExited => Except String Bool
  | .spawnWatchdog | .signal _ | .writeControl | .waitExit => Except String Unit
  | .readStatus => Except String (Option String)
  | .readChildren => Except String String
  | .closeControl | .killWatchdog | .waitWatchdog => Unit
  | .tryWait => Except String (Option Bool)
  | .readControl => Except String (Option Char)
  | .stall => Empty

/-- One of the lines says that the process is stopped. -/
def statusIsStopped (status : String) : Bool :=
  (status.splitOn "\n").any fun line => line.startsWith "State:" &&
    ((line.toList.drop 6).dropWhile rustBlank).head?.any fun c => c = 'T' || c = 't'

/-- The effect of an operation.  Whatever can fail may fail at any time, except that a daemon that
is there can be resumed, and that an open channel can be waited at.  Once the daemon has exited,
another process may have its number. -/
def ReplaceOp.Exec (s : Replacement) : (op : ReplaceOp) → op.Answer → Replacement → Prop
  | .fileIdentity, _, s' | .processIsGone, _, s' | .hasExited, _, s' | .deadline, _, s'
  | .tryWait, _, s' | .waitWatchdog, _, s' | .waitExit, _, s' => s' = s
  | .spawnWatchdog, .ok _, s' => s' = { s with closed := false, channel := none, killed := false }
  | .spawnWatchdog, .error _, s' => s' = s
  | .signal sent, .ok _, s' => s' = { s with daemon := s.daemon.signal sent }
  | .signal sent, .error _, s' => (sent = .cont → s.daemon = .exited) ∧ s' = s
  | .readStatus, .ok none, s' => s.daemon = .exited ∧ s' = s
  | .readStatus, .ok (some status), s' =>
    (statusIsStopped status = true → s.daemon = .stopped ∨ s.daemon = .exited) ∧ s' = s
  | .readStatus, .error _, s' => s' = s
  | .readChildren, .ok children, s' =>
    (trim rustBlank children = "" → s.children = false ∨ s.daemon = .exited) ∧ s' = s
  | .readChildren, .error _, s' => s' = s
  | .writeControl, .ok _, s' => s' = { s with channel := some 'D' }
  | .writeControl, .error _, s' => s' = s
  | .closeControl, _, s' => s' = { s with closed := true }
  | .killWatchdog, _, s' => s' = { s with killed := true }
  | .readControl, .ok (some c), s' => s.channel = some c ∧ s' = { s with channel := none }
  | .readControl, .ok none, s' => s.closed = true ∧ s.channel = none ∧ s' = s
  | .readControl, .error _, s' => s.closed = true ∧ s' = s
  | .stall, never, _ => never.elim

/-! ### The upgrader -/

abbrev ReplaceProgram := Program ReplaceOp ReplaceOp.Answer

def ReplaceOp.call (op : ReplaceOp) : ReplaceProgram op.Answer := Program.call op

open ReplaceOp (call)

def replaceStalled {α : Type} : ReplaceProgram α := do
  let never ← call .stall
  never.elim

/-- What the guard still has: the duty to resume the daemon, its end of the control channel, and
the watchdog. -/
structure ContinueGuard where
  armed : Bool
  control : Bool
  watchdog : Bool
  deriving DecidableEq, Repr

namespace ContinueGuard

def new : ReplaceProgram (Except String ContinueGuard) := do
  match ← call .spawnWatchdog with
  | .error error => return .error error
  | .ok _ => return .ok ⟨true, true, true⟩

/-- Tell the watchdog that it is not needed, if there is still a channel. -/
def release (guard : ContinueGuard) : ReplaceProgram (Except String Unit) := do
  if guard.control then
    match ← call .writeControl with
    | .error _ => do
      call .closeControl
      return .error "failed to disarm the stale-daemon resume watchdog"
    | .ok _ => do
      call .closeControl
      return .ok ()
  else return .ok ()

/-- Wait until the watchdog has exited, for a second at most. -/
def awaitWatchdog : ℕ → ReplaceProgram (Except String Unit)
  | 0 => replaceStalled
  | fuel + 1 => do
    match ← call .tryWait with
    | .error _ => return .error "failed to inspect the stale-daemon resume watchdog"
    | .ok (some true) => return .ok ()
    | .ok (some false) => return .error "stale-daemon resume watchdog exited with a failure"
    | .ok none =>
      if ← call .deadline then do
        call .killWatchdog
        call .waitWatchdog
        return .error "stale-daemon resume watchdog did not exit after disarm"
      else awaitWatchdog fuel

def disarmWatchdog (fuel : ℕ) (guard : ContinueGuard) :
    ReplaceProgram (Except String Unit × ContinueGuard) := do
  match ← guard.release with
  | .error error => return (.error error, { guard with control := false })
  | .ok _ =>
    if guard.watchdog then do
      let result ← awaitWatchdog fuel
      return (result, { guard with control := false, watchdog := false })
    else return (.ok (), { guard with control := false })

/-- Whatever goes wrong in the destructor is ignored. -/
def drop (fuel : ℕ) (guard : ContinueGuard) : ReplaceProgram Unit := do
  if guard.armed then
    let _ ← call (.signal .cont)
    let _ ← disarmWatchdog fuel { guard with armed := false }
    return ()
  else
    let _ ← disarmWatchdog fuel guard
    return ()

end ContinueGuard

def watchStoppedDaemon : ReplaceProgram (Except String Unit) := do
  match ← call .readControl with
  | .ok (some 'D') => return .ok ()
  | .ok (some _) =>
    match ← call (.signal .cont) with
    | .error error => return .error error
    | .ok _ => return .error "stale-daemon watchdog received an invalid control command"
  | .ok none =>
    match ← call (.signal .cont) with
    | .error _ => return .error "failed to resume stale wroidd after upgrader exit"
    | .ok _ => return .ok ()
  | .error error =>
    match ← call (.signal .cont) with
    | .ok _ => return .error "stale-daemon watchdog control failed"
    | .error resumeError =>
      return .error s!"stale-daemon watchdog control failed: {error}; resume failed: {resumeError}"

/-! ### The system -/

inductive ReplaceTask
  | upgrader
  | watchdog
  deriving DecidableEq

abbrev ReplaceConfig :=
  Config ReplaceTask Replacement ReplaceOp ReplaceOp.Answer (Except String Unit)

abbrev ReplaceEvent := Event ReplaceTask Replacement ReplaceOp.Answer

/-- What the daemon does by itself: it stops when it was told to, exits at any time, and has other
children while it is not stopped; children of a stopped daemon exit. -/
inductive ReplaceDrift (s : Replacement) : Replacement → Prop
  | stops : s.daemon = .stopping → ReplaceDrift s { s with daemon := .stopped }
  | exits : ReplaceDrift s { s with daemon := .exited }
  | children (children : Bool) : (s.daemon = .stopped → children = true → s.children = true) →
      ReplaceDrift s { s with children := children }

/-- The upgrader and the watchdog it starts.  The upgrader may be killed at any time, and then has
no channel; the watchdog is killed by the upgrader only. -/
def replacement : System ReplaceTask Replacement ReplaceOp ReplaceOp.Answer (Except String Unit) where
  Exec _ s op answer s' := op.Exec s answer s'
  starts
    | .spawnWatchdog, .ok _ => some ⟨.watchdog, some watchStoppedDaemon⟩
    | _, _ => none
  Arrives _ := False
  Dies
    | .upgrader, s, s' => s' = { s with closed := true }
    | .watchdog, s, s' => s.killed = true ∧ s' = s
  Drifts := ReplaceDrift

end Wroid
