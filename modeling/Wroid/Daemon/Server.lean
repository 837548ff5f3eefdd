import Wroid.Daemon.Wire

/-!
# The server of the daemon

The daemon serves one connection after another.  For each it first reaps the children that have
exited, then reads one request, handles it and writes the response.  What the operating
system and the client do during a turn is an argument of the turn.

## Main definitions

* `Daemon` — the sessions, the children, and the responses written so far.
* `dispatch` — the handling of a request.
* `serveOnce`, `serveUntil` — one connection, and the loop.
-/

namespace Wroid

open Lib

/-- The daemon, and the responses it has begun to write. -/
structure Daemon where
  manager : DaemonSessionManager
  processes : ManagedProcesses
  sent : List ProtocolResponse

/-- What the operating system does while a request is handled: the process of the daemon, the
steps of a launch, and the answer to a signal. -/
structure DispatchWorld where
  pid : ℕ
  launch : LaunchWorld
  signalled : Signalled

/-- How handling a request stops when it does not succeed: with an error for the client, or
with a panic. -/
inductive DispatchStop
  | error (message : String)
  | panic (message : String)

abbrev DispatchM := EStateM DispatchStop Daemon

namespace Daemon

def new : Daemon := ⟨.new, .new, []⟩

/-! ### Requests -/

/-- An operation on the sessions, its errors as texts. -/
def onManager {α : Type} (codec : WireCodec) (m : ManagerM α) : DispatchM α :=
  zoom Daemon.manager (fun manager d => { d with manager := manager }) <|
    mapError (fun stop => match stop with
      | .error error => .error (error.text codec.showFloat)
      | .panic message => .panic message) m

/-- An operation on the children. -/
def withProcesses {α : Type} (m : ProcessesM α) : EStateM ProcessError Daemon α :=
  zoom Daemon.processes (fun processes d => { d with processes := processes }) m

/-- An operation on the children, its errors as texts. -/
def onProcesses {α : Type} (m : ProcessesM α) : DispatchM α :=
  mapError (fun error => .error error.text) (withProcesses m)

def reject {α : Type} (message : String) : DispatchM α := throw (.error message)

def validatedSessionId (value : String) : DispatchM SessionId :=
  let valid := value ≠ "" ∧ value.utf8ByteSize ≤ 128 ∧
    value.toList.all fun c => c.isAlphanum || c == '-' || c == '_' || c == '.'
  if valid then
    match SessionId.new value with
    | some sessionId => pure sessionId
    | none => reject "session id must not be empty"
  else
    reject "session id must be 1-128 ASCII letters, digits, dots, dashes, or underscores"

def validDimension (value : ℕ) : Bool := 1 ≤ value && value ≤ 8192

def checkResolution (width height : ℕ) : DispatchM Unit :=
  if validDimension width && validDimension height then pure ()
  else reject "resolution dimensions must each be between 1 and 8192"

/-- The record of a session, for the response. -/
def snapshot (sessionId : SessionId) (missing : String) : DispatchM SessionSnapshot := do
  let d ← get
  match d.manager.session sessionId with
  | none => reject missing
  | some session => return .fromSession session

def dispatchPrepare (codec : WireCodec) (sessionId : String) (profile : ProfileV2)
    (width height : ℕ) (launchPackage : Bool) : DispatchM DaemonResult := do
  let sessionId ← validatedSessionId sessionId
  checkResolution width height
  onManager codec
    (DaemonSessionManager.prepareProfileV2 sessionId profile ⟨width, height⟩ launchPackage)
  return .session (← snapshot sessionId "prepared session disappeared")

/-- The checks of a launch that come before anything is changed. -/
def checkLaunch (launch : GameLaunchRequest) : DispatchM Unit := do
  if launch.workerProtocolGeneration ≠ BRIDGE_WORKER_PROTOCOL_GENERATION then
    let generation := launch.workerProtocolGeneration
    reject (s!"worker protocol generation {generation} is incompatible with " ++
      s!"daemon generation {BRIDGE_WORKER_PROTOCOL_GENERATION}")
  checkResolution launch.width launch.height
  if launch.exitAfterMillis.any fun value => !(1 ≤ value && value ≤ 3600000) then
    reject "diagnostic timeout must be between 1 and 3600000 milliseconds"

/-- The prepared session gets its process, or is marked as failed. -/
def dispatchSpawn (codec : WireCodec) (world : DispatchWorld) (sessionId : SessionId)
    (launch : GameLaunchRequest) : DispatchM Unit := do
  match ← attempt (withProcesses (ManagedProcesses.launch sessionId launch world.launch)) with
  | .ok pid => onManager codec (DaemonSessionManager.markRunning sessionId pid)
  | .error error =>
    onManager codec (DaemonSessionManager.markFailed sessionId error.text)
    reject error.text

def dispatchLaunch (codec : WireCodec) (world : DispatchWorld) (launch : GameLaunchRequest) :
    DispatchM DaemonResult := do
  let sessionId ← validatedSessionId launch.sessionId
  checkLaunch launch
  onManager codec (DaemonSessionManager.prepareProfileV2 sessionId launch.profile
    ⟨launch.width, launch.height⟩ launch.launchPackage)
  dispatchSpawn codec world sessionId launch
  return .session (← snapshot sessionId "launched session disappeared")

def dispatchStart (codec : WireCodec) (sessionId : String) : DispatchM DaemonResult := do
  let sessionId ← validatedSessionId sessionId
  onManager codec (DaemonSessionManager.start sessionId)
  return .session (← snapshot sessionId "started session disappeared")

def dispatchState (codec : WireCodec) (sessionId : String) : DispatchM DaemonResult := do
  let sessionId ← validatedSessionId sessionId
  let _ ← onManager codec (DaemonSessionManager.state sessionId)
  return .session (← snapshot sessionId "session disappeared")

/-- A session with a child is asked to stop; any other one is stopped right away. -/
def dispatchStop (codec : WireCodec) (world : DispatchWorld) (sessionId : String)
    (reason : StopReason) : DispatchM DaemonResult := do
  let sessionId ← validatedSessionId sessionId
  if ← onProcesses (ManagedProcesses.requestStop sessionId world.signalled) then
    onManager codec (DaemonSessionManager.markStopping sessionId)
    return .stopped (← snapshot sessionId "stopping session disappeared") 0 0 false
  let report ← onManager codec (DaemonSessionManager.stop sessionId reason)
  return .stopped (← snapshot sessionId "stopped session disappeared") report.contactsCancelled
    report.leasesReleased report.settingsRestored

def dispatch (codec : WireCodec) (world : DispatchWorld) : DaemonRequest → DispatchM DaemonResult
  | .ping => do
    let d ← get
    return .pong world.pid d.manager.sessionCount
  | .prepareProfileV2 sessionId profile width height launchPackage =>
    dispatchPrepare codec sessionId profile width height launchPackage
  | .launchProfileV2 launch => dispatchLaunch codec world launch
  | .start sessionId => dispatchStart codec sessionId
  | .state sessionId => dispatchState codec sessionId
  | .stop sessionId reason => dispatchStop codec world sessionId reason
  | .list => do
    let d ← get
    return .sessions (d.manager.sessions.values.map SessionSnapshot.fromSession)

/-! ### One connection -/

/-- How serving a connection stops when it does not succeed. -/
inductive ServeStop
  | error (error : IpcError)
  | panic (message : String)

abbrev ServeM := EStateM ServeStop Daemon

/-- What the client does: its credentials, whether its limit on reads can be set, what the
reads deliver, and the fate of each part of the response. -/
structure ClientWorld where
  credentials : Except IpcError Unit
  readTimeoutSet : Except IoError Unit
  reads : List Received
  writeTimeoutSet : Except IoError Unit
  bodyWritten : Except IoError Unit
  newlineWritten : Except IoError Unit
  flushed : Except IoError Unit

/-- What happens during one turn of the server. -/
structure ServeWorld where
  stopRequested : Bool
  children : SessionId → ChildReport
  accepted : Except IoError Unit
  client : ClientWorld
  dispatch : DispatchWorld

/-- Record the end of one child. -/
def recordExit (codec : WireCodec) (process : ReapedProcess) : ServeM Unit :=
  mapError (fun stop => match stop with
    | .error message => .error (.protocol message)
    | .panic message => .panic message)
    (onManager codec
      (DaemonSessionManager.markExited process.sessionId process.success process.detail))

def reapManagedProcesses (codec : WireCodec) (children : SessionId → ChildReport) :
    ServeM Unit := do
  let completed ← mapError (fun error => .error (.protocol error.text))
    (withProcesses (ManagedProcesses.reap children))
  runAll (recordExit codec) completed

/-- The request in the bytes a client has sent, or the response that refuses them. -/
def readRequest (codec : WireCodec) (client : ClientWorld) :
    Except ProtocolResponse DaemonRequest :=
  match client.credentials with
  | .error error => .error (.failure "unauthorized" error.text)
  | .ok () =>
    match setTimeout client.readTimeoutSet (some IO_TIMEOUT) with
    | .error error => .error (.failure "io_error" error.detail)
    | .ok () =>
      match readBoundedMessage client.reads with
      | .error error => .error (.failure "invalid_request" error.detail)
      | .ok bytes =>
        match codec.decode bytes with
        | .error error => .error (.failure "invalid_request" s!"request is not valid JSON: {error}")
        | .ok request =>
          if request.protocolVersion ≠ PROTOCOL_VERSION then
            .error (.failure "version_mismatch"
              (s!"client protocol {request.protocolVersion} is incompatible with " ++
                s!"server protocol {PROTOCOL_VERSION}"))
          else .ok request.request

def readAndDispatch (codec : WireCodec) (client : ClientWorld) (world : DispatchWorld) :
    ServeM ProtocolResponse := do
  match readRequest codec client with
  | .error response => return response
  | .ok request =>
    match ← attempt (dispatch codec world request) with
    | .ok result => return .success result
    | .error (.error message) => return .failure "session_error" message
    | .error (.panic message) => throw (.panic message)

/-- Writing a response; an error in the body is one of the JSON library. -/
def writeResponse (client : ClientWorld) : Except IpcError Unit := do
  (setTimeout client.writeTimeoutSet (some IO_TIMEOUT)).mapError .io
  client.bodyWritten.mapError fun error => .protocol error.detail
  client.newlineWritten.mapError .io
  client.flushed.mapError .io

/-- Answer the client. -/
def respond (client : ClientWorld) (response : ProtocolResponse) : ServeM Unit := do
  modify fun d => { d with sent := d.sent ++ [response] }
  match writeResponse client with
  | .error error => throw (.error error)
  | .ok () => pure ()

def serveOnce (codec : WireCodec) (world : ServeWorld) : ServeM Unit := do
  reapManagedProcesses codec world.children
  match world.accepted with
  | .error error => throw (.error (.io error))
  | .ok () =>
    respond world.client (← readAndDispatch codec world.client world.dispatch)

/-! ### The loop -/

/-- How the loop ends. -/
inductive LoopExit
  | stopped
  | failed (error : IpcError)
  | panicked (message : String)

/-- One turn of the loop of `serve_until`: a failure is tolerated if it says that nothing was
there to be done. -/
def serveTurn (codec : WireCodec) (world : ServeWorld) : EStateM LoopExit Daemon Unit := do
  if world.stopRequested then throw .stopped
  match ← attempt (serveOnce codec world) with
  | .ok () => pure ()
  | .error (.panic message) => throw (.panicked message)
  | .error (.error error) =>
    match error with
    | .io cause => if cause.kind = .wouldBlock then pure () else throw (.failed error)
    | .protocol _ => throw (.failed error)

end Daemon

end Wroid
