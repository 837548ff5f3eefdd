import Wroid.Lib.Json
import Wroid.Daemon.Processes

/-!
# The protocol of the daemon

Requests, responses, and the texts in them.  What the JSON library makes of the bytes of a
request, and how the standard library prints a floating point number, are parameters; the
JSON text of a response is spelt out.

## Main definitions

* `DaemonRequest`, `ProtocolRequest` — what a client asks for.
* `DaemonResult`, `ProtocolResponse`, `SessionSnapshot` — what it is told.
* `DaemonError.text` and its like — the errors as a client reads them.
* `ProtocolResponse.json` — a response on the wire.
-/

namespace Wroid

open Lib

def PROTOCOL_VERSION : ℕ := 2

def MAX_MESSAGE_BYTES : ℕ := 1024 * 1024

def IO_TIMEOUT : ℕ := seconds 3

/-! ### Requests -/

inductive DaemonRequest
  | ping
  | prepareProfileV2 (sessionId : String) (profile : ProfileV2) (width height : ℕ)
      (launchPackage : Bool)
  | launchProfileV2 (launch : GameLaunchRequest)
  | start (sessionId : String)
  | state (sessionId : String)
  | stop (sessionId : String) (reason : StopReason)
  | list

structure ProtocolRequest where
  protocolVersion : ℕ
  request : DaemonRequest

/-- The libraries the daemon uses: reading a request, and printing a number. -/
structure WireCodec where
  decode : List UInt8 → Except String ProtocolRequest
  showFloat : ℚ → String

/-! ### Responses -/

structure SessionSnapshot where
  sessionId : String
  state : SessionState
  packageName : String
  launchPackage : Bool
  controlCount : ℕ
  processId : Option ℕ
  detail : Option String

def SessionSnapshot.fromSession (session : RuntimeSession) : SessionSnapshot :=
  { sessionId := session.sessionId.asStr
    state := session.state
    packageName := session.activePackage
    launchPackage := session.launchPackage
    controlCount := session.controlPlan.elim 0 fun plan => plan.controls.length
    processId := session.processId
    detail := session.detail }

inductive DaemonResult
  | pong (pid sessionCount : ℕ)
  | session (session : SessionSnapshot)
  | sessions (sessions : List SessionSnapshot)
  | stopped (session : SessionSnapshot) (contactsCancelled leasesReleased : ℕ)
      (settingsRestored : Bool)

structure ProtocolError where
  code : String
  message : String

structure ProtocolResponse where
  protocolVersion : ℕ
  result : Option DaemonResult
  error : Option ProtocolError

def ProtocolResponse.success (result : DaemonResult) : ProtocolResponse :=
  ⟨PROTOCOL_VERSION, some result, none⟩

def ProtocolResponse.failure (code message : String) : ProtocolResponse :=
  ⟨PROTOCOL_VERSION, none, some ⟨code, message⟩⟩

/-! ### Errors as texts -/

def VirtualJoystickConfigError.text : VirtualJoystickConfigError → String
  | .zeroRadius => "virtual joystick radius must be greater than zero"
  | .deadZoneTooLarge deadZone radius =>
    s!"virtual joystick dead zone must be smaller than radius, got {deadZone} >= {radius}"
  | .invalidResolution width height =>
    s!"virtual joystick resolution must be non-zero, got {width}x{height}"
  | .centerOutOfBounds x y width height =>
    s!"virtual joystick center {x},{y} is outside resolution {width}x{height}"

def MouseAimConfigError.text : MouseAimConfigError → String
  | .invalidResolution width height =>
    s!"mouse aim resolution must be non-zero, got {width}x{height}"
  | .invalidRegion left top right bottom width height =>
    s!"mouse aim region {left},{top}-{right},{bottom} is invalid for resolution {width}x{height}"
  | .originOutOfRegion x y left top right bottom =>
    s!"mouse aim origin {x},{y} is outside region {left},{top}-{right},{bottom}"
  | .invalidSensitivity numerator denominator =>
    s!"mouse aim sensitivity must be non-zero, got {numerator}/{denominator}"
  | .duplicateContactId contactId =>
    s!"mouse aim primary and alternate contact IDs must differ, got {contactId}"
  | .invalidRecenterThreshold milli =>
    s!"mouse aim recenter threshold must be within 100..=1000 milli, got {milli}"
  | .zeroReaffirmInterval => "mouse aim reaffirm interval must be greater than zero"

def RuntimeControlPlanError.text (showFloat : ℚ → String) : RuntimeControlPlanError → String
  | .invalidProfile errors => s!"{errors.length} validation error(s)"
  | .unknownLayer binding layer => s!"binding {binding} references unknown layer: {layer}"
  | .unsupportedAction binding kind =>
    s!"binding {binding} uses unsupported runtime action kind: {kind}"
  | .invalidVirtualJoystick binding source =>
    s!"binding {binding} has invalid virtual joystick geometry: {source.text}"
  | .invalidMouseAim binding source =>
    s!"binding {binding} has invalid mouse aim geometry: {source.text}"
  | .invalidMouseAimSensitivity binding sensitivity =>
    s!"binding {binding} mouse aim sensitivity {showFloat sensitivity} cannot be represented safely"

def DaemonError.text (showFloat : ℚ → String) : DaemonError → String
  | .invalidRuntimeControls error => error.text showFloat
  | .sessionAlreadyExists sessionId => s!"session {sessionId} already exists"
  | .sessionNotFound sessionId => s!"session {sessionId} was not found"
  | .invalidTransition sessionId source target =>
    s!"session {sessionId} cannot transition from {source.debug} to {target.debug}"

/-- The errors of the server itself. -/
inductive IpcError
  | io (error : IoError)
  | protocol (message : String)

def IpcError.text : IpcError → String
  | .io error => s!"Wroid daemon I/O failed: {error.detail}"
  | .protocol message => s!"Wroid daemon protocol failed: {message}"

/-! ### Responses on the wire -/

def SessionState.wire : SessionState → String
  | .stopped => "stopped"
  | .preparing => "preparing"
  | .running => "running"
  | .stopping => "stopping"
  | .failed => "failed"

def SessionSnapshot.json (session : SessionSnapshot) : List Char :=
  jsonObject <|
    [("sessionId", jsonString session.sessionId),
      ("state", jsonString session.state.wire),
      ("packageName", jsonString session.packageName),
      ("launchPackage", jsonBool session.launchPackage),
      ("controlCount", jsonNat session.controlCount)] ++
    (session.processId.map fun pid => ("processId", jsonNat pid)).toList ++
    (session.detail.map fun detail => ("detail", jsonString detail)).toList

def DaemonResult.json : DaemonResult → List Char
  | .pong pid sessionCount =>
    jsonObject [("type", jsonString "pong"), ("pid", jsonNat pid),
      ("session_count", jsonNat sessionCount)]
  | .session snapshot =>
    jsonObject [("type", jsonString "session"), ("session", snapshot.json)]
  | .sessions snapshots =>
    jsonObject [("type", jsonString "sessions"),
      ("sessions", jsonArray (snapshots.map SessionSnapshot.json))]
  | .stopped snapshot contactsCancelled leasesReleased settingsRestored =>
    jsonObject [("type", jsonString "stopped"), ("session", snapshot.json),
      ("contacts_cancelled", jsonNat contactsCancelled),
      ("leases_released", jsonNat leasesReleased),
      ("settings_restored", jsonBool settingsRestored)]

def ProtocolError.json (error : ProtocolError) : List Char :=
  jsonObject [("code", jsonString error.code), ("message", jsonString error.message)]

def ProtocolResponse.json (response : ProtocolResponse) : List Char :=
  jsonObject <|
    ("protocolVersion", jsonNat response.protocolVersion) ::
    (response.result.map fun result => ("result", result.json)).toList ++
    (response.error.map fun error => ("error", error.json)).toList

/-! ### Reading one message -/

/-- `read_until` the newline, at most `limit` bytes of it: the bytes read so far, and what the
reads still to come deliver.  The stream ends with them. -/
def readUntilNewline (limit : ℕ) (bytes : List UInt8) :
    List Received → Except IoError (List UInt8)
  | [] => .ok bytes
  | .error error :: reads =>
    if error.kind = .interrupted then readUntilNewline limit bytes reads else .error error
  | .ok received :: reads =>
    let available := received.take (limit - bytes.length)
    match available.findIdx? (· == newline) with
    | some i => .ok (bytes ++ available.take (i + 1))
    | none =>
      if available = [] then .ok bytes else readUntilNewline limit (bytes ++ available) reads

def readBoundedMessage (reads : List Received) : Except IoError (List UInt8) := do
  let bytes ← readUntilNewline (MAX_MESSAGE_BYTES + 1) [] reads
  if bytes.length > MAX_MESSAGE_BYTES then
    .error ⟨.invalidData, "IPC message exceeds the 1 MiB limit"⟩
  if bytes.getLast? ≠ some newline then
    .error ⟨.unexpectedEof, "IPC message must end with a newline"⟩
  return bytes.dropLast

end Wroid
