import Wroid.Lib.Fallible
import Wroid.Lib.Streams

/-!
# The bridge broker

The daemon keeps the privileged bridge helper behind a broker.  The game session, an untrusted
client, sends frames over a socket: it may open the helper, then verify the Android input,
then finish.

## Main definitions

* `RequestFrame`, `ResponseFrame` — the frames of the protocol.
* `Pass`, `BrokerTurn` — what the socket, the clock and the helper do during the loop.
* `readFrameUntil`, `serveTurn`, `serveBridgeBroker` — the broker.
* `UsedInOrder`, `ConsumedOnce` — what the helper may expect of it.

## Main results

* `helper_used_in_order` — **whatever the client sends and however the helper answers, the
  helper is opened, verified and finished in this order, each once at most, and is consumed
  exactly once by the time the client has been served**.
-/

namespace Wroid

open Lib

namespace BridgeBroker

def BRIDGE_PROTOCOL_VERSION : ℕ := 1

def MAX_BRIDGE_FRAME_BYTES : ℕ := 4096

def INITIAL_OPEN_TIMEOUT : ℕ := seconds 120

def VERIFY_REQUEST_TIMEOUT : ℕ := seconds 120

def FRAME_WRITE_TIMEOUT : ℕ := seconds 3

def MAX_ERROR_DETAIL_CHARS : ℕ := 512

inductive ServerState
  | initial
  | opened
  | verified
  deriving DecidableEq

inductive BridgeRequest
  | open (eventNode : String)
  | verifyAndroidInput
  | finish (waydroidStopped : Bool)

structure RequestFrame where
  protocolVersion : ℕ
  request : BridgeRequest

inductive BridgeResponse
  | opened
  | androidInputReady
  | finished
  | error (code detail : String)

structure ResponseFrame where
  protocolVersion : ℕ
  response : BridgeResponse

/-- What has been asked of the helper, and how it went. -/
inductive HelperCall
  | start (eventNode : String) (result : Except IoError Unit)
  | verify (result : Except IoError Unit)
  | finish (waydroidStopped : Bool) (result : Except IoError Unit)
  | drop

/-- The JSON library. -/
structure Codec where
  decode : List UInt8 → Except String RequestFrame
  encode : ResponseFrame → Except String (List UInt8)

/-- What happens during one pass of the read loop: the clock, the answer to setting the time
limit, and what a read delivers if one is needed. -/
structure Pass where
  now : ℕ
  configured : Except IoError Unit
  received : Received

/-- What happens during one turn of the loop of the broker: the passes of its read loop, the
answer of the helper, the fate of the response, and the clock when the deadline is renewed. -/
structure BrokerTurn where
  passes : List Pass
  helperResult : Except IoError Unit
  writeResult : Except IoError Unit
  now : ℕ

/-- The locals of the loop, the calls on the helper so far, and the frames sent. -/
structure Broker where
  state : ServerState
  helper : Option String
  stateDeadline : Option ℕ
  buffered : List UInt8
  calls : List HelperCall
  sent : List ResponseFrame

/-- Why the loop is not going on: it has returned, it has panicked, or it is blocked in a
read. -/
inductive BrokerExit
  | returned (result : Except IoError Unit)
  | panicked (message : String)
  | waiting

abbrev BrokerM := EStateM BrokerExit Broker

/-! ### Frames -/

/-- `write_frame` -/
def writeFrame (codec : Codec) (turn : BrokerTurn) (frame : ResponseFrame) :
    BrokerM (Except IoError Unit) :=
  match codec.encode frame with
  | .error detail => pure (.error ⟨.other, detail⟩)
  | .ok bytes =>
    if (bytes ++ [newline]).length > MAX_BRIDGE_FRAME_BYTES then
      pure (.error ⟨.invalidData, "bridge protocol frame exceeds 4096 bytes"⟩)
    else do
      modify fun b => { b with sent := b.sent ++ [frame] }
      return turn.writeResult

def writeResponse (codec : Codec) (turn : BrokerTurn) (response : BridgeResponse) :
    BrokerM (Except IoError Unit) :=
  writeFrame codec turn ⟨BRIDGE_PROTOCOL_VERSION, response⟩

def writeError (codec : Codec) (turn : BrokerTurn) (code detail : String) :
    BrokerM (Except IoError Unit) :=
  writeResponse codec turn (.error code (.ofList (detail.toList.take MAX_ERROR_DETAIL_CHARS)))

/-- The time left until the deadline. -/
def readTimeout (deadline : Option ℕ) (now : ℕ) : Except IoError (Option ℕ) :=
  match deadline with
  | none => .ok none
  | some deadline =>
    if now ≤ deadline then .ok (some (deadline - now))
    else .error ⟨.timedOut, "bridge protocol deadline expired"⟩

/-- `BufRead::fill_buf`: the socket is read only when the buffer is empty. -/
def fillBuf (received : Received) : BrokerM Received := do
  let b ← get
  if b.buffered ≠ [] then return .ok b.buffered
  match received with
  | .error e => return .error e
  | .ok bytes =>
    set { b with buffered := bytes }
    return .ok bytes

/-- What the bytes read so far amount to. -/
def finishFrame (codec : Codec) (bytes : List UInt8) : Except IoError (Option RequestFrame) :=
  if bytes = [] then .ok none
  else if bytes.length > MAX_BRIDGE_FRAME_BYTES ∨ bytes.getLast? ≠ some newline then
    .error ⟨.invalidData, "invalid or oversized bridge protocol frame"⟩
  else match codec.decode bytes.dropLast with
    | .error detail => .error ⟨.invalidData, detail⟩
    | .ok frame => .ok (some frame)

/-- `read_frame_until`, with the bytes read so far; it waits when the passes are used up. -/
def readFrameUntil (codec : Codec) (deadline : Option ℕ) (bytes : List UInt8) :
    List Pass → BrokerM (Except IoError (Option RequestFrame))
  | [] => throw .waiting
  | pass :: passes =>
    match readTimeout deadline pass.now with
    | .error e => pure (.error e)
    | .ok timeout =>
      match setTimeout pass.configured timeout with
      | .error e => pure (.error e)
      | .ok () => do
        match ← fillBuf pass.received with
        | .error e => return .error e
        | .ok available =>
          if available = [] then return finishFrame codec bytes
          let line := available.findIdx? (· == newline)
          let count := line.elim available.length (· + 1)
          modify fun b => { b with buffered := b.buffered.drop count }
          let bytes := bytes ++ available.take count
          if bytes.length > MAX_BRIDGE_FRAME_BYTES ∨ line.isSome then
            return finishFrame codec bytes
          readFrameUntil codec deadline bytes passes

/-! ### The loop -/

/-- An absolute `/dev/input/eventN` path. -/
def validEventNodePath (path : String) : Bool :=
  match (pathComponents path).getLast? with
  | some (.normal name) =>
    decide ((pathComponents path).dropLast = [.rootDir, .normal "dev", .normal "input"]) &&
      match name.toList.dropPrefix? "event".toList with
      | some suffix => (parseUnsigned 4294967295 (.ofList suffix)).isSome
      | none => false
  | _ => false

/-- Report the error to the client and return it. -/
def fail (codec : Codec) (turn : BrokerTurn) (code : String) (error : IoError) : BrokerM Unit := do
  let _ ← writeError codec turn code error.detail
  throw (.returned (.error error))

/-- A failure of the helper is reported to the client and returned. -/
def orFail (codec : Codec) (turn : BrokerTurn) (code : String) : BrokerM Unit :=
  match turn.helperResult with
  | .ok () => pure ()
  | .error e => fail codec turn code e

/-- Answer the client; a failure to do so ends the loop. -/
def respond (codec : Codec) (turn : BrokerTurn) (response : BridgeResponse) : BrokerM Unit := do
  match ← writeResponse codec turn response with
  | .ok () => pure ()
  | .error e => throw (.returned (.error e))

/-- Note a call on the helper. -/
def called (call : HelperCall) : BrokerM Unit :=
  modify fun b => { b with calls := b.calls ++ [call] }

def serveOpen (codec : Codec) (turn : BrokerTurn) (eventNode : String) : BrokerM Unit := do
  if !validEventNodePath eventNode then
    fail codec turn "invalid_event_node"
      ⟨.permissionDenied, "bridge event node must be an absolute /dev/input/eventN path"⟩
  called (.start eventNode turn.helperResult)
  orFail codec turn "helper_start_failed"
  modify fun b => { b with helper := some eventNode }
  respond codec turn .opened
  modify fun b =>
    { b with state := .opened, stateDeadline := some (turn.now + VERIFY_REQUEST_TIMEOUT) }

def serveVerify (codec : Codec) (turn : BrokerTurn) : BrokerM Unit := do
  let b ← get
  if b.helper.isNone then throw (.panicked "opened broker owns a helper")
  called (.verify turn.helperResult)
  orFail codec turn "android_verify_failed"
  respond codec turn .androidInputReady
  modify fun b => { b with state := .verified, stateDeadline := none }

/-- Finishing consumes the helper, whether it succeeds or not. -/
def serveFinish (codec : Codec) (turn : BrokerTurn) (waydroidStopped : Bool) : BrokerM Unit := do
  let b ← get
  if b.helper.isNone then throw (.panicked "verified broker owns a helper")
  modify fun b => { b with helper := none }
  called (.finish waydroidStopped turn.helperResult)
  orFail codec turn "helper_finish_failed"
  respond codec turn .finished
  throw (.returned (.ok ()))

/-- One turn of the loop. -/
def serveTurn (codec : Codec) (turn : BrokerTurn) : BrokerM Unit := do
  let b ← get
  match ← readFrameUntil codec b.stateDeadline [] turn.passes with
  | .error e => fail codec turn "invalid_frame" e
  | .ok none => throw (.returned (.ok ()))
  | .ok (some frame) =>
    if frame.protocolVersion ≠ BRIDGE_PROTOCOL_VERSION then
      fail codec turn "version_mismatch"
        ⟨.invalidData, "bridge broker request protocol version mismatch"⟩
    match b.state, frame.request with
    | .initial, .open eventNode => serveOpen codec turn eventNode
    | .opened, .verifyAndroidInput => serveVerify codec turn
    | .verified, .finish waydroidStopped => serveFinish codec turn waydroidStopped
    | _, _ =>
      fail codec turn "invalid_state"
        ⟨.invalidInput, "bridge broker request is invalid in the current state"⟩

/-- The loop is left: a helper that is still there is dropped. -/
def dropHelper (b : Broker) : Broker :=
  if b.helper.isSome then { b with helper := none, calls := b.calls ++ [.drop] } else b

/-- What the broker does before its loop: its limit on writes, and a second handle. -/
structure Setup where
  timeoutSet : Except IoError Unit
  cloned : Except IoError Unit
  now : ℕ

/-- The locals of the loop when it is entered. -/
def Setup.broker (setup : Setup) : Broker :=
  { state := .initial
    helper := none
    stateDeadline := some (setup.now + INITIAL_OPEN_TIMEOUT)
    buffered := []
    calls := []
    sent := [] }

/-- `serve_bridge_broker`, for the turns the world has in store. -/
def serveBridgeBroker (codec : Codec) (setup : Setup) (turns : List BrokerTurn) :
    BrokerExit × Broker :=
  match setTimeout setup.timeoutSet (some FRAME_WRITE_TIMEOUT), setup.cloned with
  | .error e, _ => (.returned (.error e), setup.broker)
  | .ok (), .error e => (.returned (.error e), setup.broker)
  | .ok (), .ok () =>
    match runAll (serveTurn codec) turns setup.broker with
    | .ok () b => (.waiting, b)
    | .error .waiting b => (.waiting, b)
    | .error exit b => (exit, dropHelper b)

/-! ### What one turn does -/

section Specs

variable {codec : Codec} {turn : BrokerTurn} {b : Broker}

/-- Writing a frame only adds to what was sent. -/
theorem writeFrame_spec {frame : ResponseFrame} {Q : Except IoError Unit → Broker → Prop}
    {R : BrokerExit → Broker → Prop} (hQ : ∀ r sent, Q r { b with sent := sent }) :
    wp (writeFrame codec turn frame) Q R b := by
  unfold writeFrame
  split
  · exact hQ _ b.sent
  · split
    · exact hQ _ b.sent
    · simp only [wp_bind, wp_modify, wp_pure]
      exact hQ _ _

theorem fail_spec {code : String} {error : IoError} {Q : Unit → Broker → Prop}
    {R : BrokerExit → Broker → Prop}
    (hR : ∀ sent, R (.returned (.error error)) { b with sent := sent }) :
    wp (fail codec turn code error) Q R b := by
  simp only [fail, wp_bind]
  exact writeFrame_spec fun _ sent => hR sent

theorem orFail_spec {code : String} {Q : Unit → Broker → Prop} {R : BrokerExit → Broker → Prop}
    (hQ : turn.helperResult = .ok () → Q () b)
    (hR : ∀ e sent, turn.helperResult = .error e →
      R (.returned (.error e)) { b with sent := sent }) :
    wp (orFail codec turn code) Q R b := by
  unfold orFail
  split
  · exact hQ ‹_›
  · exact fail_spec fun sent => hR _ sent ‹_›

theorem respond_spec {response : BridgeResponse} {Q : Unit → Broker → Prop}
    {R : BrokerExit → Broker → Prop} (hQ : ∀ sent, Q () { b with sent := sent })
    (hR : ∀ e sent, R (.returned (.error e)) { b with sent := sent }) :
    wp (respond codec turn response) Q R b := by
  simp only [respond, wp_bind]
  refine writeFrame_spec fun r sent => ?_
  cases r with
  | ok _ => exact hQ sent
  | error e => exact hR e sent

theorem fillBuf_spec {received : Received} {Q : Received → Broker → Prop}
    {R : BrokerExit → Broker → Prop} (hQ : ∀ r buffered, Q r { b with buffered := buffered }) :
    wp (fillBuf received) Q R b := by
  simp only [fillBuf, wp_bind, wp_get, wp_ite, wp_pure]
  split
  · exact hQ _ b.buffered
  · cases received with
    | error e => exact hQ _ b.buffered
    | ok bytes => exact hQ _ bytes

/-- Reading a frame only touches the buffer; it fails only by waiting. -/
theorem readFrameUntil_spec (deadline : Option ℕ) (passes : List Pass) (bytes : List UInt8)
    {Q : Except IoError (Option RequestFrame) → Broker → Prop} {R : BrokerExit → Broker → Prop}
    (hQ : ∀ r buffered, Q r { b with buffered := buffered })
    (hR : ∀ buffered, R .waiting { b with buffered := buffered }) :
    wp (readFrameUntil codec deadline bytes passes) Q R b := by
  induction passes generalizing b bytes with
  | nil => exact hR b.buffered
  | cons pass passes ih =>
    unfold readFrameUntil
    split
    · exact hQ _ b.buffered
    split
    · exact hQ _ b.buffered
    simp only [wp_bind]
    refine fillBuf_spec fun r buffered => ?_
    cases r with
    | error e => exact hQ _ buffered
    | ok available =>
      simp only [wp_bind, wp_ite, wp_pure, wp_modify]
      split
      · exact hQ _ buffered
      split
      · exact hQ _ _
      · exact ih _ (fun r buffered => hQ r buffered) fun buffered => hR buffered

end Specs

/-! ### The helper's view -/

/-- The loop is in the state that the calls on the helper have led to. -/
inductive Serving : ServerState → Option String → List HelperCall → Prop
  | initial : Serving .initial none []
  | opened (node : String) : Serving .opened (some node) [.start node (.ok ())]
  | verified (node : String) :
    Serving .verified (some node) [.start node (.ok ()), .verify (.ok ())]

/-- The helper and the calls on it when the loop is left. -/
inductive Left : Option String → List HelperCall → Prop
  | unopened : Left none []
  | startFailed (node : String) (e : IoError) : Left none [.start node (.error e)]
  | opened (node : String) : Left (some node) [.start node (.ok ())]
  | verifyTried (node : String) (r : Except IoError Unit) :
    Left (some node) [.start node (.ok ()), .verify r]
  | finishTried (node : String) (stopped : Bool) (r : Except IoError Unit) :
    Left none [.start node (.ok ()), .verify (.ok ()), .finish stopped r]

def Broker.Serves (b : Broker) : Prop := Serving b.state b.helper b.calls

/-- The loop is left, and not by a panic. -/
def LeftBy (exit : BrokerExit) (b : Broker) : Prop :=
  Left b.helper b.calls ∧ ∀ message, exit ≠ .panicked message

theorem Serving.left {state : ServerState} {helper : Option String} {calls : List HelperCall}
    (h : Serving state helper calls) : Left helper calls := by
  cases h with
  | initial => exact .unopened
  | opened node => exact .opened node
  | verified node => exact .verifyTried node _

theorem leftBy_returned {r : Except IoError Unit} {b : Broker} (h : Left b.helper b.calls) :
    LeftBy (.returned r) b := ⟨h, fun _ => nofun⟩

section Turns

variable {codec : Codec} {turn : BrokerTurn} {b : Broker}

theorem serveOpen_spec (eventNode : String) (h : b.Serves) (hstate : b.state = .initial) :
    wp (serveOpen codec turn eventNode) (fun _ b' => b'.Serves) LeftBy b := by
  obtain ⟨state, helper, deadline, buffered, calls, sent⟩ := b
  obtain rfl : state = .initial := hstate
  cases (h : Serving .initial helper calls)
  simp only [serveOpen, called, wp_bind, wp_ite, wp_modify, List.nil_append]
  have hvalid : wp (orFail codec turn "helper_start_failed")
      (fun _ b' => wp (respond codec turn .opened)
        (fun _ b' => Broker.Serves { b' with
          state := .opened, stateDeadline := some (turn.now + VERIFY_REQUEST_TIMEOUT) })
        LeftBy { b' with helper := some eventNode }) LeftBy
      ⟨.initial, none, deadline, buffered, [.start eventNode turn.helperResult], sent⟩ := by
    refine orFail_spec (fun hok => ?_) fun e sent he => leftBy_returned ?_
    · rw [hok]
      exact respond_spec (fun _ => Serving.opened eventNode) fun e sent =>
        leftBy_returned (b := ⟨_, _, _, _, _, sent⟩) (.opened eventNode)
    · rw [he]
      exact .startFailed eventNode e
  split
  · exact fail_spec fun sent => leftBy_returned (b := ⟨_, _, _, _, _, sent⟩) .unopened
  · exact hvalid

theorem serveVerify_spec (h : b.Serves) (hstate : b.state = .opened) :
    wp (serveVerify codec turn) (fun _ b' => b'.Serves) LeftBy b := by
  obtain ⟨state, helper, deadline, buffered, calls, sent⟩ := b
  obtain rfl : state = .opened := hstate
  cases (h : Serving .opened helper calls) with | opened node
  simp only [serveVerify, called, wp_bind, wp_get, wp_modify, wp_ite, Option.isNone_some,
    Bool.false_eq_true, if_false, List.cons_append, List.nil_append]
  refine orFail_spec (fun hok => ?_) fun e sent _ =>
    leftBy_returned (b := ⟨_, _, _, _, _, sent⟩) (.verifyTried node _)
  rw [hok]
  exact respond_spec (fun _ => Serving.verified node) fun e sent =>
    leftBy_returned (b := ⟨_, _, _, _, _, sent⟩) (.verifyTried node _)

theorem serveFinish_spec (waydroidStopped : Bool) (h : b.Serves) (hstate : b.state = .verified) :
    wp (serveFinish codec turn waydroidStopped) (fun _ b' => b'.Serves) LeftBy b := by
  obtain ⟨state, helper, deadline, buffered, calls, sent⟩ := b
  obtain rfl : state = .verified := hstate
  cases (h : Serving .verified helper calls) with | verified node
  simp only [serveFinish, called, wp_bind, wp_get, wp_modify, wp_ite, wp_throw, Option.isNone_some,
    Bool.false_eq_true, if_false, List.cons_append, List.nil_append]
  have hleft : ∀ r sent, LeftBy (.returned r) ⟨.verified, none, deadline, buffered,
      [.start node (.ok ()), .verify (.ok ()), .finish waydroidStopped turn.helperResult], sent⟩ :=
    fun r sent => leftBy_returned (.finishTried node _ _)
  exact orFail_spec (fun _ => respond_spec (fun sent => hleft _ sent) fun e sent => hleft _ sent)
    fun e sent _ => hleft _ sent

/-- A turn leaves the loop serving, or leaves it with the helper accounted for. -/
theorem serveTurn_spec (turn : BrokerTurn) (h : b.Serves) :
    wp (serveTurn codec turn) (fun _ b' => b'.Serves) LeftBy b := by
  simp only [serveTurn, wp_bind, wp_get]
  refine readFrameUntil_spec _ _ _ (fun r buffered => ?_)
    fun buffered => ⟨h.left, fun _ hpanic => by cases hpanic⟩
  cases r with
  | error e => exact fail_spec fun sent => leftBy_returned h.left
  | ok frame =>
    cases frame with
    | none => exact leftBy_returned h.left
    | some frame =>
      simp only [wp_bind, wp_ite]
      split
      · exact fail_spec fun sent => leftBy_returned h.left
      split
      · exact serveOpen_spec _ h ‹_›
      · exact serveVerify_spec h ‹_›
      · exact serveFinish_spec _ h ‹_›
      · exact fail_spec fun sent => leftBy_returned h.left

end Turns

/-! ### Every client -/

/-- The place of a call in the order the helper expects. -/
def HelperCall.stage : HelperCall → ℕ
  | .start _ _ => 0
  | .verify _ => 1
  | .finish _ _ => 2
  | .drop => 3

/-- The helper has been opened by one of the calls. -/
def HelperOpened (calls : List HelperCall) : Prop := ∃ node, .start node (.ok ()) ∈ calls

/-- Each call comes once at most and in order, on a helper that is open, and the helper is
finished only when it has been verified. -/
structure UsedInOrder (calls : List HelperCall) : Prop where
  ordered : calls.Pairwise fun call call' => call.stage < call'.stage
  opened : ∀ call ∈ calls, call.stage ≠ 0 → HelperOpened calls
  verified : ∀ stopped r, .finish stopped r ∈ calls → .verify (.ok ()) ∈ calls

/-- An opened helper has been finished or dropped, and not both. -/
def ConsumedOnce (calls : List HelperCall) : Prop :=
  HelperOpened calls → (calls.filter fun call => 2 ≤ call.stage).length = 1

theorem Left.usedInOrder {helper : Option String} {calls : List HelperCall}
    (h : Left helper calls) : UsedInOrder calls := by
  cases h <;> constructor <;> simp [HelperCall.stage, HelperOpened]

/-- Dropping a helper that is still there consumes it. -/
theorem Left.dropped {b : Broker} (h : Left b.helper b.calls) :
    UsedInOrder (dropHelper b).calls ∧ ConsumedOnce (dropHelper b).calls := by
  unfold dropHelper
  generalize hhelper : b.helper = helper at h
  generalize hcalls : b.calls = calls at h
  cases h <;> simp only [Option.isSome_none, Option.isSome_some, Bool.false_eq_true, if_false,
    if_true, hcalls] <;>
    exact ⟨by constructor <;> simp [HelperCall.stage, HelperOpened],
      by simp [ConsumedOnce, HelperOpened, HelperCall.stage]⟩

/-- **The helper is used in order and consumed once, whatever the client does.** -/
theorem helper_used_in_order (codec : Codec) (setup : Setup) (turns : List BrokerTurn) :
    UsedInOrder (serveBridgeBroker codec setup turns).2.calls ∧
      ((serveBridgeBroker codec setup turns).1 ≠ .waiting →
        ConsumedOnce (serveBridgeBroker codec setup turns).2.calls) ∧
      ∀ message, (serveBridgeBroker codec setup turns).1 ≠ .panicked message := by
  have hunused : UsedInOrder [] ∧ ConsumedOnce [] :=
    ⟨Left.unopened.usedInOrder, by simp [ConsumedOnce, HelperOpened]⟩
  unfold serveBridgeBroker
  split
  · exact ⟨hunused.1, fun _ => hunused.2, fun _ => nofun⟩
  · exact ⟨hunused.1, fun _ => hunused.2, fun _ => nofun⟩
  · have hrun : wp (runAll (serveTurn codec) turns) (fun _ b => b.Serves) LeftBy setup.broker :=
      wp_runAll (fun turn b h => serveTurn_spec turn h) turns .initial
    split <;> rename_i heq
    · exact ⟨(wp_ok hrun heq).left.usedInOrder, fun h => (h rfl).elim, fun _ => nofun⟩
    · exact ⟨(wp_error hrun heq).1.usedInOrder, fun h => (h rfl).elim, fun _ => nofun⟩
    · obtain ⟨hleft, hpanic⟩ := wp_error hrun heq
      exact ⟨hleft.dropped.1, fun _ => hleft.dropped.2, hpanic⟩

end BridgeBroker

end Wroid
