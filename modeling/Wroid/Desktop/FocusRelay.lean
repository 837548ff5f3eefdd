import Wroid.Lib.Fallible
import Wroid.Lib.Streams
import Wroid.Lib.Text

/-!
# The focus relay

A thread of the launcher tells the game session when the game window has the focus.  It has
one client at a time, greets a new one with the last state it knows, reads its requests to
move the cursor, and forwards every change.

## Main definitions

* `Relay` — the client, the last state, and what has been written to whom.
* `acceptClient`, `handleClientCommands`, `writeFocus` — the steps of a turn.
* `relayTurn` — a turn of the loop.
* `Relay.UpToDate` — the client has got every state since it came.

## Main results

* `handleClientCommands_fails` — reading the requests of a client fails before a byte is read.
* `relay_survives_iff` — **the relay goes on exactly while nobody connects**.
-/

namespace Wroid

open Lib

namespace FocusRelay

/-- The connections are numbered in the order in which they are made. -/
abbrev ClientId := ℕ

/-- The state of the loop; `written` and `log` are what the clients have been told, and all
the changes so far, and `joined` is the length of the log when a client came. -/
structure Relay where
  client : Option ClientId
  lastFocus : Option Bool
  clientBuffer : List Char
  requests : List String
  written : ClientId → List Bool
  log : List Bool
  joined : ClientId → ℕ

def Relay.new : Relay := ⟨none, none, [], [], fun _ => [], [], fun _ => 0⟩

/-- A connection that is made: whether its limit on writes can be set, and the fate of the
first line. -/
structure Arrival where
  id : ClientId
  writeTimeoutSet : Except IoError Unit
  greeted : Except IoError Unit

/-- What happens during one turn of the loop. -/
structure FocusWorld where
  stopRequested : Bool
  processed : Except String Unit
  arrivals : List Arrival
  /-- The failure to accept that comes after the arrivals. -/
  accepted : IoError
  readTimeoutSet : Except IoError Unit
  reads : List Received
  changes : List (Bool × Except IoError Unit)

inductive RelayStop
  | stopped
  | failed (context detail : String)

abbrev RelayM := EStateM RelayStop Relay

/-- An operation of the system, and what to say when it fails. -/
def context (message : String) (result : Except IoError Unit) : RelayM Unit :=
  match result with
  | .ok () => pure ()
  | .error error => throw (.failed message error.detail)

/-! ### The steps of a turn -/

/-- A client has taken a line. -/
def Relay.tell (relay : Relay) (id : ClientId) (focused : Bool) : Relay :=
  { relay with written := Function.update relay.written id (relay.written id ++ [focused]) }

/-- Greet one client. -/
def welcome (arrival : Arrival) : RelayM Unit := do
  context "failed to configure focus client" (setTimeout arrival.writeTimeoutSet (some (seconds 1)))
  modify fun relay => { relay with
    joined := Function.update relay.joined arrival.id relay.log.length }
  let relay ← get
  match relay.lastFocus with
  | none => pure ()
  | some focused =>
    context "failed to initialize focus client" arrival.greeted
    modify fun relay => relay.tell arrival.id focused
  modify fun relay => { relay with client := some arrival.id }

def acceptClient (world : FocusWorld) : RelayM Unit := do
  runAll welcome world.arrivals
  if world.accepted.kind = .wouldBlock then pure ()
  else throw (.failed "failed to accept focus client" world.accepted.detail)

/-- Read what the client has sent: whether it is still there, and the text so far.  `lossy` is
`String::from_utf8_lossy`. -/
def readCommands (lossy : List UInt8 → List Char) : List Received → List Char → Bool × List Char
  | [], buffer => (true, buffer)
  | .ok [] :: _, buffer => (false, buffer)
  | .ok chunk :: reads, buffer => readCommands lossy reads (buffer ++ lossy chunk)
  | .error error :: _, buffer => (error.kind == .wouldBlock || error.kind == .timedOut, buffer)

/-- The complete lines of the text, and the rest. -/
def takeRequests (buffer : List Char) : List String × List Char :=
  let pieces := splitOn '\n' buffer
  ((pieces.dropLast.map fun piece => trim rustBlank (.ofList piece)).filter (· ≠ ""),
    pieces.getLastD [])

/-- A failed request to move the cursor is only logged. -/
def handleClientCommands (lossy : List UInt8 → List Char) (world : FocusWorld) : RelayM Unit := do
  let relay ← get
  match relay.client with
  | none => pure ()
  | some _ =>
    context "failed to configure focus client for warp requests"
      (setTimeout world.readTimeoutSet (some 0))
    let (stays, buffer) := readCommands lossy world.reads relay.clientBuffer
    if stays then
      let (requests, rest) := takeRequests buffer
      modify fun relay => { relay with
        clientBuffer := rest, requests := relay.requests ++ requests }
    else
      modify fun relay => { relay with clientBuffer := buffer, client := none }

/-- A client that does not take a line is dropped. -/
def writeFocus (change : Bool × Except IoError Unit) : RelayM Unit :=
  modify fun relay =>
    let relay := { relay with lastFocus := some change.1, log := relay.log ++ [change.1] }
    match relay.client, change.2 with
    | none, _ => relay
    | some id, .ok () => relay.tell id change.1
    | some _, .error _ => { relay with client := none }

/-- `Connection::process`, which hands the changes over. -/
def processEvents (world : FocusWorld) : RelayM Unit :=
  match world.processed with
  | .ok () => pure ()
  | .error detail => throw (.failed "desktop D-Bus focus listener failed" detail)

def relayTurn (lossy : List UInt8 → List Char) (world : FocusWorld) : RelayM Unit := do
  if world.stopRequested then throw .stopped
  processEvents world
  acceptClient world
  handleClientCommands lossy world
  runAll writeFocus world.changes

/-! ### What the relay is for -/

/-- The client has been told the state it found and every change since. -/
def Relay.UpToDate (relay : Relay) : Prop :=
  ∀ id, relay.client = some id → relay.written id = relay.log.drop (relay.joined id - 1)

/-- Nothing but the clients misbehaves: the relay is not told to stop, the desktop answers,
and the only failure to accept is that nobody is there. -/
structure FocusWorld.Sound (world : FocusWorld) : Prop where
  goesOn : world.stopRequested = false
  processed : world.processed = .ok ()
  accepted : world.accepted.kind = .wouldBlock

variable {lossy : List UInt8 → List Char} {world : FocusWorld} {relay : Relay}

/-- **Reading the requests of a client fails**: the limit on reads is zero, which is refused. -/
theorem handleClientCommands_fails {id : ClientId} (h : relay.client = some id) :
    wp (handleClientCommands lossy world) (fun _ _ => False) (fun _ _ => True) relay := by
  simp only [handleClientCommands, wp_bind, wp_get, h, setTimeout_zero, context, wp_throw]

theorem wp_context {message : String} {result : Except IoError Unit} {Q : Unit → Relay → Prop}
    (hQ : Q () relay) : wp (context message result) Q (fun _ _ => True) relay := by
  cases result with
  | ok u => exact hQ
  | error error => trivial

/-- A client that is greeted is the client. -/
theorem welcome_client (arrival : Arrival) :
    wp (welcome arrival) (fun _ relay' => relay'.client.isSome = true) (fun _ _ => True) relay := by
  simp only [welcome, wp_bind, wp_modify, wp_get]
  refine wp_context ?_
  cases relay.lastFocus with
  | none => rfl
  | some focused =>
    simp only [wp_bind, wp_modify]
    exact wp_context rfl

/-- When somebody connects there is a client. -/
theorem acceptClient_client (h : world.arrivals ≠ []) :
    wp (acceptClient world) (fun _ relay' => relay'.client.isSome = true) (fun _ _ => True)
      relay := by
  obtain ⟨arrival, rest, hcons⟩ := List.exists_cons_of_ne_nil h
  have hrest : ∀ relay' : Relay, relay'.client.isSome = true →
      wp (runAll welcome rest) (fun _ relay'' => relay''.client.isSome = true) (fun _ _ => True)
        relay' := fun _ hsome =>
    wp_runAll (fun arrival _ _ => welcome_client arrival) rest hsome
  rw [acceptClient, hcons, runAll, wp_bind, wp_bind]
  refine wp_mono (welcome_client arrival) (fun _ relay' hsome => ?_) fun _ _ h => h
  refine wp_mono (hrest relay' hsome) (fun _ _ hsome => ?_) fun _ _ h => h
  rw [wp_ite]
  split
  · exact hsome
  · trivial

/-- **A turn in which somebody connects ends the relay.** -/
theorem relayTurn_fails (hsound : world.Sound) (h : world.arrivals ≠ []) :
    wp (relayTurn lossy world) (fun _ _ => False) (fun _ _ => True) relay := by
  simp only [relayTurn, hsound.goesOn, processEvents, hsound.processed, Bool.false_eq_true, if_false,
    wp_bind, wp_pure]
  refine wp_mono (acceptClient_client h) (fun _ relay' hsome => ?_) fun _ _ h => h
  obtain ⟨id, hid⟩ := Option.isSome_iff_exists.mp hsome
  exact wp_mono (handleClientCommands_fails hid) (fun _ _ => False.elim) fun _ _ h => h

/-- A turn in which nobody connects only takes the changes in. -/
theorem relayTurn_alone (hsound : world.Sound) (h : world.arrivals = [])
    (hclient : relay.client = none) :
    wp (relayTurn lossy world) (fun _ relay' => relay'.client = none) (fun _ _ => False) relay := by
  simp only [relayTurn, hsound.goesOn, processEvents, hsound.processed, acceptClient,
    hsound.accepted, h, runAll, Bool.false_eq_true, if_false, if_true, wp_bind, wp_pure,
    handleClientCommands, wp_get, hclient]
  refine wp_runAll (fun change relay' hnone => ?_) world.changes hclient
  simp only [writeFocus, wp_modify, hnone]

/-- **The relay goes on, and keeps its client up to date, exactly while nobody connects.** -/
theorem relay_survives_iff (lossy : List UInt8 → List Char) (worlds : List FocusWorld)
    (hsound : ∀ world ∈ worlds, world.Sound) :
    (∃ relay, runAll (relayTurn lossy) worlds .new = .ok () relay ∧ relay.UpToDate) ↔
      ∀ world ∈ worlds, world.arrivals = [] := by
  have hrun : (∃ relay, runAll (relayTurn lossy) worlds Relay.new = .ok () relay) ↔
      ∀ world ∈ worlds, world.arrivals = [] :=
    runAll_ok_iff (fun world hworld h relay hclient => relayTurn_alone (hsound world hworld) h hclient)
      (fun world hworld h relay _ => relayTurn_fails (hsound world hworld) h)
      (rfl : Relay.new.client = none)
  refine ⟨fun ⟨relay, hok, _⟩ => hrun.mp ⟨relay, hok⟩, fun harrivals => ?_⟩
  obtain ⟨relay, hok⟩ := hrun.mpr harrivals
  have hnone : wp (runAll (relayTurn lossy) worlds) (fun _ relay => relay.client = none)
      (fun _ _ => False) Relay.new :=
    wp_runAll_of_mem (fun world hworld relay hclient =>
      relayTurn_alone (hsound world hworld) (harrivals world hworld) hclient) rfl
  refine ⟨relay, hok, fun id hid => ?_⟩
  have hclient := wp_ok hnone hok
  cases hid.symm.trans hclient

/-- The focus changes while nobody is connected. -/
def quiet : FocusWorld where
  stopRequested := false
  processed := .ok ()
  arrivals := []
  accepted := ⟨.wouldBlock, "Resource temporarily unavailable (os error 11)"⟩
  readTimeoutSet := .ok ()
  reads := []
  changes := [(true, .ok ())]

/-- The session connects and takes its first line. -/
def connecting : FocusWorld := { quiet with arrivals := [⟨0, .ok (), .ok ()⟩] }

theorem quiet_survives : ∃ relay,
    runAll (relayTurn fun _ => []) [quiet, quiet] .new = .ok () relay ∧ relay.UpToDate :=
  (relay_survives_iff (fun _ => []) [quiet, quiet] (by
    simp only [List.forall_mem_cons, List.not_mem_nil, false_imp_iff, implies_true, and_true]
    exact ⟨⟨rfl, rfl, rfl⟩, rfl, rfl, rfl⟩)).mpr (by simp [quiet])

/-- The limit that is refused ends the relay as soon as the session has connected. -/
theorem connecting_ends_relay : ∃ relay,
    runAll (relayTurn fun _ => []) [quiet, connecting] .new =
      .error (.failed "failed to configure focus client for warp requests"
        "cannot set a 0 duration timeout") relay :=
  ⟨_, rfl⟩

end FocusRelay

end Wroid
