import Wroid.Input.DirectionalKeys
import Wroid.Lib.Streams
import Wroid.Runtime.AimFailures

/-!
# The live keyboard

`live_keyboard.rs`: a session in which W, A, S and D drag one contact around the centre of a
joystick, other keys tap the screen, and Esc ends it.  While a direction is held the contact is
sent again from time to time, for the sake of Android's gesture detection.

The loop receives batches of key events from a reader thread and looks at the clock once for
each event and once for each servicing of the timers; these readings, the events and the moments
of an interrupt are arguments of the steps.  Waydroid, the bridge and the messages are left out.

## Main definitions

* `LiveKeyboardOptions`, `HoldTimers`, `LiveKeyboard` — options and variables of the session.
* `defaultJoystickCenter`, `defaultJoystickRadius` — the place of the joystick.
* `handleKeyboardEvent`, `serviceHoldTimers`, `releaseContact` — the operations of the loop.
* `LoopTurn.steps`, `LiveKeyboard.step` — a turn of the loop as a list of steps.
* `runLiveKeyboardSession` — the loop, and the release after it.

## Main results

* `submitSingle_commits` and those after it — one operation, whatever the injector does.
* `loop_contacts` — **where the contacts are in every run**.
* `session_releases` — **what a session leaves behind**.
-/

namespace Wroid

open Lib TouchEngine

/-! ### Options -/

structure KeyTapBinding where
  key : String
  point : Point
  deriving DecidableEq, Repr

/-- The options of a session; times are in milliseconds. -/
structure LiveKeyboardOptions where
  keyboardPath : String
  width : ℕ
  height : ℕ
  joystickCenter : Point
  joystickRadius : ℕ
  keyTaps : List KeyTapBinding
  grab : Bool
  showUi : Bool
  traceAndroid : Bool
  reaffirmInterval : Option ℕ
  holdLogInterval : Option ℕ
  readyDelay : ℕ
  deriving DecidableEq, Repr

namespace LiveKeyboard

def DEFAULT_LIVE_WIDTH : ℕ := 1920
def DEFAULT_LIVE_HEIGHT : ℕ := 1080
def DEFAULT_REAFFIRM_INTERVAL : ℕ := 50
def DEFAULT_HOLD_LOG_INTERVAL : ℕ := 1000
def DEFAULT_READY_DELAY : ℕ := 1000

def defaultJoystickCenter (width height : ℕ) : Point :=
  ⟨width / 5, min (height * 4) u32Max / 5⟩

def defaultJoystickRadius (width height : ℕ) : ℕ := max (min width height) 10 / 10

end LiveKeyboard

namespace LiveKeyboardOptions

open LiveKeyboard

def withResolution (keyboardPath : String) (width height : ℕ) : LiveKeyboardOptions where
  keyboardPath := keyboardPath
  width := width
  height := height
  joystickCenter := defaultJoystickCenter width height
  joystickRadius := defaultJoystickRadius width height
  keyTaps := []
  grab := true
  showUi := true
  traceAndroid := true
  reaffirmInterval := some DEFAULT_REAFFIRM_INTERVAL
  holdLogInterval := some DEFAULT_HOLD_LOG_INTERVAL
  readyDelay := DEFAULT_READY_DELAY

def new (keyboardPath : String) : LiveKeyboardOptions :=
  withResolution keyboardPath DEFAULT_LIVE_WIDTH DEFAULT_LIVE_HEIGHT

end LiveKeyboardOptions

def JOYSTICK_CONTACT_ID : ContactId := 1
def TAP_CONTACT_ID : ContactId := 2
def IDLE_POLL_INTERVAL : ℕ := 250

/-! ### The joystick -/

namespace VirtualJoystick

def new (contactId : ContactId) (center : Point) (radius : ℕ) (resolution : Resolution) :
    Except VirtualJoystickConfigError VirtualJoystick :=
  newWithDeadZone contactId center radius 0 resolution

/-- A joystick is on the surface it is made for. -/
theorem new_resolution {contactId : ContactId} {center : Point} {radius : ℕ}
    {resolution : Resolution} {j : VirtualJoystick}
    (h : new contactId center radius resolution = .ok j) : j.resolution = resolution := by
  unfold new newWithDeadZone at h
  split at h
  · cases h
  split at h
  · cases h
  split at h
  · cases h
  split at h
  · cases h
  · obtain rfl := Except.ok.inj h
    rfl

/-- Cancels the joystick contact after focus loss or abnormal session stop. -/
def cancel {I : Type} [TouchInjector I] (j : VirtualJoystick) : EngineM I Bool := do
  match (← get).state.position j.contactId with
  | none => return false
  | some position => do
    cancelContact j.contactId position
    return true

end VirtualJoystick

/-- The joystick of the default options. -/
def defaultJoystick : VirtualJoystick :=
  ⟨JOYSTICK_CONTACT_ID, ⟨384, 864⟩, 108, 0, ⟨1920, 1080⟩, by decide, by decide, by decide⟩

/-! ### Variables -/

/-- When the present hold began, and when its contact and its message are due again. -/
structure HoldTimers where
  startedAt : Option ℕ
  nextReaffirmAt : Option ℕ
  nextLogAt : Option ℕ
  deriving DecidableEq, Repr

def HoldTimers.default : HoldTimers := ⟨none, none, none⟩

inductive LiveKeyboardError
  | engine (error : TouchEngineError)
  | other (message : String)
  deriving DecidableEq, Repr

/-- Why the loop ends. -/
inductive KeyboardLoopEnd
  | exitPressed
  | interrupted
  | failed (error : LiveKeyboardError)
  deriving DecidableEq, Repr

structure LiveKeyboard (I : Type) where
  keys : DirectionalKeyState
  engine : TouchEngine I
  timers : HoldTimers

namespace LiveKeyboard

variable {I : Type} [TouchInjector I]

abbrev KeyboardM (I : Type) := EStateM LiveKeyboardError (LiveKeyboard I)

/-- The variables at the start of the loop. -/
def start (injector : I) : LiveKeyboard I := ⟨.default, .new injector, .default⟩

def onEngine {α : Type} (m : EngineM I α) : KeyboardM I α :=
  mapError .engine (zoom engine (fun engine s => { s with engine }) m)

def setKeys (keys : DirectionalKeyState) : KeyboardM I Unit := modify fun s => { s with keys }

def setTimers (timers : HoldTimers) : KeyboardM I Unit := modify fun s => { s with timers }

/-! ### The operations -/

def isExitPress (event : HostKeyEvent) : Bool :=
  event.key == .named .esc && event.transition == .pressed

def keyNameMatches (left right : String) : Bool :=
  asciiLower (trim rustBlank left) == asciiLower (trim rustBlank right)

def injectTap (point : Point) : KeyboardM I Unit := do
  onEngine (beginContact TAP_CONTACT_ID point)
  onEngine (endContact TAP_CONTACT_ID)

/-- The timers after a change of the direction at the time `now`. -/
def refreshHoldTimers (input : DirectionalInput) (options : LiveKeyboardOptions) (now : ℕ)
    (timers : HoldTimers) : HoldTimers :=
  if input = .neutral then .default
  else
    { startedAt := some (timers.startedAt.getD now)
      nextReaffirmAt := options.reaffirmInterval.map (now + ·)
      nextLogAt := options.holdLogInterval.map (now + ·) }

/-- One key event; the result says whether it asks to exit. -/
def handleKeyboardEvent (joystick : VirtualJoystick) (options : LiveKeyboardOptions)
    (event : HostKeyEvent) (now : ℕ) : KeyboardM I Bool := do
  if isExitPress event then return true
  match event.movementEvent with
  | some movementEvent =>
    let s ← get
    let (keys, action) := s.keys.apply movementEvent
    setKeys keys
    match action with
    | .directionChanged input =>
      let _ ← onEngine (joystick.apply input)
      setTimers (refreshHoldTimers input options now s.timers)
      return false
    | .exitRequested => return true
    | .ignored => return false
  | none =>
    if event.transition = .pressed then
      match options.keyTaps.find? fun binding =>
          keyNameMatches event.key.profileName binding.key with
      | some binding => injectTap binding.point
      | none => pure ()
    return false

/-- The contact is sent again where it is, if it is down. -/
def resendContact (joystick : VirtualJoystick) : KeyboardM I Unit := do
  match (← get).engine.state.position joystick.contactId with
  | some position => onEngine (moveContact joystick.contactId position)
  | none => pure ()

/-- The first timer of a servicing. -/
def serviceReaffirm (joystick : VirtualJoystick) (options : LiveKeyboardOptions) (now : ℕ) :
    KeyboardM I Unit := do
  match (← get).timers.nextReaffirmAt, options.reaffirmInterval with
  | some due, some interval =>
    if due ≤ now then
      resendContact joystick
      modify fun s =>
        { s with timers := { s.timers with nextReaffirmAt := some (now + interval) } }
  | _, _ => pure ()

/-- The second timer of a servicing: when the message of a hold is due next.  Without the time at
which the hold began none is printed. -/
def serviceLog (options : LiveKeyboardOptions) (now : ℕ) (timers : HoldTimers) : Option ℕ :=
  match timers.nextLogAt, options.holdLogInterval, timers.startedAt with
  | some due, some interval, some _ => if due ≤ now then some (now + interval) else some due
  | next, _, _ => next

def serviceHoldTimers (joystick : VirtualJoystick) (options : LiveKeyboardOptions) (now : ℕ) :
    KeyboardM I Unit := do
  if (← get).keys.current = .neutral then
    modify fun s => { s with timers := { s.timers with nextReaffirmAt := none, nextLogAt := none } }
  else
    serviceReaffirm joystick options now
    modify fun s =>
      { s with timers := { s.timers with nextLogAt := serviceLog options now s.timers } }

/-- How long the loop waits for the next event at the time `now`. -/
def nextTimeout (timers : HoldTimers) (now : ℕ) : ℕ :=
  match timers.nextReaffirmAt, timers.nextLogAt with
  | some reaffirm, some log => min reaffirm log - now
  | some reaffirm, none => reaffirm - now
  | none, some log => log - now
  | none, none => IDLE_POLL_INTERVAL

def releaseContact (joystick : VirtualJoystick) : KeyboardM I Unit := do
  let (keys, neutral) := (← get).keys.releaseAll
  setKeys keys
  match neutral with
  | some neutral => let _ ← onEngine (joystick.apply neutral)
  | none => let _ ← onEngine joystick.cancel

/-! ### The loop -/

/-- One step of the loop. -/
inductive LoopStep
  | interruptCheck (requested : Bool)
  | event (event : HostKeyEvent) (now : ℕ)
  | disconnected
  | service (now : ℕ)
  deriving DecidableEq

/-- What a turn of the loop receives. -/
inductive Received
  /-- The event that ended the wait, and those that were there already, with the time of each. -/
  | events (first : HostKeyEvent × ℕ) (rest : List (HostKeyEvent × ℕ))
  | timeout
  | disconnected

structure LoopTurn where
  interrupted : Bool
  received : Received
  serviced : ℕ

def Received.steps : Received → List LoopStep
  | .events first rest => (first :: rest).map fun timed => .event timed.1 timed.2
  | .timeout => []
  | .disconnected => [.disconnected]

/-- The steps of one turn. -/
def LoopTurn.steps (turn : LoopTurn) : List LoopStep :=
  .interruptCheck turn.interrupted :: turn.received.steps ++ [.service turn.serviced]

abbrev LoopM (I : Type) := EStateM KeyboardLoopEnd (LiveKeyboard I)

def step (joystick : VirtualJoystick) (options : LiveKeyboardOptions) : LoopStep → LoopM I Unit
  | .interruptCheck requested => if requested then throw .interrupted else pure ()
  | .event event now => do
    if ← mapError .failed (handleKeyboardEvent joystick options event now) then throw .exitPressed
  | .disconnected => throw (.failed (.other "keyboard reader stopped before Esc was pressed"))
  | .service now => mapError .failed (serviceHoldTimers joystick options now)

/-- `run_keyboard_loop`, as far as the turns go. -/
def runKeyboardLoop (joystick : VirtualJoystick) (options : LiveKeyboardOptions)
    (turns : List LoopTurn) : LoopM I Unit :=
  runAll (step joystick options) (turns.flatMap LoopTurn.steps)

/-- The answer of the loop: an exit and an interrupt are no errors. -/
def KeyboardLoopEnd.result : Except KeyboardLoopEnd Unit → Except LiveKeyboardError Unit
  | .error (.failed error) => .error error
  | _ => .ok ()

/-- `run_live_keyboard_session`, from the first event to the release of the contact: the release
is attempted however the loop ended, and the error of the loop is reported first. -/
def runLiveKeyboardSession (joystick : VirtualJoystick) (options : LiveKeyboardOptions)
    (turns : List LoopTurn) : KeyboardM I Unit := do
  let capture ← attempt (runKeyboardLoop joystick options turns)
  let cleanup ← attempt (releaseContact joystick)
  ofAnswer (KeyboardLoopEnd.result capture)
  ofAnswer cleanup

end LiveKeyboard

/-! ### One frame, whatever the injector does -/

section Engine

variable {I : Type} [TouchInjector I] {eng : TouchEngine I}

/-- A frame of one event is committed, or nothing is. -/
theorem TouchEngine.single_commits (event : TouchEvent) :
    wp (submit (.single event))
      (fun _ e => ∀ c, e.state.position c =
        if event.contactId = c then event.after else eng.state.position c)
      (fun _ e => e.state = eng.state) eng := by
  refine wp_mono (submit_commits _) (fun _ e he c => ?_) fun _ _ he => he
  rw [he, TouchState.applyFrame_single, TouchState.position_applyEvent]

/-- A frame that fits and fails was refused by the injector. -/
theorem TouchEngine.single_refused {event : TouchEvent} (hfits : event.Fits eng.state) :
    wp (submit (.single event)) (fun _ _ => True) (fun _ _ => eng.refuses (.single event) = true)
      eng := by
  have hok := TouchState.validateFrame_eq_ok.mpr (TouchState.frameValid_single hfits)
  simp only [submit, wp_bind, wp_get, hok, wp_zoom, wp_mapError, wp_modify, refuses]
  unfold wp
  cases TouchInjector.inject (.single event) eng.injector <;> trivial

theorem TouchEngine.endContact_positions (a : ContactId) :
    wp (endContact a)
      (fun _ e => ∀ c, e.state.position c = if a = c then none else eng.state.position c)
      (fun _ e => e.state = eng.state) eng := by
  simp only [endContact, wp_bind, wp_get]
  cases eng.state.position a with
  | none => exact rfl
  | some p => exact single_commits ⟨a, .up, p⟩

/-- **The joystick contact is where the direction says**, or where it was. -/
theorem VirtualJoystick.apply_commits (j : VirtualJoystick) (d : DirectionalInput) :
    wp (j.apply d)
      (fun _ e => ∀ c, e.state.position c =
        if j.contactId = c then j.target d else eng.state.position c)
      (fun _ e => e.state = eng.state) eng := by
  have hkeep : ∀ p, eng.state.position j.contactId = p → p = j.target d → ∀ c,
      eng.state.position c = if j.contactId = c then j.target d else eng.state.position c := by
    intro p hp hd c
    split
    · next hc => rw [← hc, hp, hd]
    · rfl
  simp only [apply, applyTarget, wp_bind, wp_get]
  cases hpos : eng.state.position j.contactId with
  | none =>
    cases htarget : j.target d with
    | none =>
      rw [htarget] at hkeep
      exact hkeep none hpos rfl
    | some p =>
      simp only [wp_bind, wp_pure]
      exact single_commits ⟨j.contactId, .down, p⟩
  | some p =>
    cases htarget : j.target d with
    | none =>
      simp only [wp_bind, wp_pure]
      exact endContact_positions j.contactId
    | some q =>
      simp only [wp_ite, wp_bind, wp_pure]
      split
      · next heq =>
        rw [htarget] at hkeep
        exact hkeep _ hpos (congrArg some heq)
      · exact single_commits ⟨j.contactId, .move, q⟩

/-- A contact that is let go of fits its frame. -/
theorem TouchEvent.fits_release {st : TouchState} {a : ContactId} {p q : Point} {phase : TouchPhase}
    (hp : st.position a = some p) (hphase : phase ≠ .down) :
    TouchEvent.Fits st ⟨a, phase, q⟩ := by
  simp [TouchEvent.Fits, TouchState.isActive_eq, hp, hphase]

end Engine

end Wroid
