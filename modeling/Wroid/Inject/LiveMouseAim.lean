import Wroid.Inject.LiveKeyboard
import Wroid.Runtime.MouseAim

/-!
# The live mouse aim

`live_mouse_aim.rs`: a session in which a mouse button, held, drags one contact with the mouse.
It uses the plain operations of `MouseAim`, which know no recentering and no remainders: each
motion is scaled, rounded towards zero and clamped to the region by itself.

Waydroid, the bridge and the messages are left out.

## Main definitions

* `MouseAim.beginAim`, `moveBy`, `endAim`, `cancelAim` — the operations of `MouseAim`.
* `LiveMouseAim.handleEvent` — one event of the mouse.
* `LiveMouseAim.runMouseAimLoop`, `runLiveMouseAimSession` — the loop, and the release after it.
* `LiveMouseAim.aimAfter` — where the events of the mouse put the contact.

## Main results

* `event_follows`, `cancel_lifts` — one event, and the cleanup.
* `aim_follows_the_mouse` — **in every run the contact is where the mouse has dragged it**.
* `aim_session_lifts` — **what a session leaves behind**.
-/

namespace Wroid

open Lib TouchEngine

/-! ### The operations of `MouseAim` -/

namespace MouseAimSensitivity

def oneToOne : MouseAimSensitivity := ⟨1, 1, Nat.one_ne_zero, Nat.one_ne_zero⟩

/-- The product fits its type, since the delta has 32 bits; the quotient is rounded to zero. -/
def scale (sensitivity : MouseAimSensitivity) (delta : ℤ) : ℤ :=
  (delta * sensitivity.numerator).tdiv sensitivity.denominator

end MouseAimSensitivity

namespace MouseAim

variable {I : Type} [TouchInjector I]

/-- Where a motion of the mouse takes the contact. -/
def target (aim : MouseAim) (delta : MouseAimDelta) (current : Point) : Point :=
  aim.region.clamp
    (offsetPoint current (aim.sensitivity.scale delta.dx) (aim.sensitivity.scale delta.dy))

def beginAim (aim : MouseAim) : EngineM I Bool := do
  if (← get).state.isActive aim.contactId then return false
  beginContact aim.contactId aim.origin
  return true

def moveBy (aim : MouseAim) (delta : MouseAimDelta) : EngineM I Bool := do
  if delta.isZero then return false
  match (← get).state.position aim.contactId with
  | none => return false
  | some current =>
    if aim.target delta current = current then return false
    moveContact aim.contactId (aim.target delta current)
    return true

def endAim (aim : MouseAim) : EngineM I Bool := do
  if !(← get).state.isActive aim.contactId then return false
  endContact aim.contactId
  return true

def cancelAim (aim : MouseAim) : EngineM I Bool := do
  match (← get).state.position aim.contactId with
  | none => return false
  | some position => do
    cancelContact aim.contactId position
    return true

end MouseAim

/-! ### The controller -/

inductive MouseAimAction
  | activated
  | moved
  | released
  | cancelled
  | ignored
  deriving DecidableEq, Repr

structure MouseAimBinding where
  activationButton : HostMouseButton
  deriving DecidableEq, Repr

/-- The controller of the live mouse aim. -/
structure LiveMouseAim where
  aim : MouseAim
  binding : MouseAimBinding

namespace LiveMouseAim

variable {I : Type} [TouchInjector I]

def handleButton (controller : LiveMouseAim) (button : HostMouseButton)
    (transition : KeyTransition) : EngineM I MouseAimAction := do
  if button ≠ controller.binding.activationButton then return .ignored
  match transition with
  | .pressed => return if ← controller.aim.beginAim then .activated else .ignored
  | .released => return if ← controller.aim.endAim then .released else .ignored
  | .repeated => return .ignored

def handleMotion (controller : LiveMouseAim) (dx dy : ℤ) : EngineM I MouseAimAction := do
  return if ← controller.aim.moveBy ⟨dx, dy⟩ then .moved else .ignored

def handleEvent (controller : LiveMouseAim) : MouseEvent → EngineM I MouseAimAction
  | .button button transition => handleButton controller button transition
  | .motion dx dy => handleMotion controller dx dy
  | .wheel _ _ => return .ignored

def cancel (controller : LiveMouseAim) : EngineM I MouseAimAction := do
  return if ← controller.aim.cancelAim then .cancelled else .ignored

/-! ### The loop -/

inductive LiveMouseAimError
  | engine (error : TouchEngineError)
  | other (message : String)
  deriving DecidableEq, Repr

/-- Why the loop ends. -/
inductive AimLoopEnd
  | interrupted
  | failed (error : LiveMouseAimError)
  deriving DecidableEq, Repr

/-- One step of the loop. -/
inductive AimLoopStep
  | interruptCheck (requested : Bool)
  | event (event : MouseEvent)
  | disconnected
  deriving DecidableEq

/-- A turn of the loop: the check, and what was received. -/
structure AimLoopTurn where
  interrupted : Bool
  received : List MouseEvent
  disconnected : Bool

def AimLoopTurn.steps (turn : AimLoopTurn) : List AimLoopStep :=
  .interruptCheck turn.interrupted :: turn.received.map .event ++
    if turn.disconnected then [.disconnected] else []

def step (controller : LiveMouseAim) : AimLoopStep → EStateM AimLoopEnd (TouchEngine I) Unit
  | .interruptCheck requested => if requested then throw .interrupted else pure ()
  | .event event => do
    let _ ← mapError (.failed ∘ .engine) (handleEvent controller event)
  | .disconnected => throw (.failed (.other "mouse reader stopped before Ctrl+C was requested"))

/-- `run_mouse_aim_loop`, as far as the turns go. -/
def runMouseAimLoop (controller : LiveMouseAim) (turns : List AimLoopTurn) :
    EStateM AimLoopEnd (TouchEngine I) Unit :=
  runAll (step controller) (turns.flatMap AimLoopTurn.steps)

/-- The answer of the loop: an interrupt is no error. -/
def AimLoopEnd.result : Except AimLoopEnd Unit → Except LiveMouseAimError Unit
  | .error (.failed error) => .error error
  | _ => .ok ()

/-- `run_live_mouse_aim_session`, from the first event to the release of the contact. -/
def runLiveMouseAimSession (controller : LiveMouseAim) (turns : List AimLoopTurn) :
    EStateM LiveMouseAimError (TouchEngine I) Unit := do
  let capture ← attempt (runMouseAimLoop controller turns)
  let cleanup ← attempt (cancel controller)
  ofAnswer (AimLoopEnd.result capture)
  match cleanup with
  | .ok _ => pure ()
  | .error error => throw (.engine error)

/-! ### Where the mouse has dragged the contact -/

/-- Where a motion drags a contact at `p`. -/
def drag (controller : LiveMouseAim) (delta : MouseAimDelta) (p : Point) : Point :=
  if delta.isZero then p else controller.aim.target delta p

/-- What a change of the activation button makes of the place of the contact. -/
def clickStep (controller : LiveMouseAim) (place : Option Point) : KeyTransition → Option Point
  | .pressed => some (place.getD controller.aim.origin)
  | .released => none
  | .repeated => place

/-- What an event makes of the place of the contact. -/
def aimStep (controller : LiveMouseAim) (place : Option Point) : MouseEvent → Option Point
  | .button button transition =>
    if button = controller.binding.activationButton then controller.clickStep place transition
    else place
  | .motion dx dy => place.map (controller.drag ⟨dx, dy⟩)
  | .wheel _ _ => place

/-- Where the events put the contact. -/
def aimAfter (controller : LiveMouseAim) (events : List MouseEvent) : Option Point :=
  events.foldl (aimStep controller) none

/-- Whether the activation button is held after a change of it. -/
def clickHeld (held : Bool) : KeyTransition → Bool
  | .pressed => true
  | .released => false
  | .repeated => held

/-- Whether the activation button is held after an event. -/
def buttonStep (controller : LiveMouseAim) (held : Bool) : MouseEvent → Bool
  | .button button transition =>
    if button = controller.binding.activationButton then clickHeld held transition else held
  | .motion _ _ => held
  | .wheel _ _ => held

/-- Whether the last press or release of the activation button was a press. -/
def buttonHeld (controller : LiveMouseAim) (events : List MouseEvent) : Bool :=
  events.foldl (buttonStep controller) false

variable {controller : LiveMouseAim}

theorem isSome_aimStep (place : Option Point) (event : MouseEvent) :
    (aimStep controller place event).isSome = buttonStep controller place.isSome event := by
  cases event with
  | motion dx dy => exact Option.isSome_map
  | wheel vertical horizontal => rfl
  | button button transition =>
    simp only [aimStep, buttonStep]
    split
    · cases transition <;> rfl
    · rfl

/-- **The contact is down exactly while the activation button is held.** -/
theorem isSome_aimAfter (events : List MouseEvent) :
    (aimAfter controller events).isSome = buttonHeld controller events := by
  have hrun : ∀ place : Option Point, (events.foldl (aimStep controller) place).isSome =
      events.foldl (buttonStep controller) place.isSome := by
    induction events with
    | nil => exact fun _ => rfl
    | cons event events ih =>
      intro place
      rw [List.foldl_cons, List.foldl_cons, ih, isSome_aimStep]
  exact hrun none

/-- The contact is in the region, where it is down. -/
def Inside (controller : LiveMouseAim) (place : Option Point) : Prop :=
  ∀ p ∈ place, controller.aim.region.Contains p

theorem inside_none : Inside controller none := fun _ hp => by cases hp

theorem aimStep_inside {place : Option Point} (h : Inside controller place) (event : MouseEvent) :
    Inside controller (aimStep controller place event) := by
  intro p hp
  cases event with
  | wheel vertical horizontal => exact h p hp
  | motion dx dy =>
    obtain ⟨q, hq, rfl⟩ := Option.map_eq_some_iff.mp hp
    unfold drag
    split
    · exact h q hq
    · exact controller.aim.clamp_inside _
  | button button transition =>
    simp only [aimStep] at hp
    split at hp
    · cases transition with
      | pressed =>
        obtain rfl := Option.some.inj hp
        cases place with
        | none => exact controller.aim.origin_inside
        | some q => exact h q rfl
      | released => cases hp
      | repeated => exact h p hp
    · exact h p hp

theorem aimAfter_inside (events : List MouseEvent) :
    Inside controller (aimAfter controller events) := by
  induction events using List.reverseRecOn with
  | nil => exact inside_none
  | append_singleton events event ih =>
    rw [aimAfter, List.foldl_append]
    exact aimStep_inside ih event

/-! ### One event -/

variable {place : Option Point} {eng : TouchEngine I}

/-- The contact of the aim is at `place`, and no other is down. -/
def AimAt (controller : LiveMouseAim) (place : Option Point) (e : TouchEngine I) : Prop :=
  ∀ c, e.state.position c = if controller.aim.contactId = c then place else none

omit [TouchInjector I] in
theorem aimAt_new (injector : I) : AimAt controller none (TouchEngine.new injector) := by
  intro c
  rw [ite_self]
  exact TouchState.position_empty c

omit [TouchInjector I] in
theorem AimAt.at_contact (h : AimAt controller place eng) :
    eng.state.position controller.aim.contactId = place := by rw [h, if_pos rfl]

omit [TouchInjector I] in
theorem AimAt.moved {e : TouchEngine I} {later : Option Point} (h : AimAt controller place eng)
    (he : ∀ c, e.state.position c =
      if controller.aim.contactId = c then later else eng.state.position c) :
    AimAt controller later e := by
  intro c
  rw [he, h c]
  split <;> rfl

omit [TouchInjector I] in
theorem AimAt.of_state {e : TouchEngine I} (h : AimAt controller place eng)
    (he : e.state = eng.state) : AimAt controller place e := fun c => by rw [he, h c]

theorem click_follows (transition : KeyTransition) (h : AimAt controller place eng) :
    wp (handleButton controller controller.binding.activationButton transition)
      (fun _ e => AimAt controller (controller.clickStep place transition) e)
      (fun _ e => AimAt controller place e) eng := by
  simp only [handleButton, ne_eq, not_true_eq_false, if_false]
  cases transition with
  | repeated => exact h
  | pressed =>
    simp only [wp_bind, MouseAim.beginAim, wp_get, TouchState.isActive_eq, h.at_contact]
    cases place with
    | some p => exact h
    | none =>
      simp only [Option.isSome_none, Bool.false_eq_true, if_false, wp_bind, wp_pure]
      refine wp_mono (single_commits ⟨controller.aim.contactId, .down, controller.aim.origin⟩) ?_ ?_
      · intro _ e he
        exact h.moved he
      · intro _ e he
        exact h.of_state he
  | released =>
    simp only [wp_bind, MouseAim.endAim, wp_get, TouchState.isActive_eq, h.at_contact]
    cases place with
    | none => exact h
    | some p =>
      simp only [Option.isSome_some, Bool.not_true, Bool.false_eq_true, if_false, wp_bind, wp_pure]
      refine wp_mono (endContact_positions controller.aim.contactId) ?_ ?_
      · intro _ e he
        exact h.moved he
      · intro _ e he
        exact h.of_state he

theorem motion_follows (dx dy : ℤ) (h : AimAt controller place eng) :
    wp (handleMotion controller dx dy)
      (fun _ e => AimAt controller (place.map (controller.drag ⟨dx, dy⟩)) e)
      (fun _ e => AimAt controller place e) eng := by
  simp only [handleMotion, MouseAim.moveBy, wp_bind, wp_get, wp_ite, wp_pure, h.at_contact]
  split
  case isTrue hzero =>
    have hdrag : controller.drag ⟨dx, dy⟩ = id := by
      funext p
      exact if_pos hzero
    rw [hdrag, Option.map_id]
    exact h
  case isFalse hzero =>
    have hdrag : controller.drag ⟨dx, dy⟩ = controller.aim.target ⟨dx, dy⟩ := by
      funext p
      exact if_neg hzero
    rw [hdrag]
    cases place with
    | none => exact h
    | some current =>
      simp only [wp_ite, wp_bind, wp_pure, Option.map_some]
      split
      case isTrue hsame =>
        rw [hsame]
        exact h
      case isFalse hother =>
        refine wp_mono (single_commits ⟨controller.aim.contactId, .move, _⟩) ?_ ?_
        · intro _ e he
          exact h.moved he
        · intro _ e he
          exact h.of_state he

/-- **One event of the mouse.** -/
theorem event_follows (event : MouseEvent) (h : AimAt controller place eng) :
    wp (handleEvent controller event) (fun _ e => AimAt controller (aimStep controller place event) e)
      (fun _ e => AimAt controller place e) eng := by
  cases event with
  | wheel vertical horizontal => exact h
  | motion dx dy => exact motion_follows dx dy h
  | button button transition =>
    by_cases hbutton : button = controller.binding.activationButton
    · subst hbutton
      rw [aimStep, if_pos rfl]
      exact click_follows transition h
    · simp only [handleEvent, handleButton, wp_ite, wp_pure]
      rw [aimStep, if_neg hbutton, if_pos hbutton]
      exact h

/-! ### Runs -/

/-- The events of a list of turns. -/
def received (turns : List AimLoopTurn) : List MouseEvent := turns.flatMap AimLoopTurn.received

/-- The events of a list of steps. -/
def stepEvents : List AimLoopStep → List MouseEvent
  | [] => []
  | .interruptCheck _ :: steps => stepEvents steps
  | .event event :: steps => event :: stepEvents steps
  | .disconnected :: steps => stepEvents steps

theorem stepEvents_append (left right : List AimLoopStep) :
    stepEvents (left ++ right) = stepEvents left ++ stepEvents right := by
  induction left with
  | nil => rfl
  | cons loopStep left ih =>
    cases loopStep with
    | interruptCheck requested => exact ih
    | event event => exact congrArg (event :: ·) ih
    | disconnected => exact ih

theorem stepEvents_turns (turns : List AimLoopTurn) :
    stepEvents (turns.flatMap AimLoopTurn.steps) = received turns := by
  have hevents : ∀ events : List MouseEvent, stepEvents (events.map .event) = events := by
    intro events
    induction events with
    | nil => rfl
    | cons event events ih => exact congrArg (event :: ·) ih
  induction turns with
  | nil => rfl
  | cons turn turns ih =>
    have hturn : stepEvents turn.steps = turn.received := by
      rw [AimLoopTurn.steps, List.cons_append, stepEvents, stepEvents_append, hevents]
      cases turn.disconnected <;> exact List.append_nil _
    rw [List.flatMap_cons, stepEvents_append, hturn, ih]
    rfl

/-- After the events `past` the contact is where they dragged it, down while the button is held,
and inside the region; no other contact is down. -/
structure Follows (controller : LiveMouseAim) (past : List MouseEvent) (e : TouchEngine I) :
    Prop where
  place : AimAt controller (aimAfter controller past) e
  held : (e.state.position controller.aim.contactId).isSome = buttonHeld controller past
  inside : Inside controller (e.state.position controller.aim.contactId)

omit [TouchInjector I] in
theorem AimAt.follows {past : List MouseEvent} (h : AimAt controller (aimAfter controller past) eng) :
    Follows controller past eng where
  place := h
  held := by rw [h.at_contact, isSome_aimAfter]
  inside := by
    rw [h.at_contact]
    exact aimAfter_inside past

/-- What has been handled when the loop ends, of the events `events`: with an error of the engine
the event after the handled ones was refused. -/
def Handled (events : List MouseEvent) (handled : List MouseEvent) : AimLoopEnd → Prop
  | .interrupted => handled <+: events
  | .failed (.other _) => handled <+: events
  | .failed (.engine _) => ∃ refused, handled ++ [refused] <+: events

theorem Handled.cons {events handled : List MouseEvent} {reason : AimLoopEnd}
    (h : Handled events handled reason) (event : MouseEvent) :
    Handled (event :: events) (event :: handled) reason := by
  cases reason with
  | interrupted => exact List.cons_prefix_cons.mpr ⟨rfl, h⟩
  | failed error =>
    cases error with
    | other message => exact List.cons_prefix_cons.mpr ⟨rfl, h⟩
    | engine error =>
      obtain ⟨refused, hprefix⟩ := h
      exact ⟨refused, List.cons_prefix_cons.mpr ⟨rfl, hprefix⟩⟩

variable (controller) in
theorem run_follows (steps : List AimLoopStep) (past : List MouseEvent)
    (h : AimAt controller (aimAfter controller past) eng) :
    wp (runAll (step controller) steps)
      (fun _ e => AimAt controller (aimAfter controller (past ++ stepEvents steps)) e)
      (fun reason e => ∃ handled, Handled (stepEvents steps) handled reason ∧
        AimAt controller (aimAfter controller (past ++ handled)) e) eng := by
  have hpast : AimAt controller (aimAfter controller (past ++ [])) eng := by
    rw [List.append_nil]
    exact h
  induction steps generalizing past eng with
  | nil => exact hpast
  | cons loopStep steps ih =>
    rw [runAll, wp_bind]
    cases loopStep with
    | interruptCheck requested =>
      simp only [step, wp_ite, wp_throw, wp_pure]
      split
      · exact ⟨[], List.nil_prefix, hpast⟩
      · exact ih past h hpast
    | disconnected =>
      simp only [step, wp_throw]
      exact ⟨[], List.nil_prefix, hpast⟩
    | event event =>
      simp only [step, wp_bind, wp_mapError, wp_pure]
      refine wp_mono (event_follows event h) ?_ ?_
      · intro _ e he
        have hevent : AimAt controller (aimAfter controller (past ++ [event])) e := by
          rw [aimAfter, List.foldl_append]
          exact he
        have hall : ∀ later : List MouseEvent, past ++ event :: later = past ++ [event] ++ later := by
          intro later
          rw [List.append_assoc, List.singleton_append]
        refine wp_mono (ih _ hevent (by rw [List.append_nil]; exact hevent)) ?_ ?_
        · intro _ e' he'
          rw [stepEvents, hall]
          exact he'
        · rintro reason e' ⟨handled, hhandled, he'⟩
          refine ⟨event :: handled, hhandled.cons event, ?_⟩
          rw [hall]
          exact he'
      · intro _ e he
        refine ⟨[], ⟨event, ?_⟩, ?_⟩
        · exact List.cons_prefix_cons.mpr ⟨rfl, List.nil_prefix⟩
        · rw [List.append_nil]
          exact he

/-- **In every run the contact is where the mouse has dragged it.**  It is down exactly while the
activation button is held and never leaves the region; nothing else is touched.  When the loop
ends early this holds of the events it has handled. -/
theorem aim_follows_the_mouse (controller : LiveMouseAim) (injector : I)
    (turns : List AimLoopTurn) :
    wp (runMouseAimLoop controller turns)
      (fun _ e => Follows controller (received turns) e)
      (fun reason e => ∃ handled, Handled (received turns) handled reason ∧
        Follows controller handled e) (TouchEngine.new injector) := by
  have hrun := run_follows controller (turns.flatMap AimLoopTurn.steps) [] (aimAt_new injector)
  rw [stepEvents_turns] at hrun
  refine wp_mono hrun (fun _ e he => AimAt.follows he) ?_
  rintro reason e ⟨handled, hhandled, he⟩
  exact ⟨handled, hhandled, AimAt.follows he⟩

/-! ### The end of a session -/

/-- The injector refuses to cancel the contact of the aim, which is at `p`. -/
def RefusesCancel (controller : LiveMouseAim) (p : Point) (e : TouchEngine I) : Prop :=
  e.refuses (.single ⟨controller.aim.contactId, .cancel, p⟩) = true

/-- **Cancelling lifts the contact**, unless the injector refuses. -/
theorem cancel_lifts (h : AimAt controller place eng) :
    wp (cancel controller) (fun _ e => AimAt controller none e)
      (fun _ e => AimAt controller place e ∧ ∃ p, place = some p ∧ RefusesCancel controller p eng)
      eng := by
  simp only [cancel, MouseAim.cancelAim, wp_bind, wp_get, h.at_contact]
  cases place with
  | none => exact h
  | some p =>
    simp only [cancelContact, wp_bind, wp_pure]
    refine wp_mono (wp_and (single_commits _)
      (single_refused (TouchEvent.fits_release h.at_contact (by decide)))) ?_ ?_
    · rintro _ e ⟨he, -⟩
      exact h.moved he
    · rintro _ e ⟨he, hrefused⟩
      exact ⟨h.of_state he, p, rfl, hrefused⟩

/-- What a session that reports an error leaves on the screen: nothing, or the contact where the
events it handled dragged it, when the injector refused to cancel it there. -/
def AimLeftover (controller : LiveMouseAim) (events : List MouseEvent) (e : TouchEngine I) : Prop :=
  AimAt controller none e ∨
    ∃ handled, handled <+: events ∧ ∃ before : TouchEngine I, ∃ p,
      aimAfter controller handled = some p ∧ RefusesCancel controller p before ∧
        AimAt controller (some p) e

theorem Handled.of_events {events handled : List MouseEvent} {reason : AimLoopEnd}
    (h : Handled events handled reason) : handled <+: events := by
  cases reason with
  | interrupted => exact h
  | failed error =>
    cases error with
    | other message => exact h
    | engine error =>
      obtain ⟨refused, hprefix⟩ := h
      exact (List.prefix_append _ _).trans hprefix

/-- **A session of the mouse aim lifts its contact**, however it ends; when it does not, it reports
an error, and the injector refused to cancel the contact. -/
theorem aim_session_lifts (controller : LiveMouseAim) (injector : I) (turns : List AimLoopTurn) :
    wp (runLiveMouseAimSession controller turns)
      (fun _ e => AimAt controller none e)
      (fun _ e => AimLeftover controller (received turns) e) (TouchEngine.new injector) := by
  have hcleanup : ∀ (answer : Except AimLoopEnd Unit) (handled : List MouseEvent)
      (e : TouchEngine I), handled <+: received turns →
      AimAt controller (aimAfter controller handled) e →
      wp (do
          let cleanup ← attempt (cancel controller)
          ofAnswer (AimLoopEnd.result answer)
          match cleanup with
          | .ok _ => pure ()
          | .error error => throw (.engine error))
        (fun _ e => AimAt controller none e)
        (fun _ e => AimLeftover controller (received turns) e) e := by
    intro answer handled e hprefix he
    simp only [wp_bind, wp_attempt]
    refine wp_mono (cancel_lifts he) ?_ ?_
    · intro _ e' he'
      rw [wp_ofAnswer]
      exact ⟨fun _ _ => he', fun _ _ => .inl he'⟩
    · rintro error e' ⟨he', p, hp, hrefused⟩
      have hleft : AimLeftover controller (received turns) e' :=
        .inr ⟨handled, hprefix, e, p, hp, hrefused, hp ▸ he'⟩
      rw [wp_ofAnswer]
      exact ⟨fun _ _ => hleft, fun _ _ => hleft⟩
  have hrun := run_follows controller (turns.flatMap AimLoopTurn.steps) [] (aimAt_new injector)
  rw [stepEvents_turns] at hrun
  rw [runLiveMouseAimSession, wp_bind, wp_attempt]
  refine wp_mono hrun ?_ ?_
  · intro _ e he
    exact hcleanup (.ok ()) (received turns) e (List.prefix_refl _) he
  · rintro reason e ⟨handled, hhandled, he⟩
    exact hcleanup (.error reason) handled e hhandled.of_events he

end LiveMouseAim

end Wroid
