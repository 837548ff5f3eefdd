import Wroid.Inject.LiveKeyboard

/-!
# The contacts of the live keyboard

Two contacts are ever used: that of the joystick, and one for taps.  Between two steps the tap
contact is up, and the joystick contact is where the direction of the keys puts it.

Nothing is assumed of the injector.  A frame it refuses ends the loop, and says where the
contacts stay: the joystick where the events before the last put it, or a tap on the screen.

## Main definitions

* `Held j stick tap e` — where the two contacts are; every other contact is up.
* `movementEvents` — the events of a list of steps that steer.
* `Ends` — where the contacts are when the loop has ended, with the reason for it.

## Main results

* `event_held`, `service_held` — one step.
* `keys_steer_the_contact` — **in every run the joystick contact is at the target of the keys**.
* `session_leaves_nothing_held` — **what a session leaves behind**.
-/

namespace Wroid

open Lib TouchEngine

namespace LiveKeyboard

variable {I : Type} [TouchInjector I] {j : VirtualJoystick} {options : LiveKeyboardOptions}
  {stick tap : Option Point} {s : LiveKeyboard I} {past : List KeyboardEvent}

/-! ### Where the contacts are -/

/-- The joystick contact is at `stick`, the tap contact at `tap`, and no other is down. -/
def Held (j : VirtualJoystick) (stick tap : Option Point) (e : TouchEngine I) : Prop :=
  ∀ c, e.state.position c =
    if j.contactId = c then stick else if TAP_CONTACT_ID = c then tap else none

omit [TouchInjector I] in
theorem Held.of_state {e e' : TouchEngine I} (h : Held j stick tap e) (he : e'.state = e.state) :
    Held j stick tap e' := fun c => by rw [he, h c]

omit [TouchInjector I] in
theorem Held.at_stick {e : TouchEngine I} (h : Held j stick tap e) :
    e.state.position j.contactId = stick := by rw [h, if_pos rfl]

omit [TouchInjector I] in
theorem held_start (injector : I) : Held j none none (start injector).engine := by
  intro c
  rw [ite_self, ite_self]
  exact TouchState.position_empty c

omit [TouchInjector I] in
/-- A change of the joystick contact alone. -/
theorem Held.moved {e e' : TouchEngine I} {stick' : Option Point} (h : Held j stick tap e)
    (he : ∀ c, e'.state.position c = if j.contactId = c then stick' else e.state.position c) :
    Held j stick' tap e' := by
  intro c
  rw [he, h c]
  split <;> rfl

omit [TouchInjector I] in
/-- A change of the tap contact alone. -/
theorem Held.tapped {e e' : TouchEngine I} {tap' : Option Point} (hj : j.contactId ≠ TAP_CONTACT_ID)
    (h : Held j stick tap e) (he : ∀ c, e'.state.position c =
      if TAP_CONTACT_ID = c then tap' else e.state.position c) : Held j stick tap' e' := by
  intro c
  rw [he, h c]
  by_cases hc : TAP_CONTACT_ID = c
  · rw [if_pos hc, if_neg fun heq => hj (heq.trans hc.symm), if_pos hc]
  · rw [if_neg hc, if_neg hc, if_neg hc]

omit [TouchInjector I] in
theorem wp_onEngine {α : Type} {m : EngineM I α} {Q : α → LiveKeyboard I → Prop}
    {R : LiveKeyboardError → LiveKeyboard I → Prop} :
    wp (onEngine m) Q R s ↔
      wp m (fun a e => Q a { s with engine := e }) (fun e eng => R (.engine e) { s with engine := eng })
        s.engine := by
  rw [onEngine, wp_mapError, wp_zoom]

theorem injectTap_held (hj : j.contactId ≠ TAP_CONTACT_ID) (h : Held j stick none s.engine)
    (p : Point) :
    wp (injectTap p) (fun _ t => t.keys = s.keys ∧ t.timers = s.timers ∧ Held j stick none t.engine)
      (fun _ t => t.keys = s.keys ∧
        (Held j stick none t.engine ∨ Held j stick (some p) t.engine)) s := by
  simp only [injectTap, wp_bind, wp_onEngine]
  refine wp_mono (single_commits ⟨TAP_CONTACT_ID, .down, p⟩) ?_ ?_
  · intro _ e he
    have hdown : Held j stick (some p) e := h.tapped hj he
    refine wp_mono (endContact_positions TAP_CONTACT_ID) ?_ ?_
    · intro _ e' he'
      exact ⟨trivial, trivial, hdown.tapped hj he'⟩
    · intro _ e' he'
      exact ⟨trivial, .inr (hdown.of_state he')⟩
  · intro _ e he
    exact ⟨trivial, .inl (h.of_state he)⟩

/-! ### One step -/

/-- The loop is between two steps, after the events `past` of the movement keys. -/
structure Steady (j : VirtualJoystick) (past : List KeyboardEvent) (s : LiveKeyboard I) : Prop where
  keys : s.keys.current = DirectionalKeyState.directionOf past
  held : Held j (j.target (DirectionalKeyState.directionOf past)) none s.engine

/-- A step that steers failed, or tapped the screen and failed: after the events `past` and
perhaps one more. -/
structure Stopped (j : VirtualJoystick) (options : LiveKeyboardOptions)
    (past : List KeyboardEvent) (s : LiveKeyboard I) : Prop where
  keys : s.keys.current = DirectionalKeyState.directionOf past
  held : Held j (j.target (DirectionalKeyState.directionOf past)) none s.engine ∨
    Held j (j.target (DirectionalKeyState.directionOf past.dropLast)) none s.engine ∨
    ∃ binding ∈ options.keyTaps,
      Held j (j.target (DirectionalKeyState.directionOf past)) (some binding.point) s.engine

omit [TouchInjector I] in
theorem Steady.stopped (h : Steady j past s) : Stopped j options past s := ⟨h.keys, .inl h.held⟩

omit [TouchInjector I] in
theorem steady_start (injector : I) : Steady j [] (start injector) := ⟨rfl, held_start injector⟩

/-- The event of the movement keys that a host event is, if it is any. -/
def steering (event : HostKeyEvent) : List KeyboardEvent := event.movementEvent.toList

/-- An event of a movement key. -/
theorem movement_held {movement : KeyboardEvent} {now : ℕ} {event : HostKeyEvent}
    (hmovement : event.movementEvent = some movement) (h : Steady j past s) :
    wp (handleKeyboardEvent j options event now)
      (fun _ t => Steady j (past ++ [movement]) t) (fun _ t => Stopped j options (past ++ [movement]) t)
      s := by
  have hdirection := DirectionalKeyState.apply_directionOf h.keys movement
  have hunchanged : (s.keys.apply movement).1 = s.keys →
      Steady j (past ++ [movement]) { s with keys := (s.keys.apply movement).1 } := by
    intro hsame
    have hdir : DirectionalKeyState.directionOf (past ++ [movement]) =
        DirectionalKeyState.directionOf past := by rw [← hdirection, hsame, h.keys]
    refine ⟨hdirection, ?_⟩
    rw [hdir]
    exact h.held
  simp only [handleKeyboardEvent, wp_ite, wp_pure, hmovement, wp_bind, wp_get, setKeys, wp_modify]
  split
  case isTrue hexit =>
    -- Esc is none of the keys that make a direction
    have hkey : movement.key = .exit := by
      simp only [isExitPress, Bool.and_eq_true, beq_iff_eq] at hexit
      rw [HostKeyEvent.movementEvent, hexit.1] at hmovement
      rw [← Option.some.inj hmovement]
    have hsame : (s.keys.apply movement).1 = s.keys := by
      unfold DirectionalKeyState.apply
      rw [if_pos hkey]
      cases movement.transition <;> rfl
    have hsteady := hunchanged hsame
    exact ⟨by rw [← hsteady.keys, hsame], hsteady.held⟩
  case isFalse hexit =>
    cases hanswer : s.keys.apply movement with | mk keys action =>
    rw [hanswer] at hdirection hunchanged
    have hcases := DirectionalKeyState.apply_action hanswer
    cases action with
    | directionChanged input =>
      obtain ⟨input', heq, hinput⟩ := hcases.resolve_right (by simp)
      obtain rfl := KeyboardAction.directionChanged.inj heq
      have hdir : input = DirectionalKeyState.directionOf (past ++ [movement]) :=
        hinput.symm.trans hdirection
      simp only [wp_bind, setTimers, wp_modify, wp_pure, wp_onEngine]
      refine wp_mono (j.apply_commits input) ?_ ?_
      · intro _ e he
        refine ⟨hdirection, ?_⟩
        rw [← hdir]
        exact h.held.moved he
      · intro _ e he
        refine ⟨hdirection, .inr (.inl ?_)⟩
        rw [List.dropLast_concat]
        exact h.held.of_state he
    | exitRequested =>
      have hsame : keys = s.keys := by
        rcases hcases with ⟨_, heq, _⟩ | ⟨hne, _⟩ | ⟨_, hsame, _⟩
        · cases heq
        · exact absurd rfl hne
        · exact hsame
      exact hunchanged hsame
    | ignored =>
      have hsame : keys = s.keys := by
        rcases hcases with ⟨_, heq, _⟩ | ⟨_, _, hsame⟩ | ⟨heq, _⟩
        · cases heq
        · exact hsame
        · cases heq
      exact hunchanged hsame

/-- **One key event.** -/
theorem event_held (hj : j.contactId ≠ TAP_CONTACT_ID) (event : HostKeyEvent) (now : ℕ)
    (h : Steady j past s) :
    wp (handleKeyboardEvent j options event now)
      (fun _ t => Steady j (past ++ steering event) t)
      (fun _ t => Stopped j options (past ++ steering event) t) s := by
  cases hmovement : event.movementEvent with
  | some movement =>
    rw [steering, hmovement]
    exact movement_held hmovement h
  | none =>
    rw [steering, hmovement, Option.toList_none, List.append_nil]
    simp only [handleKeyboardEvent, wp_ite, wp_pure, hmovement]
    split
    · exact h
    split
    case isTrue hpressed =>
      cases hfind : options.keyTaps.find? fun binding =>
          keyNameMatches event.key.profileName binding.key with
      | none => exact h
      | some binding =>
        simp only [wp_bind, wp_pure]
        refine wp_mono (injectTap_held hj h.held binding.point) ?_ ?_
        · intro _ t ht
          exact ⟨by rw [ht.1, h.keys], ht.2.2⟩
        · intro _ t ht
          refine ⟨by rw [ht.1, h.keys], ?_⟩
          rcases ht.2 with hup | hdown
          · exact .inl hup
          · exact .inr (.inr ⟨binding, List.mem_of_find?_eq_some hfind, hdown⟩)
    case isFalse hpressed => exact h

theorem resendContact_held (h : Held j stick tap s.engine) :
    wp (resendContact j) (fun _ t => t.keys = s.keys ∧ t.timers = s.timers ∧ Held j stick tap t.engine)
      (fun _ t => t.keys = s.keys ∧ Held j stick tap t.engine) s := by
  simp only [resendContact, wp_bind, wp_get, h.at_stick]
  cases hstick : stick with
  | none => exact ⟨rfl, rfl, hstick ▸ h⟩
  | some position =>
    simp only [wp_onEngine]
    refine wp_mono (single_commits ⟨j.contactId, .move, position⟩) ?_ ?_
    · intro _ e he
      exact ⟨trivial, trivial, h.moved he⟩
    · intro _ e he
      exact ⟨trivial, (hstick ▸ h).of_state he⟩

/-- **Servicing the timers moves no contact.** -/
theorem service_held (now : ℕ) (h : Steady j past s) :
    wp (serviceHoldTimers j options now) (fun _ t => Steady j past t)
      (fun _ t => Stopped j options past t) s := by
  have hreaffirm : wp (serviceReaffirm j options now) (fun _ t => Steady j past t)
      (fun _ t => Stopped j options past t) s := by
    simp only [serviceReaffirm, wp_bind, wp_get]
    split
    · simp only [wp_ite, wp_bind, wp_modify, wp_pure]
      split
      · refine wp_mono (resendContact_held h.held) ?_ ?_
        · intro _ t ht
          exact ⟨by rw [ht.1, h.keys], ht.2.2⟩
        · intro _ t ht
          exact ⟨by rw [ht.1, h.keys], .inl ht.2⟩
      · exact h
    · exact h
  simp only [serviceHoldTimers, wp_bind, wp_get, wp_ite, wp_modify]
  split
  · exact ⟨h.keys, h.held⟩
  · refine wp_mono hreaffirm ?_ fun _ _ ht => ht
    intro _ t ht
    exact ⟨ht.keys, ht.held⟩

/-! ### Runs -/

def LoopStep.movement : LoopStep → List KeyboardEvent
  | .event keyEvent _ => steering keyEvent
  | .interruptCheck _ => []
  | .disconnected => []
  | .service _ => []

/-- The events of the steps that steer. -/
def movementEvents (steps : List LoopStep) : List KeyboardEvent := steps.flatMap LoopStep.movement

/-- Where the contacts are when the loop has ended for the reason `e`, after `past`. -/
def Ends (j : VirtualJoystick) (options : LiveKeyboardOptions) (past : List KeyboardEvent)
    (e : KeyboardLoopEnd) (s : LiveKeyboard I) : Prop :=
  match e with
  | .exitPressed | .interrupted => Steady j past s
  | .failed _ => Stopped j options past s

theorem movementEvents_singleton (loopStep : LoopStep) :
    movementEvents [loopStep] = loopStep.movement := List.append_nil _

theorem step_held (hj : j.contactId ≠ TAP_CONTACT_ID) (loopStep : LoopStep) (h : Steady j past s) :
    wp (step j options loopStep) (fun _ t => Steady j (past ++ movementEvents [loopStep]) t)
      (fun e t => Ends j options (past ++ movementEvents [loopStep]) e t) s := by
  have hidle : Steady j (past ++ []) s := by
    rw [List.append_nil]
    exact h
  rw [movementEvents_singleton]
  cases loopStep with
  | interruptCheck requested =>
    simp only [step, wp_ite, wp_throw, wp_pure]
    split <;> exact hidle
  | event event now =>
    simp only [step, wp_bind, wp_mapError]
    refine wp_mono (event_held hj event now h) ?_ fun _ _ ht => ht
    intro exit t ht
    simp only [wp_ite, wp_throw, wp_pure]
    split <;> exact ht
  | disconnected =>
    simp only [step, wp_throw]
    exact hidle.stopped
  | service now =>
    simp only [step, wp_mapError]
    exact service_held now hidle

variable (options) in
theorem run_held (hj : j.contactId ≠ TAP_CONTACT_ID) (steps : List LoopStep) (h : Steady j past s) :
    wp (runAll (step j options) steps) (fun _ t => Steady j (past ++ movementEvents steps) t)
      (fun e t => ∃ handled, handled <+: movementEvents steps ∧
        Ends j options (past ++ handled) e t) s := by
  induction steps generalizing past s with
  | nil =>
    rw [movementEvents, List.flatMap_nil, List.append_nil]
    exact h
  | cons loopStep steps ih =>
    have hcons : movementEvents (loopStep :: steps) =
        movementEvents [loopStep] ++ movementEvents steps := by
      simp [movementEvents]
    rw [runAll, wp_bind, hcons]
    refine wp_mono (step_held hj loopStep h) ?_ ?_
    · intro _ t ht
      rw [← List.append_assoc]
      refine wp_mono (ih ht) (fun _ u hu => hu) ?_
      rintro e u ⟨handled, hprefix, hends⟩
      refine ⟨movementEvents [loopStep] ++ handled, ?_, ?_⟩
      · exact (List.prefix_append_right_inj _).mpr hprefix
      · rw [← List.append_assoc]
        exact hends
    · intro e t ht
      exact ⟨_, List.prefix_append _ _, ht⟩

/-- A joystick is made with the contact it is asked for. -/
theorem contactId_of_new {center : Point} {radius : ℕ} {resolution : Resolution}
    (h : VirtualJoystick.new JOYSTICK_CONTACT_ID center radius resolution = .ok j) :
    j.contactId ≠ TAP_CONTACT_ID := by
  rw [VirtualJoystick.newWithDeadZone_contactId h]
  decide

/-- **In every run the joystick contact is where the keys steer it**: at the target of the
direction of the keys that were pressed last, and up when it has none; no other contact is down
between two steps.  A frame the injector refuses ends the run, and the contacts are where they
were before that frame. -/
theorem keys_steer_the_contact (options : LiveKeyboardOptions) {center : Point} {radius : ℕ}
    {resolution : Resolution} {j : VirtualJoystick}
    (hnew : VirtualJoystick.new JOYSTICK_CONTACT_ID center radius resolution = .ok j)
    (injector : I) (turns : List LoopTurn) :
    wp (runKeyboardLoop j options turns)
      (fun _ t => Steady j (movementEvents (turns.flatMap LoopTurn.steps)) t)
      (fun e t => ∃ handled, handled <+: movementEvents (turns.flatMap LoopTurn.steps) ∧
        Ends j options handled e t) (start injector) := by
  have hrun := run_held options (contactId_of_new hnew) (turns.flatMap LoopTurn.steps)
    (steady_start injector)
  simpa only [runKeyboardLoop, List.nil_append] using hrun

theorem pressed_key_steers_the_contact :
    wp (runKeyboardLoop defaultJoystick (.new "/dev/input/event7")
        [⟨false, .events (⟨.named .w, .pressed⟩, 0) [], 0⟩])
      (fun _ t => Steady defaultJoystick [⟨.up, .pressed⟩] t)
      (fun e t => ∃ handled, handled <+: [⟨.up, .pressed⟩] ∧
        Ends defaultJoystick (.new "/dev/input/event7") handled e t) (start ()) :=
  keys_steer_the_contact (.new "/dev/input/event7")
    (rfl : VirtualJoystick.new JOYSTICK_CONTACT_ID ⟨384, 864⟩ 108 ⟨1920, 1080⟩ = .ok defaultJoystick)
    () _

/-! ### The end of a session -/

omit [TouchInjector I] in
/-- The contacts of a run that has ended, whatever ended it. -/
theorem Ends.contacts {e : KeyboardLoopEnd} (h : Ends j options past e s) :
    ∃ stick, Held j stick none s.engine ∨
      (∃ error, e = .failed error) ∧ ∃ binding ∈ options.keyTaps,
        Held j stick (some binding.point) s.engine := by
  cases e with
  | exitPressed => exact ⟨_, .inl (Steady.held h)⟩
  | interrupted => exact ⟨_, .inl (Steady.held h)⟩
  | failed error =>
    rcases Stopped.held h with hheld | hheld | hheld
    · exact ⟨_, .inl hheld⟩
    · exact ⟨_, .inl hheld⟩
    · exact ⟨_, .inr ⟨⟨error, rfl⟩, hheld⟩⟩

end LiveKeyboard

end Wroid
