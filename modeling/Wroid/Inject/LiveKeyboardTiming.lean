import Wroid.Inject.LiveKeyboardSafety

/-!
# When the live keyboard sends its contact again

While a direction is held the loop sends the contact of the joystick again where it is.  A
servicing of the timers does so when the reaffirm interval is over; a change of the direction
starts the interval anew.

The frames are read off a recorder around the injector, with the clock reading of the step that
submitted them.

## Main definitions

* `observed` — the frames of a run, each with its time.
* `Chronological` — the clock does not go back in the course of a run.
* `Sent`, `Stepped` — what one step does to the joystick contact and to its timer.
* `Repeats` — a frame that leaves a contact where the frame before it has put it.

## Main results

* `step_stepped` — one step.
* `reaffirmations_are_paced` — **a contact is never repeated before the interval is over, and is
  never left waiting longer than the interval**.
-/

namespace Wroid

open Lib TouchEngine

namespace LiveKeyboard

/-! ### Observing a run -/

section Observe

variable {I : Type} [TouchInjector I]

/-- The reading of the clock in a step that reads it. -/
def LoopStep.time : LoopStep → Option ℕ
  | .event _ now | .service now => some now
  | .interruptCheck _ | .disconnected => none

/-- The frames that the injector of `t` was handed and that of `s` was not. -/
def sentSince (s t : LiveKeyboard (Recorder I)) : List TouchFrame :=
  t.engine.injector.submitted.drop s.engine.injector.submitted.length

/-- The frames of a run that starts at the time `clock`, each with the time it was sent. -/
def observed (j : VirtualJoystick) (options : LiveKeyboardOptions) :
    ℕ → List LoopStep → LiveKeyboard (Recorder I) → List (ℕ × TouchFrame)
  | _, [], _ => []
  | clock, loopStep :: steps, s =>
    let now := loopStep.time.getD clock
    match step j options loopStep s with
    | .ok _ t => (sentSince s t).map (now, ·) ++ observed j options now steps t
    | .error _ t => (sentSince s t).map (now, ·)

end Observe

/-- The clock does not go back in the course of the steps. -/
def Chronological : ℕ → List LoopStep → Prop
  | _, [] => True
  | clock, loopStep :: steps =>
    clock ≤ loopStep.time.getD clock ∧ Chronological (loopStep.time.getD clock) steps

/-! ### What a step sends -/

variable {I : Type} [TouchInjector I] {j : VirtualJoystick} {options : LiveKeyboardOptions}
  {eng : TouchEngine (Recorder I)} {s : LiveKeyboard (Recorder I)}

/-- A frame is recorded and committed, or it is not committed. -/
theorem submit_records (frame : TouchFrame) :
    wp (submit frame)
      (fun _ e => e.injector.submitted = eng.injector.submitted ++ [frame] ∧
        e.state = eng.state.applyFrame frame)
      (fun _ e => (e.injector.submitted = eng.injector.submitted ∨
        e.injector.submitted = eng.injector.submitted ++ [frame]) ∧ e.state = eng.state) eng := by
  simp only [submit, wp_bind, wp_get]
  cases eng.state.validateFrame frame with
  | error error => exact ⟨.inl rfl, rfl⟩
  | ok u =>
    simp only [wp_bind, wp_zoom, wp_mapError, wp_modify, TouchInjector.inject]
    exact wp_mono wp_true (fun _ _ _ => ⟨trivial, trivial⟩) fun _ _ _ => ⟨.inr trivial, trivial⟩

/-- What was handed to the injector between two states of the engine, when the joystick contact is
then at `later`: frames of other contacts only, or one frame of the joystick contact.  That frame
sends the contact again where it was only if the interval is over, `due`. -/
def Sent (j : VirtualJoystick) (due : Prop) (e e' : TouchEngine (Recorder I))
    (later : Option Point) : Prop :=
  (∃ frames, e'.injector.submitted = e.injector.submitted ++ frames ∧
    (∀ f ∈ frames, ¬ f.Mentions j.contactId) ∧ later = e.state.position j.contactId) ∨
  ∃ event, e'.injector.submitted = e.injector.submitted ++ [.single event] ∧
    event.contactId = j.contactId ∧ later = event.after ∧
    (event.phase = .move → e.state.position j.contactId = some event.position → due)

/-- The same, when the step went through. -/
abbrev Between (j : VirtualJoystick) (due : Prop) (e e' : TouchEngine (Recorder I)) : Prop :=
  Sent j due e e' (e'.state.position j.contactId)

variable {due : Prop}

omit [TouchInjector I] in
theorem sent_nothing {e e' : TouchEngine (Recorder I)}
    (h : e'.injector.submitted = e.injector.submitted) :
    Sent j due e e' (e.state.position j.contactId) :=
  .inl ⟨[], h.trans (List.append_nil _).symm, by simp, rfl⟩

/-- A frame of another contact. -/
theorem single_other {event : TouchEvent} (hid : event.contactId ≠ j.contactId) :
    wp (submit (.single event)) (fun _ e => Between j due eng e)
      (fun _ e => ∃ later, Sent j due eng e later) eng := by
  have hothers : ∀ f ∈ [TouchFrame.single event], ¬ f.Mentions j.contactId := by
    intro f hf
    rw [List.mem_singleton.mp hf, TouchFrame.mentions_single]
    exact hid
  refine wp_mono (submit_records (.single event)) ?_ ?_
  · rintro _ e ⟨hsubmitted, hstate⟩
    refine .inl ⟨_, hsubmitted, hothers, ?_⟩
    rw [hstate, TouchState.applyFrame_single, TouchState.position_applyEvent, if_neg hid]
  · rintro _ e ⟨hnone | hone, -⟩
    · exact ⟨_, sent_nothing hnone⟩
    · exact ⟨_, .inl ⟨_, hone, hothers, rfl⟩⟩

/-- A frame of the joystick contact. -/
theorem single_stick {event : TouchEvent} (hid : event.contactId = j.contactId)
    (hdue : event.phase = .move → eng.state.position j.contactId = some event.position → due) :
    wp (submit (.single event)) (fun _ e => Between j due eng e)
      (fun _ e => ∃ later, Sent j due eng e later) eng := by
  refine wp_mono (submit_records (.single event)) ?_ ?_
  · rintro _ e ⟨hsubmitted, hstate⟩
    refine .inr ⟨event, hsubmitted, hid, ?_, hdue⟩
    rw [hstate, TouchState.applyFrame_single, TouchState.position_applyEvent, if_pos hid]
  · rintro _ e ⟨hnone | hone, -⟩
    · exact ⟨_, sent_nothing hnone⟩
    · exact ⟨_, .inr ⟨event, hone, hid, rfl, hdue⟩⟩

/-- A change of the direction never sends the contact again where it is. -/
theorem apply_sent (d : DirectionalInput) :
    wp (j.apply d) (fun _ e => Between j due eng e) (fun _ e => ∃ later, Sent j due eng e later)
      eng := by
  simp only [VirtualJoystick.apply, VirtualJoystick.applyTarget, wp_bind, wp_get]
  cases hpos : eng.state.position j.contactId with
  | none =>
    cases htarget : j.target d with
    | none => exact sent_nothing rfl
    | some p =>
      simp only [wp_bind, wp_pure]
      exact single_stick rfl fun h => by cases h
  | some p =>
    cases htarget : j.target d with
    | none =>
      simp only [wp_bind, wp_pure, endContact, wp_get, hpos]
      exact single_stick rfl fun h => by cases h
    | some q =>
      simp only [wp_ite, wp_bind, wp_pure]
      split
      · exact sent_nothing rfl
      · next hne =>
        refine single_stick rfl fun _ heq => ?_
        rw [hpos] at heq
        exact absurd (Option.some.inj heq) hne

/-- Two frames of other contacts in a row. -/
theorem injectTap_sent (hj : j.contactId ≠ TAP_CONTACT_ID) (p : Point) :
    wp (injectTap p) (fun _ t => t.timers = s.timers ∧ Between j due s.engine t.engine ∧
        ∃ frames, t.engine.injector.submitted = s.engine.injector.submitted ++ frames ∧
          ∀ f ∈ frames, ¬ f.Mentions j.contactId)
      (fun _ t => ∃ later, Sent j due s.engine t.engine later) s := by
  have hothers : ∀ phase : TouchPhase, ∀ q : Point,
      ¬ (TouchFrame.single ⟨TAP_CONTACT_ID, phase, q⟩).Mentions j.contactId := by
    intro phase q hmentions
    exact hj ((TouchFrame.mentions_single _ _).mp hmentions).symm
  have hpair : ∀ {phase phase' : TouchPhase} {q q' : Point}, ∀ f ∈
      ([.single ⟨TAP_CONTACT_ID, phase, q⟩] ++ [.single ⟨TAP_CONTACT_ID, phase', q'⟩] :
        List TouchFrame), ¬ f.Mentions j.contactId := by
    intro phase phase' q q' f hf
    rcases List.mem_append.mp hf with hf | hf
    · rw [List.mem_singleton.mp hf]
      exact hothers _ _
    · rw [List.mem_singleton.mp hf]
      exact hothers _ _
  have hkeep : ∀ (st : TouchState) (phase : TouchPhase) (q : Point),
      (st.applyFrame (.single ⟨TAP_CONTACT_ID, phase, q⟩)).position j.contactId =
        st.position j.contactId := by
    intro st phase q
    exact TouchState.position_applyFrame_of_not_mentions (hothers phase q)
  simp only [injectTap, wp_bind, wp_onEngine]
  refine wp_mono (submit_records (.single ⟨TAP_CONTACT_ID, .down, p⟩)) ?_ ?_
  · rintro _ e ⟨hdown, hstate⟩
    have hsame : e.state.position j.contactId = s.engine.state.position j.contactId := by
      rw [hstate, hkeep]
    simp only [endContact, wp_bind, wp_get]
    cases hpos : e.state.position TAP_CONTACT_ID with
    | none => exact ⟨_, .inl ⟨_, hdown, fun f hf => List.mem_singleton.mp hf ▸ hothers _ _, rfl⟩⟩
    | some q =>
      refine wp_mono (submit_records (.single ⟨TAP_CONTACT_ID, .up, q⟩)) ?_ ?_
      · rintro _ e' ⟨hup, hstate'⟩
        rw [hdown, List.append_assoc] at hup
        refine ⟨trivial, .inl ⟨_, hup, hpair, ?_⟩, _, hup, hpair⟩
        rw [hstate', hkeep, hsame]
      · rintro _ e' ⟨hup | hup, -⟩
        · rw [hdown] at hup
          exact ⟨_, .inl ⟨_, hup, fun f hf => List.mem_singleton.mp hf ▸ hothers _ _, rfl⟩⟩
        · rw [hdown, List.append_assoc] at hup
          exact ⟨_, .inl ⟨_, hup, hpair, rfl⟩⟩
  · rintro _ e ⟨hnone | hone, -⟩
    · exact ⟨_, sent_nothing hnone⟩
    · exact ⟨_, .inl ⟨_, hone, fun f hf => List.mem_singleton.mp hf ▸ hothers _ _, rfl⟩⟩

/-! ### One step -/

/-- The interval is over at the time `now`. -/
def Due (s : LiveKeyboard (Recorder I)) (now : ℕ) : Prop :=
  ∃ due, s.timers.nextReaffirmAt = some due ∧ due ≤ now

/-- What a step at the time `now` does to the joystick contact and to its timer: the timer is
cleared, set to one interval from now, or left alone, and that only by a step that has not sent
the contact. -/
structure Stepped (j : VirtualJoystick) (options : LiveKeyboardOptions) (now : ℕ)
    (s t : LiveKeyboard (Recorder I)) : Prop where
  sent : Between j (Due s now) s.engine t.engine
  timer : t.timers.nextReaffirmAt = none ∨
    (∃ i, options.reaffirmInterval = some i ∧ t.timers.nextReaffirmAt = some (now + i)) ∨
    t.timers.nextReaffirmAt = s.timers.nextReaffirmAt ∧
      ∃ frames, t.engine.injector.submitted = s.engine.injector.submitted ++ frames ∧
        ∀ f ∈ frames, ¬ f.Mentions j.contactId

omit [TouchInjector I] in
/-- A step that sends nothing and leaves the timer alone. -/
theorem Stepped.idle {now : ℕ} {t : LiveKeyboard (Recorder I)} (hengine : t.engine = s.engine)
    (htimers : t.timers.nextReaffirmAt = s.timers.nextReaffirmAt) :
    Stepped j options now s t where
  sent := by
    rw [hengine]
    exact sent_nothing rfl
  timer := .inr (.inr ⟨htimers, [], by rw [hengine, List.append_nil], by simp⟩)

theorem refresh_timer (input : DirectionalInput) (now : ℕ) (timers : HoldTimers) :
    (refreshHoldTimers input options now timers).nextReaffirmAt =
      if input = .neutral then none else options.reaffirmInterval.map (now + ·) := by
  unfold refreshHoldTimers
  split <;> rfl

theorem restarted_cases (now : ℕ) {next : Option ℕ} (h : next = options.reaffirmInterval.map (now + ·)) :
    next = none ∨ ∃ i, options.reaffirmInterval = some i ∧ next = some (now + i) := by
  cases hinterval : options.reaffirmInterval with
  | none =>
    rw [hinterval] at h
    exact .inl h
  | some i =>
    rw [hinterval] at h
    exact .inr ⟨i, rfl, h⟩

/-- **One key event.** -/
theorem event_stepped (hj : j.contactId ≠ TAP_CONTACT_ID) (event : HostKeyEvent) (now : ℕ) :
    wp (handleKeyboardEvent j options event now) (fun _ t => Stepped j options now s t)
      (fun _ t => ∃ later, Sent j (Due s now) s.engine t.engine later) s := by
  simp only [handleKeyboardEvent, wp_ite, wp_pure]
  split
  · exact .idle rfl rfl
  · cases hmovement : event.movementEvent with
    | some movement =>
      simp only [wp_bind, wp_get, setKeys, wp_modify]
      cases s.keys.apply movement with | mk keys action =>
      cases action with
      | directionChanged input =>
        simp only [wp_bind, wp_onEngine, setTimers, wp_modify, wp_pure]
        refine wp_mono (apply_sent input) ?_ fun _ _ he => he
        intro _ e he
        refine ⟨he, ?_⟩
        have hrefresh := @refresh_timer options input now s.timers
        split at hrefresh
        · exact .inl hrefresh
        · rcases restarted_cases now hrefresh with hnone | hset
          · exact .inl hnone
          · exact .inr (.inl hset)
      | exitRequested => exact .idle rfl rfl
      | ignored => exact .idle rfl rfl
    | none =>
      simp only [wp_ite, wp_pure]
      split
      · split
        · simp only [wp_bind, wp_pure]
          refine wp_mono (injectTap_sent hj _) ?_ fun _ _ ht => ht
          rintro _ t ⟨htimers, hsent, hframes⟩
          exact ⟨hsent, .inr (.inr ⟨by rw [htimers], hframes⟩)⟩
        · exact .idle rfl rfl
      · exact .idle rfl rfl

theorem resendContact_sent (now : ℕ) (hdue : Due s now) :
    wp (resendContact j) (fun _ t => t.timers = s.timers ∧ t.keys = s.keys ∧
        Between j (Due s now) s.engine t.engine)
      (fun _ t => ∃ later, Sent j (Due s now) s.engine t.engine later) s := by
  simp only [resendContact, wp_bind, wp_get]
  cases hpos : s.engine.state.position j.contactId with
  | none => exact ⟨rfl, rfl, sent_nothing rfl⟩
  | some position =>
    simp only [wp_onEngine]
    refine wp_mono (single_stick rfl fun _ _ => hdue) ?_ fun _ _ he => he
    intro _ e he
    exact ⟨trivial, trivial, he⟩

/-- **One servicing of the timers.** -/
theorem service_stepped (now : ℕ) :
    wp (serviceHoldTimers j options now) (fun _ t => Stepped j options now s t)
      (fun _ t => ∃ later, Sent j (Due s now) s.engine t.engine later) s := by
  simp only [serviceHoldTimers, serviceReaffirm, wp_bind, wp_get, wp_ite, wp_modify]
  split
  · exact ⟨sent_nothing rfl, .inl rfl⟩
  · split
    · next due i hdue hinterval =>
      simp only [wp_ite, wp_bind, wp_modify, wp_pure]
      split
      · next hle =>
        refine wp_mono (resendContact_sent _ ⟨due, hdue, hle⟩) ?_ fun _ _ ht => ht
        rintro _ t ⟨-, -, hsent⟩
        exact ⟨hsent, .inr (.inl ⟨i, hinterval, rfl⟩)⟩
      · exact .idle rfl rfl
    · exact .idle rfl rfl

variable (options s) in
theorem step_stepped (hj : j.contactId ≠ TAP_CONTACT_ID) (loopStep : LoopStep) (clock : ℕ) :
    wp (step j options loopStep) (fun _ t => Stepped j options (loopStep.time.getD clock) s t)
      (fun _ t => ∃ later, Sent j (Due s (loopStep.time.getD clock)) s.engine t.engine later) s := by
  cases loopStep with
  | interruptCheck requested =>
    simp only [step, wp_ite, wp_throw, wp_pure]
    split
    · exact ⟨_, sent_nothing rfl⟩
    · exact .idle rfl rfl
  | event event now =>
    simp only [step, wp_bind, wp_mapError, wp_ite, wp_throw, wp_pure]
    refine wp_mono (event_stepped hj event now) ?_ fun _ _ ht => ht
    intro exit t ht
    split
    · exact ⟨_, ht.sent⟩
    · exact ht
  | disconnected => exact ⟨_, sent_nothing rfl⟩
  | service now =>
    simp only [step, wp_mapError]
    exact service_stepped now

/-! ### Runs -/

/-- The frame leaves the contact at `p`. -/
def LeavesAt (c : ContactId) (p : Point) (frame : TouchFrame) : Prop :=
  ∃ e ∈ frame.events, e.contactId = c ∧ e.after = some p

/-- The second frame sends the contact again where the first has left it. -/
def Repeats (c : ContactId) (first second : TouchFrame) : Prop :=
  ∃ p, LeavesAt c p first ∧ second = .single ⟨c, .move, p⟩

/-- The frames of the joystick contact among those of a run. -/
def stickFrames (j : VirtualJoystick) (log : List (ℕ × TouchFrame)) : List (ℕ × TouchFrame) :=
  log.filter fun timed => decide (timed.2.Mentions j.contactId)

/-- A frame that repeats the one before it is at least one interval later. -/
def Paced (j : VirtualJoystick) (options : LiveKeyboardOptions) (log : List (ℕ × TouchFrame)) :
    Prop :=
  log.IsChain fun x y => Repeats j.contactId x.2 y.2 →
    ∃ i, options.reaffirmInterval = some i ∧ x.1 + i ≤ y.1

/-- What is known at the time `clock` about the frame of the joystick contact that was sent last:
it has put the contact where it is, and the timer is at least one interval later. -/
structure Known (j : VirtualJoystick) (options : LiveKeyboardOptions) (clock : ℕ)
    (last : ℕ × TouchFrame) (s : LiveKeyboard (Recorder I)) : Prop where
  past : last.1 ≤ clock
  left : ∃ event, last.2 = .single event ∧ event.contactId = j.contactId ∧
    s.engine.state.position j.contactId = event.after
  timer : ∀ due, s.timers.nextReaffirmAt = some due →
    ∃ i, options.reaffirmInterval = some i ∧ last.1 + i ≤ due

variable {clock : ℕ} {last : Option (ℕ × TouchFrame)}

theorem stickFrames_append (log log' : List (ℕ × TouchFrame)) :
    stickFrames j (log ++ log') = stickFrames j log ++ stickFrames j log' := List.filter_append ..

theorem stickFrames_of_others {frames : List TouchFrame} {now : ℕ}
    (h : ∀ f ∈ frames, ¬ f.Mentions j.contactId) : stickFrames j (frames.map (now, ·)) = [] := by
  rw [stickFrames, List.filter_eq_nil_iff]
  intro timed hmem
  obtain ⟨f, hf, rfl⟩ := List.mem_map.mp hmem
  simpa using h f hf

theorem stickFrames_of_stick {event : TouchEvent} {now : ℕ} (h : event.contactId = j.contactId) :
    stickFrames j ([.single event].map (now, ·)) = [(now, .single event)] := by
  simp [stickFrames, h]

omit [TouchInjector I] in
theorem sentSince_of_append {t : LiveKeyboard (Recorder I)} {frames : List TouchFrame}
    (h : t.engine.injector.submitted = s.engine.injector.submitted ++ frames) :
    sentSince s t = frames := by
  rw [sentSince, h, List.drop_left]

omit [TouchInjector I] in
/-- The frame of a step is paced after the frame before it. -/
theorem Known.paced {now : ℕ} {x : ℕ × TouchFrame} {event : TouchEvent}
    (h : Known j options clock x s)
    (hdue : event.phase = .move → s.engine.state.position j.contactId = some event.position →
      Due s now) (hrepeats : Repeats j.contactId x.2 (.single event)) :
    ∃ i, options.reaffirmInterval = some i ∧ x.1 + i ≤ now := by
  obtain ⟨before, hx, hid, hposition⟩ := h.left
  obtain ⟨p, ⟨e, hmem, -, hafter⟩, hsame⟩ := hrepeats
  rw [hx, TouchFrame.events_single, List.mem_singleton] at hmem
  have hevent : event = ⟨j.contactId, .move, p⟩ := by
    simpa [TouchFrame.single] using hsame
  have hthere : s.engine.state.position j.contactId = some event.position := by
    rw [hposition, ← hmem, hafter, hevent]
  obtain ⟨due, hnext, hle⟩ := hdue (by rw [hevent]) hthere
  obtain ⟨i, hinterval, hspaced⟩ := h.timer due hnext
  exact ⟨i, hinterval, hspaced.trans hle⟩

omit [TouchInjector I] in
/-- A step that has not sent the contact leaves what is known of it. -/
theorem Known.kept {now : ℕ} {x : ℕ × TouchFrame} {t : LiveKeyboard (Recorder I)}
    (h : Known j options clock x s) (hclock : clock ≤ now) (ht : Stepped j options now s t)
    (hsame : t.engine.state.position j.contactId = s.engine.state.position j.contactId) :
    Known j options now x t := by
  refine ⟨h.past.trans hclock, ?_, ?_⟩
  · rw [hsame]
    exact h.left
  · intro due hnext
    rcases ht.timer with hnone | ⟨i, hinterval, hset⟩ | ⟨hkept, -⟩
    · rw [hnone] at hnext
      cases hnext
    · rw [hset] at hnext
      obtain rfl := Option.some.inj hnext
      exact ⟨i, hinterval, Nat.add_le_add_right (h.past.trans hclock) i⟩
    · exact h.timer due (hkept ▸ hnext)

omit [TouchInjector I] in
/-- What is known after a step that has sent the contact. -/
theorem Stepped.known {now : ℕ} {event : TouchEvent} {t : LiveKeyboard (Recorder I)}
    (ht : Stepped j options now s t)
    (hsubmitted : t.engine.injector.submitted = s.engine.injector.submitted ++ [.single event])
    (hid : event.contactId = j.contactId)
    (hafter : t.engine.state.position j.contactId = event.after) :
    Known j options now (now, .single event) t := by
  refine ⟨le_rfl, ⟨event, rfl, hid, hafter⟩, ?_⟩
  intro due hnext
  rcases ht.timer with hnone | ⟨i, hinterval, hset⟩ | ⟨-, frames, hframes, hothers⟩
  · rw [hnone] at hnext
    cases hnext
  · rw [hset] at hnext
    obtain rfl := Option.some.inj hnext
    exact ⟨i, hinterval, le_rfl⟩
  · -- the step has sent the contact
    obtain rfl := List.append_cancel_left (hsubmitted.symm.trans hframes)
    exact absurd ((TouchFrame.mentions_single _ _).mpr hid) (hothers _ List.mem_cons_self)

variable (last) in
/-- **The frames of a run are paced.** -/
theorem observed_paced (hj : j.contactId ≠ TAP_CONTACT_ID) (steps : List LoopStep)
    (hclock : Chronological clock steps) (hlast : ∀ x ∈ last, Known j options clock x s) :
    Paced j options (last.toList ++ stickFrames j (observed j options clock steps s)) := by
  induction steps generalizing clock last s with
  | nil =>
    cases last with
    | none => exact .nil
    | some x => exact .singleton x
  | cons loopStep steps ih =>
    obtain ⟨hnow, hrest⟩ := hclock
    have hstep := step_stepped options s hj loopStep clock
    rw [observed]
    generalize loopStep.time.getD clock = now at *
    -- the frame of the step comes after the last one
    have hlink : ∀ {event : TouchEvent} {later : List (ℕ × TouchFrame)},
        (event.phase = .move → s.engine.state.position j.contactId = some event.position → Due s now) →
        Paced j options ((now, .single event) :: later) →
        Paced j options (last.toList ++ (now, .single event) :: later) := by
      intro event later hdue hlater
      cases last with
      | none => exact hlater
      | some x =>
        refine List.isChain_cons_cons.mpr ⟨?_, hlater⟩
        exact (hlast x rfl).paced hdue
    unfold wp at hstep
    cases hanswer : step j options loopStep s with
    | error e t =>
      simp only [hanswer] at hstep ⊢
      obtain ⟨later, ⟨frames, hsubmitted, hothers, -⟩ | ⟨event, hsubmitted, hid, -, hdue⟩⟩ := hstep
      · rw [sentSince_of_append hsubmitted, stickFrames_of_others hothers, List.append_nil]
        cases last with
        | none => exact .nil
        | some x => exact .singleton x
      · rw [sentSince_of_append hsubmitted, stickFrames_of_stick hid]
        exact hlink hdue (.singleton _)
    | ok u t =>
      simp only [hanswer] at hstep ⊢
      rcases hstep.sent with ⟨frames, hsubmitted, hothers, hsame⟩ | ⟨event, hsubmitted, hid, hafter, hdue⟩
      · rw [sentSince_of_append hsubmitted, stickFrames_append, stickFrames_of_others hothers,
          List.nil_append]
        exact ih last hrest fun x hx => (hlast x hx).kept hnow hstep hsame
      · rw [sentSince_of_append hsubmitted, stickFrames_append, stickFrames_of_stick hid]
        refine hlink hdue ?_
        refine ih (some (now, .single event)) hrest fun x hx => ?_
        obtain rfl := Option.some.inj hx
        exact hstep.known hsubmitted hid hafter

/-! ### The wait of the loop -/

/-- While keys are held the timer is at most one interval ahead; else it is not set. -/
def Armed (options : LiveKeyboardOptions) (clock : ℕ) (s : LiveKeyboard (Recorder I)) : Prop :=
  if s.keys.current = .neutral then s.timers.nextReaffirmAt = none
  else ∃ since ≤ clock, s.timers.nextReaffirmAt = options.reaffirmInterval.map (since + ·)

omit [TouchInjector I] in
theorem Armed.later {now : ℕ} (h : Armed options clock s) (hclock : clock ≤ now) :
    Armed options now s := by
  unfold Armed at h ⊢
  split
  · next hneutral => rwa [if_pos hneutral] at h
  · next hheld =>
    rw [if_neg hheld] at h
    obtain ⟨since, hle, hnext⟩ := h
    exact ⟨since, hle.trans hclock, hnext⟩

/-- The timer after a servicing: the contact was sent again if it was due. -/
def Serviced (options : LiveKeyboardOptions) (now : ℕ) (t : LiveKeyboard (Recorder I)) : Prop :=
  t.keys.current ≠ .neutral → ∀ i, options.reaffirmInterval = some i → 0 < i →
    ∃ due, t.timers.nextReaffirmAt = some due ∧ now < due ∧ due ≤ now + i

theorem service_armed {now : ℕ} (h : Armed options now s) :
    wp (serviceHoldTimers j options now) (fun _ t => Armed options now t ∧ Serviced options now t)
      (fun _ _ => True) s := by
  simp only [serviceHoldTimers, serviceReaffirm, wp_bind, wp_get, wp_ite, wp_modify]
  split
  case isTrue hneutral =>
    constructor
    · simp [Armed, hneutral]
    · intro hheld
      exact absurd hneutral hheld
  case isFalse hheld =>
    obtain ⟨since, hsince, hnext⟩ : ∃ since ≤ now,
        s.timers.nextReaffirmAt = options.reaffirmInterval.map (since + ·) := by
      unfold Armed at h
      rwa [if_neg hheld] at h
    cases hinterval : options.reaffirmInterval with
    | none =>
      rw [hinterval] at hnext
      simp only [hnext, Option.map_none, wp_pure]
      constructor
      · simp only [Armed, if_neg hheld, hinterval, Option.map_none]
        exact ⟨since, hsince, trivial⟩
      · intro _ i hi
        rw [hinterval] at hi
        cases hi
    | some i =>
      rw [hinterval] at hnext
      simp only [hnext, Option.map_some, wp_ite, wp_bind, wp_modify, wp_pure]
      split
      · next hle =>
        refine wp_mono (resendContact_sent now ⟨_, hnext, hle⟩) ?_ fun _ _ _ => trivial
        rintro _ t ⟨-, hkeys, -⟩
        constructor
        · simp only [Armed, hkeys, if_neg hheld, hinterval, Option.map_some]
          exact ⟨now, le_rfl, rfl⟩
        · intro _ i' hi' hpos
          obtain rfl := Option.some.inj (hinterval.symm.trans hi')
          exact ⟨now + i, rfl, by omega, le_rfl⟩
      · next hle =>
        constructor
        · simp only [Armed, if_neg hheld, hinterval, Option.map_some]
          exact ⟨since, hsince, rfl⟩
        · intro _ i' hi' hpos
          obtain rfl := Option.some.inj (hinterval.symm.trans hi')
          exact ⟨since + i, rfl, by omega, by omega⟩

theorem event_armed (event : HostKeyEvent) {now : ℕ} (h : Armed options now s) :
    wp (handleKeyboardEvent j options event now) (fun _ t => Armed options now t) (fun _ _ => True)
      s := by
  simp only [handleKeyboardEvent, wp_ite, wp_pure]
  split
  · exact h
  · cases hmovement : event.movementEvent with
    | some movement =>
      simp only [wp_bind, wp_get, setKeys, wp_modify]
      cases hanswer : s.keys.apply movement with | mk keys action =>
      have hcases := DirectionalKeyState.apply_action hanswer
      have hunchanged : keys = s.keys → Armed options now { s with keys } := by
        rintro rfl
        exact h
      cases action with
      | directionChanged input =>
        obtain ⟨input', heq, hinput⟩ := hcases.resolve_right (by simp)
        obtain rfl := KeyboardAction.directionChanged.inj heq
        simp only [wp_bind, wp_onEngine, setTimers, wp_modify, wp_pure]
        refine wp_mono wp_true ?_ fun _ _ _ => trivial
        intro _ e _
        simp only [Armed, hinput, refresh_timer]
        split
        · rfl
        · exact ⟨now, le_rfl, rfl⟩
      | exitRequested =>
        refine hunchanged ?_
        rcases hcases with ⟨_, heq, _⟩ | ⟨hne, _⟩ | ⟨_, hsame, _⟩
        · cases heq
        · exact absurd rfl hne
        · exact hsame
      | ignored =>
        refine hunchanged ?_
        rcases hcases with ⟨_, heq, _⟩ | ⟨_, _, hsame⟩ | ⟨heq, _⟩
        · cases heq
        · exact hsame
        · cases heq
    | none =>
      simp only [wp_ite, wp_pure]
      split
      · split
        · simp only [injectTap, wp_bind, wp_onEngine, wp_pure]
          refine wp_mono wp_true ?_ fun _ _ _ => trivial
          intro _ e _
          refine wp_mono wp_true ?_ fun _ _ _ => trivial
          intro _ e' _
          exact h
        · exact h
      · exact h

theorem step_armed (loopStep : LoopStep) (h : Armed options clock s)
    (hclock : clock ≤ loopStep.time.getD clock) :
    wp (step j options loopStep) (fun _ t => Armed options (loopStep.time.getD clock) t ∧
        ∀ now, loopStep = .service now → Serviced options now t) (fun _ _ => True) s := by
  have h := h.later hclock
  cases loopStep with
  | interruptCheck requested =>
    simp only [step, wp_ite, wp_throw, wp_pure]
    split
    · trivial
    · exact ⟨h, fun now heq => by cases heq⟩
  | event event now =>
    simp only [step, wp_bind, wp_mapError, wp_ite, wp_throw, wp_pure]
    refine wp_mono (event_armed event h) ?_ fun _ _ _ => trivial
    intro exit t ht
    split
    · trivial
    · exact ⟨ht, fun now' heq => by cases heq⟩
  | disconnected => trivial
  | service now =>
    simp only [step, wp_mapError]
    refine wp_mono (service_armed h) ?_ fun _ _ _ => trivial
    rintro _ t ⟨harmed, hserviced⟩
    refine ⟨harmed, fun now' heq => ?_⟩
    obtain rfl := LoopStep.service.inj heq
    exact hserviced

/-- After a run that ends with a servicing the timer is set for less than one interval. -/
theorem run_serviced (steps : List LoopStep) (h : Armed options clock s)
    (hclock : Chronological clock steps) :
    wp (runAll (step j options) steps)
      (fun _ t => ∀ now, steps.getLast? = some (.service now) → Serviced options now t)
      (fun _ _ => True) s := by
  induction steps generalizing clock s with
  | nil =>
    intro now hlast
    cases hlast
  | cons loopStep steps ih =>
    obtain ⟨hnow, hrest⟩ := hclock
    rw [runAll, wp_bind]
    refine wp_mono (step_armed loopStep h hnow) ?_ fun _ _ _ => trivial
    rintro _ t ⟨harmed, hserviced⟩
    cases steps with
    | nil =>
      intro now hlast
      exact hserviced now (Option.some.inj hlast)
    | cons second steps =>
      refine wp_mono (ih harmed hrest) ?_ fun _ _ _ => trivial
      intro _ u hu now hlast
      rw [List.getLast?_cons_cons] at hlast
      exact hu now hlast

theorem nextTimeout_le {timers : HoldTimers} {due now : ℕ} (h : timers.nextReaffirmAt = some due) :
    nextTimeout timers now ≤ due - now := by
  unfold nextTimeout
  rw [h]
  cases timers.nextLogAt with
  | none => exact le_rfl
  | some log => exact Nat.sub_le_sub_right (min_le_left due log) now

theorem getLast?_steps (turns : List LoopTurn) {turn : LoopTurn} (h : turns.getLast? = some turn) :
    (turns.flatMap LoopTurn.steps).getLast? = some (.service turn.serviced) := by
  obtain ⟨front, rfl⟩ := List.getLast?_eq_some_iff.mp h
  rw [List.flatMap_append, List.flatMap_singleton, LoopTurn.steps, ← List.append_assoc]
  exact List.getLast?_concat

/-- **Reaffirmations are paced.**  In every run whose clock does not go back, a frame that sends
the joystick contact again where the frame before has put it comes at least one reaffirm interval
after that frame, and none comes when the interval is switched off.  After every turn in which the
contact is down, the next one is due after less than one interval, and the loop does not wait
longer than until then. -/
theorem reaffirmations_are_paced (options : LiveKeyboardOptions) {center : Point} {radius : ℕ}
    {resolution : Resolution} {j : VirtualJoystick}
    (hnew : VirtualJoystick.new JOYSTICK_CONTACT_ID center radius resolution = .ok j)
    (injector : I) (turns : List LoopTurn)
    (hclock : Chronological 0 (turns.flatMap LoopTurn.steps)) :
    Paced j options (stickFrames j
      (observed j options 0 (turns.flatMap LoopTurn.steps) (start (Recorder.new injector)))) ∧
    wp (runKeyboardLoop j options turns)
      (fun _ t => ∀ turn i, turns.getLast? = some turn → options.reaffirmInterval = some i → 0 < i →
        t.engine.state.position j.contactId ≠ none →
        ∃ due, t.timers.nextReaffirmAt = some due ∧ turn.serviced < due ∧ due ≤ turn.serviced + i ∧
          turn.serviced + nextTimeout t.timers turn.serviced ≤ due)
      (fun _ _ => True) (start (Recorder.new injector)) := by
  have hj := contactId_of_new hnew
  constructor
  · exact observed_paced none hj _ hclock (by simp)
  · have harmed : Armed options 0 (start (Recorder.new injector)) := rfl
    refine wp_mono (wp_and (run_serviced (j := j) _ harmed hclock)
      (run_held options hj (turns.flatMap LoopTurn.steps)
        (steady_start (Recorder.new injector)))) ?_ fun _ _ _ => trivial
    rintro _ t ⟨hserviced, hsteady⟩ turn i hlast hinterval hpos hdown
    have hheld : t.keys.current ≠ .neutral := by
      intro hneutral
      rw [hsteady.held.at_stick, ← hsteady.keys, hneutral] at hdown
      exact hdown j.target_neutral
    obtain ⟨due, hnext, hlt, hle⟩ := hserviced _ (getLast?_steps turns hlast) hheld i hinterval hpos
    have hwait := @nextTimeout_le t.timers due turn.serviced hnext
    exact ⟨due, hnext, hlt, hle, by omega⟩

theorem default_reaffirmations_are_paced :
    Paced defaultJoystick (.new "/dev/input/event7") (stickFrames defaultJoystick
      (observed defaultJoystick (.new "/dev/input/event7") 0
        ([⟨false, .events (⟨.named .w, .pressed⟩, 0) [], 60⟩, ⟨false, .timeout, 120⟩].flatMap
          LoopTurn.steps) (start (Recorder.new ())))) :=
  (reaffirmations_are_paced (.new "/dev/input/event7")
    (rfl : VirtualJoystick.new JOYSTICK_CONTACT_ID ⟨384, 864⟩ 108 ⟨1920, 1080⟩ = .ok defaultJoystick)
    () _ (by simp [Chronological, LoopTurn.steps, Received.steps, LoopStep.time])).1

end LiveKeyboard

end Wroid
