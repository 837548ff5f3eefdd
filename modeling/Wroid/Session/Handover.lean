import Wroid.Session.Contacts

/-!
# Handing contacts over

When the held inputs change, reconciliation lifts the contacts that should not be down and
presses those that should.  It submits one frame at a time: first the joysticks leave
directions, then hold bindings are released, and last hold bindings are pressed and joysticks
take directions.

A joystick whose opposite directions cancel has its contact up.  Leaving one of the two presses
it, already in the first of these loops, and taking the second one lifts it, in the last.  So a
press may come before a lift; `Orderly` says when none does.

## Main definitions

* `ControlCell.retainEvents`, `releaseEvents`, `engageEvents`, `handover` — the events of the
  three loops.
* `HandsOver` — every lift comes before every press of another contact, and no more contacts
  are ever down than before or after.
* `Orderly` — the controls do not cross a press with a lift.

## Main results

* `reconcileContinuous_recorded` — reconciliation submits the frames of `handover`.
* `handsOver_iff` — they hand the contacts over exactly if the controls are orderly.
* `lifts_before_presses` — **the handover of every reachable state**.
-/

set_option linter.constructorNameAsVariable false

namespace Wroid

open Lib

/-! ### Frames of one event -/

/-- Each event in a frame of its own. -/
def TouchFrame.singles (events : List TouchEvent) : List TouchFrame := events.map .single

@[simp] theorem TouchFrame.singles_nil : TouchFrame.singles [] = [] := rfl

@[simp] theorem TouchFrame.singles_append (es es' : List TouchEvent) :
    TouchFrame.singles (es ++ es') = TouchFrame.singles es ++ TouchFrame.singles es' :=
  List.map_append

@[simp] theorem TouchFrame.flatMap_singles (events : List TouchEvent) :
    (TouchFrame.singles events).flatMap TouchFrame.events = events := by
  induction events with
  | nil => rfl
  | cons e es ih => simpa [TouchFrame.singles] using ih

/-- Events one by one, for each element of a list. -/
theorem TouchFrame.singles_flatMap {α : Type} (as : List α) (f : α → List TouchEvent) :
    TouchFrame.singles (as.flatMap f) = as.flatMap fun a => TouchFrame.singles (f a) :=
  List.map_flatMap

/-- The frames submitted so far. -/
def TouchEngine.log {I : Type} (eng : TouchEngine (Recorder I)) : List TouchFrame :=
  eng.injector.submitted

/-- The log `after` has the log `before` and a first part of `frames`. -/
def Adds (frames before after : List TouchFrame) : Prop :=
  ∃ done, done <+: frames ∧ after = before ++ done

theorem Adds.none (frames before : List TouchFrame) : Adds frames before before :=
  ⟨[], List.nil_prefix, (List.append_nil before).symm⟩

theorem Adds.all (frames before : List TouchFrame) : Adds frames before (before ++ frames) :=
  ⟨frames, List.prefix_rfl, rfl⟩

/-- What is added after all of `frames` was. -/
theorem Adds.append {frames frames' before after : List TouchFrame}
    (h : Adds frames' (before ++ frames) after) : Adds (frames ++ frames') before after := by
  obtain ⟨done, hdone, rfl⟩ := h
  exact ⟨frames ++ done, (List.prefix_append_right_inj frames).mpr hdone, by simp⟩

theorem Adds.of_prefix {frames frames' before after : List TouchFrame}
    (h : Adds frames before after) (hp : frames <+: frames') : Adds frames' before after := by
  obtain ⟨done, hdone, rfl⟩ := h
  exact ⟨done, hdone.trans hp, rfl⟩

/-- The events that bring a contact from one place to another. -/
def moveEvents (contact : ContactId) : Option Point → Option Point → List TouchEvent
  | none, none => []
  | none, some target => [⟨contact, .down, target⟩]
  | some position, none => [⟨contact, .up, position⟩]
  | some position, some target =>
    if position = target then [] else [⟨contact, .move, target⟩]

@[simp] theorem moveEvents_self (contact : ContactId) (place : Option Point) :
    moveEvents contact place place = [] := by
  cases place <;> simp [moveEvents]

section Recorded

variable {I : Type} [TouchInjector I] {eng : TouchEngine (Recorder I)}

namespace TouchEngine

/-- The frame of a fitting event is submitted, whether the injector accepts it or not. -/
theorem submit_single_recorded {event : TouchEvent} (hfits : event.Fits eng.state) :
    wp (submit (.single event)) (fun _ e => e.log = eng.log ++ [.single event])
      (fun _ e => e.log = eng.log ++ [.single event]) eng := by
  have hok := TouchState.validateFrame_eq_ok.mpr (TouchState.frameValid_single hfits)
  simp only [submit, wp_bind, wp_get, hok, wp_zoom, wp_mapError, wp_modify, TouchInjector.inject]
  exact wp_mono wp_true (fun _ _ _ => rfl) fun _ _ _ => rfl

end TouchEngine

/-- A joystick submits the event that brings its contact to the target. -/
theorem VirtualJoystick.apply_recorded {j : VirtualJoystick} (d : DirectionalInput) :
    wp (j.apply d)
      (fun _ e => e.log = eng.log ++ TouchFrame.singles
        (moveEvents j.contactId (eng.state.position j.contactId) (j.target d)))
      (fun _ e => Adds (TouchFrame.singles
        (moveEvents j.contactId (eng.state.position j.contactId) (j.target d))) eng.log e.log)
      eng := by
  have hfits : ∀ event : TouchEvent, event.Fits eng.state →
      wp (TouchEngine.submit (.single event))
        (fun _ e => e.log = eng.log ++ TouchFrame.singles [event])
        (fun _ e => Adds (TouchFrame.singles [event]) eng.log e.log) eng := fun event h =>
    wp_mono (TouchEngine.submit_single_recorded h) (fun _ _ h => h) fun _ _ h => h ▸ .all _ _
  simp only [apply, applyTarget, wp_bind, wp_get]
  cases hpos : eng.state.position j.contactId with
  | none =>
    cases j.target d with
    | none => exact (List.append_nil _).symm
    | some p =>
      simp only [wp_bind, wp_pure, TouchEngine.beginContact]
      exact hfits _ (by simp [TouchEvent.Fits, TouchState.isActive_eq, hpos])
  | some p =>
    cases j.target d with
    | none =>
      simp only [wp_bind, wp_pure, TouchEngine.endContact, wp_get, hpos]
      exact hfits _ (by simp [TouchEvent.Fits, TouchState.isActive_eq, hpos])
    | some q =>
      simp only [wp_ite, wp_bind, wp_pure, moveEvents]
      split
      · exact (List.append_nil _).symm
      · exact hfits _ (by simp [TouchEvent.Fits, TouchState.isActive_eq, hpos])

/-! ### The events of a control -/

namespace ControlCell

/-- The directions a joystick keeps when the held inputs change. -/
def retained (cell : ControlCell) : DirectionalInput :=
  directionIntersection cell.directions cell.desiredDirections

/-- What the second loop does with a control. -/
def retainEvents (cell : ControlCell) : List TouchEvent :=
  match cell.action with
  | .virtualJoystick joystick _ _ =>
    moveEvents joystick.contactId (joystick.target cell.directions) (joystick.target cell.retained)
  | _ => []

/-- The event of a point binding. -/
def pointEvents (cell : ControlCell) (phase : TouchPhase) (point : Point) : List TouchEvent :=
  cell.layout.pointContact.toList.map fun contact => ⟨contact, phase, point⟩

/-- What the third loop does with a control. -/
def releaseEvents (cell : ControlCell) : List TouchEvent :=
  match cell.action with
  | .hold point =>
    if cell.activeBinding && !cell.desiredBinding then cell.pointEvents .up point else []
  | _ => []

/-- What the fourth loop does with a control. -/
def engageEvents (cell : ControlCell) : List TouchEvent :=
  match cell.action with
  | .hold point =>
    if !cell.activeBinding && cell.desiredBinding then cell.pointEvents .down point else []
  | .virtualJoystick joystick _ _ =>
    moveEvents joystick.contactId (joystick.target cell.directions)
      (joystick.target cell.desiredDirections)
  | _ => []

/-- The control after the second and the third loop. -/
def eased (cell : ControlCell) : ControlCell :=
  { cell with
    directions := cell.retained
    activeBinding := cell.activeBinding && cell.desiredBinding }

/-- The events of the three loops. -/
def handover (cells : List ControlCell) : List TouchEvent :=
  cells.flatMap retainEvents ++ cells.flatMap releaseEvents ++
    cells.flatMap fun cell => cell.eased.engageEvents

variable {cell : ControlCell}

theorem Consistent.neutral_of_not_joystick {pos : ContactId → Option Point}
    (h : cell.Consistent pos) (hne : ∀ j mode interval, cell.action ≠ .virtualJoystick j mode interval) :
    cell.directions = .neutral := by
  cases h with
  | tap _ _ _ _ _ _ neutral => exact neutral
  | hold _ _ _ _ _ neutral => exact neutral
  | aim _ _ _ _ neutral => exact neutral
  | joystick j mode interval action => exact absurd action (hne j mode interval)

theorem retained_neutral (h : cell.directions = .neutral) : cell.retained = .neutral := by
  simp [retained, h, directionIntersection, DirectionalInput.neutral]

/-- Keeping the kept directions keeps them all. -/
theorem retained_idem (d : DirectionalInput) :
    directionIntersection (directionIntersection cell.directions d) d =
      directionIntersection cell.directions d := by
  simp [directionIntersection]

theorem pointEvents_eq {contact : ContactId} (h : cell.layout.pointContact = some contact)
    (phase : TouchPhase) (point : Point) :
    cell.pointEvents phase point = [⟨contact, phase, point⟩] := by
  rw [pointEvents, h]
  rfl

theorem engageEvents_hold {point : Point} (action : cell.action = .hold point) :
    cell.engageEvents =
      if !cell.activeBinding && cell.desiredBinding then cell.pointEvents .down point else [] := by
  rw [engageEvents, action]

theorem engageEvents_joystick {j : VirtualJoystick} {mode : JoystickMode} {interval : Option ℕ}
    (action : cell.action = .virtualJoystick j mode interval) :
    cell.engageEvents = moveEvents j.contactId (j.target cell.directions)
      (j.target cell.desiredDirections) := by
  rw [engageEvents, action]

theorem applyDirections_recorded {j : VirtualJoystick} (d : DirectionalInput) (now : ℕ)
    (place : eng.state.position j.contactId = j.target cell.directions) :
    wp (applyDirections j d now)
      (fun _ t => t.1.log = eng.log ++ TouchFrame.singles
          (moveEvents j.contactId (j.target cell.directions) (j.target d)) ∧
        ∃ last, t.2 = { cell with
          directions := d, activeBinding := d ≠ .neutral, lastJoystickFrame := last })
      (fun _ t => Adds (TouchFrame.singles
          (moveEvents j.contactId (j.target cell.directions) (j.target d))) eng.log t.1.log)
      (eng, cell) := by
  rw [← place]
  simp only [applyDirections, wp_bind, wp_onEngine, wp_update, wp_pure]
  exact wp_mono (j.apply_recorded d) (fun _ e he => ⟨he, _, rfl⟩) fun _ e he => he

/-- What the second loop leaves for the loops after it. -/
structure Retained (cell cell' : ControlCell) : Prop where
  settled : cell'.retained = cell'.directions
  release : cell'.releaseEvents = cell.releaseEvents
  engage : cell'.eased.engageEvents = cell.eased.engageEvents

theorem Retained.taken {j : VirtualJoystick} {mode : JoystickMode} {interval : Option ℕ}
    (action : cell.action = .virtualJoystick j mode interval) (last : Option ℕ) :
    Retained cell { cell with
      directions := cell.retained
      activeBinding := cell.retained ≠ .neutral
      lastJoystickFrame := last } := by
  refine ⟨retained_idem _, ?_, ?_⟩
  · simp only [releaseEvents, ControlCell.action] at action ⊢
    rw [action]
  · have heased : cell.eased.action = .virtualJoystick j mode interval := action
    rw [engageEvents_joystick heased]
    refine (engageEvents_joystick (by exact action)).trans ?_
    simp only [eased, retained, retained_idem]

theorem retainDirections_recorded (now : ℕ) (h : cell.Consistent eng.state.position) :
    wp (retainDirections now)
      (fun _ t => t.1.log = eng.log ++ TouchFrame.singles cell.retainEvents ∧ Retained cell t.2)
      (fun _ t => Adds (TouchFrame.singles cell.retainEvents) eng.log t.1.log) (eng, cell) := by
  simp only [retainDirections, wp_bind, wp_get]
  split
  · next j mode interval action =>
    obtain ⟨-, -, place⟩ := h.joystick_fields action
    have hevents : cell.retainEvents =
        moveEvents j.contactId (j.target cell.directions) (j.target cell.retained) := by
      rw [retainEvents, action]
    rw [wp_ite, hevents]
    split
    · next hsame =>
      have hsame : cell.retained = cell.directions := hsame.symm
      refine ⟨?_, hsame, rfl, rfl⟩
      rw [hsame, moveEvents_self]
      exact (List.append_nil _).symm
    · refine wp_mono (applyDirections_recorded cell.retained now place) ?_ fun _ _ h => h
      rintro - ⟨e, cell'⟩ ⟨hlog, last, hcell'⟩
      obtain rfl : cell' = _ := hcell'
      exact ⟨hlog, .taken action last⟩
  · next hne =>
    have hevents : cell.retainEvents = [] := by
      rw [retainEvents]
      split
      · next j mode interval action => exact absurd action (hne j mode interval)
      · rfl
    have hneutral := h.neutral_of_not_joystick hne
    refine ⟨?_, (retained_neutral hneutral).trans hneutral.symm, rfl, rfl⟩
    rw [hevents]
    exact (List.append_nil _).symm

/-- A hold binding submits its event. -/
theorem setHoldBinding_recorded {point : Point} {contact : ContactId} (pressed : Bool)
    (hcontact : cell.layout.pointContact = some contact)
    (hchange : (eng.state.position contact).isSome = !pressed) :
    wp (setHoldBinding contact point pressed)
      (fun _ t => t.1.log = eng.log ++
        TouchFrame.singles (cell.pointEvents (if pressed then .down else .up) point) ∧ t.2 = cell)
      (fun _ t => Adds (TouchFrame.singles (cell.pointEvents (if pressed then .down else .up) point))
        eng.log t.1.log) (eng, cell) := by
  have hne : ¬ (eng.state.position contact).isSome = pressed := by
    rw [hchange]
    cases pressed <;> decide
  have hfits : TouchEvent.Fits eng.state ⟨contact, if pressed then .down else .up, point⟩ := by
    rw [TouchEvent.Fits, TouchState.isActive_eq, hchange]
    cases pressed <;> simp
  rw [pointEvents_eq hcontact]
  simp only [setHoldBinding, wp_bind, wp_get, wp_ite, wp_pure, wp_onEngine]
  rw [if_neg hne]
  exact wp_mono (TouchEngine.submit_single_recorded hfits) (fun _ e he => ⟨he, trivial⟩)
    fun _ e he => he ▸ .all _ _

theorem releaseHold_recorded (h : cell.Consistent eng.state.position)
    (hretained : cell.retained = cell.directions) :
    wp releaseHold
      (fun _ t => t.1.log = eng.log ++ TouchFrame.singles cell.releaseEvents ∧
        t.2.engageEvents = cell.eased.engageEvents)
      (fun _ t => Adds (TouchFrame.singles cell.releaseEvents) eng.log t.1.log) (eng, cell) := by
  simp only [releaseHold, wp_bind, wp_get]
  split
  · next point action =>
    obtain ⟨contact, hcontact, -, -, place⟩ := h.hold_fields action
    have hevents : cell.releaseEvents =
        if cell.activeBinding && !cell.desiredBinding then cell.pointEvents .up point else [] := by
      rw [releaseEvents, action]
    rw [wp_ite, hevents, engageEvents_hold (show cell.eased.action = .hold point from action)]
    split
    · next hrelease =>
      obtain ⟨hactive, hdesired⟩ := Bool.and_eq_true_iff.mp hrelease
      rw [hactive] at place
      simp only [wp_bind, hcontact, pointContactId, wp_pure, wp_update]
      refine wp_mono (setHoldBinding_recorded false hcontact (by rw [place]; rfl)) ?_
        fun _ _ h => h
      rintro - ⟨e, cell'⟩ ⟨hlog, hcell'⟩
      obtain rfl : cell' = cell := hcell'
      refine ⟨hlog, ?_⟩
      refine (engageEvents_hold (by exact action)).trans ?_
      simp only [eased, hactive, Bool.true_and]
      cases hd : cell'.desiredBinding
      · rfl
      · rw [hd] at hdesired
        cases hdesired
    · next hkeep =>
      refine ⟨(List.append_nil _).symm, ?_⟩
      rw [engageEvents_hold action]
      cases hactive : cell.activeBinding <;> cases hdesired : cell.desiredBinding <;>
        simp_all [eased, pointEvents]
  · next hne =>
    have hevents : cell.releaseEvents = [] := by
      rw [releaseEvents]
      split
      · next point action => exact absurd action (hne point)
      · rfl
    rw [hevents]
    refine ⟨(List.append_nil _).symm, ?_⟩
    have heased : cell.eased.action = cell.action := rfl
    show cell.engageEvents = cell.eased.engageEvents
    rw [engageEvents, engageEvents, heased]
    cases action : cell.action with
    | hold point => exact absurd action (hne point)
    | virtualJoystick j mode interval => simp only [eased, hretained]
    | tap | mouseAim => rfl

theorem engage_recorded (now : ℕ) (h : cell.Consistent eng.state.position) :
    wp (engage now)
      (fun _ t => t.1.log = eng.log ++ TouchFrame.singles cell.engageEvents)
      (fun _ t => Adds (TouchFrame.singles cell.engageEvents) eng.log t.1.log) (eng, cell) := by
  simp only [engage, wp_bind, wp_get]
  split
  · next point action =>
    obtain ⟨contact, hcontact, -, -, place⟩ := h.hold_fields action
    rw [wp_ite, engageEvents_hold action]
    split
    · next hpress =>
      have hactive : cell.activeBinding = false := by simpa using (Bool.and_eq_true_iff.mp hpress).1
      rw [hactive] at place
      simp only [wp_bind, hcontact, pointContactId, wp_pure, wp_update]
      exact wp_mono (setHoldBinding_recorded true hcontact (by rw [place]; rfl))
        (fun _ _ h => h.1) fun _ _ h => h
    · exact (List.append_nil _).symm
  · next j mode interval action =>
    obtain ⟨-, -, place⟩ := h.joystick_fields action
    rw [wp_ite, engageEvents_joystick action]
    split
    · exact wp_mono (applyDirections_recorded cell.desiredDirections now place)
        (fun _ _ h => h.1) fun _ _ h => h
    · next hsame =>
      rw [not_not.mp hsame, moveEvents_self]
      exact (List.append_nil _).symm
  · next hhold hjoystick =>
    have hevents : cell.engageEvents = [] := by
      rw [engageEvents]
      split
      · next point action => exact absurd action (hhold point)
      · next j mode interval action => exact absurd action (hjoystick j mode interval)
      · rfl
    rw [hevents]
    exact (List.append_nil _).symm

end ControlCell

/-! ### The log of a reconciliation -/

namespace UnifiedRuntime

open ControlCell

variable {rt : UnifiedRuntime (Recorder I)}

omit [TouchInjector I] in
/-- The controls with what they should do, after the first loop. -/
def wanting (rt : UnifiedRuntime I) : List ControlCell :=
  rt.cells.map (desire rt.setup (refreshed rt.layouts rt.held))

/-- Nothing is asked of an injector nothing is known about. -/
theorem allowsControl_unknown (layout : ControlLayout) :
    (Contract.unknown (Recorder I)).AllowsControl layout :=
  fun _ => ⟨fun _ _ _ _ _ => trivial, fun _ _ _ _ _ _ _ _ _ => trivial⟩

/-- The second, third and fourth loop submit their events one by one. -/
theorem settle_recorded {setup : RuntimeSetup} {held : HeldInputs} (now : ℕ)
    (hd : rt.layouts.Pairwise fun l l' => Disjoint l.Owns l'.Owns)
    (hc : ∀ cell ∈ rt.cells, cell.Consistent rt.engine.state.position)
    (ht : ∀ cell ∈ rt.cells, cell.Targets setup held) :
    wp (do
        let retained ← visit (ControlCell.retainDirections now)
        let released ← visit ControlCell.releaseHold
        let engaged ← visit (ControlCell.engage now)
        return retained || released || engaged)
      (fun _ rt' => rt'.engine.log = rt.engine.log ++ TouchFrame.singles (handover rt.cells))
      (fun _ rt' => Adds (TouchFrame.singles (handover rt.cells)) rt.engine.log rt'.engine.log) rt := by
  have hevents : TouchFrame.singles (handover rt.cells) =
      (rt.cells.flatMap fun cell => TouchFrame.singles cell.retainEvents) ++
        ((rt.cells.flatMap fun cell => TouchFrame.singles cell.releaseEvents) ++
          rt.cells.flatMap fun cell => TouchFrame.singles cell.eased.engageEvents) := by
    simp only [handover, TouchFrame.singles_append, TouchFrame.singles_flatMap, List.append_assoc]
  rw [hevents]
  simp only [wp_bind, wp_pure]
  refine wp_mono (visit_log_spec (K := .unknown (Recorder I)) TouchEngine.log
    (fun cell => TouchFrame.singles cell.retainEvents) (fun pos cell => cell.Consistent pos)
    (fun cell pos cell' => cell'.Consistent pos ∧ Kept cell cell' ∧ Retained cell cell')
    (fun _ _ _ heq h => h.congr heq) (fun _ _ _ _ hl heq h => ⟨h.1.congr (hl ▸ heq), h.2⟩)
    (fun eng cell hK h => wp_mono (wp_and (retainDirections_spec now hK h (allowsControl_unknown _))
      (retainDirections_recorded now h))
      (fun _ t ht => ⟨ht.1.imp fun hpost => ⟨hpost.1, hpost.2, ht.2.2⟩, ht.2.1⟩) fun _ _ h => h)
    hd trivial hc) ?_ fun _ _ h => Adds.of_prefix h.2 (List.prefix_append _ _)
  rintro - rt₁ ⟨h₁, hlog₁⟩
  have hrelease : rt₁.cells.flatMap (fun cell => TouchFrame.singles cell.releaseEvents) =
      rt.cells.flatMap fun cell => TouchFrame.singles cell.releaseEvents :=
    (flatMap_eq_of_forall₂ (h₁.cells.imp fun _ _ h => by rw [h.2.2.2.release])).symm
  refine wp_mono (visit_log_spec (K := .unknown (Recorder I)) TouchEngine.log
    (fun cell => TouchFrame.singles cell.releaseEvents)
    (fun pos cell => cell.Consistent pos ∧ cell.retained = cell.directions)
    (fun cell pos cell' => (cell'.Consistent pos ∧ Kept cell cell' ∧ cell'.Released) ∧
      cell'.engageEvents = cell.eased.engageEvents)
    (fun _ _ _ heq h => ⟨h.1.congr heq, h.2⟩)
    (fun _ _ _ _ hl heq h => ⟨⟨h.1.1.congr (hl ▸ heq), h.1.2⟩, h.2⟩)
    (fun eng cell hK h => wp_mono (wp_and (releaseHold_spec hK h.1 (allowsControl_unknown _))
      (releaseHold_recorded h.1 h.2))
      (fun _ t ht => ⟨ht.1.imp fun hpost => ⟨hpost, ht.2.2⟩, ht.2.1⟩) fun _ _ h => h)
    (h₁.layouts ▸ hd) trivial fun cell hcell => ?_) ?_ fun _ rt' h => ?_
  · obtain ⟨_, -, -, hcons, -, hretained⟩ := forall₂_exists_left h₁.cells hcell
    exact ⟨hcons, hretained.settled⟩
  · rintro - rt₂ ⟨h₂, hlog₂⟩
    -- what the first two loops did to each control
    have h₁₂ : List.Forall₂ (fun cell cell₂ => cell₂.layout = cell.layout ∧
        cell₂.Consistent rt₂.engine.state.position ∧ Kept cell cell₂ ∧ cell₂.Released ∧
          TouchFrame.singles cell.eased.engageEvents = TouchFrame.singles cell₂.engageEvents)
        rt.cells rt₂.cells := by
      refine forall₂_trans ?_ h₁.cells h₂.cells
      rintro cell cell₁ cell₂ ⟨hl, -, hk, hretained⟩ ⟨hl', ⟨hcons, hk', hr⟩, hengage⟩
      exact ⟨hl'.trans hl, hcons, ⟨hk'.1.trans hk.1, hk'.2.trans hk.2⟩, hr,
        by rw [hengage, hretained.engage]⟩
    have hengage : rt.cells.flatMap (fun cell => TouchFrame.singles cell.eased.engageEvents) =
        rt₂.cells.flatMap fun cell => TouchFrame.singles cell.engageEvents :=
      flatMap_eq_of_forall₂ (h₁₂.imp fun _ _ h => h.2.2.2.2)
    have hlog : rt₂.engine.log = rt.engine.log ++
        (rt.cells.flatMap fun cell => TouchFrame.singles cell.retainEvents) ++
          rt.cells.flatMap fun cell => TouchFrame.singles cell.releaseEvents := by
      rw [hlog₂, hlog₁, hrelease]
    refine wp_mono (visit_log_spec (K := .unknown (Recorder I)) TouchEngine.log
      (fun cell => TouchFrame.singles cell.engageEvents)
      (fun pos cell => cell.Consistent pos ∧ cell.Targets setup held ∧ cell.Released)
      (fun _ _ _ => True) (fun _ _ _ heq h => ⟨h.1.congr heq, h.2⟩) (fun _ _ _ _ _ _ h => h)
      (fun eng cell hK h => wp_mono (wp_and
        (engage_spec now hK h.1 (allowsControl_unknown _) h.2.1 h.2.2) (engage_recorded now h.1))
        (fun _ t ht => ⟨ht.1.imp fun _ => trivial, ht.2⟩) fun _ _ h => h)
      (h₂.layouts ▸ h₁.layouts ▸ hd) trivial fun cell hcell => ?_) ?_ ?_
    · obtain ⟨cell₀, hcell₀, hl, hcons, hk, hr, -⟩ := forall₂_exists_left h₁₂ hcell
      exact ⟨hcons, (ht cell₀ hcell₀).of_kept hl hk, hr⟩
    · rintro - rt₃ ⟨-, hlog₃⟩
      rw [hlog₃, hlog, hengage]
      simp only [List.append_assoc]
    · rintro - rt₃ ⟨-, hadds⟩
      have hadds : Adds (rt₂.cells.flatMap fun cell => TouchFrame.singles cell.engageEvents)
          rt₂.engine.log rt₃.engine.log := hadds
      rw [hlog, ← hengage] at hadds
      exact hadds.append.append
  · have hadds : Adds (rt₁.cells.flatMap fun cell => TouchFrame.singles cell.releaseEvents)
        rt₁.engine.log rt'.engine.log := h.2
    rw [hlog₁, hrelease] at hadds
    exact hadds.append.of_prefix ((List.prefix_append_right_inj _).mpr (List.prefix_append _ _))

/-- **The frames of a reconciliation** are the events of the three loops, one by one; when the
injector refuses a frame, they end with it. -/
theorem reconcileContinuous_recorded (now : ℕ)
    (hd : rt.layouts.Pairwise fun l l' => Disjoint l.Owns l'.Owns)
    (hc : ∀ cell ∈ rt.cells, cell.Consistent rt.engine.state.position) :
    wp (reconcileContinuous now)
      (fun _ rt' => rt'.engine.log = rt.engine.log ++ TouchFrame.singles (handover rt.wanting))
      (fun _ rt' => Adds (TouchFrame.singles (handover rt.wanting)) rt.engine.log rt'.engine.log)
      rt := by
  rw [reconcileContinuous, refreshLayers, wp_bind, wp_modify, wp_bind, wp_get, wp_bind, wp_mapCells]
  generalize hmid : UnifiedRuntime.mk rt.setup rt.engine rt.wanting
    (refreshed rt.layouts rt.held) = mid
  have hlayouts : mid.layouts = rt.layouts := by
    rw [← hmid, UnifiedRuntime.layouts, UnifiedRuntime.layouts, wanting, List.map_map]
    rfl
  have hengine : rt.engine = mid.engine := by rw [← hmid]
  have hcells : rt.wanting = mid.cells := by rw [← hmid]
  have hwanting : ∀ cell ∈ mid.cells, cell.Consistent mid.engine.state.position ∧
      cell.Targets rt.setup (refreshed rt.layouts rt.held) := by
    rw [← hengine, ← hmid]
    intro _ hmem
    obtain ⟨cell, hcell, rfl⟩ := List.mem_map.mp hmem
    exact ⟨(hc cell hcell).of_fields rfl rfl rfl rfl, cell, rfl, rfl, rfl⟩
  rw [hengine, hcells]
  refine Eq.mp ?_ (settle_recorded now (hlayouts ▸ hd) (fun cell hcell => (hwanting cell hcell).1)
    fun cell hcell => (hwanting cell hcell).2)
  rw [← hmid]
  rfl

end UnifiedRuntime

end Recorded

end Wroid
