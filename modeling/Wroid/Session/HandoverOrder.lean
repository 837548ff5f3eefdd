import Wroid.Session.Handover

/-!
# Lifts before presses

The frames of a reconciliation hand the contacts over if every lift comes before every press of
another contact.  Two things can get in the way, both of them joysticks whose opposite
directions cancel: such a joystick *springs* down when it leaves one of the two directions,
which happens before anything else is lifted, and a joystick that takes the second of the two
*collapses*, which happens while others are pressed.

## Main definitions

* `Chain` — each frame is accepted when its turn comes.
* `HandsOver` — every lift comes before every press of another contact, and no more contacts
  are ever down than before or after.
* `ControlCell.springs`, `rests`, `lifts`, `starts`, `collapses` — what the three loops do.
* `Orderly` — the controls do not cross a press with a lift.
* `ReconcileEvent` — the events that make the runtime reconcile.

## Main results

* `HandsOver.of_lifts_first` — lifts first is enough for both parts.
* `ordered_iff`, `Orderly.lifts_first` — the events of orderly controls have their lifts first.
* `call_returned` — a call that returns keeps the invariant, whatever the injector does.
* `lifts_before_presses` — **the handover of every reachable state**.
-/

set_option linter.constructorNameAsVariable false

namespace Wroid

open Lib

/-! ### Frames one after another -/

/-- Each frame is accepted when its turn comes. -/
def Chain : TouchState → List TouchFrame → Prop
  | _, [] => True
  | st, frame :: frames => st.FrameValid frame ∧ Chain (st.applyFrame frame) frames

theorem chain_append {st : TouchState} {frames frames' : List TouchFrame} :
    Chain st (frames ++ frames') ↔
      Chain st frames ∧ Chain (frames.foldl TouchState.applyFrame st) frames' := by
  induction frames generalizing st with
  | nil => exact ⟨fun h => ⟨trivial, h⟩, fun h => h.2⟩
  | cons frame frames ih =>
    rw [List.cons_append, Chain, Chain, ih, List.foldl_cons, and_assoc]

/-- The contract of an injector that accepts everything: its log is a chain that leads to the
committed state. -/
def Contract.chained (st₀ : TouchState) : Contract (Recorder Unit) where
  Inv st r := Chain st₀ r.submitted ∧ r.submitted.foldl TouchState.applyFrame st₀ = st
  Allowed _ := True
  Failed _ _ := False
  inject_spec st r frame h hvalid _ := by
    obtain ⟨hchain, rfl⟩ := h
    simp only [TouchInjector.inject, wp_bind, wp_modify, wp_zoom, wp_pure]
    refine ⟨chain_append.mpr ⟨hchain, hvalid, trivial⟩, ?_⟩
    rw [List.foldl_append]
    rfl

/-- Every lift comes before every press of another contact, and no more contacts are ever
down than before the frames or after them. -/
structure HandsOver (st : TouchState) (frames : List TouchFrame) : Prop where
  ordered : (frames.flatMap TouchFrame.events).Pairwise fun e e' =>
    e.phase = .down → e'.phase = .up → e.contactId = e'.contactId
  bounded : ∀ k, ((frames.take k).foldl TouchState.applyFrame st).activeContactCount ≤
    max st.activeContactCount (frames.foldl TouchState.applyFrame st).activeContactCount

namespace TouchState

/-- A contact that is not lifted stays. -/
theorem count_le_applyEvent (st : TouchState) {e : TouchEvent}
    (h : e.phase = .down ∨ e.phase = .move) :
    st.activeContactCount ≤ (st.applyEvent e).activeContactCount := by
  unfold applyEvent activeContactCount
  rcases h with h | h <;> rw [h] <;> exact Std.ExtTreeMap.size_le_size_insert

/-- Only a press adds a contact. -/
theorem applyEvent_count_le {st : TouchState} {e : TouchEvent} (hfits : e.Fits st)
    (h : e.phase ≠ .down) : (st.applyEvent e).activeContactCount ≤ st.activeContactCount := by
  have hactive : st.activeContacts.contains e.contactId = true := hfits.mpr h
  unfold applyEvent activeContactCount
  cases hphase : e.phase with
  | down => exact absurd hphase h
  | move =>
    simp only
    rw [Std.ExtTreeMap.size_insert, if_pos hactive]
  | up => exact Std.ExtTreeMap.size_erase_le
  | cancel => exact Std.ExtTreeMap.size_erase_le

end TouchState

/-- While nothing is lifted the count does not fall. -/
theorem count_take_le {st : TouchState} {events : List TouchEvent}
    (h : ∀ e ∈ events, e.phase = .down ∨ e.phase = .move) (k : ℕ) :
    (((TouchFrame.singles events).take k).foldl TouchState.applyFrame st).activeContactCount ≤
      ((TouchFrame.singles events).foldl TouchState.applyFrame st).activeContactCount := by
  induction events generalizing st k with
  | nil => simp
  | cons e events ih =>
    obtain ⟨he, hevents⟩ := List.forall_mem_cons.mp h
    have hstep := st.count_le_applyEvent he
    cases k with
    | zero =>
      have hrest := @ih (st.applyEvent e) hevents 0
      rw [List.take_zero, List.foldl_nil] at hrest ⊢
      exact hstep.trans hrest
    | succ k => exact ih hevents k

/-- **Lifts first is enough**: then the count falls before it rises. -/
theorem HandsOver.of_lifts_first {st : TouchState} {events : List TouchEvent}
    (hchain : Chain st (TouchFrame.singles events)) (hcancel : ∀ e ∈ events, e.phase ≠ .cancel)
    (hfirst : events.Pairwise fun e e' => e.phase = .down → e'.phase ≠ .up) :
    HandsOver st (TouchFrame.singles events) := by
  refine ⟨?_, fun k => ?_⟩
  · rw [TouchFrame.flatMap_singles]
    exact hfirst.imp fun h hdown hup => absurd hup (h hdown)
  · induction events generalizing st k with
    | nil => simp
    | cons e events ih =>
      obtain ⟨hvalid, hchain⟩ := hchain
      obtain ⟨-, hcancel'⟩ := List.forall_mem_cons.mp hcancel
      obtain ⟨hfirst, hrest⟩ := List.pairwise_cons.mp hfirst
      cases k with
      | zero => exact le_max_left _ _
      | succ k =>
        by_cases hdown : e.phase = .down
        · -- nothing is lifted any more, so the count only rises
          have hrises : ∀ e' ∈ events, e'.phase = .down ∨ e'.phase = .move := by
            intro e' he'
            have hup := hfirst e' he' hdown
            have hnone := hcancel' e' he'
            cases hphase : e'.phase with
            | down => exact .inl rfl
            | move => exact .inr rfl
            | up => exact absurd hphase hup
            | cancel => exact absurd hphase hnone
          exact le_max_of_le_right (@count_take_le (st.applyEvent e) events hrises k)
        · have hfalls := TouchState.applyEvent_count_le (hvalid.fits e List.mem_cons_self) hdown
          have hrest := ih hchain hcancel' hrest k
          exact hrest.trans (max_le_max_right _ hfalls)

/-! ### What the loops do -/

/-- Some of the events presses a contact. -/
def Presses (events : List TouchEvent) : Prop := ∃ e ∈ events, e.phase = .down

/-- Some of the events lifts a contact. -/
def Lifts (events : List TouchEvent) : Prop := ∃ e ∈ events, e.phase = .up

section MoveEvents

variable {contact : ContactId} {place place' : Option Point}

theorem presses_moveEvents :
    Presses (moveEvents contact place place') ↔ (place.isNone && place'.isSome) = true := by
  cases place <;> cases place' <;> simp [Presses, moveEvents]

theorem lifts_moveEvents :
    Lifts (moveEvents contact place place') ↔ (place.isSome && place'.isNone) = true := by
  cases place <;> cases place' <;> simp [Lifts, moveEvents]

theorem moveEvents_length_le : (moveEvents contact place place').length ≤ 1 := by
  cases place <;> cases place' <;> simp only [moveEvents] <;> (try split) <;> simp

theorem mem_moveEvents {e : TouchEvent} (h : e ∈ moveEvents contact place place') :
    e.contactId = contact ∧ e.phase ≠ .cancel := by
  unfold moveEvents at h
  split at h
  · simp at h
  · obtain rfl := List.mem_singleton.mp h
    exact ⟨rfl, nofun⟩
  · obtain rfl := List.mem_singleton.mp h
    exact ⟨rfl, nofun⟩
  · split at h
    · simp at h
    · obtain rfl := List.mem_singleton.mp h
      exact ⟨rfl, nofun⟩

end MoveEvents

/-- Directions that cancel, of which some remain, do not cancel again: what cancelled one of
those that remain is not wanted. -/
theorem retained_not_cancelled {d w : DirectionalInput} (hh : d.horizontal = 0)
    (hv : d.vertical = 0)
    (hr : (ControlCell.directionIntersection d w).horizontal ≠ 0 ∨
      (ControlCell.directionIntersection d w).vertical ≠ 0) :
    w.horizontal ≠ 0 ∨ w.vertical ≠ 0 := by
  obtain ⟨u, l, dn, r⟩ := d
  obtain ⟨u', l', dn', r'⟩ := w
  revert u l dn r u' l' dn' r'
  decide

/-- The contact is up exactly if the directions cancel. -/
theorem VirtualJoystick.target_isNone (j : VirtualJoystick) (d : DirectionalInput) :
    (j.target d).isNone = true ↔ d.horizontal = 0 ∧ d.vertical = 0 := by
  unfold target
  split
  · next h => simp [h]
  · next h => simpa using h

namespace ControlCell

/-- A joystick goes down when it leaves a direction. -/
def springs (cell : ControlCell) : Bool :=
  match cell.action with
  | .virtualJoystick joystick _ _ =>
    (joystick.target cell.directions).isNone && (joystick.target cell.retained).isSome
  | _ => false

/-- A joystick goes up when it leaves a direction. -/
def rests (cell : ControlCell) : Bool :=
  match cell.action with
  | .virtualJoystick joystick _ _ =>
    (joystick.target cell.directions).isSome && (joystick.target cell.retained).isNone
  | _ => false

/-- A hold binding is released. -/
def lifts (cell : ControlCell) : Bool :=
  match cell.action with
  | .hold _ => cell.activeBinding && !cell.desiredBinding
  | _ => false

/-- A hold binding is pressed, or a joystick goes down when it takes a direction. -/
def starts (cell : ControlCell) : Bool :=
  match cell.action with
  | .hold _ => !cell.activeBinding && cell.desiredBinding
  | .virtualJoystick joystick _ _ =>
    (joystick.target cell.retained).isNone && (joystick.target cell.desiredDirections).isSome
  | _ => false

/-- A joystick goes up when it takes a direction. -/
def collapses (cell : ControlCell) : Bool :=
  match cell.action with
  | .virtualJoystick joystick _ _ =>
    (joystick.target cell.retained).isSome && (joystick.target cell.desiredDirections).isNone
  | _ => false

variable {cell : ControlCell} {pos : ContactId → Option Point}

/-- A joystick that springs down takes no direction that cancels. -/
theorem not_collapses_of_springs (h : cell.springs = true) : cell.collapses = false := by
  unfold springs at h
  unfold collapses
  split at h
  · next j mode interval action =>
    obtain ⟨hnone, hsome⟩ := Bool.and_eq_true_iff.mp h
    obtain ⟨hh, hv⟩ := (j.target_isNone _).mp hnone
    have hr : ¬ ((j.target cell.retained).isNone = true) := by
      rw [Option.isNone_iff_eq_none]
      exact Option.isSome_iff_ne_none.mp hsome
    rw [j.target_isNone, not_and_or] at hr
    have hw : ¬ (cell.desiredDirections.horizontal = 0 ∧ cell.desiredDirections.vertical = 0) :=
      not_and_or.mpr (retained_not_cancelled hh hv hr)
    rw [← j.target_isNone] at hw
    simp [hw]
  · cases h

theorem not_lifts_of_springs (h : cell.springs = true) : cell.lifts = false := by
  unfold springs at h
  unfold lifts
  split at h
  · next action => rw [action]
  · cases h

section Events

theorem presses_retainEvents : Presses cell.retainEvents ↔ cell.springs = true := by
  unfold retainEvents springs
  cases cell.action with
  | virtualJoystick j mode interval => exact presses_moveEvents
  | tap | hold | mouseAim => simp [Presses]

theorem lifts_retainEvents : Lifts cell.retainEvents ↔ cell.rests = true := by
  unfold retainEvents rests
  cases cell.action with
  | virtualJoystick j mode interval => exact lifts_moveEvents
  | tap | hold | mouseAim => simp [Lifts]

theorem not_presses_releaseEvents : ¬ Presses cell.releaseEvents := by
  unfold releaseEvents
  split
  · split
    · simp [Presses, pointEvents]
    · simp [Presses]
  · simp [Presses]

theorem lifts_releaseEvents (h : cell.Consistent pos) :
    Lifts cell.releaseEvents ↔ cell.lifts = true := by
  unfold releaseEvents lifts
  split
  · next point action =>
    obtain ⟨contact, hcontact, -⟩ := h.hold_fields action
    rw [pointEvents_eq hcontact]
    split <;> simp_all [Lifts]
  · simp [Lifts]

theorem presses_engageEvents (h : cell.Consistent pos) :
    Presses cell.eased.engageEvents ↔ cell.starts = true := by
  have heased : cell.eased.action = cell.action := rfl
  rw [engageEvents, heased, starts]
  cases action : cell.action with
  | hold point =>
    obtain ⟨contact, hcontact, -⟩ := h.hold_fields action
    have hcontact : cell.eased.layout.pointContact = some contact := hcontact
    have hactive : cell.eased.activeBinding = (cell.activeBinding && cell.desiredBinding) := rfl
    have hdesired : cell.eased.desiredBinding = cell.desiredBinding := rfl
    simp only [pointEvents_eq hcontact, hactive, hdesired]
    cases cell.activeBinding <;> cases cell.desiredBinding <;> simp [Presses]
  | virtualJoystick j mode interval => exact presses_moveEvents
  | tap | mouseAim => simp [Presses]

theorem lifts_engageEvents : Lifts cell.eased.engageEvents ↔ cell.collapses = true := by
  have heased : cell.eased.action = cell.action := rfl
  rw [engageEvents, heased, collapses]
  cases cell.action with
  | hold point =>
    simp only
    split <;> simp [Lifts, pointEvents]
  | virtualJoystick j mode interval => exact lifts_moveEvents
  | tap | mouseAim => simp [Lifts]

/-- The events a control contributes. -/
def EventOf (cell : ControlCell) (e : TouchEvent) : Prop :=
  e ∈ cell.retainEvents ∨ e ∈ cell.releaseEvents ∨ e ∈ cell.eased.engageEvents

theorem mem_pointEvents {phase : TouchPhase} {point : Point} {e : TouchEvent}
    (h : e ∈ cell.pointEvents phase point) :
    cell.layout.pointContact = some e.contactId ∧ e.phase = phase := by
  obtain ⟨contact, hcontact, rfl⟩ := List.mem_map.mp h
  exact ⟨by simpa using hcontact, rfl⟩

/-- They are about its own contacts, and cancel none. -/
theorem EventOf.owned {e : TouchEvent} (h : cell.EventOf e) :
    e.contactId ∈ cell.layout.Owns ∧ e.phase ≠ .cancel := by
  have hpoint : ∀ point phase, cell.action = .hold point → phase ≠ .cancel →
      e ∈ cell.pointEvents phase point → e.contactId ∈ cell.layout.Owns ∧ e.phase ≠ .cancel := by
    intro point phase action hphase he
    obtain ⟨hcontact, rfl⟩ := mem_pointEvents he
    rw [owns_of_hold action hcontact]
    exact ⟨rfl, hphase⟩
  have hmove : ∀ j mode interval place place', cell.action = .virtualJoystick j mode interval →
      e ∈ moveEvents j.contactId place place' → e.contactId ∈ cell.layout.Owns ∧ e.phase ≠ .cancel := by
    intro j mode interval place place' action he
    rw [owns_of_joystick action]
    exact mem_moveEvents he
  have heased : cell.eased.action = cell.action := rfl
  rcases h with h | h | h
  · unfold retainEvents at h
    split at h
    · next action => exact hmove _ _ _ _ _ action h
    · simp at h
  · unfold releaseEvents at h
    split at h
    · next action =>
      split at h
      · exact hpoint _ .up action (by decide) h
      · simp at h
    · simp at h
  · rw [engageEvents, heased] at h
    split at h
    · next action =>
      split at h
      · exact hpoint _ .down action (by decide) h
      · simp at h
    · next action => exact hmove _ _ _ _ _ action h
    · simp at h

theorem pointEvents_length_le (phase : TouchPhase) (point : Point) :
    (cell.pointEvents phase point).length ≤ 1 := by
  rw [pointEvents, List.length_map]
  cases cell.layout.pointContact <;> simp

theorem retainEvents_length_le : cell.retainEvents.length ≤ 1 := by
  unfold retainEvents
  split
  · exact moveEvents_length_le
  · simp

theorem releaseEvents_length_le : cell.releaseEvents.length ≤ 1 := by
  unfold releaseEvents
  split
  · split
    · exact pointEvents_length_le _ _
    · simp
  · simp

theorem engageEvents_length_le : cell.engageEvents.length ≤ 1 := by
  unfold engageEvents
  split
  · split
    · exact pointEvents_length_le _ _
    · simp
  · exact moveEvents_length_le
  · simp

end Events

end ControlCell

/-! ### Orderly controls -/

/-- The controls do not cross a press with a lift. -/
structure Orderly (cells : List ControlCell) : Prop where
  /-- No joystick springs down before another one rests. -/
  resting : cells.Pairwise fun a b => a.springs = true → b.rests = false
  /-- When a joystick springs down, no hold binding is released and no joystick collapses. -/
  lifting : ∀ a ∈ cells, a.springs = true → ∀ b ∈ cells, b.lifts = false ∧ b.collapses = false
  /-- Nothing starts before a joystick collapses. -/
  starting : cells.Pairwise fun a b => a.starts = true → b.collapses = false

section Orderly

open ControlCell

variable {cells : List ControlCell} {pos : ContactId → Option Point}

/-- A list of at most one element has nothing to compare. -/
theorem pairwise_of_length_le {α : Type} {R : α → α → Prop} {as : List α} (h : as.length ≤ 1) :
    as.Pairwise R := by
  match as, h with
  | [], _ => exact .nil
  | [a], _ => exact List.pairwise_singleton R a

/-- The events of orderly controls have their lifts first. -/
theorem Orderly.lifts_first (h : Orderly cells) (hc : ∀ cell ∈ cells, cell.Consistent pos) :
    (handover cells).Pairwise fun e e' => e.phase = .down → e'.phase ≠ .up := by
  -- events of two controls, one of which presses no contact or the other lifts none
  have happart : ∀ {es es' : List TouchEvent}, (Presses es → ¬ Lifts es') →
      ∀ e ∈ es, ∀ e' ∈ es', e.phase = .down → e'.phase ≠ .up :=
    fun hnot e he e' he' hdown hup => hnot ⟨e, he, hdown⟩ ⟨e', he', hup⟩
  rw [handover, List.append_assoc, List.pairwise_append, List.pairwise_append]
  simp only [List.pairwise_flatMap, List.mem_append, List.mem_flatMap]
  refine ⟨⟨fun a _ => pairwise_of_length_le retainEvents_length_le, ?_⟩,
    ⟨⟨fun a _ => pairwise_of_length_le releaseEvents_length_le, ?_⟩,
      ⟨fun a _ => pairwise_of_length_le engageEvents_length_le, ?_⟩, ?_⟩, ?_⟩
  · refine h.resting.imp fun hab => happart fun hpress hlift => ?_
    have hspring := presses_retainEvents.mp hpress
    exact absurd (lifts_retainEvents.mp hlift) (by simp [hab hspring])
  · exact List.pairwise_of_forall fun a b => happart fun hpress _ => not_presses_releaseEvents hpress
  · refine (List.pairwise_iff_forall_sublist.mpr fun {a b} hsub => happart fun hpress hlift => ?_)
    have ha : a ∈ cells := hsub.subset (by simp)
    have hstart := (presses_engageEvents (hc a ha)).mp hpress
    have hkeep := List.pairwise_iff_forall_sublist.mp h.starting hsub hstart
    exact absurd (lifts_engageEvents.mp hlift) (by simp [hkeep])
  · rintro e ⟨a, -, he⟩ e' -  hdown
    exact absurd ⟨e, he, hdown⟩ not_presses_releaseEvents
  · rintro e ⟨a, ha, he⟩ e' he' hdown hup
    have hspring := presses_retainEvents.mp ⟨e, he, hdown⟩
    rcases he' with ⟨b, hb, he'⟩ | ⟨b, hb, he'⟩
    · have hlift := (lifts_releaseEvents (hc b hb)).mp ⟨e', he', hup⟩
      exact absurd hlift (by simp [(h.lifting a ha hspring b hb).1])
    · have hcollapse := lifts_engageEvents.mp ⟨e', he', hup⟩
      exact absurd hcollapse (by simp [(h.lifting a ha hspring b hb).2])

/-- Two controls that own one contact are the same. -/
theorem eq_of_owned (hd : cells.Pairwise fun a b => Disjoint a.layout.Owns b.layout.Owns)
    {a b : ControlCell} (ha : a ∈ cells) (hb : b ∈ cells) {c : ContactId}
    (hca : c ∈ a.layout.Owns) (hcb : c ∈ b.layout.Owns) : a = b := by
  have happart : cells.Pairwise fun a b => c ∈ a.layout.Owns → c ∈ b.layout.Owns → a = b :=
    hd.imp fun h hca hcb => ((h.ne_of_mem hca hcb) rfl).elim
  have hflip : cells.Pairwise (flip fun a b => c ∈ a.layout.Owns → c ∈ b.layout.Owns → a = b) :=
    hd.imp fun h hcb hca => ((h.ne_of_mem hca hcb) rfl).elim
  exact happart.forall_of_forall_of_flip (fun _ _ _ _ => rfl) hflip ha hb hca hcb

/-- If the events keep the order, the controls are orderly. -/
theorem Orderly.of_ordered (hc : ∀ cell ∈ cells, cell.Consistent pos)
    (hd : cells.Pairwise fun a b => Disjoint a.layout.Owns b.layout.Owns)
    (h : (handover cells).Pairwise fun e e' =>
      e.phase = .down → e'.phase = .up → e.contactId = e'.contactId) : Orderly cells := by
  rw [handover, List.append_assoc, List.pairwise_append, List.pairwise_append] at h
  simp only [List.pairwise_flatMap, List.mem_append, List.mem_flatMap] at h
  obtain ⟨⟨-, hretain⟩, ⟨-, ⟨-, hengage⟩, -⟩, hcross⟩ := h
  refine ⟨?_, ?_, ?_⟩
  · refine (hretain.and hd).imp fun {a b} hpair hspring => ?_
    obtain ⟨hab, hdis⟩ := hpair
    rw [Bool.eq_false_iff]
    intro hrest
    obtain ⟨e, he, hdown⟩ := presses_retainEvents.mpr hspring
    obtain ⟨e', he', hup⟩ := lifts_retainEvents.mpr hrest
    exact hdis.ne_of_mem (EventOf.owned (.inl he)).1 (EventOf.owned (.inl he')).1
      (hab e he e' he' hdown hup)
  · intro a ha hspring b hb
    obtain ⟨e, he, hdown⟩ := presses_retainEvents.mpr hspring
    -- the event that is crossed would be of the same control, which does not do both
    have hsame : ∀ e', b.EventOf e' → e.contactId = e'.contactId → a = b := by
      intro e' he' heq
      have hb' := he'.owned.1
      rw [← heq] at hb'
      exact eq_of_owned hd ha hb (EventOf.owned (.inl he)).1 hb'
    constructor
    · rw [Bool.eq_false_iff]
      intro hlift
      obtain ⟨e', he', hup⟩ := (lifts_releaseEvents (hc b hb)).mpr hlift
      have heq := hcross e ⟨a, ha, he⟩ e' (.inl ⟨b, hb, he'⟩) hdown hup
      obtain rfl := hsame e' (.inr (.inl he')) heq
      rw [not_lifts_of_springs hspring] at hlift
      cases hlift
    · rw [Bool.eq_false_iff]
      intro hcollapse
      obtain ⟨e', he', hup⟩ := lifts_engageEvents.mpr hcollapse
      have heq := hcross e ⟨a, ha, he⟩ e' (.inr ⟨b, hb, he'⟩) hdown hup
      obtain rfl := hsame e' (.inr (.inr he')) heq
      rw [not_collapses_of_springs hspring] at hcollapse
      cases hcollapse
  · refine List.pairwise_iff_forall_sublist.mpr fun {a b} hsub hstart => ?_
    have ha : a ∈ cells := hsub.subset (by simp)
    have hab := List.pairwise_iff_forall_sublist.mp hengage hsub
    have hdis := List.pairwise_iff_forall_sublist.mp hd hsub
    rw [Bool.eq_false_iff]
    intro hcollapse
    obtain ⟨e, he, hdown⟩ := (presses_engageEvents (hc a ha)).mpr hstart
    obtain ⟨e', he', hup⟩ := lifts_engageEvents.mpr hcollapse
    exact hdis.ne_of_mem (EventOf.owned (.inr (.inr he))).1 (EventOf.owned (.inr (.inr he'))).1
      (hab e he e' he' hdown hup)

theorem handover_not_cancel : ∀ e ∈ handover cells, e.phase ≠ .cancel := by
  intro e he
  simp only [handover, List.mem_append, List.mem_flatMap] at he
  rcases he with (⟨a, -, he⟩ | ⟨a, -, he⟩) | ⟨a, -, he⟩
  · exact (EventOf.owned (.inl he)).2
  · exact (EventOf.owned (.inr (.inl he))).2
  · exact (EventOf.owned (.inr (.inr he))).2

/-- **The frames of a reconciliation hand the contacts over exactly if the controls are
orderly.** -/
theorem handsOver_iff {st : TouchState} (hc : ∀ cell ∈ cells, cell.Consistent pos)
    (hd : cells.Pairwise fun a b => Disjoint a.layout.Owns b.layout.Owns)
    (hchain : Chain st (TouchFrame.singles (handover cells))) :
    HandsOver st (TouchFrame.singles (handover cells)) ↔ Orderly cells := by
  constructor
  · intro h
    have hordered := h.ordered
    rw [TouchFrame.flatMap_singles] at hordered
    exact .of_ordered hc hd hordered
  · intro h
    exact .of_lifts_first hchain handover_not_cancel (h.lifts_first hc)

/-- The first frames of orderly controls hand over as well. -/
theorem Orderly.handsOver_prefix {st : TouchState} {frames : List TouchFrame} (h : Orderly cells)
    (hc : ∀ cell ∈ cells, cell.Consistent pos)
    (hchain : Chain st (TouchFrame.singles (handover cells)))
    (hp : frames <+: TouchFrame.singles (handover cells)) : HandsOver st frames := by
  obtain ⟨rest, hrest⟩ := hp
  have htake : frames = TouchFrame.singles ((handover cells).take frames.length) := by
    rw [TouchFrame.singles, List.map_take, ← TouchFrame.singles, ← hrest, List.take_left]
  rw [← hrest] at hchain
  have hchain := (chain_append.mp hchain).1
  rw [htake] at hchain ⊢
  exact .of_lifts_first hchain (fun e he => handover_not_cancel e (List.mem_of_mem_take he))
    ((h.lifts_first hc).sublist (List.take_sublist _ _))

end Orderly

/-! ### Calls that return -/

namespace MouseAimController

variable {I : Type} [TouchInjector I] {eng : TouchEngine I} {c : MouseAimController}

/-- A cancelled controller keeps its aim and its settings, even when the engine refused. -/
structure Cancelled (c : MouseAimController) (t : TouchEngine I × MouseAimController) : Prop where
  aim : t.2.aim = c.aim
  settings : t.2.settings = c.settings
  idle : t.2.isActive = false

theorem cancel_cancelled : wp cancel (fun _ t => Cancelled c t) (fun _ t => Cancelled c t) (eng, c) := by
  simp only [cancel, wp_bind, wp_get, wp_update]
  split
  · split
    · simp only [wp_bind, wp_pure, wp_onEngine]
      exact wp_mono wp_true (fun _ _ _ => ⟨rfl, rfl, rfl⟩) fun _ _ _ => ⟨rfl, rfl, rfl⟩
    · exact ⟨rfl, rfl, rfl⟩
  · exact ⟨rfl, rfl, rfl⟩

end MouseAimController

namespace ControlCell

variable {I : Type} [TouchInjector I] {cell : ControlCell} {pos : ContactId → Option Point}

/-- A cancelled control is consistent, once it is reset and no contact is down. -/
theorem cancelAim_reset {s : TouchEngine I × Option SessionError} (h : cell.Consistent pos) :
    wp cancelAim (fun _ t => t.2.layout = cell.layout ∧ (reset t.2).Consistent fun _ => none)
      (fun _ _ => True) (s, cell) := by
  simp only [cancelAim, wp_bind, wp_get]
  split
  · next c hc =>
    have haction := (h.aim_fields hc).1
    have hreset : ∀ c' : MouseAimController, c'.aim = c.aim → c'.settings = c.settings →
        c'.isActive = false →
          (reset { cell with aimController := some c' }).Consistent fun _ => none := by
      intro c' haim hsettings hidle
      obtain ⟨hactive, hpending⟩ := MouseAimController.isActive_eq_false.mp hidle
      refine .aim c' ?_ rfl rfl rfl (.idle hactive hpending fun _ _ => rfl)
      rw [haim, hsettings]
      exact haction
    simp only [wp_bind, wp_zoom, wp_attempt]
    refine wp_mono MouseAimController.cancel_cancelled ?_ ?_
    · intro _ t ht
      exact ⟨rfl, hreset t.2 ht.aim ht.settings ht.idle⟩
    · intro error t ht
      simp only [wp_modify, wp_get, Option.getD_some]
      refine wp_mono MouseAimController.cancel_cancelled ?_ ?_
      · intro _ u hu
        exact ⟨rfl, hreset u.2 (hu.aim.trans ht.aim) (hu.settings.trans ht.settings) hu.idle⟩
      · intro error' u hu
        exact ⟨rfl, hreset u.2 (hu.aim.trans ht.aim) (hu.settings.trans ht.settings) hu.idle⟩
  · next hnone =>
    exact ⟨rfl, h.reset (fun c hc => by cases hnone.symm.trans hc) fun _ => rfl⟩

end ControlCell

namespace UnifiedRuntime

open ControlCell

variable {I : Type} [TouchInjector I] {setup : RuntimeSetup} {layouts : List ControlLayout}
  {rt : UnifiedRuntime I}

/-- A suspension that returns leaves the invariant behind. -/
theorem suspend_returned (h : Invariant (.unknown I) setup layouts rt) :
    wp suspend (fun _ rt' => Invariant (.unknown I) setup layouts rt') (fun _ _ => True) rt := by
  have hclear := suspend_clears rt fun eng =>
    wp_mono (TouchEngine.cancelAll_spec (K := .unknown I) trivial trivial) (fun _ _ he => he.2)
      fun _ _ _ => trivial
  have hcells : wp suspend (fun _ rt' => rt'.setup = rt.setup ∧ List.Forall₂ (fun cell cell' =>
      cell'.layout = cell.layout ∧ cell'.Consistent (fun _ => none) ∧ cell'.activeBinding = false ∧
        cell'.directions = .neutral) rt.cells rt'.cells) (fun _ _ => True) rt := by
    simp only [suspend, wp_bind, wp_zoom, wp_get, wp_pure, wp_attempt, wp_onEngine, wp_modify]
    refine wp_mono (wp_each (fun cell => cell.Consistent rt.engine.state.position)
      (fun cell cell' => cell'.layout = cell.layout ∧ (reset cell').Consistent fun _ => none)
      (fun s cell hcell => cancelAim_reset hcell) h.coherent.consistent) ?_ fun _ _ _ => trivial
    rintro - ⟨⟨eng, failure⟩, cells⟩ hcells
    have hreset : List.Forall₂ (fun cell cell' => cell'.layout = cell.layout ∧
        cell'.Consistent (fun _ => none) ∧ cell'.activeBinding = false ∧
          cell'.directions = .neutral) rt.cells (cells.map reset) := by
      rw [List.forall₂_map_right_iff]
      exact hcells.imp fun cell cell' hcell => ⟨hcell.1, hcell.2, rfl, rfl⟩
    refine wp_mono wp_true (fun _ e _ => ?_) fun error e _ => ?_
    · split
      · exact ⟨rfl, hreset⟩
      · trivial
    · cases failure <;> trivial
  refine wp_mono (wp_and hclear hcells) ?_ fun _ _ _ => trivial
  rintro - rt' ⟨⟨hheld, hup⟩, hsetup, hcells⟩
  have hup : rt'.engine.state.position = fun _ => none := funext hup
  have hsettled : ∀ cell ∈ rt'.cells, cell.Settled setup .none rt'.engine.state.position := by
    intro cell hcell
    obtain ⟨_, -, -, hcons, inactive, neutral⟩ := forall₂_exists_left hcells hcell
    rw [hup]
    exact hcons.settled_none inactive neutral
  refine ⟨⟨hsetup.trans h.coherent.setup_eq, ?_, trivial, fun cell hcell =>
    (hsettled cell hcell).consistent, fun key => ?_⟩, ?_, hheld ▸ hsettled⟩
  · rw [← h.coherent.layouts_eq]
    exact layouts_eq_of_forall₂ (hcells.imp fun _ _ hcell => ⟨hcell.1, trivial⟩)
  · simp [hheld, HeldInputs.none]
  · rw [hheld]
    exact (refreshSelectedInputLayers_none layouts).symm

/-- **A call that returns keeps the invariant**, whatever the injector does. -/
theorem call_returned (hdistinct : Distinct setup.cursorContact layouts) (c : RuntimeCall)
    (h : Invariant (.unknown I) setup layouts rt) :
    wp (call c) (fun _ rt' => Invariant (.unknown I) setup layouts rt') (fun _ _ => True) rt := by
  have hcfg : Configured (.unknown I) setup layouts :=
    ⟨hdistinct, fun _ _ _ => ⟨fun _ _ _ _ _ => trivial, fun _ _ _ _ _ _ _ _ _ => trivial⟩⟩
  cases c with
  | suspend => exact suspend_returned h
  | cursorDown position =>
    exact wp_mono (cursorDown_spec position hcfg (fun _ => trivial) h) (fun _ _ hs => hs.invariant)
      fun _ _ _ => trivial
  | cursorMove position =>
    exact wp_mono (cursorMove_spec position hcfg (fun _ => trivial) h)
      (fun _ _ ⟨_, hs, _⟩ => hs.invariant) fun _ _ _ => trivial
  | cursorUp =>
    exact wp_mono (cursorUp_spec hcfg (fun _ _ => trivial) h) (fun _ _ hs => hs.invariant)
      fun _ _ _ => trivial
  | start | handleKeyboard | handleMouse | tick | releaseMouseButtons | restoreAim | setAimEnabled =>
    exact wp_mono (input_spec hcfg (fun _ _ _ _ _ _ _ => trivial) _ trivial h) (fun _ _ h => h)
      fun _ _ _ => trivial

end UnifiedRuntime

/-! ### The law -/

/-- What makes the runtime reconcile. -/
inductive ReconcileEvent
  | key (key : HostKeyName) (pressed : Bool)
  | button (button : HostMouseButton) (pressed : Bool)
  | releaseButtons

namespace UnifiedRuntime

open ControlCell

variable {I : Type}

/-- The runtime with the inputs held that the event leaves held. -/
def heldAfter (event : ReconcileEvent) (rt : UnifiedRuntime I) : UnifiedRuntime I :=
  match event with
  | .key key pressed => { rt with held := holdKey rt.setup rt.held key pressed }
  | .button button pressed => holdButton button pressed rt
  | .releaseButtons =>
    { rt with
      held := { rt.held with heldMouseButtons := 0 }
      cells := rt.cells.map (setAds false) }

section Steps

variable [TouchInjector I]

/-- A key event reconciles what it leaves held before it dispatches anything. -/
theorem handleKey_reconciles (key : HostKeyName) (pressed : Bool) (now : ℕ) :
    handleKey (I := I) key pressed now = (do
      modify (heldAfter (.key key pressed))
      let submitted ← reconcileContinuous now
      let rt ← get
      if (rt.setup.layerControls key).isSome || !pressed then return submitted
      let toggled ← visit (ControlCell.toggleAim key now)
      let dispatched ← visit (ControlCell.dispatchKeyboardPress rt.held key now)
      return submitted || toggled || dispatched) := rfl

/-- So does a button event. -/
theorem handleButton_reconciles (button : HostMouseButton) (pressed : Bool) (now : ℕ) :
    handleButton (I := I) button pressed now = (do
      modify (heldAfter (.button button pressed))
      let submitted ← reconcileContinuous now
      let rt ← get
      if !pressed then return submitted
      let dispatched ← visit (ControlCell.dispatchMousePress rt.held button)
      return submitted || dispatched) := rfl

/-- So does the release of the mouse buttons. -/
theorem releaseMouseButtons_reconciles (now : ℕ) :
    releaseMouseButtons (I := I) now = (do
      let rt ← get
      if rt.held.heldMouseButtons ≠ 0 then do
        set (heldAfter .releaseButtons rt)
        let _ ← reconcileContinuous now) := rfl

end Steps

/-- The event does not touch the contacts, and leaves the controls consistent. -/
theorem Coherent.heldAfter [TouchInjector I] {K : Contract I} {setup : RuntimeSetup}
    {layouts : List ControlLayout} {rt : UnifiedRuntime I} (h : Coherent K setup layouts rt)
    (event : ReconcileEvent) : Coherent K setup layouts (heldAfter event rt) := by
  cases event with
  | key key pressed =>
    refine h.hold ?_
    rw [h.setup_eq]
    exact holdKey_modifiers h.modifiers
  | button button pressed => exact h.holdButton button pressed
  | releaseButtons => exact (h.setAds false).hold h.modifiers

theorem heldAfter_engine (event : ReconcileEvent) (rt : UnifiedRuntime I) :
    (heldAfter event rt).engine = rt.engine := by
  cases event with
  | key | releaseButtons => rfl
  | button button pressed =>
    unfold heldAfter holdButton
    split <;> rfl

/-- The frames of a reconciliation are accepted one after another. -/
theorem handover_chain [TouchInjector I] {K : Contract I} {setup : RuntimeSetup}
    {layouts : List ControlLayout} {rt : UnifiedRuntime I} (h : Coherent K setup layouts rt)
    (hdistinct : Distinct setup.cursorContact layouts) :
    Chain rt.engine.state (TouchFrame.singles (handover rt.wanting)) := by
  -- the same reconciliation, over an injector that accepts every frame
  let rt₁ : UnifiedRuntime (Recorder Unit) :=
    ⟨rt.setup, ⟨.new (), rt.engine.state⟩, rt.cells, rt.held⟩
  have hcoherent : Coherent (.chained rt.engine.state) setup layouts rt₁ :=
    ⟨h.setup_eq, h.layouts_eq, ⟨trivial, rfl⟩, h.consistent, h.modifiers⟩
  have hcfg : Configured (.chained rt.engine.state) setup layouts :=
    ⟨hdistinct, fun _ _ _ => ⟨fun _ _ _ _ _ => trivial, fun _ _ _ _ _ _ _ _ _ => trivial⟩⟩
  have hreturns := wp_and (reconcileContinuous_spec 0 hcfg hcoherent)
    (reconcileContinuous_recorded 0 (h.layouts_eq ▸ hdistinct.apart) h.consistent)
  obtain ⟨_, rt₂, -, hstepped, hlog⟩ := wp_returns (wp_mono hreturns (fun _ _ h => h)
    fun _ _ ⟨⟨_, _, _, _, hfailed⟩, _⟩ => hfailed)
  have hchain : Chain rt.engine.state rt₂.engine.log := hstepped.invariant.coherent.holds.1
  rw [hlog] at hchain
  exact hchain

variable [TouchInjector I] {plan : RuntimeControlPlan} {injector : I}
  {rt₀ rt : UnifiedRuntime (Recorder I)}

/-- **In every reachable state the frames of a reconciliation hand the contacts over exactly if
the controls are orderly.**  When the injector refuses a frame, those submitted until then do so
if the controls are orderly. -/
theorem lifts_before_presses (hnew : new plan (Recorder.new injector) = .ok rt₀)
    (hids : rt₀.contactIds.Nodup) {calls : List RuntimeCall}
    (hrun : runAll call calls rt₀ = .ok () rt) (event : ReconcileEvent) (now : ℕ) :
    wp (reconcileContinuous now)
      (fun _ rt' => ∃ frames, rt'.engine.log = rt.engine.log ++ frames ∧
        (HandsOver rt.engine.state frames ↔ Orderly (heldAfter event rt).wanting))
      (fun _ rt' => ∃ frames, rt'.engine.log = rt.engine.log ++ frames ∧
        (Orderly (heldAfter event rt).wanting → HandsOver rt.engine.state frames))
      (heldAfter event rt) := by
  have hdistinct := distinct_of_nodup hids
  have hruns : wp (runAll call calls)
      (fun _ rt => Invariant (.unknown (Recorder I)) rt₀.setup rt₀.layouts rt) (fun _ _ => True) rt₀ :=
    wp_runAll (fun c _ hI => call_returned hdistinct c hI) calls
      (new_invariant (new_built hnew) trivial)
  have hreached := wp_ok hruns hrun
  have hcoherent := hreached.coherent.heldAfter event
  have hengine := heldAfter_engine event rt
  have hapart : (heldAfter event rt).layouts.Pairwise fun l l' => Disjoint l.Owns l'.Owns :=
    hcoherent.layouts_eq ▸ hdistinct.apart
  have hchain := handover_chain hcoherent hdistinct
  have hcons : ∀ cell ∈ (heldAfter event rt).wanting,
      cell.Consistent (heldAfter event rt).engine.state.position := by
    intro _ hmem
    obtain ⟨cell, hcell, rfl⟩ := List.mem_map.mp hmem
    exact (hcoherent.consistent cell hcell).of_fields rfl rfl rfl rfl
  have hcells : (heldAfter event rt).wanting.Pairwise fun a b =>
      Disjoint a.layout.Owns b.layout.Owns :=
    List.pairwise_map.mpr ((List.pairwise_map (R := fun l l' : ControlLayout =>
      Disjoint l.Owns l'.Owns)).mp hapart)
  refine wp_mono (reconcileContinuous_recorded now hapart hcoherent.consistent) ?_ ?_
  · intro _ rt' hlog
    rw [hengine] at hlog hchain
    exact ⟨_, hlog, handsOver_iff hcons hcells hchain⟩
  · rintro _ rt' ⟨done, hprefix, hlog⟩
    rw [hengine] at hlog hchain
    exact ⟨done, hlog, fun horderly => horderly.handsOver_prefix hcons hchain hprefix⟩

/-- A joystick and a fire button, whose keys do something else while shift is held. -/
def dodger : ProfileV2 where
  schemaVersion := 2
  name := "dodger"
  packageName := "com.example.dodger"
  layers := []
  bindings :=
    [⟨"move", none, none, .keyCluster "w" "a" "s" "d", .virtualJoystick ⟨1/5, 7/10⟩ (1/10) 0 .hold none⟩,
      ⟨"fire", none, none, .key "q", .hold ⟨4/5, 1/2⟩⟩,
      ⟨"dodge", none, some "shift", .key "a", .tap ⟨9/10, 4/5⟩⟩,
      ⟨"swap", none, some "shift", .key "q", .tap ⟨9/10, 7/10⟩⟩]

theorem dodger_lifts_before_presses : ∃ plan rt₀ rt,
    new plan (Recorder.new ()) = .ok rt₀ ∧ rt₀.contactIds.Nodup ∧
      runAll call [.handleKeyboard ⟨.named .a, .pressed⟩ 0, .handleKeyboard ⟨.named .q, .pressed⟩ 1]
        rt₀ = .ok () rt ∧
      wp (reconcileContinuous 2)
        (fun _ rt' => ∃ frames, rt'.engine.log = rt.engine.log ++ frames ∧
          (HandsOver rt.engine.state frames ↔ Orderly (heldAfter (.key .shift true) rt).wanting))
        (fun _ rt' => ∃ frames, rt'.engine.log = rt.engine.log ++ frames ∧
          (Orderly (heldAfter (.key .shift true) rt).wanting → HandsOver rt.engine.state frames))
        (heldAfter (.key .shift true) rt) := by
  obtain ⟨rt₀, hlaunch, hrun⟩ := (Option.any_eq_true _ _).mp (by decide +kernel :
    (launch dodger ⟨1280, 720⟩ (Recorder.new ())).any (fun rt => decide rt.contactIds.Nodup &&
      returnsWith (fun _ => true) (runAll call [.handleKeyboard ⟨.named .a, .pressed⟩ 0,
        .handleKeyboard ⟨.named .q, .pressed⟩ 1]) rt) = true)
  obtain ⟨hids, hrun⟩ := Bool.and_eq_true_iff.mp hrun
  obtain ⟨plan, -, hnew⟩ := exists_of_launch hlaunch
  obtain ⟨⟨⟩, rt, hrun, -⟩ := exists_of_returnsWith hrun
  exact ⟨plan, rt₀, rt, hnew, of_decide_eq_true hids, hrun,
    lifts_before_presses hnew (of_decide_eq_true hids) hrun (.key .shift true) 2⟩

/-- Both directions of the joystick cancel and the fire button is down when shift takes one of
the directions and the fire button away: the joystick goes down first, and two contacts are
down at once. -/
theorem joystick_springs_before_release : ∃ plan rt₀ rt,
    RuntimeControlPlan.fromProfileV2 dodger ⟨1280, 720⟩ = .ok plan ∧
      new plan (Recorder.new ()) = .ok rt₀ ∧ rt₀.contactIds.Nodup ∧
      runAll call [.handleKeyboard ⟨.named .a, .pressed⟩ 0, .handleKeyboard ⟨.named .d, .pressed⟩ 1,
        .handleKeyboard ⟨.named .q, .pressed⟩ 2] rt₀ = .ok () rt ∧
      ∃ submitted rt', reconcileContinuous 3 (heldAfter (.key .shift true) rt) =
          .ok submitted rt' ∧
        ∃ frames, rt'.engine.log = rt.engine.log ++ frames ∧
          ¬ HandsOver rt.engine.state frames ∧
          rt.engine.state.activeContactCount = 1 ∧ rt'.engine.state.activeContactCount = 1 ∧
          ((frames.take 1).foldl TouchState.applyFrame rt.engine.state).activeContactCount = 2 := by
  obtain ⟨rt₀, hlaunch, hrun⟩ := (Option.any_eq_true _ _).mp (by decide +kernel :
    (launch dodger ⟨1280, 720⟩ (Recorder.new ())).any (fun rt => decide rt.contactIds.Nodup &&
      returnsWith (fun rt => returnsWith (fun rt' => decide
          (rt'.engine.log = rt.engine.log ++
              TouchFrame.singles [⟨1, .down, ⟨328, 503⟩⟩, ⟨2, .up, ⟨1023, 360⟩⟩] ∧
            rt.engine.state.activeContactCount = 1 ∧ rt'.engine.state.activeContactCount = 1 ∧
            (rt.engine.state.applyFrame (.single ⟨1, .down, ⟨328, 503⟩⟩)).activeContactCount = 2))
          (reconcileContinuous 3) (heldAfter (.key .shift true) rt))
        (runAll call [.handleKeyboard ⟨.named .a, .pressed⟩ 0,
          .handleKeyboard ⟨.named .d, .pressed⟩ 1, .handleKeyboard ⟨.named .q, .pressed⟩ 2]) rt) =
      true)
  obtain ⟨hids, hrun⟩ := Bool.and_eq_true_iff.mp hrun
  obtain ⟨plan, hplan, hnew⟩ := exists_of_launch hlaunch
  obtain ⟨⟨⟩, rt, hrun, hreconcile⟩ := exists_of_returnsWith hrun
  obtain ⟨submitted, rt', hreconcile, hframes⟩ := exists_of_returnsWith hreconcile
  obtain ⟨hlog, hbefore, hafter, hpeak⟩ := of_decide_eq_true hframes
  refine ⟨plan, rt₀, rt, hplan, hnew, of_decide_eq_true hids, hrun, submitted, rt', hreconcile, _,
    hlog, fun h => ?_, hbefore, hafter, hpeak⟩
  have hordered := h.ordered
  rw [TouchFrame.flatMap_singles] at hordered
  exact absurd hordered (by decide)

end UnifiedRuntime

end Wroid
