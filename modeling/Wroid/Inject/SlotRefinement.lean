import Wroid.Inject.Uinput

/-!
# Engine, slot table and device agree

Three descriptions of the same contacts are kept by separate code: the engine's map, the
injector's slot table, and the device that a reader of the emitted events sees.  A frame
moves the three in lockstep, and a failed submission moves none of them.

## Main definitions

* `SlotState.WellFormed` — the table has no contact twice, counts right, and stays inside.
* `SlotWrite` — what one event of an accepted frame does to the table: it writes one slot.
* `SlotState.Shows` — the table and the collected device values agree slot by slot.
* `Synced` — the simulation relation between the three.

## Main results

* `nextStateEvent_write` — the only thing an accepted event does is a `SlotWrite`.
* `contactEvents_shows` — the events emitted for a frame take the device along with the table.
* `synced_submit` — every submission, accepted or not, keeps `Synced`.
* `submissions_agree` — **engine, slot table and device agree after every submission.**
-/

namespace Wroid

open Lib

/-! ### The slot table as a map -/

def Slot.point (slot : Slot) : Point := ⟨slot.x, slot.y⟩

/-- The slot that holds the contact `c` at `p`, or the free slot. -/
def Slot.ofContact (c : ContactId) : Option Point → Slot
  | some p => ⟨some c, p.x, p.y⟩
  | none => .free

namespace SlotState

/-- The position of a contact according to the slot table. -/
def contactPosition (st : SlotState) (c : ContactId) : Option Point :=
  (st.activeSlot c).bind fun i => st.slots[i]?.map Slot.point

/-- The table is one that the injector can have. -/
structure WellFormed (config : DeviceConfig) (st : SlotState) : Prop where
  length_eq : st.slots.length = config.slotCount
  unique : ∀ (i j : ℕ) (s t : Slot) (c : ContactId), st.slots[i]? = some s → st.slots[j]? = some t →
    s.contactId = some c → t.contactId = some c → i = j
  count_eq : st.activeCount = st.slots.countP fun s => s.contactId.isSome
  inside : ∀ s ∈ st.slots, s.contactId.isSome → s.point.Inside config.resolution

variable {config : DeviceConfig} {st st' : SlotState} {c d : ContactId}

theorem wellFormed_new (config : DeviceConfig) : (new config.slotCount).WellFormed config where
  length_eq := List.length_replicate
  unique := by
    intro i j s t c hi _ hs _
    obtain ⟨-, rfl⟩ : i < config.slotCount ∧ Slot.free = s := by
      simpa [new, List.getElem?_replicate] using hi
    cases hs
  count_eq := by simp [new, List.countP_replicate, Slot.free]
  inside := by
    intro s hs hsome
    rw [List.eq_of_mem_replicate hs] at hsome
    cases hsome

/-- In a well-formed table the active slot of `c` is the slot that holds `c`. -/
theorem WellFormed.activeSlot_eq_some (h : st.WellFormed config) {i : ℕ} :
    st.activeSlot c = some i ↔ ∃ s, st.slots[i]? = some s ∧ s.contactId = some c := by
  rw [activeSlot, List.findIdx?_eq_some_iff_getElem]
  constructor
  · rintro ⟨hi, hs, -⟩
    exact ⟨_, List.getElem?_eq_getElem hi, by simpa using hs⟩
  · rintro ⟨s, hget, hs⟩
    obtain ⟨hi, rfl⟩ := List.getElem?_eq_some_iff.mp hget
    refine ⟨hi, by simpa using hs, fun j hji => ?_⟩
    -- an earlier slot with the same contact would be the same slot
    intro hj
    have := h.unique j i _ _ c (List.getElem?_eq_getElem (hji.trans hi)) hget (by simpa using hj) hs
    omega

theorem WellFormed.activeSlot_eq_none (h : st.WellFormed config) :
    st.activeSlot c = none ↔ ∀ (i : ℕ) (s : Slot), st.slots[i]? = some s → s.contactId ≠ some c := by
  rw [Option.eq_none_iff_forall_ne_some]
  simp only [ne_eq, h.activeSlot_eq_some, not_exists, not_and]

theorem WellFormed.contactPosition_eq_some (h : st.WellFormed config) {p : Point} :
    st.contactPosition c = some p ↔
      ∃ (i : ℕ) (s : Slot), st.slots[i]? = some s ∧ s.contactId = some c ∧ s.point = p := by
  simp only [contactPosition, Option.bind_eq_some_iff, h.activeSlot_eq_some, Option.map_eq_some_iff]
  constructor
  · rintro ⟨i, ⟨s, hget, hs⟩, t, hget', rfl⟩
    rw [hget, Option.some.injEq] at hget'
    exact ⟨i, s, hget, hs, by rw [hget']⟩
  · rintro ⟨i, s, hget, hs, rfl⟩
    exact ⟨i, ⟨s, hget, hs⟩, s, hget, rfl⟩

theorem WellFormed.contactPosition_eq_none (h : st.WellFormed config) :
    st.contactPosition c = none ↔ st.activeSlot c = none := by
  rw [h.activeSlot_eq_none, Option.eq_none_iff_forall_ne_some]
  simp only [ne_eq, h.contactPosition_eq_some, not_exists, not_and]
  exact ⟨fun hp i s hget hs => hp s.point i s hget hs rfl, fun hs p i s hget hc => absurd hc (hs i s hget)⟩

end SlotState

/-! ### One event writes one slot -/

/-- What an accepted event does to the table: it writes one slot, which was free for a
`down` and held the contact otherwise. -/
structure SlotWrite (config : DeviceConfig) (st : SlotState) (e : TouchEvent) (st' : SlotState)
    (i : ℕ) (old : Slot) : Prop where
  get_slot : st.slots[i]? = some old
  old_contact : old.contactId = if e.phase = .down then none else some e.contactId
  absent : e.phase = .down → st.activeSlot e.contactId = none
  inside : ∀ p ∈ e.after, p.Inside config.resolution
  slots_eq : st'.slots = st.slots.set i (.ofContact e.contactId e.after)
  count_eq : st'.activeCount + (if old.contactId.isSome then 1 else 0) =
    st.activeCount + (if e.after.isSome then 1 else 0)

/-- The only failures of an event that fits a well-formed table: its position is off the
surface, or it is a `down` and every slot is taken. -/
def SlotRefusal (config : DeviceConfig) (st : SlotState) (e : TouchEvent)
    (err : UinputFrameError) : Prop :=
  (∃ p ∈ e.after, ¬ p.Inside config.resolution) ∨
    (e.phase = .down ∧ err = .noFreeSlot e.contactId ∧ st.activeCount = config.slotCount)

namespace UinputTouchInjector

variable {config : DeviceConfig} {st st' next current : SlotState} {e : TouchEvent}

theorem validatePosition_cases (config : DeviceConfig) (e : TouchEvent) :
    (validatePosition config e = .ok () ∧ e.position.Inside config.resolution) ∨
      (∃ err, validatePosition config e = .error err ∧ ¬ e.position.Inside config.resolution) := by
  unfold validatePosition Point.Inside DeviceConfig.resolution
  simp only
  split
  · exact .inr ⟨_, rfl, by omega⟩
  · exact .inl ⟨rfl, by omega⟩

theorem count_le_length (h : st.WellFormed config) : st.activeCount ≤ config.slotCount := by
  rw [h.count_eq, ← h.length_eq]
  exact List.countP_le_length

theorem freeSlot_eq_none (h : st.WellFormed config) (hf : st.freeSlot = none) :
    st.activeCount = config.slotCount := by
  rw [h.count_eq, ← h.length_eq, List.countP_eq_length]
  intro s hs
  have := List.findIdx?_eq_none_iff.mp hf s hs
  cases hc : s.contactId <;> simp_all

theorem freeSlot_eq_some {i : ℕ} (hf : st.freeSlot = some i) :
    ∃ s, st.slots[i]? = some s ∧ s.contactId = none := by
  obtain ⟨hi, hs, -⟩ := List.findIdx?_eq_some_iff_getElem.mp hf
  exact ⟨_, List.getElem?_eq_getElem hi, by simpa using hs⟩

/-- **One event that fits the table either writes one slot or is refused.** -/
theorem nextStateEvent_write (h : st.WellFormed config)
    (hfits : st.activeSlot e.contactId = none ↔ e.phase = .down) :
    (∃ st' i old, nextStateEvent config st e = .ok st' ∧ SlotWrite config st e st' i old) ∨
      (∃ err, nextStateEvent config st e = .error err ∧ SlotRefusal config st e err) := by
  have hpos : ∀ (i : ℕ) (s : Slot), st.slots[i]? = some s → s.contactId.isSome → 1 ≤ st.activeCount := by
    intro i s hget hs
    rw [h.count_eq, Nat.one_le_iff_ne_zero, ne_eq, List.countP_eq_zero]
    exact fun hall => hall s (List.mem_of_getElem? hget) hs
  rcases hphase : e.phase with _ | _ | _ | _
  case down =>
    have hnone : st.activeSlot e.contactId = none := hfits.mpr hphase
    have hafter : e.after = some e.position := by simp [TouchEvent.after, hphase]
    rcases validatePosition_cases config e with ⟨hv, hin⟩ | ⟨err, hv, hout⟩
    · cases hfree : st.freeSlot with
      | none =>
        refine .inr ⟨_, by simp [nextStateEvent, hphase, hv, hnone, hfree]; rfl, .inr ⟨hphase, rfl, ?_⟩⟩
        exact freeSlot_eq_none h hfree
      | some i =>
        obtain ⟨s, hget, hs⟩ := freeSlot_eq_some hfree
        refine .inl ⟨_, i, s, by simp [nextStateEvent, hphase, hv, hnone, hfree]; rfl, ?_⟩
        exact ⟨hget, by simp [hs, hphase], fun _ => hnone, by simpa [hafter] using hin,
          by simp [hafter, Slot.ofContact], by simp [hs, hafter]⟩
    · exact .inr ⟨err, by simp [nextStateEvent, hphase, hv]; rfl, .inl ⟨_, hafter, hout⟩⟩
  case move =>
    have hafter : e.after = some e.position := by simp [TouchEvent.after, hphase]
    rcases validatePosition_cases config e with ⟨hv, hin⟩ | ⟨err, hv, hout⟩
    · obtain ⟨i, hi⟩ := Option.ne_none_iff_exists'.mp (mt hfits.mp (by simp [hphase]))
      obtain ⟨s, hget, hs⟩ := h.activeSlot_eq_some.mp hi
      refine .inl ⟨_, i, s, by simp [nextStateEvent, hphase, hv, hi]; rfl, ?_⟩
      refine ⟨hget, by simp [hs, hphase], by simp [hphase], by simpa [hafter] using hin, ?_,
        by simp [hs, hafter]⟩
      simp only [hafter, Slot.ofContact]
      rw [List.modify_eq_set_getElem?, hget]
      simp [hs]
    · exact .inr ⟨err, by simp [nextStateEvent, hphase, hv]; rfl, .inl ⟨_, hafter, hout⟩⟩
  all_goals
    have hafter : e.after = none := by simp [TouchEvent.after, hphase]
    obtain ⟨i, hi⟩ := Option.ne_none_iff_exists'.mp (mt hfits.mp (by simp [hphase]))
    obtain ⟨s, hget, hs⟩ := h.activeSlot_eq_some.mp hi
    have := hpos i s hget (by simp [hs])
    refine .inl ⟨_, i, s, by simp [nextStateEvent, hphase, hi]; rfl, ?_⟩
    exact ⟨hget, by simp [hs, hphase], by simp [hphase], by simp [hafter],
      by simp [hafter, Slot.ofContact], by simp [hs, hafter]; omega⟩

end UinputTouchInjector

namespace SlotWrite

variable {config : DeviceConfig} {st st' : SlotState} {e : TouchEvent} {i : ℕ} {old : Slot}

theorem slot_lt (h : SlotWrite config st e st' i old) : i < st.slots.length :=
  (List.getElem?_eq_some_iff.mp h.get_slot).1

theorem get (h : SlotWrite config st e st' i old) (j : ℕ) :
    st'.slots[j]? = if i = j then some (.ofContact e.contactId e.after) else st.slots[j]? := by
  rw [h.slots_eq, List.getElem?_set]
  simp [h.slot_lt]

theorem contactId_ofContact (c : ContactId) (p : Option Point) :
    (Slot.ofContact c p).contactId = p.map fun _ => c := by cases p <;> rfl

/-- The slot of the event's contact is the one written, before and after. -/
theorem eq_slot (hwf : st.WellFormed config) (h : SlotWrite config st e st' i old) {j : ℕ}
    {s : Slot} (hget : st.slots[j]? = some s) (hs : s.contactId = some e.contactId) : j = i := by
  by_cases hdown : e.phase = .down
  · exact absurd hs (hwf.activeSlot_eq_none.mp (h.absent hdown) j s hget)
  · exact hwf.unique j i s old e.contactId hget h.get_slot hs (by simp [h.old_contact, hdown])

theorem wellFormed (hwf : st.WellFormed config) (h : SlotWrite config st e st' i old) :
    st'.WellFormed config where
  length_eq := by rw [h.slots_eq, List.length_set, hwf.length_eq]
  unique := by
    intro j k s t c hj hk hs ht
    rw [h.get] at hj hk
    -- the written slot can only hold the event's own contact
    have hown : ∀ u : Slot, some (.ofContact e.contactId e.after) = some u →
        u.contactId = some c → c = e.contactId := by
      intro u hu hc
      rw [← Option.some.inj hu, contactId_ofContact] at hc
      cases hafter : e.after <;> simp_all
    split_ifs at hj hk with hij hik hik
    · omega
    · obtain rfl := hown s hj hs
      exact absurd (h.eq_slot hwf hk ht) (Ne.symm hik)
    · obtain rfl := hown t hk ht
      exact absurd (h.eq_slot hwf hj hs) (Ne.symm hij)
    · exact hwf.unique j k s t c hj hk hs ht
  count_eq := by
    have hlt := h.slot_lt
    have hold : st.slots[i] = old := (List.getElem?_eq_some_iff.mp h.get_slot).2
    have hpos : old.contactId.isSome → 1 ≤ st.slots.countP fun s => s.contactId.isSome := by
      intro hsome
      rw [Nat.one_le_iff_ne_zero, ne_eq, List.countP_eq_zero]
      exact fun hall => hall old (List.mem_of_getElem? h.get_slot) hsome
    have hcount := h.count_eq
    rw [h.slots_eq, List.countP_set h.slot_lt, hold, contactId_ofContact, Option.isSome_map,
      ← hwf.count_eq]
    rw [← hwf.count_eq] at hpos
    split_ifs at hcount ⊢ <;> simp_all
    omega
  inside := by
    intro s hs hsome
    obtain ⟨j, hj⟩ := List.mem_iff_getElem?.mp hs
    rw [h.get] at hj
    split_ifs at hj
    · obtain rfl := Option.some.inj hj
      cases hafter : e.after with
      | none => simp [hafter, Slot.ofContact, Slot.free] at hsome
      | some p => exact h.inside p hafter
    · exact hwf.inside s (List.mem_of_getElem? hj) hsome

theorem activeSlot_of_ne (hwf : st.WellFormed config) (h : SlotWrite config st e st' i old)
    {d : ContactId} (hd : e.contactId ≠ d) : st'.activeSlot d = st.activeSlot d := by
  ext j
  rw [(h.wellFormed hwf).activeSlot_eq_some, hwf.activeSlot_eq_some]
  refine exists_congr fun s => and_congr_left fun hs => ?_
  rw [h.get]
  split_ifs with hij
  · subst hij
    constructor
    · intro hu
      rw [← Option.some.inj hu, contactId_ofContact] at hs
      cases hafter : e.after <;> simp_all
    · intro hu
      rw [h.get_slot, Option.some.injEq] at hu
      have := h.old_contact
      rw [hu, hs] at this
      split_ifs at this
      exact absurd (Option.some.inj this).symm hd
  · rfl

/-- Before the event, the contact's slot is the one written, unless the event is a `down`. -/
theorem activeSlot_before (hwf : st.WellFormed config) (h : SlotWrite config st e st' i old)
    (hdown : e.phase ≠ .down) : st.activeSlot e.contactId = some i :=
  hwf.activeSlot_eq_some.mpr ⟨old, h.get_slot, by simp [h.old_contact, hdown]⟩

/-- After the event, the contact's slot is the one written, unless the event frees it. -/
theorem activeSlot_after (hwf : st.WellFormed config) (h : SlotWrite config st e st' i old)
    {p : Point} (hp : e.after = some p) : st'.activeSlot e.contactId = some i :=
  (h.wellFormed hwf).activeSlot_eq_some.mpr ⟨.ofContact e.contactId e.after, by simp [h.get],
    by simp [contactId_ofContact, hp]⟩

/-- **One event moves one contact of the table as it moves it in the engine.** -/
theorem contactPosition_eq (hwf : st.WellFormed config) (h : SlotWrite config st e st' i old)
    (d : ContactId) : st'.contactPosition d =
      if e.contactId = d then e.after else st.contactPosition d := by
  have hwf' := h.wellFormed hwf
  split_ifs with hd
  · subst hd
    cases hafter : e.after with
    | some p =>
      rw [SlotState.contactPosition, h.activeSlot_after hwf hafter]
      simp [h.get, hafter, Slot.ofContact, Slot.point]
    | none =>
      rw [hwf'.contactPosition_eq_none, hwf'.activeSlot_eq_none]
      intro j s hj hs
      rw [h.get, hafter] at hj
      split_ifs at hj with hij
      · rw [← Option.some.inj hj] at hs
        cases hs
      · exact hij (h.eq_slot hwf hj hs).symm
  · have hslot := h.activeSlot_of_ne hwf hd
    rw [SlotState.contactPosition, SlotState.contactPosition, hslot]
    cases hj : st.activeSlot d with
    | none => rfl
    | some j =>
      obtain ⟨s, hget, hs⟩ := hwf.activeSlot_eq_some.mp hj
      -- the slot of another contact is not the one written
      have hij : i ≠ j := by
        rintro rfl
        obtain ⟨s', hget', hs'⟩ := hwf'.activeSlot_eq_some.mp (hslot.trans hj)
        rw [h.get, if_pos rfl] at hget'
        rw [← Option.some.inj hget', contactId_ofContact] at hs'
        cases hafter : e.after <;> simp_all
      simp [h.get, hij]

end SlotWrite

/-! ### A frame writes one slot per event -/

/-- The events write the table one after the other. -/
inductive SlotRun (config : DeviceConfig) : SlotState → List TouchEvent → SlotState → Prop
  | nil (st : SlotState) : SlotRun config st [] st
  | cons {st mid next : SlotState} {e : TouchEvent} {es : List TouchEvent} {i : ℕ} {old : Slot}
      (write : SlotWrite config st e mid i old) (rest : SlotRun config mid es next) :
      SlotRun config st (e :: es) next

/-- A frame the injector refuses: the events before some event are accepted, and that one is
refused. -/
def FrameRefusal (config : DeviceConfig) (st : SlotState) (events : List TouchEvent)
    (err : UinputFrameError) : Prop :=
  ∃ pre e post mid, events = pre ++ e :: post ∧ SlotRun config st pre mid ∧
    SlotRefusal config mid e err

/-- Every event fits the table: a `down` needs its contact up, the others down. -/
def SlotState.Fits (st : SlotState) (events : List TouchEvent) : Prop :=
  ∀ e ∈ events, st.activeSlot e.contactId = none ↔ e.phase = .down

namespace SlotWrite

variable {config : DeviceConfig} {st st' : SlotState} {e : TouchEvent} {es : List TouchEvent}
  {i : ℕ} {old : Slot}

/-- The other events of the frame still fit the table after one of them. -/
theorem fits_rest (hwf : st.WellFormed config) (h : SlotWrite config st e st' i old)
    (hnodup : ((e :: es).map TouchEvent.contactId).Nodup) (hfits : st.Fits (e :: es)) :
    st'.Fits es := by
  intro d hd
  rw [List.map_cons, List.nodup_cons] at hnodup
  have hne : e.contactId ≠ d.contactId := fun heq =>
    hnodup.1 (heq ▸ List.mem_map_of_mem hd)
  rw [h.activeSlot_of_ne hwf hne]
  exact hfits d (List.mem_cons_of_mem e hd)

end SlotWrite

namespace SlotRun

variable {config : DeviceConfig} {st next : SlotState} {events : List TouchEvent}

theorem wellFormed (h : SlotRun config st events next) (hwf : st.WellFormed config) :
    next.WellFormed config := by
  induction h with
  | nil => exact hwf
  | cons write _ ih => exact ih (write.wellFormed hwf)

theorem activeSlot_of_not_mentions (h : SlotRun config st events next)
    (hwf : st.WellFormed config) {c : ContactId} (hc : ∀ e ∈ events, e.contactId ≠ c) :
    next.activeSlot c = st.activeSlot c := by
  induction h with
  | nil => rfl
  | cons write _ ih =>
    rw [ih (write.wellFormed hwf) fun e he => hc e (List.mem_cons_of_mem _ he),
      write.activeSlot_of_ne hwf (hc _ List.mem_cons_self)]

/-- **A frame moves the contacts of the table as it moves them in the engine.** -/
theorem contactPosition_eq (h : SlotRun config st events next) (hwf : st.WellFormed config)
    {engine : TouchState} (heq : ∀ c, engine.position c = st.contactPosition c) (c : ContactId) :
    (events.foldl TouchState.applyEvent engine).position c = next.contactPosition c := by
  induction h generalizing engine with
  | nil => exact heq c
  | cons write _ ih =>
    refine ih (write.wellFormed hwf) fun d => ?_
    rw [TouchState.position_applyEvent, write.contactPosition_eq hwf, heq]

end SlotRun

/-- **A frame that fits the table either runs through it or is refused at one event.** -/
theorem UinputTouchInjector.nextState_run {config : DeviceConfig} {st : SlotState}
    {events : List TouchEvent} (hwf : st.WellFormed config)
    (hnodup : (events.map TouchEvent.contactId).Nodup) (hfits : st.Fits events) :
    (∃ next, nextState config st ⟨events⟩ = .ok next ∧ SlotRun config st events next) ∨
      (∃ err, nextState config st ⟨events⟩ = .error err ∧ FrameRefusal config st events err) := by
  induction events generalizing st with
  | nil => exact .inl ⟨st, rfl, .nil st⟩
  | cons e es ih =>
    have hcons : nextState config st ⟨e :: es⟩ =
        nextStateEvent config st e >>= fun mid => nextState config mid ⟨es⟩ := by
      simp [nextState, List.foldlM_cons]
    rw [hcons]
    rcases nextStateEvent_write hwf (hfits e List.mem_cons_self) with
      ⟨mid, i, old, hok, hwrite⟩ | ⟨err, herr, hrefusal⟩
    · rw [hok]
      rcases ih (hwrite.wellFormed hwf) (List.nodup_cons.mp hnodup).2
        (hwrite.fits_rest hwf hnodup hfits) with ⟨next, hnext, hrun⟩ | ⟨err, herr, hrefusal⟩
      · exact .inl ⟨next, hnext, .cons hwrite hrun⟩
      · obtain ⟨pre, d, post, last, rfl, hrun, href⟩ := hrefusal
        exact .inr ⟨err, herr, e :: pre, d, post, last, rfl, .cons hwrite hrun, href⟩
    · rw [herr]
      exact .inr ⟨err, rfl, [], e, es, st, rfl, .nil st, hrefusal⟩

/-! ### The device follows the table -/

/-- The device values of one slot are those of a slot of the table. -/
def Slot.Displays : Option Slot → SlotValues → Prop
  | some ⟨some c, x, y⟩, v => v = ⟨c, x, y⟩
  | _, v => v.trackingId = -1

/-- The device and the table agree slot by slot. -/
def SlotState.Shows (st : SlotState) (screen : Screen) : Prop :=
  ∀ i : ℕ, Slot.Displays st.slots[i]? (screen.slots i)

theorem asI32_of_le {n : ℕ} (h : n ≤ i32Max) : asI32 n = n := by
  unfold i32Max at h
  exact Int.bmod_eq_of_le (by omega) (by omega)

namespace SlotWrite

variable {config : DeviceConfig} {st st' : SlotState} {e : TouchEvent} {i : ℕ} {old : Slot}

theorem asI32_slot (hwf : st.WellFormed config) (h : SlotWrite config st e st' i old) :
    asI32 i = i := by
  apply asI32_of_le
  have := h.slot_lt
  have := config.slotCount_range.2
  rw [hwf.length_eq] at *
  simp only [MAX_SLOT_COUNT, i32Max] at *
  omega

theorem asI32_position (h : SlotWrite config st e st' i old) {p : Point} (hp : e.after = some p) :
    asI32 p.x = p.x ∧ asI32 p.y = p.y := by
  obtain ⟨hx, hy⟩ := h.inside p hp
  have := config.width_range.2
  have := config.height_range.2
  simp only [DeviceConfig.resolution] at hx hy
  exact ⟨asI32_of_le (by omega), asI32_of_le (by omega)⟩

/-- The events emitted for one write of the table. -/
def events (i : ℕ) (e : TouchEvent) : List InputEvent :=
  match e.phase with
  | .down => placeEvents i e.contactId e.position.x e.position.y
  | .move => dragEvents i e.position.x e.position.y
  | .up | .cancel => liftEvents i

/-- The events of one write change the selected slot and the written slot, and leave the
device showing the table after the write. -/
theorem shows_events (h : SlotWrite config st e st' i old)
    {screen : Screen} (hshows : st.Shows screen) :
    st'.Shows (screen.collectAll (events i e)) ∧
      (screen.collectAll (events i e)).touch = screen.touch ∧
      (screen.collectAll (events i e)).pointerX = screen.pointerX ∧
      (screen.collectAll (events i e)).pointerY = screen.pointerY := by
  -- only the written slot has to be looked at
  have hother : ∀ (v : SlotValues) (sel : ℕ), Slot.Displays st'.slots[i]? v →
      st'.Shows { screen with selected := sel, slots := Function.update screen.slots i v } := by
    intro v sel hv j
    by_cases hij : i = j
    · subst hij
      simpa using hv
    · have := hshows j
      simpa [h.get, hij, Function.update_of_ne (Ne.symm hij)] using this
  have hi := hshows i
  rw [h.get_slot] at hi
  rcases hphase : e.phase with _ | _ | _ | _ <;>
    simp only [events, hphase, Screen.collectAll_place, Screen.collectAll_drag,
      Screen.collectAll_lift, and_self, and_true]
  case down =>
    exact hother _ _ (by simp [h.get, TouchEvent.after, hphase, Slot.ofContact, Slot.Displays])
  case move =>
    -- a move keeps the tracking identifier the slot already shows
    obtain ⟨c, x, y⟩ := old
    obtain rfl : c = some e.contactId := by simpa [hphase] using h.old_contact
    have hi : screen.slots i = ⟨e.contactId, x, y⟩ := hi
    exact hother _ _ (by simp [h.get, TouchEvent.after, hphase, Slot.ofContact, Slot.Displays, hi])
  all_goals
    exact hother _ _
      (by simp [h.get, TouchEvent.after, hphase, Slot.ofContact, Slot.free, Slot.Displays])

/-- What the translation emits for an event is what its write of the table calls for. -/
theorem contactEvents_eq (hwf : st.WellFormed config) (h : SlotWrite config st e st' i old)
    {current next : SlotState} (hcurrent : current.activeSlot e.contactId = st.activeSlot e.contactId)
    (hnext : next.activeSlot e.contactId = st'.activeSlot e.contactId) :
    UinputTouchInjector.contactEvents current next e = .ok (events i e) := by
  have hslot := h.asI32_slot hwf
  rcases hphase : e.phase with _ | _ | _ | _
  case down =>
    have hafter : e.after = some e.position := by simp [TouchEvent.after, hphase]
    have hpos := h.asI32_position hafter
    simp [UinputTouchInjector.contactEvents, events, hphase, hnext, h.activeSlot_after hwf hafter,
      hslot, hpos]
  case move =>
    have hafter : e.after = some e.position := by simp [TouchEvent.after, hphase]
    have hpos := h.asI32_position hafter
    simp [UinputTouchInjector.contactEvents, events, hphase, hcurrent,
      h.activeSlot_before hwf (by simp [hphase]), hslot, hpos]
  all_goals
    simp [UinputTouchInjector.contactEvents, events, hphase, hcurrent,
      h.activeSlot_before hwf (by simp [hphase]), hslot]

theorem type_events : ∀ ev ∈ events i e, ev.type ≠ evSyn := by
  rcases hphase : e.phase with _ | _ | _ | _ <;>
    simp [events, hphase, placeEvents, dragEvents, liftEvents, evAbs, evSyn]

end SlotWrite

/-- **The events emitted for a frame take the device along with the table.**  Looking a slot
up in the table before or after the whole frame is as good as looking it up in between,
because a frame has one event a contact. -/
theorem SlotRun.contactEvents_shows {config : DeviceConfig} {st current next : SlotState}
    {events : List TouchEvent} (h : SlotRun config st events next) (hwf : st.WellFormed config)
    (hnodup : (events.map TouchEvent.contactId).Nodup)
    (hcurrent : ∀ e ∈ events, current.activeSlot e.contactId = st.activeSlot e.contactId)
    {screen : Screen} (hshows : st.Shows screen) :
    ∃ out, events.mapM (UinputTouchInjector.contactEvents current next) = .ok out ∧
      (∀ ev ∈ out.flatten, ev.type ≠ evSyn) ∧
      next.Shows (screen.collectAll out.flatten) ∧
      (screen.collectAll out.flatten).touch = screen.touch ∧
      (screen.collectAll out.flatten).pointerX = screen.pointerX ∧
      (screen.collectAll out.flatten).pointerY = screen.pointerY := by
  induction h generalizing screen with
  | nil => exact ⟨[], rfl, by simp, hshows, rfl, rfl, rfl⟩
  | @cons st mid next e es i old write rest ih =>
    have hwf' := write.wellFormed hwf
    have hne : ∀ d ∈ es, e.contactId ≠ d.contactId := by
      rw [List.map_cons, List.nodup_cons] at hnodup
      exact fun d hd heq => hnodup.1 (heq ▸ List.mem_map_of_mem hd)
    have hnext : next.activeSlot e.contactId = mid.activeSlot e.contactId :=
      rest.activeSlot_of_not_mentions hwf' fun d hd => (hne d hd).symm
    obtain ⟨hshows', htouch, hx, hy⟩ := write.shows_events hshows
    obtain ⟨out, hout, htype, hshow, htouch', hx', hy'⟩ := ih hwf' (List.nodup_cons.mp hnodup).2
      (fun d hd => by rw [hcurrent d (List.mem_cons_of_mem e hd),
        write.activeSlot_of_ne hwf (hne d hd)]) hshows'
    refine ⟨SlotWrite.events i e :: out, ?_, ?_, ?_⟩
    · rw [List.mapM_cons, write.contactEvents_eq hwf (hcurrent e List.mem_cons_self) hnext, hout]
      rfl
    · rw [List.flatten_cons]
      exact List.forall_mem_append.mpr ⟨SlotWrite.type_events, htype⟩
    · rw [List.flatten_cons, Screen.collectAll_append, htouch', hx', hy']
      exact ⟨hshow, htouch, hx, hy⟩

/-! ### Touch button and pointer -/

/-- The device shows the table: slot by slot, the touch button while a contact is down, the
pointer on the lowest occupied slot. -/
structure Mirrors (st : SlotState) (screen : Screen) : Prop where
  shows : st.Shows screen
  touch : screen.touch = if st.activeCount = 0 then 0 else 1
  pointer : ∀ x y, st.primaryPosition = some (x, y) → screen.pointerX = x ∧ screen.pointerY = y

theorem mirrors_new (slotCount : ℕ) : Mirrors (.new slotCount) .idle where
  shows := by
    intro i
    rw [SlotState.new, List.getElem?_replicate]
    split <;> rfl
  touch := rfl
  pointer := by
    intro x y h
    simp [SlotState.primaryPosition, SlotState.new, Slot.free] at h

namespace UinputTouchInjector

variable {config : DeviceConfig} {current next : SlotState} {screen : Screen}

theorem collectAll_touchEvents (htouch : screen.touch = if current.activeCount = 0 then 0 else 1) :
    screen.collectAll (touchEvents current next) =
      { screen with touch := if next.activeCount = 0 then 0 else 1 } := by
  have hkey : ∀ v, screen.collectAll [⟨evKey, btnTouch, v⟩] = { screen with touch := v } := by
    intro v
    simp [Screen.collectAll, Screen.collect]
  unfold touchEvents
  rcases Nat.eq_zero_or_pos current.activeCount with hc | hc <;>
    rcases Nat.eq_zero_or_pos next.activeCount with hn | hn
  · rw [if_pos hc] at htouch
    simp only [hc, hn, lt_irrefl, and_false, and_true, if_false, if_true, Screen.collectAll_nil]
    rw [← htouch]
  · simp [hc, hn, hn.ne', hkey]
  · simp [hc, hn, hkey]
  · rw [if_neg hc.ne'] at htouch
    simp only [hc.ne', hn.ne', false_and, and_false, if_false, Screen.collectAll_nil]
    rw [← htouch]

theorem collectAll_pointerEvents (hwf : next.WellFormed config) :
    screen.collectAll (pointerEvents next) =
      match next.primaryPosition with
      | some (x, y) => { screen with pointerX := x, pointerY := y }
      | none => screen := by
  unfold pointerEvents
  cases hp : next.primaryPosition with
  | none => rfl
  | some p =>
    simp only
    obtain ⟨x, y⟩ := p
    obtain ⟨s, hs, hxy⟩ := Option.map_eq_some_iff.mp hp
    obtain ⟨rfl, rfl⟩ := Prod.mk.inj hxy
    obtain ⟨hx, hy⟩ := hwf.inside s (List.mem_of_find?_eq_some hs) (by simpa using List.find?_some hs)
    have := config.width_range.2
    have := config.height_range.2
    simp only [Slot.point, DeviceConfig.resolution] at hx hy
    rw [asI32_of_le (by omega), asI32_of_le (by omega)]
    simp [Screen.collectAll, Screen.collect, evAbs, evKey, absX, absY, absMtSlot, absMtTrackingId,
      absMtPositionX, absMtPositionY]

theorem type_touchEvents : ∀ ev ∈ touchEvents current next, ev.type ≠ evSyn := by
  unfold touchEvents
  split_ifs <;> simp [evKey, evSyn]

theorem type_pointerEvents : ∀ ev ∈ pointerEvents next, ev.type ≠ evSyn := by
  unfold pointerEvents
  split <;> simp [evAbs, evSyn]

/-- **One accepted frame takes the device from the table before it to the table after it.** -/
theorem mirrors_frame {events : List TouchEvent} (h : SlotRun config current events next)
    (hwf : current.WellFormed config) (hnodup : (events.map TouchEvent.contactId).Nodup)
    (hm : Mirrors current screen) :
    ∃ out, events.mapM (contactEvents current next) = .ok out ∧
      (∀ ev ∈ touchEvents current next ++ out.flatten ++ pointerEvents next, ev.type ≠ evSyn) ∧
      Mirrors next (screen.collectAll
        (touchEvents current next ++ out.flatten ++ pointerEvents next)) := by
  have hshows₀ : current.Shows (screen.collectAll (touchEvents current next)) := by
    rw [collectAll_touchEvents hm.touch]
    exact hm.shows
  obtain ⟨out, hout, htype, hshows, htouch, hx, hy⟩ :=
    h.contactEvents_shows hwf hnodup (fun _ _ => rfl) hshows₀
  refine ⟨out, hout, ?_, ?_⟩
  · exact List.forall_mem_append.mpr
      ⟨List.forall_mem_append.mpr ⟨type_touchEvents, htype⟩, type_pointerEvents⟩
  rw [Screen.collectAll_append, Screen.collectAll_append,
    collectAll_pointerEvents (h.wellFormed hwf)]
  have htouch' : ((screen.collectAll (touchEvents current next)).collectAll out.flatten).touch =
      if next.activeCount = 0 then 0 else 1 := by
    rw [htouch, collectAll_touchEvents hm.touch]
  cases hp : next.primaryPosition with
  | none => exact ⟨hshows, htouch', by simp [hp]⟩
  | some p => exact ⟨hshows, htouch', by simp [hp, Prod.ext_iff]⟩

end UinputTouchInjector

/-! ### Engine, table and device -/

/-- The table and the engine describe the same contacts. -/
structure TableMatches (config : DeviceConfig) (engine : TouchState) (table : SlotState) :
    Prop where
  wellFormed : table.WellFormed config
  contacts : ∀ c, engine.position c = table.contactPosition c

theorem tableMatches_new (config : DeviceConfig) :
    TableMatches config .empty (.new config.slotCount) where
  wellFormed := SlotState.wellFormed_new config
  contacts := by
    intro c
    have hwf := SlotState.wellFormed_new config
    rw [TouchState.position_empty, eq_comm, hwf.contactPosition_eq_none, hwf.activeSlot_eq_none]
    intro i s hget hs
    obtain ⟨-, rfl⟩ : i < config.slotCount ∧ Slot.free = s := by
      simpa [SlotState.new, List.getElem?_replicate] using hget
    cases hs

namespace TableMatches

variable {config : DeviceConfig} {engine : TouchState} {table next : SlotState} {frame : TouchFrame}

/-- A frame the engine accepts fits the table. -/
theorem fits (h : TableMatches config engine table) (hv : engine.FrameValid frame) :
    table.Fits frame.events := by
  intro e he
  have := hv.fits e he
  rw [TouchEvent.Fits, TouchState.isActive_eq, h.contacts, Option.isSome_iff_ne_none, ne_eq,
    h.wellFormed.contactPosition_eq_none] at this
  tauto

theorem applyFrame (h : TableMatches config engine table)
    (hrun : SlotRun config table frame.events next) :
    TableMatches config (engine.applyFrame frame) next :=
  ⟨hrun.wellFormed h.wellFormed, hrun.contactPosition_eq h.wellFormed h.contacts⟩

end TableMatches

/-- **The simulation relation**: the engine's contacts are those of the injector's table, and
the device a reader reconstructs from what was emitted shows that table. -/
structure Synced (engine : TouchEngine (UinputTouchInjector ScriptedSink)) : Prop where
  table : TableMatches engine.injector.config engine.state engine.injector.state
  device : Mirrors engine.injector.state (Reader.idle.readAll engine.injector.sink.emitted).collected
  reported : (Reader.idle.readAll engine.injector.sink.emitted).reported =
    (Reader.idle.readAll engine.injector.sink.emitted).collected

theorem synced_new (config : DeviceConfig) (accepts : ℕ → Bool) :
    Synced (.new (.withSink config (.new accepts))) :=
  ⟨tableMatches_new config, mirrors_new config.slotCount, rfl⟩

theorem ScriptedSink.emit_spec (sink : ScriptedSink) (events : List InputEvent) :
    wp (EventSink.emit events)
      (fun _ (s : ScriptedSink) => s.emitted = sink.emitted ++ events ++ [reportEvent])
      (fun _ s => s.emitted = sink.emitted) sink := by
  simp only [EventSink.emit, wp_bind, wp_get, wp_ite, wp_set, wp_throw]
  split <;> trivial

/-- The injector, when the engine's frame is valid: table and device follow the frame, or both
stay. -/
theorem injectFrame_spec {engine : TouchEngine (UinputTouchInjector ScriptedSink)}
    (h : Synced engine) {frame : TouchFrame} (hv : engine.state.FrameValid frame) :
    wp (UinputTouchInjector.injectFrame frame)
      (fun _ i => Synced ⟨i, engine.state.applyFrame frame⟩)
      (fun _ i => Synced ⟨i, engine.state⟩) engine.injector := by
  have hwf := h.table.wellFormed
  have hne : frame.events.isEmpty = false := by simpa using hv.nonempty
  simp only [UinputTouchInjector.injectFrame, hne, Bool.false_eq_true, if_false, wp_bind, wp_get]
  rcases UinputTouchInjector.nextState_run hwf hv.nodup (h.table.fits hv) with
    ⟨next, hnext, hrun⟩ | ⟨err, herr, -⟩
  · obtain ⟨out, hout, htype, hmirrors⟩ :=
      UinputTouchInjector.mirrors_frame hrun hwf hv.nodup h.device
    simp only [hnext, hout, wp_bind, wp_zoom, wp_mapError, wp_modify]
    refine wp_mono (ScriptedSink.emit_spec _ _) ?_ ?_
    · intro _ sink hsink
      refine ⟨h.table.applyFrame hrun, ?_, ?_⟩ <;>
        simp only [hsink, List.append_assoc, Reader.readAll_append _ engine.injector.sink.emitted]
      · rw [← List.append_assoc, ← List.append_assoc, Reader.readAll_report htype]
        exact hmirrors
      · rw [← List.append_assoc, ← List.append_assoc, Reader.readAll_report htype]
    · intro _ sink hsink
      exact ⟨h.table, by simpa [hsink] using h.device, by simpa [hsink] using h.reported⟩
  · simp only [herr, wp_throw]
    exact h

/-- **Every submission keeps the three in step**, whether it is accepted, rejected by the
engine, refused by the table or lost in a failing write. -/
theorem synced_submit {engine : TouchEngine (UinputTouchInjector ScriptedSink)}
    (h : Synced engine) (frame : TouchFrame) :
    wp (TouchEngine.submit frame) (fun _ e => Synced e) (fun _ e => Synced e) engine := by
  simp only [TouchEngine.submit, wp_bind, wp_get]
  cases hv : engine.state.validateFrame frame with
  | error e => exact h
  | ok =>
    have hvalid := TouchState.validateFrame_eq_ok.mp hv
    simp only [wp_bind, wp_zoom, wp_mapError, wp_modify, TouchInjector.inject]
    exact injectFrame_spec h hvalid

/-- The three descriptions of the contacts agree. -/
structure Agree (engine : TouchEngine (UinputTouchInjector ScriptedSink)) (screen : Screen) :
    Prop where
  /-- The engine's map is the contacts the slot table holds. -/
  table : ∀ c p, engine.state.position c = some p ↔
    ∃ slot ∈ engine.injector.state.slots, slot.contactId = some c ∧ slot.point = p
  /-- The engine's map is the occupied slots of the device. -/
  device : ∀ c p, engine.state.position c = some p ↔
    ∃ i, screen.slots i = ⟨(c : ContactId), p.x, p.y⟩
  /-- An occupied slot of the device carries a contact of the engine. -/
  occupied : ∀ i, screen.Occupied i → ∃ c p, engine.state.position c = some p ∧
    screen.slots i = ⟨(c : ContactId), p.x, p.y⟩
  /-- No tracking identifier is used twice. -/
  distinct : ∀ i j, screen.Occupied i → screen.Occupied j →
    (screen.slots i).trackingId = (screen.slots j).trackingId → i = j
  /-- The touch button is pressed iff a contact is down. -/
  touch : screen.touch = 1 ↔ ∃ c, engine.state.position c ≠ none
  /-- The pointer is on the lowest occupied slot. -/
  pointer : ∀ i, screen.Occupied i → (∀ j < i, ¬ screen.Occupied j) →
    screen.pointerX = (screen.slots i).x ∧ screen.pointerY = (screen.slots i).y

/-- A slot of a mirrored device is occupied iff the table's is. -/
theorem SlotState.Shows.occupied_iff {st : SlotState} {screen : Screen} (h : st.Shows screen)
    {i : ℕ} : screen.Occupied i ↔
      ∃ c x y, st.slots[i]? = some ⟨some c, x, y⟩ ∧ screen.slots i = ⟨(c : ContactId), x, y⟩ := by
  have hi := h i
  unfold Screen.Occupied
  match hs : st.slots[i]? with
  | some ⟨some c, x, y⟩ =>
    rw [hs] at hi
    have hi : screen.slots i = ⟨c, x, y⟩ := hi
    simp only [hi, ne_eq]
    constructor
    · exact fun _ => ⟨c, x, y, rfl, rfl⟩
    · intro _
      omega
  | some ⟨none, _, _⟩ =>
    rw [hs] at hi
    have hi : (screen.slots i).trackingId = -1 := hi
    simp [hi]
  | none =>
    rw [hs] at hi
    have hi : (screen.slots i).trackingId = -1 := hi
    simp [hi]

theorem Synced.agree {engine : TouchEngine (UinputTouchInjector ScriptedSink)} (h : Synced engine) :
    Agree engine (Reader.idle.readAll engine.injector.sink.emitted).reported := by
  rw [h.reported]
  generalize hscreen : (Reader.idle.readAll engine.injector.sink.emitted).collected = screen
  have hm := h.device
  rw [hscreen] at hm
  have hwf := h.table.wellFormed
  have htable : ∀ c p, engine.state.position c = some p ↔ ∃ (i : ℕ) (s : Slot),
      engine.injector.state.slots[i]? = some s ∧ s.contactId = some c ∧ s.point = p := fun c p => by
    rw [h.table.contacts, hwf.contactPosition_eq_some]
  have hactive : engine.injector.state.activeCount ≠ 0 ↔ ∃ c, engine.state.position c ≠ none := by
    rw [hwf.count_eq, ne_eq, List.countP_eq_zero]
    simp only [Option.ne_none_iff_exists', htable]
    push Not
    constructor
    · rintro ⟨s, hs, hsome⟩
      obtain ⟨c, hc⟩ := Option.isSome_iff_exists.mp hsome
      obtain ⟨i, hi⟩ := List.mem_iff_getElem?.mp hs
      exact ⟨c, s.point, i, s, hi, hc, rfl⟩
    · rintro ⟨c, p, i, s, hi, hc, -⟩
      exact ⟨s, List.mem_of_getElem? hi, by simp [hc]⟩
  refine ⟨fun c p => ?_, fun c p => ?_, fun i hi => ?_, fun i j hi hj heq => ?_, ?_, fun i hi hlow => ?_⟩
  · rw [htable]
    constructor
    · rintro ⟨i, s, hi, hc, hp⟩
      exact ⟨s, List.mem_of_getElem? hi, hc, hp⟩
    · rintro ⟨s, hs, hc, hp⟩
      obtain ⟨i, hi⟩ := List.mem_iff_getElem?.mp hs
      exact ⟨i, s, hi, hc, hp⟩
  · rw [htable]
    constructor
    · rintro ⟨i, ⟨c', x, y⟩, hi, hc, rfl⟩
      obtain rfl : c' = some c := hc
      have := hm.shows i
      rw [hi] at this
      exact ⟨i, this⟩
    · rintro ⟨i, hi⟩
      have hocc : screen.Occupied i := by
        simp only [Screen.Occupied, hi, ne_eq]
        omega
      obtain ⟨c', x, y, hs, hv⟩ := hm.shows.occupied_iff.mp hocc
      rw [hi] at hv
      simp only [SlotValues.mk.injEq, Nat.cast_inj] at hv
      obtain ⟨rfl, rfl, rfl⟩ := hv
      exact ⟨i, _, hs, rfl, rfl⟩
  · obtain ⟨c, x, y, hs, hv⟩ := hm.shows.occupied_iff.mp hi
    exact ⟨c, ⟨x, y⟩, (htable c ⟨x, y⟩).mpr ⟨i, _, hs, rfl, rfl⟩, hv⟩
  · obtain ⟨c, x, y, hs, hv⟩ := hm.shows.occupied_iff.mp hi
    obtain ⟨c', x', y', hs', hv'⟩ := hm.shows.occupied_iff.mp hj
    rw [hv, hv', Nat.cast_inj] at heq
    subst heq
    exact hwf.unique i j _ _ c hs hs' rfl rfl
  · rw [hm.touch, ← hactive]
    split <;> simp_all
  · obtain ⟨c, x, y, hs, hv⟩ := hm.shows.occupied_iff.mp hi
    -- the slot a reader finds lowest is the one the table finds first
    have hfirst : engine.injector.state.slots.find? (fun slot => slot.contactId.isSome) =
        some ⟨some c, x, y⟩ := by
      obtain ⟨hlt, hget⟩ := List.getElem?_eq_some_iff.mp hs
      rw [List.find?_eq_some_iff_getElem]
      refine ⟨rfl, i, hlt, hget, fun j hj => ?_⟩
      have hfree := mt hm.shows.occupied_iff.mpr (hlow j hj)
      have hgetj := List.getElem?_eq_getElem (hj.trans hlt)
      have hshown := hm.shows j
      rw [hgetj] at hshown hfree
      revert hshown hfree
      rcases engine.injector.state.slots[j] with ⟨_ | d, x', y'⟩ <;> intro hfree hshown
      · rfl
      · exact (hfree ⟨d, x', y', rfl, hshown⟩).elim
    have := hm.pointer x y (by rw [SlotState.primaryPosition, hfirst]; rfl)
    rw [hv]
    exact this

/-- **Engine, slot table and device agree after every submission**, for every device, every
list of frames and every pattern of failing writes. -/
theorem submissions_agree (config : DeviceConfig) (accepts : ℕ → Bool) (frames : List TouchFrame) :
    let engine := frames.foldl (fun e frame => after (TouchEngine.submit frame) e)
      (.new (.withSink config (.new accepts)))
    Agree engine (Reader.idle.readAll engine.injector.sink.emitted).reported := by
  refine Synced.agree (List.foldlRecOn frames _ (synced_new config accepts) ?_)
  intro engine h frame _
  exact wp_after (synced_submit h frame)

end Wroid
