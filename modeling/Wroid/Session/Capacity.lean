import Wroid.Inject.SlotRefinement
import Wroid.Session.Contacts

/-!
# A session over the uinput device

The device of a session has ten slots.  A frame of a running session is refused in one
situation only: it presses a contact while ten others are down.

## Main definitions

* `SinkNeverFails` — every write of a batch of events succeeds.
* `Contract.uinput` — what the injector does with the frames of a session.

## Main results

* `TableMatches.activeContactCount_eq` — the engine and the slot table count the same.
* `inputs_only_exhaust_slots` — **no input ends a session, unless the slots are exhausted**.
* `inputs_never_fail` — a profile that owns ten contacts at most never fails.
-/

set_option linter.constructorNameAsVariable false

namespace Wroid

open Lib

/-! ### Counting contacts -/

/-- The contacts in a slot table. -/
def SlotState.contacts (st : SlotState) : List ContactId := st.slots.filterMap Slot.contactId

theorem SlotState.WellFormed.nodup_contacts {config : DeviceConfig} {st : SlotState}
    (h : st.WellFormed config) : st.contacts.Nodup := by
  rw [contacts, List.Nodup, List.pairwise_filterMap, List.pairwise_iff_getElem]
  rintro i j hi hj hij c hc d hd rfl
  have := h.unique i j _ _ c (List.getElem?_eq_getElem hi) (List.getElem?_eq_getElem hj) hc hd
  omega

/-- **The engine and the slot table count the same.** -/
theorem TableMatches.activeContactCount_eq {config : DeviceConfig} {engine : TouchState}
    {table : SlotState} (h : TableMatches config engine table) :
    engine.activeContactCount = table.activeCount := by
  have hperm : engine.activeContacts.keys.Perm table.contacts := by
    refine (List.perm_ext_iff_of_nodup Std.ExtTreeMap.nodup_keys
      h.wellFormed.nodup_contacts).mpr fun c => ?_
    have hkey : c ∈ engine.activeContacts.keys ↔ engine.position c ≠ none := by
      rw [Std.ExtTreeMap.mem_keys, TouchState.position, ne_eq, getElem?_eq_none_iff, not_not]
    rw [hkey, h.contacts, Option.ne_none_iff_exists']
    simp only [h.wellFormed.contactPosition_eq_some, SlotState.contacts, List.mem_filterMap]
    constructor
    · rintro ⟨_, i, s, hs, hc, -⟩
      exact ⟨s, List.mem_of_getElem? hs, hc⟩
    · rintro ⟨s, hs, hc⟩
      obtain ⟨i, hi⟩ := List.mem_iff_getElem?.mp hs
      exact ⟨s.point, i, s, hi, hc, rfl⟩
  rw [TouchState.activeContactCount, ← Std.ExtTreeMap.length_keys, hperm.length_eq,
    SlotState.contacts, List.length_filterMap_eq_countP, h.wellFormed.count_eq]

/-! ### The contract of the injector -/

/-- Every write of a batch of events succeeds. -/
def SinkNeverFails (S : Type) [EventSink S] : Prop :=
  ∀ (events : List InputEvent) (s : S), ∃ s', EventSink.emit events s = .ok () s'

/-- The slots were exhausted: the contact `c` was to be pressed while every slot was taken by
another one. -/
def SlotsExhausted (config : DeviceConfig) (owned : Set ContactId) (st : TouchState)
    (cause : TouchInjectionError) : Prop :=
  ∃ c ∈ owned, cause = ⟨"persistent uinput frame submission failed",
      some (UinputFrameError.noFreeSlot c).display⟩ ∧
    st.position c = none ∧ st.activeContactCount = config.slotCount ∧
    ∀ d, st.position d ≠ none → d ∈ owned

/-- The injector over a sink that never fails, for frames of the contacts `owned` that stay on
the surface and press a contact only with their first event: it runs out of slots, and fails
in no other way. -/
def Contract.uinput {S : Type} [EventSink S] (hsink : SinkNeverFails S) (config : DeviceConfig)
    (owned : Set ContactId) : Contract (UinputTouchInjector S) where
  Inv st i := i.config = config ∧ TableMatches config st i.state ∧
    (∃ screen, Mirrors i.state screen) ∧ ∀ c, st.position c ≠ none → c ∈ owned
  Allowed frame := (∀ e ∈ frame.events, e.contactId ∈ owned ∧
    ∀ p ∈ e.after, p.Inside config.resolution) ∧ ∀ e ∈ frame.events.tail, e.phase ≠ .down
  Failed := SlotsExhausted config owned
  inject_spec := by
    rintro st i frame ⟨rfl, htable, ⟨screen, hscreen⟩, howned⟩ hv ⟨hon, hdown⟩
    have hwf := htable.wellFormed
    have hne : frame.events.isEmpty = false := by simpa using hv.nonempty
    simp only [TouchInjector.inject, UinputTouchInjector.injectFrame, hne, Bool.false_eq_true,
      if_false, wp_mapError, wp_bind, wp_get]
    rcases UinputTouchInjector.nextState_run hwf hv.nodup (htable.fits hv) with
      ⟨next, hnext, hrun⟩ | ⟨err, herr, pre, e, post, last, hsplit, hrun, hrefusal⟩
    · obtain ⟨out, hout, -, hmirrors⟩ :=
        UinputTouchInjector.mirrors_frame hrun hwf hv.nodup hscreen
      obtain ⟨sink, hemit⟩ := hsink
        (UinputTouchInjector.touchEvents i.state next ++ out.flatten ++
          UinputTouchInjector.pointerEvents next) i.sink
      simp only [hnext, hout, wp_bind, wp_zoom, wp_mapError, wp_modify]
      simp only [wp, hemit]
      refine ⟨trivial, htable.applyFrame hrun, ⟨_, hmirrors⟩, fun c hc => ?_⟩
      by_cases hmention : frame.Mentions c
      · obtain ⟨e, he, rfl⟩ := hmention
        exact (hon e he).1
      · rw [TouchState.position_applyFrame_of_not_mentions hmention] at hc
        exact howned c hc
    · simp only [herr, wp_throw]
      have he : e ∈ frame.events := by simp [hsplit]
      rcases hrefusal with ⟨p, hp, hout⟩ | ⟨hphase, rfl, hcount⟩
      · exact absurd ((hon e he).2 p hp) hout
      · -- only the first event may press a contact, so the table is that of the engine
        cases pre with
        | nil =>
          cases hrun
          have hfits := hv.fits e he
          rw [TouchEvent.Fits, TouchState.isActive_eq] at hfits
          exact ⟨e.contactId, (hon e he).1, rfl, by simpa [hphase] using hfits,
            htable.activeContactCount_eq.trans hcount, howned⟩
        | cons first rest => exact absurd hphase (hdown e (by simp [hsplit]))

section Uinput

variable {S : Type} [EventSink S] {hsink : SinkNeverFails S} {config : DeviceConfig}
  {owned : Set ContactId}

theorem Contract.uinput_allowsAt {c : ContactId} {p : Point} (hc : c ∈ owned)
    (hp : p.Inside config.resolution) : (Contract.uinput hsink config owned).AllowsAt c p := by
  intro phase
  refine ⟨?_, by simp⟩
  simp only [TouchFrame.events_single, List.mem_singleton, forall_eq]
  refine ⟨hc, fun q hq => ?_⟩
  cases phase with
  | down | move =>
    obtain rfl : p = q := Option.some.inj hq
    exact hp
  | up | cancel => cases hq

theorem Contract.uinput_allowsOn {cs : Set ContactId} {places : Set Point} (hcs : cs ⊆ owned)
    (hplaces : ∀ p ∈ places, p.Inside config.resolution) :
    (Contract.uinput hsink config owned).AllowsOn cs places where
  single _ hc p hp := uinput_allowsAt (hcs hc) (hplaces p hp)
  handOver c hc d hd _ p hp q hq := by
    refine ⟨?_, by simp [handOverFrame]⟩
    simp only [handOverFrame, List.mem_cons, List.not_mem_nil, or_false, forall_eq_or_imp, forall_eq]
    refine ⟨⟨hcs hc, fun r hr => ?_⟩, hcs hd, fun r hr => by cases hr⟩
    obtain rfl : p = r := Option.some.inj hr
    exact hplaces p hp

end Uinput

/-! ### The controls stay on the surface -/

theorem MouseAim.new_inside {contactId : ContactId} {origin : Point} {region : MouseAimRegion}
    {resolution : Resolution} {sensitivity : MouseAimSensitivity} {aim : MouseAim}
    (h : MouseAim.new contactId origin region resolution sensitivity = .ok aim) :
    ∀ p ∈ aim.region.pixels, p.Inside resolution := by
  simp only [MouseAim.new, bind_eq_ok] at h
  obtain ⟨region', hregion, h⟩ := h
  unfold MouseAimRegion.validate at hregion
  split_ifs at hregion with hzero hout
  obtain rfl := Except.ok.inj hregion
  split at h
  · obtain rfl := Except.ok.inj h
    rintro p ⟨-, hx, -, hy⟩
    simp only [Point.Inside]
    simp only at hx hy
    omega
  · cases h

/-- What a control touches is on the surface. -/
theorem BindingV2.RealizedBy.places_inside {layers : List LayerV2} {resolution : Resolution}
    {binding : BindingV2} {layout : ControlLayout}
    (h : binding.RealizedBy layers resolution layout.control) (hw : resolution.width ≠ 0)
    (hh : resolution.height ≠ 0) : ∀ p ∈ layout.places, p.Inside resolution := by
  obtain ⟨next, next', haction⟩ := h.action
  have haction := materializeAction_ok haction
  unfold ControlLayout.places
  cases hb : binding.action with
  | tap point | hold point =>
    rw [hb] at haction
    rw [haction.1]
    rintro p rfl
    exact point.materialize_inside hw hh
  | virtualJoystick center radius deadZone mode reaffirm =>
    rw [hb] at haction
    obtain ⟨joystick, hjoystick, haction, -⟩ := haction
    rw [haction]
    obtain ⟨j, hj, -, hresolution⟩ := VirtualJoystick.fromProfileV2Geometry_ok
      next center radius deadZone hw hh
    obtain rfl : j = joystick := Except.ok.inj (hj.symm.trans hjoystick)
    rintro p ⟨d, hd⟩
    exact hresolution ▸ VirtualJoystick.target_inside hd
  | mouseAim region sensitivity toggleKey threshold gap ads reaffirm =>
    rw [hb] at haction
    obtain ⟨_, _, _, aim, settings, haim, haction, -⟩ := haction
    rw [haction]
    exact MouseAim.new_inside haim
  | macroSteps steps =>
    rw [hb] at haction
    exact haction.elim

/-! ### The law -/

/-- With the slots exhausted, the contacts outnumber them. -/
theorem SlotsExhausted.lt_length {config : DeviceConfig} {owned : List ContactId} {st : TouchState}
    {cause : TouchInjectionError} (h : SlotsExhausted config { c | c ∈ owned } st cause) :
    config.slotCount < owned.length := by
  obtain ⟨c, hc, -, hup, hcount, hactive⟩ := h
  have hkey : ∀ d, d ∈ st.activeContacts.keys ↔ st.position d ≠ none := fun d => by
    rw [Std.ExtTreeMap.mem_keys, TouchState.position, ne_eq, getElem?_eq_none_iff, not_not]
  have hnodup : (c :: st.activeContacts.keys).Nodup :=
    List.nodup_cons.mpr ⟨fun hmem => (hkey c).mp hmem hup, Std.ExtTreeMap.nodup_keys⟩
  have hsub : (c :: st.activeContacts.keys) ⊆ owned := by
    intro d hd
    rcases List.mem_cons.mp hd with rfl | hd
    · exact hc
    · exact hactive d ((hkey d).mp hd)
  have := (List.subperm_of_subset hnodup hsub).length_le
  rw [List.length_cons, Std.ExtTreeMap.length_keys] at this
  rw [← hcount, TouchState.activeContactCount]
  omega

namespace UnifiedRuntime

/-- The contacts that the controls of a runtime own. -/
def controlContacts {I : Type} (rt : UnifiedRuntime I) : List ContactId :=
  rt.layouts.flatMap ControlLayout.contacts

variable {S : Type} [EventSink S] {profile : ProfileV2} {resolution : Resolution}
  {plan : RuntimeControlPlan} {config : DeviceConfig} {sink : S}
  {rt₀ : UnifiedRuntime (UinputTouchInjector S)}

/-- **No input ends a session, unless the slots are exhausted**: over the device of a session,
a run of inputs returns, or it fails because a contact of the profile was to be pressed while
ten others were down.  A profile whose controls own ten contacts at most always returns. -/
theorem inputs_only_exhaust_slots (hsink : SinkNeverFails S)
    (hplan : RuntimeControlPlan.fromProfileV2 profile resolution = .ok plan)
    (hconfig : DeviceConfig.new resolution.width resolution.height = .ok config)
    (hnew : new plan (.withSink config sink) = .ok rt₀) (hids : rt₀.contactIds.Nodup)
    (calls : List RuntimeCall) (hinputs : ∀ c ∈ calls, c.IsInput) :
    ((∃ rt, runAll call calls rt₀ = .ok () rt) ∨
      ∃ contact ∈ rt₀.controlContacts, ∃ rt, runAll call calls rt₀ = .error (.engine (.injection
          ⟨"persistent uinput frame submission failed",
            some (UinputFrameError.noFreeSlot contact).display⟩)) rt ∧
        rt.engine.state.position contact = none ∧ rt.engine.state.activeContactCount = 10) ∧
    (rt₀.controlContacts.length ≤ 10 → ∃ rt, runAll call calls rt₀ = .ok () rt) := by
  have hplan := fromProfileV2_realizes hplan
  have hbuilt := new_built hnew
  obtain ⟨hslots, hres, hw, hh⟩ : config.slotCount = 10 ∧ config.resolution = resolution ∧
      resolution.width ≠ 0 ∧ resolution.height ≠ 0 := by
    unfold DeviceConfig.new DeviceConfig.withNameAndSlots at hconfig
    split_ifs at hconfig with _ _ hwidth hheight
    obtain rfl := Except.ok.inj hconfig
    exact ⟨rfl, rfl, by tauto, by tauto⟩
  generalize howned : ({ c | c ∈ rt₀.controlContacts } : Set ContactId) = owned
  have hlayout : ∀ layout ∈ rt₀.layouts, layout.Owns ⊆ owned ∧
      ∀ p ∈ layout.places, p.Inside config.resolution := by
    intro layout hl
    obtain ⟨binding, -, hreal⟩ := forall₂_exists_left hplan.controls (hbuilt.mem hl)
    exact ⟨fun c hc => howned ▸ List.mem_flatMap.mpr ⟨layout, hl, hc⟩,
      hres ▸ hreal.places_inside hw hh⟩
  have hcfg : Configured (.uinput hsink config owned) rt₀.setup rt₀.layouts :=
    ⟨distinct_of_nodup hids, fun layout hl _ =>
      Contract.uinput_allowsOn (hlayout layout hl).1 (hlayout layout hl).2⟩
  have htaps : ∀ layout ∈ rt₀.layouts, (Contract.uinput hsink config owned).AllowsTap layout := by
    intro layout hl point contact haction hcontact
    refine Contract.uinput_allowsAt ((hlayout layout hl).1 ?_) ((hlayout layout hl).2 point ?_)
    · simp [ControlLayout.Owns, ControlLayout.contacts, haction, hcontact]
    · simp [ControlLayout.places, haction]
  have hstart : (Contract.uinput hsink config owned).Holds (.new (.withSink config sink)) :=
    ⟨rfl, tableMatches_new config, ⟨_, mirrors_new config.slotCount⟩,
      fun c hc => absurd (TouchState.position_empty c) hc⟩
  have hrun : wp (runAll call calls) (fun _ _ => True) (fun e rt => ∃ cause,
      e = .engine (.injection cause) ∧ SlotsExhausted config owned rt.engine.state cause) rt₀ := by
    refine wp_mono (wp_runAll_of_mem (fun c hc rt hI => input_spec hcfg htaps c (hinputs c hc) hI)
      (new_invariant hbuilt hstart)) (fun _ _ _ => trivial) ?_
    rintro _ rt ⟨_, rfl, cause, rfl, hfailed⟩
    exact ⟨cause, rfl, hfailed⟩
  unfold wp at hrun
  subst howned
  cases hresult : runAll call calls rt₀ with
  | ok u rt => exact ⟨.inl ⟨rt, rfl⟩, fun _ => ⟨rt, rfl⟩⟩
  | error e rt =>
    rw [hresult] at hrun
    obtain ⟨cause, rfl, hexhausted⟩ := hrun
    refine ⟨.inr ?_, fun hle => ?_⟩
    · obtain ⟨contact, hcontact, rfl, hup, hcount, -⟩ := hexhausted
      exact ⟨contact, hcontact, rt, rfl, hup, hcount.trans hslots⟩
    · have := hexhausted.lt_length
      omega

theorem sinkNeverFails_unit : SinkNeverFails Unit := fun _ s => ⟨s, rfl⟩

/-- The device of a session on the surface of `shooter`. -/
def screen720 : DeviceConfig := ⟨WROID_TOUCHSCREEN_NAME, 1280, 720, DEFAULT_SLOT_COUNT, by decide,
  by decide, by decide, by decide, by decide⟩

theorem shooter_never_fails : ∃ plan rt₀,
    RuntimeControlPlan.fromProfileV2 shooter ⟨1280, 720⟩ = .ok plan ∧
      new plan (UinputTouchInjector.withSink screen720 ()) = .ok rt₀ ∧
        ∃ rt, runAll call [.handleKeyboard ⟨.named .w, .pressed⟩ 0,
          .handleMouse (.button .left .pressed) 1, .tick 2] rt₀ = .ok () rt := by
  obtain ⟨rt₀, hlaunch, hids⟩ := (Option.any_eq_true _ _).mp (by decide +kernel :
    (launch shooter ⟨1280, 720⟩ (UinputTouchInjector.withSink screen720 ())).any
      (fun rt => decide (rt.contactIds.Nodup ∧ rt.controlContacts.length ≤ 10)) = true)
  obtain ⟨hids, hle⟩ := of_decide_eq_true hids
  obtain ⟨plan, hplan, hnew⟩ := exists_of_launch hlaunch
  exact ⟨plan, rt₀, hplan, hnew, (inputs_only_exhaust_slots sinkNeverFails_unit hplan rfl hnew hids
    _ (by decide)).2 hle⟩

/-- Eleven hold bindings, on the keys of the top row and `q`. -/
def elevenHolds : ProfileV2 where
  schemaVersion := 2
  name := "eleven holds"
  packageName := "com.example.keys"
  layers := []
  bindings := ["1", "2", "3", "4", "5", "6", "7", "8", "9", "0", "q"].map fun key =>
    ⟨key, none, none, .key key, .hold ⟨1/2, 1/2⟩⟩

/-- Holding all eleven keys ends the session. -/
theorem eleven_holds_fail : SinkNeverFails Unit ∧ ∃ plan rt₀,
    RuntimeControlPlan.fromProfileV2 elevenHolds ⟨1280, 720⟩ = .ok plan ∧
      DeviceConfig.new 1280 720 = .ok screen720 ∧
      new plan (UinputTouchInjector.withSink screen720 ()) = .ok rt₀ ∧
      ∃ error rt, runAll call ([.num1, .num2, .num3, .num4, .num5, .num6, .num7, .num8, .num9, .num0,
        .q].map fun key => .handleKeyboard ⟨.named key, .pressed⟩ 0) rt₀ = .error error rt := by
  obtain ⟨rt₀, hlaunch, hfails⟩ := (Option.any_eq_true _ _).mp (by decide +kernel :
    (launch elevenHolds ⟨1280, 720⟩ (UinputTouchInjector.withSink screen720 ())).any (fun rt =>
      match runAll call ([.num1, .num2, .num3, .num4, .num5, .num6, .num7, .num8, .num9, .num0,
        .q].map fun key => .handleKeyboard ⟨.named key, .pressed⟩ 0) rt with
      | .ok _ _ => false
      | .error _ _ => true) = true)
  obtain ⟨plan, hplan, hnew⟩ := exists_of_launch hlaunch
  refine ⟨sinkNeverFails_unit, plan, rt₀, hplan, rfl, hnew, ?_⟩
  split at hfails
  · cases hfails
  · next error rt hrun => exact ⟨error, rt, hrun⟩

end UnifiedRuntime

end Wroid
