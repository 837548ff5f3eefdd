import Wroid.Session.Handover
import Wroid.Session.Identifiers

/-!
# Every tap is one press of its input

Over an injector that accepts every frame, the contact of a tap binding is pressed and lifted once
for each press of an input that reaches the binding, and is left alone by everything else: by
releases, by modifiers and layers, by the other controls, the cursor and a suspension.

What one press sends is found by a loop over the controls that has one control to itself.  All other
operations are run under a contract that forbids the frames of the contact.

## Main definitions

* `TouchEngine.framesOf` — the frames that have mentioned a contact.
* `Contract.avoiding` — the contract that forbids the frames of a contact.
* `RuntimeControlPlan.Fires` — an input makes a binding tap.
* `RuntimeControlPlan.tapFrames` — the frames of a tap binding over a run.

## Main results

* `dispatch_frames` — what one press sends.
* `call_taps` — one call.
* `Fires.layer_eq` — all bindings that fire for one input belong to one layer.
* `taps_follow_presses` — **the frames of every tap binding over every run**.
-/

set_option linter.constructorNameAsVariable false

namespace Wroid

open Lib

variable {I : Type} [TouchInjector I]

/-! ### The frames of a contact -/

/-- The frames handed to the injector that mention the contact. -/
def TouchEngine.framesOf (contact : ContactId) (eng : TouchEngine (Recorder I)) : List TouchFrame :=
  eng.log.filter fun frame => frame.Mentions contact

theorem neverFails_recorder (h : NeverFails I) : NeverFails (Recorder I) := by
  intro frame r
  obtain ⟨i, hi⟩ := h frame r.inner
  exact ⟨⟨i, r.submitted ++ [frame]⟩, by simp [TouchInjector.inject, zoom, hi, bind, EStateM.bind,
    modify, modifyGet, MonadStateOf.modifyGet, EStateM.modifyGet]⟩

/-- A recorded frame. -/
theorem wp_inject_recorder (h : NeverFails I) (frame : TouchFrame) (r : Recorder I) :
    wp (TouchInjector.inject frame) (fun _ r' => r'.submitted = r.submitted ++ [frame])
      (fun _ _ => False) r := by
  simp only [TouchInjector.inject, wp_bind, wp_modify, wp_zoom]
  obtain ⟨i, hi⟩ := h frame r.inner
  simp only [wp, hi]

/-- The contact, whose frames have been `frames`, is in no frame any more; it may be known to be
up besides. -/
def Contract.avoiding (h : NeverFails I) (contact : ContactId) (Up : Prop)
    (frames : List TouchFrame) : Contract (Recorder I) where
  Inv st r := (Up → st.position contact = none) ∧
    (r.submitted.filter fun frame => frame.Mentions contact) = frames
  Allowed frame := ¬ frame.Mentions contact
  Failed _ _ := False
  inject_spec st r frame hInv _ hnot := by
    refine wp_mono (wp_inject_recorder h frame r) ?_ fun _ _ h => h
    intro _ r' hsubmitted
    constructor
    · intro hup
      rw [TouchState.position_applyFrame_of_not_mentions hnot]
      exact hInv.1 hup
    · rw [hsubmitted, List.filter_append, hInv.2, List.filter_singleton]
      simp [hnot]

variable {h : NeverFails I} {contact other : ContactId} {Up : Prop} {frames : List TouchFrame}

theorem Contract.avoiding_allowsAt (hne : other ≠ contact) (p : Point) :
    (Contract.avoiding h contact Up frames).AllowsAt other p := by
  intro phase
  rw [Contract.avoiding]
  simpa using hne

theorem Contract.avoiding_allowsControl {layout : ControlLayout} (hnot : contact ∉ layout.Owns) :
    (Contract.avoiding h contact Up frames).AllowsControl layout := by
  intro _
  have hne : ∀ c ∈ layout.Owns, c ≠ contact := fun c hc heq => hnot (heq ▸ hc)
  refine ⟨fun c hc p _ => Contract.avoiding_allowsAt (hne c hc) p, ?_⟩
  intro c hc d hd _ p _ q _
  simp [Contract.avoiding, Contract.handOverFrame, TouchFrame.Mentions, hne c hc, hne d hd]

theorem Contract.avoiding_allowsTap {layout : ControlLayout} (hnot : contact ∉ layout.Owns) :
    (Contract.avoiding h contact Up frames).AllowsTap layout := by
  intro point c haction hcontact
  refine Contract.avoiding_allowsAt (fun heq => hnot ?_) point
  rw [ControlLayout.Owns, ControlLayout.contacts, haction, hcontact]
  exact List.mem_singleton.mpr heq.symm

/-! ### The control of the contact -/

/-- The contact belongs to the tap binding of this layout alone. -/
structure TapContact (cursor : ContactId) (layouts : List ControlLayout) (layout : ControlLayout)
    (contact : ContactId) (point : Point) : Prop where
  distinct : UnifiedRuntime.Distinct cursor layouts
  mem : layout ∈ layouts
  action : layout.control.action = .tap point
  pointContact : layout.pointContact = some contact

namespace TapContact

variable {cursor : ContactId} {layouts : List ControlLayout} {layout layout' : ControlLayout}
  {point : Point}

omit [TouchInjector I] in
theorem owns (ht : TapContact cursor layouts layout contact point) : contact ∈ layout.Owns := by
  rw [ControlLayout.Owns, ControlLayout.contacts, ht.action, ht.pointContact]
  exact List.mem_singleton.mpr rfl

theorem not_owns (ht : TapContact cursor layouts layout contact point) (hl : layout' ∈ layouts)
    (hne : layout' ≠ layout) : contact ∉ layout'.Owns := by
  have : Std.Symm fun l l' : ControlLayout => Disjoint l.Owns l'.Owns := ⟨fun _ _ h => h.symm⟩
  have hdisjoint := ht.distinct.apart.forall hl ht.mem hne
  exact fun hmem => hdisjoint.ne_of_mem hmem ht.owns rfl

theorem ne_cursor (ht : TapContact cursor layouts layout contact point) : cursor ≠ contact :=
  fun heq => ht.distinct.cursor layout ht.mem (heq ▸ ht.owns)

/-- Everything but the taps may be done while no frame mentions the contact. -/
theorem configured {setup : RuntimeSetup} (h : NeverFails I) (Up : Prop) (frames : List TouchFrame)
    (ht : TapContact setup.cursorContact layouts layout contact point) :
    UnifiedRuntime.Configured (Contract.avoiding h contact Up frames) setup layouts where
  distinct := ht.distinct
  allows layout' hl hnotap := by
    have hne : layout' ≠ layout := fun heq => hnotap point (heq ▸ ht.action)
    exact Contract.avoiding_allowsControl (ht.not_owns hl hne) hnotap

end TapContact

/-! ### One press -/

/-- The frames of a tap. -/
def TouchFrame.tap (contact : ContactId) (point : Point) : List TouchFrame :=
  [.single ⟨contact, .down, point⟩, .single ⟨contact, .up, point⟩]

/-- The frames of a contact when an input is pressed that may reach the control. -/
def ControlLayout.pressFrames (contact : ContactId) (held : HeldInputs)
    (input : RuntimePhysicalInput) (layout : ControlLayout) : List TouchFrame :=
  match layout.control.action with
  | .tap point =>
    if layout.pointContact = some contact ∧ input ∈ layout.input.inputs ∧
        bindingAvailable layout.control input held then TouchFrame.tap contact point
    else []
  | _ => []

theorem ControlLayout.pressFrames_of_not_owns {held : HeldInputs} {input : RuntimePhysicalInput}
    {layout : ControlLayout} (hnot : contact ∉ layout.Owns) :
    layout.pressFrames contact held input = [] := by
  unfold ControlLayout.pressFrames
  split
  · next point haction =>
    refine if_neg fun hfires => hnot ?_
    rw [ControlLayout.Owns, ControlLayout.contacts, haction, hfires.1]
    exact List.mem_singleton.mpr rfl
  · rfl

/-- The loop over the controls that the press of an input starts. -/
def dispatchPress (held : HeldInputs) (input : RuntimePhysicalInput) (now : ℕ) : CellM I Bool :=
  match input with
  | .key key => ControlCell.dispatchKeyboardPress held key now
  | .mouseButton button => ControlCell.dispatchMousePress held button

namespace ControlCell

variable {eng : TouchEngine (Recorder I)} {cell : ControlCell} {setup : RuntimeSetup}
  {held : HeldInputs} {input : RuntimePhysicalInput}

theorem dispatchPress_spec {K : Contract I} {eng : TouchEngine I} (input : RuntimePhysicalInput)
    (now : ℕ) (hK : K.Holds eng) (hs : cell.Settled setup held eng.state.position)
    (ha : K.AllowsControl cell.layout) (htap : K.AllowsTap cell.layout) :
    wp (dispatchPress held input now)
      (fun _ t => Visited K eng cell (fun pos cell' => cell'.Settled setup held pos) t)
      (fun e t => K.Stops e t.1) (eng, cell) := by
  cases input with
  | key key => exact dispatchKeyboardPress_spec key now hK hs ha htap
  | mouseButton button => exact dispatchMousePress_spec button hK hs htap

/-- A tap presses and lifts its contact. -/
theorem tapBinding_frames (hup : eng.state.position contact = none) (point : Point) :
    wp (tapBinding contact point)
      (fun _ t => t.1.framesOf contact = eng.framesOf contact ++ TouchFrame.tap contact point)
      (fun _ _ => True) (eng, cell) := by
  have hadds : ∀ (e : TouchEngine (Recorder I)) (phase : TouchPhase),
      e.log = eng.log ++ [.single ⟨contact, phase, point⟩] →
      e.framesOf contact = eng.framesOf contact ++ [.single ⟨contact, phase, point⟩] := by
    intro e phase hlog
    rw [TouchEngine.framesOf, hlog, List.filter_append, TouchEngine.framesOf, List.filter_singleton]
    simp
  simp only [tapBinding, wp_bind, wp_onEngine]
  have hdown : (⟨contact, .down, point⟩ : TouchEvent).Fits eng.state := by
    simp [TouchEvent.Fits, TouchState.isActive_eq, hup]
  refine wp_mono (wp_and (TouchEngine.submit_single_recorded hdown)
    (TouchEngine.submit_single_spec (K := .unknown (Recorder I)) trivial hdown trivial)) ?_
    fun _ _ _ => trivial
  rintro _ e ⟨hlog, -, hpos⟩
  have hfits : (⟨contact, .up, point⟩ : TouchEvent).Fits e.state := by
    simp [TouchEvent.Fits, TouchState.isActive_eq, hpos, TouchEvent.after]
  refine wp_mono (TouchEngine.submit_single_recorded hfits) ?_ fun _ _ _ => trivial
  intro _ e' hlog'
  rw [TouchEngine.framesOf, hlog', hlog, TouchEngine.framesOf, List.filter_append, List.filter_append,
    List.filter_singleton, List.filter_singleton, List.append_assoc]
  simp [TouchFrame.tap]

/-- The dispatch of a press at the control of the contact. -/
theorem dispatchPress_own (input : RuntimePhysicalInput) (now : ℕ) {point : Point}
    (hs : cell.Settled setup held eng.state.position) (haction : cell.layout.control.action = .tap point)
    (hcontact : cell.layout.pointContact = some contact)
    (hinput : (∃ key, cell.layout.input = .key key) ∨ ∃ button, cell.layout.input = .mouseButton button) :
    wp (dispatchPress held input now)
      (fun _ t => t.1.framesOf contact =
        eng.framesOf contact ++ cell.layout.pressFrames contact held input)
      (fun _ _ => True) (eng, cell) := by
  have hup : eng.state.position contact = none := by
    cases hs.consistent with
    | tap point' contact' action' pointContact controller inactive neutral up =>
      obtain rfl := Option.some.inj (hcontact.symm.trans pointContact)
      exact up
    | hold _ _ action' | joystick _ _ _ action' | aim _ action' =>
      cases (show cell.action = _ from haction).symm.trans action'
  have hframes : cell.layout.pressFrames contact held input =
      if input ∈ cell.layout.input.inputs ∧ bindingAvailable cell.layout.control input held then
        TouchFrame.tap contact point
      else [] := by
    simp only [ControlLayout.pressFrames, haction, hcontact, true_and]
  have hidle : ¬ (input ∈ cell.layout.input.inputs ∧ bindingAvailable cell.layout.control input held) →
      eng.framesOf contact =
        eng.framesOf contact ++ cell.layout.pressFrames contact held input := by
    intro hnot
    rw [hframes, if_neg hnot, List.append_nil]
  have hfires : (input ∈ cell.layout.input.inputs ∧ bindingAvailable cell.layout.control input held) →
      wp (tapBinding contact point)
        (fun _ t => t.1.framesOf contact =
          eng.framesOf contact ++ cell.layout.pressFrames contact held input)
        (fun _ _ => True) (eng, cell) := by
    intro hyes
    rw [hframes, if_pos hyes]
    exact tapBinding_frames hup point
  cases input with
  | key key =>
    simp only [dispatchPress, dispatchKeyboardPress, wp_bind, wp_get]
    rcases hinput with ⟨bound, hbound⟩ | ⟨button, hbound⟩
    · simp only [hbound, haction, wp_ite, wp_bind, wp_pure, hcontact, pointContactId]
      have hiff : (decide (bound = key) && bindingAvailable cell.layout.control (.key key) held) = true ↔
          .key key ∈ cell.layout.input.inputs ∧
            bindingAvailable cell.layout.control (.key key) held = true := by
        rw [hbound, ResolvedControlInput.inputs, List.mem_singleton, RuntimePhysicalInput.key.injEq,
          Bool.and_eq_true, decide_eq_true_eq, @eq_comm _ bound key]
      split
      · next hyes => exact hfires (hiff.mp hyes)
      · next hno => exact hidle fun hyes => hno (hiff.mpr hyes)
    · simp only [hbound, haction, wp_pure]
      exact hidle fun hyes => by simp [hbound, ResolvedControlInput.inputs] at hyes
  | mouseButton button =>
    simp only [dispatchPress, dispatchMousePress, wp_bind, wp_get, wp_ite, wp_pure]
    have hiff : (decide (cell.layout.input ≠ .mouseButton button) ||
        !bindingAvailable cell.layout.control (.mouseButton button) held) = true ↔
        ¬ (.mouseButton button ∈ cell.layout.input.inputs ∧
          bindingAvailable cell.layout.control (.mouseButton button) held = true) := by
      rcases hinput with ⟨bound, hbound⟩ | ⟨bound, hbound⟩
      · simp [hbound, ResolvedControlInput.inputs]
      · rw [hbound, ResolvedControlInput.inputs, List.mem_singleton,
          RuntimePhysicalInput.mouseButton.injEq, Bool.or_eq_true, decide_eq_true_eq, ne_eq,
          ResolvedControlInput.mouseButton.injEq, @eq_comm _ bound button, Bool.not_eq_true',
          Bool.eq_false_iff, not_and_or]
    split
    · next hno => exact hidle (hiff.mp hno)
    · next hyes =>
      simp only [haction, wp_bind, wp_pure, hcontact, pointContactId]
      exact hfires (not_not.mp fun hnot => hyes (hiff.mpr hnot))

end ControlCell

namespace UnifiedRuntime

variable {setup : RuntimeSetup} {layouts : List ControlLayout} {layout : ControlLayout}
  {point : Point} {rt : UnifiedRuntime (Recorder I)}

/-- The input of a tap binding is a key or a mouse button. -/
def PointInput (layout : ControlLayout) : Prop :=
  (∃ key, layout.input = .key key) ∨ ∃ button, layout.input = .mouseButton button

/-- The invariant while the contact is up, with the frames it has had. -/
def Rests (h : NeverFails I) (setup : RuntimeSetup) (layouts : List ControlLayout)
    (contact : ContactId) (frames : List TouchFrame) (rt : UnifiedRuntime (Recorder I)) : Prop :=
  Invariant (Contract.avoiding h contact True frames) setup layouts rt

theorem Invariant.of_holds {I : Type} [TouchInjector I] {K K' : Contract I} {rt : UnifiedRuntime I}
    (hinv : Invariant K setup layouts rt) (hK : K'.Holds rt.engine) :
    Invariant K' setup layouts rt :=
  ⟨⟨hinv.coherent.setup_eq, hinv.coherent.layouts_eq, hK, hinv.coherent.consistent,
    hinv.coherent.modifiers⟩, hinv.selected, hinv.settled⟩

theorem Rests.framesOf (hr : Rests h setup layouts contact frames rt) :
    rt.engine.framesOf contact = frames := hr.coherent.holds.2

/-- Between calls the contact is up. -/
theorem rests_of_invariant {K : Contract (Recorder I)} (h : NeverFails I)
    (ht : TapContact setup.cursorContact layouts layout contact point)
    (hinv : Invariant K setup layouts rt) :
    Rests h setup layouts contact (rt.engine.framesOf contact) rt := by
  refine hinv.of_holds ⟨fun _ => ?_, rfl⟩
  have hmem : layout ∈ rt.layouts := hinv.coherent.layouts_eq ▸ ht.mem
  obtain ⟨cell, hcell, rfl⟩ := List.mem_map.mp hmem
  cases hinv.coherent.consistent cell hcell with
  | tap point' contact' action' pointContact controller inactive neutral up =>
    obtain rfl := Option.some.inj (ht.pointContact.symm.trans pointContact)
    exact up
  | hold _ _ action' | joystick _ _ _ action' | aim _ action' =>
    cases (show cell.action = _ from ht.action).symm.trans action'

/-- Only the control of the contact sends frames of it. -/
theorem flatMap_pressFrames (hd : layouts.Pairwise fun l l' => Disjoint l.Owns l'.Owns)
    (hl : layout ∈ layouts) (hown : contact ∈ layout.Owns) (held : HeldInputs)
    (input : RuntimePhysicalInput) :
    layouts.flatMap (ControlLayout.pressFrames contact held input) =
      layout.pressFrames contact held input := by
  induction layouts with
  | nil => cases hl
  | cons first rest ih =>
    obtain ⟨hfirst, hrest⟩ := List.pairwise_cons.mp hd
    rw [List.flatMap_cons]
    rcases List.mem_cons.mp hl with rfl | hmem
    · have hnone : rest.flatMap (ControlLayout.pressFrames contact held input) = [] := by
        refine List.flatMap_eq_nil_iff.mpr fun l hl' => ?_
        refine ControlLayout.pressFrames_of_not_owns fun hmem => ?_
        exact (hfirst l hl').ne_of_mem hown hmem rfl
      rw [hnone, List.append_nil]
    · have hnot : contact ∉ first.Owns :=
        fun hmem' => (hfirst layout hmem).ne_of_mem hmem' hown rfl
      rw [ControlLayout.pressFrames_of_not_owns hnot, List.nil_append]
      exact ih hrest hmem

/-- **What one press sends.** -/
theorem dispatch_frames (ht : TapContact setup.cursorContact layouts layout contact point)
    (hshape : PointInput layout) (input : RuntimePhysicalInput) (now : ℕ)
    (hr : Rests h setup layouts contact frames rt) :
    wp (visit (dispatchPress rt.held input now))
      (fun _ rt' => Rests h setup layouts contact
        (frames ++ layout.pressFrames contact rt.held input) rt' ∧ rt'.held = rt.held)
      (fun _ _ => False) rt := by
  have hlayouts := hr.coherent.layouts_eq
  have hinv : Invariant (.ofNeverFails (neverFails_recorder h)) setup layouts rt := hr.of_holds trivial
  refine wp_mono (visit_log_spec (K := .ofNeverFails (neverFails_recorder h))
    (TouchEngine.framesOf contact) (fun cell => cell.layout.pressFrames contact rt.held input)
    (fun pos cell => cell.Settled setup rt.held pos ∧ cell.layout ∈ layouts)
    (fun _ pos cell' => cell'.Settled setup rt.held pos) (fun _ _ _ heq hs => ⟨hs.1.congr heq, hs.2⟩)
    (fun _ _ _ _ hlayout heq hs => hs.congr (hlayout ▸ heq)) ?_ (hlayouts ▸ ht.distinct.apart) trivial
    fun cell hcell => ⟨hr.settled cell hcell, hlayouts ▸ List.mem_map_of_mem hcell⟩) ?_ ?_
  · rintro eng cell - ⟨hs, hmem⟩
    have hany : wp (dispatchPress rt.held input now)
        (fun _ t => ControlCell.Visited (.ofNeverFails (neverFails_recorder h)) eng cell
          (fun pos cell' => cell'.Settled setup rt.held pos) t) (fun _ _ => False) (eng, cell) :=
      wp_mono (ControlCell.dispatchPress_spec (K := .ofNeverFails (neverFails_recorder h)) input now
        trivial hs (fun _ => ⟨fun _ _ _ _ _ => trivial, fun _ _ _ _ _ _ _ _ _ => trivial⟩)
        fun _ _ _ _ _ => trivial) (fun _ _ hv => hv) fun _ _ ⟨_, _, _, _, hfailed⟩ => hfailed
    by_cases heq : cell.layout = layout
    · refine wp_mono (wp_and hany (ControlCell.dispatchPress_own input now hs (heq ▸ ht.action)
        (heq ▸ ht.pointContact) (heq ▸ hshape))) (fun _ _ hv => hv) fun _ _ hv => hv.1.elim
    · have hnot := ht.not_owns hmem heq
      refine wp_mono (wp_and hany (ControlCell.dispatchPress_spec
        (K := Contract.avoiding h contact False (eng.framesOf contact)) input now
        ⟨fun hfalse => hfalse.elim, rfl⟩ hs (Contract.avoiding_allowsControl hnot)
        (Contract.avoiding_allowsTap hnot))) ?_ fun _ _ hv => hv.1.elim
      rintro _ t ⟨hv, hquiet⟩
      refine ⟨hv, ?_⟩
      rw [ControlLayout.pressFrames_of_not_owns hnot, List.append_nil]
      exact hquiet.holds.2
  · rintro _ rt' ⟨hswept, hlog⟩
    have hstepped := hinv.swept hswept
    have hrests := rests_of_invariant h ht hstepped.invariant
    have hall : rt.cells.flatMap (fun cell => cell.layout.pressFrames contact rt.held input) =
        layout.pressFrames contact rt.held input := by
      rw [← flatMap_pressFrames ht.distinct.apart ht.mem ht.owns, ← hlayouts, UnifiedRuntime.layouts,
        List.flatMap_map]
    rw [hlog, hall, hr.framesOf] at hrests
    exact ⟨hrests, hstepped.held⟩
  · rintro _ _ ⟨⟨_, _, _, _, hfailed⟩, -⟩
    exact hfailed

/-! ### One call -/

/-- What is held after a call. -/
def heldAfterCall (setup : RuntimeSetup) (layouts : List ControlLayout) (held : HeldInputs) :
    RuntimeCall → HeldInputs
  | .handleKeyboard event _ => heldAfterKeyboard setup layouts held event
  | .handleMouse event _ => heldAfterMouse layouts held event
  | .releaseMouseButtons _ => heldAfterRelease layouts held
  | .suspend => .none
  | .start _ => held
  | .tick _ => held
  | .restoreAim _ _ => held
  | .setAimEnabled _ _ => held
  | .cursorDown _ => held
  | .cursorMove _ => held
  | .cursorUp => held

/-- The input that a call presses. -/
def pressedInput : RuntimeCall → Option RuntimePhysicalInput
  | .handleKeyboard ⟨.named key, .pressed⟩ _ => some (.key key)
  | .handleMouse (.button button .pressed) _ => some (.mouseButton button)
  | _ => none

/-- The frames of the contact in a call, after which `held` is held. -/
def callFrames (setup : RuntimeSetup) (layout : ControlLayout) (contact : ContactId)
    (held : HeldInputs) (c : RuntimeCall) : List TouchFrame :=
  match pressedInput c with
  | some (.key key) =>
    if (setup.layerControls key).isSome then [] else layout.pressFrames contact held (.key key)
  | some (.mouseButton button) => layout.pressFrames contact held (.mouseButton button)
  | none => []

/-- What a call leaves behind that has sent `sent` of the contact. -/
def Tapped (h : NeverFails I) (setup : RuntimeSetup) (layouts : List ControlLayout)
    (contact : ContactId) (frames sent : List TouchFrame) (held : HeldInputs)
    (rt' : UnifiedRuntime (Recorder I)) : Prop :=
  Rests h setup layouts contact (frames ++ sent) rt' ∧ rt'.held = held

theorem no_stop {K : Contract (Recorder I)} (hfail : ∀ st e, ¬ K.Failed st e) {e : SessionError}
    {eng : TouchEngine (Recorder I)} (hstop : K.Stops e eng) : False := by
  obtain ⟨_, _, _, _, hfailed⟩ := hstop
  exact hfail _ _ hfailed

/-- A call that keeps the invariant under the contract sends no frame of the contact. -/
theorem tapped_of_stepped {α : Type} {m : RuntimeM (Recorder I) α} {held : HeldInputs}
    (hm : wp m (fun _ rt' => Stepped (Contract.avoiding h contact True frames) setup layouts rt held rt')
      (fun e rt' => (Contract.avoiding h contact True frames).Stops e rt'.engine) rt) :
    wp m (fun _ rt' => Tapped h setup layouts contact frames [] held rt') (fun _ _ => False) rt := by
  refine wp_mono hm ?_ fun _ _ hstop => no_stop (fun _ _ => id) hstop
  intro _ rt' hs
  refine ⟨?_, hs.held⟩
  rw [List.append_nil]
  exact hs.invariant

theorem handleKey_taps (ht : TapContact setup.cursorContact layouts layout contact point)
    (hshape : PointInput layout) (key : HostKeyName) (pressed : Bool) (now : ℕ)
    (hr : Rests h setup layouts contact frames rt) :
    wp (handleKey key pressed now) (fun _ rt' => Tapped h setup layouts contact frames
        (if (setup.layerControls key).isSome || !pressed then []
          else layout.pressFrames contact (refreshed layouts (holdKey setup rt.held key pressed))
            (.key key))
        (refreshed layouts (holdKey setup rt.held key pressed)) rt')
      (fun _ _ => False) rt := by
  have hcfg := ht.configured h True frames
  simp only [handleKey, wp_bind, wp_modify]
  refine wp_mono (reconcileKey_spec key pressed now hcfg hr) ?_
    fun _ _ hstop => no_stop (fun _ _ => id) hstop
  intro submitted rt₁ h₁
  rw [wp_get, wp_ite, h₁.invariant.coherent.setup_eq]
  split
  · refine ⟨?_, h₁.held⟩
    rw [List.append_nil]
    exact h₁.invariant
  · simp only [wp_bind, wp_pure]
    refine wp_mono (h₁.invariant.visit (P := fun _ => True) hcfg (fun _ _ => trivial)
      fun eng cell hK hs ha _ => ControlCell.onAim_spec
        (fun _ => MouseAimController.toggle_spec now hK) hK hs ha) ?_
      fun _ _ hstop => no_stop (fun _ _ => id) hstop
    rintro - rt₂ h₂
    have hheld : rt₂.held = rt₁.held := h₂.held
    have hdispatch := dispatch_frames ht hshape (.key key) now h₂.invariant
    rw [hheld, h₁.held] at hdispatch
    rw [h₁.held]
    exact wp_mono hdispatch (fun _ _ hs => hs) fun _ _ hs => hs

theorem handleButton_taps (ht : TapContact setup.cursorContact layouts layout contact point)
    (hshape : PointInput layout) (button : HostMouseButton) (pressed : Bool) (now : ℕ)
    (hr : Rests h setup layouts contact frames rt) :
    wp (handleButton button pressed now) (fun _ rt' => Tapped h setup layouts contact frames
        (if pressed then layout.pressFrames contact (heldAfterButton layouts rt.held button pressed)
          (.mouseButton button) else [])
        (heldAfterButton layouts rt.held button pressed) rt')
      (fun _ _ => False) rt := by
  have hcfg := ht.configured h True frames
  simp only [handleButton, wp_bind, wp_modify]
  refine wp_mono (reconcileButton_spec button pressed now hcfg hr) ?_
    fun _ _ hstop => no_stop (fun _ _ => id) hstop
  intro submitted rt₁ h₁
  rw [wp_get, wp_ite]
  cases pressed with
  | false =>
    refine ⟨?_, h₁.held⟩
    rw [if_neg Bool.false_ne_true, List.append_nil]
    exact h₁.invariant
  | true =>
    simp only [Bool.not_true, Bool.false_eq_true, if_false, wp_bind, wp_pure, if_true]
    have hdispatch := dispatch_frames ht hshape (.mouseButton button) now h₁.invariant
    rw [h₁.held] at hdispatch
    rw [h₁.held]
    exact wp_mono hdispatch (fun _ _ hs => hs) fun _ _ hs => hs

/-- **One call.** -/
theorem call_taps (ht : TapContact setup.cursorContact layouts layout contact point)
    (hshape : PointInput layout) (c : RuntimeCall) (hr : Rests h setup layouts contact frames rt) :
    wp (call c) (fun _ rt' => Tapped h setup layouts contact frames
        (callFrames setup layout contact (heldAfterCall setup layouts rt.held c) c)
        (heldAfterCall setup layouts rt.held c) rt')
      (fun _ _ => False) rt := by
  have hcfg := ht.configured h True frames
  have hcursor : ∀ p, (Contract.avoiding h contact True frames).AllowsAt setup.cursorContact p :=
    fun p => Contract.avoiding_allowsAt ht.ne_cursor p
  have hidle : Tapped h setup layouts contact frames [] rt.held rt := by
    refine ⟨?_, rfl⟩
    rw [List.append_nil]
    exact hr
  have hcursorStep : ∀ {m : RuntimeM (Recorder I) Unit},
      wp m (fun _ rt' => Invariant (Contract.avoiding h contact True frames) setup layouts rt' ∧
          rt'.held = rt.held)
        (fun e rt' => (Contract.avoiding h contact True frames).Stops e rt'.engine) rt →
      wp m (fun _ rt' => Tapped h setup layouts contact frames [] rt.held rt') (fun _ _ => False)
        rt := by
    intro m hm
    refine wp_mono hm ?_ fun _ _ hstop => no_stop (fun _ _ => id) hstop
    rintro _ rt' ⟨hinv, hheld⟩
    refine ⟨?_, hheld⟩
    rw [List.append_nil]
    exact hinv
  cases c with
  | start now => exact tapped_of_stepped (start_spec now hcfg hr)
  | tick now => exact tapped_of_stepped (tick_spec now hcfg hr)
  | releaseMouseButtons now => exact tapped_of_stepped (releaseMouseButtons_spec now hcfg hr)
  | restoreAim reactivate now => exact tapped_of_stepped (restoreAim_spec reactivate now hcfg hr)
  | setAimEnabled enabled now => exact tapped_of_stepped (setAimEnabled_spec enabled now hcfg hr)
  | cursorDown position =>
    exact hcursorStep (wp_mono (cursorDown_spec position hcfg (hcursor position) hr)
      (fun _ _ hs => ⟨hs.invariant, hs.held⟩) fun _ _ hstop => hstop)
  | cursorMove position =>
    exact hcursorStep (wp_mono (cursorMove_spec position hcfg (hcursor position) hr)
      (fun _ _ ⟨_, hs, _⟩ => ⟨hs.invariant, hs.held⟩) fun _ _ hstop => hstop)
  | cursorUp =>
    exact hcursorStep (wp_mono (cursorUp_spec hcfg hcursor hr)
      (fun _ _ hs => ⟨hs.invariant, hs.held⟩) fun _ _ hstop => hstop)
  | suspend =>
    refine wp_mono (suspend_spec (fun _ _ => id) ?_ hcfg hr) ?_
      fun _ _ hstop => no_stop (fun _ _ => id) hstop
    · intro eng hK hmention
      exact TouchEngine.mentions_cancelFrame.mp hmention (hK.1 trivial)
    · rintro _ rt' ⟨hinv, hheld, -⟩
      refine ⟨?_, hheld⟩
      rw [callFrames, pressedInput, List.append_nil]
      · exact hinv
      all_goals intros; contradiction
  | handleKeyboard event now =>
    simp only [call, wp_bind, wp_pure]
    obtain ⟨hostKey, transition⟩ := event
    cases hostKey with
    | f12 => cases transition <;> exact hidle
    | named key =>
      cases transition with
      | repeated => exact hidle
      | pressed =>
        have hkey := handleKey_taps ht hshape key true now hr
        rw [Bool.not_true, Bool.or_false] at hkey
        exact hkey
      | released =>
        have hkey := handleKey_taps ht hshape key false now hr
        rw [Bool.not_false, Bool.or_true, if_pos rfl] at hkey
        exact hkey
  | handleMouse event now =>
    simp only [call, wp_bind, wp_pure]
    cases event with
    | motion dx dy =>
      have hmotion : wp (handleMouse (.motion dx dy) now)
          (fun _ rt' => Stepped (Contract.avoiding h contact True frames) setup layouts rt rt.held rt')
          (fun e rt' => (Contract.avoiding h contact True frames).Stops e rt'.engine) rt := by
        simp only [handleMouse, wp_ite]
        split
        · exact Invariant.visit (P := fun _ => True) hr hcfg (fun _ _ => trivial)
            fun eng cell hK hs ha _ =>
              ControlCell.onAim_spec (fun _ => MouseAimController.moveBy_spec _ now hK) hK hs ha
        · exact .refl hr
      exact tapped_of_stepped hmotion
    | wheel vertical horizontal => exact hidle
    | button button transition =>
      cases transition with
      | repeated => exact hidle
      | pressed => exact handleButton_taps ht hshape button true now hr
      | released => exact handleButton_taps ht hshape button false now hr

end UnifiedRuntime

/-! ### What makes a binding tap -/

namespace RuntimeControlPlan

variable {plan : RuntimeControlPlan} {profile : ProfileV2} {resolution : Resolution}
  {held : HeldInputs} {control control' : RuntimeControlBinding} {input : RuntimePhysicalInput}

/-- The press of the input makes the binding tap. -/
structure Fires (plan : RuntimeControlPlan) (held : HeldInputs) (control : RuntimeControlBinding)
    (input : RuntimePhysicalInput) : Prop where
  own : input ∈ resolvedPhysicalInputs control.input
  notActivation : ∀ layer ∈ plan.layers, input ≠ .key layer.activationKey
  reaches : plan.Reaches held control input

/-- **All bindings that fire for one input belong to one layer.** -/
theorem Fires.layer_eq (hc : control ∈ plan.controls) (hc' : control' ∈ plan.controls)
    (hf : plan.Fires held control input) (hf' : plan.Fires held control' input) :
    control.layer = control'.layer := by
  have hle : ∀ {c c' : RuntimeControlBinding}, c' ∈ plan.controls → plan.Fires held c input →
      plan.Fires held c' input → c'.layer ≤ c.layer := by
    intro c c' hmem hfires hfires'
    rcases hfires'.reaches.layer with hbase | hactive
    · rw [hbase]
      exact Nat.zero_le _
    · exact hfires.reaches.top c' hmem hactive hfires'.own
  exact le_antisymm (hle hc hf' hf) (hle hc' hf hf')

open Classical in
/-- The frames of a tap binding in a call after which `held` is held. -/
noncomputable def tapOf (plan : RuntimeControlPlan) (control : RuntimeControlBinding)
    (contact : ContactId) (point : Point) (held : HeldInputs) (c : RuntimeCall) : List TouchFrame :=
  if ∃ input, UnifiedRuntime.pressedInput c = some input ∧ plan.Fires held control input then
    TouchFrame.tap contact point
  else []

/-- The frames of a tap binding over a run that starts with `held`. -/
noncomputable def tapFrames (plan : RuntimeControlPlan) (setup : RuntimeSetup)
    (layouts : List ControlLayout) (control : RuntimeControlBinding) (contact : ContactId)
    (point : Point) : HeldInputs → List RuntimeCall → List TouchFrame
  | _, [] => []
  | held, c :: cs =>
    plan.tapOf control contact point (UnifiedRuntime.heldAfterCall setup layouts held c) c ++
      plan.tapFrames setup layouts control contact point
        (UnifiedRuntime.heldAfterCall setup layouts held c) cs

end RuntimeControlPlan

namespace UnifiedRuntime

variable {I : Type} [TouchInjector I] {h : NeverFails I} {plan : RuntimeControlPlan}
  {profile : ProfileV2} {resolution : Resolution} {injector : I}
  {rt₀ rt : UnifiedRuntime (Recorder I)} {layout : ControlLayout} {contact : ContactId}
  {point : Point} {frames : List TouchFrame}

omit [TouchInjector I] in
/-- What the loop over the controls does, in terms of the plan. -/
theorem callFrames_eq (hplan : plan.Realizes profile resolution)
    (hbuilt : Built plan (Recorder.new injector) rt₀) (hl : layout ∈ rt₀.layouts)
    (haction : layout.control.action = .tap point) (hcontact : layout.pointContact = some contact)
    {held : HeldInputs} (htracked : held.Tracked rt₀.setup rt₀.layouts) (c : RuntimeCall) :
    callFrames rt₀.setup layout contact held c = plan.tapOf layout.control contact point held c := by
  have hpress : ∀ input, (∀ layer ∈ plan.layers, input ≠ .key layer.activationKey) →
      (input ∈ layout.input.inputs ∧ bindingAvailable layout.control input held = true ↔
        plan.Fires held layout.control input) := by
    intro input hnot
    rw [hbuilt.input hl]
    constructor
    · rintro ⟨hown, havailable⟩
      exact ⟨hown, hnot, (RuntimeControlPlan.bindingAvailable_iff hplan hbuilt htracked
        (hbuilt.mem hl) hown).mp havailable⟩
    · intro hfires
      exact ⟨hfires.own, (RuntimeControlPlan.bindingAvailable_iff hplan hbuilt htracked
        (hbuilt.mem hl) hfires.own).mpr hfires.reaches⟩
  have hframes : ∀ input, pressedInput c = some input →
      (∀ layer ∈ plan.layers, input ≠ .key layer.activationKey) →
      layout.pressFrames contact held input = plan.tapOf layout.control contact point held c := by
    intro input hinput hnot
    have hfires : (∃ pressed, pressedInput c = some pressed ∧
        plan.Fires held layout.control pressed) ↔ plan.Fires held layout.control input := by
      simp [hinput]
    simp only [ControlLayout.pressFrames, haction, hcontact, true_and, RuntimeControlPlan.tapOf]
    split
    · next hyes => rw [if_pos (hfires.mpr ((hpress input hnot).mp hyes))]
    · next hno => rw [if_neg fun hyes => hno ((hpress input hnot).mpr (hfires.mp hyes))]
  cases hinput : pressedInput c with
  | none => simp [callFrames, RuntimeControlPlan.tapOf, hinput]
  | some input =>
    cases input with
    | key key =>
      have hactivation := hbuilt.layerControls key
      simp only [callFrames, hinput]
      split
      · next hsome =>
        -- a layer is switched and no binding is asked
        obtain ⟨layer, hlayer, hkey⟩ := hactivation.mp hsome
        rw [RuntimeControlPlan.tapOf, if_neg]
        rintro ⟨input, hpressed, hfires⟩
        obtain rfl := Option.some.inj (hinput.symm.trans hpressed)
        exact hfires.notActivation layer hlayer (by rw [hkey])
      · next hnone =>
        refine hframes _ hinput fun layer hlayer heq => hnone (hactivation.mpr ⟨layer, hlayer, ?_⟩)
        exact (RuntimePhysicalInput.key.inj heq).symm
    | mouseButton button =>
      simp only [callFrames, hinput]
      exact hframes _ hinput fun _ _ => RuntimePhysicalInput.noConfusion

/-- A run of calls, from any state in which the contact is up. -/
theorem calls_tap (hplan : plan.Realizes profile resolution)
    (hbuilt : Built plan (Recorder.new injector) rt₀)
    (ht : TapContact rt₀.setup.cursorContact rt₀.layouts layout contact point)
    (calls : List RuntimeCall) (hr : Rests h rt₀.setup rt₀.layouts contact frames rt) :
    wp (runAll call calls) (fun _ rt' => Rests h rt₀.setup rt₀.layouts contact
        (frames ++ plan.tapFrames rt₀.setup rt₀.layouts layout.control contact point rt.held calls)
        rt') (fun _ _ => False) rt := by
  induction calls generalizing frames rt with
  | nil =>
    rw [RuntimeControlPlan.tapFrames, List.append_nil]
    exact hr
  | cons c cs ih =>
    have hshape : PointInput layout := by
      have := hbuilt.input_shape hplan ht.mem
      rwa [ht.action] at this
    rw [runAll, wp_bind]
    refine wp_mono (call_taps ht hshape c hr) ?_ fun _ _ hfalse => hfalse
    rintro _ rt₁ ⟨hrests, hheld⟩
    have htracked := hheld ▸ hrests.tracked
    rw [callFrames_eq hplan hbuilt ht.mem ht.action ht.pointContact htracked] at hrests
    have hrest := ih hrests
    rw [hheld, List.append_assoc] at hrest
    exact hrest

/-- **Every tap is one press of its input.**  Over an injector that accepts every frame no call
fails, and the contact of a tap binding goes down and up once for each press that fires the
binding; no other frame mentions it. -/
theorem taps_follow_presses (hinjector : NeverFails I)
    (hplan : RuntimeControlPlan.fromProfileV2 profile resolution = .ok plan)
    (hnew : new plan (Recorder.new injector) = .ok rt₀) (hdemand : profile.contactDemand < u16Max)
    (calls : List RuntimeCall) :
    ∃ rt, runAll call calls rt₀ = .ok () rt ∧
      ∀ layout ∈ rt₀.layouts, ∀ point, layout.control.action = .tap point →
        ∃ contact, layout.pointContact = some contact ∧ rt.engine.framesOf contact =
          plan.tapFrames rt₀.setup rt₀.layouts layout.control contact point .none calls := by
  have hreal := fromProfileV2_realizes hplan
  have hbuilt := new_built hnew
  have hids := (contactIds_nodup_iff hplan hnew).mpr hdemand
  have hinv : Invariant (.ofNeverFails (neverFails_recorder hinjector)) rt₀.setup rt₀.layouts rt₀ :=
    new_invariant hbuilt trivial
  have hcfg : Configured (.ofNeverFails (neverFails_recorder hinjector)) rt₀.setup rt₀.layouts :=
    ⟨distinct_of_nodup hids, fun _ _ _ => ⟨fun _ _ _ _ _ => trivial, fun _ _ _ _ _ _ _ _ _ => trivial⟩⟩
  obtain ⟨⟨⟩, rt, hrun, -⟩ := wp_returns (wp_mono (wp_runAll (fun c rt hI =>
      call_spec hcfg (fun _ _ _ _ _ _ _ => trivial) (fun _ _ => trivial) (fun _ _ => id)
        (fun _ _ => trivial) c hI) calls hinv) (fun _ _ hI => hI)
    fun _ _ ⟨_, _, _, _, hfailed⟩ => hfailed)
  refine ⟨rt, hrun, fun layout hl point haction => ?_⟩
  obtain ⟨cell, hcell, rfl⟩ := List.mem_map.mp hl
  obtain ⟨contact, hcontact⟩ : ∃ contact, cell.layout.pointContact = some contact := by
    cases hinv.coherent.consistent cell hcell with
    | tap point' contact action' pointContact => exact ⟨contact, pointContact⟩
    | hold _ _ action' | joystick _ _ _ action' | aim _ action' =>
      cases (show cell.action = _ from haction).symm.trans action'
  refine ⟨contact, hcontact, ?_⟩
  have ht : TapContact rt₀.setup.cursorContact rt₀.layouts cell.layout contact point :=
    ⟨distinct_of_nodup hids, hl, haction, hcontact⟩
  have hstart := rests_of_invariant hinjector ht hinv
  have hwhole := calls_tap hreal hbuilt ht calls hstart
  simp only [wp, hrun] at hwhole
  rw [hwhole.framesOf, hbuilt.held, hbuilt.engine]
  rfl

/-- A press of `c` is a jump, and with `Tab` held it is none. -/
theorem shooter_taps : ∃ plan rt₀,
    RuntimeControlPlan.fromProfileV2 shooter ⟨1280, 720⟩ = .ok plan ∧
      new plan (Recorder.new ()) = .ok rt₀ ∧
        ∃ rt, runAll call [.handleKeyboard ⟨.named .c, .pressed⟩ 0,
            .handleKeyboard ⟨.named .c, .released⟩ 1, .handleKeyboard ⟨.named .tab, .pressed⟩ 2,
            .handleKeyboard ⟨.named .c, .pressed⟩ 3] rt₀ = .ok () rt ∧
          ∀ layout ∈ rt₀.layouts, ∀ point, layout.control.action = .tap point →
            ∃ contact, layout.pointContact = some contact ∧ rt.engine.framesOf contact =
              plan.tapFrames rt₀.setup rt₀.layouts layout.control contact point .none
                [.handleKeyboard ⟨.named .c, .pressed⟩ 0,
                  .handleKeyboard ⟨.named .c, .released⟩ 1,
                  .handleKeyboard ⟨.named .tab, .pressed⟩ 2,
                  .handleKeyboard ⟨.named .c, .pressed⟩ 3] := by
  obtain ⟨rt₀, hlaunch⟩ := Option.isSome_iff_exists.mp
    (by decide +kernel : (launch shooter ⟨1280, 720⟩ (Recorder.new ())).isSome = true)
  obtain ⟨plan, hplan, hnew⟩ := exists_of_launch hlaunch
  exact ⟨plan, rt₀, hplan, hnew,
    taps_follow_presses neverFails_unit hplan hnew (by decide +kernel) _⟩

end UnifiedRuntime

end Wroid
