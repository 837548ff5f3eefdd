import Wroid.Session.Start

/-!
# The contacts follow the inputs

Over an injector that accepts every frame, no call of the runtime fails, and between calls
the contacts that are down are exactly those the held inputs ask for.

## Main definitions

* `RuntimeCall` — the calls a session makes.
* `RuntimeControlPlan.ContactsFollow` — hold bindings, hold joysticks and taps are where the
  held inputs put them.

## Main results

* `UnifiedRuntime.call_spec` — every call keeps the invariant.
* `contacts_follow_inputs` — **after any sequence of calls the contacts follow the inputs**.
-/

set_option linter.constructorNameAsVariable false

namespace Wroid

open Lib

/-! ### Calls -/

/-- A call on the runtime, with the time it is made at. -/
inductive RuntimeCall
  | start (now : ℕ)
  | handleKeyboard (event : HostKeyEvent) (now : ℕ)
  | handleMouse (event : MouseEvent) (now : ℕ)
  | tick (now : ℕ)
  | releaseMouseButtons (now : ℕ)
  | restoreAim (reactivateToggleAim : Bool) (now : ℕ)
  | setAimEnabled (enabled : Bool) (now : ℕ)
  | cursorDown (position : Point)
  | cursorMove (position : Point)
  | cursorUp
  | suspend

/-- A call that handles host input, keeps time or switches the aim: none that touches the
cursor or suspends the session. -/
def RuntimeCall.IsInput : RuntimeCall → Prop
  | .cursorDown _ | .cursorMove _ | .cursorUp | .suspend => False
  | _ => True

instance (c : RuntimeCall) : Decidable c.IsInput := by
  cases c <;> unfold RuntimeCall.IsInput <;> infer_instance

namespace UnifiedRuntime

variable {I : Type} [TouchInjector I]

/-- Make a call; the answers of `handleKeyboard` and `handleMouse` are not looked at. -/
def call : RuntimeCall → RuntimeM I Unit
  | .start now => start now
  | .handleKeyboard event now => do
    let _ ← handleKeyboard event now
  | .handleMouse event now => do
    let _ ← handleMouse event now
  | .tick now => tick now
  | .releaseMouseButtons now => releaseMouseButtons now
  | .restoreAim reactivateToggleAim now => restoreAim reactivateToggleAim now
  | .setAimEnabled enabled now => setAimEnabled enabled now
  | .cursorDown position => cursorDown position
  | .cursorMove position => cursorMove position
  | .cursorUp => cursorUp
  | .suspend => suspend

variable {K : Contract I} {setup : RuntimeSetup} {layouts : List ControlLayout}
  {rt : UnifiedRuntime I}

/-- Such a call keeps the invariant over any injector. -/
theorem input_spec (hcfg : Configured K setup layouts)
    (htaps : ∀ layout ∈ layouts, K.AllowsTap layout) (c : RuntimeCall) (hc : c.IsInput)
    (h : Invariant K setup layouts rt) :
    wp (call c) (fun _ rt' => Invariant K setup layouts rt') (fun e rt' => K.Stops e rt'.engine)
      rt := by
  have hstepped : ∀ {α : Type} {m : RuntimeM I α} {held : HeldInputs},
      wp m (fun _ rt' => Stepped K setup layouts rt held rt') (fun e rt' => K.Stops e rt'.engine) rt →
      wp m (fun _ rt' => Invariant K setup layouts rt') (fun e rt' => K.Stops e rt'.engine) rt :=
    fun hm => wp_mono hm (fun _ _ hs => hs.invariant) fun _ _ h => h
  cases c with
  | start now => exact hstepped (start_spec now hcfg h)
  | handleKeyboard event now =>
    simp only [call, wp_bind, wp_pure]
    exact hstepped (handleKeyboard_spec event now hcfg htaps h)
  | handleMouse event now =>
    simp only [call, wp_bind, wp_pure]
    exact hstepped (handleMouse_spec event now hcfg htaps h)
  | tick now => exact hstepped (tick_spec now hcfg h)
  | releaseMouseButtons now => exact hstepped (releaseMouseButtons_spec now hcfg h)
  | restoreAim reactivate now => exact hstepped (restoreAim_spec reactivate now hcfg h)
  | setAimEnabled enabled now => exact hstepped (setAimEnabled_spec enabled now hcfg h)
  | cursorDown | cursorMove | cursorUp | suspend => exact hc.elim

/-- **Every call keeps the invariant**, when nothing can go wrong. -/
theorem call_spec (hcfg : Configured K setup layouts)
    (htaps : ∀ layout ∈ layouts, K.AllowsTap layout)
    (hcursor : ∀ p, K.AllowsAt setup.cursorContact p) (hfail : ∀ st e, ¬ K.Failed st e)
    (hcancel : ∀ eng, K.Holds eng → K.Allowed (TouchEngine.cancelFrame eng.state))
    (c : RuntimeCall) (h : Invariant K setup layouts rt) :
    wp (call c) (fun _ rt' => Invariant K setup layouts rt') (fun e rt' => K.Stops e rt'.engine)
      rt := by
  cases c with
  | cursorDown position =>
    exact wp_mono (cursorDown_spec position hcfg (hcursor position) h)
      (fun _ _ hs => hs.invariant) fun _ _ h => h
  | cursorMove position =>
    exact wp_mono (cursorMove_spec position hcfg (hcursor position) h)
      (fun _ _ ⟨_, hs, _⟩ => hs.invariant) fun _ _ h => h
  | cursorUp =>
    exact wp_mono (cursorUp_spec hcfg hcursor h) (fun _ _ hs => hs.invariant) fun _ _ h => h
  | suspend =>
    exact wp_mono (suspend_spec hfail hcancel hcfg h) (fun _ _ hs => hs.1) fun _ _ h => h
  | start | handleKeyboard | handleMouse | tick | releaseMouseButtons | restoreAim | setAimEnabled =>
    exact input_spec hcfg htaps _ trivial h

end UnifiedRuntime

/-! ### The law -/

/-- The input of a control fits its action. -/
theorem BindingV2.RealizedBy.input_shape {layers : List LayerV2} {resolution : Resolution}
    {binding : BindingV2} {control : RuntimeControlBinding}
    (h : binding.RealizedBy layers resolution control)
    (hfits : requiredInput binding.input binding.action = none) :
    match control.action with
    | .tap _ | .hold _ =>
      (∃ name, control.input = .key name) ∨ ∃ name, control.input = .mouseButton name
    | .virtualJoystick .. => ∃ up left down right, control.input = .keyCluster up left down right
    | .mouseAim .. => control.input = .mouseMove := by
  obtain ⟨next, next', haction⟩ := h.action
  have haction := materializeAction_ok haction
  rw [h.input]
  cases hb : binding.action with
  | tap point | hold point =>
    rw [hb] at haction
    rw [haction.1]
    cases hi : binding.input <;> simp_all [requiredInput]
  | virtualJoystick center radius deadZone mode reaffirm =>
    rw [hb] at haction
    obtain ⟨joystick, -, haction, -⟩ := haction
    rw [haction]
    cases hi : binding.input <;> simp_all [requiredInput]
  | mouseAim region sensitivity toggleKey threshold gap ads reaffirm =>
    rw [hb] at haction
    obtain ⟨_, _, _, aim, settings, -, haction, -⟩ := haction
    rw [haction]
    cases hi : binding.input <;> simp_all [requiredInput]
  | macroSteps steps =>
    rw [hb] at haction
    exact haction.elim

/-- The contacts of hold bindings, hold joysticks and taps are where the held inputs put
them. -/
structure RuntimeControlPlan.ContactsFollow {I : Type} (plan : RuntimeControlPlan)
    (rt : UnifiedRuntime I) : Prop where
  controls : rt.layouts.map ControlLayout.control = plan.controls
  /-- A hold binding is down exactly while an input of it engages it. -/
  hold : ∀ layout ∈ rt.layouts, ∀ point, layout.control.action = .hold point →
    ∃ contact, layout.pointContact = some contact ∧ (rt.engine.state.isActive contact = true ↔
      ∃ input ∈ resolvedPhysicalInputs layout.control.input,
        plan.Engages rt.held layout.control input)
  /-- A hold joystick is at the target of the directions whose keys engage it. -/
  joystick : ∀ layout ∈ rt.layouts, ∀ joystick interval,
    layout.control.action = .virtualJoystick joystick .hold interval →
    ∃ up left down right, ∃ directions : DirectionalInput,
      resolvedPhysicalInputs layout.control.input = [.key up, .key left, .key down, .key right] ∧
      (directions.up = true ↔ plan.Engages rt.held layout.control (.key up)) ∧
      (directions.left = true ↔ plan.Engages rt.held layout.control (.key left)) ∧
      (directions.down = true ↔ plan.Engages rt.held layout.control (.key down)) ∧
      (directions.right = true ↔ plan.Engages rt.held layout.control (.key right)) ∧
      rt.engine.state.position joystick.contactId = joystick.target directions ∧
      (directions.horizontal = 0 → directions.vertical = 0 →
        rt.engine.state.isActive joystick.contactId = false)
  /-- A tap is never down. -/
  tap : ∀ layout ∈ rt.layouts, ∀ point, layout.control.action = .tap point →
    ∃ contact, layout.pointContact = some contact ∧ rt.engine.state.isActive contact = false

namespace UnifiedRuntime

variable {I : Type} [TouchInjector I] {K : Contract I} {plan : RuntimeControlPlan}
  {profile : ProfileV2} {resolution : Resolution} {injector : I} {rt₀ rt : UnifiedRuntime I}

omit [TouchInjector I] in
/-- The input of a control fits its action. -/
theorem Built.input_shape (hplan : plan.Realizes profile resolution) (hbuilt : Built plan injector rt₀)
    {layout : ControlLayout} (hl : layout ∈ rt₀.layouts) :
    match layout.control.action with
    | .tap _ | .hold _ => (∃ key, layout.input = .key key) ∨ ∃ button, layout.input = .mouseButton button
    | .virtualJoystick .. => ∃ up left down right, layout.input = .keyCluster up left down right
    | .mouseAim .. => layout.input = .mouseMove := by
  obtain ⟨cell, hcell, rfl⟩ := List.mem_map.mp hl
  obtain ⟨control, hcontrol, hcellb⟩ := forall₂_exists_left hbuilt.cells hcell
  obtain ⟨binding, hb, hreal⟩ := forall₂_exists_left hplan.controls hcontrol
  have hshape := hreal.input_shape (hplan.accepted.bindings binding hb).compatible
  have hinput := hcellb.input
  rw [hcellb.control_eq]
  cases haction : control.action with
  | tap point | hold point =>
    rw [haction] at hshape
    rcases hshape with ⟨name, hname⟩ | ⟨name, hname⟩ <;>
      simp only [hname, ResolvedControlInput.fromProfile, Option.map_eq_some_iff] at hinput
    · obtain ⟨key, -, hkey⟩ := hinput
      exact .inl ⟨key, hkey.symm⟩
    · obtain ⟨button, -, hbutton⟩ := hinput
      exact .inr ⟨button, hbutton.symm⟩
  | virtualJoystick joystick mode interval =>
    rw [haction] at hshape
    obtain ⟨up, left, down, right, hname⟩ := hshape
    simp only [hname, ResolvedControlInput.fromProfile, Option.bind_eq_bind,
      Option.bind_eq_some_iff, Option.pure_def, Option.some.injEq] at hinput
    obtain ⟨u, -, l, -, d, -, r, -, heq⟩ := hinput
    exact ⟨u, l, d, r, heq.symm⟩
  | mouseAim aim settings =>
    rw [haction] at hshape
    simp only [show control.input = .mouseMove from hshape, ResolvedControlInput.fromProfile,
      Option.some.injEq] at hinput
    exact hinput.symm

/-- While the invariant holds, the contacts follow the inputs. -/
theorem Invariant.contactsFollow (hplan : plan.Realizes profile resolution)
    (hbuilt : Built plan injector rt₀) (h : Invariant K rt₀.setup rt₀.layouts rt) :
    plan.ContactsFollow rt := by
  have hmem : ∀ {layout}, layout ∈ rt.layouts → layout ∈ rt₀.layouts := fun hl =>
    h.coherent.layouts_eq ▸ hl
  have hkey : ∀ {layout key}, layout ∈ rt.layouts → .key key ∈ layout.input.inputs →
      (ControlCell.keyWanted rt₀.setup rt.held layout.control key = true ↔
        plan.Engages rt.held layout.control (.key key)) := fun hl hin =>
    RuntimeControlPlan.keyWanted_iff hplan hbuilt h.tracked (hbuilt.mem (hmem hl))
      (hbuilt.input (hmem hl) ▸ hin)
  refine ⟨h.coherent.layouts_eq ▸ hbuilt.layouts, ?_, ?_, ?_⟩
  · intro layout hl point haction
    have hshape := hbuilt.input_shape hplan (hmem hl)
    have hinputs := hbuilt.input (hmem hl)
    obtain ⟨cell, hcell, rfl⟩ := List.mem_map.mp hl
    have hsettled := h.settled cell hcell
    obtain ⟨contact, hcontact, -, -, place⟩ := hsettled.consistent.hold_fields haction
    refine ⟨contact, hcontact, ?_⟩
    have hactive : rt.engine.state.isActive contact = cell.activeBinding := by
      rw [TouchState.isActive_eq, place]
      cases cell.activeBinding <;> rfl
    rw [hactive, hsettled.binding, ← hinputs]
    rw [haction] at hshape
    rcases hshape with ⟨key, hinput⟩ | ⟨button, hinput⟩
    · rw [ControlCell.wantedBinding, haction, hinput]
      simp only [ResolvedControlInput.inputs, List.mem_singleton, exists_eq_left]
      exact hkey hl (by simp [hinput, ResolvedControlInput.inputs])
    · rw [ControlCell.wantedBinding, haction, hinput]
      simp only [ResolvedControlInput.inputs, List.mem_singleton, exists_eq_left]
      exact RuntimeControlPlan.buttonWanted_iff hplan hbuilt h.tracked (hbuilt.mem (hmem hl))
        (by simp [← hinputs, hinput, ResolvedControlInput.inputs])
  · intro layout hl joystick interval haction
    have hshape := hbuilt.input_shape hplan (hmem hl)
    have hinputs := hbuilt.input (hmem hl)
    obtain ⟨cell, hcell, rfl⟩ := List.mem_map.mp hl
    have hsettled := h.settled cell hcell
    obtain ⟨-, -, place⟩ := hsettled.consistent.joystick_fields haction
    rw [haction] at hshape
    obtain ⟨up, left, down, right, hinput⟩ := hshape
    rw [hinput] at hinputs
    have hin : ∀ key ∈ [up, left, down, right], .key key ∈ cell.layout.input.inputs := by
      simp [hinput, ResolvedControlInput.inputs]
    have hdirections := hsettled.directions
    rw [ControlCell.wantedDirections, haction, hinput] at hdirections
    refine ⟨up, left, down, right, cell.directions, hinputs.symm, ?_, ?_, ?_, ?_, place, ?_⟩
    · rw [← hkey hl (hin up (by simp)), hdirections]
    · rw [← hkey hl (hin left (by simp)), hdirections]
    · rw [← hkey hl (hin down (by simp)), hdirections]
    · rw [← hkey hl (hin right (by simp)), hdirections]
    · intro hh hv
      simp [TouchState.isActive_eq, place, VirtualJoystick.target, hh, hv]
  · intro layout hl point haction
    obtain ⟨cell, hcell, rfl⟩ := List.mem_map.mp hl
    cases (h.settled cell hcell).consistent with
    | tap point' contact action pointContact controller inactive neutral up =>
      exact ⟨contact, pointContact, by simp [TouchState.isActive_eq, up]⟩
    | hold _ _ action | joystick _ _ _ action | aim _ action =>
      cases (show cell.action = _ from haction).symm.trans action

/-- **After any sequence of calls the contacts follow the inputs**, and no call fails: the
plan comes from a profile, its contact identifiers are distinct, and the injector accepts
every frame. -/
theorem contacts_follow_inputs (hinjector : NeverFails I)
    (hplan : RuntimeControlPlan.fromProfileV2 profile resolution = .ok plan)
    (hnew : new plan injector = .ok rt₀) (hids : rt₀.contactIds.Nodup) (calls : List RuntimeCall) :
    ∃ rt, runAll call calls rt₀ = .ok () rt ∧ rt.layouts = rt₀.layouts ∧ plan.ContactsFollow rt := by
  have hplan := fromProfileV2_realizes hplan
  have hbuilt := new_built hnew
  have hallows : ∀ frame, (Contract.ofNeverFails hinjector).Allowed frame := fun _ => trivial
  have hcfg : Configured (.ofNeverFails hinjector) rt₀.setup rt₀.layouts :=
    ⟨distinct_of_nodup hids, fun _ _ _ => ⟨fun _ _ _ _ _ => trivial, fun _ _ _ _ _ _ _ _ _ => trivial⟩⟩
  obtain ⟨⟨⟩, rt, hrun, hI⟩ := wp_returns (wp_mono (wp_runAll (fun c rt hI =>
      call_spec hcfg (fun _ _ _ _ _ _ _ => trivial) (fun _ _ => trivial) (fun _ _ => id)
        (fun _ _ => trivial) c hI) calls (new_invariant hbuilt trivial)) (fun _ _ h => h)
    fun _ _ ⟨_, _, _, _, hfailed⟩ => hfailed)
  exact ⟨rt, hrun, hI.coherent.layouts_eq, hI.contactsFollow hplan hbuilt⟩

/-- A joystick, a fire button with a modified variant, and a layer that takes a key over. -/
def shooter : ProfileV2 where
  schemaVersion := 2
  name := "shooter"
  packageName := "com.example.shooter"
  layers := [⟨"drive", .hold "Tab"⟩]
  bindings :=
    [⟨"move", none, none, .keyCluster "w" "a" "s" "d", .virtualJoystick ⟨1/5, 7/10⟩ (1/10) 0 .hold none⟩,
      ⟨"fire", none, none, .mouseButton "left", .hold ⟨4/5, 1/2⟩⟩,
      ⟨"crouch", none, some "shift", .key "c", .hold ⟨9/10, 4/5⟩⟩,
      ⟨"jump", none, none, .key "c", .tap ⟨9/10, 7/10⟩⟩,
      ⟨"brake", some "drive", none, .key "c", .hold ⟨1/2, 1/2⟩⟩]

theorem shooter_contacts_follow : ∃ plan rt₀,
    RuntimeControlPlan.fromProfileV2 shooter ⟨1280, 720⟩ = .ok plan ∧ new plan () = .ok rt₀ ∧
      ∃ rt, runAll call [.handleKeyboard ⟨.named .w, .pressed⟩ 0,
          .handleKeyboard ⟨.named .tab, .pressed⟩ 1, .handleKeyboard ⟨.named .c, .pressed⟩ 2] rt₀ =
        .ok () rt ∧ rt.layouts = rt₀.layouts ∧ plan.ContactsFollow rt := by
  obtain ⟨rt₀, hlaunch, hids⟩ := (Option.any_eq_true _ _).mp (by decide +kernel :
    (launch shooter ⟨1280, 720⟩ ()).any (fun rt => decide rt.contactIds.Nodup) = true)
  obtain ⟨plan, hplan, hnew⟩ := exists_of_launch hlaunch
  exact ⟨plan, rt₀, hplan, hnew,
    contacts_follow_inputs neverFails_unit hplan hnew (of_decide_eq_true hids) _⟩

end UnifiedRuntime

end Wroid
