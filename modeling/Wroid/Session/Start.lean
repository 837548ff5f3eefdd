import Wroid.Session.Invariant

/-!
# Starting a session

What `UnifiedRuntime::new` makes of a plan: one control for each binding of the plan, with
nothing held and no contact down.  The invariant holds of it, and its tables mean what the
plan says.

## Main definitions

* `ControlCell.Built` — the control that `new` makes of a binding.
* `UnifiedRuntime.contactIds` — every contact identifier a runtime may use.
* `UnifiedRuntime.launch` — the runtime of a profile.
* `RuntimeControlPlan.Reaches` — what it takes for an input to reach a binding.

## Main results

* `new_built` — every control is built from its binding.
* `new_invariant` — **the invariant holds of a new runtime**.
* `bindingAvailable_iff` — the meaning of `binding_available` over a plan.
-/

set_option linter.constructorNameAsVariable false

namespace Wroid

open Lib

/-! ### Inputs -/

theorem parseMouseButton_eq (button : String) :
    parseMouseButton button = HostMouseButton.parse button := by
  have hlower : ∀ entry ∈ HostMouseButton.NAMES, asciiLower entry.1 = entry.1 := by decide
  simp only [parseMouseButton, HostMouseButton.parse]
  generalize asciiLower (trim rustBlank button) = name
  simp only [HostMouseButton.NAMES, List.mem_cons, List.not_mem_nil, or_false, forall_eq_or_imp,
    forall_eq] at hlower
  simp only [HostMouseButton.NAMES, List.find?_cons, List.find?_nil, hlower]
  have hne : ∀ other, ¬ name = other → (name == other) = false := fun _ h => beq_false_of_ne h
  split_ifs with h₁ h₂ h₃ h₄ h₅
  · simp [h₁]
  · simp [h₂]
  · simp [h₃]
  · simp [h₄]
  · simp [h₅]
  · simp [hne _ h₁, hne _ h₂, hne _ h₃, hne _ h₄, hne _ h₅]

/-- The inputs of a resolved control are those that the names of the profile stand for. -/
theorem ResolvedControlInput.inputs_eq {input : InputV2} {resolved : ResolvedControlInput}
    (h : fromProfile input = some resolved) : resolved.inputs = resolvedPhysicalInputs input := by
  cases input with
  | key name =>
    simp only [fromProfile, Option.map_eq_some_iff] at h
    obtain ⟨key, hkey, rfl⟩ := h
    simp [inputs, resolvedPhysicalInputs, hkey]
  | keyCluster up left down right =>
    simp only [fromProfile, Option.bind_eq_bind, Option.bind_eq_some_iff, Option.pure_def,
      Option.some.injEq] at h
    obtain ⟨u, hu, l, hl, d, hd, r, hr, rfl⟩ := h
    simp [inputs, resolvedPhysicalInputs, hu, hl, hd, hr]
  | mouseButton name =>
    simp only [fromProfile, parseMouseButton_eq, Option.map_eq_some_iff] at h
    obtain ⟨button, hbutton, rfl⟩ := h
    simp [inputs, resolvedPhysicalInputs, hbutton]
  | mouseMove =>
    simp only [fromProfile, Option.some.injEq] at h
    subst h
    rfl

/-! ### What `new` builds -/

/-- The control that `new` makes of the binding `control`. -/
structure ControlCell.Built (control : RuntimeControlBinding) (cell : ControlCell) : Prop where
  control_eq : cell.layout.control = control
  input : ResolvedControlInput.fromProfile control.input = some cell.layout.input
  pointContact : ∀ point, control.action = .tap point ∨ control.action = .hold point →
    ∃ contact, cell.layout.pointContact = some contact
  aim : ∀ aim settings, control.action = .mouseAim aim settings →
    ∃ controller, MouseAimController.new aim settings = .ok controller ∧
      cell.aimController = some controller ∧
      cell.layout.aimToggleKey = settings.toggleKey.bind HostKeyName.parse
  noAim : (∀ aim settings, control.action ≠ .mouseAim aim settings) →
    cell.aimController = none ∧ cell.layout.aimToggleKey = none
  neutral : cell.directions = .neutral
  inactive : cell.activeBinding = false

theorem buildCells_built {controls : List RuntimeControlBinding} {next next' : ContactId}
    {cells : List ControlCell} (h : buildCells controls next = .ok (cells, next')) :
    List.Forall₂ ControlCell.Built controls cells := by
  induction controls generalizing next next' cells with
  | nil =>
    simp only [buildCells, Except.ok.injEq, Prod.mk.injEq] at h
    obtain ⟨rfl, -⟩ := h
    exact .nil
  | cons control controls ih =>
    unfold buildCells at h
    cases hinput : ResolvedControlInput.fromProfile control.input with
    | none => simp [hinput, throw, throwThe, MonadExceptOf.throw] at h
    | some input =>
      cases haction : control.action with
      | tap point =>
        simp only [hinput, haction, bind_eq_ok, pure, Except.pure, Except.ok.injEq, Prod.mk.injEq,
          Prod.exists] at h
        obtain ⟨_, _, ⟨rfl, rfl⟩, cells', next'', hrest, rfl, rfl⟩ := h
        exact .cons ⟨rfl, hinput, fun _ _ => ⟨next, rfl⟩, by simp [haction], fun _ => ⟨rfl, rfl⟩,
          rfl, rfl⟩ (ih hrest)
      | hold point =>
        simp only [hinput, haction, bind_eq_ok, pure, Except.pure, Except.ok.injEq, Prod.mk.injEq,
          Prod.exists] at h
        obtain ⟨_, _, ⟨rfl, rfl⟩, cells', next'', hrest, rfl, rfl⟩ := h
        exact .cons ⟨rfl, hinput, fun _ _ => ⟨next, rfl⟩, by simp [haction], fun _ => ⟨rfl, rfl⟩,
          rfl, rfl⟩ (ih hrest)
      | virtualJoystick joystick mode interval =>
        simp only [hinput, haction, bind_eq_ok, pure, Except.pure, Except.ok.injEq, Prod.mk.injEq,
          Prod.exists] at h
        obtain ⟨_, _, ⟨rfl, rfl⟩, cells', next'', hrest, rfl, rfl⟩ := h
        exact .cons ⟨rfl, hinput, by simp [haction], by simp [haction], fun _ => ⟨rfl, rfl⟩, rfl, rfl⟩
          (ih hrest)
      | mouseAim aim settings =>
        cases hnew : MouseAimController.new aim settings with
        | error error => simp [hinput, haction, hnew, throw, throwThe, MonadExceptOf.throw] at h
        | ok controller =>
          simp only [hinput, haction, hnew, bind_eq_ok, pure, Except.pure, Except.ok.injEq,
            Prod.mk.injEq, Prod.exists] at h
          obtain ⟨_, _, ⟨rfl, rfl⟩, cells', next'', hrest, rfl, rfl⟩ := h
          refine .cons ⟨rfl, hinput, by simp [haction], ?_, by simp [haction], rfl, rfl⟩ (ih hrest)
          intro aim' settings' haction'
          obtain ⟨rfl, rfl⟩ : aim = aim' ∧ settings = settings' := by
            simpa [haction] using haction'
          exact ⟨controller, hnew, rfl, rfl⟩

/-- A new control is consistent while no contact is down. -/
theorem ControlCell.Built.consistent {control : RuntimeControlBinding} {cell : ControlCell}
    (h : ControlCell.Built control cell) :
    cell.Consistent fun _ => none := by
  have haction : cell.action = control.action := by rw [ControlCell.action, h.control_eq]
  cases hcontrol : control.action with
  | tap point =>
    obtain ⟨contact, hcontact⟩ := h.pointContact point (.inl hcontrol)
    exact .tap point contact (haction.trans hcontrol) hcontact
      (h.noAim fun _ _ => by simp [hcontrol]).1 h.inactive h.neutral rfl
  | hold point =>
    obtain ⟨contact, hcontact⟩ := h.pointContact point (.inr hcontrol)
    exact .hold point contact (haction.trans hcontrol) hcontact
      (h.noAim fun _ _ => by simp [hcontrol]).1 h.neutral (by simp [h.inactive])
  | virtualJoystick joystick mode interval =>
    exact .joystick joystick mode interval (haction.trans hcontrol)
      (h.noAim fun _ _ => by simp [hcontrol]).1 (by simp [h.inactive, h.neutral]) (by simp [h.neutral])
  | mouseAim aim settings =>
    obtain ⟨controller, hnew, hcontroller, -⟩ := h.aim aim settings hcontrol
    obtain ⟨hagrees, rfl, rfl, -⟩ := MouseAimController.new_agrees hnew
      (fun _ _ => rfl : ∀ d ∈ controller.contacts, (fun _ => none : ContactId → Option Point) d = none)
    exact .aim controller (haction.trans hcontrol) hcontroller h.inactive h.neutral hagrees

/-- The layer table holds exactly the activation keys of the layers seen so far. -/
theorem foldlM_insertLayerControl {layers : List RuntimeLayer}
    {table table' : HostKeyName → Option LayerControl}
    (h : layers.foldlM insertLayerControl table = .ok table') (key : HostKeyName) :
    (table' key).isSome = true ↔ (table key).isSome = true ∨
      ∃ layer ∈ layers, layer.activationKey = key := by
  induction layers generalizing table with
  | nil =>
    obtain rfl : table = table' := by simpa [pure, Except.pure] using h
    simp
  | cons layer layers ih =>
    rw [List.foldlM_cons, bind_eq_ok] at h
    obtain ⟨mid, hmid, hrest⟩ := h
    rw [ih hrest]
    unfold insertLayerControl at hmid
    split at hmid
    · cases hmid
    · obtain rfl := Except.ok.inj hmid
      simp only [List.mem_cons, exists_eq_or_imp, Function.update_apply]
      by_cases hkey : key = layer.activationKey
      · simp [hkey]
      · simp [hkey, Ne.symm hkey]

namespace UnifiedRuntime

variable {I : Type}

/-- Every contact identifier a runtime may use: those of its controls, and the cursor's. -/
def contactIds (rt : UnifiedRuntime I) : List ContactId :=
  rt.layouts.flatMap ControlLayout.contacts ++ [rt.setup.cursorContact]

/-- What `new` makes of a plan. -/
structure Built (plan : RuntimeControlPlan) (injector : I) (rt : UnifiedRuntime I) : Prop where
  resolution : rt.setup.resolution = plan.resolution
  modifierKeys : rt.setup.modifierKeys = plan.modifierKeys
  layerControls : ∀ key, (rt.setup.layerControls key).isSome = true ↔
    ∃ layer ∈ plan.layers, layer.activationKey = key
  engine : rt.engine = .new injector
  cells : List.Forall₂ ControlCell.Built plan.controls rt.cells
  held : rt.held = .none

theorem new_built {plan : RuntimeControlPlan} {injector : I} {rt : UnifiedRuntime I}
    (h : new plan injector = .ok rt) : Built plan injector rt := by
  simp only [new, bind_eq_ok, pure, Except.pure, Except.ok.injEq, Prod.exists] at h
  obtain ⟨cells, cursorContact, hcells, layerControls, hlayers, rfl⟩ := h
  exact ⟨rfl, rfl, fun key => by simpa using foldlM_insertLayerControl hlayers key, rfl,
    buildCells_built hcells, rfl⟩

theorem Built.layouts {plan : RuntimeControlPlan} {injector : I} {rt : UnifiedRuntime I}
    (h : Built plan injector rt) : rt.layouts.map ControlLayout.control = plan.controls := by
  have : ∀ controls cells, List.Forall₂ ControlCell.Built controls cells →
      (cells.map ControlCell.layout).map ControlLayout.control = controls := by
    intro controls cells hall
    induction hall with
    | nil => rfl
    | cons hhead _ ih => rw [List.map_cons, List.map_cons, hhead.control_eq, ih]
  exact this _ _ h.cells

theorem Built.mem {plan : RuntimeControlPlan} {injector : I} {rt : UnifiedRuntime I}
    (h : Built plan injector rt) {layout : ControlLayout} (hl : layout ∈ rt.layouts) :
    layout.control ∈ plan.controls := h.layouts ▸ List.mem_map_of_mem hl

theorem Built.input {plan : RuntimeControlPlan} {injector : I} {rt : UnifiedRuntime I}
    (h : Built plan injector rt) {layout : ControlLayout} (hl : layout ∈ rt.layouts) :
    layout.input.inputs = resolvedPhysicalInputs layout.control.input := by
  obtain ⟨cell, hcell, rfl⟩ := List.mem_map.mp hl
  obtain ⟨control, -, hbuilt⟩ := forall₂_exists_left h.cells hcell
  exact ResolvedControlInput.inputs_eq (hbuilt.control_eq ▸ hbuilt.input)

/-- Distinct identifiers make the controls independent of one another. -/
theorem distinct_of_nodup {rt : UnifiedRuntime I} (h : rt.contactIds.Nodup) :
    Distinct rt.setup.cursorContact rt.layouts := by
  obtain ⟨hflat, -, hcursor⟩ := List.nodup_append.mp h
  constructor
  · refine (List.nodup_flatMap.mp hflat).2.imp ?_
    intro l l' hdisjoint
    exact Set.disjoint_left.mpr fun c hc hc' => hdisjoint hc hc'
  · intro layout hl hc
    exact hcursor _ (List.mem_flatMap.mpr ⟨layout, hl, hc⟩) _ (List.mem_singleton.mpr rfl) rfl

/-- The runtime of a profile, when it has a plan and the plan is accepted. -/
def launch (profile : ProfileV2) (resolution : Resolution) (injector : I) :
    Option (UnifiedRuntime I) :=
  match RuntimeControlPlan.fromProfileV2 profile resolution with
  | .error _ => none
  | .ok plan => (new plan injector).toOption

theorem exists_of_launch {profile : ProfileV2} {resolution : Resolution} {injector : I}
    {rt : UnifiedRuntime I} (h : launch profile resolution injector = some rt) :
    ∃ plan, RuntimeControlPlan.fromProfileV2 profile resolution = .ok plan ∧
      new plan injector = .ok rt := by
  unfold launch at h
  split at h
  · cases h
  · next plan hplan =>
    cases hnew : new plan injector with
    | error => simp [hnew, Except.toOption] at h
    | ok rt' =>
      obtain rfl : rt' = rt := by simpa [hnew, Except.toOption] using h
      exact ⟨plan, hplan, hnew⟩

variable [TouchInjector I] {K : Contract I}

/-- **The invariant holds of a new runtime.** -/
theorem new_invariant {plan : RuntimeControlPlan} {injector : I} {rt : UnifiedRuntime I}
    (h : Built plan injector rt) (hK : K.Holds (.new injector)) :
    Invariant K rt.setup rt.layouts rt := by
  have hpos : rt.engine.state.position = fun _ => none := by
    rw [h.engine]
    funext c
    simp [TouchEngine.new]
  have hcons : ∀ cell ∈ rt.cells, cell.Consistent fun _ => none := by
    intro cell hcell
    obtain ⟨_, -, hbuilt⟩ := forall₂_exists_left h.cells hcell
    exact hbuilt.consistent
  refine ⟨⟨rfl, rfl, h.engine ▸ hK, by rwa [hpos], fun key => by simp [h.held, HeldInputs.none]⟩,
    ?_, fun cell hcell => ?_⟩
  · rw [h.held]
    exact (refreshSelectedInputLayers_none rt.layouts).symm
  obtain ⟨_, -, hbuilt⟩ := forall₂_exists_left h.cells hcell
  rw [hpos, h.held]
  exact (hcons cell hcell).settled_none hbuilt.inactive hbuilt.neutral

end UnifiedRuntime

/-! ### What it takes to reach a binding -/

/-- The tables of the held inputs are up to date. -/
structure HeldInputs.Tracked (setup : RuntimeSetup) (layouts : List ControlLayout)
    (held : HeldInputs) : Prop where
  modifiers : ∀ key, held.heldModifiers.contains key =
    (setup.modifierKeys.contains key && held.heldKeys.contains key)
  selected : held.selectedInputLayers = refreshSelectedInputLayers held.activeLayers layouts

theorem UnifiedRuntime.Invariant.tracked {I : Type} [TouchInjector I] {K : Contract I}
    {setup : RuntimeSetup} {layouts : List ControlLayout} {rt : UnifiedRuntime I}
    (h : UnifiedRuntime.Invariant K setup layouts rt) : rt.held.Tracked setup layouts :=
  ⟨h.coherent.modifiers, h.selected⟩

/-- A physical input that is held. -/
def HeldInputs.Holds (held : HeldInputs) : RuntimePhysicalInput → Prop
  | .key key => held.heldKeys.contains key = true
  | .mouseButton button => mouseButtonHeld held.heldMouseButtons button = true

namespace RuntimeControlPlan

/-- The input reaches the binding `control`. -/
structure Reaches (plan : RuntimeControlPlan) (held : HeldInputs) (control : RuntimeControlBinding)
    (input : RuntimePhysicalInput) : Prop where
  /-- Its layer is active. -/
  layer : control.layer = .BASE ∨ LayerActive held.activeLayers control.layer
  /-- Its modifier, if it has one, is held. -/
  modifier : ∀ modifier, control.modifier = some modifier → held.heldKeys.contains modifier = true
  /-- Without a modifier, no binding of its layer has the input with a held modifier. -/
  unmuted : control.modifier = none → ∀ sibling ∈ plan.controls, sibling.layer = control.layer →
    input ∈ resolvedPhysicalInputs sibling.input → ∀ modifier, sibling.modifier = some modifier →
      held.heldKeys.contains modifier = false
  /-- No higher active layer has a binding of the input. -/
  top : ∀ other ∈ plan.controls, LayerActive held.activeLayers other.layer →
    input ∈ resolvedPhysicalInputs other.input → other.layer ≤ control.layer

/-- The input is held, is no activation key, and reaches the binding. -/
structure Engages (plan : RuntimeControlPlan) (held : HeldInputs) (control : RuntimeControlBinding)
    (input : RuntimePhysicalInput) : Prop where
  pressed : held.Holds input
  notActivation : ∀ layer ∈ plan.layers, input ≠ .key layer.activationKey
  reaches : plan.Reaches held control input

variable {plan : RuntimeControlPlan} {profile : ProfileV2} {resolution : Resolution} {I : Type}
  {injector : I} {rt : UnifiedRuntime I} {held : HeldInputs}

theorem Realizes.modifierKeys_of_mem (h : plan.Realizes profile resolution)
    {control : RuntimeControlBinding} (hc : control ∈ plan.controls) {modifier : HostKeyName}
    (hm : control.modifier = some modifier) : plan.modifierKeys.contains modifier = true := by
  obtain ⟨binding, hb, hreal⟩ := forall₂_exists_left h.controls hc
  exact (h.modifierKeys modifier).mpr ⟨binding, hb, hreal.modifier ▸ hm⟩

/-- **The meaning of `binding_available`** over a plan. -/
theorem bindingAvailable_iff (hplan : plan.Realizes profile resolution)
    (hbuilt : UnifiedRuntime.Built plan injector rt) (htracked : held.Tracked rt.setup rt.layouts)
    {control : RuntimeControlBinding} (hc : control ∈ plan.controls) {input : RuntimePhysicalInput}
    (hinput : input ∈ resolvedPhysicalInputs control.input) :
    bindingAvailable control input held = true ↔ plan.Reaches held control input := by
  have hmods : ∀ c ∈ plan.controls, ∀ m, c.modifier = some m →
      held.heldModifiers.contains m = held.heldKeys.contains m := by
    intro c hc m hm
    rw [htracked.modifiers, hbuilt.modifierKeys, hplan.modifierKeys_of_mem hc hm, Bool.true_and]
  rw [bindingAvailable_eq htracked.selected, ← Bool.not_eq_true,
    hplan.suppression control hc input]
  have hclaims : (∃ layer ∈ claims held.activeLayers rt.layouts input, control.layer < layer) ↔
      ∃ other ∈ plan.controls, LayerActive held.activeLayers other.layer ∧
        input ∈ resolvedPhysicalInputs other.input ∧ control.layer < other.layer := by
    constructor
    · rintro ⟨_, ⟨hactive, layout, hl, rfl, hin⟩, hlt⟩
      exact ⟨_, hbuilt.mem hl, hactive, hbuilt.input hl ▸ hin, hlt⟩
    · rintro ⟨other, hother, hactive, hin, hlt⟩
      rw [← hbuilt.layouts] at hother
      obtain ⟨layout, hl, rfl⟩ := List.mem_map.mp hother
      exact ⟨_, ⟨hactive, layout, hl, rfl, hbuilt.input hl ▸ hin⟩, hlt⟩
  rw [hclaims]
  constructor
  · rintro ⟨hlayer, hmodifier, hsup, htop⟩
    refine ⟨hlayer, fun m hm => hmods control hc m hm ▸ hmodifier m hm, ?_, ?_⟩
    · intro hnone sibling hs hsl hsin m hm
      rw [← hmods sibling hs m hm, ← Bool.not_eq_true]
      exact fun hheld => hsup ⟨hnone, hinput, sibling, hs, hsl, hsin, m, hm, hheld⟩
    · intro other hother hactive hin
      by_contra hlt
      exact htop ⟨other, hother, hactive, hin, not_le.mp hlt⟩
  · rintro ⟨hlayer, hmodifier, hunmuted, htop⟩
    refine ⟨hlayer, fun m hm => (hmods control hc m hm).trans (hmodifier m hm), ?_, ?_⟩
    · rintro ⟨hnone, -, sibling, hs, hsl, hsin, m, hm, hheld⟩
      rw [hmods sibling hs m hm, hunmuted hnone sibling hs hsl hsin m hm] at hheld
      cases hheld
    · rintro ⟨other, hother, hactive, hin, hlt⟩
      exact absurd (htop other hother hactive hin) (not_le.mpr hlt)

/-- A key is wanted by a binding when it engages it. -/
theorem keyWanted_iff (hplan : plan.Realizes profile resolution)
    (hbuilt : UnifiedRuntime.Built plan injector rt) (htracked : held.Tracked rt.setup rt.layouts)
    {control : RuntimeControlBinding} (hc : control ∈ plan.controls) {key : HostKeyName}
    (hkey : .key key ∈ resolvedPhysicalInputs control.input) :
    ControlCell.keyWanted rt.setup held control key = true ↔
      plan.Engages held control (.key key) := by
  have hactivation : (rt.setup.layerControls key).isNone = true ↔
      ∀ layer ∈ plan.layers, RuntimePhysicalInput.key key ≠ .key layer.activationKey := by
    rw [← Option.not_isSome, Bool.not_eq_true', ← Bool.not_eq_true, hbuilt.layerControls]
    simp [eq_comm]
  rw [ControlCell.keyWanted, Bool.and_eq_true, Bool.and_eq_true, hactivation,
    bindingAvailable_iff hplan hbuilt htracked hc hkey]
  constructor
  · rintro ⟨⟨hnot, hheld⟩, hreach⟩
    exact ⟨hheld, hnot, hreach⟩
  · rintro ⟨hheld, hnot, hreach⟩
    exact ⟨⟨hnot, hheld⟩, hreach⟩

/-- A mouse button is wanted by a binding when it engages it. -/
theorem buttonWanted_iff (hplan : plan.Realizes profile resolution)
    (hbuilt : UnifiedRuntime.Built plan injector rt) (htracked : held.Tracked rt.setup rt.layouts)
    {control : RuntimeControlBinding} (hc : control ∈ plan.controls) {button : HostMouseButton}
    (hbutton : .mouseButton button ∈ resolvedPhysicalInputs control.input) :
    ControlCell.buttonWanted held control button = true ↔
      plan.Engages held control (.mouseButton button) := by
  rw [ControlCell.buttonWanted, Bool.and_eq_true,
    bindingAvailable_iff hplan hbuilt htracked hc hbutton]
  constructor
  · rintro ⟨hheld, hreach⟩
    exact ⟨hheld, fun _ _ => by simp, hreach⟩
  · rintro ⟨hheld, -, hreach⟩
    exact ⟨hheld, hreach⟩

end RuntimeControlPlan

end Wroid
