import Wroid.Runtime.PlanSafety
import Wroid.Session.Contacts

/-!
# Contact identifiers

The plan of a profile counts contact identifiers up from one, for joysticks and aims; the
runtime goes on counting, for taps, holds and at last the cursor.  Both counters saturate at
the largest identifier.

## Main definitions

* `ActionV2.contactDemand` — how many identifiers an action needs in all.
* `takenContacts` — the identifiers a counter hands out.
* `crowd` — a profile with any number of aims.

## Main results

* `contactIds_perm` — the identifiers of a runtime are those of one counter.
* `contactIds_nodup_iff` — **they are distinct exactly if the counter does not saturate**.
* `crowded_shares_contact` — an accepted profile with two controls on one identifier.
* `new_ok_iff` — a plan is accepted exactly if no aim has one identifier twice.
-/

namespace Wroid

open Lib

/-! ### Counters -/

/-- The `count` identifiers a saturating counter hands out, starting with `next`. -/
def takenContacts (next count : ℕ) : List ContactId :=
  (List.range count).map fun i => min (next + i) u16Max

theorem takenContacts_add (next a b : ℕ) :
    takenContacts next (a + b) = takenContacts next a ++ takenContacts (next + a) b := by
  simp [takenContacts, List.range_add, Nat.add_assoc]

/-- A counter that has saturated goes on as if it had not. -/
theorem takenContacts_min (next count : ℕ) :
    takenContacts (min next u16Max) count = takenContacts next count := by
  refine List.map_congr_left fun i _ => (?_ : (_ : ℕ) = _)
  omega

theorem min_add_min (next a b : ℕ) :
    min (min (next + a) u16Max + b) u16Max = min (next + (a + b)) u16Max := by
  omega

theorem saturatingSucc_ne {next : ℕ} (h : next ≤ u16Max) :
    saturatingSucc next ≠ next ↔ next < u16Max := by
  unfold saturatingSucc
  omega

theorem takenContacts_one (next : ℕ) : takenContacts next 1 = [min next u16Max] := rfl

theorem takenContacts_two (next : ℕ) :
    takenContacts next 2 = [min next u16Max, min (next + 1) u16Max] := rfl

/-- Identifiers counted up from one are distinct until the counter saturates. -/
theorem takenContacts_nodup {count : ℕ} : (takenContacts 1 count).Nodup ↔ count ≤ u16Max := by
  constructor
  · intro h
    by_contra hlarge
    have hinj := List.inj_on_of_nodup_map h (x := u16Max - 1) (y := u16Max)
      (List.mem_range.mpr (by omega)) (List.mem_range.mpr (by omega))
    have := hinj (by simp [u16Max])
    simp [u16Max] at this
  · intro h
    refine (List.nodup_range).map_on fun (i : ℕ) hi (j : ℕ) hj heq => ?_
    rw [List.mem_range] at hi hj
    have hleft : min (1 + i) u16Max = 1 + i := by omega
    have hright : min (1 + j) u16Max = 1 + j := by omega
    exact Nat.add_left_cancel (hleft.symm.trans (heq.trans hright))

theorem foldl_max_takenContacts (count : ℕ) :
    (takenContacts 1 count).foldl max 0 = min count u16Max := by
  induction count with
  | zero => rfl
  | succ count ih =>
    rw [takenContacts_add, List.foldl_append, ih, takenContacts_one]
    change max (min count u16Max) (min (1 + count) u16Max) = min (count + 1) u16Max
    omega

/-- How many contact identifiers the plan gives to an action. -/
def ActionV2.planContacts : ActionV2 → ℕ
  | .tap _ | .hold _ | .macroSteps _ => 0
  | .virtualJoystick .. => 1
  | .mouseAim .. => 2

/-- How many contact identifiers an action needs in all. -/
def ActionV2.contactDemand : ActionV2 → ℕ
  | .tap _ | .hold _ | .virtualJoystick .. => 1
  | .mouseAim .. => 2
  | .macroSteps _ => 0

/-- The identifiers the bindings of a profile need in all. -/
def ProfileV2.contactDemand (profile : ProfileV2) : ℕ :=
  (profile.bindings.map fun binding => binding.action.contactDemand).sum

/-! ### Identifiers of a plan -/

theorem materializeAction_contacts {binding : BindingV2} {resolution : Resolution}
    {next next' : ContactId} {action : RuntimeControlAction} (hnext : next ≤ u16Max)
    (h : materializeAction binding resolution next = .ok (action, next')) :
    action.ownContacts = takenContacts next binding.action.planContacts ∧
      next' = min (next + binding.action.planContacts) u16Max := by
  have h := materializeAction_ok h
  cases hb : binding.action with
  | tap point | hold point =>
    rw [hb] at h
    obtain ⟨rfl, rfl⟩ := h
    exact ⟨rfl, by simp [ActionV2.planContacts, hnext]⟩
  | virtualJoystick center radius deadZone mode reaffirmMs =>
    rw [hb] at h
    obtain ⟨joystick, hjoystick, rfl, rfl⟩ := h
    have hid : joystick.contactId = next := VirtualJoystick.fromProfileV2Geometry_contactId hjoystick
    simp only [RuntimeControlAction.ownContacts, ActionV2.planContacts, takenContacts_one, hid,
      saturatingSucc, min_eq_left hnext, and_self]
  | mouseAim region sensitivity toggleKey threshold gap ads reaffirmMs =>
    rw [hb] at h
    obtain ⟨_, _, _, aim, settings, haim, rfl, halternate, -, -, -, rfl⟩ := h
    have hid : aim.contactId = next := MouseAim.new_contactId haim
    have htwo : min (min (next + 1) u16Max + 1) u16Max = min (next + 2) u16Max :=
      min_add_min next 1 1
    simp only [RuntimeControlAction.ownContacts, ActionV2.planContacts, takenContacts_two, hid,
      halternate, saturatingSucc, min_eq_left hnext, htwo, and_self]
  | macroSteps steps =>
    rw [hb] at h
    exact h.elim

/-- The plan hands out the identifiers from the next free one on, in the order of the bindings. -/
theorem materializeControls_contacts {resolution : Resolution}
    {siblings rest : List (BindingV2 × LayerId)} {next : ContactId}
    {controls : List RuntimeControlBinding} (hnext : next ≤ u16Max)
    (h : materializeControls resolution siblings rest next = .ok controls) :
    controls.flatMap (fun control => control.action.ownContacts) =
      takenContacts next (rest.map fun entry => entry.1.action.planContacts).sum := by
  induction rest generalizing next controls with
  | nil =>
    obtain rfl : [] = controls := by simpa [materializeControls] using h
    rfl
  | cons entry rest ih =>
    obtain ⟨binding, layer⟩ := entry
    simp only [materializeControls, bind_eq_ok, pure, Except.pure, Except.ok.injEq] at h
    obtain ⟨⟨action, next'⟩, haction, suppression, -, controls', hrest, rfl⟩ := h
    obtain ⟨hown, rfl⟩ := materializeAction_contacts hnext haction
    rw [List.flatMap_cons, ih (min_le_right _ _) hrest, takenContacts_min, hown, List.map_cons,
      List.sum_cons, takenContacts_add]

/-- How many contact identifiers the plan of a profile gives out. -/
def ProfileV2.planContacts (profile : ProfileV2) : ℕ :=
  (profile.bindings.map fun binding => binding.action.planContacts).sum

/-- The controls of a plan are made of all the bindings, beginning with the identifier one. -/
theorem fromProfileV2_controls {profile : ProfileV2} {resolution : Resolution}
    {plan : RuntimeControlPlan}
    (h : RuntimeControlPlan.fromProfileV2 profile resolution = .ok plan) :
    ∃ entries, entries.map Prod.fst = profile.bindings ∧
      materializeControls resolution entries entries 1 = .ok plan.controls := by
  simp only [RuntimeControlPlan.fromProfileV2, bind_eq_ok, orStop_eq_ok, pure, Except.pure,
    Except.ok.injEq] at h
  obtain ⟨ids, hids, ⟨⟩, -, -, -, -, -, controls, hcontrols, rfl⟩ := h
  exact ⟨_, List.map_fst_zip (mapM_eq_ok.mp hids).length_eq.le, hcontrols⟩

theorem fromProfileV2_contacts {profile : ProfileV2} {resolution : Resolution}
    {plan : RuntimeControlPlan}
    (h : RuntimeControlPlan.fromProfileV2 profile resolution = .ok plan) :
    plan.controls.flatMap (fun control => control.action.ownContacts) =
      takenContacts 1 profile.planContacts := by
  obtain ⟨entries, hentries, hcontrols⟩ := fromProfileV2_controls h
  rw [materializeControls_contacts (by simp [u16Max]) hcontrols, ProfileV2.planContacts, ← hentries,
    List.map_map]
  rfl

/-! ### Identifiers of a runtime -/

/-- How many contact identifiers the runtime gives to a control. -/
def RuntimeControlAction.pointContacts : RuntimeControlAction → ℕ
  | .tap _ | .hold _ => 1
  | .virtualJoystick .. | .mouseAim .. => 0

/-- A control owns what the plan gave it and what the runtime gave it. -/
def ControlLayout.Numbered (layout : ControlLayout) : Prop :=
  layout.pointContact.toList.length = layout.control.action.pointContacts

theorem ControlLayout.Numbered.contacts {layout : ControlLayout} (h : layout.Numbered) :
    layout.contacts = layout.control.action.ownContacts ++ layout.pointContact.toList := by
  unfold Numbered at h
  unfold ControlLayout.contacts
  cases haction : layout.control.action with
  | tap point | hold point => rfl
  | virtualJoystick joystick mode interval | mouseAim aim settings =>
    rw [haction] at h
    rw [List.eq_nil_of_length_eq_zero h, List.append_nil]
    rfl

/-- The runtime hands out the identifiers from the next free one on. -/
theorem buildCells_contacts {controls : List RuntimeControlBinding} {next next' : ContactId}
    {cells : List ControlCell} (hnext : next ≤ u16Max)
    (h : buildCells controls next = .ok (cells, next')) :
    (∀ cell ∈ cells, cell.layout.Numbered) ∧
    cells.flatMap (fun cell => cell.layout.pointContact.toList) =
      takenContacts next (controls.map fun control => control.action.pointContacts).sum ∧
    next' = min (next + (controls.map fun control => control.action.pointContacts).sum) u16Max := by
  induction controls generalizing next next' cells with
  | nil =>
    simp only [buildCells, Except.ok.injEq, Prod.mk.injEq] at h
    obtain ⟨rfl, rfl⟩ := h
    exact ⟨by simp, rfl, by simp [hnext]⟩
  | cons control controls ih =>
    unfold buildCells at h
    cases hinput : ResolvedControlInput.fromProfile control.input with
    | none => simp [hinput, throw, throwThe, MonadExceptOf.throw] at h
    | some input =>
      -- the identifiers of this control and of the others, from either branch of the loop
      have hcons : ∀ (cell : ControlCell) (cells' : List ControlCell) (mid : ContactId),
          cell.layout.control = control →
          cell.layout.pointContact.toList = takenContacts next control.action.pointContacts →
          mid = min (next + control.action.pointContacts) u16Max →
          buildCells controls mid = .ok (cells', next') →
          (∀ c ∈ cell :: cells', c.layout.Numbered) ∧
          (cell :: cells').flatMap (fun c => c.layout.pointContact.toList) =
            takenContacts next ((control :: controls).map fun c => c.action.pointContacts).sum ∧
          next' = min (next + ((control :: controls).map fun c => c.action.pointContacts).sum)
            u16Max := by
        rintro cell cells' mid rfl hpoint rfl hrest
        obtain ⟨hnumbered, hflat, rfl⟩ := ih (min_le_right _ _) hrest
        refine ⟨List.forall_mem_cons.mpr ⟨?_, hnumbered⟩, ?_, ?_⟩
        · rw [ControlLayout.Numbered, hpoint, takenContacts, List.length_map, List.length_range]
        · rw [List.flatMap_cons, hflat, takenContacts_min, hpoint, List.map_cons, List.sum_cons,
            takenContacts_add]
        · rw [List.map_cons, List.sum_cons]
          exact min_add_min next _ _
      cases haction : control.action with
      | tap point | hold point =>
        simp only [hinput, haction, bind_eq_ok, pure, Except.pure, Except.ok.injEq, Prod.mk.injEq,
          Prod.exists] at h
        obtain ⟨_, _, ⟨rfl, rfl⟩, cells', next'', hrest, rfl, rfl⟩ := h
        refine hcons _ cells' _ rfl ?_ ?_ hrest
        · simp [haction, RuntimeControlAction.pointContacts, takenContacts_one, hnext]
        · simp [haction, RuntimeControlAction.pointContacts, saturatingSucc]
      | virtualJoystick joystick mode interval =>
        simp only [hinput, haction, bind_eq_ok, pure, Except.pure, Except.ok.injEq, Prod.mk.injEq,
          Prod.exists] at h
        obtain ⟨_, _, ⟨rfl, rfl⟩, cells', next'', hrest, rfl, rfl⟩ := h
        refine hcons _ cells' _ rfl ?_ ?_ hrest
        · simp [haction, RuntimeControlAction.pointContacts, takenContacts]
        · simp [haction, RuntimeControlAction.pointContacts, hnext]
      | mouseAim aim settings =>
        cases hnew : MouseAimController.new aim settings with
        | error error => simp [hinput, haction, hnew, throw, throwThe, MonadExceptOf.throw] at h
        | ok controller =>
          simp only [hinput, haction, hnew, bind_eq_ok, pure, Except.pure, Except.ok.injEq,
            Prod.mk.injEq, Prod.exists] at h
          obtain ⟨_, _, ⟨rfl, rfl⟩, cells', next'', hrest, rfl, rfl⟩ := h
          refine hcons _ cells' _ rfl ?_ ?_ hrest
          · simp [haction, RuntimeControlAction.pointContacts, takenContacts]
          · simp [haction, RuntimeControlAction.pointContacts, hnext]

/-- A binding needs what its plan and the runtime give to it. -/
theorem materializeAction_pointContacts {binding : BindingV2} {resolution : Resolution}
    {next next' : ContactId} {action : RuntimeControlAction}
    (h : materializeAction binding resolution next = .ok (action, next')) :
    binding.action.planContacts + action.pointContacts = binding.action.contactDemand := by
  have h := materializeAction_ok h
  cases hb : binding.action with
  | tap point | hold point =>
    rw [hb] at h
    rw [h.1]
    rfl
  | virtualJoystick center radius deadZone mode reaffirmMs =>
    rw [hb] at h
    obtain ⟨joystick, -, rfl, -⟩ := h
    rfl
  | mouseAim region sensitivity toggleKey threshold gap ads reaffirmMs =>
    rw [hb] at h
    obtain ⟨_, _, _, aim, settings, -, rfl, -⟩ := h
    rfl
  | macroSteps steps =>
    rw [hb] at h
    exact h.elim

theorem sum_pointContacts {layers : List LayerV2} {resolution : Resolution}
    {bindings : List BindingV2} {controls : List RuntimeControlBinding}
    (h : List.Forall₂ (BindingV2.RealizedBy layers resolution) bindings controls) :
    (bindings.map fun binding => binding.action.planContacts).sum +
        (controls.map fun control => control.action.pointContacts).sum =
      (bindings.map fun binding => binding.action.contactDemand).sum := by
  induction h with
  | nil => rfl
  | cons hhead _ ih =>
    obtain ⟨next, next', haction⟩ := hhead.action
    have := materializeAction_pointContacts haction
    simp only [List.map_cons, List.sum_cons]
    omega

/-! ### Plans the runtime accepts -/

/-- Every aim comes while two of the identifiers from `next` on are left. -/
def AimsNumbered (next : ℕ) (actions : List ActionV2) : Prop :=
  ∀ before action rest, actions = before ++ action :: rest → action.planContacts = 2 →
    next + (before.map ActionV2.planContacts).sum < u16Max

theorem aimsNumbered_cons {next : ℕ} {action : ActionV2} {actions : List ActionV2} :
    AimsNumbered next (action :: actions) ↔ (action.planContacts = 2 → next < u16Max) ∧
      AimsNumbered (next + action.planContacts) actions := by
  constructor
  · intro h
    refine ⟨h [] action actions rfl, fun before other rest hsplit haim => ?_⟩
    have := h (action :: before) other rest (by rw [hsplit, List.cons_append]) haim
    rw [List.map_cons, List.sum_cons] at this
    omega
  · rintro ⟨hhead, hrest⟩ before other rest hsplit haim
    cases before with
    | nil =>
      obtain ⟨rfl, -⟩ := List.cons.inj hsplit
      exact hhead haim
    | cons first before =>
      obtain ⟨rfl, htail⟩ := List.cons.inj hsplit
      have := hrest before other rest htail haim
      rw [List.map_cons, List.sum_cons]
      omega

/-- A counter that has saturated leaves no identifiers for an aim. -/
theorem aimsNumbered_min {next : ℕ} {actions : List ActionV2} :
    AimsNumbered (min next u16Max) actions ↔ AimsNumbered next actions := by
  refine forall₃_congr fun before action rest => imp_congr_right fun _ => imp_congr_right fun _ => ?_
  omega

/-- The two contacts of an aim are different. -/
def RuntimeControlAction.AimDistinct (action : RuntimeControlAction) : Prop :=
  ∀ aim settings, action = .mouseAim aim settings → settings.alternateContactId ≠ aim.contactId

theorem materializeAction_aimDistinct {binding : BindingV2} {resolution : Resolution}
    {next next' : ContactId} {action : RuntimeControlAction} (hnext : next ≤ u16Max)
    (h : materializeAction binding resolution next = .ok (action, next')) :
    action.AimDistinct ↔ (binding.action.planContacts = 2 → next < u16Max) := by
  have h := materializeAction_ok h
  unfold RuntimeControlAction.AimDistinct
  cases hb : binding.action with
  | tap point | hold point =>
    rw [hb] at h
    simp [h.1, ActionV2.planContacts]
  | virtualJoystick center radius deadZone mode reaffirmMs =>
    rw [hb] at h
    obtain ⟨joystick, -, rfl, -⟩ := h
    simp [ActionV2.planContacts]
  | mouseAim region sensitivity toggleKey threshold gap ads reaffirmMs =>
    rw [hb] at h
    obtain ⟨_, _, _, aim, settings, haim, rfl, halternate, -⟩ := h
    have hid : aim.contactId = next := MouseAim.new_contactId haim
    simp only [ActionV2.planContacts, forall_const]
    rw [← saturatingSucc_ne hnext]
    constructor
    · intro h
      have := h aim settings rfl
      rwa [halternate, hid] at this
    · rintro h _ _ ⟨⟩
      rwa [halternate, hid]
  | macroSteps steps =>
    rw [hb] at h
    exact h.elim

theorem materializeControls_aimDistinct {resolution : Resolution}
    {siblings rest : List (BindingV2 × LayerId)} {next : ContactId}
    {controls : List RuntimeControlBinding} (hnext : next ≤ u16Max)
    (h : materializeControls resolution siblings rest next = .ok controls) :
    (∀ control ∈ controls, control.action.AimDistinct) ↔
      AimsNumbered next (rest.map fun entry => entry.1.action) := by
  induction rest generalizing next controls with
  | nil =>
    obtain rfl : [] = controls := by simpa [materializeControls] using h
    simp [AimsNumbered]
  | cons entry rest ih =>
    obtain ⟨binding, layer⟩ := entry
    simp only [materializeControls, bind_eq_ok, pure, Except.pure, Except.ok.injEq] at h
    obtain ⟨⟨action, next'⟩, haction, suppression, -, controls', hrest, rfl⟩ := h
    have hdistinct := materializeAction_aimDistinct hnext haction
    obtain ⟨-, rfl⟩ := materializeAction_contacts hnext haction
    rw [List.forall_mem_cons, List.map_cons, aimsNumbered_cons, ih (min_le_right _ _) hrest,
      aimsNumbered_min]
    exact and_congr_left' hdistinct

/-- The settings of an aim are in the ranges the runtime checks. -/
structure MouseAimSettings.Fine (settings : MouseAimSettings) : Prop where
  threshold : 100 ≤ settings.recenterThresholdMilli ∧ settings.recenterThresholdMilli ≤ 1000
  interval : settings.reaffirmInterval ≠ some 0

theorem ActionV2.Makes.fine {resolution : Resolution} {next next' : ContactId} {action : ActionV2}
    {aim : MouseAim} {settings : MouseAimSettings}
    (h : action.Makes resolution next (.mouseAim aim settings) next') (hfine : action.Fine .rust) :
    settings.Fine := by
  cases action with
  | tap point | hold point => cases h.1
  | virtualJoystick center radius deadZone mode reaffirmMs =>
    obtain ⟨_, -, h, -⟩ := h
    cases h
  | mouseAim region sensitivity toggleKey threshold gap ads reaffirmMs =>
    obtain ⟨_, _, _, aim', settings', -, heq, -, -, hthreshold, hinterval, -⟩ := h
    obtain ⟨-, rfl⟩ := RuntimeControlAction.mouseAim.inj heq
    obtain ⟨-, -, -, ⟨hlow, hhigh⟩, -, hreaffirm⟩ := hfine
    have hle : (100 : ℤ) ≤ roundHalfAway (threshold * 1000) :=
      le_roundHalfAway (by linarith) (by push_cast; linarith)
    have hge : roundHalfAway (threshold * 1000) ≤ (1000 : ℤ) :=
      roundHalfAway_le (by linarith) (by push_cast; linarith)
    refine ⟨?_, ?_⟩
    · rw [hthreshold, asUnsigned]
      unfold u16Max
      omega
    · rw [hinterval]
      cases reaffirmMs with
      | none => simp
      | some ms => simpa [millis] using hreaffirm
  | macroSteps steps => exact h.elim

theorem MouseAimController.exists_new {aim : MouseAim} {settings : MouseAimSettings}
    (h : settings.Fine) :
    (∃ controller, MouseAimController.new aim settings = .ok controller) ↔
      settings.alternateContactId ≠ aim.contactId := by
  unfold MouseAimController.new
  by_cases hid : settings.alternateContactId = aim.contactId
  · simp [hid]
  · rw [dif_neg hid, if_neg (not_not.mpr h.threshold), if_neg h.interval]
    exact ⟨fun _ => hid, fun _ => ⟨_, rfl⟩⟩

theorem exists_bind_pure {ε α β : Type} {x : Except ε α} {f : α → β} :
    (∃ b, x >>= (fun a => pure (f a)) = .ok b) ↔ ∃ a, x = .ok a := by
  cases x <;> simp [bind, Except.bind, pure, Except.pure]

theorem exists_buildCells {controls : List RuntimeControlBinding} {next : ContactId}
    (hinput : ∀ control ∈ controls, ∃ input, ResolvedControlInput.fromProfile control.input = some input)
    (hfine : ∀ control ∈ controls, ∀ aim settings, control.action = .mouseAim aim settings →
      settings.Fine) :
    (∃ result, buildCells controls next = .ok result) ↔
      ∀ control ∈ controls, control.action.AimDistinct := by
  induction controls generalizing next with
  | nil => simp [buildCells]
  | cons control controls ih =>
    rw [List.forall_mem_cons] at hinput hfine ⊢
    obtain ⟨⟨input, hinput⟩, hrest⟩ := hinput
    unfold buildCells
    cases haction : control.action with
    | tap point | hold point | virtualJoystick joystick mode interval =>
      rw [← @ih _ hrest hfine.2]
      simp only [hinput]
      refine exists_bind_pure.trans ⟨fun h => ⟨by simp [RuntimeControlAction.AimDistinct], h⟩, And.right⟩
    | mouseAim aim settings =>
      have hnew := @MouseAimController.exists_new aim settings (hfine.1 aim settings haction)
      have hdistinct : RuntimeControlAction.AimDistinct (.mouseAim aim settings) ↔
          settings.alternateContactId ≠ aim.contactId :=
        ⟨fun h => h aim settings rfl, fun h _ _ heq => by cases heq; exact h⟩
      rw [← @ih _ hrest hfine.2, hdistinct, ← hnew]
      simp only [hinput]
      cases MouseAimController.new aim settings with
      | error error => simp [throw, throwThe, MonadExceptOf.throw, bind, Except.bind]
      | ok controller =>
        exact exists_bind_pure.trans ⟨fun h => ⟨⟨controller, rfl⟩, h⟩, And.right⟩

theorem layerMaskBit_of_le {id : ℕ} (hpos : 0 < id) (hle : id ≤ 64) :
    layerMaskBit id = some (BitVec.twoPow 64 (id - 1)) := by
  rw [layerMaskBit, if_neg (Nat.ne_of_gt hpos), if_pos (show id - 1 < 64 by omega)]

theorem exists_foldlM_insertLayerControl {layers : List RuntimeLayer}
    (h : ∀ layer ∈ layers, 0 < layer.id ∧ layer.id ≤ 64) (table : HostKeyName → Option LayerControl) :
    ∃ table', layers.foldlM insertLayerControl table = .ok table' := by
  induction layers generalizing table with
  | nil => exact ⟨table, rfl⟩
  | cons layer layers ih =>
    obtain ⟨⟨hpos, hle⟩, hrest⟩ := List.forall_mem_cons.mp h
    rw [List.foldlM_cons, insertLayerControl, layerMaskBit_of_le hpos hle]
    exact ih hrest _

/-- The inputs of an accepted profile resolve. -/
theorem ResolvedControlInput.exists_fromProfile {input : InputV2} (h : input.Fine .rust) :
    ∃ resolved, fromProfile input = some resolved := by
  have hparse : ∀ value, TextReading.rust.Known value → ∃ key, HostKeyName.parse value = some key :=
    fun value hvalue => HostKeyName.exists_parse.mpr (knownKeyName_iff.mpr hvalue)
  cases input with
  | key name =>
    obtain ⟨key, hkey⟩ := hparse name h.2
    exact ⟨_, by rw [fromProfile, hkey]; rfl⟩
  | keyCluster up left down right =>
    simp only [InputV2.Fine, List.forall_mem_cons] at h
    obtain ⟨⟨-, hup⟩, ⟨-, hleft⟩, ⟨-, hdown⟩, ⟨-, hright⟩, -⟩ := h
    obtain ⟨up', hup⟩ := hparse up hup
    obtain ⟨left', hleft⟩ := hparse left hleft
    obtain ⟨down', hdown⟩ := hparse down hdown
    obtain ⟨right', hright⟩ := hparse right hright
    exact ⟨_, by simp only [fromProfile, hup, hleft, hdown, hright]; rfl⟩
  | mouseButton name =>
    obtain ⟨button, hbutton⟩ := HostMouseButton.exists_parse.mpr h.2
    exact ⟨_, by rw [fromProfile, parseMouseButton_eq, hbutton]; rfl⟩
  | mouseMove => exact ⟨_, rfl⟩

namespace UnifiedRuntime

variable {I : Type} {injector : I} {profile : ProfileV2} {resolution : Resolution}
  {plan : RuntimeControlPlan} {rt : UnifiedRuntime I}

/-- The identifiers of a runtime are those of one counter. -/
theorem contactIds_perm (hplan : RuntimeControlPlan.fromProfileV2 profile resolution = .ok plan)
    (hnew : new plan injector = .ok rt) :
    rt.contactIds.Perm (takenContacts 1 (profile.contactDemand + 1)) := by
  have hown := fromProfileV2_contacts hplan
  have hlayouts := (new_built hnew).layouts
  have hdemand : profile.planContacts +
      (plan.controls.map fun control => control.action.pointContacts).sum = profile.contactDemand :=
    sum_pointContacts (fromProfileV2_realizes hplan).controls
  simp only [new, bind_eq_ok, pure, Except.pure, Except.ok.injEq, Prod.exists] at hnew
  obtain ⟨cells, cursorContact, hcells, layerControls, -, rfl⟩ := hnew
  have hfirst : firstFreeContact plan.controls = min (1 + profile.planContacts) u16Max := by
    have := min_add_min 0 profile.planContacts 1
    simp only [Nat.zero_add, Nat.add_comm _ 1] at this
    rw [firstFreeContact, hown, foldl_max_takenContacts, saturatingSucc, Nat.add_comm, this]
  obtain ⟨hnumbered, hpoints, hcursor⟩ :=
    buildCells_contacts (hfirst ▸ min_le_right _ _) hcells
  rw [hfirst, takenContacts_min] at hpoints
  have hflat : cells.flatMap (fun cell => cell.layout.control.action.ownContacts) =
      takenContacts 1 profile.planContacts := by
    rw [← hown, ← hlayouts, UnifiedRuntime.layouts, List.map_map, List.flatMap_map]
    rfl
  have hcontacts : (cells.map ControlCell.layout).flatMap ControlLayout.contacts =
      cells.flatMap fun cell => cell.layout.control.action.ownContacts ++
        cell.layout.pointContact.toList := by
    rw [List.flatMap_map]
    exact List.flatMap_congr fun cell hcell => (hnumbered cell hcell).contacts
  have hcursor : [cursorContact] = takenContacts (1 + profile.contactDemand) 1 := by
    rw [takenContacts_one, hcursor, hfirst, min_add_min, ← hdemand]
  simp only [contactIds, UnifiedRuntime.layouts, hcontacts, hcursor]
  rw [takenContacts_add, ← hdemand, takenContacts_add, ← hflat, ← hpoints]
  exact (List.flatMap_append_perm cells _ _).symm.append_right _

/-- **The runtime accepts a plan exactly if no aim has one identifier twice.** -/
theorem new_ok_iff (hplan : RuntimeControlPlan.fromProfileV2 profile resolution = .ok plan) :
    (∃ rt, new plan injector = .ok rt) ↔
      AimsNumbered 1 (profile.bindings.map BindingV2.action) := by
  have hreal := fromProfileV2_realizes hplan
  have hinput : ∀ control ∈ plan.controls,
      ∃ input, ResolvedControlInput.fromProfile control.input = some input := by
    intro control hcontrol
    obtain ⟨binding, hb, hmade⟩ := forall₂_exists_left hreal.controls hcontrol
    rw [hmade.input]
    exact ResolvedControlInput.exists_fromProfile (hreal.accepted.bindings binding hb).input
  have hfine : ∀ control ∈ plan.controls, ∀ aim settings, control.action = .mouseAim aim settings →
      settings.Fine := by
    intro control hcontrol aim settings haction
    obtain ⟨binding, hb, hmade⟩ := forall₂_exists_left hreal.controls hcontrol
    obtain ⟨next, next', hmakes⟩ := hmade.action
    rw [haction] at hmakes
    exact (materializeAction_ok hmakes).fine (hreal.accepted.bindings binding hb).action
  have hlayers : ∀ layer ∈ plan.layers, 0 < layer.id ∧ layer.id ≤ 64 := by
    intro layer hlayer
    obtain ⟨⟨declared, index⟩, hentry, hmade⟩ := forall₂_exists_left hreal.layers hlayer
    have hindex := (List.mem_zipIdx' hentry).1
    have hcount := hreal.accepted.layer_count
    rw [show layer.id = index + 1 from hmade.id]
    exact ⟨index.succ_pos, Nat.succ_le_of_lt (hindex.trans_le hcount)⟩
  have haims : (∀ control ∈ plan.controls, control.action.AimDistinct) ↔
      AimsNumbered 1 (profile.bindings.map BindingV2.action) := by
    obtain ⟨entries, hentries, hcontrols⟩ := fromProfileV2_controls hplan
    rw [materializeControls_aimDistinct (by simp [u16Max]) hcontrols, ← hentries, List.map_map]
    rfl
  obtain ⟨table, htable⟩ := exists_foldlM_insertLayerControl hlayers fun _ => none
  rw [← haims, ← @exists_buildCells _ (firstFreeContact plan.controls) hinput hfine]
  simp only [new, htable]
  exact exists_bind_pure

/-! ### Distinct identifiers -/

/-- The binding of an aim, one of many. -/
def crowdAim (n : ℕ) : BindingV2 :=
  ⟨String.ofList (List.replicate (n + 1) 'a'), none, none, .mouseMove,
    .mouseAim ⟨1/4, 1/4, 1/2, 1/2⟩ 1 none (1/2) 0 none none⟩

def crowdHold : BindingV2 := ⟨"hold", none, none, .key "f", .hold ⟨1/2, 1/2⟩⟩

/-- A profile with so many aims and one hold binding. -/
def crowd (aims : ℕ) : ProfileV2 where
  schemaVersion := 2
  name := "crowd"
  packageName := "com.example.crowd"
  layers := []
  bindings := (List.range aims).map crowdAim ++ [crowdHold]

theorem trim_crowdAim (n : ℕ) : trim rustBlank (crowdAim n).name = (crowdAim n).name := by
  refine trim_eq_self fun c hc => ?_
  rw [crowdAim, String.toList_ofList] at hc
  rw [List.eq_of_mem_replicate hc]
  decide

theorem crowdAim_name_length (n : ℕ) : (crowdAim n).name.toList.length = n + 1 := by
  simp [crowdAim]

theorem crowdAim_fine (n : ℕ) : (crowdAim n).Fine .rust [] where
  named := by
    change trim rustBlank (crowdAim n).name ≠ ""
    rw [trim_crowdAim, crowdAim]
    intro hempty
    have := congrArg (fun s => s.toList.length) hempty
    simp at this
  input := trivial
  action := by
    simp only [crowdAim, ActionV2.Fine]
    exact ⟨by norm_num [RectInside, normalized, EPSILON], by norm_num, by simp [TextReading.rust],
      by norm_num, by simp, by simp⟩
  compatible := rfl
  layer := by simp [crowdAim]
  modifier := by simp [crowdAim]
  not_own_key := by simp [crowdAim]

theorem crowdHold_fine : crowdHold.Fine .rust [] where
  named := by decide +kernel
  input := by
    change trim rustBlank "f" ≠ "" ∧ canonicalKey "f" ∈ supportedKeyNames
    decide +kernel
  action := by
    simp only [crowdHold, ActionV2.Fine]
    norm_num [PointInside, normalized, EPSILON]
  compatible := rfl
  layer := by simp [crowdHold]
  modifier := by simp [crowdHold]
  not_own_key := by simp [crowdHold]

theorem scopedInputs_crowdAim (n : ℕ) : (crowdAim n).scopedInputs .rust = ∅ := by
  simp [BindingV2.scopedInputs, crowdAim, bindingScopeInputKeys]

theorem crowd_accepts (aims : ℕ) : (crowd aims).Accepts .rust where
  schema := rfl
  named := (by decide +kernel : TextReading.rust.trim "crowd" ≠ "")
  package := (by decide +kernel : TextReading.rust.trim "com.example.crowd" ≠ "")
  layer_named := by simp [crowd]
  layer_not_base := by simp [crowd]
  layer_names := .nil
  layer_count := by simp [crowd]
  layer_keys_known := by simp [crowd]
  layer_keys := .nil
  base_keys := by simp [crowd]
  bindings := by
    intro binding hb
    rcases List.mem_append.mp hb with hb | hb
    · obtain ⟨n, -, rfl⟩ := List.mem_map.mp hb
      exact crowdAim_fine n
    · rw [List.mem_singleton.mp hb]
      exact crowdHold_fine
  binding_names := by
    refine List.pairwise_append.mpr ⟨?_, List.pairwise_singleton _ _, ?_⟩
    · refine List.pairwise_map.mpr (List.pairwise_lt_range.imp fun {a b} hlt heq => ?_)
      change trim rustBlank _ = trim rustBlank _ at heq
      rw [trim_crowdAim, trim_crowdAim] at heq
      have := congrArg (fun s => s.toList.length) heq
      simp only [crowdAim_name_length] at this
      omega
    · intro binding hb hold hhold heq
      obtain ⟨n, -, rfl⟩ := List.mem_map.mp hb
      rw [List.mem_singleton.mp hhold] at heq
      change trim rustBlank _ = trim rustBlank "hold" at heq
      rw [trim_crowdAim] at heq
      -- the name of an aim consists of one letter only
      have hmem : 'h' ∈ (crowdAim n).name.toList := by
        rw [heq]
        decide +kernel
      rw [crowdAim, String.toList_ofList] at hmem
      exact absurd (List.eq_of_mem_replicate hmem) (by decide)
  binding_inputs := by
    refine List.pairwise_append.mpr ⟨?_, List.pairwise_singleton _ _, ?_⟩
    · refine List.pairwise_map.mpr (List.pairwise_lt_range.imp fun {a b} _ => ?_)
      rw [scopedInputs_crowdAim]
      exact Set.empty_disjoint _
    · intro binding hb hold _
      obtain ⟨n, -, rfl⟩ := List.mem_map.mp hb
      rw [scopedInputs_crowdAim]
      exact Set.empty_disjoint _

theorem crowd_contactDemand (aims : ℕ) : (crowd aims).contactDemand = 2 * aims + 1 := by
  simp [ProfileV2.contactDemand, crowd, crowdAim, crowdHold, ActionV2.contactDemand,
    Function.comp_def, Nat.mul_comm]

theorem crowd_aimsNumbered {aims : ℕ} (h : 2 * aims < u16Max) :
    AimsNumbered 1 ((crowd aims).bindings.map BindingV2.action) := by
  intro before action rest hsplit haim
  have hsum := congrArg (fun actions => (actions.map ActionV2.planContacts).sum) hsplit
  simp only [crowd, List.map_append, List.map_map, List.sum_append, List.map_cons, List.sum_cons,
    haim] at hsum
  have haims : ((List.range aims).map (ActionV2.planContacts ∘ BindingV2.action ∘ crowdAim)).sum =
      2 * aims := by
    simp [Function.comp_def, crowdAim, ActionV2.planContacts, Nat.mul_comm]
  rw [haims] at hsum
  simp only [crowdHold, ActionV2.planContacts, List.map_nil, List.sum_nil] at hsum
  omega

theorem crowd_supported (aims : ℕ) : ∀ binding ∈ (crowd aims).bindings, binding.action.Supported := by
  intro binding hb
  rcases List.mem_append.mp hb with hb | hb
  · obtain ⟨n, -, rfl⟩ := List.mem_map.mp hb
    exact ⟨(by decide +kernel : Representable 1), by simp⟩
  · rw [List.mem_singleton.mp hb]
    trivial

/-- A crowd of aims is accepted while the counter has two identifiers left for each. -/
theorem crowd_starts {aims : ℕ} (h : 2 * aims < u16Max) {resolution : Resolution}
    (hw : resolution.width ≠ 0) (hh : resolution.height ≠ 0) (injector : I) :
    ∃ plan rt, RuntimeControlPlan.fromProfileV2 (crowd aims) resolution = .ok plan ∧
      new plan injector = .ok rt := by
  obtain ⟨plan, hplan⟩ := (fromProfileV2_of_accepts (crowd_accepts aims) hw hh).1 (crowd_supported aims)
  obtain ⟨rt, hnew⟩ := (new_ok_iff hplan).mpr (crowd_aimsNumbered h)
  exact ⟨plan, rt, hplan, hnew⟩

/-- **The identifiers are distinct exactly if the counter does not saturate.** -/
theorem contactIds_nodup_iff
    (hplan : RuntimeControlPlan.fromProfileV2 profile resolution = .ok plan)
    (hnew : new plan injector = .ok rt) :
    rt.contactIds.Nodup ↔ profile.contactDemand < u16Max := by
  rw [(contactIds_perm hplan hnew).nodup_iff, takenContacts_nodup, Nat.succ_le_iff]

theorem shooter_contactIds_nodup : ∃ plan rt,
    RuntimeControlPlan.fromProfileV2 shooter ⟨1280, 720⟩ = .ok plan ∧
      new plan () = .ok rt ∧ rt.contactIds.Nodup := by
  obtain ⟨rt, hlaunch⟩ := Option.isSome_iff_exists.mp
    (by decide +kernel : (launch shooter ⟨1280, 720⟩ ()).isSome = true)
  obtain ⟨plan, hplan, hnew⟩ := exists_of_launch hlaunch
  exact ⟨plan, rt, hplan, hnew, (contactIds_nodup_iff hplan hnew).mpr (by decide +kernel)⟩

/-- After 32767 aims a hold binding gets the last identifier, and so does the cursor. -/
theorem crowded_shares_contact : ∃ plan rt,
    RuntimeControlPlan.fromProfileV2 (crowd 32767) ⟨1280, 720⟩ = .ok plan ∧
      new plan () = .ok rt ∧ ¬ rt.contactIds.Nodup := by
  have hlast : 2 * 32767 < u16Max := by decide
  obtain ⟨plan, rt, hplan, hnew⟩ :=
    @crowd_starts Unit _ hlast ⟨1280, 720⟩ (by decide) (by decide) ()
  refine ⟨plan, rt, hplan, hnew, fun hnodup => ?_⟩
  have hcount := takenContacts_nodup.mp ((contactIds_perm hplan hnew).nodup_iff.mp hnodup)
  rw [crowd_contactDemand] at hcount
  unfold u16Max at hcount
  omega

end UnifiedRuntime

end Wroid
