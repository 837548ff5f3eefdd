import Wroid.Runtime.ControlPlan

/-!
# When a profile has a plan

Building the plan of an accepted profile does not panic; it fails only where an action has no
counterpart in the runtime.

## Main definitions

* `ActionV2.Supported` — the runtime has a counterpart of the action.
* `BindingV2.Overflows`, `BindingV2.Dangling` — a layer whose number is lost, or that is unknown.

## Main results

* `fromProfileV2_of_accepts` — **an accepted profile has a plan if its actions are supported,
  and is turned down with an error about one of them otherwise**.
* `fromProfileV2_of_invalid` — any other profile is turned down.
-/

namespace Wroid

open Lib

/-! ### Actions -/

def Representable (value : ℚ) : Prop := (materializeMouseSensitivity value).isSome = true

instance (value : ℚ) : Decidable (Representable value) := inferInstanceAs (Decidable (_ = _))

/-- The runtime has a counterpart of the action. -/
def ActionV2.Supported : ActionV2 → Prop
  | .tap _ | .hold _ | .virtualJoystick .. => True
  | .mouseAim _ sensitivity _ _ _ adsMultiplier _ =>
    Representable sensitivity ∧ ∀ value ∈ adsMultiplier, Representable value
  | .macroSteps _ => False

/-- The errors about an action the runtime has no counterpart of. -/
def RuntimeControlPlanError.AboutAction : RuntimeControlPlanError → Prop
  | .unsupportedAction _ kind => kind = "macro"
  | .invalidMouseAimSensitivity .. => True
  | .invalidProfile _ | .unknownLayer .. | .invalidVirtualJoystick .. | .invalidMouseAim .. => False

theorem materializeAxis_mono {a b : ℚ} (h : a ≤ b) (limit : ℕ) :
    materializeAxis a limit ≤ materializeAxis b limit := by
  unfold materializeAxis
  split
  · rfl
  · have hfactor : (0 : ℚ) ≤ (limit - 1 : ℕ) := by positivity
    have hclamp := mul_le_mul_of_nonneg_right (clampRat_mono zero_le_one h) hfactor
    have hnonneg := mul_nonneg (clampRat_nonneg (q := a) zero_le_one) hfactor
    exact min_le_min_right _ (asUnsigned_mono (roundHalfAway_mono hnonneg hclamp))

section Materialize

variable {binding : BindingV2} {resolution : Resolution} {next : ContactId}

/-- The aim of a region inside the surface. -/
theorem mouseAim_new_ok (contactId : ContactId) {left top right bottom : ℕ}
    (sensitivity : MouseAimSensitivity) (hlr : left ≤ right) (htb : top ≤ bottom)
    (hw : right < resolution.width) (hh : bottom < resolution.height) :
    ∃ aim, MouseAim.new contactId ⟨left + (right - left) / 2, top + (bottom - top) / 2⟩
        ⟨left, top, right, bottom⟩ resolution sensitivity = .ok aim ∧
      aim.contactId = contactId := by
  have hcontains : MouseAimRegion.Contains ⟨left, top, right, bottom⟩
      ⟨left + (right - left) / 2, top + (bottom - top) / 2⟩ := by
    simp only [MouseAimRegion.Contains]
    omega
  refine ⟨⟨contactId, _, _, sensitivity, hcontains⟩, ?_, rfl⟩
  simp only [MouseAim.new, MouseAimRegion.validate, if_neg (show ¬ (resolution.width = 0 ∨
    resolution.height = 0) by omega), if_neg (show ¬ (right < left ∨ bottom < top ∨
    resolution.width ≤ right ∨ resolution.height ≤ bottom) by omega), bind, Except.bind,
    dif_pos hcontains]
  rfl

/-- **A supported action** has a counterpart on every surface with pixels; an action that is
not supported is turned down. -/
theorem materializeAction_of_fine (hw : resolution.width ≠ 0) (hh : resolution.height ≠ 0)
    (hfine : binding.action.Fine .rust) :
    (binding.action.Supported →
      ∃ result, materializeAction binding resolution next = .ok result) ∧
    (¬ binding.action.Supported →
      ∃ e, materializeAction binding resolution next = .error (.error e) ∧ e.AboutAction) := by
  unfold materializeAction
  cases haction : binding.action with
  | tap point => exact ⟨fun _ => ⟨_, rfl⟩, fun h => (h trivial).elim⟩
  | hold point => exact ⟨fun _ => ⟨_, rfl⟩, fun h => (h trivial).elim⟩
  | macroSteps steps => exact ⟨False.elim, fun _ => ⟨_, rfl, rfl⟩⟩
  | virtualJoystick center radius deadZone mode reaffirmMs =>
    obtain ⟨joystick, hjoystick, -⟩ :=
      VirtualJoystick.fromProfileV2Geometry_ok next center radius deadZone hw hh
    refine ⟨fun _ => ?_, fun h => (h trivial).elim⟩
    simp only [allocateContactId, hjoystick, orStop, bind, Except.bind]
    exact ⟨_, rfl⟩
  | mouseAim region sensitivity toggleKey threshold gap ads reaffirmMs =>
    rw [haction] at hfine
    obtain ⟨hrect, -⟩ := hfine
    have hlr := materializeAxis_mono (show region.x ≤ region.x + region.w by
      linarith [hrect.2.2.1]) resolution.width
    have htb := materializeAxis_mono (show region.y ≤ region.y + region.h by
      linarith [hrect.2.2.2.1]) resolution.height
    simp only [ActionV2.Supported, Representable, allocateContactId, checkedSub, if_pos hlr,
      if_pos htb, bind, Except.bind]
    cases hs : materializeMouseSensitivity sensitivity with
    | none => exact ⟨fun h => by simp at h, fun _ => ⟨_, rfl, trivial⟩⟩
    | some speed =>
      obtain ⟨aim, haim, -⟩ := mouseAim_new_ok next speed hlr htb
        (@materializeAxis_lt (region.x + region.w) _ hw)
        (@materializeAxis_lt (region.y + region.h) _ hh)
      simp only [haim, orStop, Option.isSome_some, true_and]
      cases ads with
      | none => exact ⟨fun _ => ⟨_, rfl⟩, fun h => by simp at h⟩
      | some value =>
        cases hv : materializeMouseSensitivity value with
        | none =>
          exact ⟨fun h => by simp [hv] at h, fun _ =>
            ⟨.invalidMouseAimSensitivity binding.name value, by simp [Option.mapM, hv], trivial⟩⟩
        | some scale =>
          exact ⟨fun _ => ⟨_, by simp [Option.mapM, hv]; rfl⟩, fun h => by simp [hv] at h⟩

/-- So it is with all the bindings of a plan: the first one that is not supported is reported. -/
theorem materializeControls_of_fine {siblings : List (BindingV2 × LayerId)}
    (hw : resolution.width ≠ 0) (hh : resolution.height ≠ 0) {rest : List (BindingV2 × LayerId)}
    (hfine : ∀ entry ∈ rest, entry.1.action.Fine .rust) :
    ((∀ entry ∈ rest, entry.1.action.Supported) →
      ∃ controls, materializeControls resolution siblings rest next = .ok controls) ∧
    ((∃ entry ∈ rest, ¬ entry.1.action.Supported) →
      ∃ e, materializeControls resolution siblings rest next = .error (.error e) ∧
        e.AboutAction) := by
  induction rest generalizing next with
  | nil => exact ⟨fun _ => ⟨[], rfl⟩, by simp⟩
  | cons entry rest ih =>
    obtain ⟨binding, layer⟩ := entry
    simp only [List.forall_mem_cons] at hfine ⊢
    obtain ⟨hok, herror⟩ := @materializeAction_of_fine binding resolution next hw hh hfine.1
    obtain ⟨suppression, hsup, -⟩ := precomputeSiblingSuppression_spec binding layer siblings
    simp only [materializeControls, List.exists_mem_cons_iff]
    by_cases hsupported : binding.action.Supported
    · obtain ⟨⟨action, next'⟩, haction⟩ := hok hsupported
      obtain ⟨hrest, hrest'⟩ := @ih next' hfine.2
      simp only [haction, hsup, bind, Except.bind]
      refine ⟨fun h => ?_, fun h => ?_⟩
      · obtain ⟨controls, hcontrols⟩ := hrest h.2
        exact ⟨_, by simp only [hcontrols]; rfl⟩
      · obtain ⟨e, he, habout⟩ := hrest' (h.resolve_left (not_not.mpr hsupported))
        exact ⟨e, by simp only [he], habout⟩
    · obtain ⟨e, he, habout⟩ := herror hsupported
      refine ⟨fun h => (hsupported h.1).elim, fun _ => ⟨e, ?_, habout⟩⟩
      simp only [he, bind, Except.bind]

end Materialize

/-! ### Layers -/

/-- The layer of the binding has a number that does not fit an identifier. -/
def BindingV2.Overflows (layers : List LayerV2) (binding : BindingV2) : Prop :=
  ∃ name index, binding.layer = some name ∧
    layers.findIdx? (fun layer => layer.name == name) = some index ∧ index % (u16Max + 1) = u16Max

/-- The layer of the binding is not declared. -/
def BindingV2.Dangling (layers : List LayerV2) (binding : BindingV2) : Prop :=
  ∃ name, binding.layer = some name ∧ layers.findIdx? (fun layer => layer.name == name) = none

/-- Finding the layer of a binding succeeds, fails or panics. -/
theorem resolveBindingLayer_cases (layers : List LayerV2) (binding : BindingV2) :
    (¬ binding.Overflows layers ∧ ¬ binding.Dangling layers ∧
      ∃ id, resolveBindingLayer layers binding = .ok id) ∨
    (¬ binding.Overflows layers ∧ binding.Dangling layers ∧
      ∃ e, resolveBindingLayer layers binding = .error (.error e)) ∨
    (binding.Overflows layers ∧ ¬ binding.Dangling layers ∧
      ∃ message, resolveBindingLayer layers binding = .error (.panic message)) := by
  unfold resolveBindingLayer BindingV2.Overflows BindingV2.Dangling
  cases binding.layer with
  | none => exact .inl ⟨by simp, by simp, _, rfl⟩
  | some name =>
    simp only [Option.some.injEq, exists_eq_left', exists_and_left]
    cases hfind : layers.findIdx? fun layer => layer.name == name with
    | none => exact .inr (.inl ⟨by simp, rfl, _, rfl⟩)
    | some index =>
      simp only [Option.some.injEq, exists_eq_left', layerIdOfIndex]
      by_cases hover : index % (u16Max + 1) = u16Max
      · exact .inr (.inr ⟨hover, by simp, _, if_neg (by omega)⟩)
      · have hlt : index % (u16Max + 1) < u16Max := by
          have := Nat.mod_lt index (show 0 < u16Max + 1 by omega)
          omega
        exact .inl ⟨hover, by simp, _, if_pos hlt⟩

/-- Every layer that is lost comes after one that is unknown. -/
def ProfileV2.LayersCounted (profile : ProfileV2) : Prop :=
  ∀ before binding rest, profile.bindings = before ++ binding :: rest →
    binding.Overflows profile.layers → ∃ other ∈ before, other.Dangling profile.layers

/-- Finding the layers panics at the first one that is lost. -/
theorem resolveBindingLayers_cases (profile : ProfileV2) :
    (profile.LayersCounted ∧ ((∃ ids, resolveBindingLayers profile = .ok ids) ∨
      ∃ e, resolveBindingLayers profile = .error (.error e))) ∨
    (¬ profile.LayersCounted ∧ ∃ message, resolveBindingLayers profile = .error (.panic message)) := by
  unfold ProfileV2.LayersCounted resolveBindingLayers
  cases hmap : profile.bindings.mapM (resolveBindingLayer profile.layers) with
  | ok ids =>
    refine .inl ⟨fun before binding rest hsplit hover => ?_, .inl ⟨ids, rfl⟩⟩
    obtain ⟨id, -, hid⟩ := forall₂_exists_right (mapM_eq_ok.mp hmap)
      (show binding ∈ profile.bindings by simp [hsplit])
    rcases resolveBindingLayer_cases profile.layers binding with h | h | ⟨-, -, _, h⟩
    · exact absurd hover h.1
    · exact absurd hover h.1
    · rw [h] at hid
      cases hid
  | error stop =>
    obtain ⟨before, binding, rest, hsplit, hbefore, hstop⟩ := mapM_eq_error hmap
    rcases resolveBindingLayer_cases profile.layers binding with
      ⟨-, -, _, h⟩ | ⟨hover, hdangling, e, h⟩ | ⟨hover, hdangling, message, h⟩
    · rw [h] at hstop
      cases hstop
    · obtain rfl := Except.error.inj (h.symm.trans hstop)
      refine .inl ⟨fun before' binding' rest' hsplit' hover' => ?_, .inr ⟨e, rfl⟩⟩
      -- a lost layer is not among those found before the unknown one, and not the unknown one
      have hmem : binding' ∉ before := fun hmem => by
        obtain ⟨id, hid⟩ := hbefore binding' hmem
        rcases resolveBindingLayer_cases profile.layers binding' with h' | h' | ⟨-, -, _, h'⟩
        · exact h'.1 hover'
        · exact h'.1 hover'
        · rw [h'] at hid
          cases hid
      rcases List.append_eq_append_iff.mp (hsplit.symm.trans hsplit') with
        ⟨as, rfl, has⟩ | ⟨as, rfl, has⟩
      · cases as with
        | nil =>
          obtain ⟨rfl, -⟩ := List.cons.inj has
          exact absurd hover' hover
        | cons a as =>
          obtain ⟨rfl, -⟩ := List.cons.inj has
          exact ⟨binding, by simp, hdangling⟩
      · cases as with
        | nil =>
          obtain ⟨rfl, -⟩ := List.cons.inj has
          exact absurd hover' hover
        | cons a as =>
          obtain ⟨rfl, -⟩ := List.cons.inj has
          exact absurd (by simp) hmem
    · obtain rfl := Except.error.inj (h.symm.trans hstop)
      refine .inr ⟨fun hcounted => ?_, message, rfl⟩
      obtain ⟨other, hother, hdangling⟩ := hcounted before binding rest hsplit hover
      obtain ⟨id, hid⟩ := hbefore other hother
      rcases resolveBindingLayer_cases profile.layers other with h' | ⟨-, -, _, h'⟩ | h'
      · exact h'.2.1 hdangling
      · rw [h'] at hid
        cases hid
      · exact h'.2.1 hdangling

/-! ### Plans -/

section Plans

variable {profile : ProfileV2} {resolution : Resolution}

theorem resolveLayer_ok {entry : LayerV2 × ℕ} (hindex : entry.2 < 64)
    (hkey : TextReading.rust.Known entry.1.activation.key) :
    ∃ layer, resolveLayer entry = .ok layer := by
  obtain ⟨key, hkey⟩ := HostKeyName.exists_parse.mpr (knownKeyName_iff.mpr hkey)
  simp only [resolveLayer, hkey, layerIdOfIndex_of_lt hindex, expect, bind, Except.bind]
  exact ⟨_, rfl⟩

theorem foldlM_insertModifier_ok {modifiers : List String}
    (h : ∀ modifier ∈ modifiers, TextReading.rust.Known modifier) (mask : ModifierMask) :
    ∃ mask', modifiers.foldlM insertModifier mask = .ok mask' := by
  induction modifiers generalizing mask with
  | nil => exact ⟨mask, rfl⟩
  | cons modifier modifiers ih =>
    obtain ⟨hmodifier, hrest⟩ := List.forall_mem_cons.mp h
    obtain ⟨key, hkey⟩ := HostKeyName.exists_parse.mpr (knownKeyName_iff.mpr hmodifier)
    obtain ⟨mask', hmask'⟩ := ih hrest (mask.insert key)
    refine ⟨mask', ?_⟩
    rw [List.foldlM_cons]
    simpa only [insertModifier, hkey, expect, bind, Except.bind, pure, Except.pure] using hmask'

/-- An accepted profile declares few layers, and every layer it uses. -/
theorem accepts_layersCounted (h : profile.Accepts .rust) :
    (∀ binding ∈ profile.bindings, ¬ binding.Overflows profile.layers) ∧
    ∀ binding ∈ profile.bindings, ¬ binding.Dangling profile.layers := by
  refine ⟨?_, ?_⟩
  · rintro binding - ⟨name, index, -, hfind, hover⟩
    obtain ⟨hlt, -, -⟩ := List.findIdx?_eq_some_iff_getElem.mp hfind
    have hcount := h.layer_count
    unfold u16Max at hover
    omega
  · rintro binding hb ⟨name, hlayer, hfind⟩
    obtain ⟨layer, hmem, hname⟩ := List.mem_map.mp ((h.bindings binding hb).layer name hlayer)
    have := List.findIdx?_eq_none_iff.mp hfind layer hmem
    simp [hname] at this

/-- **The plan of an accepted profile** exists if every action is supported, and an error says
which one is not. -/
theorem fromProfileV2_of_accepts (h : profile.Accepts .rust) (hw : resolution.width ≠ 0)
    (hh : resolution.height ≠ 0) :
    ((∀ binding ∈ profile.bindings, binding.action.Supported) →
      ∃ plan, RuntimeControlPlan.fromProfileV2 profile resolution = .ok plan) ∧
    ((∃ binding ∈ profile.bindings, ¬ binding.action.Supported) →
      ∃ e, RuntimeControlPlan.fromProfileV2 profile resolution = .error (.error e) ∧
        e.AboutAction) := by
  obtain ⟨hover, hdangling⟩ := accepts_layersCounted h
  obtain ⟨ids, hids⟩ : ∃ ids, resolveBindingLayers profile = .ok ids := by
    rw [resolveBindingLayers]
    cases hmap : profile.bindings.mapM (resolveBindingLayer profile.layers) with
    | ok ids => exact ⟨ids, rfl⟩
    | error stop =>
      obtain ⟨before, binding, rest, hsplit, -, hstop⟩ := mapM_eq_error hmap
      have hmem : binding ∈ profile.bindings := by simp [hsplit]
      rcases resolveBindingLayer_cases profile.layers binding with ⟨-, -, _, hok⟩ | hd | ho
      · rw [hok] at hstop
        cases hstop
      · exact absurd hd.2.1 (hdangling binding hmem)
      · exact absurd ho.1 (hover binding hmem)
  have hlen : profile.bindings.length = ids.length := (mapM_eq_ok.mp hids).length_eq
  obtain ⟨layers, hlayers⟩ : ∃ layers, profile.layers.zipIdx.mapM resolveLayer = .ok layers := by
    cases hmap : profile.layers.zipIdx.mapM resolveLayer with
    | ok layers => exact ⟨layers, rfl⟩
    | error stop =>
      obtain ⟨before, ⟨layer, index⟩, rest, hsplit, -, hstop⟩ := mapM_eq_error hmap
      have hentry : (layer, index) ∈ profile.layers.zipIdx := by simp [hsplit]
      have hindex := (List.mem_zipIdx' hentry).1
      have hcount := h.layer_count
      obtain ⟨layer', hok⟩ : ∃ layer', resolveLayer (layer, index) = .ok layer' :=
        resolveLayer_ok (by simp only; omega)
          (h.layer_keys_known layer (List.fst_mem_of_mem_zipIdx hentry))
      rw [hok] at hstop
      cases hstop
  have hmodifiers : ∀ modifier ∈ profile.bindings.filterMap BindingV2.modifier,
      TextReading.rust.Known modifier := by
    intro modifier hmodifier
    obtain ⟨binding, hb, hm⟩ := List.mem_filterMap.mp hmodifier
    exact ((h.bindings binding hb).modifier modifier hm).known
  obtain ⟨mask, hmask⟩ := foldlM_insertModifier_ok hmodifiers .EMPTY
  have hfine : ∀ entry ∈ profile.bindings.zip ids, entry.1.action.Fine .rust := fun entry hentry =>
    (h.bindings entry.1 (List.of_mem_zip hentry).1).action
  have hmem : ∀ binding ∈ profile.bindings, ∃ entry ∈ profile.bindings.zip ids, entry.1 = binding :=
    fun binding hb => by
      rw [← List.map_fst_zip hlen.le] at hb
      exact List.mem_map.mp hb
  obtain ⟨hok, herror⟩ :=
    @materializeControls_of_fine resolution 1 (profile.bindings.zip ids) hw hh _ hfine
  simp only [RuntimeControlPlan.fromProfileV2, hids, validate_eq_ok.mpr h, orStop, hlayers, hmask,
    bind, Except.bind]
  refine ⟨fun hall => ?_, fun hsome => ?_⟩
  · obtain ⟨controls, hcontrols⟩ := hok fun entry hentry =>
      hall entry.1 (List.of_mem_zip hentry).1
    exact ⟨_, by simp only [hcontrols]; rfl⟩
  · obtain ⟨binding, hb, hno⟩ := hsome
    obtain ⟨entry, hentry, rfl⟩ := hmem binding hb
    obtain ⟨e, he, habout⟩ := herror ⟨entry, hentry, hno⟩
    exact ⟨e, by simp only [he], habout⟩

/-- **Any other profile** is turned down with an error, unless a layer is lost. -/
theorem fromProfileV2_of_invalid (h : ¬ profile.Accepts .rust) :
    (∃ e, RuntimeControlPlan.fromProfileV2 profile resolution = .error (.error e)) ↔
      profile.LayersCounted := by
  have hinvalid : ∃ errors, profile.validate = .error errors := by
    cases hv : profile.validate with
    | ok u => exact absurd (validate_eq_ok.mp hv) h
    | error errors => exact ⟨errors, rfl⟩
  obtain ⟨errors, hinvalid⟩ := hinvalid
  rcases resolveBindingLayers_cases profile with
    ⟨hcounted, ⟨ids, hids⟩ | ⟨e, he⟩⟩ | ⟨hcounted, message, hpanic⟩
  · simp only [RuntimeControlPlan.fromProfileV2, hids, hinvalid, orStop, bind, Except.bind]
    exact ⟨fun _ => hcounted, fun _ => ⟨_, rfl⟩⟩
  · simp only [RuntimeControlPlan.fromProfileV2, he, bind, Except.bind]
    exact ⟨fun _ => hcounted, fun _ => ⟨_, rfl⟩⟩
  · simp only [RuntimeControlPlan.fromProfileV2, hpanic, bind, Except.bind]
    exact ⟨fun hfound => by simp at hfound, fun hc => absurd hc hcounted⟩

end Plans

end Wroid
