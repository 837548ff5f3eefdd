import Wroid.Session.Runtime

/-!
# Which binding an input reaches

The runtime keeps, for every input, the layer it currently belongs to, and asks that table,
the modifier masks and the suppression tables whether an input reaches a binding.  This file
says what the answer means: the layer of the binding is active, its modifier is held, no
modified binding of the layer takes the input away, and no higher active layer has it.

## Main definitions

* `LayerActive` — a layer switched on by its activation key.
* `IsTop` — the greatest element of a set, or its absence.
* `RuntimeControlPlan.Reaches` — what it takes for an input to reach a binding.

## Main results

* `refreshSelectedInputLayers_isTop` — **an input belongs to the highest active layer that
  has a binding of it**.
* `bindingAvailable_iff` — the meaning of `binding_available`.
-/

set_option linter.constructorNameAsVariable false

namespace Wroid

open Lib

/-! ### The greatest claim -/

/-- `o` is the greatest element of `s`, or `none` when there is no element. -/
def IsTop (s : Set ℕ) : Option ℕ → Prop
  | none => s = ∅
  | some a => IsGreatest s a

theorem isTop_none : IsTop ∅ none := rfl

/-- One more element. -/
theorem IsTop.insert {s : Set ℕ} {o : Option ℕ} (h : IsTop s o) (a : ℕ) :
    IsTop (insert a s) (if o.all (· < a) then some a else o) := by
  cases o with
  | none =>
    obtain rfl : s = ∅ := h
    simp [IsTop, isGreatest_singleton]
  | some b =>
    simp only [Option.all_some, decide_eq_true_eq]
    split
    · next hlt =>
      refine ⟨Set.mem_insert a s, fun c hc => ?_⟩
      rcases hc with rfl | hc
      · exact le_rfl
      · exact (h.2 hc).trans hlt.le
    · next hle =>
      refine ⟨Set.mem_insert_of_mem a h.1, fun c hc => ?_⟩
      rcases hc with rfl | hc
      · exact not_lt.mp hle
      · exact h.2 hc

/-- Some element exceeds `b` exactly when the greatest one does. -/
theorem IsTop.any_lt {s : Set ℕ} {o : Option ℕ} (h : IsTop s o) (b : ℕ) :
    o.any (b < ·) = true ↔ ∃ a ∈ s, b < a := by
  cases o with
  | none =>
    obtain rfl : s = ∅ := h
    simp
  | some a =>
    simp only [Option.any_some, decide_eq_true_eq]
    exact ⟨fun hb => ⟨a, h.1, hb⟩, fun ⟨c, hc, hb⟩ => hb.trans_le (h.2 hc)⟩

/-! ### The layer of an input -/

/-- The layer is switched on. -/
def LayerActive (activeLayers : BitVec 64) (layer : LayerId) : Prop :=
  ∃ mask, layerMaskBit layer = some mask ∧ activeLayers &&& mask ≠ 0#64

theorem LayerActive.pos {activeLayers : BitVec 64} {layer : LayerId}
    (h : LayerActive activeLayers layer) : 0 < layer := by
  obtain ⟨mask, hmask, -⟩ := h
  by_contra hzero
  simp [layerMaskBit, Nat.eq_zero_of_not_pos hzero] at hmask

theorem any_layerMaskBit {activeLayers : BitVec 64} {layer : LayerId} :
    ((layerMaskBit layer).any fun mask => activeLayers &&& mask != 0#64) = true ↔
      LayerActive activeLayers layer := by
  simp [LayerActive, Option.any_eq_true]

/-- The active layers with a binding of the input. -/
def claims (activeLayers : BitVec 64) (layouts : List ControlLayout)
    (input : RuntimePhysicalInput) : Set ℕ :=
  { layer | LayerActive activeLayers layer ∧ ∃ layout ∈ layouts, layout.control.layer = layer ∧
    input ∈ layout.input.inputs }

/-- A control claims one input. -/
theorem selectInputLayer_isTop (activeLayers : BitVec 64) (control : RuntimeControlBinding)
    {selected : RuntimePhysicalInput → Option LayerId} {s : RuntimePhysicalInput → Set ℕ}
    (h : ∀ input, IsTop (s input) (selected input)) (claimed input : RuntimePhysicalInput) :
    IsTop (s input ∪ { layer | LayerActive activeLayers layer ∧ control.layer = layer ∧
        input = claimed })
      (selectInputLayer activeLayers control selected claimed input) := by
  have hinactive : ((layerMaskBit control.layer).all fun mask => activeLayers &&& mask == 0#64) =
      true ↔ ¬ LayerActive activeLayers control.layer := by
    rw [← any_layerMaskBit]
    cases layerMaskBit control.layer <;> simp
  have hnew : ∀ {layer}, LayerActive activeLayers layer ∧ control.layer = layer ∧ input = claimed ↔
      layer = control.layer ∧ LayerActive activeLayers control.layer ∧ input = claimed := by
    intro layer
    constructor
    · rintro ⟨hactive, rfl, rfl⟩
      exact ⟨rfl, hactive, rfl⟩
    · rintro ⟨rfl, hactive, rfl⟩
      exact ⟨hactive, rfl, rfl⟩
  simp only [hnew]
  unfold selectInputLayer
  by_cases hactive : LayerActive activeLayers control.layer
  · rw [if_neg (by rw [hinactive]; simpa using hactive)]
    by_cases hinput : input = claimed
    · subst hinput
      have := (h input).insert control.layer
      rw [Set.insert_eq, Set.union_comm] at this
      simp only [hactive, and_self, and_true]
      split
      · next hall => simpa [hall] using this
      · next hall => simpa [hall] using this
    · have hkeep : (if (selected claimed).all fun layer => layer < control.layer then
          Function.update selected claimed (some control.layer) else selected) input =
          selected input := by
        split
        · exact Function.update_of_ne hinput ..
        · rfl
      rw [hkeep]
      simpa [hinput] using h input
  · rw [if_pos (hinactive.mpr hactive)]
    simpa [hactive] using h input

/-- A control claims its inputs. -/
theorem foldl_selectInputLayer_isTop (activeLayers : BitVec 64) (control : RuntimeControlBinding)
    (inputs : List RuntimePhysicalInput) {selected : RuntimePhysicalInput → Option LayerId}
    {s : RuntimePhysicalInput → Set ℕ} (h : ∀ input, IsTop (s input) (selected input))
    (input : RuntimePhysicalInput) :
    IsTop (s input ∪ { layer | LayerActive activeLayers layer ∧ control.layer = layer ∧
        input ∈ inputs }) (inputs.foldl (selectInputLayer activeLayers control) selected input) := by
  induction inputs generalizing selected s with
  | nil => simpa using h input
  | cons claimed inputs ih =>
    have hunion : s input ∪ { layer | LayerActive activeLayers layer ∧ control.layer = layer ∧
          input ∈ claimed :: inputs } =
        (s input ∪ { layer | LayerActive activeLayers layer ∧ control.layer = layer ∧
          input = claimed }) ∪ { layer | LayerActive activeLayers layer ∧ control.layer = layer ∧
          input ∈ inputs } := by
      ext layer
      simp only [Set.mem_union, Set.mem_ofPred_eq, List.mem_cons]
      tauto
    rw [List.foldl_cons, hunion]
    exact ih (selectInputLayer_isTop activeLayers control h claimed)

/-- **An input belongs to the highest active layer that has a binding of it.** -/
theorem refreshSelectedInputLayers_isTop (activeLayers : BitVec 64) (layouts : List ControlLayout)
    (input : RuntimePhysicalInput) :
    IsTop (claims activeLayers layouts input)
      (refreshSelectedInputLayers activeLayers layouts input) := by
  suffices h : ∀ (s : RuntimePhysicalInput → Set ℕ) (selected : RuntimePhysicalInput → Option LayerId),
      (∀ input, IsTop (s input) (selected input)) →
      IsTop (s input ∪ claims activeLayers layouts input)
        (layouts.foldl (fun selected layout => if layout.control.layer = .BASE then selected
          else layout.input.inputs.foldl (selectInputLayer activeLayers layout.control) selected)
          selected input) by
    simpa [refreshSelectedInputLayers] using h (fun _ => ∅) (fun _ => none) fun _ => isTop_none
  induction layouts with
  | nil =>
    intro s selected h
    simpa [claims] using h input
  | cons layout layouts ih =>
    intro s selected h
    have hsplit : claims activeLayers (layout :: layouts) input =
        { layer | LayerActive activeLayers layer ∧ layout.control.layer = layer ∧
          input ∈ layout.input.inputs } ∪ claims activeLayers layouts input := by
      ext layer
      simp only [claims, Set.mem_union, Set.mem_ofPred_eq, List.mem_cons, exists_eq_or_imp]
      tauto
    rw [List.foldl_cons, hsplit, ← Set.union_assoc]
    split
    · next hbase =>
      have hnone : { layer | LayerActive activeLayers layer ∧ layout.control.layer = layer ∧
          input ∈ layout.input.inputs } = ∅ := by
        refine Set.eq_empty_iff_forall_notMem.mpr ?_
        rintro layer ⟨hactive, rfl, -⟩
        exact absurd hactive.pos (by simp [hbase, LayerId.BASE])
      rw [hnone, Set.union_empty]
      exact ih s selected h
    · exact ih _ _ (foldl_selectInputLayer_isTop activeLayers layout.control layout.input.inputs h)

/-- While no layer is active, no input belongs to one. -/
theorem refreshSelectedInputLayers_none (layouts : List ControlLayout) :
    refreshSelectedInputLayers 0 layouts = fun _ => none := by
  funext input
  have h := refreshSelectedInputLayers_isTop 0 layouts input
  have hempty : claims 0 layouts input = ∅ := by
    refine Set.eq_empty_iff_forall_notMem.mpr ?_
    rintro layer ⟨⟨mask, -, hmask⟩, -⟩
    simp at hmask
  rw [hempty] at h
  cases hs : refreshSelectedInputLayers 0 layouts input with
  | none => rfl
  | some layer =>
    rw [hs] at h
    exact absurd h.1 (Set.notMem_empty layer)

/-- What `binding_available` asks of the layer: it is the base layer or active, and no higher
active layer has the input. -/
theorem bindingAvailable_eq {layouts : List ControlLayout} {held : HeldInputs}
    (hselected : held.selectedInputLayers =
      refreshSelectedInputLayers held.activeLayers layouts)
    (control : RuntimeControlBinding) (input : RuntimePhysicalInput) :
    bindingAvailable control input held = true ↔
      (control.layer = .BASE ∨ LayerActive held.activeLayers control.layer) ∧
      (∀ modifier, control.modifier = some modifier → held.heldModifiers.contains modifier = true) ∧
      control.isSuppressed input held.heldModifiers = false ∧
      ¬ ∃ layer ∈ claims held.activeLayers layouts input, control.layer < layer := by
  have htop := hselected ▸ refreshSelectedInputLayers_isTop held.activeLayers layouts input
  have hhigher : ((held.selectedInputLayers input).any fun layer =>
      control.layer == .BASE || control.layer < layer) = true ↔
      ∃ layer ∈ claims held.activeLayers layouts input, control.layer < layer := by
    rw [← htop.any_lt]
    cases hs : held.selectedInputLayers input with
    | none => simp
    | some layer =>
      rw [hs] at htop
      have hpos : 0 < layer := htop.1.1.pos
      simp only [Option.any_some, Bool.or_eq_true, beq_iff_eq, decide_eq_true_eq]
      exact ⟨fun h => h.elim (fun hbase => hbase ▸ hpos) id, .inr⟩
  unfold bindingAvailable bindingConditionAvailable
  split
  · next h => simp [hhigher.mp h]
  · next h =>
    rw [hhigher] at h
    simp only [Bool.and_eq_true, Bool.or_eq_true, beq_iff_eq, any_layerMaskBit, Option.all_eq_true,
      Bool.not_eq_true', h, not_false_eq_true, and_true, and_assoc]

end Wroid
