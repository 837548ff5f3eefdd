import Wroid.Runtime.ControlPlan

/-!
# The suppression table of a profile

The table of an unmodified binding is built once, when the plan is.  It says of every input of the
binding whether a held modifier mutes it, and it says so of the names of the profile: two names of
one key are one input, and two bindings are in one layer if the profile puts them there.

## Main definitions

* `BindingV2.Mutes` — the binding has the input, with a held modifier.

## Main results

* `resolveBindingLayer_eq_iff` — layers have one number each.
* `suppression_exact` — **the table has room for every binding, and it mutes an input exactly when
  the profile has a binding of the same layer with that input and a held modifier**.
-/

namespace Wroid

open Lib

/-- The binding has the input, with a modifier that is held. -/
def BindingV2.Mutes (input : RuntimePhysicalInput) (held : ModifierMask) (sibling : BindingV2) :
    Prop :=
  (∃ name key, sibling.modifier = some name ∧ HostKeyName.parse name = some key ∧
    held.contains key = true) ∧ input ∈ resolvedPhysicalInputs sibling.input

/-! ### Layers -/

/-- A named layer has the number of its place. -/
theorem resolveBindingLayer_some {layers : List LayerV2} {binding : BindingV2} {name : String}
    {layer : ℕ} (hlength : layers.length ≤ 64) (hname : binding.layer = some name)
    (h : resolveBindingLayer layers binding = .ok layer) :
    ∃ index, layers.findIdx? (·.name == name) = some index ∧ layer = index + 1 := by
  rw [resolveBindingLayer, hname] at h
  cases hfind : layers.findIdx? (·.name == name) with
  | none =>
    simp only [hfind] at h
    cases h
  | some index =>
    obtain ⟨hindex, -⟩ := List.findIdx?_eq_some_iff_getElem.mp hfind
    simp only [hfind, layerIdOfIndex_of_lt (show index < 64 by omega), Except.ok.injEq] at h
    exact ⟨index, rfl, h.symm⟩

/-- The base layer is the layer of the bindings without a layer. -/
theorem resolveBindingLayer_none {layers : List LayerV2} {binding : BindingV2} {layer : ℕ}
    (hname : binding.layer = none) (h : resolveBindingLayer layers binding = .ok layer) :
    layer = 0 := by
  rw [resolveBindingLayer, hname] at h
  exact (Except.ok.inj h).symm

/-- **Bindings have the same layer number if and only if they name the same layer.** -/
theorem resolveBindingLayer_eq_iff {layers : List LayerV2} {binding binding' : BindingV2}
    {layer layer' : ℕ} (hlength : layers.length ≤ 64)
    (h : resolveBindingLayer layers binding = .ok layer)
    (h' : resolveBindingLayer layers binding' = .ok layer') :
    layer = layer' ↔ binding.layer = binding'.layer := by
  cases hname : binding.layer with
  | none =>
    have hlayer := resolveBindingLayer_none hname h
    cases hname' : binding'.layer with
    | none => exact iff_of_true (hlayer.trans (resolveBindingLayer_none hname' h').symm) rfl
    | some name' =>
      obtain ⟨index', -, hlayer'⟩ := resolveBindingLayer_some hlength hname' h'
      refine iff_of_false ?_ nofun
      omega
  | some name =>
    obtain ⟨index, hindex, hlayer⟩ := resolveBindingLayer_some hlength hname h
    cases hname' : binding'.layer with
    | none =>
      have hlayer' := resolveBindingLayer_none hname' h'
      refine iff_of_false ?_ nofun
      omega
    | some name' =>
      obtain ⟨index', hindex', hlayer'⟩ := resolveBindingLayer_some hlength hname' h'
      constructor
      · -- the layer at that place has both names
        intro heq
        obtain rfl : index = index' := by omega
        obtain ⟨hlt, hfirst, -⟩ := List.findIdx?_eq_some_iff_getElem.mp hindex
        obtain ⟨_, hfirst', -⟩ := List.findIdx?_eq_some_iff_getElem.mp hindex'
        rw [beq_iff_eq] at hfirst hfirst'
        rw [← hfirst, ← hfirst']
      · intro heq
        rw [Option.some.inj heq, hindex', Option.some.injEq] at hindex
        omega

/-! ### The table -/

/-- **Building the table of a binding always has room for its inputs; and an input of an unmodified
binding is muted exactly when the profile has a binding of the same layer with that input and a
held modifier.** -/
theorem suppression_exact (profile : ProfileV2) (resolution : Resolution) :
    (∀ binding layer siblings, ∃ table,
      precomputeSiblingSuppression binding layer siblings = .ok table ∧
        table.entries.length ≤ 4) ∧
    ∀ plan, RuntimeControlPlan.fromProfileV2 profile resolution = .ok plan →
      List.Forall₂ (fun binding control => control.modifier = none →
        ∀ input ∈ resolvedPhysicalInputs binding.input, ∀ held,
          (control.isSuppressed input held = true ↔
            ∃ sibling ∈ profile.bindings, sibling.layer = binding.layer ∧
              sibling.Mutes input held)) profile.bindings plan.controls := by
  constructor
  · intro binding layer siblings
    obtain ⟨table, hbuilt, hroom, -⟩ := precomputeSiblingSuppression_spec binding layer siblings
    exact ⟨table, hbuilt, hroom⟩
  intro plan hplan
  have hreal := fromProfileV2_realizes hplan
  have hcount : profile.layers.length ≤ 64 := hreal.accepted.layer_count
  refine List.forall₂_iff_zip.mpr ⟨hreal.controls.length_eq, ?_⟩
  intro binding control hpair hmodifier input hinput held
  have hmade := (List.forall₂_iff_zip.mp hreal.controls).2 hpair
  have hcontrol := (List.of_mem_zip hpair).2
  rw [hreal.suppression control hcontrol input held, hmade.input]
  constructor
  · rintro ⟨-, -, other, hother, hlayer, hin, key, hkey, hheld⟩
    obtain ⟨sibling, hsibling, hmade'⟩ := forall₂_exists_left hreal.controls hother
    refine ⟨sibling, hsibling, ?_, ?_, hmade'.input ▸ hin⟩
    · exact (resolveBindingLayer_eq_iff hcount hmade'.layer hmade.layer).mp hlayer
    · rw [hmade'.modifier, Option.bind_eq_some_iff] at hkey
      obtain ⟨name, hname, hparse⟩ := hkey
      exact ⟨name, key, hname, hparse, hheld⟩
  · rintro ⟨sibling, hsibling, hlayer, ⟨name, key, hname, hparse, hheld⟩, hin⟩
    obtain ⟨other, hother, hmade'⟩ := forall₂_exists_right hreal.controls hsibling
    refine ⟨hmodifier, hinput, other, hother, ?_, ?_, key, ?_, hheld⟩
    · exact (resolveBindingLayer_eq_iff hcount hmade'.layer hmade.layer).mpr hlayer
    · rwa [hmade'.input]
    · rw [hmade'.modifier, Option.bind_eq_some_iff]
      exact ⟨name, hname, hparse⟩

end Wroid
