import Wroid.Session.Identifiers

/-!
# What becomes of an accepted profile

The validator, the plan and the runtime check a profile one after the other.  Each relies on
the checks before it, so they have to agree on names, layers, limits and identifiers.

## Main definitions

* `PlansSafely` — the validator, the plan and the runtime agree on a profile.
* `lost` — a profile with a binding whose layer number does not fit an identifier.

## Main results

* `plansSafely_iff` — **they agree exactly if no layer number is lost before the check of the
  profile and no aim comes after the last identifiers**.
* `overcrowded_not_safe` — the runtime turns down the plan of an accepted profile, and a
  rejected profile makes the plan panic.
-/

namespace Wroid

open Lib

namespace UnifiedRuntime

variable {I : Type} {injector : I} {profile : ProfileV2} {resolution : Resolution}

/-- A profile that is accepted is planned and started, or has an action without counterpart;
a profile that is rejected is turned down with an error. -/
structure PlansSafely (profile : ProfileV2) (resolution : Resolution) (injector : I) : Prop where
  keys : ∀ value, knownKeyName value = true →
    ∃ key, HostKeyName.parse value = some key ∧ key.profileName = canonicalKey value
  accepted : profile.validate = .ok () →
    (∃ plan rt, RuntimeControlPlan.fromProfileV2 profile resolution = .ok plan ∧
      new plan injector = .ok rt) ∨
    ((∃ binding ∈ profile.bindings, ¬ binding.action.Supported) ∧
      ∃ e, RuntimeControlPlan.fromProfileV2 profile resolution = .error (.error e) ∧ e.AboutAction)
  rejected : ∀ errors, profile.validate = .error errors →
    ∃ e, RuntimeControlPlan.fromProfileV2 profile resolution = .error (.error e)

theorem knownKeyName_parse {value : String} (h : knownKeyName value = true) :
    ∃ key, HostKeyName.parse value = some key ∧ key.profileName = canonicalKey value := by
  obtain ⟨key, hkey⟩ := HostKeyName.exists_parse.mpr h
  exact ⟨key, hkey, (HostKeyName.parse_eq_some.mp hkey).symm⟩

/-- An accepted profile is planned and started if its actions have counterparts and its aims
get two identifiers each. -/
theorem started_iff (h : profile.Accepts .rust) (hw : resolution.width ≠ 0)
    (hh : resolution.height ≠ 0) (hsupported : ∀ binding ∈ profile.bindings, binding.action.Supported) :
    (∃ plan rt, RuntimeControlPlan.fromProfileV2 profile resolution = .ok plan ∧
      new plan injector = .ok rt) ↔ AimsNumbered 1 (profile.bindings.map BindingV2.action) := by
  obtain ⟨plan, hplan⟩ := (fromProfileV2_of_accepts h hw hh).1 hsupported
  rw [← new_ok_iff hplan]
  constructor
  · rintro ⟨plan', rt, hplan', hnew⟩
    obtain rfl := Except.ok.inj (hplan.symm.trans hplan')
    exact ⟨rt, hnew⟩
  · rintro ⟨rt, hnew⟩
    exact ⟨plan, rt, hplan, hnew⟩

/-- The last aim of a crowd comes after all the other aims. -/
theorem crowd_not_numbered {aims : ℕ} (h : u16Max ≤ 1 + 2 * aims) :
    ¬ AimsNumbered 1 ((crowd (aims + 1)).bindings.map BindingV2.action) := by
  intro hnumbered
  have hsplit : (crowd (aims + 1)).bindings.map BindingV2.action =
      (List.range aims).map (BindingV2.action ∘ crowdAim) ++
        (crowdAim aims).action :: [crowdHold.action] := by
    simp [crowd, List.range_succ]
  have hlast := hnumbered _ _ _ hsplit rfl
  have hsum : ((List.range aims).map (ActionV2.planContacts ∘ BindingV2.action ∘ crowdAim)).sum =
      2 * aims := by
    simp [Function.comp_def, crowdAim, ActionV2.planContacts, Nat.mul_comm]
  rw [List.map_map, hsum] at hlast
  omega

/-- A profile with too many layers and a binding in the one that is numbered one too high. -/
def lost : ProfileV2 where
  schemaVersion := 2
  name := "lost"
  packageName := "com.example.lost"
  layers := List.replicate 65535 ⟨"first", .hold "tab"⟩ ++ [⟨"last", .hold "q"⟩]
  bindings := [⟨"fire", some "last", none, .key "f", .hold ⟨1/2, 1/2⟩⟩]

theorem findIdx?_replicate_append {α : Type} {p : α → Bool} {a b : α} {n : ℕ} (ha : p a = false)
    (hb : p b = true) : (List.replicate n a ++ [b]).findIdx? p = some n := by
  rw [List.findIdx?_append, List.findIdx?_eq_none_iff.mpr (by simp [ha])]
  simp [hb]

theorem lost_not_counted : ¬ lost.LayersCounted := by
  intro h
  obtain ⟨other, hother, -⟩ := h [] _ [] rfl ⟨"last", 65535, rfl,
    findIdx?_replicate_append (by decide) (by decide), by decide⟩
  simp at hother

theorem lost_rejected : ¬ lost.Accepts .rust := by
  intro h
  have hcount := h.layer_count
  rw [lost, List.length_append, List.length_replicate] at hcount
  omega

/-- **The validator, the plan and the runtime agree on a profile** exactly if no layer is lost
before the profile is checked, and, when the profile is accepted and its actions have
counterparts, every aim comes while two identifiers are left. -/
theorem plansSafely_iff (profile : ProfileV2) (injector : I) (hw : resolution.width ≠ 0)
    (hh : resolution.height ≠ 0) :
    PlansSafely profile resolution injector ↔ profile.LayersCounted ∧
      (profile.validate = .ok () → (∀ binding ∈ profile.bindings, binding.action.Supported) →
        AimsNumbered 1 (profile.bindings.map BindingV2.action)) := by
  by_cases haccepts : profile.Accepts .rust
  · have hvalid := validate_eq_ok.mpr haccepts
    have hcounted : profile.LayersCounted := fun before binding rest hsplit hover =>
      ((accepts_layersCounted haccepts).1 binding (by simp [hsplit]) hover).elim
    refine ⟨fun h => ⟨hcounted, fun _ hsupported => ?_⟩, fun ⟨_, haims⟩ =>
      ⟨fun _ => knownKeyName_parse, fun _ => ?_, fun errors herrors => ?_⟩⟩
    · rcases h.accepted hvalid with hstarted | ⟨⟨binding, hb, hno⟩, -⟩
      · exact (started_iff haccepts hw hh hsupported).mp hstarted
      · exact (hno (hsupported binding hb)).elim
    · by_cases hsupported : ∀ binding ∈ profile.bindings, binding.action.Supported
      · exact .inl ((started_iff haccepts hw hh hsupported).mpr (haims hvalid hsupported))
      · push Not at hsupported
        exact .inr ⟨hsupported, (fromProfileV2_of_accepts haccepts hw hh).2 hsupported⟩
    · rw [hvalid] at herrors
      cases herrors
  · have hinvalid : profile.validate ≠ .ok () := fun h => haccepts (validate_eq_ok.mp h)
    have hiff := @fromProfileV2_of_invalid profile resolution haccepts
    refine ⟨fun h => ⟨hiff.mp ?_, fun hvalid => (hinvalid hvalid).elim⟩, fun ⟨hcounted, _⟩ =>
      ⟨fun _ => knownKeyName_parse, fun hvalid => (hinvalid hvalid).elim, fun _ _ => hiff.mpr hcounted⟩⟩
    cases hv : profile.validate with
    | ok u => exact (hinvalid hv).elim
    | error errors => exact h.rejected errors hv

theorem crowd_plansSafely : PlansSafely (crowd 1) ⟨1280, 720⟩ () :=
  (plansSafely_iff (crowd 1) () (by decide) (by decide)).mpr
    ⟨fun before binding rest hsplit hover =>
      ((accepts_layersCounted (crowd_accepts 1)).1 binding (by simp [hsplit]) hover).elim,
      fun _ _ => crowd_aimsNumbered (by decide)⟩

/-- The identifiers of the last of 32768 aims are equal, and the runtime turns them down; the
number of a layer after 65535 others overflows before the profile is checked. -/
theorem overcrowded_not_safe :
    ¬ PlansSafely (crowd 32768) ⟨1280, 720⟩ () ∧ ¬ PlansSafely lost ⟨1280, 720⟩ () := by
  constructor
  · intro h
    have haccepts := crowd_accepts 32768
    have hsupported := crowd_supported 32768
    rcases h.accepted (validate_eq_ok.mpr haccepts) with hstarted | ⟨⟨binding, hb, hno⟩, -⟩
    · refine @crowd_not_numbered 32767 (by decide) ?_
      exact (started_iff haccepts (by decide) (by decide) hsupported).mp hstarted
    · exact hno (hsupported binding hb)
  · intro h
    cases hv : lost.validate with
    | ok u => exact lost_rejected (validate_eq_ok.mp hv)
    | error errors =>
      exact lost_not_counted ((fromProfileV2_of_invalid lost_rejected).mp (h.rejected errors hv))

end UnifiedRuntime

end Wroid
