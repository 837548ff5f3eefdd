import Mathlib

/-!
# Loops that collect errors

A validator walks over lists, remembers what it has seen in sets, and pushes an error for
every rule that is broken.  What matters in the end is whether the errors are empty, and
that does not depend on what the loop does after the first error.

## Main definitions

* `errorIf c e` — the error `e` if the rule is broken.
* `scan step` — visit a list, threading a state and collecting errors.

## Main results

* `scan_repeated_eq_nil` — a loop that passes over what it has seen before in the same list.
* `scan_modify_eq_nil` — what changing one element does to the errors.
* `scan_eq_nil` — **a loop that rejects keys it has seen collects nothing iff every element
  is fine by itself and no key comes twice.**
-/

namespace Wroid.Lib

variable {α ε σ κ : Type}

/-- One error, if the condition holds. -/
def errorIf (c : Prop) [Decidable c] (e : ε) : List ε := if c then [e] else []

@[simp] theorem errorIf_eq_nil {c : Prop} [Decidable c] {e : ε} : errorIf c e = [] ↔ ¬ c := by
  unfold errorIf
  split <;> simp_all

/-- Visit the elements of a list, threading a state and collecting errors. -/
def scan (step : σ → α → List ε × σ) : List α → σ → List ε × σ
  | [], s => ([], s)
  | a :: as, s =>
    let r := step s a
    let rest := scan step as r.2
    (r.1 ++ rest.1, rest.2)

@[simp] theorem scan_nil (step : σ → α → List ε × σ) (s : σ) : scan step [] s = ([], s) := rfl

theorem scan_cons_fst (step : σ → α → List ε × σ) (a : α) (as : List α) (s : σ) :
    (scan step (a :: as) s).1 = (step s a).1 ++ (scan step as (step s a).2).1 := rfl

theorem scan_cons_snd (step : σ → α → List ε × σ) (a : α) (as : List α) (s : σ) :
    (scan step (a :: as) s).2 = (scan step as (step s a).2).2 := rfl

theorem scan_map {β : Type} (step : σ → β → List ε × σ) (f : α → β) (as : List α) (s : σ) :
    scan step (as.map f) s = scan (fun s a => step s (f a)) as s := by
  induction as generalizing s with
  | nil => rfl
  | cons a as ih => rw [List.map_cons, scan, scan, ih]

section Modify

variable {step : σ → α → List ε × σ} {f : α → α} {c : Prop}

/-- Another value for one element, which leaves the state of the loop as it was: nothing is
collected iff the new element has no errors where the old one had none. -/
theorem scan_modify_eq_nil {i : ℕ} {a : α} (hstate : ∀ s, (step s (f a)).2 = (step s a).2)
    (hc : ∀ s, (step s a).1 = [] → ((step s (f a)).1 = [] ↔ c)) {as : List α} {s : σ}
    (hi : as[i]? = some a) (h : (scan step as s).1 = []) :
    (scan step (as.modify i f) s).1 = [] ↔ c := by
  induction as generalizing i s with
  | nil => simp at hi
  | cons b as ih =>
    rw [scan_cons_fst, List.append_eq_nil_iff] at h
    cases i with
    | zero =>
      obtain rfl : b = a := by simpa using hi
      rw [List.modify_zero_cons, scan_cons_fst, List.append_eq_nil_iff, hstate, hc s h.1]
      exact and_iff_left h.2
    | succ i =>
      rw [List.modify_succ_cons, scan_cons_fst, List.append_eq_nil_iff,
        ih (by simpa using hi) h.2]
      exact and_iff_right h.1

end Modify

/-! ### Passing over repetitions -/

section Repeated

variable {ι : Type} {step : List κ × List ι → α → List ε × List κ × List ι} {mark : α → κ}
  {key : α → ι} {fine : α → Prop}

/-- The loop has a list of what this run has used and one of all keys so far. -/
structure PassesOver (step : List κ × List ι → α → List ε × List κ × List ι) (mark : α → κ)
    (key : α → ι) (fine : α → Prop) : Prop where
  used : ∀ s a, mark a ∈ s.1 → step s a = ([], s)
  errors : ∀ s a, mark a ∉ s.1 → ((step s a).1 = [] ↔ key a ∉ s.2 ∧ fine a)
  next : ∀ s a, mark a ∉ s.1 → (step s a).2 = (mark a :: s.1, key a :: s.2)
  key_iff : ∀ a b, key a = key b ↔ mark a = mark b
  fine_of_eq : ∀ a b, mark a = mark b → fine a → fine b

/-- From some place in the list on. -/
theorem scan_used_eq_nil (h : PassesOver step mark key fine) (seen₀ : List ι) {as : List α}
    {used : List κ} {seen : List ι}
    (hseen : ∀ a, key a ∈ seen ↔ key a ∈ seen₀ ∨ mark a ∈ used) :
    (scan step as (used, seen)).1 = [] ↔
      ∀ a ∈ as, mark a ∉ used → key a ∉ seen₀ ∧ fine a := by
  induction as generalizing used seen with
  | nil => simp
  | cons a as ih =>
    rw [scan_cons_fst, List.append_eq_nil_iff, List.forall_mem_cons]
    by_cases hused : mark a ∈ used
    · rw [h.used _ _ hused, ih hseen]
      simp [hused]
    · have hnext : ∀ b, key b ∈ key a :: seen ↔ key b ∈ seen₀ ∨ mark b ∈ mark a :: used := by
        intro b
        rw [List.mem_cons, List.mem_cons, hseen, h.key_iff]
        exact or_left_comm
      rw [h.errors _ _ hused, h.next _ _ hused, ih hnext, hseen]
      simp only [hused, or_false, not_false_eq_true, true_imp_iff, List.mem_cons, not_or]
      constructor
      · rintro ⟨hfine, hrest⟩
        refine ⟨hfine, fun b hb hnot => ?_⟩
        by_cases heq : mark b = mark a
        · -- The same element was looked at before.
          rw [(h.key_iff b a).mpr heq]
          exact ⟨hfine.1, h.fine_of_eq a b heq.symm hfine.2⟩
        · exact hrest b hb ⟨heq, hnot⟩
      · rintro ⟨hfine, hrest⟩
        exact ⟨hfine, fun b hb hnot => hrest b hb hnot.2⟩

/-- Nothing is collected iff every key is new and every element is fine. -/
theorem scan_repeated_eq_nil (h : PassesOver step mark key fine) {as : List α}
    {seen : List ι} : (scan step as ([], seen)).1 = [] ↔ ∀ a ∈ as, key a ∉ seen ∧ fine a := by
  rw [scan_used_eq_nil h seen fun a => (or_iff_left List.not_mem_nil).symm]
  simp

theorem mem_scan_used (h : PassesOver step mark key fine) {as : List α} {used : List κ}
    {seen : List ι} (hused : ∀ a, mark a ∈ used → key a ∈ seen) (x : ι) :
    x ∈ (scan step as (used, seen)).2.2 ↔ x ∈ seen ∨ ∃ a ∈ as, x = key a := by
  induction as generalizing used seen with
  | nil => simp
  | cons a as ih =>
    rw [scan_cons_snd]
    by_cases hmem : mark a ∈ used
    · rw [h.used _ _ hmem, ih hused]
      have hkey : key a ∈ seen := hused a hmem
      constructor
      · rintro (hx | ⟨b, hb, rfl⟩)
        · exact .inl hx
        · exact .inr ⟨b, List.mem_cons_of_mem _ hb, rfl⟩
      · rintro (hx | ⟨b, hb, rfl⟩)
        · exact .inl hx
        · rcases List.mem_cons.mp hb with rfl | hb
          · exact .inl hkey
          · exact .inr ⟨b, hb, rfl⟩
    · have hnext : ∀ b, mark b ∈ mark a :: used → key b ∈ key a :: seen := by
        intro b hb
        rcases List.mem_cons.mp hb with hb | hb
        · exact List.mem_cons.mpr (.inl ((h.key_iff b a).mpr hb))
        · exact List.mem_cons_of_mem _ (hused b hb)
      rw [h.next _ _ hmem, ih hnext]
      simp only [List.mem_cons, exists_eq_or_imp]
      tauto

/-- Afterwards all keys have been seen. -/
theorem mem_scan_repeated (h : PassesOver step mark key fine) {as : List α} {seen : List ι}
    (x : ι) : x ∈ (scan step as ([], seen)).2.2 ↔ x ∈ seen ∨ ∃ a ∈ as, x = key a :=
  mem_scan_used h (fun _ hmem => absurd hmem List.not_mem_nil) x

end Repeated

section Seen

variable {step : σ → α → List ε × σ} (Seen : σ → κ → Prop) (ok : α → Prop) (keys : α → Set κ)

/-- **A loop that rejects keys it has seen.**  `Seen` reads the keys out of the state; only
visits without an error have to update it as expected. -/
theorem scan_eq_nil (hstep : ∀ s a, (step s a).1 = [] ↔ ok a ∧ ∀ k ∈ keys a, ¬ Seen s k)
    (hseen : ∀ s a, (step s a).1 = [] → ∀ k, Seen (step s a).2 k ↔ Seen s k ∨ k ∈ keys a)
    {as : List α} {s : σ} :
    (scan step as s).1 = [] ↔ (∀ a ∈ as, ok a ∧ ∀ k ∈ keys a, ¬ Seen s k) ∧
      as.Pairwise fun a b => Disjoint (keys a) (keys b) := by
  induction as generalizing s with
  | nil => simp
  | cons a as ih =>
    rw [scan_cons_fst, List.append_eq_nil_iff, List.forall_mem_cons, List.pairwise_cons, ih]
    constructor
    · rintro ⟨ha, hrest, hpair⟩
      have hkeys := hseen s a ha
      refine ⟨⟨(hstep s a).mp ha, fun b hb => ⟨(hrest b hb).1, fun k hk hs =>
        (hrest b hb).2 k hk ((hkeys k).mpr (.inl hs))⟩⟩, fun b hb => ?_, hpair⟩
      rw [Set.disjoint_left]
      exact fun k hka hkb => (hrest b hb).2 k hkb ((hkeys k).mpr (.inr hka))
    · rintro ⟨⟨ha, hrest⟩, hdisj, hpair⟩
      have ha' := (hstep s a).mpr ha
      refine ⟨ha', fun b hb => ⟨(hrest b hb).1, fun k hk hs => ?_⟩, hpair⟩
      rcases (hseen s a ha' k).mp hs with hs | hka
      · exact (hrest b hb).2 k hk hs
      · exact Set.disjoint_left.mp (hdisj b hb) hka hk

end Seen

end Wroid.Lib
