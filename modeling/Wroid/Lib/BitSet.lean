import Mathlib

/-!
# Sets of small numbers in a machine word

A word of `w` bits holds a set of numbers below `w`, one bit each.  The four operations on
such sets are the four bitwise operations with a single-bit mask.

## Main definitions

* `hasBit m i` — the number `i` is in the set `m`, tested with a mask.

## Main results

* `hasBit_insert`, `hasBit_remove`, `hasBit_flip` — what the operations do to membership.
* `and_ne_zero` — two sets meet iff some number is in both.
-/

namespace Wroid.Lib

open BitVec

variable {w : ℕ} {m n : BitVec w} {i j : ℕ}

/-- The mask test `m & (1 << i) != 0`. -/
def hasBit (m : BitVec w) (i : ℕ) : Bool := m &&& twoPow w i != 0#w

theorem hasBit_eq : hasBit m i = m.getLsbD i := by
  rw [hasBit, and_twoPow]
  cases h : m.getLsbD i with
  | false => simp
  | true =>
    have hi : i < w := lt_of_getLsbD h
    rw [if_pos rfl, bne_iff_ne]
    intro hzero
    have : (twoPow w i).getLsbD i = (0#w).getLsbD i := by rw [hzero]
    simp [hi] at this

@[simp] theorem hasBit_zero : hasBit (0#w) i = false := by simp [hasBit]

/-- `m | (1 << i)` -/
theorem hasBit_insert (hi : i < w) : hasBit (m ||| twoPow w i) j = (hasBit m j || decide (i = j)) := by
  simp [hasBit_eq, getLsbD_or, getLsbD_twoPow, hi]

/-- `m & !(1 << i)` -/
theorem hasBit_remove (hi : i < w) : hasBit (m &&& ~~~twoPow w i) j = (hasBit m j && decide (i ≠ j)) := by
  rw [hasBit_eq, hasBit_eq, getLsbD_and, getLsbD_not, getLsbD_twoPow]
  by_cases hj : j < w
  · simp [hi, hj]
  · simp [getLsbD_of_ge m j (by omega)]

/-- `m ^ (1 << i)` -/
theorem hasBit_flip (hi : i < w) : hasBit (m ^^^ twoPow w i) j = (hasBit m j ^^ decide (i = j)) := by
  simp [hasBit_eq, getLsbD_xor, getLsbD_twoPow, hi]

/-- Two sets meet iff a number is in both. -/
theorem and_ne_zero : m &&& n ≠ 0#w ↔ ∃ i, hasBit m i = true ∧ hasBit n i = true := by
  simp only [hasBit_eq]
  constructor
  · intro h
    by_contra hnone
    push Not at hnone
    refine h (eq_of_getLsbD_eq fun i _ => ?_)
    rw [getLsbD_and, getLsbD_zero]
    cases hm : m.getLsbD i with
    | false => rfl
    | true => simpa using hnone i hm
  · rintro ⟨i, hm, hn⟩ h
    have : (m &&& n).getLsbD i = (0#w).getLsbD i := by rw [h]
    simp [getLsbD_and, hm, hn] at this

end Wroid.Lib
