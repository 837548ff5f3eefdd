import Mathlib

/-!
# Numbers in ECMAScript objects

A numeric field of an object may be absent, hold `null` or hold a number, and arithmetic
first turns what it is given into a number.  Numbers are exact rationals with not-a-number
beside them; infinities and the negative zero are left out.

## Main definitions

* `JsNumber` — what a numeric field can hold.
* `JsNumber.lift`, `JsNumber.lift₂` — arithmetic, with the conversion of its operands.
* `mathRound`, `toFixed` — rounding to an integer and to decimals.
* `gridRound step` — rounding to the multiples of a step, halves upwards.

## Main results

* `gridRound_le_iff` — **rounding stays below a bound iff the number lies below the middle
  after the last multiple that does.**
* `exists_toFixed_eq` — decimal rounding stays between decimals.
* `toFixed_eq_gridRound` — where decimal rounding is rounding to a grid.
-/

namespace Wroid.Lib

/-- What a numeric field of an object can hold. -/
inductive JsNumber
  | undefined
  | null
  | nan
  | number (value : ℚ)
  deriving DecidableEq, Repr

namespace JsNumber

/-- The number an operand stands for; `none` is not-a-number. -/
def toNumber : JsNumber → Option ℚ
  | .undefined | .nan => none
  | .null => some 0
  | .number value => some value

/-- The outcome of a computation. -/
def ofResult : Option ℚ → JsNumber
  | none => .nan
  | some value => .number value

/-- A computation with one operand. -/
def lift (f : ℚ → ℚ) (a : JsNumber) : JsNumber := ofResult (a.toNumber.map f)

/-- A computation with two operands. -/
def lift₂ (f : ℚ → ℚ → ℚ) (a b : JsNumber) : JsNumber :=
  ofResult (a.toNumber.bind fun x => b.toNumber.map (f x))

instance : Add JsNumber := ⟨lift₂ (· + ·)⟩

instance : Sub JsNumber := ⟨lift₂ (· - ·)⟩

instance : Mul JsNumber := ⟨lift₂ (· * ·)⟩

/-- `Math.min` -/
def mathMin : JsNumber → JsNumber → JsNumber := lift₂ min

/-- `Math.max` -/
def mathMax : JsNumber → JsNumber → JsNumber := lift₂ max

/-- A comparison; it fails when an operand is not a number. -/
def Compare (r : ℚ → ℚ → Prop) (a b : JsNumber) : Prop :=
  ∃ x ∈ a.toNumber, ∃ y ∈ b.toNumber, r x y

instance (r : ℚ → ℚ → Prop) [DecidableRel r] (a b : JsNumber) : Decidable (Compare r a b) :=
  inferInstanceAs (Decidable (∃ x ∈ a.toNumber, ∃ y ∈ b.toNumber, r x y))

instance : LT JsNumber := ⟨Compare (· < ·)⟩

instance : LE JsNumber := ⟨Compare (· ≤ ·)⟩

instance (a b : JsNumber) : Decidable (a < b) := inferInstanceAs (Decidable (Compare _ a b))

instance (a b : JsNumber) : Decidable (a ≤ b) := inferInstanceAs (Decidable (Compare _ a b))

/-- `Number.isFinite` -/
def isFinite : JsNumber → Bool
  | .number _ => true
  | .undefined | .null | .nan => false

/-- `a ?? default` -/
def orElse (a : JsNumber) (default : ℚ) : JsNumber :=
  match a with
  | .undefined | .null => .number default
  | .nan => .nan
  | .number value => .number value

/-- What the field holds after it was written as JSON and read again. -/
def clone : JsNumber → JsNumber
  | .nan => .null
  | .undefined => .undefined
  | .null => .null
  | .number value => .number value

section Api

variable {x y : ℚ}

@[simp] theorem toNumber_number : (number x).toNumber = some x := rfl

@[simp] theorem lift_number (f : ℚ → ℚ) : lift f (.number x) = .number (f x) := rfl

@[simp] theorem number_add : number x + number y = .number (x + y) := rfl

@[simp] theorem number_sub : number x - number y = .number (x - y) := rfl

@[simp] theorem number_mul : number x * number y = .number (x * y) := rfl

@[simp] theorem lift₂_number (f : ℚ → ℚ → ℚ) :
    lift₂ f (.number x) (.number y) = .number (f x y) := rfl

@[simp] theorem mathMin_number : mathMin (.number x) (.number y) = .number (min x y) := rfl

@[simp] theorem mathMax_number : mathMax (.number x) (.number y) = .number (max x y) := rfl

@[simp] theorem number_lt_number : number x < number y ↔ x < y := by
  change Compare (· < ·) _ _ ↔ _
  simp [Compare]

@[simp] theorem number_le_number : number x ≤ number y ↔ x ≤ y := by
  change Compare (· ≤ ·) _ _ ↔ _
  simp [Compare]

@[simp] theorem isFinite_number : (number x).isFinite = true := rfl

@[simp] theorem orElse_number (default : ℚ) : (number x).orElse default = .number x := rfl

@[simp] theorem clone_number : (number x).clone = .number x := rfl

theorem isFinite_iff {a : JsNumber} : a.isFinite = true ↔ ∃ value, a = .number value := by
  cases a <;> simp [isFinite]

@[simp] theorem clone_clone (a : JsNumber) : a.clone.clone = a.clone := by
  cases a <;> rfl

end Api

end JsNumber

/-! ### Rounding -/

/-- `Math.round`: to the nearest integer, halves upwards. -/
def mathRound (q : ℚ) : ℤ := ⌊q + 1 / 2⌋

/-- `Number(q.toFixed(precision))`: to the nearest decimal, halves away from zero. -/
def toFixed (precision : ℕ) (q : ℚ) : ℚ :=
  if 0 ≤ q then mathRound (q * 10 ^ precision) / 10 ^ precision
  else -(mathRound (-q * 10 ^ precision) / 10 ^ precision)

/-- To the nearest multiple of the step, halves upwards. -/
def gridRound (step q : ℚ) : ℚ := mathRound (q / step) * step

section Grid

variable {step q bound : ℚ}

theorem le_mathRound_iff {z : ℤ} : z ≤ mathRound q ↔ z - 1 / 2 ≤ q := by
  rw [mathRound, Int.le_floor]
  constructor <;> intro h <;> linarith

theorem mathRound_le_iff {z : ℤ} : mathRound q ≤ z ↔ q < z + 1 / 2 := by
  rw [mathRound, ← Int.lt_add_one_iff, Int.floor_lt]
  push_cast
  constructor <;> intro h <;> linarith

@[simp] theorem mathRound_intCast (z : ℤ) : mathRound z = z := by
  apply le_antisymm
  · rw [mathRound_le_iff]
    linarith
  · rw [le_mathRound_iff]
    linarith

/-- **Rounding to a grid stays below a bound iff the number lies below the middle after the
last multiple that does.** -/
theorem gridRound_le_iff (hstep : 0 < step) :
    gridRound step q ≤ bound ↔ q < (⌊bound / step⌋ + 1 / 2) * step := by
  rw [gridRound, ← le_div_iff₀ hstep, ← Int.le_floor, mathRound_le_iff, div_lt_iff₀ hstep]

theorem gridRound_nonneg (hstep : 0 < step) (hq : -(step / 2) ≤ q) : 0 ≤ gridRound step q := by
  have h : (0 : ℤ) ≤ mathRound (q / step) := by
    rw [le_mathRound_iff, le_div_iff₀ hstep]
    push_cast
    linarith
  have h' : (0 : ℚ) ≤ mathRound (q / step) := by exact_mod_cast h
  exact mul_nonneg h' hstep.le

/-- Rounding gives something positive from half a step on. -/
theorem gridRound_pos_iff (hstep : 0 < step) : 0 < gridRound step q ↔ step / 2 ≤ q := by
  have h : 0 < mathRound (q / step) ↔ step / 2 ≤ q := by
    rw [← Int.add_one_le_iff, le_mathRound_iff, le_div_iff₀ hstep]
    push_cast
    constructor <;> intro h <;> linarith
  rw [gridRound, mul_pos_iff_of_pos_right hstep, ← h]
  exact Int.cast_pos

theorem gridRound_le_of_le_multiple {z : ℤ} (hstep : 0 < step) (h : q < (z + 1 / 2) * step) :
    gridRound step q ≤ z * step := by
  rw [gridRound_le_iff hstep, mul_div_assoc, div_self hstep.ne', mul_one, Int.floor_intCast]
  exact h

/-- Decimal rounding is rounding to a grid, except for the halves below zero. -/
theorem toFixed_eq_gridRound {precision : ℕ} (hq : -(1 / 10 ^ precision / 2) < q) :
    toFixed precision q = gridRound (1 / 10 ^ precision) q := by
  have hpos : (0 : ℚ) < 10 ^ precision := by positivity
  have hdiv : q / (1 / 10 ^ precision) = q * 10 ^ precision := by rw [div_div_eq_mul_div, div_one]
  rw [gridRound, hdiv, mul_one_div]
  by_cases h : 0 ≤ q
  · rw [toFixed, if_pos h]
  -- Below zero both give zero.
  have hlow : -(1 / 2) < q * 10 ^ precision := by
    have h' := mul_lt_mul_of_pos_right hq hpos
    have e : -(1 / 10 ^ precision / 2) * (10 : ℚ) ^ precision = -(1 / 2) := by
      field_simp
    rwa [e] at h'
  have hhigh : q * 10 ^ precision < 0 := mul_neg_of_neg_of_pos (not_le.mp h) hpos
  have h₁ : mathRound (-q * 10 ^ precision) = 0 := by
    apply le_antisymm
    · rw [mathRound_le_iff]
      push_cast
      linarith
    · rw [le_mathRound_iff]
      push_cast
      linarith
  have h₂ : mathRound (q * 10 ^ precision) = 0 := by
    apply le_antisymm
    · rw [mathRound_le_iff]
      push_cast
      linarith
    · rw [le_mathRound_iff]
      push_cast
      linarith
  rw [toFixed, if_neg h, h₁, h₂]
  simp

/-- A decimal is not changed by rounding. -/
theorem toFixed_decimal {precision : ℕ} (z : ℕ) :
    toFixed precision (z / 10 ^ precision) = z / 10 ^ precision := by
  have hpos : (0 : ℚ) < 10 ^ precision := by positivity
  have h : mathRound ((z : ℚ) / 10 ^ precision * 10 ^ precision) = z := by
    rw [div_mul_cancel₀ _ hpos.ne']
    exact mathRound_intCast z
  rw [toFixed, if_pos (by positivity), h]
  rfl

/-- A number between two decimals is rounded to a decimal between them. -/
theorem exists_toFixed_eq {precision a b : ℕ} (ha : a / 10 ^ precision ≤ q)
    (hb : q ≤ b / 10 ^ precision) :
    ∃ k : ℕ, a ≤ k ∧ k ≤ b ∧ toFixed precision q = k / 10 ^ precision := by
  have hpos : (0 : ℚ) < 10 ^ precision := by positivity
  have hq : 0 ≤ q := le_trans (by positivity) ha
  rw [div_le_iff₀ hpos] at ha
  rw [le_div_iff₀ hpos] at hb
  have hlow : (a : ℤ) ≤ mathRound (q * 10 ^ precision) := by
    rw [le_mathRound_iff]
    push_cast
    linarith
  have hhigh : mathRound (q * 10 ^ precision) ≤ (b : ℤ) := by
    rw [mathRound_le_iff]
    push_cast
    linarith
  obtain ⟨k, hk⟩ := Int.eq_ofNat_of_zero_le (le_trans (Int.natCast_nonneg a) hlow)
  rw [hk] at hlow hhigh
  refine ⟨k, by exact_mod_cast hlow, by exact_mod_cast hhigh, ?_⟩
  rw [toFixed, if_pos hq, hk]
  rfl

/-- Decimal rounding goes up by half a decimal at most. -/
theorem toFixed_le {precision : ℕ} (hq : 0 ≤ q) :
    toFixed precision q ≤ q + 1 / 10 ^ precision / 2 := by
  have hpos : (0 : ℚ) < 10 ^ precision := by positivity
  have hfloor : (mathRound (q * 10 ^ precision) : ℚ) ≤ q * 10 ^ precision + 1 / 2 :=
    Int.floor_le _
  rw [toFixed, if_pos hq, div_le_iff₀ hpos]
  calc (mathRound (q * 10 ^ precision) : ℚ) ≤ q * 10 ^ precision + 1 / 2 := hfloor
    _ = (q + 1 / 10 ^ precision / 2) * 10 ^ precision := by field_simp

theorem toFixed_zero {precision : ℕ} : toFixed precision 0 = 0 := by
  have h := @toFixed_decimal precision 0
  simpa using h

end Grid

end Wroid.Lib
