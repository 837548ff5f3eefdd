import Mathlib

/-!
# Pixels and resolutions

The coordinate types of `wroid-core` and the numeric conversions the crates apply to them.
A `u32` or `u16` field is a natural number here; the places where the code saturates,
truncates or wraps say so with one of the conversions below.  Floating-point coordinates
are exact rationals.

## Main definitions

* `Point`, `Resolution` — a pixel of the Android surface and its size.
* `roundHalfAway`, `asUnsigned`, `clampRat` — `f64::round`, `as u32`/`as u16`, `f64::clamp`.
-/

namespace Wroid

/-- A pixel of the Android surface. -/
structure Point where
  x : ℕ
  y : ℕ
  deriving DecidableEq, Repr, Inhabited

/-- The size of the Android surface in pixels. -/
structure Resolution where
  width : ℕ
  height : ℕ
  deriving DecidableEq, Repr, Inhabited

/-- The pixel lies on a surface of the given size. -/
def Point.Inside (p : Point) (r : Resolution) : Prop := p.x < r.width ∧ p.y < r.height

instance (p : Point) (r : Resolution) : Decidable (p.Inside r) :=
  inferInstanceAs (Decidable (_ ∧ _))

def u16Max : ℕ := 65535
def u32Max : ℕ := 4294967295
def i32Max : ℕ := 2147483647

/-- `u16::saturating_add(1)`, the only arithmetic contact identifiers see. -/
def saturatingSucc (n : ℕ) : ℕ := min (n + 1) u16Max

/-- `f64::round`: to the nearest integer, halves away from zero. -/
def roundHalfAway (q : ℚ) : ℤ := if 0 ≤ q then ⌊q + 1 / 2⌋ else -⌊-q + 1 / 2⌋

/-- A float-to-unsigned `as` cast of a rounded value: saturating at both ends. -/
def asUnsigned (limit : ℕ) (z : ℤ) : ℕ := min z.toNat limit

def i64Min : ℤ := -9223372036854775808
def i64Max : ℤ := 9223372036854775807
def u64Max : ℕ := 18446744073709551615

/-- The result of a saturating `i64` operation. -/
def saturateI64 (z : ℤ) : ℤ := max i64Min (min z i64Max)

/-- The result of a plain `i64` operation in a release build. -/
def wrapI64 (z : ℤ) : ℤ := Int.bmod z (2 ^ 64)

/-- `f64::clamp`. -/
def clampRat (q lo hi : ℚ) : ℚ := if q < lo then lo else if hi < q then hi else q

theorem clampRat_nonneg {q hi : ℚ} (hhi : 0 ≤ hi) : 0 ≤ clampRat q 0 hi := by
  unfold clampRat
  split_ifs <;> linarith

theorem clampRat_le {q lo hi : ℚ} (h : lo ≤ hi) : clampRat q lo hi ≤ hi := by
  unfold clampRat
  split_ifs <;> linarith

theorem clampRat_mono {q r lo hi : ℚ} (h : lo ≤ hi) (hqr : q ≤ r) :
    clampRat q lo hi ≤ clampRat r lo hi := by
  unfold clampRat
  split_ifs <;> linarith

theorem roundHalfAway_of_nonneg {q : ℚ} (h : 0 ≤ q) : roundHalfAway q = ⌊q + 1 / 2⌋ := by
  rw [roundHalfAway, if_pos h]

theorem roundHalfAway_nonneg {q : ℚ} (h : 0 ≤ q) : 0 ≤ roundHalfAway q := by
  rw [roundHalfAway_of_nonneg h, Int.floor_nonneg]
  linarith

/-- Rounding a value that an integer bounds keeps the bound. -/
theorem roundHalfAway_le {q : ℚ} {n : ℤ} (h0 : 0 ≤ q) (h : q ≤ n) : roundHalfAway q ≤ n := by
  rw [roundHalfAway_of_nonneg h0, ← Int.lt_add_one_iff, Int.floor_lt]
  push_cast
  linarith

theorem le_roundHalfAway {q : ℚ} {n : ℤ} (h0 : 0 ≤ q) (h : (n : ℚ) ≤ q) :
    n ≤ roundHalfAway q := by
  rw [roundHalfAway_of_nonneg h0, Int.le_floor]
  linarith

theorem roundHalfAway_mono {q r : ℚ} (h0 : 0 ≤ q) (h : q ≤ r) :
    roundHalfAway q ≤ roundHalfAway r := by
  rw [roundHalfAway_of_nonneg h0, roundHalfAway_of_nonneg (h0.trans h)]
  exact Int.floor_le_floor (by linarith)

theorem asUnsigned_mono {limit : ℕ} {a b : ℤ} (h : a ≤ b) :
    asUnsigned limit a ≤ asUnsigned limit b := by
  unfold asUnsigned
  omega

end Wroid
