import Mathlib

/-!
# Fields of bytes

Binary formats keep numbers at fixed places, the lowest byte first.  This file reads and writes
such numbers, and takes a list of bytes apart into the numbers it begins with.

## Main definitions

* `leBytes width n`, `leNat` — a number of a given width as bytes, and bytes as a number.
* `field bytes offset width` — the number at a place.

## Main results

* `leNat_leBytes`, `leBytes_leNat` — the two are inverse.
* `field_leBytes_append_zero`, `field_leBytes_append` — what is read back of numbers that were
  written.
* `drop_eq_leBytes_append` — **bytes begin with the number that is read there**.
-/

namespace Wroid.Lib

/-- `to_le_bytes` -/
def leBytes : ℕ → ℕ → List UInt8
  | 0, _ => []
  | width + 1, n => UInt8.ofNat n :: leBytes width (n / 256)

/-- `from_le_bytes` -/
def leNat : List UInt8 → ℕ
  | [] => 0
  | byte :: bytes => byte.toNat + 256 * leNat bytes

/-- The number of a given width at an offset. -/
def field (bytes : List UInt8) (offset width : ℕ) : ℕ := leNat ((bytes.drop offset).take width)

@[simp] theorem length_leBytes (width n : ℕ) : (leBytes width n).length = width := by
  induction width generalizing n with
  | zero => rfl
  | succ width ih => simp [leBytes, ih]

theorem leNat_lt (bytes : List UInt8) : leNat bytes < 256 ^ bytes.length := by
  induction bytes with
  | nil => simp [leNat]
  | cons byte bytes ih =>
    have hbyte := byte.toNat_lt
    rw [leNat, List.length_cons, pow_succ]
    omega

theorem leNat_leBytes {width n : ℕ} (h : n < 256 ^ width) : leNat (leBytes width n) = n := by
  induction width generalizing n with
  | zero =>
    rw [pow_zero] at h
    rw [leBytes, leNat]
    omega
  | succ width ih =>
    rw [pow_succ] at h
    have hrest : n / 256 < 256 ^ width := by omega
    rw [leBytes, leNat, ih hrest, UInt8.toNat_ofNat']
    omega

theorem leBytes_leNat (bytes : List UInt8) : leBytes bytes.length (leNat bytes) = bytes := by
  induction bytes with
  | nil => rfl
  | cons byte bytes ih =>
    have hbyte := byte.toNat_lt
    have hhigh : (byte.toNat + 256 * leNat bytes) / 256 = leNat bytes := by omega
    have hlow : UInt8.ofNat (byte.toNat + 256 * leNat bytes) = byte := by
      apply UInt8.toNat_inj.mp
      rw [UInt8.toNat_ofNat']
      omega
    rw [List.length_cons, leNat, leBytes, hhigh, ih, hlow]

theorem field_lt (bytes : List UInt8) (offset width : ℕ) : field bytes offset width < 256 ^ width := by
  have hlength : ((bytes.drop offset).take width).length ≤ width := by
    rw [List.length_take]
    omega
  exact (leNat_lt _).trans_le (Nat.pow_le_pow_right (by decide) hlength)

theorem field_leBytes_append_zero {width n : ℕ} (h : n < 256 ^ width) (rest : List UInt8) :
    field (leBytes width n ++ rest) 0 width = n := by
  rw [field, List.drop_zero, List.take_left' (length_leBytes width n), leNat_leBytes h]

theorem field_append {bytes : List UInt8} {offset : ℕ} (h : bytes.length ≤ offset)
    (rest : List UInt8) (width : ℕ) :
    field (bytes ++ rest) offset width = field rest (offset - bytes.length) width := by
  rw [field, field, List.drop_append, List.drop_eq_nil_of_le h, List.nil_append]

theorem field_leBytes_append {skipped n offset : ℕ} (h : skipped ≤ offset) (rest : List UInt8)
    (width : ℕ) :
    field (leBytes skipped n ++ rest) offset width = field rest (offset - skipped) width := by
  rw [field_append (by rwa [length_leBytes]), length_leBytes]

/-- Looking at a place behind what is skipped. -/
theorem field_drop (bytes : List UInt8) (skipped offset width : ℕ) :
    field (bytes.drop skipped) offset width = field bytes (skipped + offset) width := by
  rw [field, field, List.drop_drop]

/-- **Bytes begin with the number that is read there.** -/
theorem drop_eq_leBytes_append {bytes : List UInt8} {offset width : ℕ}
    (h : offset + width ≤ bytes.length) :
    bytes.drop offset = leBytes width (field bytes offset width) ++ bytes.drop (offset + width) := by
  have hlength : ((bytes.drop offset).take width).length = width := by
    rw [List.length_take, List.length_drop]
    omega
  have hfield := leBytes_leNat ((bytes.drop offset).take width)
  rw [hlength] at hfield
  rw [field, hfield, ← List.drop_drop, List.take_append_drop]

end Wroid.Lib
