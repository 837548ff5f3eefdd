import Wroid.Lib.Streams

/-!
# Reading integers, and why it fails

`str::parse` for unsigned integers, with the error it reports: the first character that is no
digit, or the first digit that makes the number too large, whichever comes first.

## Main definitions

* `IntErrorKind` — the reasons, with their texts.
* `readUnsigned max text` — the number, or the reason.

## Main results

* `readUnsigned_eq_ok` — a text is read exactly if it is parsed, and as the same number.
-/

namespace Wroid.Lib

/-- Why a text is no unsigned integer. -/
inductive IntErrorKind
  | empty
  | invalidDigit
  | posOverflow
  deriving DecidableEq, Repr

def IntErrorKind.text : IntErrorKind → String
  | .empty => "cannot parse integer from empty string"
  | .invalidDigit => "invalid digit found in string"
  | .posOverflow => "number too large to fit in target type"

/-- The digits behind those that have made `value`. -/
def accumulateDigits (max : ℕ) : ℕ → List Char → Except IntErrorKind ℕ
  | value, [] => .ok value
  | value, c :: rest =>
    if !c.isDigit then .error .invalidDigit
    else if max < 10 * value then .error .posOverflow
    else if max < 10 * value + (c.toNat - '0'.toNat) then .error .posOverflow
    else accumulateDigits max (10 * value + (c.toNat - '0'.toNat)) rest

def readUnsigned (max : ℕ) : List Char → Except IntErrorKind ℕ
  | [] => .error .empty
  | ['+'] | ['-'] => .error .invalidDigit
  | '+' :: rest => accumulateDigits max 0 rest
  | chars => accumulateDigits max 0 chars

variable {max value n : ℕ}

/-- More digits do not make a number smaller. -/
theorem le_foldl_digits (value : ℕ) (chars : List Char) :
    value ≤ chars.foldl (fun value digit => 10 * value + (digit.toNat - '0'.toNat)) value := by
  induction chars generalizing value with
  | nil => exact le_rfl
  | cons c chars ih =>
    have hstep : value ≤ 10 * value + (c.toNat - '0'.toNat) := by omega
    exact hstep.trans (ih _)

theorem accumulateDigits_eq_ok {chars : List Char} (hvalue : value ≤ max) :
    accumulateDigits max value chars = .ok n ↔ chars.all Char.isDigit = true ∧
      chars.foldl (fun value digit => 10 * value + (digit.toNat - '0'.toNat)) value = n ∧
      n ≤ max := by
  induction chars generalizing value with
  | nil =>
    rw [accumulateDigits, Except.ok.injEq, List.foldl_nil]
    constructor
    · rintro rfl
      exact ⟨rfl, rfl, hvalue⟩
    · exact fun h => h.2.1
  | cons c chars ih =>
    rw [accumulateDigits, List.foldl_cons, List.all_cons, Bool.and_eq_true]
    have hle := le_foldl_digits (10 * value + (c.toNat - '0'.toNat)) chars
    by_cases hdigit : c.isDigit = true
    · rw [if_neg (by simp [hdigit])]
      by_cases hlarge : max < 10 * value + (c.toNat - '0'.toNat)
      · -- the number stays too large
        have herror : (if max < 10 * value then Except.error IntErrorKind.posOverflow
            else if max < 10 * value + (c.toNat - '0'.toNat) then .error .posOverflow
            else accumulateDigits max (10 * value + (c.toNat - '0'.toNat)) chars) =
            .error .posOverflow := by
          rw [if_pos hlarge, ite_self]
        rw [herror]
        constructor
        · intro h
          cases h
        · rintro ⟨-, rfl, hmax⟩
          omega
      · rw [if_neg (by omega), if_neg hlarge, ih (by omega)]
        simp [hdigit]
    · rw [if_pos (by simpa using hdigit)]
      constructor
      · intro h
        cases h
      · exact fun h => absurd h.1.1 hdigit

/-- **A text is read exactly if it is parsed, and as the same number.** -/
theorem readUnsigned_eq_ok {text : String} :
    readUnsigned max text.toList = .ok n ↔ parseUnsigned max text = some n := by
  have hdigits : ∀ chars : List Char, chars ≠ [] → (accumulateDigits max 0 chars = .ok n ↔
      (if chars ≠ [] ∧ chars.all Char.isDigit ∧ digitsValue chars ≤ max then
        some (digitsValue chars) else none) = some n) := by
    intro chars hne
    rw [accumulateDigits_eq_ok (Nat.zero_le max), Option.ite_none_right_eq_some, Option.some.injEq,
      digitsValue]
    constructor
    · rintro ⟨hall, rfl, hmax⟩
      exact ⟨⟨hne, hall, hmax⟩, rfl⟩
    · rintro ⟨⟨-, hall, hmax⟩, rfl⟩
      exact ⟨hall, rfl, hmax⟩
  rw [parseUnsigned]
  generalize text.toList = chars
  split
  · next rest =>
    cases rest with
    | nil => simp [readUnsigned]
    | cons c rest => exact hdigits (c :: rest) (List.cons_ne_nil c rest)
  · next hplus =>
    unfold readUnsigned
    split
    · simp
    · next rest => exact absurd rfl (hplus [])
    · simp
    · next rest _ => exact absurd rfl (hplus rest)
    · next hempty _ _ _ => exact hdigits _ hempty

end Wroid.Lib
