import Mathlib

/-!
# Trimming and lower-casing

Text normalisation as the standard libraries of programming languages offer it, with the
set of blanks as a parameter: languages agree on most blanks but not on all of them.

## Main definitions

* `trim blank s` — `s` without the blanks at both ends.
* `asciiLower s` — `s` with the ASCII capitals replaced.
* `rustBlank`, `jsBlank` — the blanks of Rust's `str::trim` and of ECMAScript's `trim`.
* `splitOnce separator s` — the texts before and behind the first separator.

## Main results

* `trim_eq_of_agree` — two notions of blank that agree on the text trim it alike.
* `trim_eq_empty` — a text trims to nothing iff it is all blanks.
-/

namespace Wroid.Lib

/-- `s` without its leading and trailing blanks. -/
def trimChars (blank : Char → Bool) (s : List Char) : List Char :=
  (s.dropWhile blank).rdropWhile blank

/-- `s` without its leading and trailing blanks. -/
def trim (blank : Char → Bool) (s : String) : String :=
  String.ofList (trimChars blank s.toList)

/-- `s` with the capitals among the ASCII letters replaced by small ones. -/
def asciiLower (s : String) : String := String.ofList (s.toList.map Char.toLower)

@[simp] theorem toList_trim (blank : Char → Bool) (s : String) :
    (trim blank s).toList = trimChars blank s.toList := String.toList_ofList

@[simp] theorem toList_asciiLower (s : String) :
    (asciiLower s).toList = s.toList.map Char.toLower := String.toList_ofList

theorem trimChars_eq_nil {blank : Char → Bool} {s : List Char} :
    trimChars blank s = [] ↔ ∀ c ∈ s, blank c = true := by
  rw [trimChars, List.rdropWhile_eq_nil_iff]
  constructor
  · intro h c hc
    rw [← List.takeWhile_append_dropWhile (p := blank) (l := s)] at hc
    rcases List.mem_append.mp hc with hc | hc
    · exact List.mem_takeWhile_imp hc
    · exact h c hc
  · intro h c hc
    exact h c ((List.dropWhile_sublist _).subset hc)

/-- A text trims to nothing iff it is all blanks. -/
theorem trim_eq_empty {blank : Char → Bool} {s : String} :
    trim blank s = "" ↔ ∀ c ∈ s.toList, blank c = true := by
  rw [← trimChars_eq_nil, ← String.toList_inj, toList_trim]
  rfl

/-- The blanks both languages trim: tab to carriage return, the space separators, and the
line and paragraph separators. -/
def commonBlank (c : Char) : Bool :=
  (0x09 ≤ c.val && c.val ≤ 0x0d) || c.val == 0x20 || c.val == 0xa0 || c.val == 0x1680 ||
    (0x2000 ≤ c.val && c.val ≤ 0x200a) || c.val == 0x2028 || c.val == 0x2029 ||
    c.val == 0x202f || c.val == 0x205f || c.val == 0x3000

/-- The next-line control, a blank in Unicode's `White_Space` but not in ECMAScript. -/
def nextLine : Char := '\u0085'

/-- The byte order mark, a blank in ECMAScript but not in Unicode's `White_Space`. -/
def byteOrderMark : Char := '\uFEFF'

/-- `char::is_whitespace`. -/
def rustBlank (c : Char) : Bool := commonBlank c || c == nextLine

/-- The `WhiteSpace` and `LineTerminator` characters of ECMAScript. -/
def jsBlank (c : Char) : Bool := commonBlank c || c == byteOrderMark

theorem rustBlank_digit {c : Char} (hc : c.isDigit = true) : rustBlank c = false := by
  simp only [Char.isDigit, Bool.and_eq_true, decide_eq_true_eq, UInt32.le_iff_toNat_le] at hc
  have hval : c.toNat = c.val.toNat := rfl
  have hzero : ('0').val.toNat = 48 := rfl
  have hnine : ('9').val.toNat = 57 := rfl
  have hnext : c ≠ nextLine := by
    rintro rfl
    revert hc
    decide
  have hcommon : commonBlank c = false := by
    simp [commonBlank, UInt32.le_iff_toNat_le, ← UInt32.toNat_inj]
    omega
  rw [rustBlank, hcommon, Bool.false_or, beq_eq_false_iff_ne]
  exact hnext

theorem dropWhile_congr {p q : Char → Bool} {s : List Char} (h : ∀ c ∈ s, p c = q c) :
    s.dropWhile p = s.dropWhile q := by
  induction s with
  | nil => rfl
  | cons c s ih =>
    rw [List.dropWhile_cons, List.dropWhile_cons, h c List.mem_cons_self,
      ih fun d hd => h d (List.mem_cons_of_mem c hd)]

/-- Two notions of blank that agree on the characters of the text trim it alike. -/
theorem trimChars_congr {p q : Char → Bool} {s : List Char} (h : ∀ c ∈ s, p c = q c) :
    trimChars p s = trimChars q s := by
  have hsub : ∀ c ∈ (s.dropWhile q).reverse, p c = q c := fun c hc =>
    h c ((List.dropWhile_sublist _).subset (List.mem_reverse.mp hc))
  rw [trimChars, trimChars, dropWhile_congr h, List.rdropWhile, List.rdropWhile,
    dropWhile_congr hsub]

theorem trim_eq_of_agree {p q : Char → Bool} {s : String} (h : ∀ c ∈ s.toList, p c = q c) :
    trim p s = trim q s := by
  rw [trim, trim, trimChars_congr h]

/-- A text without blanks is as it was after trimming. -/
theorem trim_eq_self {blank : Char → Bool} {s : String} (h : ∀ c ∈ s.toList, blank c = false) :
    trim blank s = s := by
  have hleft : s.toList.dropWhile blank = s.toList :=
    List.dropWhile_eq_self_iff.mpr fun hl => by simp [h _ (List.getElem_mem hl)]
  have hright : s.toList.rdropWhile blank = s.toList :=
    List.rdropWhile_eq_self_iff.mpr fun hl => by simp [h _ (List.getLast_mem hl)]
  rw [trim, trimChars, hleft, hright, String.ofList_toList]

/-- A blank at the end does not matter. -/
theorem trimChars_concat {blank : Char → Bool} {s : List Char} {c : Char} (hc : blank c = true) :
    trimChars blank (s ++ [c]) = trimChars blank s := by
  by_cases hs : s.dropWhile blank = []
  · have hall : ∀ d ∈ s ++ [c], blank d = true := by
      intro d hd
      rcases List.mem_append.mp hd with hd | hd
      · exact List.dropWhile_eq_nil_iff.mp hs d hd
      · rwa [List.mem_singleton.mp hd]
    rw [trimChars_eq_nil.mpr hall, trimChars, hs, List.rdropWhile_nil]
  · have hempty : ¬ (s.dropWhile blank).isEmpty = true := by rwa [List.isEmpty_iff]
    rw [trimChars, List.dropWhile_append, if_neg hempty, List.rdropWhile_concat_pos _ _ _ hc,
      ← trimChars]

theorem trimChars_subset {blank : Char → Bool} {s : List Char} :
    ∀ c ∈ trimChars blank s, c ∈ s := fun _ hc =>
  (List.dropWhile_sublist _).subset ((List.rdropWhile_prefix _ _).sublist.subset hc)

/-- Trimming leaves every character that is not a blank. -/
theorem mem_trimChars_of_not_blank {blank : Char → Bool} {s : List Char} {c : Char}
    (hc : c ∈ s) (hb : blank c = false) : c ∈ trimChars blank s := by
  have h₁ : c ∈ s.dropWhile blank := by
    rw [← List.takeWhile_append_dropWhile (p := blank) (l := s), List.mem_append] at hc
    rcases hc with hc | hc
    · exact absurd (List.mem_takeWhile_imp hc) (by simp [hb])
    · exact hc
  have h₂ : c ∈ (s.dropWhile blank).reverse := List.mem_reverse.mpr h₁
  rw [trimChars, List.rdropWhile, List.mem_reverse]
  rw [← List.takeWhile_append_dropWhile (p := blank) (l := (s.dropWhile blank).reverse),
    List.mem_append] at h₂
  rcases h₂ with h₂ | h₂
  · exact absurd (List.mem_takeWhile_imp h₂) (by simp [hb])
  · exact h₂

/-! ### The ends of a trimmed text -/

section Ends

variable {blank : Char → Bool}

theorem trimChars_eq_self {s : List Char} (hfirst : ∀ c, s.head? = some c → blank c = false)
    (hlast : ∀ c, s.getLast? = some c → blank c = false) : trimChars blank s = s := by
  cases s with
  | nil => rfl
  | cons c s =>
    have hc := hfirst c rfl
    have hleft : (c :: s).dropWhile blank = c :: s := by
      rw [List.dropWhile_cons, hc]
      rfl
    rw [trimChars, hleft, List.rdropWhile_eq_self_iff]
    intro hne
    rw [Bool.not_eq_true]
    exact hlast _ (List.getLast?_eq_some_getLast hne)

theorem head?_of_trimChars_eq_self {s : List Char} (h : trimChars blank s = s) :
    ∀ c, s.head? = some c → blank c = false := by
  intro c hc
  by_contra hblank
  rw [Bool.not_eq_false] at hblank
  cases s with
  | nil => cases hc
  | cons d s =>
    obtain rfl : d = c := Option.some.inj hc
    -- the trimmed text is shorter
    have hdrop : (d :: s).dropWhile blank = s.dropWhile blank := by
      rw [List.dropWhile_cons, hblank]
      rfl
    have hle : (trimChars blank (d :: s)).length ≤ s.length := by
      rw [trimChars, hdrop]
      exact ((List.rdropWhile_prefix _ _).length_le).trans (List.dropWhile_sublist _).length_le
    rw [h, List.length_cons] at hle
    omega

theorem getLast?_of_trimChars_eq_self {s : List Char} (h : trimChars blank s = s) :
    ∀ c, s.getLast? = some c → blank c = false := by
  intro c hc
  by_contra hblank
  rw [Bool.not_eq_false] at hblank
  obtain ⟨init, rfl⟩ := List.getLast?_eq_some_iff.mp hc
  rw [trimChars_concat hblank] at h
  have hle : (trimChars blank init).length ≤ init.length :=
    ((List.rdropWhile_prefix _ _).length_le).trans (List.dropWhile_sublist _).length_le
  rw [h, List.length_append, List.length_singleton] at hle
  omega

/-- Trimming around a character that is not blank. -/
theorem trimChars_append_cons {a b : List Char} {c : Char} (hc : blank c = false) :
    trimChars blank (a ++ c :: b) = a.dropWhile blank ++ c :: b.rdropWhile blank := by
  have hleft : (a ++ c :: b).dropWhile blank = a.dropWhile blank ++ c :: b := by
    rw [List.dropWhile_append, List.dropWhile_cons, hc]
    by_cases hnil : a.dropWhile blank = []
    · simp [hnil]
    · rw [if_neg (by rwa [List.isEmpty_iff])]
  have hright : ∀ front : List Char, (front ++ c :: b).rdropWhile blank =
      front ++ c :: b.rdropWhile blank := by
    intro front
    rw [List.rdropWhile, List.rdropWhile, List.reverse_append, List.reverse_cons,
      List.append_assoc, List.dropWhile_append]
    by_cases hnil : b.reverse.dropWhile blank = []
    · simp [hnil, hc]
    · rw [if_neg (by rwa [List.isEmpty_iff])]
      simp
  rw [trimChars, hleft, hright]

theorem trimChars_dropWhile (s : List Char) :
    trimChars blank (s.dropWhile blank) = trimChars blank s := by
  rw [trimChars, trimChars, List.dropWhile_idempotent]

end Ends

/-! ### Splitting at a character -/

/-- `str::split_once` -/
def splitOnce (separator : Char) : List Char → Option (List Char × List Char)
  | [] => none
  | c :: rest =>
    if c = separator then some ([], rest)
    else (splitOnce separator rest).map fun halves => (c :: halves.1, halves.2)

theorem splitOnce_eq_some {separator : Char} {line name value : List Char} :
    splitOnce separator line = some (name, value) ↔
      line = name ++ separator :: value ∧ separator ∉ name := by
  induction line generalizing name with
  | nil => simp [splitOnce]
  | cons c line ih =>
    by_cases hc : c = separator
    · rw [splitOnce, if_pos hc]
      cases name with
      | nil => simp [hc, eq_comm]
      | cons d name =>
        simp only [Option.some.injEq, Prod.mk.injEq, List.cons_append, List.cons.injEq,
          List.mem_cons, not_or]
        constructor
        · intro h
          cases h.1
        · intro h
          exact absurd (hc.symm.trans h.1.1) h.2.1
    · rw [splitOnce, if_neg hc]
      cases name with
      | nil => simp [hc]
      | cons d name =>
        have ih := @ih name
        simp only [Option.map_eq_some_iff, Prod.exists, Prod.mk.injEq, List.cons_append,
          List.cons.injEq, List.mem_cons, not_or]
        constructor
        · intro h
          obtain ⟨name', value', hsplit, ⟨rfl, rfl⟩, rfl⟩ := h
          exact ⟨⟨rfl, (ih.mp hsplit).1⟩, fun heq => hc heq.symm, (ih.mp hsplit).2⟩
        · intro h
          obtain ⟨⟨rfl, hline⟩, -, hname⟩ := h
          exact ⟨name, value, ih.mpr ⟨hline, hname⟩, ⟨rfl, rfl⟩, rfl⟩

theorem splitOnce_eq_none {separator : Char} {line : List Char} :
    splitOnce separator line = none ↔ separator ∉ line := by
  induction line with
  | nil => simp [splitOnce]
  | cons c line ih =>
    by_cases hc : c = separator
    · simp [splitOnce, hc]
    · rw [splitOnce, if_neg hc, Option.map_eq_none_iff, ih, List.mem_cons, not_or]
      exact ⟨fun h => ⟨fun heq => hc heq.symm, h⟩, fun h => h.2⟩

/-- What stands behind the last separator, and what before it. -/
theorem append_separator_inj {separator : Char} {a a' b b' : List Char} (hb : separator ∉ b)
    (hb' : separator ∉ b') (h : a ++ separator :: b = a' ++ separator :: b') : a = a' ∧ b = b' := by
  have hsplit : ∀ front back : List Char, separator ∉ back →
      splitOnce separator (front ++ separator :: back).reverse = some (back.reverse, front.reverse) := by
    intro front back hback
    rw [splitOnce_eq_some]
    constructor
    · simp
    · rwa [List.mem_reverse]
  have heq := hsplit a b hb
  rw [h, hsplit a' b' hb', Option.some.injEq, Prod.mk.injEq, List.reverse_inj, List.reverse_inj] at heq
  exact ⟨heq.2.symm, heq.1.symm⟩

end Wroid.Lib
