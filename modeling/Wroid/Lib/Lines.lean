import Wroid.Lib.Text

/-!
# Texts and their lines

A text is cut into lines the way `str::lines` cuts it: a newline ends a line, a carriage return
before the newline belongs to the break, and after the last newline there is a line only if there
is some text.  Putting the lines together again gives the text back when it ends with a newline
and has no carriage return before one; in general it gives another text.

## Main definitions

* `lines` — the lines of a text, without their breaks.
* `unlines` — the text of some lines, each ended by a newline.
* `PlainBreaks` — every line break of the text is a plain newline.

## Main results

* `exists_unlines` — every text is some lines and a rest without a newline.
* `lines_unlines_append` — the lines of such a text.
* `unlines_lines` — a text that ends with a newline and has plain breaks only is made of its lines.
-/

namespace Wroid.Lib

/-! ### Cutting a text into lines -/

/-- `str::split_inclusive('\n')`: every line with its newline, the last one perhaps without. -/
def splitInclusive : List Char → List (List Char)
  | [] => []
  | c :: rest =>
    if c = '\n' then ['\n'] :: splitInclusive rest
    else match splitInclusive rest with
      | [] => [[c]]
      | line :: more => (c :: line) :: more

/-- A line without a carriage return at its end. -/
def stripReturn (line : List Char) : List Char :=
  if line.getLast? = some '\r' then line.dropLast else line

/-- A line without its line break: a newline, with a carriage return before it perhaps. -/
def stripBreak (line : List Char) : List Char :=
  if line.getLast? = some '\n' then stripReturn line.dropLast else line

/-- `str::lines` -/
def lines (text : List Char) : List (List Char) := (splitInclusive text).map stripBreak

example : lines "a\r\n\nb\r".toList = [['a'], [], ['b', '\r']] := by decide +kernel

/-- The text of the lines, each ended by a newline. -/
def unlines (ls : List (List Char)) : List Char := ls.flatMap (· ++ ['\n'])

@[simp] theorem unlines_nil : unlines [] = [] := rfl

@[simp] theorem unlines_cons (l : List Char) (ls : List (List Char)) :
    unlines (l :: ls) = l ++ '\n' :: unlines ls := by
  rw [unlines, List.flatMap_cons, List.append_assoc]
  rfl

@[simp] theorem unlines_append (ls ls' : List (List Char)) :
    unlines (ls ++ ls') = unlines ls ++ unlines ls' := List.flatMap_append

/-! ### A carriage return at the end of a line -/

theorem stripReturn_eq_self {line : List Char} (h : line.getLast? ≠ some '\r') :
    stripReturn line = line := if_neg h

@[simp] theorem stripReturn_concat (line : List Char) : stripReturn (line ++ ['\r']) = line := by
  rw [stripReturn, if_pos List.getLast?_concat, List.dropLast_concat]

/-- What stripping does: nothing, or it takes one carriage return. -/
theorem stripReturn_cases (line : List Char) :
    stripReturn line = line ∧ line.getLast? ≠ some '\r' ∨ line = stripReturn line ++ ['\r'] := by
  by_cases h : line.getLast? = some '\r'
  · refine Or.inr ?_
    obtain ⟨init, rfl⟩ := List.getLast?_eq_some_iff.mp h
    rw [stripReturn_concat]
  · exact Or.inl ⟨stripReturn_eq_self h, h⟩

theorem length_stripReturn_le (line : List Char) :
    (stripReturn line).length ≤ line.length := by
  rcases stripReturn_cases line with ⟨h, -⟩ | h
  · rw [h]
  · rw [congrArg List.length h, List.length_append]
    exact Nat.le_add_right _ _

theorem stripReturn_eq_self_iff {line : List Char} :
    stripReturn line = line ↔ line.getLast? ≠ some '\r' := by
  refine ⟨fun h hlast => ?_, stripReturn_eq_self⟩
  obtain ⟨init, rfl⟩ := List.getLast?_eq_some_iff.mp hlast
  rw [stripReturn_concat] at h
  simpa using congrArg List.length h

theorem not_mem_stripReturn {c : Char} {line : List Char} (h : c ∉ line) :
    c ∉ stripReturn line := by
  rcases stripReturn_cases line with ⟨hs, -⟩ | hs
  · rwa [hs]
  · intro hc
    rw [hs] at h
    exact h (List.mem_append_left _ hc)

/-! ### The lines of a text -/

/-- No line break inside the line. -/
def Unbroken (line : List Char) : Prop := '\n' ∉ line

instance (line : List Char) : Decidable (Unbroken line) := inferInstanceAs (Decidable (_ ∉ _))

theorem forall_unbroken_concat {ls : List (List Char)} {line : List Char}
    (hls : ∀ l ∈ ls, Unbroken l) (hline : Unbroken line) : ∀ l ∈ ls ++ [line], Unbroken l := by
  intro l hl
  rcases List.mem_append.mp hl with hl | hl
  · exact hls l hl
  · rwa [List.mem_singleton.mp hl]

/-- **Every text is some lines and a rest without a newline.** -/
theorem exists_unlines (text : List Char) : ∃ ls rest, text = unlines ls ++ rest ∧
    (∀ l ∈ ls, Unbroken l) ∧ Unbroken rest := by
  induction text with
  | nil => exact ⟨[], [], rfl, by simp, List.not_mem_nil⟩
  | cons c text ih =>
    obtain ⟨ls, rest, rfl, hls, hrest⟩ := ih
    by_cases hc : c = '\n'
    · refine ⟨[] :: ls, rest, by simp [hc], ?_, hrest⟩
      exact List.forall_mem_cons.mpr ⟨List.not_mem_nil, hls⟩
    · have hne : '\n' ≠ c := fun h => hc h.symm
      cases ls with
      | nil => exact ⟨[], c :: rest, rfl, by simp, List.not_mem_cons_of_ne_of_not_mem hne hrest⟩
      | cons l ls =>
        rw [List.forall_mem_cons] at hls
        refine ⟨(c :: l) :: ls, rest, by simp, ?_, hrest⟩
        have hl : Unbroken (c :: l) := List.not_mem_cons_of_ne_of_not_mem hne hls.1
        exact List.forall_mem_cons.mpr ⟨hl, hls.2⟩

theorem splitInclusive_line {line : List Char} (h : Unbroken line) (text : List Char) :
    splitInclusive (line ++ '\n' :: text) = (line ++ ['\n']) :: splitInclusive text := by
  induction line with
  | nil => rw [List.nil_append, splitInclusive, if_pos rfl, List.nil_append]
  | cons c line ih =>
    have hc : c ≠ '\n' := fun hc => h (hc ▸ List.mem_cons_self)
    rw [List.cons_append, splitInclusive, if_neg hc, ih fun hm => h (List.mem_cons_of_mem c hm)]
    rfl

theorem splitInclusive_rest {rest : List Char} (h : Unbroken rest) :
    splitInclusive rest = if rest = [] then [] else [rest] := by
  induction rest with
  | nil => rfl
  | cons c rest ih =>
    have hc : c ≠ '\n' := fun hc => h (hc ▸ List.mem_cons_self)
    have hrest := ih fun hm => h (List.mem_cons_of_mem c hm)
    rw [splitInclusive, if_neg hc, hrest, if_neg (List.cons_ne_nil c rest)]
    by_cases hnil : rest = []
    · rw [if_pos hnil, hnil]
    · rw [if_neg hnil]

theorem stripBreak_concat (line : List Char) :
    stripBreak (line ++ ['\n']) = stripReturn line := by
  rw [stripBreak, if_pos List.getLast?_concat, List.dropLast_concat]

theorem stripBreak_rest {rest : List Char} (h : Unbroken rest) : stripBreak rest = rest :=
  if_neg fun hlast => h (List.mem_of_getLast? hlast)

/-- The lines of a text: a carriage return goes with the newline after it. -/
theorem lines_unlines_append {ls : List (List Char)} {rest : List Char}
    (hls : ∀ l ∈ ls, Unbroken l) (hrest : Unbroken rest) :
    lines (unlines ls ++ rest) = ls.map stripReturn ++ if rest = [] then [] else [rest] := by
  induction ls with
  | nil =>
    rw [unlines_nil, List.nil_append, lines, splitInclusive_rest hrest]
    by_cases hnil : rest = []
    · simp [hnil]
    · simp [hnil, stripBreak_rest hrest]
  | cons l ls ih =>
    rw [List.forall_mem_cons] at hls
    have ih := ih hls.2
    rw [lines] at ih ⊢
    rw [unlines_cons, List.append_assoc, List.cons_append, splitInclusive_line hls.1, List.map_cons,
      ih, stripBreak_concat, List.map_cons, List.cons_append]

theorem lines_unlines {ls : List (List Char)} (hls : ∀ l ∈ ls, Unbroken l) :
    lines (unlines ls) = ls.map stripReturn := by
  have h := @lines_unlines_append ls [] hls List.not_mem_nil
  rwa [List.append_nil, if_pos rfl, List.append_nil] at h

/-- The lines of a text have no newline in them. -/
theorem unbroken_of_mem_lines {text line : List Char} (h : line ∈ lines text) : Unbroken line := by
  obtain ⟨ls, rest, rfl, hls, hrest⟩ := exists_unlines text
  rw [lines_unlines_append hls hrest, List.mem_append] at h
  rcases h with h | h
  · obtain ⟨l, hl, rfl⟩ := List.mem_map.mp h
    exact not_mem_stripReturn (hls l hl)
  · split at h
    · cases h
    · rwa [List.mem_singleton.mp h]

/-! ### Texts made of lines -/

/-- Lines end with a newline. -/
theorem getLast?_unlines {ls : List (List Char)} (h : ls ≠ []) :
    (unlines ls).getLast? = some '\n' := by
  induction ls with
  | nil => exact absurd rfl h
  | cons l ls ih =>
    rw [unlines_cons, List.getLast?_append, List.getLast?_cons]
    by_cases hls : ls = []
    · rw [hls]
      rfl
    · rw [ih hls]
      rfl

theorem exists_unlines_of_getLast? {text : List Char} (h : text.getLast? = some '\n') :
    ∃ ls, text = unlines ls ∧ ls ≠ [] ∧ ∀ l ∈ ls, Unbroken l := by
  obtain ⟨ls, rest, rfl, hls, hrest⟩ := exists_unlines text
  have hnil : rest = [] := by
    by_contra hne
    obtain ⟨init, c, rfl⟩ := List.eq_nil_or_concat' rest |>.resolve_left hne
    rw [← List.append_assoc, List.getLast?_concat, Option.some.injEq] at h
    exact hrest (h ▸ List.mem_append_right _ List.mem_cons_self)
  subst hnil
  refine ⟨ls, List.append_nil _, ?_, hls⟩
  rintro rfl
  cases h

/-- Every line break of the text is a plain newline. -/
def PlainBreaks (text : List Char) : Prop := ¬ ['\r', '\n'] <:+: text

instance (text : List Char) : Decidable (PlainBreaks text) := inferInstanceAs (Decidable (¬ _))

theorem infix_cons_iff_of_unbroken {l text : List Char} (hl : Unbroken l) :
    ['\r', '\n'] <:+: l ++ '\n' :: text ↔ l.getLast? = some '\r' ∨ ['\r', '\n'] <:+: text := by
  induction l with
  | nil =>
    rw [List.nil_append, List.infix_cons_iff]
    simp
  | cons c l ih =>
    have hc : c ≠ '\n' := fun hc => hl (hc ▸ List.mem_cons_self)
    rw [List.cons_append, List.infix_cons_iff, ih fun hm => hl (List.mem_cons_of_mem c hm)]
    cases l with
    | nil => simp [eq_comm]
    | cons d l =>
      have hd : d ≠ '\n' := fun hd => hl (hd ▸ List.mem_cons_of_mem c List.mem_cons_self)
      simp [hd.symm]

theorem infix_unlines_iff {ls : List (List Char)} (hls : ∀ l ∈ ls, Unbroken l) :
    ['\r', '\n'] <:+: unlines ls ↔ ∃ l ∈ ls, l.getLast? = some '\r' := by
  induction ls with
  | nil => simp
  | cons l ls ih =>
    rw [List.forall_mem_cons] at hls
    rw [unlines_cons, infix_cons_iff_of_unbroken hls.1, ih hls.2]
    simp

theorem plainBreaks_unlines_iff {ls : List (List Char)} (hls : ∀ l ∈ ls, Unbroken l) :
    PlainBreaks (unlines ls) ↔ ∀ l ∈ ls, stripReturn l = l := by
  rw [PlainBreaks, infix_unlines_iff hls]
  simp only [not_exists, not_and, stripReturn_eq_self_iff]

/-- **A text with plain line breaks that ends with one is made of its lines.** -/
theorem unlines_lines {text : List Char} (hend : text.getLast? = some '\n')
    (hplain : PlainBreaks text) : unlines (lines text) = text := by
  obtain ⟨ls, rfl, -, hls⟩ := exists_unlines_of_getLast? hend
  have hstrip : ls.map stripReturn = ls := by
    have hself := (plainBreaks_unlines_iff hls).mp hplain
    rw [List.map_congr_left hself, List.map_id']
  rw [lines_unlines hls, hstrip]

/-- Stripping makes a text shorter unless there was nothing to strip. -/
theorem length_unlines_map_stripReturn (ls : List (List Char)) :
    (unlines (ls.map stripReturn)).length ≤ (unlines ls).length ∧
      ((unlines (ls.map stripReturn)).length = (unlines ls).length →
        ∀ l ∈ ls, stripReturn l = l) := by
  induction ls with
  | nil => simp
  | cons l ls ih =>
    obtain ⟨hle, heq⟩ := ih
    have hl := length_stripReturn_le l
    simp only [List.map_cons, unlines_cons, List.length_append, List.length_cons,
      List.forall_mem_cons]
    refine ⟨by omega, fun h => ⟨?_, heq (by omega)⟩⟩
    rcases stripReturn_cases l with ⟨hs, -⟩ | hs
    · exact hs
    · have hlen := congrArg List.length hs
      rw [List.length_append, List.length_singleton] at hlen
      omega

/-! ### Joining lines -/

/-- `[String]::join("\n")` -/
def joinLines (ls : List (List Char)) : List Char := ['\n'].intercalate ls

theorem joinLines_concat_newline {ls : List (List Char)} (h : ls ≠ []) :
    joinLines ls ++ ['\n'] = unlines ls := by
  induction ls with
  | nil => exact absurd rfl h
  | cons l ls ih =>
    cases ls with
    | nil => simp [joinLines, List.intercalate]
    | cons l' ls =>
      have ih := ih (List.cons_ne_nil l' ls)
      rw [joinLines] at ih ⊢
      rw [unlines_cons, ← ih]
      simp [List.intercalate]

end Wroid.Lib
