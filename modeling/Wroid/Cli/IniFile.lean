import Wroid.Lib.Lines

/-!
# Settings in the container's configuration

The configuration of the container is an INI file.  One function of the command line writes a
setting into the text, another reads a setting from it; each looks for sections, comments and keys
in its own way.

## Main definitions

* `setIniValue` — the writer.
* `iniProperty` — the reader.
* `PlainSections` — every section header of a text is a name without brackets in brackets.

## Main results

* `setIniValue_eq_ok` — which line is written, and where.
* `searchLines_frame` — what comes behind a line does not matter to the lines before it.
* `setIniValue_agrees` — **the reader finds what was written, and everything else as it was**.
-/

namespace Wroid.IniFile

open Lib

/-! ### Lines -/

/-- `str::trim` -/
def trimmed (line : List Char) : List Char := trimChars rustBlank line

def isSection (line : List Char) : Bool := line.head? = some '[' && line.getLast? = some ']'

def header (name : List Char) : List Char := '[' :: (name ++ [']'])

/-- `key = value` -/
def setting (key value : List Char) : List Char := key ++ ' ' :: '=' :: ' ' :: value

/-- The name in front of the first `=`. -/
def propertyName (line : List Char) : Option (List Char) :=
  (splitOnce '=' line).map fun halves => trimmed halves.1

/-! ### The writer -/

def sectionStart (lines : List (List Char)) (name : List Char) : Option ℕ :=
  lines.findIdx? fun line => trimmed line = header name

def sectionEnd (lines : List (List Char)) (start : ℕ) : ℕ :=
  match (lines.drop (start + 1)).findIdx? fun line => isSection (trimmed line) with
  | some offset => start + 1 + offset
  | none => lines.length

/-- The indices of a section. -/
def sectionRange (start last : ℕ) : List ℕ := List.range' (start + 1) (last - (start + 1))

def keyIndex (lines : List (List Char)) (key : List Char) (start last : ℕ) : Option ℕ :=
  (sectionRange start last).find? fun index => propertyName (lines.getD index []) = some key

/-- Behind the last line of the section that is not blank. -/
def insertAt (lines : List (List Char)) (start last : ℕ) : ℕ :=
  match (sectionRange start last).reverse.find? fun index => trimmed (lines.getD index []) ≠ [] with
  | some index => index + 1
  | none => start + 1

def setIniValue (content name key value : List Char) : Except String (List Char) :=
  let ls := lines content
  match sectionStart ls name with
  | none => .error s!"missing {String.ofList (header name)} in Waydroid configuration"
  | some start =>
    let last := sectionEnd ls start
    let ls := match keyIndex ls key start last with
      | some index => ls.set index (setting key value)
      | none => ls.insertIdx (insertAt ls start last) (setting key value)
    .ok (joinLines ls ++ ['\n'])

/-! ### The reader -/

/-- `str::trim_matches(['[', ']'])` -/
def trimBrackets (line : List Char) : List Char := trimChars (fun c => c == '[' || c == ']') line

def isComment (line : List Char) : Bool := line.head? = some '#' || line.head? = some ';'

/-- The search of the reader, in some section. -/
def searchLines (name key : List Char) : Option (List Char) → List (List Char) → Option (List Char)
  | _, [] => none
  | active, line :: rest =>
    let line := trimmed line
    if isSection line then searchLines name key (some (trimBrackets line)) rest
    else if active ≠ some name ∨ isComment line then searchLines name key active rest
    else match splitOnce '=' line with
      | none => searchLines name key active rest
      | some (found, value) =>
        if trimmed found = key then
          let value := trimmed value
          if value = [] then none else some value
        else searchLines name key active rest

def iniProperty (config name key : List Char) : Option (List Char) :=
  searchLines name key none (lines config)

@[simp] theorem trimmed_stripReturn (line : List Char) : trimmed (stripReturn line) = trimmed line := by
  rcases stripReturn_cases line with ⟨h, -⟩ | h
  · rw [h]
  · conv_rhs => rw [h]
    exact (trimChars_concat (by decide)).symm

/-! ### Names -/

/-- The reader, which trims a line first, sees the same name as the writer. -/
@[simp] theorem propertyName_trimmed (line : List Char) :
    propertyName (trimmed line) = propertyName line := by
  cases hsplit : splitOnce '=' line with
  | none =>
    have hmem := splitOnce_eq_none.mp hsplit
    have htrimmed : splitOnce '=' (trimmed line) = none :=
      splitOnce_eq_none.mpr fun h => hmem (trimChars_subset _ h)
    rw [propertyName, propertyName, hsplit, htrimmed]
  | some halves =>
    obtain ⟨rfl, hmem⟩ := splitOnce_eq_some.mp hsplit
    have htrimmed : splitOnce '=' (trimmed (halves.1 ++ '=' :: halves.2)) =
        some (halves.1.dropWhile rustBlank, halves.2.rdropWhile rustBlank) := by
      refine splitOnce_eq_some.mpr ⟨trimChars_append_cons (by decide), ?_⟩
      exact fun h => hmem ((List.dropWhile_sublist _).subset h)
    rw [propertyName, propertyName, hsplit, htrimmed, Option.map_some, Option.map_some, trimmed,
      trimChars_dropWhile, trimmed]

@[simp] theorem propertyName_stripReturn (line : List Char) :
    propertyName (stripReturn line) = propertyName line := by
  rw [← propertyName_trimmed, trimmed_stripReturn, propertyName_trimmed]

/-! ### Settings -/

/-- A key that may be written. -/
structure IsKey (key : List Char) : Prop where
  ne_nil : key ≠ []
  trimmed_eq : trimmed key = key
  unbroken : Unbroken key
  plain : '=' ∉ key
  head : ∀ c ∈ key.head?, c ∉ ['#', ';', '[']

/-- A value that may be written. -/
structure IsValue (value : List Char) : Prop where
  ne_nil : value ≠ []
  trimmed_eq : trimmed value = value
  unbroken : Unbroken value

section Setting

variable {key value : List Char}

theorem head?_setting (hkey : IsKey key) : (setting key value).head? = key.head? := by
  obtain ⟨c, rest, rfl⟩ := List.exists_cons_of_ne_nil hkey.ne_nil
  rfl

theorem getLast?_setting (hvalue : IsValue value) :
    (setting key value).getLast? = value.getLast? := by
  obtain ⟨init, c, rfl⟩ := List.eq_nil_or_concat' value |>.resolve_left hvalue.ne_nil
  have hconcat : setting key (init ++ [c]) = (key ++ ' ' :: '=' :: ' ' :: init) ++ [c] := by
    simp [setting]
  rw [hconcat, List.getLast?_concat, List.getLast?_concat]

theorem trimmed_setting (hkey : IsKey key) (hvalue : IsValue value) :
    trimmed (setting key value) = setting key value := by
  refine trimChars_eq_self ?_ ?_
  · rw [head?_setting hkey]
    exact head?_of_trimChars_eq_self hkey.trimmed_eq
  · rw [getLast?_setting hvalue]
    exact getLast?_of_trimChars_eq_self hvalue.trimmed_eq

theorem unbroken_setting (hkey : IsKey key) (hvalue : IsValue value) :
    Unbroken (setting key value) := by
  have hk := hkey.unbroken
  have hv := hvalue.unbroken
  unfold Unbroken at *
  simp [setting, hk, hv]

theorem stripReturn_setting (hvalue : IsValue value) :
    stripReturn (setting key value) = setting key value := by
  refine stripReturn_eq_self ?_
  rw [getLast?_setting hvalue]
  intro h
  have hblank := getLast?_of_trimChars_eq_self hvalue.trimmed_eq _ h
  revert hblank
  decide

/-- The setting is neither a header nor a comment. -/
theorem isSection_setting (hkey : IsKey key) : isSection (setting key value) = false := by
  obtain ⟨c, rest, hcons⟩ := List.exists_cons_of_ne_nil hkey.ne_nil
  have hc := hkey.head c (by rw [hcons]; rfl)
  rw [isSection, head?_setting hkey, hcons]
  simp only [List.mem_cons, List.not_mem_nil, or_false, not_or] at hc
  simp [hc.2.2]

theorem isComment_setting (hkey : IsKey key) : isComment (setting key value) = false := by
  obtain ⟨c, rest, hcons⟩ := List.exists_cons_of_ne_nil hkey.ne_nil
  have hc := hkey.head c (by rw [hcons]; rfl)
  rw [isComment, head?_setting hkey, hcons]
  simp only [List.mem_cons, List.not_mem_nil, or_false, not_or] at hc
  simp [hc.1, hc.2.1]

theorem splitOnce_setting (hkey : IsKey key) :
    splitOnce '=' (setting key value) = some (key ++ [' '], ' ' :: value) := by
  refine splitOnce_eq_some.mpr ⟨by simp [setting], ?_⟩
  rw [List.mem_append, not_or]
  exact ⟨hkey.plain, by decide⟩

theorem trimmed_name (hkey : IsKey key) : trimmed (key ++ [' ']) = key := by
  rw [trimmed, trimChars_concat (by decide)]
  exact hkey.trimmed_eq

theorem trimmed_value (hvalue : IsValue value) : trimmed (' ' :: value) = value := by
  have hblank : trimmed (' ' :: value) = trimmed value := by
    rw [trimmed, trimChars, List.dropWhile_cons]
    rfl
  rw [hblank, hvalue.trimmed_eq]

theorem propertyName_setting (hkey : IsKey key) :
    propertyName (setting key value) = some key := by
  rw [propertyName, splitOnce_setting hkey, Option.map_some, trimmed_name hkey]

end Setting

/-! ### Where a setting is written -/

/-- The line is in a section without headers, and not about the key. -/
def Passed (key line : List Char) : Prop :=
  isSection (trimmed line) = false ∧ propertyName line ≠ some key

/-- The lines lead into the first section of a name and have nothing about a key in it. -/
def Opens (name key : List Char) (front : List (List Char)) : Prop :=
  ∃ before head body, front = before ++ head :: body ∧
    (∀ line ∈ before, trimmed line ≠ header name) ∧ trimmed head = header name ∧
    ∀ line ∈ body, Passed key line

theorem Opens.map_stripReturn {name key : List Char} {front : List (List Char)}
    (h : Opens name key front) : Opens name key (front.map stripReturn) := by
  obtain ⟨before, head, body, rfl, hbefore, hhead, hbody⟩ := h
  refine ⟨before.map stripReturn, stripReturn head, body.map stripReturn, by simp, ?_, ?_, ?_⟩
  · intro line hline
    obtain ⟨l, hl, rfl⟩ := List.mem_map.mp hline
    rw [trimmed_stripReturn]
    exact hbefore l hl
  · rw [trimmed_stripReturn, hhead]
  · intro line hline
    obtain ⟨l, hl, rfl⟩ := List.mem_map.mp hline
    rw [Passed, trimmed_stripReturn, propertyName_stripReturn]
    exact hbody l hl

section Writer

variable {ls : List (List Char)} {name key : List Char} {start last : ℕ}

theorem sectionStart_eq_none :
    sectionStart ls name = none ↔ ∀ line ∈ ls, trimmed line ≠ header name := by
  rw [sectionStart, List.findIdx?_eq_none_iff]
  simp

theorem mem_sectionRange {index : ℕ} :
    index ∈ sectionRange start last ↔ start < index ∧ index < last := by
  rw [sectionRange, List.mem_range'_1]
  omega

theorem sectionEnd_le (hstart : start < ls.length) :
    start + 1 ≤ sectionEnd ls start ∧ sectionEnd ls start ≤ ls.length := by
  unfold sectionEnd
  cases hfind : (ls.drop (start + 1)).findIdx? fun line => isSection (trimmed line) with
  | none => exact ⟨hstart, le_rfl⟩
  | some offset =>
    obtain ⟨hlt, -, -⟩ := List.findIdx?_eq_some_iff_getElem.mp hfind
    rw [List.length_drop] at hlt
    simp only
    omega

/-- There is no header in a section. -/
theorem isSection_of_lt_sectionEnd {index : ℕ} (hindex : start < index)
    (hlt : index < sectionEnd ls start) (hlength : index < ls.length) :
    isSection (trimmed ls[index]) = false := by
  have hplace : start + 1 + (index - (start + 1)) = index := by omega
  unfold sectionEnd at hlt
  cases hfind : (ls.drop (start + 1)).findIdx? fun line => isSection (trimmed line) with
  | none =>
    have hnone := List.findIdx?_eq_none_iff.mp hfind
    refine hnone _ ?_
    rw [List.mem_iff_getElem]
    refine ⟨index - (start + 1), by rw [List.length_drop]; omega, ?_⟩
    simp only [List.getElem_drop, hplace]
  | some offset =>
    rw [hfind] at hlt
    obtain ⟨hbound, -, hbefore⟩ := List.findIdx?_eq_some_iff_getElem.mp hfind
    have hnot := hbefore (index - (start + 1)) (by simp only at hlt; omega)
    simpa only [List.getElem_drop, hplace, Bool.not_eq_true] using hnot

/-- The lines of a section up to an index lead into it. -/
theorem opens_take {index : ℕ} (hstart : sectionStart ls name = some start)
    (hindex : start < index) (hlast : index ≤ sectionEnd ls start)
    (hkey : ∀ j, start < j → j < index → propertyName (ls.getD j []) ≠ some key) :
    Opens name key (ls.take index) := by
  obtain ⟨hlt, hhead, hbefore⟩ := List.findIdx?_eq_some_iff_getElem.mp hstart
  have hle := (sectionEnd_le hlt).2
  refine ⟨ls.take start, ls[start], (ls.drop (start + 1)).take (index - (start + 1)), ?_, ?_, ?_, ?_⟩
  · have hsplit : index = start + (1 + (index - (start + 1))) := by omega
    conv_lhs => rw [hsplit]
    rw [List.take_add, List.drop_eq_getElem_cons hlt, Nat.add_comm 1, List.take_succ_cons]
  · intro line hline
    obtain ⟨j, hj, rfl⟩ := List.mem_take_iff_getElem.mp hline
    simpa using hbefore j (by omega)
  · simpa using hhead
  · intro line hline
    obtain ⟨j, hj, rfl⟩ := List.mem_take_iff_getElem.mp hline
    rw [List.length_drop] at hj
    have hlength : start + 1 + j < ls.length := by omega
    have hsection : start + 1 + j < sectionEnd ls start := by omega
    rw [List.getElem_drop]
    refine ⟨isSection_of_lt_sectionEnd (by omega) hsection hlength, ?_⟩
    have hname := hkey (start + 1 + j) (by omega) (by omega)
    rwa [List.getD_eq_getElem _ _ hlength] at hname

theorem insertIdx_eq_take_append {α : Type} {as : List α} {i : ℕ} {a : α} (h : i ≤ as.length) :
    as.insertIdx i a = as.take i ++ a :: as.drop i := by
  induction as generalizing i with
  | nil =>
    obtain rfl : i = 0 := by simpa using h
    rfl
  | cons b as ih =>
    cases i with
    | zero => rfl
    | succ i => simp [ih (Nat.le_of_succ_le_succ h)]

theorem insertAt_bounds (hstart : start + 1 ≤ last) :
    start < insertAt ls start last ∧ insertAt ls start last ≤ last := by
  unfold insertAt
  cases hfind : (sectionRange start last).reverse.find?
      fun index => trimmed (ls.getD index []) ≠ [] with
  | none => exact ⟨Nat.lt_succ_self start, hstart⟩
  | some index =>
    have hmem := mem_sectionRange.mp (List.mem_reverse.mp (List.mem_of_find?_eq_some hfind))
    simp only
    omega

/-- The name of a line is the key where the search for the key says so. -/
theorem keyIndex_eq_some {index : ℕ} : keyIndex ls key start last = some index ↔
    propertyName (ls.getD index []) = some key ∧ (start < index ∧ index < last) ∧
      ∀ j, start < j → j < index → propertyName (ls.getD j []) ≠ some key := by
  rw [keyIndex, sectionRange, List.find?_range'_eq_some, ← sectionRange, mem_sectionRange]
  simp

/-- The end of a section is behind lines that are no headers. -/
theorem le_sectionEnd {passed back : List (List Char)}
    (hdrop : ls.drop (start + 1) = passed ++ back) (hlt : start < ls.length)
    (hpassed : ∀ line ∈ passed, isSection (trimmed line) = false) :
    start + 1 + passed.length ≤ sectionEnd ls start := by
  have hlength := congrArg List.length hdrop
  rw [List.length_drop, List.length_append] at hlength
  unfold sectionEnd
  rw [hdrop]
  cases hfind : (passed ++ back).findIdx? fun line => isSection (trimmed line) with
  | none =>
    simp only
    omega
  | some offset =>
    obtain ⟨hbound, hoffset, -⟩ := List.findIdx?_eq_some_iff_getElem.mp hfind
    simp only
    by_contra hle
    have hinside : offset < passed.length := by omega
    rw [List.getElem_append_left hinside, hpassed _ (List.getElem_mem hinside)] at hoffset
    contradiction

theorem keyIndex_eq_none : keyIndex ls key start last = none ↔
    ∀ j, start < j → j < last → propertyName (ls.getD j []) ≠ some key := by
  rw [keyIndex, List.find?_eq_none]
  simp [mem_sectionRange]

end Writer

section Written

variable {content name key value : List Char}

/-- **The setting is written in the first section of its name**, over the first line about the key
or as a new line. -/
theorem exists_written {result : List Char} (h : setIniValue content name key value = .ok result) :
    ∃ front old back, lines content = front ++ (old ++ back) ∧
      result = unlines (front ++ setting key value :: back) ∧ Opens name key front ∧
      ∀ line ∈ old, isSection (trimmed line) = false ∧ propertyName line = some key := by
  unfold setIniValue at h
  simp only at h
  generalize lines content = ls at h ⊢
  cases hstart : sectionStart ls name with
  | none => simp [hstart] at h
  | some start =>
    have hlt := (List.findIdx?_eq_some_iff_getElem.mp hstart).1
    have hend := sectionEnd_le hlt
    have hjoin : ∀ front back : List (List Char),
        joinLines (front ++ setting key value :: back) ++ ['\n'] =
          unlines (front ++ setting key value :: back) := by
      intro front back
      exact joinLines_concat_newline (by simp)
    simp only [hstart, Except.ok.injEq] at h
    cases hfound : keyIndex ls key start (sectionEnd ls start) with
    | some index =>
      obtain ⟨hname, ⟨hindex, hlast⟩, hbefore⟩ := keyIndex_eq_some.mp hfound
      have hlength : index < ls.length := by omega
      refine ⟨ls.take index, [ls[index]], ls.drop (index + 1), ?_, ?_,
        opens_take hstart hindex hlast.le hbefore, ?_⟩
      · rw [List.singleton_append, ← List.drop_eq_getElem_cons hlength, List.take_append_drop]
      · rw [← h, hfound]
        simp only
        rw [List.set_eq_take_append_cons_drop, if_pos hlength, hjoin]
      · intro line hline
        obtain rfl := List.mem_singleton.mp hline
        rw [List.getD_eq_getElem _ _ hlength] at hname
        exact ⟨isSection_of_lt_sectionEnd hindex hlast hlength, hname⟩
    | none =>
      have hnone := keyIndex_eq_none.mp hfound
      obtain ⟨hindex, hlast⟩ := @insertAt_bounds ls start (sectionEnd ls start) hend.1
      refine ⟨ls.take (insertAt ls start (sectionEnd ls start)), [],
        ls.drop (insertAt ls start (sectionEnd ls start)), ?_, ?_,
        opens_take hstart hindex hlast fun j hj hjlt => hnone j hj (by omega), by simp⟩
      · rw [List.nil_append, List.take_append_drop]
      · rw [← h, hfound]
        simp only
        rw [insertIdx_eq_take_append (by omega), hjoin]

/-- **A setting that is there is written again in its place.** -/
theorem setIniValue_of_opens {front back : List (List Char)} {line : List Char}
    (hlines : lines content = front ++ line :: back) (hopens : Opens name key front)
    (hsection : isSection (trimmed line) = false) (hname : propertyName line = some key) :
    setIniValue content name key value = .ok (unlines (front ++ setting key value :: back)) := by
  obtain ⟨before, head, body, rfl, hbefore, hhead, hbody⟩ := hopens
  have hls : lines content = before ++ head :: (body ++ line :: back) := by
    rw [hlines, List.append_assoc, List.cons_append]
  have hlength : (lines content).length = before.length + 1 + body.length + 1 + back.length := by
    rw [hls]
    simp only [List.length_append, List.length_cons]
    omega
  have hstart : sectionStart (lines content) name = some before.length := by
    refine List.findIdx?_eq_some_iff_getElem.mpr ⟨by omega, ?_, ?_⟩
    · simp [hls, hhead]
    · intro j hj
      have hline := hbefore before[j] (List.getElem_mem hj)
      simpa [hls, List.getElem_append_left hj] using hline
  have hdrop : (lines content).drop (before.length + 1) = (body ++ [line]) ++ back := by
    have hsplit : before ++ head :: (body ++ line :: back) =
        (before ++ [head]) ++ (body ++ line :: back) := by simp
    rw [hls, hsplit, List.drop_left' (by simp)]
    simp
  have hend := le_sectionEnd hdrop (by omega) (by
    intro l hl
    rcases List.mem_append.mp hl with hl | hl
    · exact (hbody l hl).1
    · rwa [List.mem_singleton.mp hl])
  rw [List.length_append, List.length_singleton] at hend
  have hindex : (before ++ head :: body).length = before.length + 1 + body.length := by
    simp only [List.length_append, List.length_cons]
    omega
  have hfound : keyIndex (lines content) key before.length
      (sectionEnd (lines content) before.length) = some (before ++ head :: body).length := by
    refine keyIndex_eq_some.mpr ⟨?_, ⟨by omega, by omega⟩, ?_⟩
    · rw [hlines, List.getD_append_right _ _ _ _ le_rfl, Nat.sub_self]
      exact hname
    · intro j hj hjlt
      have hsplit : before ++ head :: body = (before ++ [head]) ++ body := by simp
      have hj' : j - (before.length + 1) < body.length := by omega
      rw [hlines, List.getD_append _ _ _ _ hjlt, hsplit,
        List.getD_append_right _ _ _ _ (by simp; omega), List.length_append,
        List.length_singleton, List.getD_eq_getElem _ _ hj']
      exact (hbody _ (List.getElem_mem hj')).2
  have hset : (lines content).set (before ++ head :: body).length (setting key value) =
      (before ++ head :: body) ++ setting key value :: back := by
    rw [hlines, List.set_append_right _ _ le_rfl, Nat.sub_self, List.set_cons_zero]
  rw [setIniValue]
  simp only [hstart, hfound, hset]
  rw [joinLines_concat_newline (by simp)]

end Written

/-! ### What is read -/

section Reader

variable {name key : List Char} {active : Option (List Char)}

/-- The section the reader is in behind a line. -/
def nextActive (active : Option (List Char)) (line : List Char) : Option (List Char) :=
  if isSection (trimmed line) then some (trimBrackets (trimmed line)) else active

/-- One line of the search, by what it is about. -/
theorem searchLines_skip {line : List Char} {rest : List (List Char)}
    (h : nextActive active line = some name → isSection (trimmed line) = false →
      propertyName line ≠ some key) :
    searchLines name key active (line :: rest) = searchLines name key (nextActive active line) rest := by
  rw [searchLines, nextActive]
  by_cases hsection : isSection (trimmed line) = true
  · simp only [hsection, if_true]
  · rw [Bool.not_eq_true] at hsection
    rw [nextActive, hsection] at h
    simp only [hsection, Bool.false_eq_true, if_false] at h ⊢
    by_cases hskip : active ≠ some name ∨ isComment (trimmed line) = true
    · rw [if_pos hskip]
    · rw [if_neg hskip]
      rw [not_or, not_not] at hskip
      have hname := h hskip.1 trivial
      rw [← propertyName_trimmed, propertyName] at hname
      cases hsplit : splitOnce '=' (trimmed line) with
      | none => rfl
      | some halves =>
        rw [hsplit, Option.map_some, ne_eq, Option.some.injEq] at hname
        simp only [if_neg hname]

/-- **What comes behind a line does not matter to the lines before it.** -/
theorem searchLines_frame {front rest rest' : List (List Char)}
    (h : searchLines name key (front.foldl nextActive active) rest =
      searchLines name key (front.foldl nextActive active) rest') :
    searchLines name key active (front ++ rest) = searchLines name key active (front ++ rest') := by
  induction front generalizing active with
  | nil => exact h
  | cons line front ih =>
    rw [List.foldl_cons] at h
    have ih := ih h
    rw [List.cons_append, List.cons_append, searchLines, searchLines]
    rw [nextActive] at ih
    by_cases hsection : isSection (trimmed line) = true
    · simp only [hsection, if_true] at ih ⊢
      exact ih
    · rw [Bool.not_eq_true] at hsection
      simp only [hsection, Bool.false_eq_true, if_false] at ih ⊢
      rw [ih]

/-- Lines that are passed leave the reader in its section. -/
theorem searchLines_passed {body rest : List (List Char)} (h : ∀ line ∈ body, Passed key line) :
    searchLines name key active (body ++ rest) = searchLines name key active rest := by
  induction body with
  | nil => rfl
  | cons line body ih =>
    rw [List.forall_mem_cons] at h
    rw [List.cons_append, searchLines_skip fun _ _ => h.1.2, nextActive, h.1.1]
    exact ih h.2

/-- The reader does not look at carriage returns at the ends of lines. -/
theorem searchLines_map_stripReturn {ls : List (List Char)} :
    searchLines name key active (ls.map stripReturn) = searchLines name key active ls := by
  induction ls generalizing active with
  | nil => rfl
  | cons line ls ih =>
    rw [List.map_cons, searchLines, searchLines]
    simp only [trimmed_stripReturn, ih]

theorem trimBrackets_header (hname : '[' ∉ name ∧ ']' ∉ name) : trimBrackets (header name) = name := by
  have hplain : ∀ c ∈ name, (c == '[' || c == ']') = false := by
    intro c hc
    have hopen : c ≠ '[' := fun heq => hname.1 (heq ▸ hc)
    have hclose : c ≠ ']' := fun heq => hname.2 (heq ▸ hc)
    simp [hopen, hclose]
  have hleft : (header name).dropWhile (fun c => c == '[' || c == ']') =
      (name ++ [']']).dropWhile fun c => c == '[' || c == ']' := rfl
  rw [trimBrackets, trimChars, hleft, ← trimChars, trimChars_concat (by decide)]
  refine trimChars_eq_self ?_ ?_
  · exact fun c hc => hplain c (List.mem_of_mem_head? hc)
  · exact fun c hc => hplain c (List.mem_of_getLast? hc)

theorem isSection_header : isSection (header name) = true := by
  have hlast : (header name).getLast? = some ']' := by
    rw [header, ← List.cons_append, List.getLast?_concat]
  rw [isSection, hlast]
  rfl

/-- Every header of the text is a name without brackets in brackets. -/
def PlainSections (ls : List (List Char)) : Prop :=
  ∀ line ∈ ls, isSection (trimmed line) = true →
    ∃ name, ('[' ∉ name ∧ ']' ∉ name) ∧ trimmed line = header name

/-- In front of the first section of a name nothing is read of that section. -/
theorem searchLines_before {before rest : List (List Char)} (hplain : PlainSections before)
    (hbefore : ∀ line ∈ before, trimmed line ≠ header name) (hactive : active ≠ some name) :
    ∃ active', searchLines name key active (before ++ rest) = searchLines name key active' rest := by
  induction before generalizing active with
  | nil => exact ⟨active, rfl⟩
  | cons line before ih =>
    rw [List.forall_mem_cons] at hbefore
    have hnext : nextActive active line ≠ some name := by
      unfold nextActive
      split_ifs with hsection
      · obtain ⟨found, hfound, heq⟩ := hplain line List.mem_cons_self hsection
        rw [heq, trimBrackets_header hfound, ne_eq, Option.some.injEq]
        rintro rfl
        exact hbefore.1 heq
      · exact hactive
    rw [List.cons_append, searchLines_skip fun heq => absurd heq hnext]
    exact ih (fun l hl => hplain l (List.mem_cons_of_mem line hl)) hbefore.2 hnext

/-- The reader is in the section that the lines lead into. -/
theorem foldl_nextActive_of_opens {front : List (List Char)} (hname : '[' ∉ name ∧ ']' ∉ name)
    (h : Opens name key front) : front.foldl nextActive active = some name := by
  obtain ⟨before, head, body, rfl, -, hhead, hbody⟩ := h
  have hpassed : ∀ passed : List (List Char), (∀ line ∈ passed, Passed key line) →
      passed.foldl nextActive (some name) = some name := by
    intro passed hall
    induction passed with
    | nil => rfl
    | cons line passed ih =>
      rw [List.forall_mem_cons] at hall
      rw [List.foldl_cons, nextActive, hall.1.1]
      exact ih hall.2
  rw [List.foldl_append, List.foldl_cons, nextActive, hhead, isSection_header, if_pos rfl,
    trimBrackets_header hname, hpassed body hbody]

end Reader

/-! ### Writer and reader -/

section Agreement

variable {content name key value : List Char}

/-- The lines of a text in which a setting was written. -/
theorem lines_written {front old back : List (List Char)} (hkey : IsKey key) (hvalue : IsValue value)
    (hlines : lines content = front ++ (old ++ back)) :
    lines (unlines (front ++ setting key value :: back)) =
      front.map stripReturn ++ setting key value :: back.map stripReturn := by
  have hunbroken : ∀ line ∈ front ++ setting key value :: back, Unbroken line := by
    have hall : ∀ line ∈ front ++ (old ++ back), Unbroken line := by
      intro line hline
      rw [← hlines] at hline
      exact unbroken_of_mem_lines hline
    intro line hline
    rw [List.mem_append, List.mem_cons] at hline
    rcases hline with hline | hline | hline
    · exact hall line (List.mem_append_left _ hline)
    · rw [hline]
      exact unbroken_setting hkey hvalue
    · exact hall line (List.mem_append_right _ (List.mem_append_right _ hline))
  rw [lines_unlines hunbroken, List.map_append, List.map_cons, stripReturn_setting hvalue]

/-- What is read of a written text. -/
theorem iniProperty_written {front old back : List (List Char)} (hkey : IsKey key)
    (hvalue : IsValue value) (hlines : lines content = front ++ (old ++ back))
    (name' key' : List Char) :
    iniProperty (unlines (front ++ setting key value :: back)) name' key' =
      searchLines name' key' none (front ++ setting key value :: back) := by
  rw [iniProperty, lines_written hkey hvalue hlines, ← stripReturn_setting hvalue, ← List.map_cons,
    ← List.map_append, searchLines_map_stripReturn, stripReturn_setting hvalue]

/-- The setting itself is read. -/
theorem searchLines_setting (hkey : IsKey key) (hvalue : IsValue value) (rest : List (List Char)) :
    searchLines name key (some name) (setting key value :: rest) = some value := by
  have htrimmed : trimmed (setting key value) = setting key value := trimmed_setting hkey hvalue
  rw [searchLines]
  simp only [htrimmed, isSection_setting hkey, isComment_setting hkey, splitOnce_setting hkey,
    trimmed_name hkey, trimmed_value hvalue, hvalue.ne_nil, Bool.false_eq_true, ne_eq,
    not_true_eq_false, or_self, if_false, if_true]

theorem iniProperty_eq_value {front old back : List (List Char)}
    (hsections : PlainSections (lines content)) (hname : '[' ∉ name ∧ ']' ∉ name)
    (hkey : IsKey key) (hvalue : IsValue value) (hlines : lines content = front ++ (old ++ back))
    (hopens : Opens name key front) :
    iniProperty (unlines (front ++ setting key value :: back)) name key = some value := by
  rw [iniProperty_written hkey hvalue hlines]
  obtain ⟨before, head, body, rfl, hbefore, hhead, hbody⟩ := hopens
  have hplain : PlainSections before := by
    intro line hline
    refine hsections line ?_
    rw [hlines]
    simp [hline]
  rw [List.append_assoc, List.cons_append]
  obtain ⟨active', hactive⟩ := @searchLines_before name key none before
    (head :: (body ++ setting key value :: back)) hplain hbefore (by simp)
  have hnext : nextActive active' head = some name := by
    rw [nextActive, hhead, isSection_header, if_pos rfl, trimBrackets_header hname]
  rw [hactive, searchLines_skip, hnext, searchLines_passed hbody, searchLines_setting hkey hvalue]
  intro _ hsection
  rw [hhead, isSection_header] at hsection
  contradiction

/-- Nothing else is read differently. -/
theorem iniProperty_eq_of_ne {front old back : List (List Char)} (hname : '[' ∉ name ∧ ']' ∉ name)
    (hkey : IsKey key) (hvalue : IsValue value) (hlines : lines content = front ++ (old ++ back))
    (hopens : Opens name key front)
    (hold : ∀ line ∈ old, isSection (trimmed line) = false ∧ propertyName line = some key)
    {name' key' : List Char} (hne : (name', key') ≠ (name, key)) :
    iniProperty (unlines (front ++ setting key value :: back)) name' key' =
      iniProperty content name' key' := by
  -- a line about the key is passed by whoever looks for something else
  have hskip : ∀ line rest, isSection (trimmed line) = false → propertyName line = some key →
      searchLines name' key' (some name) (line :: rest) =
        searchLines name' key' (some name) rest := by
    intro line rest hsection hline
    have hnext : nextActive (some name) line = some name := by
      rw [nextActive, hsection]
      rfl
    rw [searchLines_skip, hnext]
    intro heq _ hfound
    rw [hnext, Option.some.injEq] at heq
    rw [hline, Option.some.injEq] at hfound
    exact hne (by rw [heq, hfound])
  have hskipAll : ∀ passed rest, (∀ line ∈ passed, isSection (trimmed line) = false ∧
      propertyName line = some key) → searchLines name' key' (some name) (passed ++ rest) =
        searchLines name' key' (some name) rest := by
    intro passed rest hall
    induction passed with
    | nil => rfl
    | cons line passed ih =>
      rw [List.forall_mem_cons] at hall
      rw [List.cons_append, hskip line _ hall.1.1 hall.1.2]
      exact ih hall.2
  have hsetting : isSection (trimmed (setting key value)) = false := by
    rw [trimmed_setting hkey hvalue, isSection_setting hkey]
  rw [iniProperty_written hkey hvalue hlines, iniProperty, hlines]
  refine searchLines_frame ?_
  rw [foldl_nextActive_of_opens hname hopens, hskip _ _ hsetting (propertyName_setting hkey),
    hskipAll old back hold]

/-- **Writer and reader agree.**  A setting is written unless its section is missing; it is then
read, and everything else is as it was.  Written again, it only costs carriage returns. -/
theorem setIniValue_agrees (hsections : PlainSections (lines content))
    (hname : '[' ∉ name ∧ ']' ∉ name) (hkey : IsKey key) (hvalue : IsValue value) :
    ((∃ message, setIniValue content name key value = .error message) ↔
        ∀ line ∈ lines content, trimmed line ≠ header name) ∧
      ∀ result, setIniValue content name key value = .ok result →
        iniProperty result name key = some value ∧
        (∀ name' key', (name', key') ≠ (name, key) →
          iniProperty result name' key' = iniProperty content name' key') ∧
        setIniValue result name key value = .ok (unlines (lines result)) ∧
        ((∀ line ∈ lines content, line.getLast? ≠ some '\r') →
          setIniValue result name key value = .ok result) := by
  constructor
  · rw [← sectionStart_eq_none, setIniValue]
    cases sectionStart (lines content) name with
    | none => simp
    | some start => simp
  intro result hresult
  obtain ⟨front, old, back, hlines, rfl, hopens, hold⟩ := exists_written hresult
  have hwritten := lines_written hkey hvalue hlines
  have hsetting : isSection (trimmed (setting key value)) = false := by
    rw [trimmed_setting hkey hvalue, isSection_setting hkey]
  have hagain := @setIniValue_of_opens _ name key value _ _ _ hwritten hopens.map_stripReturn
    hsetting (propertyName_setting hkey)
  refine ⟨iniProperty_eq_value hsections hname hkey hvalue hlines hopens, ?_, ?_, ?_⟩
  · intro name' key' hne
    exact iniProperty_eq_of_ne hname hkey hvalue hlines hopens hold hne
  · rw [hagain, hwritten]
  · intro hplain
    have hstrip : ∀ ls : List (List Char), (∀ line ∈ ls, line ∈ lines content) → ls.map stripReturn = ls := by
      intro ls hls
      refine (List.map_congr_left ?_).trans (List.map_id ls)
      intro line hline
      exact stripReturn_eq_self (hplain line (hls line hline))
    have hfront : front.map stripReturn = front := hstrip front (by simp +contextual [hlines])
    have hback : back.map stripReturn = back := hstrip back (by simp +contextual [hlines])
    rw [hagain, hfront, hback]

end Agreement

theorem setIniValue_agrees_sample :
    iniProperty "[a]\nk=1\n[b]\nk = v\n".toList "b".toList "k".toList = some "v".toList ∧
      iniProperty "[a]\nk=1\n[b]\nk = v\n".toList "a".toList "k".toList =
        iniProperty "[a]\nk=1\n[b]\n".toList "a".toList "k".toList := by
  have hlines : lines "[a]\nk=1\n[b]\n".toList =
      [header "a".toList, "k=1".toList, header "b".toList] := by decide +kernel
  have hsections : PlainSections (lines "[a]\nk=1\n[b]\n".toList) := by
    intro line hline hsection
    rw [hlines] at hline
    simp only [List.mem_cons, List.not_mem_nil, or_false] at hline
    rcases hline with rfl | rfl | rfl
    · exact ⟨"a".toList, by decide, by decide +kernel⟩
    · have hplain : isSection (trimmed "k=1".toList) = false := by decide +kernel
      rw [hplain] at hsection
      contradiction
    · exact ⟨"b".toList, by decide, by decide +kernel⟩
  have hkey : IsKey "k".toList := by
    refine ⟨by decide, by decide +kernel, by decide, by decide, ?_⟩
    intro c hc
    obtain rfl : 'k' = c := by simpa using hc
    decide
  have hvalue : IsValue "v".toList := ⟨by decide, by decide +kernel, by decide⟩
  have h := (setIniValue_agrees hsections (by decide : '[' ∉ "b".toList ∧ ']' ∉ "b".toList) hkey
    hvalue).2 "[a]\nk=1\n[b]\nk = v\n".toList (by decide +kernel)
  exact ⟨h.1, h.2.1 "a".toList "k".toList (by decide +kernel)⟩

/-- Written twice, a setting costs two carriage returns. -/
theorem carriage_return_is_lost :
    setIniValue "[a]\r\r\n".toList "a".toList "k".toList "v".toList =
        .ok "[a]\r\nk = v\n".toList ∧
      setIniValue "[a]\r\nk = v\n".toList "a".toList "k".toList "v".toList =
        .ok "[a]\nk = v\n".toList := by
  decide +kernel

end Wroid.IniFile
