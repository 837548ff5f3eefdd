import Wroid.Lib.JsonPretty

/-!
# JSON texts with nested blocks

Arrays and objects whose parts stand on lines of their own, one inside the other.  Before each part
there are the blanks `lead`, and before the closing bracket the blanks `tail`; how many blanks a
printer takes for a level does not matter.

A block ends by itself, and a part of it is followed by a comma or a blank.  So a text that reads
apart is all that is asked of a part.

## Main definitions

* `Blanks` — a text of blanks.
* `arrayBlock`, `objectBlock` — a printed array and a printed object.

## Main results

* `ReadsAlone.array`, `ReadsAlone.object` — **a block of parts that read is read as their values**.
* `parseJson_alone` — a text that reads alone is parsed.
-/

namespace Wroid.Lib

/-! ### Blanks -/

def Blanks (text : List Char) : Prop := ∀ c ∈ text, c = ' ' ∨ c = '\n' ∨ c = '\t' ∨ c = '\r'

theorem skipBlank_append {blanks : List Char} (h : Blanks blanks) (text : List Char) :
    skipBlank (blanks ++ text) = skipBlank text := by
  induction blanks with
  | nil => rfl
  | cons c blanks ih =>
    rw [List.cons_append, skipBlank_blank (h c List.mem_cons_self)]
    exact ih fun c hc => h c (List.mem_cons_of_mem _ hc)

theorem readValue_skipBlank (fuel depth : ℕ) (text : List Char) :
    readValue fuel depth (skipBlank text) = readValue fuel depth text := by
  cases fuel with
  | zero => rw [readValue, readValue]
  | succ fuel =>
    have hidem : skipBlank (skipBlank text) = skipBlank text := List.dropWhile_idempotent _ _
    rw [readValue, readValue, hidem]

theorem readItems_skipBlank (fuel depth : ℕ) (text : List Char) :
    readItems fuel depth (skipBlank text) = readItems fuel depth text := by
  cases fuel with
  | zero => rw [readItems, readItems]
  | succ fuel => rw [readItems, readItems, readValue_skipBlank]

/-- Blanks before a value are skipped. -/
theorem readValue_append {blanks : List Char} (h : Blanks blanks) (fuel depth : ℕ)
    (text : List Char) : readValue fuel depth (blanks ++ text) = readValue fuel depth text := by
  rw [← readValue_skipBlank, skipBlank_append h, readValue_skipBlank]

theorem apart_blanks {blanks rest : List Char} (h : Blanks blanks) (hrest : Apart rest) :
    Apart (blanks ++ rest) := by
  cases blanks with
  | nil => exact hrest
  | cons b blanks =>
    intro c hc
    obtain rfl : b = c := Option.some.inj hc
    rcases h b List.mem_cons_self with rfl | rfl | rfl | rfl <;> decide

theorem apart_cons {c : Char} (h : ¬ c.isDigit = true ∧ c ≠ '.' ∧ c ≠ 'e' ∧ c ≠ 'E')
    (rest : List Char) : Apart (c :: rest) := by
  intro d hd
  obtain rfl : c = d := Option.some.inj hd
  exact h

/-! ### Values -/

theorem ReadsAlone.apart {d : ℕ} {text : List Char} {value : Json} (h : ReadsAlone d text value) :
    ReadsApart d text value :=
  fun fuel depth rest hfuel hdepth _ => h fuel depth rest hfuel hdepth

theorem ReadsApart.mono {d d' : ℕ} {text : List Char} {value : Json} (h : ReadsApart d text value)
    (hd : d ≤ d') : ReadsApart d' text value :=
  fun fuel depth rest hfuel hdepth => h fuel depth rest hfuel (hd.trans hdepth)

theorem ReadsAlone.mono {d d' : ℕ} {text : List Char} {value : Json} (h : ReadsAlone d text value)
    (hd : d ≤ d') : ReadsAlone d' text value :=
  fun fuel depth rest hfuel hdepth => h fuel depth rest hfuel (hd.trans hdepth)

/-- A text that reads alone is parsed, with blanks after it. -/
theorem parseJson_alone {d : ℕ} {text : List Char} {value : Json} (h : ReadsAlone d text value)
    (hd : d ≤ recursionLimit) {blanks : List Char} (hblanks : Blanks blanks) :
    parseJson (text ++ blanks) = some value := by
  have hfuel : 2 * text.length ≤ 2 * (text ++ blanks).length + 1 := by
    rw [List.length_append]
    omega
  have hskip : skipBlank blanks = [] := by
    have := skipBlank_append hblanks []
    rwa [List.append_nil] at this
  rw [parseJson, h _ _ _ hfuel hd]
  simp only [hskip, if_true]

/-! ### Arrays -/

/-- A printed array, with blanks before each item and before the closing bracket. -/
def arrayBlock (lead tail : List Char) (items : List (List Char)) : List Char :=
  '[' :: commaSeparated (items.map (lead ++ ·)) ++ tail ++ [']']

variable {d : ℕ} {lead tail : List Char}

/-- A bracket begins no value. -/
theorem readValue_bracket (fuel depth : ℕ) (rest : List Char) :
    readValue fuel depth (']' :: rest) = none := by
  cases fuel with
  | zero => rw [readValue]
  | succ fuel =>
    rw [readValue_scalar (by decide) (by decide)]
    rfl

/-- The items up to the closing bracket. -/
theorem readItems_block (hlead : Blanks lead) (htail : Blanks tail) {texts : List (List Char)}
    {items : List Json} (hread : List.Forall₂ (ReadsApart d) texts items) (hne : texts ≠ []) :
    ∀ fuel depth rest, 2 * (commaSeparated (texts.map (lead ++ ·))).length + 1 ≤ fuel → d ≤ depth →
      readItems fuel depth (commaSeparated (texts.map (lead ++ ·)) ++ (tail ++ ']' :: rest)) =
        some (items, rest) := by
  induction hread with
  | nil => exact absurd rfl hne
  | @cons text item texts items hitem hrest ih =>
    intro fuel depth rest hfuel hdepth
    obtain ⟨fuel, rfl⟩ : ∃ k, fuel = k + 1 := ⟨fuel - 1, by omega⟩
    cases texts with
    | nil =>
      cases hrest
      rw [List.map_singleton, commaSeparated_singleton] at hfuel ⊢
      rw [List.length_append] at hfuel
      have hvalue := hitem fuel depth (tail ++ ']' :: rest) (by omega) hdepth
        (apart_blanks htail (apart_cons (by decide) rest))
      rw [List.append_assoc, readItems, readValue_append hlead]
      simp only [hvalue, Option.bind_eq_bind, Option.bind_some, skipBlank_append htail,
        skipBlank_cons (c := ']') (by decide)]
    | cons text' texts =>
      rw [List.map_cons, List.map_cons, commaSeparated_cons_cons] at hfuel ⊢
      rw [List.length_append, List.length_cons, List.length_append] at hfuel
      have hmore := ih (List.cons_ne_nil _ _) fuel depth rest (by rw [List.map_cons]; omega) hdepth
      rw [List.map_cons] at hmore
      have hvalue := hitem fuel depth
        (',' :: (commaSeparated ((lead ++ text') :: texts.map (lead ++ ·)) ++ (tail ++ ']' :: rest)))
        (by omega) hdepth (apart_cons (by decide) _)
      rw [List.append_assoc, List.append_assoc, List.cons_append, readItems, readValue_append hlead]
      simp only [hvalue, Option.bind_eq_bind, Option.bind_some, skipBlank_cons (c := ',') (by decide),
        hmore, Option.map_some]

/-- What stands behind an opening bracket decides the array. -/
theorem readValue_array {fuel depth : ℕ} {text rest : List Char} {items : List Json}
    (hitems : readItems fuel (depth - 1) text = some (items, rest)) (hdepth : 1 < depth) :
    readValue (fuel + 1) depth ('[' :: text) = some (.array items, rest) := by
  rw [readValue, skipBlank_cons (by decide)]
  change (if depth ≤ 1 then none else _) = _
  rw [if_neg (by omega)]
  split
  · next closed heq =>
    -- an array without items would have been read as none
    rw [← readItems_skipBlank, heq] at hitems
    cases fuel with
    | zero => simp [readItems] at hitems
    | succ fuel => simp [readItems, readValue_bracket] at hitems
  · rw [readItems_skipBlank, hitems]
    rfl

/-- **A block of items that read is read as an array of their values.** -/
theorem ReadsAlone.array (hlead : Blanks lead) (htail : Blanks tail) {texts : List (List Char)}
    {items : List Json} (hread : List.Forall₂ (ReadsApart d) texts items) (hne : texts ≠ [])
    (hd : 0 < d) : ReadsAlone (d + 1) (arrayBlock lead tail texts) (.array items) := by
  intro fuel depth rest hfuel hdepth
  rw [arrayBlock, List.length_append, List.length_append, List.length_cons, List.length_singleton]
    at hfuel
  obtain ⟨fuel, rfl⟩ : ∃ k, fuel = k + 1 := ⟨fuel - 1, by omega⟩
  have hitems := readItems_block hlead htail hread hne fuel (depth - 1) rest (by omega) (by omega)
  have htext : arrayBlock lead tail texts ++ rest =
      '[' :: (commaSeparated (texts.map (lead ++ ·)) ++ (tail ++ ']' :: rest)) := by
    simp only [arrayBlock, List.cons_append, List.append_assoc, List.nil_append]
  rw [htext]
  exact readValue_array hitems (by omega)

theorem ReadsAlone.emptyArray : ReadsAlone 2 ['[', ']'] (.array []) := by
  intro fuel depth rest hfuel hdepth
  obtain ⟨fuel, rfl⟩ : ∃ k, fuel = k + 1 := ⟨fuel - 1, by simp at hfuel; omega⟩
  rw [List.cons_append, List.cons_append, readValue, skipBlank_cons (by decide)]
  change (if depth ≤ 1 then none else _) = _
  rw [if_neg (by omega), skipBlank_cons (by decide)]
  rfl

/-! ### Objects -/

/-- A field of a block: a blank stands between its colon and its value. -/
def blockField (field : String × List Char) : List Char := jsonString field.1 ++ ':' :: ' ' :: field.2

/-- A printed object, with blanks before each field and before the closing brace. -/
def objectBlock (lead tail : List Char) (fields : List (String × List Char)) : List Char :=
  '\x7b' :: commaSeparated (fields.map fun field => lead ++ blockField field) ++ tail ++ ['\x7d']

/-- The field has the name of the text, and the value that is read from it. -/
def FieldApart (d : ℕ) (printed : String × List Char) (field : String × Json) : Prop :=
  printed.1 = field.1 ∧ ReadsApart d printed.2 field.2

/-- What `readFields` makes of what follows its first field. -/
def fieldsAfter (fuel depth : ℕ) (first : String × Json) (rest : List Char) :
    Option (List (String × Json) × List Char) :=
  match skipBlank rest with
  | '\x7d' :: rest => some ([first], rest)
  | ',' :: rest => (readFields fuel depth rest).map (Prod.map (first :: ·) id)
  | _ => none

theorem fieldsAfter_brace (fuel depth : ℕ) (first : String × Json) (rest : List Char) :
    fieldsAfter fuel depth first ('\x7d' :: rest) = some ([first], rest) := by
  simp only [fieldsAfter, skipBlank_cons (c := '\x7d') (by decide)]

theorem fieldsAfter_comma (fuel depth : ℕ) (first : String × Json) (rest : List Char) :
    fieldsAfter fuel depth first (',' :: rest) =
      (readFields fuel depth rest).map (Prod.map (first :: ·) id) := by
  simp only [fieldsAfter, skipBlank_cons (c := ',') (by decide)]

theorem fieldsAfter_blanks (hblanks : Blanks tail) (fuel depth : ℕ) (first : String × Json)
    (rest : List Char) :
    fieldsAfter fuel depth first (tail ++ rest) = fieldsAfter fuel depth first rest := by
  rw [fieldsAfter, fieldsAfter, skipBlank_append hblanks]

/-- One field, and what `readFields` makes of what follows it. -/
theorem readFields_block_field (hlead : Blanks lead) {fuel depth : ℕ} {name : String}
    {text rest : List Char} {value : Json} (hread : ReadsApart d text value)
    (hfuel : 2 * text.length ≤ fuel) (hdepth : d ≤ depth) (hapart : Apart rest) :
    readFields (fuel + 1) depth (lead ++ (blockField (name, text) ++ rest)) =
      fieldsAfter fuel depth (name, value) rest := by
  have hname := readString_escape name.toList (':' :: ' ' :: (text ++ rest))
  rw [String.ofList_toList] at hname
  have htext : blockField (name, text) ++ rest =
      '"' :: (name.toList.flatMap escapeChar ++ '"' :: ':' :: ' ' :: (text ++ rest)) := by
    simp only [blockField, jsonString, List.cons_append, List.append_assoc, List.nil_append]
  rw [readFields, skipBlank_append hlead, htext, skipBlank_cons (by decide)]
  simp only [hname, Option.bind_eq_bind, Option.bind_some, skipBlank_cons (c := ':') (by decide),
    readValue_blank, hread fuel depth rest hfuel hdepth hapart]
  rfl

/-- The fields up to the closing brace. -/
theorem readFields_block (hlead : Blanks lead) (htail : Blanks tail)
    {printed : List (String × List Char)} {fields : List (String × Json)}
    (hread : List.Forall₂ (FieldApart d) printed fields) (hne : printed ≠ []) :
    ∀ fuel depth rest,
      2 * (commaSeparated (printed.map fun field => lead ++ blockField field)).length + 1 ≤ fuel →
      d ≤ depth → readFields fuel depth
        (commaSeparated (printed.map fun field => lead ++ blockField field) ++
          (tail ++ '\x7d' :: rest)) = some (fields, rest) := by
  have hlength (field : String × List Char) : field.2.length ≤ (lead ++ blockField field).length := by
    rw [blockField, List.length_append, List.length_append, List.length_cons, List.length_cons]
    omega
  induction hread with
  | nil => exact absurd rfl hne
  | @cons p field printed fields hfield hrest ih =>
    obtain ⟨name, text⟩ := p
    obtain ⟨_, value⟩ := field
    obtain ⟨rfl, hvalue⟩ : name = _ ∧ ReadsApart d text value := hfield
    intro fuel depth rest hfuel hdepth
    have hpos : text.length ≤ (lead ++ blockField (name, text)).length := hlength (name, text)
    obtain ⟨fuel, rfl⟩ : ∃ k, fuel = k + 1 := ⟨fuel - 1, by omega⟩
    cases printed with
    | nil =>
      cases hrest
      rw [List.map_singleton, commaSeparated_singleton] at hfuel ⊢
      rw [List.append_assoc, readFields_block_field hlead hvalue (by omega) hdepth
        (apart_blanks htail (apart_cons (by decide) rest)), fieldsAfter_blanks htail,
        fieldsAfter_brace]
    | cons q printed =>
      rw [List.map_cons, List.map_cons, commaSeparated_cons_cons] at hfuel ⊢
      rw [List.length_append, List.length_cons] at hfuel
      have hmore := ih (List.cons_ne_nil _ _) fuel depth rest (by rw [List.map_cons]; omega) hdepth
      rw [List.map_cons] at hmore
      rw [List.append_assoc, List.append_assoc, List.cons_append,
        readFields_block_field hlead hvalue (by omega) hdepth (apart_cons (by decide) _),
        fieldsAfter_comma, hmore]
      rfl

/-- What stands behind an opening brace decides the object. -/
theorem readValue_fields {fuel depth : ℕ} {text rest : List Char} {fields : List (String × Json)}
    (hfields : readFields fuel (depth - 1) text = some (fields, rest)) (hdepth : 1 < depth) :
    readValue (fuel + 1) depth ('\x7b' :: text) = some (.object fields, rest) := by
  rw [readValue, skipBlank_cons (by decide)]
  change (if depth ≤ 1 then none else _) = _
  rw [if_neg (by omega)]
  split
  · next closed heq =>
    rw [← readFields_skipBlank, heq] at hfields
    cases fuel with
    | zero => simp [readFields] at hfields
    | succ fuel => simp [readFields, skipBlank_cons (c := '\x7d') (by decide)] at hfields
  · rw [readFields_skipBlank, hfields]
    rfl

/-- **A block of fields that read is read as an object of their values.** -/
theorem ReadsAlone.object (hlead : Blanks lead) (htail : Blanks tail)
    {printed : List (String × List Char)} {fields : List (String × Json)}
    (hread : List.Forall₂ (FieldApart d) printed fields) (hne : printed ≠ []) (hd : 0 < d) :
    ReadsAlone (d + 1) (objectBlock lead tail printed) (.object fields) := by
  intro fuel depth rest hfuel hdepth
  rw [objectBlock, List.length_append, List.length_append, List.length_cons, List.length_singleton]
    at hfuel
  obtain ⟨fuel, rfl⟩ : ∃ k, fuel = k + 1 := ⟨fuel - 1, by omega⟩
  have hfields := readFields_block hlead htail hread hne fuel (depth - 1) rest (by omega) (by omega)
  have htext : objectBlock lead tail printed ++ rest =
      '\x7b' :: (commaSeparated (printed.map fun field => lead ++ blockField field) ++
        (tail ++ '\x7d' :: rest)) := by
    simp only [objectBlock, List.cons_append, List.append_assoc, List.nil_append]
  rw [htext]
  exact readValue_fields hfields (by omega)

end Wroid.Lib
