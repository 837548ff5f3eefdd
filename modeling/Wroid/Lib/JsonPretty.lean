import Wroid.Lib.JsonReader

/-!
# JSON texts on several lines

A printer of objects that gives each field a line of its own, as a JSON library prettifies them.
The last field is followed by a newline, so that its value must end by itself.

## Main definitions

* `prettyObject` — the printed object.
* `ReadsAlone` — a printed text reads as a value, whatever follows it.

## Main results

* `ReadsAlone.string`, `ReadsAlone.bool`, `ReadsAlone.null` — the values that end by themselves.
* `parseJson_pretty` — **a printed object is parsed as its fields**.
-/

namespace Wroid.Lib

def prettyField (field : String × List Char) : List Char :=
  '\n' :: ' ' :: ' ' :: (jsonString field.1 ++ ':' :: ' ' :: field.2)

/-- An object with one field at least. -/
def prettyObject (fields : List (String × List Char)) : List Char :=
  '\x7b' :: commaSeparated (fields.map prettyField) ++ ['\n', '\x7d']

/-! ### Values that end by themselves -/

def ReadsAlone (d : ℕ) (text : List Char) (value : Json) : Prop :=
  ∀ fuel depth rest, 2 * text.length ≤ fuel → d ≤ depth →
    readValue fuel depth (text ++ rest) = some (value, rest)

theorem ReadsAlone.reads {d : ℕ} {text : List Char} {value : Json} (h : ReadsAlone d text value) :
    Reads d text value :=
  fun fuel depth rest hfuel hdepth _ => h fuel depth rest hfuel hdepth

theorem ReadsAlone.string (text : String) : ReadsAlone 1 (jsonString text) (.string text) := by
  intro fuel depth rest hfuel _
  have hread := readString_escape text.toList rest
  rw [String.ofList_toList] at hread
  obtain ⟨fuel, rfl⟩ : ∃ k, fuel = k + 1 := by
    rw [jsonString, List.cons_append, List.length_cons] at hfuel
    exact ⟨fuel - 1, by omega⟩
  have htext : jsonString text ++ rest = '"' :: (text.toList.flatMap escapeChar ++ '"' :: rest) := by
    simp only [jsonString, List.cons_append, List.append_assoc, List.nil_append]
  rw [htext, readValue, skipBlank_cons (by decide)]
  simp only [hread, Option.map_some]

/-- A word is read up to its last letter. -/
theorem readsAlone_word {c : Char} {word : List Char} {value : Json}
    (hblank : ¬ (c = ' ' ∨ c = '\n' ∨ c = '\t' ∨ c = '\r'))
    (hopen : c ≠ '"' ∧ c ≠ '[' ∧ c ≠ '\x7b')
    (hscalar : ∀ rest, readScalar (c :: word ++ rest) = some (value, rest)) :
    ReadsAlone 1 (c :: word) value := by
  intro fuel depth rest hfuel _
  obtain ⟨fuel, rfl⟩ : ∃ k, fuel = k + 1 := by
    rw [List.length_cons] at hfuel
    exact ⟨fuel - 1, by omega⟩
  rw [List.cons_append, readValue_scalar hblank hopen, ← List.cons_append, hscalar]

theorem ReadsAlone.bool (b : Bool) : ReadsAlone 1 (jsonBool b) (.bool b) := by
  cases b with
  | true => exact readsAlone_word (by decide) (by decide) fun _ => rfl
  | false => exact readsAlone_word (by decide) (by decide) fun _ => rfl

def jsonNull : List Char := ['n', 'u', 'l', 'l']

theorem ReadsAlone.null : ReadsAlone 1 jsonNull .null :=
  readsAlone_word (by decide) (by decide) fun _ => rfl

/-! ### Objects -/

/-- A blank before the text changes nothing. -/
theorem skipBlank_blank {c : Char} (hc : c = ' ' ∨ c = '\n' ∨ c = '\t' ∨ c = '\r')
    (text : List Char) : skipBlank (c :: text) = skipBlank text := by
  rw [skipBlank, List.dropWhile_cons_of_pos (by simpa using hc), skipBlank]

theorem readValue_blank (fuel depth : ℕ) (text : List Char) :
    readValue fuel depth (' ' :: text) = readValue fuel depth text := by
  cases fuel with
  | zero => rw [readValue, readValue]
  | succ fuel => rw [readValue, readValue, skipBlank_blank (.inl rfl)]

theorem readFields_skipBlank (fuel depth : ℕ) (text : List Char) :
    readFields fuel depth (skipBlank text) = readFields fuel depth text := by
  cases fuel with
  | zero => rw [readFields, readFields]
  | succ fuel =>
    have hidem : skipBlank (skipBlank text) = skipBlank text := List.dropWhile_idempotent _ _
    rw [readFields, readFields, hidem]

theorem prettyField_append (name : String) (text rest : List Char) :
    prettyField (name, text) ++ rest = '\n' :: ' ' :: ' ' :: '"' ::
      (name.toList.flatMap escapeChar ++ '"' :: ':' :: ' ' :: (text ++ rest)) := by
  simp only [prettyField, jsonString, List.cons_append, List.append_assoc, List.nil_append]

/-- A field with more fields behind it. -/
theorem readFields_pretty_next {fuel depth : ℕ} {name : String} {text rest : List Char} {value : Json}
    (hvalue : readValue fuel depth (text ++ ',' :: rest) = some (value, ',' :: rest)) :
    readFields (fuel + 1) depth (prettyField (name, text) ++ ',' :: rest) =
      (readFields fuel depth rest).map fun read => ((name, value) :: read.1, read.2) := by
  have hname := readString_escape name.toList (':' :: ' ' :: (text ++ ',' :: rest))
  rw [String.ofList_toList] at hname
  rw [prettyField_append, readFields, skipBlank_blank (by decide), skipBlank_blank (by decide),
    skipBlank_blank (by decide), skipBlank_cons (by decide)]
  simp only [hname, Option.bind_eq_bind, Option.bind_some, skipBlank_cons (c := ':') (by decide),
    readValue_blank, hvalue, skipBlank_cons (c := ',') (by decide)]

/-- The last field, and the closing brace on a line of its own. -/
theorem readFields_pretty_last {fuel depth : ℕ} {name : String} {text rest : List Char} {value : Json}
    (hvalue : readValue fuel depth (text ++ '\n' :: '\x7d' :: rest) =
      some (value, '\n' :: '\x7d' :: rest)) :
    readFields (fuel + 1) depth (prettyField (name, text) ++ '\n' :: '\x7d' :: rest) =
      some ([(name, value)], rest) := by
  have hname := readString_escape name.toList (':' :: ' ' :: (text ++ '\n' :: '\x7d' :: rest))
  rw [String.ofList_toList] at hname
  rw [prettyField_append, readFields, skipBlank_blank (by decide), skipBlank_blank (by decide),
    skipBlank_blank (by decide), skipBlank_cons (by decide)]
  simp only [hname, Option.bind_eq_bind, Option.bind_some, skipBlank_cons (c := ':') (by decide),
    readValue_blank, hvalue, skipBlank_blank (c := '\n') (by decide),
    skipBlank_cons (c := '\x7d') (by decide)]

/-- The fields up to the closing brace; the last one ends by itself. -/
theorem readFields_prettyFields {d : ℕ} {printed : List (String × List Char)}
    {fields : List (String × Json)} (hread : FieldsRead d printed fields) {name : String}
    {text : List Char} {value : Json} (hlast : ReadsAlone d text value) :
    ∀ fuel depth rest, 2 * (commaSeparated ((printed ++ [(name, text)]).map prettyField)).length ≤ fuel →
      d ≤ depth → readFields fuel depth
        (commaSeparated ((printed ++ [(name, text)]).map prettyField) ++ '\n' :: '\x7d' :: rest) =
          some (fields ++ [(name, value)], rest) := by
  have hlength (field : String × List Char) : field.2.length + 1 ≤ (prettyField field).length := by
    rw [prettyField, List.length_cons]
    simp only [List.length_cons, List.length_append]
    omega
  induction hread with
  | nil =>
    intro fuel depth rest hfuel hdepth
    rw [List.nil_append, List.map_singleton, commaSeparated_singleton] at hfuel ⊢
    have hpos : text.length + 1 ≤ (prettyField (name, text)).length := hlength (name, text)
    obtain ⟨fuel, rfl⟩ : ∃ k, fuel = k + 1 := ⟨fuel - 1, by omega⟩
    exact readFields_pretty_last (hlast fuel depth _ (by omega) hdepth)
  | @cons p field printed fields hp hrest ih =>
    obtain ⟨name', text'⟩ := p
    obtain ⟨_, value'⟩ := field
    obtain ⟨rfl, hvalue⟩ : name' = _ ∧ Reads d text' value' := hp
    intro fuel depth rest hfuel hdepth
    obtain ⟨q, more, hmore⟩ : ∃ q more, (printed ++ [(name, text)]).map prettyField = q :: more :=
      List.exists_cons_of_ne_nil (by simp)
    rw [List.cons_append, List.map_cons, hmore, commaSeparated_cons_cons, ← hmore] at hfuel ⊢
    rw [List.length_append, List.length_cons] at hfuel
    have hpos : text'.length + 1 ≤ (prettyField (name', text')).length := hlength (name', text')
    obtain ⟨fuel, rfl⟩ : ∃ k, fuel = k + 1 := ⟨fuel - 1, by omega⟩
    have hfield := hvalue fuel depth (',' :: (commaSeparated ((printed ++ [(name, text)]).map
      prettyField) ++ '\n' :: '\x7d' :: rest)) (by omega) hdepth (by simp [Ends])
    have hfields := ih fuel depth rest (by omega) hdepth
    rw [List.append_assoc, List.cons_append, readFields_pretty_next hfield, hfields]
    rfl

/-- **A printed object is parsed as its fields**, with blanks after it. -/
theorem parseJson_pretty {d : ℕ} {printed : List (String × List Char)}
    {fields : List (String × Json)} (hread : FieldsRead d printed fields) {name : String}
    {text : List Char} {value : Json} (hlast : ReadsAlone d text value) (hd : 0 < d)
    (hlimit : d + 1 ≤ recursionLimit) {blanks : List Char} (hblanks : skipBlank blanks = []) :
    parseJson (prettyObject (printed ++ [(name, text)]) ++ blanks) =
      some (.object (fields ++ [(name, value)])) := by
  generalize hbody : commaSeparated ((printed ++ [(name, text)]).map prettyField) = body
  have hwhole : prettyObject (printed ++ [(name, text)]) ++ blanks =
      '\x7b' :: (body ++ '\n' :: '\x7d' :: blanks) := by
    simp only [prettyObject, hbody, List.cons_append, List.append_assoc, List.nil_append]
  obtain ⟨more, hmore⟩ : ∃ more, body = '\n' :: ' ' :: ' ' :: '"' :: more := by
    obtain ⟨p, rest, hcons⟩ : ∃ p rest, printed ++ [(name, text)] = p :: rest :=
      List.exists_cons_of_ne_nil (by simp)
    rw [← hbody, hcons, List.map_cons]
    cases rest with
    | nil =>
      rw [List.map_nil, commaSeparated_singleton]
      exact ⟨_, rfl⟩
    | cons q rest =>
      rw [List.map_cons, commaSeparated_cons_cons]
      exact ⟨_, rfl⟩
  have hblank : skipBlank (body ++ '\n' :: '\x7d' :: blanks) =
      '"' :: (more ++ '\n' :: '\x7d' :: blanks) := by
    rw [hmore]
    simp only [List.cons_append]
    rw [skipBlank_blank (by decide), skipBlank_blank (by decide), skipBlank_blank (by decide),
      skipBlank_cons (by decide)]
  have hfields (fuel : ℕ) (hfuel : 2 * body.length ≤ fuel) : readFields fuel (recursionLimit - 1)
      ('"' :: (more ++ '\n' :: '\x7d' :: blanks)) = some (fields ++ [(name, value)], blanks) := by
    rw [← readFields_prettyFields hread hlast fuel (recursionLimit - 1) blanks (by rwa [hbody])
      (by omega), hbody, ← readFields_skipBlank fuel _ (body ++ _), hblank]
  have hlength : 2 * body.length ≤ 2 * (prettyObject (printed ++ [(name, text)]) ++ blanks).length := by
    rw [hwhole, List.length_cons, List.length_append]
    omega
  have hvalue : readValue (2 * (prettyObject (printed ++ [(name, text)]) ++ blanks).length + 1)
      recursionLimit (prettyObject (printed ++ [(name, text)]) ++ blanks) =
        some (.object (fields ++ [(name, value)]), blanks) := by
    rw [hwhole] at hlength ⊢
    rw [readValue, skipBlank_cons (by decide)]
    change (if recursionLimit ≤ 1 then none else _) = _
    rw [if_neg (by decide), hblank]
    change (readFields _ (recursionLimit - 1) ('"' :: _)).map _ = _
    rw [hfields _ hlength]
    rfl
  rw [parseJson, hvalue]
  exact if_pos hblanks

end Wroid.Lib
