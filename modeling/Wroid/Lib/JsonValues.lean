import Wroid.Lib.JsonBlocks

/-!
# Printing and decoding JSON values

A printer of whole values, with two blanks for each level, and what derived decoders make of a
value: a record is an object whose unknown fields are ignored, or an array of its fields in their
order; a variant of a union is named by one field of an object, or by the first item of an array.

## Main definitions

* `jsonText` — the printed value.
* `Json.height` — how deep a value is nested.
* `Json.Whole` — all numbers of a value are natural numbers.
* `structFields` — the fields of a record.
* `taggedContent` — the name of a variant, and what its fields are taken from.

## Main results

* `parseJson_jsonText` — **a printed value is parsed as the value**, if it is not nested too deep.
-/

namespace Wroid.Lib

/-! ### Printing -/

/-- The beginning of a line. -/
def newLine (indent : ℕ) : List Char := '\n' :: List.replicate indent ' '

mutual

/-- The value, with `indent` blanks at the beginning of its last line. -/
def jsonText (indent : ℕ) : Json → List Char
  | .null => jsonNull
  | .bool b => jsonBool b
  | .number literal => literal
  | .string text => jsonString text
  | .array [] => ['[', ']']
  | .array (item :: items) => arrayBlock (newLine (indent + 2)) (newLine indent)
      (jsonText (indent + 2) item :: jsonItems (indent + 2) items)
  | .object [] => ['\x7b', '\x7d']
  | .object ((name, value) :: fields) => objectBlock (newLine (indent + 2)) (newLine indent)
      ((name, jsonText (indent + 2) value) :: jsonFields (indent + 2) fields)

def jsonItems (indent : ℕ) : List Json → List (List Char)
  | [] => []
  | item :: items => jsonText indent item :: jsonItems indent items

def jsonFields (indent : ℕ) : List (String × Json) → List (String × List Char)
  | [] => []
  | (name, value) :: fields => (name, jsonText indent value) :: jsonFields indent fields

end

namespace Json

mutual

/-- One more than the number of arrays and objects around the innermost value. -/
def height : Json → ℕ
  | .null | .bool _ | .number _ | .string _ => 1
  | .array items => itemsHeight items + 1
  | .object fields => fieldsHeight fields + 1

def itemsHeight : List Json → ℕ
  | [] => 1
  | item :: items => max item.height (itemsHeight items)

def fieldsHeight : List (String × Json) → ℕ
  | [] => 1
  | (_, value) :: fields => max value.height (fieldsHeight fields)

end

mutual

def Whole : Json → Prop
  | .null | .bool _ | .string _ => True
  | .number literal => ∃ n, literal = jsonNat n
  | .array items => ItemsWhole items
  | .object fields => FieldsWhole fields

def ItemsWhole : List Json → Prop
  | [] => True
  | item :: items => item.Whole ∧ ItemsWhole items

def FieldsWhole : List (String × Json) → Prop
  | [] => True
  | (_, value) :: fields => value.Whole ∧ FieldsWhole fields

end

end Json

example : String.ofList (jsonText 0 (.object [("a", .array [.number ['1'], .null]), ("b", .array [])])) =
    "\x7b\n  \"a\": [\n    1,\n    null\n  ],\n  \"b\": []\n\x7d" := by decide +kernel

/-! ### Printed values read back -/

theorem blanks_newLine (indent : ℕ) : Blanks (newLine indent) := by
  intro c hc
  rcases List.mem_cons.mp hc with rfl | hc
  · exact .inr (.inl rfl)
  · exact .inl (List.eq_of_mem_replicate hc)

theorem one_le_itemsHeight (items : List Json) : 1 ≤ Json.itemsHeight items := by
  induction items with
  | nil => exact le_rfl
  | cons item items ih => exact ih.trans (le_max_right _ _)

theorem one_le_fieldsHeight (fields : List (String × Json)) : 1 ≤ Json.fieldsHeight fields := by
  induction fields with
  | nil => exact le_rfl
  | cons field fields ih => exact ih.trans (le_max_right _ _)

theorem ReadsAlone.emptyObject : ReadsAlone 2 ['\x7b', '\x7d'] (.object []) := by
  intro fuel depth rest hfuel hdepth
  obtain ⟨fuel, rfl⟩ : ∃ k, fuel = k + 1 := ⟨fuel - 1, by simp at hfuel; omega⟩
  rw [List.cons_append, List.cons_append, readValue, skipBlank_cons (by decide)]
  change (if depth ≤ 1 then none else _) = _
  rw [if_neg (by omega), skipBlank_cons (by decide)]
  rfl

mutual

/-- A printed value reads as the value. -/
theorem readsApart_jsonText (indent : ℕ) (value : Json) (h : value.Whole) :
    ReadsApart value.height (jsonText indent value) value := by
  cases value with
  | null =>
    rw [jsonText]
    exact ReadsAlone.null.apart
  | bool b =>
    rw [jsonText]
    exact (ReadsAlone.bool b).apart
  | string text =>
    rw [jsonText]
    exact (ReadsAlone.string text).apart
  | number literal =>
    rw [Json.Whole] at h
    obtain ⟨n, rfl⟩ := h
    rw [jsonText]
    exact .nat n
  | array items =>
    rw [Json.Whole] at h
    have hitems := readsApart_jsonItems (indent + 2) items h
    cases items with
    | nil =>
      rw [jsonText]
      exact ReadsAlone.emptyArray.apart
    | cons item items =>
      rw [jsonItems] at hitems
      rw [jsonText, Json.height]
      exact (ReadsAlone.array (blanks_newLine _) (blanks_newLine _) hitems (List.cons_ne_nil _ _)
        (one_le_itemsHeight _)).apart
  | object fields =>
    rw [Json.Whole] at h
    have hfields := readsApart_jsonFields (indent + 2) fields h
    cases fields with
    | nil =>
      rw [jsonText]
      exact ReadsAlone.emptyObject.apart
    | cons field fields =>
      obtain ⟨name, value⟩ := field
      rw [jsonFields] at hfields
      rw [jsonText, Json.height]
      exact (ReadsAlone.object (blanks_newLine _) (blanks_newLine _) hfields (List.cons_ne_nil _ _)
        (one_le_fieldsHeight _)).apart

theorem readsApart_jsonItems (indent : ℕ) (items : List Json) (h : Json.ItemsWhole items) :
    List.Forall₂ (ReadsApart (Json.itemsHeight items)) (jsonItems indent items) items := by
  cases items with
  | nil =>
    rw [jsonItems]
    exact .nil
  | cons item items =>
    rw [Json.ItemsWhole] at h
    have hitem := readsApart_jsonText indent item h.1
    have hitems := readsApart_jsonItems indent items h.2
    rw [jsonItems, Json.itemsHeight]
    refine .cons (hitem.mono (le_max_left _ _)) (hitems.imp ?_)
    intro _ _ hread
    exact hread.mono (le_max_right _ _)

theorem readsApart_jsonFields (indent : ℕ) (fields : List (String × Json))
    (h : Json.FieldsWhole fields) :
    List.Forall₂ (FieldApart (Json.fieldsHeight fields)) (jsonFields indent fields) fields := by
  cases fields with
  | nil =>
    rw [jsonFields]
    exact .nil
  | cons field fields =>
    obtain ⟨name, value⟩ := field
    rw [Json.FieldsWhole] at h
    have hvalue := readsApart_jsonText indent value h.1
    have hfields := readsApart_jsonFields indent fields h.2
    rw [jsonFields, Json.fieldsHeight]
    refine .cons ⟨rfl, hvalue.mono (le_max_left _ _)⟩ (hfields.imp ?_)
    intro _ _ hread
    exact ⟨hread.1, hread.2.mono (le_max_right _ _)⟩

end

/-- **A printed value is parsed as the value**, if it is not nested too deep. -/
theorem parseJson_jsonText {value : Json} (h : value.Whole) (hheight : value.height ≤ recursionLimit) :
    parseJson (jsonText 0 value) = some value :=
  parseJson_eq (readsApart_jsonText 0 value h).reads hheight

/-! ### A parsed value is not nested too deep -/

theorem height_readScalar {text rest : List Char} {value : Json}
    (h : readScalar text = some (value, rest)) : value.height = 1 := by
  have hnumber : ∀ {text rest : List Char} {value : Json},
      readNumber text = some (value, rest) → value.height = 1 := by
    intro text rest value h
    simp only [readNumber, Option.bind_eq_bind, Option.bind_eq_some_iff, Option.pure_def] at h
    obtain ⟨_, -, h⟩ := h
    split at h
    · cases h
    · simp only [Option.bind_eq_some_iff, Option.some.injEq, Prod.mk.injEq] at h
      obtain ⟨_, -, _, -, rfl, -⟩ := h
      rfl
  rw [readScalar.eq_def] at h
  split at h
  · obtain ⟨rfl, -⟩ := Prod.mk.inj (Option.some.inj h)
    rfl
  · obtain ⟨rfl, -⟩ := Prod.mk.inj (Option.some.inj h)
    rfl
  · obtain ⟨rfl, -⟩ := Prod.mk.inj (Option.some.inj h)
    rfl
  · exact hnumber h

/-- What is read is nested as deep as it may be. -/
theorem height_read (fuel : ℕ) :
    (∀ depth text value rest, readValue fuel depth text = some (value, rest) → 0 < depth →
      value.height ≤ depth) ∧
    (∀ depth text items rest, readItems fuel depth text = some (items, rest) → 0 < depth →
      Json.itemsHeight items ≤ depth) ∧
    ∀ depth text fields rest, readFields fuel depth text = some (fields, rest) → 0 < depth →
      Json.fieldsHeight fields ≤ depth := by
  induction fuel with
  | zero =>
    refine ⟨?_, ?_, ?_⟩
    · intro depth text value rest h
      simp [readValue] at h
    · intro depth text items rest h
      simp [readItems] at h
    · intro depth text fields rest h
      simp [readFields] at h
  | succ fuel ih =>
    obtain ⟨ihValue, ihItems, ihFields⟩ := ih
    refine ⟨?_, ?_, ?_⟩
    · intro depth text value rest h hdepth
      rw [readValue] at h
      split at h
      · simp only [Option.map_eq_some_iff, Prod.mk.injEq] at h
        obtain ⟨_, -, rfl, -⟩ := h
        exact hdepth
      · split at h
        · cases h
        · split at h
          · obtain ⟨rfl, -⟩ := Prod.mk.inj (Option.some.inj h)
            simp only [Json.height, Json.itemsHeight]
            omega
          · simp only [Option.map_eq_some_iff, Prod.mk.injEq] at h
            obtain ⟨⟨items, _⟩, hitems, rfl, -⟩ := h
            have hle := ihItems _ _ _ _ hitems (by omega)
            simp only [Json.height]
            omega
      · split at h
        · cases h
        · split at h
          · obtain ⟨rfl, -⟩ := Prod.mk.inj (Option.some.inj h)
            simp only [Json.height, Json.fieldsHeight]
            omega
          · simp only [Option.map_eq_some_iff, Prod.mk.injEq] at h
            obtain ⟨⟨fields, _⟩, hfields, rfl, -⟩ := h
            have hle := ihFields _ _ _ _ hfields (by omega)
            simp only [Json.height]
            omega
      · rw [height_readScalar h]
        exact hdepth
    · intro depth text items rest h hdepth
      simp only [readItems, Option.bind_eq_bind, Option.bind_eq_some_iff] at h
      obtain ⟨⟨item, rest'⟩, hitem, h⟩ := h
      have hle := ihValue _ _ _ _ hitem hdepth
      simp only at h
      split at h
      · obtain ⟨rfl, -⟩ := Prod.mk.inj (Option.some.inj h)
        exact max_le hle hdepth
      · simp only [Option.map_eq_some_iff, Prod.mk.injEq] at h
        obtain ⟨⟨more, _⟩, hmore, rfl, -⟩ := h
        exact max_le hle (ihItems _ _ _ _ hmore hdepth)
      · cases h
    · intro depth text fields rest h hdepth
      rw [readFields] at h
      split at h
      · simp only [Option.bind_eq_bind, Option.bind_eq_some_iff] at h
        obtain ⟨⟨name, rest'⟩, -, h⟩ := h
        simp only at h
        split at h
        · simp only [Option.bind_eq_some_iff] at h
          obtain ⟨⟨value, rest''⟩, hvalue, h⟩ := h
          have hle := ihValue _ _ _ _ hvalue hdepth
          simp only at h
          split at h
          · obtain ⟨rfl, -⟩ := Prod.mk.inj (Option.some.inj h)
            exact max_le hle hdepth
          · simp only [Option.map_eq_some_iff, Prod.mk.injEq] at h
            obtain ⟨⟨more, _⟩, hmore, rfl, -⟩ := h
            exact max_le hle (ihFields _ _ _ _ hmore hdepth)
          · cases h
        · cases h
      · cases h

theorem height_parseJson {text : List Char} {value : Json} (h : parseJson text = some value) :
    value.height ≤ recursionLimit := by
  rw [parseJson] at h
  split at h
  · next value' rest hread =>
    split at h
    · obtain rfl := Option.some.inj h
      exact (height_read _).1 _ _ _ _ hread (by decide)
    · cases h
  · cases h

/-! ### Records and unions -/

/-- The fields of a record with these names; a missing one may have a default.  Of an object the
unknown fields are ignored, and no other may stand in it twice. -/
def structFields (names : List String) : Json → Option (List (String × Json))
  | .object fields =>
    let known := fields.filter fun field => field.1 ∈ names
    if (known.map Prod.fst).Nodup then some known else none
  | .array items => if items.length ≤ names.length then some (names.zip items) else none
  | _ => none

/-- What the field `tag` of an object says, or the first item of an array; and the rest. -/
def taggedContent (tag : String) : Json → Option (Json × Json)
  | .object fields =>
    match fields.filter fun field => field.1 = tag with
    | [(_, name)] => some (name, .object (fields.filter fun field => field.1 ≠ tag))
    | _ => none
  | .array (name :: items) => some (name, .array items)
  | _ => none

/-- The variant of a union.  Once a value has been looked at as a whole, a variant may also be named
by its number. -/
def variantIndex (names : List String) (buffered : Bool) : Json → Option ℕ
  | .string text => if text ∈ names then some (names.idxOf text) else none
  | .number literal =>
    if buffered ∧ literal.all Char.isDigit ∧ digitsValue literal < names.length then
      some (digitsValue literal)
    else none
  | _ => none

def decodeString : Json → Option String
  | .string text => some text
  | _ => none

/-- A natural number without a fraction or an exponent. -/
def decodeUnsigned (max : ℕ) : Json → Option ℕ
  | .number literal =>
    if literal.all Char.isDigit ∧ digitsValue literal ≤ max then some (digitsValue literal) else none
  | _ => none

def decodeArray : Json → Option (List Json)
  | .array items => some items
  | _ => none

/-- The fields of a record, in whatever order. -/
theorem structFields_object {names : List String} {fields : List (String × Json)}
    (hknown : ∀ field ∈ fields, field.1 ∈ names) (hnodup : (fields.map Prod.fst).Nodup) :
    structFields names (.object fields) = some fields := by
  have hall : (fields.filter fun field => field.1 ∈ names) = fields :=
    List.filter_eq_self.mpr fun field hfield => decide_eq_true (hknown field hfield)
  simp only [structFields, hall, if_pos hnodup]

/-- A tag in front of the other fields. -/
theorem taggedContent_object {tag : String} {name : Json} {fields : List (String × Json)}
    (h : ∀ field ∈ fields, field.1 ≠ tag) :
    taggedContent tag (.object ((tag, name) :: fields)) = some (name, .object fields) := by
  have hnone : (fields.filter fun field => field.1 = tag) = [] :=
    List.filter_eq_nil_iff.mpr fun field hfield => by simpa using h field hfield
  have hall : (fields.filter fun field => field.1 ≠ tag) = fields :=
    List.filter_eq_self.mpr fun field hfield => decide_eq_true (h field hfield)
  have htagged : (((tag, name) :: fields).filter fun field => field.1 = tag) = [(tag, name)] := by
    rw [List.filter_cons_of_pos (by simp), hnone]
  have hrest : (((tag, name) :: fields).filter fun field => field.1 ≠ tag) = fields := by
    rw [List.filter_cons_of_neg (by simp), hall]
  rw [taggedContent, htagged, hrest]

/-- A number that is not too large is read as it was printed. -/
@[simp] theorem decodeUnsigned_jsonNat {max n : ℕ} (h : n ≤ max) :
    decodeUnsigned max (.number (jsonNat n)) = some n := by
  have hall : (jsonNat n).all Char.isDigit = true :=
    List.all_eq_true.mpr fun c => isDigit_of_mem_jsonNat
  rw [decodeUnsigned, digitsValue_jsonNat, if_pos ⟨hall, h⟩]

theorem le_of_decodeUnsigned {max n : ℕ} {value : Json} (h : decodeUnsigned max value = some n) :
    n ≤ max := by
  unfold decodeUnsigned at h
  split at h
  · next literal =>
    split at h
    · next hfits =>
      obtain rfl := Option.some.inj h
      exact hfits.2
    · cases h
  · cases h

theorem eq_array_of_decodeArray {value : Json} {items : List Json}
    (h : decodeArray value = some items) : value = .array items := by
  unfold decodeArray at h
  split at h
  · obtain rfl := Option.some.inj h
    rfl
  · cases h

/-! ### The parts of a record are nested less deep -/

theorem height_le_of_mem_items {items : List Json} {item : Json} (h : item ∈ items) :
    item.height ≤ Json.itemsHeight items := by
  induction items with
  | nil => cases h
  | cons first rest ih =>
    rcases List.mem_cons.mp h with rfl | hrest
    · exact le_max_left _ _
    · exact (ih hrest).trans (le_max_right _ _)

theorem height_le_of_mem_fields {fields : List (String × Json)} {name : String} {value : Json}
    (h : (name, value) ∈ fields) : value.height ≤ Json.fieldsHeight fields := by
  induction fields with
  | nil => cases h
  | cons first rest ih =>
    rcases List.mem_cons.mp h with heq | hrest
    · rw [← heq]
      exact le_max_left _ _
    · exact (ih hrest).trans (le_max_right _ _)

theorem itemsHeight_le {items : List Json} {n : ℕ} (hpos : 1 ≤ n) (h : ∀ item ∈ items, item.height ≤ n) :
    Json.itemsHeight items ≤ n := by
  induction items with
  | nil => exact hpos
  | cons item items ih =>
    exact max_le (h item List.mem_cons_self) (ih fun i hi => h i (List.mem_cons_of_mem _ hi))

theorem fieldsHeight_le {fields : List (String × Json)} {n : ℕ} (hpos : 1 ≤ n)
    (h : ∀ field ∈ fields, field.2.height ≤ n) : Json.fieldsHeight fields ≤ n := by
  induction fields with
  | nil => exact hpos
  | cons field fields ih =>
    exact max_le (h field List.mem_cons_self) (ih fun f hf => h f (List.mem_cons_of_mem _ hf))

/-- A record is nested deeper than each of its fields. -/
theorem height_lt_of_structFields {names : List String} {value : Json}
    {fields : List (String × Json)} (h : structFields names value = some fields) :
    2 ≤ value.height ∧ ∀ name field, fields.lookup name = some field → field.height < value.height := by
  cases value with
  | null | bool | number | string => simp [structFields] at h
  | array items =>
    simp only [structFields] at h
    split at h
    · obtain rfl := Option.some.inj h
      refine ⟨Nat.succ_le_succ (one_le_itemsHeight items), fun name field hfield => ?_⟩
      obtain ⟨l₁, l₂, hsplit, -⟩ := List.lookup_eq_some_iff.mp hfield
      have hmem : (name, field) ∈ names.zip items := by simp [hsplit]
      exact Nat.lt_succ_of_le (height_le_of_mem_items (List.of_mem_zip hmem).2)
    · cases h
  | object all =>
    simp only [structFields] at h
    split at h
    · obtain rfl := Option.some.inj h
      refine ⟨Nat.succ_le_succ (one_le_fieldsHeight all), fun name field hfield => ?_⟩
      obtain ⟨l₁, l₂, hsplit, -⟩ := List.lookup_eq_some_iff.mp hfield
      have hmem : (name, field) ∈ all.filter fun field => field.1 ∈ names := by simp [hsplit]
      exact Nat.lt_succ_of_le (height_le_of_mem_fields (List.mem_of_mem_filter hmem))
    · cases h

/-- What is left of a variant is not nested deeper. -/
theorem height_le_of_taggedContent {tag : String} {value name content : Json}
    (h : taggedContent tag value = some (name, content)) : content.height ≤ value.height := by
  unfold taggedContent at h
  split at h
  · next fields =>
    split at h
    · obtain ⟨-, rfl⟩ := Prod.mk.inj (Option.some.inj h)
      refine Nat.succ_le_succ (fieldsHeight_le (one_le_fieldsHeight fields) fun field hfield => ?_)
      exact height_le_of_mem_fields (List.mem_of_mem_filter hfield)
    · cases h
  · next first items =>
    obtain ⟨-, rfl⟩ := Prod.mk.inj (Option.some.inj h)
    exact Nat.succ_le_succ (le_max_right _ _)
  · cases h

end Wroid.Lib
