import Mathlib
import Wroid.Lib.Streams

/-!
# Compact JSON texts

Texts as a JSON library prints them without blanks, and how many bytes they take in UTF-8.
A text is a list of characters.

## Main definitions

* `escapeChar`, `jsonString` — a character inside a string, and a string.
* `jsonArray`, `jsonObject` — an array and an object of printed values.
* `utf8Bytes`, `utf8Size` — the bytes of a text and their number.

## Main results

* `utf8Size_jsonArray`, `utf8Size_jsonObject` — the size of a value from the sizes of its parts.
* `newline_notMem_jsonString`, `newline_notMem_jsonObject` — a printed value is one line.
* `escapedSize_le` — a character takes six bytes at most.
-/

namespace Wroid.Lib

/-! ### Bytes -/

def utf8Bytes (text : List Char) : List UInt8 := text.flatMap String.utf8EncodeChar

def utf8Size (text : List Char) : ℕ := (text.map Char.utf8Size).sum

@[simp] theorem length_utf8Bytes (text : List Char) : (utf8Bytes text).length = utf8Size text := by
  simp [utf8Bytes, utf8Size, List.length_flatMap]

@[simp] theorem utf8Size_nil : utf8Size [] = 0 := rfl

@[simp] theorem utf8Size_cons (c : Char) (text : List Char) :
    utf8Size (c :: text) = c.utf8Size + utf8Size text := rfl

@[simp] theorem utf8Size_append (text text' : List Char) :
    utf8Size (text ++ text') = utf8Size text + utf8Size text' := by
  simp [utf8Size]

theorem utf8Size_flatMap {α : Type} (f : α → List Char) (as : List α) :
    utf8Size (as.flatMap f) = (as.map fun a => utf8Size (f a)).sum := by
  induction as with
  | nil => rfl
  | cons a as ih => simp [ih]

/-- Every character takes a byte at least. -/
theorem length_le_utf8Size (text : List Char) : text.length ≤ utf8Size text := by
  induction text with
  | nil => simp
  | cons c text ih =>
    have := Char.utf8Size_pos c
    simp only [List.length_cons, utf8Size_cons]
    omega

/-- An ASCII character is the only one with its byte. -/
theorem ascii_not_mem_utf8EncodeChar {c : Char} {b : ℕ} (hb : b < 128) (h : c.val.toNat ≠ b) :
    UInt8.ofNat b ∉ String.utf8EncodeChar c := by
  have hbyte : ∀ n, n % 256 ≠ b → UInt8.ofNat b ≠ UInt8.ofNat n := by
    intro n hn heq
    have htoNat := congrArg UInt8.toNat heq
    simp only [UInt8.toNat_ofNat'] at htoNat
    omega
  unfold String.utf8EncodeChar
  simp only
  split_ifs <;> simp only [List.mem_cons, List.not_mem_nil, or_false, not_or]
  · exact hbyte _ (by omega)
  · exact ⟨hbyte _ (by omega), hbyte _ (by omega)⟩
  · exact ⟨hbyte _ (by omega), hbyte _ (by omega), hbyte _ (by omega)⟩
  · exact ⟨hbyte _ (by omega), hbyte _ (by omega), hbyte _ (by omega), hbyte _ (by omega)⟩

theorem ascii_not_mem_utf8Bytes {text : List Char} {b : ℕ} (hb : b < 128)
    (h : ∀ c ∈ text, c.val.toNat ≠ b) : UInt8.ofNat b ∉ utf8Bytes text := by
  intro hmem
  obtain ⟨c, hc, hbyte⟩ := List.mem_flatMap.mp hmem
  exact ascii_not_mem_utf8EncodeChar hb (h c hc) hbyte

theorem newline_not_mem_utf8Bytes {text : List Char} (h : '\n' ∉ text) :
    newline ∉ utf8Bytes text := by
  refine ascii_not_mem_utf8Bytes (by decide : 10 < 128) ?_
  intro c hc heq
  have hnewline : c = '\n' := Char.ext (UInt32.toNat_inj.mp heq)
  exact h (hnewline ▸ hc)

theorem fromUTF8?_eq_some {contents : ByteArray} {text : String} :
    String.fromUTF8? contents = some text ↔ contents = text.toUTF8 := by
  unfold String.fromUTF8?
  split
  · next hvalid =>
    rw [Option.some.injEq, ← String.toByteArray_inj]
    exact Iff.rfl
  · next hvalid =>
    refine ⟨nofun, ?_⟩
    rintro rfl
    exact absurd text.isValidUTF8 hvalid

/-- The bytes of a text are its text again. -/
theorem fromUTF8?_utf8Bytes (text : List Char) :
    String.fromUTF8? (utf8Bytes text).toByteArray = some (.ofList text) := by
  rw [fromUTF8?_eq_some, String.toUTF8_eq_toByteArray, String.toByteArray_ofList]
  rfl

/-- The bytes that are some text. -/
theorem fromUTF8?_toByteArray_eq_some {bytes : List UInt8} {text : String} :
    String.fromUTF8? bytes.toByteArray = some text ↔ bytes = utf8Bytes text.toList := by
  constructor
  · intro h
    rw [fromUTF8?_eq_some, String.toUTF8_eq_toByteArray, ← String.ofList_toList (s := text),
      String.toByteArray_ofList] at h
    exact List.toByteArray_inj.mp h
  · rintro rfl
    rw [fromUTF8?_utf8Bytes, String.ofList_toList]

/-! ### Values -/

def hexDigit (n : ℕ) : Char := ("0123456789abcdef".toList)[n]?.getD '0'

/-- A character inside a JSON string. -/
def escapeChar (c : Char) : List Char :=
  if c = '"' then ['\\', '"']
  else if c = '\\' then ['\\', '\\']
  else if c.toNat = 0x08 then ['\\', 'b']
  else if c.toNat = 0x0c then ['\\', 'f']
  else if c = '\n' then ['\\', 'n']
  else if c = '\r' then ['\\', 'r']
  else if c = '\t' then ['\\', 't']
  else if c.toNat < 0x20 then
    ['\\', 'u', '0', '0', hexDigit (c.toNat / 16), hexDigit (c.toNat % 16)]
  else [c]

def jsonString (text : String) : List Char := '"' :: text.toList.flatMap escapeChar ++ ['"']

def jsonNat (n : ℕ) : List Char := (toString n).toList

def jsonBool (b : Bool) : List Char := (toString b).toList

/-- The parts with commas between them. -/
def commaSeparated (parts : List (List Char)) : List Char := List.intercalate [','] parts

@[simp] theorem commaSeparated_singleton (part : List Char) : commaSeparated [part] = part := by
  simp [commaSeparated, List.intercalate]

theorem commaSeparated_cons_cons (a b : List Char) (parts : List (List Char)) :
    commaSeparated (a :: b :: parts) = a ++ ',' :: commaSeparated (b :: parts) := by
  simp [commaSeparated, List.intercalate]

def jsonArray (items : List (List Char)) : List Char := '[' :: commaSeparated items ++ [']']

def jsonField (field : String × List Char) : List Char := jsonString field.1 ++ ':' :: field.2

def jsonObject (fields : List (String × List Char)) : List Char :=
  '\x7b' :: commaSeparated (fields.map jsonField) ++ ['\x7d']

/-! ### Sizes -/

/-- The bytes of a text as a JSON string, without its quotes. -/
def escapedSize (text : String) : ℕ := (text.toList.map fun c => utf8Size (escapeChar c)).sum

@[simp] theorem utf8Size_jsonString (text : String) :
    utf8Size (jsonString text) = escapedSize text + 2 := by
  simp only [jsonString, List.cons_append, utf8Size_cons, utf8Size_append, utf8Size_flatMap,
    utf8Size_nil, escapedSize, show Char.utf8Size '"' = 1 from rfl]
  omega

/-- Escaping never makes a text smaller than its characters are many. -/
theorem length_le_escapedSize (text : String) : text.toList.length ≤ escapedSize text := by
  have hone : ∀ c, 1 ≤ utf8Size (escapeChar c) := fun c => by
    have hlen := length_le_utf8Size (escapeChar c)
    have hpos : 1 ≤ (escapeChar c).length := by
      unfold escapeChar
      split_ifs <;> simp
    omega
  unfold escapedSize
  induction text.toList with
  | nil => simp
  | cons c rest ih =>
    have := hone c
    simp only [List.length_cons, List.map_cons, List.sum_cons]
    omega

theorem utf8Size_commaSeparated (parts : List (List Char)) :
    utf8Size (commaSeparated parts) = (parts.map utf8Size).sum + (parts.length - 1) := by
  induction parts with
  | nil => rfl
  | cons a rest ih =>
    cases rest with
    | nil => simp
    | cons b rest =>
      rw [commaSeparated_cons_cons]
      simp only [utf8Size_append, utf8Size_cons, ih, List.map_cons, List.sum_cons, List.length_cons,
        show Char.utf8Size ',' = 1 from rfl]
      omega

theorem utf8Size_jsonArray (items : List (List Char)) :
    utf8Size (jsonArray items) = (items.map utf8Size).sum + (items.length - 1) + 2 := by
  simp only [jsonArray, List.cons_append, utf8Size_cons, utf8Size_append, utf8Size_nil,
    utf8Size_commaSeparated, show Char.utf8Size '[' = 1 from rfl,
    show Char.utf8Size ']' = 1 from rfl]
  omega

@[simp] theorem utf8Size_jsonField (field : String × List Char) :
    utf8Size (jsonField field) = escapedSize field.1 + 3 + utf8Size field.2 := by
  simp only [jsonField, utf8Size_append, utf8Size_cons, utf8Size_jsonString,
    show Char.utf8Size ':' = 1 from rfl]
  omega

theorem utf8Size_jsonObject (fields : List (String × List Char)) :
    utf8Size (jsonObject fields) =
      (fields.map fun field => escapedSize field.1 + 3 + utf8Size field.2).sum +
        (fields.length - 1) + 2 := by
  simp only [jsonObject, List.cons_append, utf8Size_cons, utf8Size_append, utf8Size_nil,
    utf8Size_commaSeparated, List.map_map, List.length_map, Function.comp_def, utf8Size_jsonField,
    show Char.utf8Size '\x7b' = 1 from rfl, show Char.utf8Size '\x7d' = 1 from rfl]
  omega

/-- Every hexadecimal digit is one byte and no newline. -/
theorem hexDigit_plain : ∀ n < 16, (hexDigit n).utf8Size = 1 ∧ hexDigit n ≠ '\n' := by decide

/-- **A character takes six bytes at most, however it is escaped.** -/
theorem utf8Size_escapeChar_le (c : Char) : utf8Size (escapeChar c) ≤ 6 := by
  unfold escapeChar
  split_ifs with hquote hslash hback hfeed hnewline hreturn htab hcontrol
  · decide
  · decide
  · decide
  · decide
  · decide
  · decide
  · decide
  · have hhigh := (hexDigit_plain (c.toNat / 16) (by omega)).1
    have hlow := (hexDigit_plain (c.toNat % 16) (by omega)).1
    simp only [utf8Size_cons, hhigh, hlow, utf8Size_nil]
    decide
  · have hc := Char.utf8Size_le_four c
    rw [utf8Size_cons, utf8Size_nil]
    omega

theorem escapedSize_le (text : String) : escapedSize text ≤ 6 * text.toList.length := by
  unfold escapedSize
  induction text.toList with
  | nil => exact Nat.le_refl _
  | cons c rest ih =>
    have hc := utf8Size_escapeChar_le c
    rw [List.map_cons, List.sum_cons, List.length_cons]
    omega

/-! ### Lines -/

theorem newline_notMem_escapeChar (c : Char) : '\n' ∉ escapeChar c := by
  unfold escapeChar
  split_ifs with hquote hslash hback hfeed hnewline hreturn htab hcontrol
  · decide
  · decide
  · decide
  · decide
  · decide
  · decide
  · decide
  · have hhigh := (hexDigit_plain (c.toNat / 16) (by omega)).2
    have hlow := (hexDigit_plain (c.toNat % 16) (by omega)).2
    simp [hhigh.symm, hlow.symm]
  · simp [Ne.symm hnewline]

/-- A printed string is one line. -/
theorem newline_notMem_jsonString (text : String) : '\n' ∉ jsonString text := by
  intro hmem
  rw [jsonString, List.cons_append, List.mem_cons, List.mem_append, List.mem_flatMap] at hmem
  rcases hmem with h | ⟨c, -, hc⟩ | h
  · exact absurd h (by decide)
  · exact newline_notMem_escapeChar c hc
  · exact absurd h (by decide)

theorem newline_notMem_commaSeparated {parts : List (List Char)} (h : ∀ part ∈ parts, '\n' ∉ part) :
    '\n' ∉ commaSeparated parts := by
  induction parts with
  | nil => exact List.not_mem_nil
  | cons a parts ih =>
    obtain ⟨ha, hparts⟩ := List.forall_mem_cons.mp h
    cases parts with
    | nil => rwa [commaSeparated_singleton]
    | cons b parts =>
      rw [commaSeparated_cons_cons, List.mem_append, List.mem_cons]
      rintro (hmem | hmem | hmem)
      · exact ha hmem
      · exact absurd hmem (by decide)
      · exact ih hparts hmem

/-- So is a printed object, if its values are. -/
theorem newline_notMem_jsonObject {fields : List (String × List Char)}
    (h : ∀ field ∈ fields, '\n' ∉ field.2) : '\n' ∉ jsonObject fields := by
  have hparts : ∀ part ∈ fields.map jsonField, '\n' ∉ part := by
    intro part hpart
    obtain ⟨field, hfield, rfl⟩ := List.mem_map.mp hpart
    rw [jsonField, List.mem_append, List.mem_cons]
    rintro (hmem | hmem | hmem)
    · exact newline_notMem_jsonString _ hmem
    · exact absurd hmem (by decide)
    · exact h field hfield hmem
  rw [jsonObject, List.cons_append, List.mem_cons, List.mem_append]
  rintro (hmem | hmem | hmem)
  · exact absurd hmem (by decide)
  · exact newline_notMem_commaSeparated hparts hmem
  · exact absurd hmem (by decide)

end Wroid.Lib
