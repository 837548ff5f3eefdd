import Wroid.Lib.Json

/-!
# Reading JSON texts

A reader of JSON texts the way a strict JSON library reads them: with blanks between the tokens,
every escape, surrogate pairs, and a limit on how deep values may be nested.  A number is kept as
it is written.

The reader is a recursion on a number of steps; twice the length of the text is always enough for
what the printer of `Wroid.Lib.Json` prints.

## Main definitions

* `Json` — a value.
* `readString`, `readNumber`, `readValue` — read a value at the start of a text.
* `parseJson` — read a value that is the whole text.
* `Reads`, `ReadsApart` — a printed text reads as a value, in whatever context it stands.

## Main results

* `readString_escape` — a printed string reads back.
* `Reads.string`, `Reads.nat`, `Reads.object` — so do values put together from printed parts.
* `parseJson_eq` — a text that reads as a value is parsed as that value.
-/

namespace Wroid.Lib

/-- A JSON value. -/
inductive Json
  | null
  | bool (b : Bool)
  | number (literal : List Char)
  | string (text : String)
  | array (items : List Json)
  | object (fields : List (String × Json))

/-! ### Strings -/

def hexValue (c : Char) : Option ℕ :=
  if '0' ≤ c ∧ c ≤ '9' then some (c.toNat - '0'.toNat)
  else if 'a' ≤ c ∧ c ≤ 'f' then some (c.toNat - 'a'.toNat + 10)
  else if 'A' ≤ c ∧ c ≤ 'F' then some (c.toNat - 'A'.toNat + 10)
  else none

/-- The number of four hexadecimal digits. -/
def hexUnit (a b c d : Char) : Option ℕ := do
  let a ← hexValue a
  let b ← hexValue b
  let c ← hexValue c
  let d ← hexValue d
  return ((a * 16 + b) * 16 + c) * 16 + d

/-- The character behind a backslash. -/
def shortEscape : Char → Option Char
  | '"' => some '"'
  | '\\' => some '\\'
  | '/' => some '/'
  | 'b' => some '\x08'
  | 'f' => some '\x0c'
  | 'n' => some '\n'
  | 'r' => some '\r'
  | 't' => some '\t'
  | _ => none

/-- A piece of a string: a character, or a UTF-16 unit that was escaped. -/
inductive Piece
  | char (c : Char)
  | unit (n : ℕ)

/-- The pieces up to the closing quote. -/
def readPieces : List Char → Option (List Piece × List Char)
  | [] => none
  | '"' :: rest => some ([], rest)
  | '\\' :: 'u' :: a :: b :: c :: d :: rest => do
    let n ← hexUnit a b c d
    let (pieces, rest) ← readPieces rest
    return (.unit n :: pieces, rest)
  | '\\' :: escape :: rest => do
    let c ← shortEscape escape
    let (pieces, rest) ← readPieces rest
    return (.char c :: pieces, rest)
  | c :: rest =>
    if c.toNat < 0x20 then none
    else do
      let (pieces, rest) ← readPieces rest
      return (.char c :: pieces, rest)

def isLeadSurrogate (n : ℕ) : Bool := decide (0xd800 ≤ n ∧ n < 0xdc00)

def isTrailSurrogate (n : ℕ) : Bool := decide (0xdc00 ≤ n ∧ n < 0xe000)

/-- The characters of the pieces; a surrogate must be one of a pair. -/
def joinPieces : List Piece → Option (List Char)
  | [] => some []
  | .char c :: rest => (joinPieces rest).map (c :: ·)
  | .unit n :: .unit m :: rest =>
    if isLeadSurrogate n then
      if isTrailSurrogate m then
        (joinPieces rest).map (Char.ofNat (0x10000 + (n - 0xd800) * 0x400 + (m - 0xdc00)) :: ·)
      else none
    else if isTrailSurrogate n then none
    else (joinPieces (.unit m :: rest)).map (Char.ofNat n :: ·)
  | .unit n :: rest =>
    if isLeadSurrogate n || isTrailSurrogate n then none
    else (joinPieces rest).map (Char.ofNat n :: ·)

/-- A string, from behind its opening quote. -/
def readString (text : List Char) : Option (String × List Char) := do
  let (pieces, rest) ← readPieces text
  let chars ← joinPieces pieces
  return (.ofList chars, rest)

/-! ### Values -/

def skipBlank (text : List Char) : List Char :=
  text.dropWhile fun c => c = ' ' ∨ c = '\n' ∨ c = '\t' ∨ c = '\r'

/-- One digit at least, and the digits after it. -/
def readDigits (text : List Char) : Option (List Char × List Char) :=
  match text.span Char.isDigit with
  | ([], _) => none
  | (digits, rest) => some (digits, rest)

def readSign : List Char → List Char × List Char
  | '-' :: rest => (['-'], rest)
  | text => ([], text)

/-- The digits behind a point, if there is one. -/
def readFraction : List Char → Option (List Char × List Char)
  | '.' :: rest => (readDigits rest).map fun (digits, rest) => ('.' :: digits, rest)
  | text => some ([], text)

def readExponentSign : List Char → List Char × List Char
  | '-' :: rest => (['-'], rest)
  | '+' :: rest => (['+'], rest)
  | text => ([], text)

def readExponent : List Char → Option (List Char × List Char)
  | 'e' :: rest | 'E' :: rest => do
    let (sign, rest) := readExponentSign rest
    let (digits, rest) ← readDigits rest
    return ('e' :: sign ++ digits, rest)
  | text => some ([], text)

/-- A number; a zero is not followed by more digits. -/
def readNumber (text : List Char) : Option (Json × List Char) := do
  let (sign, rest) := readSign text
  let (digits, rest) ← readDigits rest
  if digits.head? = some '0' ∧ digits ≠ ['0'] then none
  else do
    let (fraction, rest) ← readFraction rest
    let (exponent, rest) ← readExponent rest
    return (.number (sign ++ digits ++ fraction ++ exponent), rest)

def readScalar : List Char → Option (Json × List Char)
  | 'n' :: 'u' :: 'l' :: 'l' :: rest => some (.null, rest)
  | 't' :: 'r' :: 'u' :: 'e' :: rest => some (.bool true, rest)
  | 'f' :: 'a' :: 'l' :: 's' :: 'e' :: rest => some (.bool false, rest)
  | text => readNumber text

mutual

/-- A value that is nested less than `depth` deep. -/
def readValue : ℕ → ℕ → List Char → Option (Json × List Char)
  | 0, _, _ => none
  | fuel + 1, depth, text =>
    match skipBlank text with
    | '"' :: rest => (readString rest).map fun (text, rest) => (.string text, rest)
    | '[' :: rest =>
      if depth ≤ 1 then none
      else match skipBlank rest with
        | ']' :: rest => some (.array [], rest)
        | rest => (readItems fuel (depth - 1) rest).map fun (items, rest) => (.array items, rest)
    | '\x7b' :: rest =>
      if depth ≤ 1 then none
      else match skipBlank rest with
        | '\x7d' :: rest => some (.object [], rest)
        | rest =>
          (readFields fuel (depth - 1) rest).map fun (fields, rest) => (.object fields, rest)
    | text => readScalar text

/-- The items of an array, one at least, up to its closing bracket. -/
def readItems : ℕ → ℕ → List Char → Option (List Json × List Char)
  | 0, _, _ => none
  | fuel + 1, depth, text => do
    let (item, rest) ← readValue fuel depth text
    match skipBlank rest with
    | ']' :: rest => some ([item], rest)
    | ',' :: rest => (readItems fuel depth rest).map fun (items, rest) => (item :: items, rest)
    | _ => none

/-- The fields of an object, one at least, up to its closing brace. -/
def readFields : ℕ → ℕ → List Char → Option (List (String × Json) × List Char)
  | 0, _, _ => none
  | fuel + 1, depth, text =>
    match skipBlank text with
    | '"' :: rest => do
      let (name, rest) ← readString rest
      match skipBlank rest with
      | ':' :: rest => do
        let (value, rest) ← readValue fuel depth rest
        match skipBlank rest with
        | '\x7d' :: rest => some ([(name, value)], rest)
        | ',' :: rest =>
          (readFields fuel depth rest).map fun (fields, rest) => ((name, value) :: fields, rest)
        | _ => none
      | _ => none
    | _ => none

end

/-- How deep a value may be nested. -/
def recursionLimit : ℕ := 128

/-- A value and nothing but blanks after it. -/
def parseJson (text : List Char) : Option Json :=
  match readValue (2 * text.length + 1) recursionLimit text with
  | some (value, rest) => if skipBlank rest = [] then some value else none
  | none => none

example : (parseJson " \x7b\"a\" : [1, -2.5e3, \"\\ud83d\\ude00\"], \"b\": null\x7d ".toList).isSome =
    true ∧ (parseJson "[1,]".toList).isSome = false := by decide +kernel

/-! ### Printed strings read back -/

theorem hexValue_hexDigit : ∀ n < 16, hexValue (hexDigit n) = some n := by decide

/-- A unit that is no surrogate stands for itself. -/
theorem joinPieces_unit {n : ℕ} (hn : n < 0xd800) (pieces : List Piece) :
    joinPieces (.unit n :: pieces) = (joinPieces pieces).map (Char.ofNat n :: ·) := by
  have hlead : isLeadSurrogate n = false := decide_eq_false (by omega)
  have htrail : isTrailSurrogate n = false := decide_eq_false (by omega)
  cases pieces with
  | nil => simp [joinPieces, hlead, htrail]
  | cons piece pieces => cases piece <;> simp [joinPieces, hlead, htrail]

/-- An escape of two characters reads as one. -/
theorem readPieces_short {escape c : Char} (h : shortEscape escape = some c)
    (rest : List Char) :
    readPieces ('\\' :: escape :: rest) =
      (readPieces rest).map fun p => (.char c :: p.1, p.2) := by
  have hu : escape ≠ 'u' := fun hu => by
    rw [hu] at h
    cases h
  rw [readPieces.eq_def]
  split
  · next heq => cases heq
  · next heq => cases heq
  · next heq =>
    cases heq
    exact absurd rfl hu
  · next heq =>
    cases heq
    rw [h]
    cases readPieces rest <;> rfl
  · next hnot heq =>
    cases heq
    exact (hnot _ _ rfl rfl).elim

/-- A character below the blank is escaped by its number. -/
theorem readPieces_unit {n : ℕ} (hn : n < 0x20) (rest : List Char) :
    readPieces ('\\' :: 'u' :: '0' :: '0' :: hexDigit (n / 16) :: hexDigit (n % 16) :: rest) =
      (readPieces rest).map fun p => (.unit n :: p.1, p.2) := by
  have hunit : hexUnit '0' '0' (hexDigit (n / 16)) (hexDigit (n % 16)) = some n := by
    have hzero : hexValue '0' = some 0 := rfl
    simp only [hexUnit, hzero, hexValue_hexDigit (n / 16) (by omega),
      hexValue_hexDigit (n % 16) (by omega), Option.bind_eq_bind, Option.bind_some, Option.pure_def]
    congr 1
    omega
  rw [readPieces, hunit]
  cases readPieces rest <;> rfl

/-- Any other character is printed as it is. -/
theorem readPieces_plain {c : Char} (hquote : c ≠ '"') (hslash : c ≠ '\\') (hc : 0x20 ≤ c.toNat)
    (rest : List Char) :
    readPieces (c :: rest) = (readPieces rest).map fun p => (.char c :: p.1, p.2) := by
  rw [readPieces.eq_def]
  split
  · next heq => cases heq
  · next heq =>
    cases heq
    exact absurd rfl hquote
  · next heq =>
    cases heq
    exact absurd rfl hslash
  · next heq =>
    cases heq
    exact absurd rfl hslash
  · next heq =>
    cases heq
    rw [if_neg (by omega)]
    cases readPieces rest <;> rfl

/-- The piece stands for the character, and the text reads as the piece. -/
def Spells (text : List Char) (piece : Piece) (c : Char) : Prop :=
  (∀ rest, readPieces (text ++ rest) = (readPieces rest).map fun p => (piece :: p.1, p.2)) ∧
    ∀ pieces, joinPieces (piece :: pieces) = (joinPieces pieces).map (c :: ·)

theorem spells_short {escape c d : Char} (hc : c = d) (h : shortEscape escape = some d) :
    Spells ['\\', escape] (.char c) c := by
  subst hc
  exact ⟨readPieces_short h, fun _ => rfl⟩

theorem eq_of_toNat_eq {c d : Char} (h : c.toNat = d.toNat) : c = d :=
  Char.ext (UInt32.toNat_inj.mp h)

/-- **Every character, escaped or not, reads back.** -/
theorem exists_spells (c : Char) : ∃ piece, Spells (escapeChar c) piece c := by
  unfold escapeChar
  split_ifs with hquote hslash hback hfeed hnewline hreturn htab hcontrol
  · exact ⟨_, spells_short hquote rfl⟩
  · exact ⟨_, spells_short hslash rfl⟩
  · exact ⟨_, spells_short (eq_of_toNat_eq (d := '\x08') hback) rfl⟩
  · exact ⟨_, spells_short (eq_of_toNat_eq (d := '\x0c') hfeed) rfl⟩
  · exact ⟨_, spells_short hnewline rfl⟩
  · exact ⟨_, spells_short hreturn rfl⟩
  · exact ⟨_, spells_short htab rfl⟩
  · refine ⟨.unit c.toNat, readPieces_unit hcontrol, fun pieces => ?_⟩
    rw [joinPieces_unit (by omega), Char.ofNat_toNat]
  · exact ⟨.char c, readPieces_plain hquote hslash (by omega), fun _ => rfl⟩

/-- **A printed string reads back.** -/
theorem readString_escape (chars rest : List Char) :
    readString (chars.flatMap escapeChar ++ '"' :: rest) = some (.ofList chars, rest) := by
  have hpieces : ∃ pieces, readPieces (chars.flatMap escapeChar ++ '"' :: rest) =
      some (pieces, rest) ∧ joinPieces pieces = some chars := by
    induction chars with
    | nil => exact ⟨[], by rw [List.flatMap_nil, List.nil_append, readPieces], rfl⟩
    | cons c chars ih =>
      obtain ⟨pieces, hread, hjoin⟩ := ih
      obtain ⟨piece, hspell, hmeans⟩ := exists_spells c
      refine ⟨piece :: pieces, ?_, ?_⟩
      · rw [List.flatMap_cons, List.append_assoc, hspell, hread]
        rfl
      · rw [hmeans, hjoin]
        rfl
  obtain ⟨pieces, hread, hjoin⟩ := hpieces
  simp only [readString, hread, hjoin, Option.bind_eq_bind, Option.bind_some, Option.pure_def]

/-! ### Printed values read back -/

/-- What stands after a value inside another one, or after the whole. -/
def Ends (rest : List Char) : Prop := ∀ c ∈ rest.head?, c = ',' ∨ c = ']' ∨ c = '\x7d'

theorem ends_nil : Ends [] := nofun

/-- The text reads as the value, which is nested less than `d` deep. -/
def Reads (d : ℕ) (text : List Char) (value : Json) : Prop :=
  ∀ fuel depth rest, 2 * text.length ≤ fuel → d ≤ depth → Ends rest →
    readValue fuel depth (text ++ rest) = some (value, rest)

/-- What does not go on with a number. -/
def Apart (rest : List Char) : Prop :=
  ∀ c ∈ rest.head?, ¬ c.isDigit = true ∧ c ≠ '.' ∧ c ≠ 'e' ∧ c ≠ 'E'

theorem Ends.apart {rest : List Char} (h : Ends rest) : Apart rest := by
  intro c hc
  rcases h c hc with rfl | rfl | rfl <;> decide

/-- The text reads as the value in front of anything that does not go on with a number. -/
def ReadsApart (d : ℕ) (text : List Char) (value : Json) : Prop :=
  ∀ fuel depth rest, 2 * text.length ≤ fuel → d ≤ depth → Apart rest →
    readValue fuel depth (text ++ rest) = some (value, rest)

theorem ReadsApart.reads {d : ℕ} {text : List Char} {value : Json} (h : ReadsApart d text value) :
    Reads d text value :=
  fun fuel depth rest hfuel hdepth hends => h fuel depth rest hfuel hdepth hends.apart

theorem Reads.mono {d d' : ℕ} {text : List Char} {value : Json} (h : Reads d text value)
    (hd : d ≤ d') : Reads d' text value :=
  fun fuel depth rest hfuel hdepth => h fuel depth rest hfuel (hd.trans hdepth)

/-- Only a blank is skipped. -/
theorem skipBlank_cons {c : Char} (hc : ¬ (c = ' ' ∨ c = '\n' ∨ c = '\t' ∨ c = '\r'))
    (rest : List Char) : skipBlank (c :: rest) = c :: rest := by
  rw [skipBlank, List.dropWhile_cons_of_neg (by simpa using hc)]

theorem Reads.string (text : String) : Reads 1 (jsonString text) (.string text) := by
  intro fuel depth rest hfuel _ _
  cases fuel with
  | zero =>
    rw [jsonString, List.cons_append, List.length_cons] at hfuel
    omega
  | succ fuel =>
    have hread := readString_escape text.toList rest
    rw [String.ofList_toList] at hread
    rw [jsonString, List.cons_append, List.cons_append, List.append_assoc, readValue,
      skipBlank_cons (by decide)]
    simp only [List.cons_append, List.nil_append, hread, Option.map_some]

/-! ### Numbers -/

/-- The digits of a positive number do not begin with a zero. -/
theorem head?_toDigits_ne_zero {n : ℕ} (hn : 0 < n) : (Nat.toDigits 10 n).head? ≠ some '0' := by
  induction n using Nat.strong_induction_on with
  | _ n ih =>
    by_cases hlt : n < 10
    · rw [Nat.toDigits_of_lt_base hlt]
      have hdigit : ∀ m < 10, 0 < m → [m.digitChar].head? ≠ some '0' := by decide
      exact hdigit n hlt hn
    · have hhead := ih (n / 10) (by omega) (by omega)
      have hne : Nat.toDigits 10 (n / 10) ≠ [] := Nat.toDigits_ne_nil
      rwa [Nat.toDigits_of_base_le (by decide) (by omega), List.head?_append_of_ne_nil _ hne]

theorem span_append {p : Char → Bool} {digits rest : List Char} (hdigits : ∀ c ∈ digits, p c)
    (hrest : ∀ c ∈ rest.head?, ¬ p c) : (digits ++ rest).span p = (digits, rest) := by
  have hnone : rest.takeWhile p = [] ∧ rest.dropWhile p = rest := by
    cases rest with
    | nil => exact ⟨rfl, rfl⟩
    | cons c rest =>
      have hc := hrest c rfl
      exact ⟨List.takeWhile_cons_of_neg hc, List.dropWhile_cons_of_neg hc⟩
  rw [List.span_eq_takeWhile_dropWhile, List.takeWhile_append_of_pos hdigits,
    List.dropWhile_append_of_pos hdigits, hnone.1, hnone.2, List.append_nil]

theorem jsonNat_eq (n : ℕ) : jsonNat n = Nat.toDigits 10 n := by
  rw [jsonNat, Nat.toString_eq_ofList_toDigits, String.toList_ofList]

/-- A printed number stands for the number. -/
theorem digitsValue_jsonNat (n : ℕ) : digitsValue (jsonNat n) = n := by
  have hvalue := Nat.ofDigitChars_ten_toDigits (n := n)
  rw [Nat.ofDigitChars_eq_foldl] at hvalue
  rw [jsonNat_eq]
  exact hvalue

theorem isDigit_of_mem_jsonNat {n : ℕ} {c : Char} (hc : c ∈ jsonNat n) : c.isDigit = true := by
  rw [jsonNat_eq] at hc
  exact Nat.isDigit_of_mem_toDigits (by decide) (by decide) hc

/-- A printed number is as long as it has digits. -/
theorem utf8Size_jsonNat_le {n k : ℕ} (hk : 0 < k) (h : n < 10 ^ k) : utf8Size (jsonNat n) ≤ k := by
  have hone : ∀ c ∈ jsonNat n, c.utf8Size = 1 := by
    intro c hc
    have hdigit := isDigit_of_mem_jsonNat hc
    simp only [Char.isDigit, Bool.and_eq_true, decide_eq_true_eq] at hdigit
    have hlast : c.val ≤ 57 := hdigit.2
    exact Char.utf8Size_eq_one_iff.mpr (UInt32.le_trans hlast (by decide))
  have hlength := Nat.toDigits_length 10 n k hk h
  rw [← jsonNat_eq] at hlength
  rw [utf8Size, List.map_congr_left hone, List.map_const', List.sum_replicate, smul_eq_mul, mul_one]
  exact hlength

/-- A printed number is parsed as the number, unless it is too large. -/
theorem parseUnsigned_jsonNat {max n : ℕ} (h : n ≤ max) :
    parseUnsigned max (.ofList (jsonNat n)) = some n := by
  have hne : jsonNat n ≠ [] := by
    rw [jsonNat_eq]
    exact Nat.toDigits_ne_nil
  have hall : jsonNat n ≠ [] ∧ (jsonNat n).all Char.isDigit ∧ digitsValue (jsonNat n) ≤ max :=
    ⟨hne, List.all_eq_true.mpr fun c => isDigit_of_mem_jsonNat, by rwa [digitsValue_jsonNat]⟩
  rw [parseUnsigned, String.toList_ofList]
  split
  · next rest heq =>
    have hplus : '+' ∈ jsonNat n := heq ▸ List.mem_cons_self
    exact absurd (isDigit_of_mem_jsonNat hplus) (by decide)
  · rw [if_pos hall, digitsValue_jsonNat]

/-- A value whose first character opens nothing is a word or a number. -/
theorem readValue_scalar {c : Char} (hblank : ¬ (c = ' ' ∨ c = '\n' ∨ c = '\t' ∨ c = '\r'))
    (hopen : c ≠ '"' ∧ c ≠ '[' ∧ c ≠ '\x7b') (fuel depth : ℕ) (rest : List Char) :
    readValue (fuel + 1) depth (c :: rest) = readScalar (c :: rest) := by
  obtain ⟨hquote, hbracket, hbrace⟩ := hopen
  rw [readValue, skipBlank_cons hblank]
  split
  · next heq =>
    cases heq
    exact absurd rfl hquote
  · next heq =>
    cases heq
    exact absurd rfl hbracket
  · next heq =>
    cases heq
    exact absurd rfl hbrace
  · rfl

theorem isDigit_ne {c d : Char} (hc : c.isDigit = true) (hd : d.isDigit = false) : c ≠ d := by
  rintro rfl
  rw [hc] at hd
  cases hd

theorem readScalar_digit {c : Char} (hc : c.isDigit = true) (rest : List Char) :
    readScalar (c :: rest) = readNumber (c :: rest) := by
  rw [readScalar.eq_def]
  split
  · next heq =>
    cases heq
    exact absurd hc (by decide)
  · next heq =>
    cases heq
    exact absurd hc (by decide)
  · next heq =>
    cases heq
    exact absurd hc (by decide)
  · rfl

/-- A number is read up to what ends it. -/
theorem readNumber_digits {c : Char} {digits rest : List Char} (hdigits : ∀ d ∈ c :: digits, d.isDigit)
    (hzero : c = '0' → digits = []) (hstop : Apart rest) :
    readNumber (c :: digits ++ rest) = some (.number (c :: digits), rest) := by
  have hc : c.isDigit = true := hdigits c List.mem_cons_self
  have hsign : readSign (c :: digits ++ rest) = ([], c :: digits ++ rest) := by
    rw [List.cons_append, readSign.eq_def]
    split
    · next heq =>
      cases heq
      exact absurd hc (by decide)
    · rfl
  have hread : readDigits (c :: digits ++ rest) = some (c :: digits, rest) := by
    rw [readDigits, span_append hdigits fun d hd => (hstop d hd).1]
  have hfraction : readFraction rest = some ([], rest) := by
    rw [readFraction.eq_def]
    split
    · exact absurd rfl (hstop _ rfl).2.1
    · rfl
  have hexponent : readExponent rest = some ([], rest) := by
    rw [readExponent.eq_def]
    split
    · exact absurd rfl (hstop _ rfl).2.2.1
    · exact absurd rfl (hstop _ rfl).2.2.2
    · rfl
  have hplain : ¬ ((c :: digits).head? = some '0' ∧ c :: digits ≠ ['0']) := by
    rintro ⟨hhead, hne⟩
    have hc0 : c = '0' := Option.some.inj hhead
    exact hne (by rw [hc0, hzero hc0])
  simp only [readNumber, hsign, hread, hfraction, hexponent, if_neg hplain, Option.bind_eq_bind,
    Option.bind_some, Option.pure_def, List.nil_append, List.append_nil]

theorem ReadsApart.nat (n : ℕ) : ReadsApart 1 (jsonNat n) (.number (jsonNat n)) := by
  intro fuel depth rest hfuel _ hapart
  rw [jsonNat_eq] at hfuel ⊢
  have hdigits : ∀ c ∈ Nat.toDigits 10 n, c.isDigit = true :=
    fun c hc => Nat.isDigit_of_mem_toDigits (by decide) (by decide) hc
  have hzero : (Nat.toDigits 10 n).head? = some '0' → Nat.toDigits 10 n = ['0'] := by
    intro hhead
    rcases Nat.eq_zero_or_pos n with rfl | hn
    · rfl
    · exact absurd hhead (head?_toDigits_ne_zero hn)
  have hne : Nat.toDigits 10 n ≠ [] := Nat.toDigits_ne_nil
  revert hdigits hzero hfuel
  cases hcons : Nat.toDigits 10 n with
  | nil => exact absurd hcons hne
  | cons c digits =>
    intro hfuel hdigits hzero
    have hc : c.isDigit = true := hdigits c List.mem_cons_self
    obtain ⟨fuel, rfl⟩ : ∃ k, fuel = k + 1 := ⟨fuel - 1, by rw [List.length_cons] at hfuel; omega⟩
    have hother : ∀ d : Char, d.isDigit = false → c ≠ d := fun d => isDigit_ne hc
    rw [List.cons_append, readValue_scalar, readScalar_digit hc]
    · refine readNumber_digits hdigits (fun hc0 => ?_) hapart
      rw [hc0] at hzero
      exact (List.cons.inj (hzero rfl)).2
    · rintro (h | h | h | h)
      all_goals exact hother _ (by decide) h
    · exact ⟨hother _ (by decide), hother _ (by decide), hother _ (by decide)⟩

theorem Reads.nat (n : ℕ) : Reads 1 (jsonNat n) (.number (jsonNat n)) := (ReadsApart.nat n).reads

/-! ### Objects -/

/-- Printed fields read as the fields, each nested less than `d` deep. -/
def FieldsRead (d : ℕ) : List (String × List Char) → List (String × Json) → Prop :=
  List.Forall₂ fun printed field => printed.1 = field.1 ∧ Reads d printed.2 field.2

theorem FieldsRead.append {d : ℕ} {printed printed' : List (String × List Char)}
    {fields fields' : List (String × Json)} (h : FieldsRead d printed fields)
    (h' : FieldsRead d printed' fields') : FieldsRead d (printed ++ printed') (fields ++ fields') :=
  List.rel_append h h'

/-- One field, and what `readFields` makes of what follows it. -/
theorem readFields_field {d fuel depth : ℕ} {name : String} {text rest : List Char} {value : Json}
    (hreads : Reads d text value) (hfuel : 2 * (jsonField (name, text)).length ≤ fuel + 1)
    (hdepth : d ≤ depth) (hends : Ends rest) :
    readFields (fuel + 1) depth (jsonField (name, text) ++ rest) =
      match skipBlank rest with
      | '\x7d' :: rest => some ([(name, value)], rest)
      | ',' :: rest =>
        (readFields fuel depth rest).map fun (fields, rest) => ((name, value) :: fields, rest)
      | _ => none := by
  have hname := readString_escape name.toList (':' :: (text ++ rest))
  rw [String.ofList_toList] at hname
  have hlength : text.length + 1 ≤ (jsonField (name, text)).length := by
    rw [jsonField, List.length_append, List.length_cons]
    exact Nat.le_add_left _ _
  have hvalue := hreads fuel depth rest (by omega) hdepth hends
  have htext : jsonField (name, text) ++ rest =
      '"' :: (name.toList.flatMap escapeChar ++ '"' :: ':' :: (text ++ rest)) := by
    simp only [jsonField, jsonString, List.cons_append, List.append_assoc, List.nil_append]
  rw [htext, readFields, skipBlank_cons (by decide)]
  simp only [hname, Option.bind_eq_bind, Option.bind_some, skipBlank_cons (c := ':') (by decide),
    hvalue]

theorem readFields_eq {d : ℕ} {printed : List (String × List Char)}
    {fields : List (String × Json)} (hread : FieldsRead d printed fields) (hne : printed ≠ []) :
    ∀ fuel depth rest, 2 * (commaSeparated (printed.map jsonField)).length ≤ fuel → d ≤ depth →
      readFields fuel depth (commaSeparated (printed.map jsonField) ++ '\x7d' :: rest) =
        some (fields, rest) := by
  induction hread with
  | nil => exact absurd rfl hne
  | @cons p field printed fields hp hrest ih =>
    obtain ⟨name, text⟩ := p
    obtain ⟨name', value⟩ := field
    obtain ⟨rfl, hvalue⟩ : name = name' ∧ Reads d text value := hp
    intro fuel depth rest hfuel hdepth
    have hpos : 0 < (jsonField (name, text)).length := by
      rw [jsonField, List.length_append, List.length_cons]
      omega
    cases printed with
    | nil =>
      cases hrest
      rw [List.map_singleton, commaSeparated_singleton] at hfuel ⊢
      obtain ⟨fuel, rfl⟩ : ∃ k, fuel = k + 1 := ⟨fuel - 1, by omega⟩
      rw [readFields_field hvalue hfuel hdepth (by simp [Ends]), skipBlank_cons (by decide)]
      rfl
    | cons q printed =>
      rw [List.map_cons, List.map_cons, commaSeparated_cons_cons] at hfuel ⊢
      rw [List.length_append, List.length_cons] at hfuel
      obtain ⟨fuel, rfl⟩ : ∃ k, fuel = k + 1 := ⟨fuel - 1, by omega⟩
      rw [List.append_assoc, List.cons_append,
        readFields_field hvalue (by omega) hdepth (by simp [Ends]), skipBlank_cons (by decide)]
      have hmore := ih (List.cons_ne_nil _ _) fuel depth rest (by rw [List.map_cons]; omega) hdepth
      rw [List.map_cons] at hmore
      simp only [hmore, Option.map_some]

/-- An object reads back whatever follows it. -/
theorem readValue_object {d : ℕ} {printed : List (String × List Char)}
    {fields : List (String × Json)} (hread : FieldsRead d printed fields) (hne : printed ≠ [])
    (hd : 0 < d) (rest : List Char) {fuel depth : ℕ}
    (hfuel : 2 * (jsonObject printed).length ≤ fuel) (hdepth : d + 1 ≤ depth) :
    readValue fuel depth (jsonObject printed ++ rest) = some (.object fields, rest) := by
  rw [jsonObject, List.cons_append, List.length_cons, List.length_append] at hfuel
  obtain ⟨fuel, rfl⟩ : ∃ k, fuel = k + 1 := ⟨fuel - 1, by omega⟩
  have hfields := readFields_eq hread hne fuel (depth - 1) rest (by omega) (by omega)
  obtain ⟨more, hmore⟩ : ∃ more, commaSeparated (printed.map jsonField) ++ '\x7d' :: rest =
      '"' :: more := by
    cases printed with
    | nil => exact absurd rfl hne
    | cons p printed =>
      cases printed with
      | nil =>
        rw [List.map_singleton, commaSeparated_singleton, jsonField, jsonString]
        exact ⟨_, rfl⟩
      | cons q printed =>
        rw [List.map_cons, List.map_cons, commaSeparated_cons_cons, jsonField, jsonString]
        exact ⟨_, rfl⟩
  rw [jsonObject, List.cons_append, List.cons_append, List.append_assoc, List.cons_append,
    List.nil_append, readValue, skipBlank_cons (by decide)]
  change (if depth ≤ 1 then none else _) = _
  rw [if_neg (by omega)]
  rw [hmore] at hfields ⊢
  rw [skipBlank_cons (by decide)]
  change (readFields fuel (depth - 1) ('"' :: more)).map _ = _
  rw [hfields]
  rfl

theorem Reads.object {d : ℕ} {printed : List (String × List Char)} {fields : List (String × Json)}
    (hread : FieldsRead d printed fields) (hne : printed ≠ []) (hd : 0 < d) :
    Reads (d + 1) (jsonObject printed) (.object fields) :=
  fun _ _ rest hfuel hdepth _ => readValue_object hread hne hd rest hfuel hdepth

/-- **A text that reads as a value is parsed as that value.** -/
theorem parseJson_eq {d : ℕ} {text : List Char} {value : Json} (hread : Reads d text value)
    (hd : d ≤ recursionLimit) : parseJson text = some value := by
  have hvalue := hread (2 * text.length + 1) recursionLimit [] (by omega) hd ends_nil
  rw [List.append_nil] at hvalue
  rw [parseJson, hvalue]
  rfl

/-- An object is parsed with blanks after it. -/
theorem parseJson_object {d : ℕ} {printed : List (String × List Char)}
    {fields : List (String × Json)} (hread : FieldsRead d printed fields) (hne : printed ≠ [])
    (hd : 0 < d) (hlimit : d + 1 ≤ recursionLimit) {blanks : List Char}
    (hblanks : skipBlank blanks = []) :
    parseJson (jsonObject printed ++ blanks) = some (.object fields) := by
  have hfuel : 2 * (jsonObject printed).length ≤ 2 * (jsonObject printed ++ blanks).length + 1 := by
    rw [List.length_append]
    omega
  rw [parseJson, readValue_object hread hne hd blanks hfuel hlimit]
  simp only [hblanks, if_true]

end Wroid.Lib
