import Mathlib

/-!
# Sockets, files and text as a standard library hands them over

The part of a systems language's standard library the parties of this development meet on
sockets: errors with their kinds, what one read delivers, time limits, and the parsing of
numbers and paths.

## Main definitions

* `ErrorKind`, `IoError` — why a system call failed.
* `Received` — what one read on a socket gives.
* `setTimeout` — a time limit of zero is refused.
* `lineOf` — the first line of some bytes.
* `parseUnsigned` — `str::parse` for an unsigned integer type.
* `pathComponents` — the components of a Unix path.
-/

namespace Wroid.Lib

/-- `std::io::ErrorKind`, as far as anybody here looks at it. -/
inductive ErrorKind
  | notFound
  | permissionDenied
  | connectionReset
  | brokenPipe
  | alreadyExists
  | wouldBlock
  | invalidInput
  | invalidData
  | timedOut
  | interrupted
  | unexpectedEof
  | other
  deriving DecidableEq, Repr

/-- `std::io::Error` -/
structure IoError where
  kind : ErrorKind
  detail : String
  deriving DecidableEq, Repr

/-- The answer, with a text in place of an error. -/
def withContext {α : Type} (message : String) (answer : Except IoError α) : Except String α :=
  answer.mapError fun _ => message

/-- The answer, with the text of an error. -/
def plainly {α : Type} (answer : Except IoError α) : Except String α :=
  answer.mapError IoError.detail

/-- What one read gives: some bytes, none at the end of the stream, or a failure. -/
abbrev Received := Except IoError (List UInt8)

/-- Set a time limit on a socket, in nanoseconds; `os` is what the system answers.  A limit
of zero is refused before the system is asked. -/
def setTimeout (os : Except IoError Unit) (limit : Option ℕ) : Except IoError Unit :=
  if limit = some 0 then .error ⟨.invalidInput, "cannot set a 0 duration timeout"⟩ else os

@[simp] theorem setTimeout_none (os : Except IoError Unit) : setTimeout os none = os := rfl

theorem setTimeout_zero (os : Except IoError Unit) :
    setTimeout os (some 0) = .error ⟨.invalidInput, "cannot set a 0 duration timeout"⟩ := rfl

@[simp] theorem setTimeout_pos (os : Except IoError Unit) {limit : ℕ} (h : limit ≠ 0) :
    setTimeout os (some limit) = os := by simp [setTimeout, h]

def seconds (s : ℕ) : ℕ := s * 1000000000

/-- The newline byte. -/
def newline : UInt8 := 0x0a

/-- The bytes up to the first newline, with the newline if there is one. -/
def lineOf : List UInt8 → List UInt8
  | [] => []
  | b :: rest => if b = newline then [newline] else b :: lineOf rest

@[simp] theorem lineOf_eq_nil {bytes : List UInt8} : lineOf bytes = [] ↔ bytes = [] := by
  cases bytes with
  | nil => simp [lineOf]
  | cons b rest =>
    rw [lineOf]
    split <;> simp

theorem lineOf_isPrefix (bytes : List UInt8) : lineOf bytes <+: bytes := by
  induction bytes with
  | nil => exact List.prefix_rfl
  | cons b rest ih =>
    rw [lineOf]
    split
    · next hb => exact hb ▸ (List.cons_prefix_cons.mpr ⟨rfl, List.nil_prefix⟩)
    · exact List.cons_prefix_cons.mpr ⟨rfl, ih⟩

/-- Bytes without a newline go in front of the line that follows. -/
theorem lineOf_append_of_notMem {word : List UInt8} (hword : newline ∉ word) (rest : List UInt8) :
    lineOf (word ++ rest) = word ++ lineOf rest := by
  induction word with
  | nil => rfl
  | cons b word ih =>
    have hb : b ≠ newline := fun hb => hword (hb ▸ List.mem_cons_self)
    rw [List.cons_append, lineOf, if_neg hb, ih fun hm => hword (List.mem_cons_of_mem b hm),
      List.cons_append]

theorem lineOf_append_newline {word : List UInt8} (hword : newline ∉ word) (rest : List UInt8) :
    lineOf (word ++ newline :: rest) = word ++ [newline] := by
  rw [lineOf_append_of_notMem hword, lineOf, if_pos rfl]

/-- Without a newline all the bytes are in one line. -/
theorem lineOf_eq_self {word : List UInt8} (hword : newline ∉ word) : lineOf word = word := by
  have h := lineOf_append_of_notMem hword []
  rwa [List.append_nil, lineOf, List.append_nil] at h

/-- A line that has ended does not depend on what follows. -/
theorem lineOf_append_of_mem {bytes : List UInt8} (h : newline ∈ bytes) (rest : List UInt8) :
    lineOf (bytes ++ rest) = lineOf bytes := by
  obtain ⟨word, more, rfl, hword⟩ := List.eq_append_cons_of_mem h
  rw [List.append_assoc, List.cons_append, lineOf_append_newline hword, lineOf_append_newline hword]

/-- A line ends with a newline if there is one. -/
theorem getLast?_lineOf {bytes : List UInt8} :
    (lineOf bytes).getLast? = some newline ↔ newline ∈ bytes := by
  by_cases h : newline ∈ bytes
  · obtain ⟨word, more, rfl, hword⟩ := List.eq_append_cons_of_mem h
    rw [lineOf_append_newline hword]
    exact iff_of_true List.getLast?_concat h
  · rw [lineOf_eq_self h]
    exact iff_of_false (fun hlast => h (List.mem_of_getLast? hlast)) h

/-! ### Text -/

/-- The value of a text of decimal digits. -/
def digitsValue (digits : List Char) : ℕ :=
  digits.foldl (fun value digit => 10 * value + (digit.toNat - '0'.toNat)) 0

/-- `str::parse` for an unsigned type with the largest value `max`: decimal digits, after one
plus sign perhaps. -/
def parseUnsigned (max : ℕ) (text : String) : Option ℕ :=
  let digits := match text.toList with
    | '+' :: rest => rest
    | chars => chars
  if digits ≠ [] ∧ digits.all Char.isDigit ∧ digitsValue digits ≤ max then
    some (digitsValue digits)
  else none

/-- The pieces of `chars` between the separators. -/
def splitOn (separator : Char) : List Char → List (List Char)
  | [] => [[]]
  | c :: rest =>
    if c = separator then [] :: splitOn separator rest
    else match splitOn separator rest with
      | [] => [[c]]
      | piece :: pieces => (c :: piece) :: pieces

/-- A character is a separator or in one of the pieces. -/
theorem mem_splitOn {separator c : Char} {chars : List Char} (hc : c ∈ chars) :
    c = separator ∨ ∃ piece ∈ splitOn separator chars, c ∈ piece := by
  induction chars with
  | nil => cases hc
  | cons d chars ih =>
    by_cases hd : d = separator
    · rw [splitOn, if_pos hd]
      rcases List.mem_cons.mp hc with rfl | hc
      · exact .inl hd
      · rcases ih hc with hc | ⟨piece, hpiece, hmem⟩
        · exact .inl hc
        · exact .inr ⟨piece, List.mem_cons_of_mem _ hpiece, hmem⟩
    · rw [splitOn, if_neg hd]
      cases hsplit : splitOn separator chars with
      | nil =>
        rcases List.mem_cons.mp hc with rfl | hc
        · exact .inr ⟨[c], by simp, by simp⟩
        · refine (ih hc).imp_right ?_
          rw [hsplit]
          simp
      | cons piece pieces =>
        rw [hsplit] at ih
        rcases List.mem_cons.mp hc with rfl | hc
        · exact .inr ⟨c :: piece, List.mem_cons_self, List.mem_cons_self⟩
        · rcases ih hc with hc | ⟨found, hfound, hmem⟩
          · exact .inl hc
          rcases List.mem_cons.mp hfound with rfl | hfound
          · exact .inr ⟨d :: found, List.mem_cons_self, List.mem_cons_of_mem d hmem⟩
          · exact .inr ⟨found, List.mem_cons_of_mem _ hfound, hmem⟩

theorem mem_of_mem_splitOn {separator c : Char} {chars piece : List Char}
    (hpiece : piece ∈ splitOn separator chars) (hc : c ∈ piece) : c ∈ chars := by
  induction chars generalizing piece with
  | nil =>
    obtain rfl := List.mem_singleton.mp hpiece
    exact hc
  | cons d chars ih =>
    by_cases hd : d = separator
    · rw [splitOn, if_pos hd] at hpiece
      rcases List.mem_cons.mp hpiece with rfl | hpiece
      · cases hc
      · exact List.mem_cons_of_mem d (ih hpiece hc)
    · rw [splitOn, if_neg hd] at hpiece
      cases hsplit : splitOn separator chars with
      | nil =>
        rw [hsplit] at hpiece
        obtain rfl := List.mem_singleton.mp hpiece
        exact List.mem_cons.mpr (.inl (List.mem_singleton.mp hc))
      | cons first pieces =>
        rw [hsplit] at hpiece ih
        rcases List.mem_cons.mp hpiece with rfl | hpiece
        · rcases List.mem_cons.mp hc with rfl | hc
          · exact List.mem_cons_self
          · exact List.mem_cons_of_mem d (ih List.mem_cons_self hc)
        · exact List.mem_cons_of_mem d (ih (List.mem_cons_of_mem first hpiece) hc)

/-- A component of a Unix path. -/
inductive PathComponent
  | rootDir
  | curDir
  | parentDir
  | normal (name : String)
  deriving DecidableEq, Repr

/-- The component a piece between two slashes stands for: empty pieces and dots say nothing. -/
def pathComponent (piece : List Char) : Option PathComponent :=
  if piece = [] ∨ piece = ['.'] then none
  else if piece = ['.', '.'] then some .parentDir
  else some (.normal (.ofList piece))

/-- `Path::components` -/
def pathComponents (path : String) : List PathComponent :=
  let pieces := splitOn '/' path.toList
  let lead := match path.toList with
    | '/' :: _ => [PathComponent.rootDir]
    | ['.'] => [.curDir]
    | '.' :: '/' :: _ => [.curDir]
    | _ => []
  lead ++ pieces.filterMap pathComponent

/-- The characters of a path other than slashes and dots are in its components. -/
theorem mem_of_mem_path {path : String} {c : Char} (hc : c ∈ path.toList) :
    c = '/' ∨ c = '.' ∨ ∃ name, .normal name ∈ pathComponents path ∧ c ∈ name.toList := by
  rcases mem_splitOn hc with hc | ⟨piece, hpiece, hmem⟩
  · exact .inl hc
  refine .inr ?_
  by_cases hdot : piece = [] ∨ piece = ['.'] ∨ piece = ['.', '.']
  · rcases hdot with rfl | rfl | rfl <;> simp_all
  · refine .inr ⟨.ofList piece, ?_, by simpa using hmem⟩
    refine List.mem_append_right _ (List.mem_filterMap.mpr ⟨piece, hpiece, ?_⟩)
    rw [not_or, not_or] at hdot
    rw [pathComponent, if_neg (by simp [hdot]), if_neg hdot.2.2]

theorem mem_path_of_mem {path name : String} {c : Char} (hname : .normal name ∈ pathComponents path)
    (hc : c ∈ name.toList) : c ∈ path.toList := by
  rcases List.mem_append.mp hname with hlead | hname
  · split at hlead <;> simp at hlead
  · obtain ⟨piece, hpiece, hcomponent⟩ := List.mem_filterMap.mp hname
    rw [pathComponent] at hcomponent
    split_ifs at hcomponent with hnone hparent
    · cases hcomponent
    · rw [Option.some.injEq, PathComponent.normal.injEq] at hcomponent
      rw [← hcomponent, String.toList_ofList] at hc
      exact mem_of_mem_splitOn hpiece hc

/-- An absolute path is not the empty one. -/
theorem pathComponents_ne_nil {rest : String} : pathComponents ("/" ++ rest) ≠ [] := by
  have hlist : ("/" ++ rest).toList = '/' :: rest.toList := by simp
  rw [pathComponents, hlist]
  simp

example : pathComponents "/dev//input/./event3/" =
    [.rootDir, .normal "dev", .normal "input", .normal "event3"] := by decide

end Wroid.Lib
