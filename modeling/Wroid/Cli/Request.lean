import Wroid.Core.Geometry
import Wroid.Lib.ReadLoop
import Wroid.Lib.Json
import Wroid.Lib.Text

/-!
# Requests to the local servers

What the request readers of the hub and of the editor have in common: the limit on the header
section, the search for its end, and the pieces its text is cut into.

## Main definitions

* `Request` — a request that was read.
* `headerEnd` — where the header section ends, if it does.
* `words`, `splitCrlf`, `named` — the pieces of a header section.

## Main results

* `headerEnd_append` — where the header section ends does not change when more bytes arrive.
* `lt_of_headerEnd_append` — an end that was not there yet comes later.
-/

namespace Wroid

open Lib

def MAX_HEADER_BYTES : ℕ := 32 * 1024

structure Request where
  method : String
  target : String
  body : List UInt8
  deriving DecidableEq

/-- A carriage return and a newline, twice -/
def HEADER_TERMINATOR : List UInt8 := [13, 10, 13, 10]

/-- The length of the header section with its terminator. -/
def headerEnd (data : List UInt8) : Option ℕ := (findBytes HEADER_TERMINATOR data).map (· + 4)

theorem headerEnd_append {data : List UInt8} {length : ℕ} (h : headerEnd data = some length)
    (rest : List UInt8) : headerEnd (data ++ rest) = some length := by
  obtain ⟨i, hi, rfl⟩ := Option.map_eq_some_iff.mp h
  rw [headerEnd, findBytes_append hi, Option.map_some]

theorem headerEnd_le {data : List UInt8} {length : ℕ} (h : headerEnd data = some length) :
    4 ≤ length ∧ length ≤ data.length := by
  obtain ⟨i, hi, rfl⟩ := Option.map_eq_some_iff.mp h
  have hle := le_length_of_findBytes hi
  have hfour : HEADER_TERMINATOR.length = 4 := rfl
  omega

theorem lt_of_headerEnd_append {data rest : List UInt8} {length : ℕ} (hnone : headerEnd data = none)
    (h : headerEnd (data ++ rest) = some length) : data.length < length := by
  obtain ⟨i, hi, rfl⟩ := Option.map_eq_some_iff.mp h
  exact lt_of_findBytes_append (Option.map_eq_none_iff.mp hnone) hi

/-- `str::split_whitespace` -/
def words (text : List Char) : List (List Char) := (text.splitOnP rustBlank).filter (· ≠ [])

/-- `str::split("\r\n")` -/
def splitCrlf : List Char → List (List Char)
  | [] => [[]]
  | '\r' :: '\n' :: rest => [] :: splitCrlf rest
  | c :: rest =>
    match splitCrlf rest with
    | [] => [[c]]
    | piece :: pieces => (c :: piece) :: pieces

/-- `name.trim().eq_ignore_ascii_case(wanted)`, for a small-letter name -/
def named (name : List Char) (wanted : String) : Bool :=
  (trimChars rustBlank name).map Char.toLower = wanted.toList

/-- The line is a header of the name. -/
def isHeader (wanted : String) (line : List Char) : Bool :=
  (splitOnce ':' line).any fun halves => named halves.1 wanted

/-- The value of a header as a number. -/
def numberOf (value : List Char) : Option ℕ :=
  parseUnsigned u64Max (.ofList (trimChars rustBlank value))

/-- What ends a request whose stream ends too early. -/
def endedEarly (ending : Option IoError) (message : String) : String :=
  match ending with
  | none => message
  | some error => error.detail

end Wroid
