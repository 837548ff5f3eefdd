import Wroid.Lib.Streams

/-!
# Reading lines from a buffered stream

A buffered reader hands out the bytes of a stream in chunks, of whatever sizes the underlying
reads happen to have.  A line is gathered from the chunks, and given up when it gets longer than a
limit.  What is read does not depend on the chunks: it is what cutting the whole stream at its
newlines gives.

## Main definitions

* `Chunks` — the chunks to come, and how the stream ends after them.
* `readLine` — gather the next line.
* `splitLines` — the lines of the whole stream, each with its newline.

## Main results

* `gathered_readLine` — the next line, in terms of the bytes to come.
* `splitLines_eq` — the first line of a stream, and the others.
-/

namespace Wroid.Lib

/-- The chunks to come, the first of which may be the rest of the buffer.  None is empty: a read
of no bytes is the end of the stream, unless a read fails there. -/
structure Chunks where
  chunks : List (List UInt8)
  ending : Option IoError
  nonempty : [] ∉ chunks

namespace Chunks

/-- The bytes of the stream. -/
def bytes (s : Chunks) : List UInt8 := s.chunks.flatten

/-- What the end of the stream makes of the bytes read before it. -/
def atEnd (ending : Option IoError) (bytes : List UInt8) : Except IoError (List UInt8) :=
  match ending with
  | none => .ok bytes
  | some error => .error error

/-- The chunks when a part of the first one has not been consumed. -/
def unread (rest : List UInt8) (chunks : List (List UInt8)) : List (List UInt8) :=
  if rest = [] then chunks else rest :: chunks

theorem flatten_unread (rest : List UInt8) (chunks : List (List UInt8)) :
    (unread rest chunks).flatten = rest ++ chunks.flatten := by
  unfold unread
  split
  · next h => rw [h, List.nil_append]
  · rfl

theorem nil_notMem_unread {rest : List UInt8} {chunks : List (List UInt8)} (h : [] ∉ chunks) :
    [] ∉ unread rest chunks := by
  unfold unread
  split
  · exact h
  · next hrest =>
    rw [List.mem_cons, not_or]
    exact ⟨fun hnil => hrest hnil.symm, h⟩

/-- Gather chunks until there is a newline or there are more than `limit` bytes. -/
def gather (limit : ℕ) (ending : Option IoError) (bytes : List UInt8) :
    List (List UInt8) → Except IoError (List UInt8) × List (List UInt8)
  | [] => (atEnd ending bytes, [])
  | chunk :: chunks =>
    let bytes := bytes ++ lineOf chunk
    if limit < bytes.length ∨ newline ∈ chunk then
      (.ok bytes, unread (chunk.drop (lineOf chunk).length) chunks)
    else gather limit ending bytes chunks

/-- The chunks to come after a line has been gathered have no empty one among them. -/
theorem nil_notMem_gather {limit : ℕ} {ending : Option IoError} {chunks : List (List UInt8)}
    (h : [] ∉ chunks) (bytes : List UInt8) : [] ∉ (gather limit ending bytes chunks).2 := by
  induction chunks generalizing bytes with
  | nil => exact List.not_mem_nil
  | cons chunk chunks ih =>
    have hchunks : [] ∉ chunks := fun hmem => h (List.mem_cons_of_mem _ hmem)
    rw [gather]
    split
    · exact nil_notMem_unread hchunks
    · exact ih hchunks _

/-- The next line and what is to come after it. -/
def readLine (limit : ℕ) (s : Chunks) : Except IoError (List UInt8) × Chunks :=
  let line := gather limit s.ending [] s.chunks
  (line.1, ⟨line.2, s.ending, nil_notMem_gather s.nonempty []⟩)

/-- What gathering the next line of `bytes` may give: the line; more bytes than there may be,
which are too many however they go on; or all there is. -/
inductive Gathered (limit : ℕ) (ending : Option IoError) (bytes : List UInt8) :
    Except IoError (List UInt8) × List (List UInt8) → Prop
  | line {chunks : List (List UInt8)} (hlimit : (lineOf bytes).length ≤ limit)
      (hnewline : newline ∈ bytes)
      (hrest : chunks.flatten = bytes.drop (lineOf bytes).length) :
      Gathered limit ending bytes (.ok (lineOf bytes), chunks)
  | tooLong {part : List UInt8} {chunks : List (List UInt8)} (hlimit : limit < (lineOf bytes).length)
      (hpart : limit < part.length) : Gathered limit ending bytes (.ok part, chunks)
  | ended (hlimit : bytes.length ≤ limit) (hnewline : newline ∉ bytes) :
      Gathered limit ending bytes (atEnd ending bytes, [])

/-- The bytes gathered so far are the first bytes of a line, and not too many. -/
theorem gathered_gather {limit : ℕ} {ending : Option IoError} {chunks : List (List UInt8)}
    {bytes : List UInt8} (hbytes : newline ∉ bytes) (hlimit : bytes.length ≤ limit) :
    Gathered limit ending (bytes ++ chunks.flatten) (gather limit ending bytes chunks) := by
  induction chunks generalizing bytes with
  | nil =>
    rw [gather, List.flatten_nil, List.append_nil]
    exact .ended hlimit hbytes
  | cons chunk chunks ih =>
    rw [gather, List.flatten_cons]
    by_cases hchunk : newline ∈ chunk
    · -- the line ends in this chunk
      have hline : lineOf (bytes ++ (chunk ++ chunks.flatten)) = bytes ++ lineOf chunk := by
        rw [lineOf_append_of_notMem hbytes, lineOf_append_of_mem hchunk]
      rw [if_pos (Or.inr hchunk), ← hline]
      by_cases hlong : limit < (lineOf (bytes ++ (chunk ++ chunks.flatten))).length
      · exact .tooLong hlong hlong
      · refine .line (not_lt.mp hlong) (by simp [hchunk]) ?_
        have hprefix := (lineOf_isPrefix chunk).length_le
        rw [flatten_unread, hline, List.length_append, ← List.drop_drop, List.drop_left,
          List.drop_append_of_le_length hprefix]
    · rw [lineOf_eq_self hchunk]
      have hall : newline ∉ bytes ++ chunk := by simp [hbytes, hchunk]
      by_cases hlong : limit < (bytes ++ chunk).length
      · rw [if_pos (Or.inl hlong)]
        refine .tooLong ?_ hlong
        rw [← List.append_assoc, lineOf_append_of_notMem hall, List.length_append]
        omega
      · rw [if_neg (not_or.mpr ⟨hlong, hchunk⟩), ← List.append_assoc]
        exact ih hall (not_lt.mp hlong)

/-- **The next line is that of the bytes to come**, whatever the chunks are. -/
theorem gathered_readLine (limit : ℕ) (s : Chunks) :
    Gathered limit s.ending s.bytes ((s.readLine limit).1, (s.readLine limit).2.chunks) :=
  @gathered_gather limit s.ending s.chunks [] List.not_mem_nil (Nat.zero_le _)

end Chunks

/-! ### The whole stream -/

/-- The lines of the bytes, each with its newline, the last one perhaps without. -/
def splitLines : List UInt8 → List (List UInt8)
  | [] => []
  | b :: rest =>
    if b = newline then [newline] :: splitLines rest
    else match splitLines rest with
      | [] => [[b]]
      | line :: lines => (b :: line) :: lines

/-- The first line, and the others. -/
theorem splitLines_eq {bytes : List UInt8} (h : bytes ≠ []) :
    splitLines bytes = lineOf bytes :: splitLines (bytes.drop (lineOf bytes).length) := by
  induction bytes with
  | nil => exact absurd rfl h
  | cons b rest ih =>
    rw [splitLines, lineOf]
    split
    · next hb => rfl
    · next hb =>
      rw [List.length_cons, List.drop_succ_cons]
      cases rest with
      | nil => rfl
      | cons c rest => rw [ih (List.cons_ne_nil _ _)]

end Wroid.Lib
