import Wroid.Lib.LineReader

/-!
# Loops of reads

A program reads from a stream into a buffer of limited size until it has seen enough.  One read
gives at most what is left of one chunk, so how far the program reads depends on the chunks.  What
it decides does not, if its decision on some bytes is its decision on all longer ones.

## Main definitions

* `Chunks.read limit` — one read into a buffer.
* `Chunks.readUntil limit stop` — read until `stop` decides.
* `findBytes needle` — where some bytes occur first.

## Main results

* `Chunks.readsUntil_readUntil` — **how a loop of reads ends**, in terms of the bytes to come.
* `findBytes_append`, `lt_of_findBytes_append` — what was found stays, and what was not comes late.
-/

namespace Wroid.Lib

variable {β : Type}

namespace Chunks

/-! ### One read -/

/-- `Read::read` into a buffer of `limit` bytes -/
def read (limit : ℕ) (s : Chunks) : Received × Chunks :=
  match h : s.chunks with
  | [] => (atEnd s.ending [], s)
  | chunk :: rest =>
    (.ok (chunk.take limit),
      ⟨unread (chunk.drop limit) rest, s.ending, nil_notMem_unread fun hmem =>
        s.nonempty (h ▸ List.mem_cons_of_mem chunk hmem)⟩)

theorem read_of_nil {s : Chunks} (h : s.bytes = []) (limit : ℕ) :
    s.read limit = (atEnd s.ending [], s) := by
  have hchunks : s.chunks = [] := by
    cases hs : s.chunks with
    | nil => rfl
    | cons chunk rest =>
      rw [bytes, hs, List.flatten_cons, List.append_eq_nil_iff] at h
      exact absurd (hs ▸ h.1 ▸ List.mem_cons_self) s.nonempty
  unfold read
  split
  · rfl
  · next heq => rw [hchunks] at heq; cases heq

/-- A read gives some of the bytes to come. -/
theorem exists_read {s : Chunks} (h : s.bytes ≠ []) {limit : ℕ} (hlimit : 0 < limit) :
    ∃ part s', s.read limit = (.ok part, s') ∧ part ≠ [] ∧ part.length ≤ limit ∧
      part ++ s'.bytes = s.bytes ∧ s'.ending = s.ending := by
  unfold read
  split
  · next heq => exact absurd (by rw [bytes, heq]; rfl) h
  · next chunk rest heq =>
    have hchunk : chunk ≠ [] := fun hnil => s.nonempty (heq ▸ hnil ▸ List.mem_cons_self)
    refine ⟨_, _, rfl, ?_, List.length_take_le limit chunk, ?_, rfl⟩
    · rw [ne_eq, List.take_eq_nil_iff, not_or]
      exact ⟨hlimit.ne', hchunk⟩
    · rw [bytes, bytes, flatten_unread, heq, List.flatten_cons, ← List.append_assoc,
        List.take_append_drop]

/-- Every read that gives something leaves less. -/
theorem length_bytes_lt_of_read {s s' : Chunks} {limit : ℕ} {part : List UInt8}
    (h : s.read limit = (.ok part, s')) (hpart : part ≠ []) :
    s'.bytes.length < s.bytes.length := by
  have hbytes : s.bytes ≠ [] := by
    intro hnil
    rw [read_of_nil hnil, Prod.mk.injEq] at h
    cases hending : s.ending with
    | none =>
      rw [hending] at h
      exact hpart (Except.ok.inj h.1).symm
    | some error =>
      rw [hending] at h
      cases h.1
  have hlimit : 0 < limit := by
    by_contra hzero
    obtain rfl : limit = 0 := by omega
    unfold read at h
    split at h
    · next heq => exact hbytes (by rw [bytes, heq]; rfl)
    · rw [Prod.mk.injEq] at h
      exact hpart (Except.ok.inj h.1).symm
  obtain ⟨part', s'', hread, -, -, happend, -⟩ := exists_read hbytes hlimit
  rw [h, Prod.mk.injEq] at hread
  obtain ⟨hpart', rfl⟩ := hread
  have hlength := congrArg List.length happend
  rw [← Except.ok.inj hpart', List.length_append] at hlength
  have hpos := List.length_pos_iff.mpr hpart
  omega

/-! ### Many reads -/

/-- How a loop of reads ended: a decision, `none` at the end of the stream, or a failure; what had
been read by then; and what had not. -/
structure Reading (β : Type) where
  outcome : Except IoError (Option β)
  data : List UInt8
  left : Chunks

/-- Read until the bytes are enough for a decision. -/
def readUntil (limit : List UInt8 → ℕ) (stop : List UInt8 → Option β) (data : List UInt8)
    (s : Chunks) : Reading β :=
  match _h : s.read (limit data) with
  | (.error error, s') => ⟨.error error, data, s'⟩
  | (.ok part, s') =>
    if _hpart : part = [] then ⟨.ok none, data, s'⟩
    else match stop (data ++ part) with
      | some decision => ⟨.ok (some decision), data ++ part, s'⟩
      | none => readUntil limit stop (data ++ part) s'
termination_by s.bytes.length
decreasing_by exact length_bytes_lt_of_read _h _hpart

/-- What a loop of reads may end with, where `all` are the bytes of the stream and `Held` holds of
what is read of them: a decision on the first bytes, or the end. -/
inductive ReadsUntil (stop : List UInt8 → Option β) (Held : List UInt8 → Prop)
    (ending : Option IoError) (all : List UInt8) : Reading β → Prop
  | enough {decision : β} {data : List UInt8} {s : Chunks} (hstop : stop data = some decision)
      (hheld : Held data) (hall : data ++ s.bytes = all) (hending : s.ending = ending) :
      ReadsUntil stop Held ending all ⟨.ok (some decision), data, s⟩
  | ended {s : Chunks} (hstop : stop all = none) (hheld : Held all) :
      ReadsUntil stop Held ending all ⟨(atEnd ending []).map fun _ => none, all, s⟩

section ReadUntil

variable {limit : List UInt8 → ℕ} {stop : List UInt8 → Option β} {Held : List UInt8 → Prop}

/-- At the end of the stream nothing more is read. -/
theorem readUntil_of_nil {s : Chunks} (h : s.bytes = []) (data : List UInt8) :
    s.readUntil limit stop data = ⟨(atEnd s.ending []).map fun _ => none, data, s⟩ := by
  have hread := read_of_nil h (limit data)
  rw [readUntil]
  split
  · next error s' heq =>
    rw [hread, Prod.mk.injEq] at heq
    rw [heq.1, heq.2]
    rfl
  · next part s' heq =>
    rw [hread, Prod.mk.injEq] at heq
    have hpart : part = [] := by
      cases hending : s.ending with
      | none =>
        rw [hending] at heq
        exact (Except.ok.inj heq.1).symm
      | some error =>
        rw [hending] at heq
        cases heq.1
    rw [dif_pos hpart, heq.1, heq.2]
    rfl

/-- One pass of the loop. -/
theorem readUntil_of_read {s s' : Chunks} {data part : List UInt8}
    (hread : s.read (limit data) = (.ok part, s')) (hpart : part ≠ []) :
    s.readUntil limit stop data = match stop (data ++ part) with
      | some decision => ⟨.ok (some decision), data ++ part, s'⟩
      | none => s'.readUntil limit stop (data ++ part) := by
  rw [readUntil]
  split
  · next error s'' heq =>
    rw [hread] at heq
    cases heq
  · next part' s'' heq =>
    rw [hread, Prod.mk.injEq] at heq
    obtain ⟨hpart', rfl⟩ := heq
    obtain rfl := Except.ok.inj hpart'
    rw [dif_neg hpart]

/-- **How a loop of reads ends.** -/
theorem readsUntil_readUntil
    (hheld : ∀ data part, Held data → stop data = none → part.length ≤ limit data →
      Held (data ++ part))
    (hlimit : ∀ data, Held data → stop data = none → 0 < limit data) {data : List UInt8}
    {s : Chunks} (hdata : Held data) (hstop : stop data = none) :
    ReadsUntil stop Held s.ending (data ++ s.bytes) (s.readUntil limit stop data) := by
  induction hleft : s.bytes.length using Nat.strong_induction_on generalizing data s with
  | _ left ih =>
  by_cases hbytes : s.bytes = []
  · rw [readUntil_of_nil hbytes, hbytes, List.append_nil]
    exact .ended hstop hdata
  · obtain ⟨part, s', hread, hpart, hle, happend, hending⟩ :=
      exists_read hbytes (hlimit data hdata hstop)
    have hheld' := hheld data part hdata hstop hle
    rw [readUntil_of_read hread hpart, ← happend, ← hending, ← List.append_assoc]
    cases hdecision : stop (data ++ part) with
    | some decision => exact .enough hdecision hheld' rfl rfl
    | none =>
      have hlt := length_bytes_lt_of_read hread hpart
      exact ih _ (by omega) hheld' hdecision rfl

/-- Reads of some size fill a buffer of some length, or the stream ends. -/
theorem readsUntil_fill {length size : ℕ} (hsize : 0 < size) {stop : List UInt8 → Option β}
    (hstop : ∀ data, stop data = none → data.length < length) {data : List UInt8} {s : Chunks}
    (hdata : data.length ≤ length) (hnone : stop data = none) :
    ReadsUntil stop (fun data => data.length ≤ length) s.ending (data ++ s.bytes)
      (s.readUntil (fun data => min (length - data.length) size) stop data) := by
  refine readsUntil_readUntil ?_ ?_ hdata hnone
  · intro data part hle _ hpart
    rw [List.length_append]
    omega
  · intro data _ hdata
    have hlt := hstop data hdata
    omega

/-- A chunk that fits into the buffer is read at once. -/
theorem read_of_length_le {chunk : List UInt8} {chunks : List (List UInt8)}
    {ending : Option IoError} (hnonempty : [] ∉ chunk :: chunks) {size : ℕ}
    (h : chunk.length ≤ size) : read size ⟨chunk :: chunks, ending, hnonempty⟩ =
      (.ok chunk, ⟨chunks, ending, fun hmem => hnonempty (List.mem_cons_of_mem chunk hmem)⟩) := by
  have htake : chunk.take size = chunk := List.take_of_length_le h
  have hdrop : unread (chunk.drop size) chunks = chunks := by
    rw [List.drop_eq_nil_of_le h]
    rfl
  simp only [read, htake, hdrop]

/-- Single bytes are read one after the other, as long as there is no decision. -/
theorem readUntil_bytes {ending : Option IoError} (hlimit : ∀ data, 0 < limit data)
    {first : List UInt8} {chunks : List (List UInt8)} {data : List UInt8}
    (hnonempty : [] ∉ first.map (fun byte => [byte]) ++ chunks) (hchunks : [] ∉ chunks)
    (hstop : ∀ k ≤ first.length, stop (data ++ first.take k) = none) :
    readUntil limit stop data ⟨first.map (fun byte => [byte]) ++ chunks, ending, hnonempty⟩ =
      readUntil limit stop (data ++ first) ⟨chunks, ending, hchunks⟩ := by
  induction first generalizing data with
  | nil => simp only [List.map_nil, List.nil_append, List.append_nil]
  | cons byte first ih =>
    have hrest : [] ∉ first.map (fun byte => [byte]) ++ chunks := by
      intro hmem
      exact hnonempty (List.mem_cons_of_mem [byte] hmem)
    have hread := @read_of_length_le [byte] (first.map (fun byte => [byte]) ++ chunks) ending
      hnonempty (limit data) (hlimit data)
    have hnone : stop (data ++ [byte]) = none := hstop 1 (Nat.succ_le_succ (Nat.zero_le _))
    have hstop' : ∀ k ≤ first.length, stop (data ++ [byte] ++ first.take k) = none := by
      intro k hk
      rw [List.append_assoc]
      exact hstop (k + 1) (Nat.succ_le_succ hk)
    have hstep := @readUntil_of_read _ limit stop _ _ data _ hread (List.cons_ne_nil byte [])
    rw [hnone] at hstep
    simp only at hstep
    rw [ih hrest hstop', List.append_assoc] at hstep
    exact hstep

end ReadUntil

end Chunks

/-! ### Searching -/

/-- `haystack.windows(needle.len()).position(..)` -/
def findBytes (needle : List UInt8) : List UInt8 → Option ℕ
  | [] => if needle = [] then some 0 else none
  | byte :: rest =>
    if needle <+: byte :: rest then some 0 else (findBytes needle rest).map (· + 1)

theorem le_length_of_findBytes {needle bytes : List UInt8} {i : ℕ}
    (h : findBytes needle bytes = some i) : i + needle.length ≤ bytes.length := by
  induction bytes generalizing i with
  | nil =>
    unfold findBytes at h
    split_ifs at h with hneedle
    rw [hneedle, ← Option.some.inj h]
    rfl
  | cons byte bytes ih =>
    unfold findBytes at h
    split_ifs at h with hprefix
    · have hle := hprefix.length_le
      have hi := Option.some.inj h
      omega
    · obtain ⟨j, hj, rfl⟩ := Option.map_eq_some_iff.mp h
      have hle := ih hj
      rw [List.length_cons]
      omega

/-- **What was found stays found.** -/
theorem findBytes_append {needle bytes : List UInt8} {i : ℕ} (h : findBytes needle bytes = some i)
    (rest : List UInt8) : findBytes needle (bytes ++ rest) = some i := by
  induction bytes generalizing i with
  | nil =>
    unfold findBytes at h
    split_ifs at h with hneedle
    rw [← Option.some.inj h, hneedle]
    cases rest with
    | nil => rfl
    | cons byte rest => exact if_pos List.nil_prefix
  | cons byte bytes ih =>
    unfold findBytes at h
    split_ifs at h with hprefix
    · have hmore : needle <+: byte :: (bytes ++ rest) :=
        hprefix.trans (List.prefix_append (byte :: bytes) rest)
      rw [List.cons_append, findBytes, if_pos hmore, h]
    · obtain ⟨j, hj, rfl⟩ := Option.map_eq_some_iff.mp h
      have hle := le_length_of_findBytes hj
      have hlong : ¬ needle <+: byte :: (bytes ++ rest) := by
        intro hmore
        have hlength : needle.length ≤ (byte :: bytes).length := by
          rw [List.length_cons]
          omega
        exact hprefix (List.prefix_of_prefix_length_le hmore (List.prefix_append _ rest) hlength)
      rw [List.cons_append, findBytes, if_neg hlong, ih hj]
      rfl

/-- Nothing is found among bytes that the needle does not begin with. -/
theorem findBytes_append_of_notMem {byte : UInt8} {needle bytes : List UInt8} (h : byte ∉ bytes)
    (rest : List UInt8) : findBytes (byte :: needle) (bytes ++ rest) =
      (findBytes (byte :: needle) rest).map (· + bytes.length) := by
  induction bytes with
  | nil => simp
  | cons b bytes ih =>
    rw [List.mem_cons, not_or] at h
    have hprefix : ¬ byte :: needle <+: b :: (bytes ++ rest) := by
      rw [List.cons_prefix_cons]
      exact fun hhead => h.1 hhead.1
    rw [List.cons_append, findBytes, if_neg hprefix, ih h.2, Option.map_map]
    rfl

/-- What was not found comes late. -/
theorem lt_of_findBytes_append {needle bytes rest : List UInt8} {i : ℕ}
    (hnone : findBytes needle bytes = none) (h : findBytes needle (bytes ++ rest) = some i) :
    bytes.length < i + needle.length := by
  by_contra hle
  have hle' : i + needle.length ≤ bytes.length := by omega
  clear hle
  induction bytes generalizing i with
  | nil =>
    unfold findBytes at hnone
    split_ifs at hnone with hneedle
    have hlength := List.length_pos_iff.mpr hneedle
    rw [List.length_nil] at hle'
    omega
  | cons byte bytes ih =>
    unfold findBytes at hnone
    split_ifs at hnone with hprefix
    rw [Option.map_eq_none_iff] at hnone
    rw [List.cons_append, findBytes] at h
    split_ifs at h with hmore
    · have hlength : needle.length ≤ (byte :: bytes).length := by omega
      exact hprefix (List.prefix_of_prefix_length_le hmore (List.prefix_append _ rest) hlength)
    · obtain ⟨j, hj, rfl⟩ := Option.map_eq_some_iff.mp h
      rw [List.length_cons] at hle'
      exact ih hnone hj (by omega)

end Wroid.Lib
