import Wroid.Cli.Request

/-!
# Requests to the editor

The editor reads a request with one loop for its header section and one for its body, into the same
buffer.  The first loop looks at the size of the whole buffer before it looks for the end of the
header section, so bytes of the body count as well.

## Main definitions

* `readRequest` — the reader of the source.
* `Chunked bytes ending` — the ways a stream may arrive.
* `Agrees` — what is read does not depend on how the stream arrives.

## Main results

* `readRequest_eq` — what is read of a stream that is not refused for its size.
* `readRequest_late` — a way to arrive for which a stream is refused for its size.
* `agrees_iff` — **the streams for which the chunks do not matter**.
-/

namespace Wroid.EditorRequests

open Lib

def MAX_BODY_BYTES : ℕ := 16 * 1024 * 1024

/-- Why a request was not read. -/
inductive RequestError
  | io (error : IoError)
  | refused (message : String)
  deriving DecidableEq

def headersTooLarge : RequestError := .refused "request headers are too large"

/-- What the loop decides on the bytes so far. -/
def headerVerdict (data : List UInt8) : Option (Except RequestError ℕ) :=
  if MAX_HEADER_BYTES < data.length then some (.error headersTooLarge)
  else (headerEnd data).map .ok

def parseRequestLine (line : List Char) : Except RequestError (String × String) :=
  match words line with
  | [] => .error (.refused "missing HTTP method")
  | [_] => .error (.refused "missing HTTP target")
  | [_, _] => .error (.refused "missing HTTP version")
  | method :: target :: version :: _ =>
    if version ≠ "HTTP/1.1".toList ∧ version ≠ "HTTP/1.0".toList then
      .error (.refused "unsupported HTTP version")
    else .ok (.ofList method, .ofList target)

/-- The value of the first header that declares a length. -/
def contentLengthOf (lines : List (List Char)) : Except RequestError ℕ :=
  match (lines.filterMap (splitOnce ':')).find? fun halves => named halves.1 "content-length" with
  | none => .ok 0
  | some (_, value) =>
    match numberOf value with
    | none => .error (.refused "invalid Content-Length")
    | some length => .ok length

/-- The method, the target and the length of the body. -/
def parseHeader (header : List UInt8) : Except RequestError (String × String × ℕ) :=
  match String.fromUTF8? header.toByteArray with
  | none => .error (.refused "request headers are not valid UTF-8")
  | some text =>
    match splitCrlf text.toList with
    | [] => .error (.refused "missing HTTP request line")
    | requestLine :: lines => do
      let (method, target) ← parseRequestLine requestLine
      let contentLength ← contentLengthOf lines
      if MAX_BODY_BYTES < contentLength then .error (.refused "request body is too large")
      else return (method, target, contentLength)

/-- The body, behind a header section of some length in the buffer. -/
def readBody (data : List UInt8) (headerLength : ℕ) (s : Chunks) : Except RequestError Request := do
  let (method, target, contentLength) ← parseHeader (data.take headerLength)
  if contentLength ≤ data.length - headerLength then
    return ⟨method, target, (data.drop headerLength).take contentLength⟩
  else
    let reading := s.readUntil (fun _ => 8192)
      (fun data => if contentLength ≤ data.length - headerLength then some () else none) data
    match reading.outcome with
    | .error error => .error (.io error)
    | .ok none => .error (.refused "connection closed before request body")
    | .ok (some _) => return ⟨method, target, (reading.data.drop headerLength).take contentLength⟩

/-- `timeout` is what the system answers to the time limit. -/
def readRequest (timeout : Except IoError Unit) (s : Chunks) : Except RequestError Request :=
  match setTimeout timeout (some (seconds 5)) with
  | .error error => .error (.io error)
  | .ok _ =>
    let reading := s.readUntil (fun _ => 8192) headerVerdict []
    match reading.outcome with
    | .error error => .error (.io error)
    | .ok none => .error (.refused "connection closed before request headers")
    | .ok (some (.error error)) => .error error
    | .ok (some (.ok headerLength)) => readBody reading.data headerLength reading.left

/-! ### What a whole stream means -/

def endedEarly (ending : Option IoError) (message : String) : RequestError :=
  match ending with
  | none => .refused message
  | some error => .io error

/-- The request behind a header section of some length. -/
def bodyOf (bytes : List UInt8) (headerLength : ℕ) (ending : Option IoError) :
    Except RequestError Request := do
  let (method, target, contentLength) ← parseHeader (bytes.take headerLength)
  if contentLength ≤ bytes.length - headerLength then
    return ⟨method, target, (bytes.drop headerLength).take contentLength⟩
  else .error (endedEarly ending "connection closed before request body")

/-- What is read of a stream whose size is held against its header section alone. -/
def requestOf (bytes : List UInt8) (ending : Option IoError) : Except RequestError Request :=
  match headerEnd bytes with
  | some length =>
    if MAX_HEADER_BYTES < length then .error headersTooLarge else bodyOf bytes length ending
  | none =>
    if MAX_HEADER_BYTES < bytes.length then .error headersTooLarge
    else .error (endedEarly ending "connection closed before request headers")

/-! ### Bodies -/

theorem readBody_eq {data : List UInt8} {headerLength : ℕ} (hle : headerLength ≤ data.length)
    (s : Chunks) : readBody data headerLength s = bodyOf (data ++ s.bytes) headerLength s.ending := by
  unfold readBody bodyOf
  rw [List.take_append_of_le_length hle]
  cases parseHeader (data.take headerLength) with
  | error error => rfl
  | ok head =>
    obtain ⟨method, target, contentLength⟩ := head
    have hall : (data ++ s.bytes).length = data.length + s.bytes.length := List.length_append
    simp only [bind, Except.bind]
    by_cases harrived : contentLength ≤ data.length - headerLength
    · rw [if_pos harrived, if_pos (by omega), List.drop_append_of_le_length hle,
        List.take_append_of_le_length (by rw [List.length_drop]; exact harrived)]
    rw [if_neg harrived]
    have hreads := @Chunks.readsUntil_readUntil _ (fun _ => 8192)
      (fun data => if contentLength ≤ data.length - headerLength then some () else none)
      (fun data => headerLength ≤ data.length)
      (fun data part hlong _ _ => hlong.trans (by simp)) (fun _ _ _ => by decide) data s hle
      (if_neg harrived)
    generalize s.readUntil _ _ data = reading at hreads
    cases hreads with
    | ended hstop hheld =>
      have hshort : ¬ contentLength ≤ (data ++ s.bytes).length - headerLength := by
        intro hlong
        rw [if_pos hlong] at hstop
        cases hstop
      rw [if_neg hshort]
      cases s.ending with
      | none => rfl
      | some error => rfl
    | @enough _ read rest hstop hheld hbytes hending =>
      have hlength : contentLength ≤ read.length - headerLength := by
        by_contra hlt
        rw [if_neg hlt] at hstop
        cases hstop
      have hread : (data ++ s.bytes).length = read.length + rest.bytes.length := by
        rw [← hbytes, List.length_append]
      rw [if_pos (by omega), ← hbytes, List.drop_append_of_le_length hheld,
        List.take_append_of_le_length (by rw [List.length_drop]; exact hlength)]

/-- What is wrong with the text of a header section is not its size. -/
theorem parseHeader_ne_headersTooLarge (header : List UInt8) :
    parseHeader header ≠ .error headersTooLarge := by
  have hother : ∀ {message : String}, message ≠ "request headers are too large" →
      RequestError.refused message ≠ headersTooLarge := by
    intro message hne heq
    exact hne (RequestError.refused.inj heq)
  intro h
  unfold parseHeader at h
  cases htext : String.fromUTF8? header.toByteArray with
  | none =>
    simp only [htext, Except.error.injEq] at h
    exact hother (by decide) h
  | some text =>
    simp only [htext] at h
    cases hlines : splitCrlf text.toList with
    | nil =>
      simp only [hlines, Except.error.injEq] at h
      exact hother (by decide) h
    | cons requestLine lines =>
      simp only [hlines] at h
      cases hrequest : parseRequestLine requestLine with
      | error error =>
        simp only [hrequest, bind, Except.bind, Except.error.injEq] at h
        rw [h] at hrequest
        unfold parseRequestLine at hrequest
        split at hrequest
        · exact hother (by decide) (Except.error.inj hrequest)
        · exact hother (by decide) (Except.error.inj hrequest)
        · exact hother (by decide) (Except.error.inj hrequest)
        · split_ifs at hrequest
          exact hother (by decide) (Except.error.inj hrequest)
      | ok request =>
        cases hlength : contentLengthOf lines with
        | error error =>
          simp only [hrequest, hlength, bind, Except.bind, Except.error.injEq] at h
          rw [h] at hlength
          unfold contentLengthOf at hlength
          split at hlength
          · cases hlength
          · split at hlength
            · exact hother (by decide) (Except.error.inj hlength)
            · cases hlength
        | ok length =>
          simp only [hrequest, hlength, bind, Except.bind] at h
          split_ifs at h
          · exact hother (by decide) (Except.error.inj h)
          · cases h

/-- What is wrong with a body is not the size of the headers. -/
theorem bodyOf_ne_headersTooLarge (bytes : List UInt8) (headerLength : ℕ)
    (ending : Option IoError) : bodyOf bytes headerLength ending ≠ .error headersTooLarge := by
  intro h
  unfold bodyOf at h
  cases hhead : parseHeader (bytes.take headerLength) with
  | error error =>
    simp only [hhead, bind, Except.bind, Except.error.injEq] at h
    rw [h] at hhead
    exact parseHeader_ne_headersTooLarge _ hhead
  | ok head =>
    simp only [hhead, bind, Except.bind] at h
    split_ifs at h
    · cases h
    · cases ending with
      | none =>
        have hmessage := RequestError.refused.inj (Except.error.inj h)
        revert hmessage
        decide
      | some error => cases h

/-! ### Header sections -/

section Header

variable {bytes : List UInt8} {ending : Option IoError}

/-- The header section ends so early, or the stream so soon, that the limit is not reached by
accident. -/
def Unhurried (bytes : List UInt8) : Prop :=
  ∀ length, headerEnd bytes = some length → length ≤ MAX_HEADER_BYTES →
    length + 8191 ≤ MAX_HEADER_BYTES ∨ bytes.length ≤ MAX_HEADER_BYTES

/-- The last read began without a verdict. -/
def ReadFrom (data : List UInt8) : Prop :=
  data = [] ∨ ∃ before part, data = before ++ part ∧ headerVerdict before = none ∧
    part.length ≤ 8192

theorem headerVerdict_eq_none {data : List UInt8} :
    headerVerdict data = none ↔ data.length ≤ MAX_HEADER_BYTES ∧ headerEnd data = none := by
  unfold headerVerdict
  split_ifs with hlarge
  · simp [hlarge]
  · simp [not_lt.mp hlarge]

/-- **What is read of a stream that is not refused for its size.** -/
theorem readRequest_eq {timeout : Except IoError Unit} (htimeout : timeout = .ok ()) {s : Chunks}
    (hunhurried : Unhurried s.bytes) : readRequest timeout s = requestOf s.bytes s.ending := by
  have hreads := @Chunks.readsUntil_readUntil _ (fun _ => 8192) headerVerdict ReadFrom
    (fun data part _ hnone hle => Or.inr ⟨data, part, rfl, hnone, hle⟩) (fun _ _ _ => by decide) []
    s (Or.inl rfl) (by decide)
  rw [List.nil_append] at hreads
  rw [readRequest, setTimeout_pos _ (by decide), htimeout]
  simp only
  generalize s.readUntil (fun _ => 8192) headerVerdict [] = reading at hreads
  unfold requestOf
  cases hreads with
  | ended hstop hheld =>
    obtain ⟨hsmall, hnone⟩ := headerVerdict_eq_none.mp hstop
    rw [hnone]
    simp only [if_neg (not_lt.mpr hsmall)]
    cases s.ending with
    | none => rfl
    | some error => rfl
  | @enough verdict data rest hstop hheld hbytes hending =>
    have hlength := congrArg List.length hbytes
    rw [List.length_append] at hlength
    by_cases hlarge : MAX_HEADER_BYTES < data.length
    · -- the size counted what was read together with the end of the header section
      rw [headerVerdict, if_pos hlarge, Option.some.injEq] at hstop
      rw [← hstop]
      simp only
      cases hend : headerEnd s.bytes with
      | none => simp only [if_pos (show MAX_HEADER_BYTES < s.bytes.length by omega)]
      | some length =>
        have hlate : MAX_HEADER_BYTES < length := by
          by_contra hle
          rcases hheld with hnil | ⟨before, part, happend, hbefore, hpart⟩
          · rw [hnil, List.length_nil] at hlarge
            omega
          · obtain ⟨-, hnone⟩ := headerVerdict_eq_none.mp hbefore
            rw [← hbytes, happend, List.append_assoc] at hend
            have hlt := lt_of_headerEnd_append hnone hend
            rw [← List.append_assoc, ← happend, hbytes] at hend
            have happend' := congrArg List.length happend
            rw [List.length_append] at happend'
            have hreached := hunhurried length hend (by omega)
            omega
        simp only [if_pos hlate]
    · rw [headerVerdict, if_neg hlarge] at hstop
      obtain ⟨length, hend, rfl⟩ := Option.map_eq_some_iff.mp hstop
      have hle := (headerEnd_le hend).2
      have hall := headerEnd_append hend rest.bytes
      rw [hbytes] at hall
      rw [hall]
      simp only [if_neg (show ¬ MAX_HEADER_BYTES < length by omega)]
      rw [readBody_eq hle, hbytes, hending]

/-! ### A stream that arrives late -/

/-- All bytes up to the last one of the header section arrive one by one, and then all others at
once. -/
def lateChunks (bytes : List UInt8) (length : ℕ) (ending : Option IoError)
    (hlength : 0 < length ∧ length ≤ bytes.length) : Chunks where
  chunks := (bytes.take (length - 1)).map (fun byte => [byte]) ++ [bytes.drop (length - 1)]
  ending := ending
  nonempty := by
    have hdrop : bytes.drop (length - 1) ≠ [] := by
      rw [ne_eq, List.drop_eq_nil_iff]
      omega
    intro hmem
    rcases List.mem_append.mp hmem with hmem | hmem
    · obtain ⟨byte, -, hbyte⟩ := List.mem_map.mp hmem
      cases hbyte
    · exact hdrop (List.mem_singleton.mp hmem).symm

theorem bytes_lateChunks {length : ℕ} (hlength : 0 < length ∧ length ≤ bytes.length) :
    (lateChunks bytes length ending hlength).bytes = bytes := by
  have hsingle : ((bytes.take (length - 1)).map fun byte => [byte]).flatten =
      bytes.take (length - 1) := by
    induction bytes.take (length - 1) with
    | nil => rfl
    | cons byte rest ih => rw [List.map_cons, List.flatten_cons, ih]; rfl
  rw [Chunks.bytes, lateChunks, List.flatten_append, hsingle, List.flatten_singleton,
    List.take_append_drop]

/-- **A way to arrive for which a stream is refused for its size.** -/
theorem readRequest_late {timeout : Except IoError Unit} (htimeout : timeout = .ok ()) {length : ℕ}
    (hend : headerEnd bytes = some length) (hle : length ≤ MAX_HEADER_BYTES)
    (hlate : MAX_HEADER_BYTES < length + 8191) (hlong : MAX_HEADER_BYTES < bytes.length)
    (hlength : 0 < length ∧ length ≤ bytes.length) :
    readRequest timeout (lateChunks bytes length ending hlength) = .error headersTooLarge := by
  have hfirst : (bytes.take (length - 1)).length = length - 1 := by
    rw [List.length_take]
    omega
  have hnone : ∀ k ≤ (bytes.take (length - 1)).length,
      headerVerdict ([] ++ (bytes.take (length - 1)).take k) = none := by
    intro k hk
    rw [List.nil_append, List.take_take, min_eq_left (by omega), headerVerdict_eq_none]
    have htake : (bytes.take k).length = k := by
      rw [List.length_take]
      omega
    refine ⟨by omega, ?_⟩
    cases hearly : headerEnd (bytes.take k) with
    | none => rfl
    | some early =>
      have hwhole := headerEnd_append hearly (bytes.drop k)
      rw [List.take_append_drop, hend, Option.some.injEq] at hwhole
      have hbound := (headerEnd_le hearly).2
      omega
  have hchunk : bytes.drop (length - 1) ≠ [] := by
    rw [ne_eq, List.drop_eq_nil_iff]
    omega
  have hrest : [] ∉ [bytes.drop (length - 1)] := by
    rw [List.mem_singleton]
    exact fun hnil => hchunk hnil.symm
  have hpart : (bytes.drop (length - 1)).take 8192 ≠ [] := by
    rw [ne_eq, List.take_eq_nil_iff, not_or]
    exact ⟨by decide, hchunk⟩
  have hverdict : headerVerdict (bytes.take (length - 1) ++ (bytes.drop (length - 1)).take 8192) =
      some (.error headersTooLarge) := by
    rw [headerVerdict, if_pos]
    rw [List.length_append, hfirst, List.length_take, List.length_drop]
    omega
  have hstep := @Chunks.readUntil_of_read _ (fun _ => 8192) headerVerdict
    ⟨[bytes.drop (length - 1)], ending, hrest⟩ _ (bytes.take (length - 1)) _ rfl hpart
  rw [hverdict] at hstep
  have hbytes := @Chunks.readUntil_bytes _ (fun _ => 8192) headerVerdict ending
    (fun _ => by decide) (bytes.take (length - 1)) [bytes.drop (length - 1)] []
    (lateChunks bytes length ending hlength).nonempty hrest hnone
  rw [List.nil_append, hstep] at hbytes
  rw [readRequest, setTimeout_pos _ (by decide), htimeout]
  simp only [lateChunks]
  rw [hbytes]

end Header

/-! ### The chunks do not matter -/

/-- However the stream arrives, the same request is read or none is, and a header section within
the limit is not refused for its size. -/
def Agrees (timeout : Except IoError Unit) (bytes : List UInt8) (ending : Option IoError) : Prop :=
  (∀ s s' : Chunks, s.bytes = bytes → s.ending = ending → s'.bytes = bytes → s'.ending = ending →
    ∀ request, readRequest timeout s = .ok request ↔ readRequest timeout s' = .ok request) ∧
  ∀ length, headerEnd bytes = some length → length ≤ MAX_HEADER_BYTES → ∀ s : Chunks,
    s.bytes = bytes → s.ending = ending → readRequest timeout s ≠ .error headersTooLarge

theorem agrees_of_timeout (error : IoError) (bytes : List UInt8) (ending : Option IoError) :
    Agrees (.error error) bytes ending := by
  have hread : ∀ s, readRequest (.error error) s = .error (.io error) := by
    intro s
    rw [readRequest, setTimeout_pos _ (by decide)]
  constructor
  · intro s s' _ _ _ _ request
    rw [hread, hread]
  · intro _ _ _ s _ _
    rw [hread]
    simp [headersTooLarge]

/-- What is read of an unhurried stream is what the stream means. -/
theorem agrees_of_unhurried {bytes : List UInt8} (ending : Option IoError) (h : Unhurried bytes) :
    Agrees (.ok ()) bytes ending := by
  constructor
  · rintro s s' rfl rfl hbytes hending request
    rw [readRequest_eq rfl h, readRequest_eq rfl (hbytes ▸ h), hbytes, hending]
  · rintro length hend hle s rfl rfl
    rw [readRequest_eq rfl h, requestOf, hend]
    simp only [if_neg (not_lt.mpr hle)]
    exact bodyOf_ne_headersTooLarge _ _ _

/-- **The streams for which the chunks do not matter.** -/
theorem agrees_iff (timeout : Except IoError Unit) (bytes : List UInt8) (ending : Option IoError) :
    Agrees timeout bytes ending ↔ (∃ error, timeout = .error error) ∨ Unhurried bytes := by
  cases timeout with
  | error error => exact ⟨fun _ => Or.inl ⟨error, rfl⟩, fun _ => agrees_of_timeout error bytes ending⟩
  | ok _ =>
    constructor
    · intro h
      right
      intro length hend hle
      by_contra hhurried
      rw [not_or, not_le, not_le] at hhurried
      have hbounds := headerEnd_le hend
      have hlength : 0 < length ∧ length ≤ bytes.length := ⟨by omega, hbounds.2⟩
      exact h.2 length hend hle (lateChunks bytes length ending hlength) (bytes_lateChunks hlength)
        rfl (readRequest_late rfl hend hle hhurried.1 hhurried.2 hlength)
    · intro h
      rcases h with ⟨error, herror⟩ | h
      · cases herror
      · exact agrees_of_unhurried ending h

/-- A request with a long target and a body of one byte. -/
def longRequest : List UInt8 :=
  ("PUT /".toUTF8.toList ++ List.replicate 32731 97 ++ " HTTP/1.1".toUTF8.toList) ++ (13 :: 10 ::
    ("Content-Length: 1".toUTF8.toList ++ (HEADER_TERMINATOR ++ [98])))

theorem headerEnd_longRequest : headerEnd longRequest = some MAX_HEADER_BYTES := by
  have hput : (13 : UInt8) ∉ "PUT /".toUTF8.toList := by decide +kernel
  have hversion : (13 : UInt8) ∉ " HTTP/1.1".toUTF8.toList := by decide +kernel
  have hreturn : (13 : UInt8) ∉ "PUT /".toUTF8.toList ++ List.replicate 32731 97 ++
      " HTTP/1.1".toUTF8.toList := by
    simp only [List.mem_append, List.mem_replicate, not_or]
    exact ⟨⟨hput, by decide⟩, hversion⟩
  have hrest : findBytes HEADER_TERMINATOR (13 :: 10 ::
      ("Content-Length: 1".toUTF8.toList ++ (HEADER_TERMINATOR ++ [98]))) = some 19 := by
    decide +kernel
  have hlength : ("PUT /".toUTF8.toList ++ List.replicate 32731 97 ++
      " HTTP/1.1".toUTF8.toList).length = 32745 := by
    have hput : "PUT /".toUTF8.toList.length = 5 := by decide +kernel
    have hversion : " HTTP/1.1".toUTF8.toList.length = 9 := by decide +kernel
    rw [List.length_append, List.length_append, List.length_replicate, hput, hversion]
  have hfound := @findBytes_append_of_notMem 13 [10, 13, 10] _ hreturn (13 :: 10 ::
    ("Content-Length: 1".toUTF8.toList ++ (HEADER_TERMINATOR ++ [98])))
  rw [← HEADER_TERMINATOR, hrest, Option.map_some, hlength] at hfound
  rw [headerEnd, longRequest, hfound]
  rfl

theorem length_longRequest : longRequest.length = MAX_HEADER_BYTES + 1 := by
  have hput : "PUT /".toUTF8.toList.length = 5 := by decide +kernel
  have hversion : " HTTP/1.1".toUTF8.toList.length = 9 := by decide +kernel
  have hdeclared : "Content-Length: 1".toUTF8.toList.length = 17 := by decide +kernel
  rw [longRequest]
  simp only [List.length_append, List.length_cons, List.length_replicate, hput, hversion,
    hdeclared]
  rfl

/-- The body counts as a part of the headers. -/
theorem longRequest_is_refused : headerEnd longRequest = some MAX_HEADER_BYTES ∧
    readRequest (.ok ()) (lateChunks longRequest MAX_HEADER_BYTES none
      ⟨by decide, (headerEnd_le headerEnd_longRequest).2⟩) = .error headersTooLarge := by
  refine ⟨headerEnd_longRequest, ?_⟩
  exact readRequest_late rfl headerEnd_longRequest le_rfl (by decide)
    (by rw [length_longRequest]; exact Nat.lt_succ_self _) _

end Wroid.EditorRequests
