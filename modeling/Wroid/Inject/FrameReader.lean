import Wroid.Inject.BridgeBroker
import Wroid.Lib.JsonReader
import Wroid.Lib.LineReader

/-!
# The frames of the bridge broker

Both sides of the bridge protocol read frames with the same function: a frame is a line, and a
line is not longer than a limit.  The function gathers a line from whatever chunks the reads of the
socket deliver.  An error frame carries the words of an error, cut to a number of characters.

## Main definitions

* `ResponseFrame.json`, `jsonCodec` — the frames of the broker as they are printed.
* `decodeResponseFrame` — how the client reads them.
* `readFrame`, `readFrames` — read the next frame, and frames until the end or an error.
* `framesOf` — the frames of the lines of a stream.

## Main results

* `readFrames_eq` — what is read does not depend on the chunks.
* `readFrameUntil_eq` — the loop of the broker reads the same frame, if no deadline expires.
* `decodeResponseFrame_json` — the client gets the frame that was sent.
* `error_frames_and_reading` — **every error frame fits, is one line and is read back, and reading
  frames in chunks is cutting the stream at its newlines**.
-/

namespace Wroid

open Lib

namespace BridgeBroker

/-! ### Reading frames -/

section Reading

variable {α : Type} (decode : List UInt8 → Except String α)

def oversizedFrame : IoError := ⟨.invalidData, "invalid or oversized bridge protocol frame"⟩

/-- What the bytes of a line amount to. -/
def frameOf (bytes : List UInt8) : Except IoError (Option α) :=
  if bytes = [] then .ok none
  else if bytes.length > MAX_BRIDGE_FRAME_BYTES ∨ bytes.getLast? ≠ some newline then
    .error oversizedFrame
  else match decode bytes.dropLast with
    | .error detail => .error ⟨.invalidData, detail⟩
    | .ok frame => .ok (some frame)

/-- `read_frame_until`, where no deadline expires. -/
def readFrame (s : Chunks) : Except IoError (Option α) × Chunks :=
  let line := s.readLine MAX_BRIDGE_FRAME_BYTES
  match line.1 with
  | .error error => (.error error, line.2)
  | .ok bytes => (frameOf decode bytes, line.2)

/-- Read frames until the end of the stream or an error, in so many passes. -/
def readFrames : ℕ → Chunks → Option (List α × Except IoError Unit)
  | 0, _ => none
  | fuel + 1, s =>
    match readFrame decode s with
    | (.error error, _) => some ([], .error error)
    | (.ok none, _) => some ([], .ok ())
    | (.ok (some frame), s) =>
      (readFrames fuel s).map fun (frames, result) => (frame :: frames, result)

/-- The frames of the lines of a stream that ends so. -/
def framesOf (ending : Option IoError) : List (List UInt8) → List α × Except IoError Unit
  | [] => ([], match ending with
    | none => .ok ()
    | some error => .error error)
  | line :: lines =>
    if line.length > MAX_BRIDGE_FRAME_BYTES then ([], .error oversizedFrame)
    else if line.getLast? ≠ some newline then ([], .error (ending.getD oversizedFrame))
    else match decode line.dropLast with
      | .error detail => ([], .error ⟨.invalidData, detail⟩)
      | .ok frame =>
        let (frames, result) := framesOf ending lines
        (frame :: frames, result)

/-- A line that ends within the limit is read, and what follows it stays. -/
theorem readFrame_line {s : Chunks} (hnewline : newline ∈ s.bytes)
    (hlimit : (lineOf s.bytes).length ≤ MAX_BRIDGE_FRAME_BYTES) :
    ∃ rest, readFrame decode s = (frameOf decode (lineOf s.bytes), rest) ∧
      rest.bytes = s.bytes.drop (lineOf s.bytes).length ∧ rest.ending = s.ending := by
  have h := Chunks.gathered_readLine MAX_BRIDGE_FRAME_BYTES s
  generalize hline : (s.readLine MAX_BRIDGE_FRAME_BYTES).1 = line at h
  generalize hchunks : (s.readLine MAX_BRIDGE_FRAME_BYTES).2.chunks = chunks at h
  refine ⟨(s.readLine MAX_BRIDGE_FRAME_BYTES).2, ?_⟩
  cases h with
  | line _ _ hrest =>
    refine ⟨by rw [readFrame, hline], ?_, rfl⟩
    rw [Chunks.bytes, hchunks, hrest]
  | tooLong hlong => omega
  | ended _ hnone => exact absurd hnewline hnone

/-- A line that is too long is refused, wherever the chunks end. -/
theorem readFrame_tooLong {s : Chunks}
    (hlong : MAX_BRIDGE_FRAME_BYTES < (lineOf s.bytes).length) :
    (readFrame decode s).1 = .error oversizedFrame := by
  have h := Chunks.gathered_readLine MAX_BRIDGE_FRAME_BYTES s
  generalize hline : (s.readLine MAX_BRIDGE_FRAME_BYTES).1 = line at h
  generalize hchunks : (s.readLine MAX_BRIDGE_FRAME_BYTES).2.chunks = chunks at h
  cases h with
  | line hlimit => omega
  | @tooLong part _ _ hpart =>
    have hne : part ≠ [] := by
      rintro rfl
      exact absurd hpart (Nat.not_lt_zero _)
    rw [readFrame, hline]
    exact (if_neg hne).trans (if_pos (Or.inl hpart))
  | ended hlimit hnone =>
    rw [lineOf_eq_self hnone] at hlong
    omega

/-- Without another newline the stream ends. -/
theorem readFrame_ended {s : Chunks} (hnone : newline ∉ s.bytes)
    (hlimit : s.bytes.length ≤ MAX_BRIDGE_FRAME_BYTES) :
    (readFrame decode s).1 = match s.ending with
      | some error => .error error
      | none => if s.bytes = [] then .ok none else .error oversizedFrame := by
  have h := Chunks.gathered_readLine MAX_BRIDGE_FRAME_BYTES s
  generalize hline : (s.readLine MAX_BRIDGE_FRAME_BYTES).1 = line at h
  generalize hchunks : (s.readLine MAX_BRIDGE_FRAME_BYTES).2.chunks = chunks at h
  cases h with
  | line _ hnewline => exact absurd hnewline hnone
  | tooLong hlong =>
    rw [lineOf_eq_self hnone] at hlong
    omega
  | ended =>
    rw [readFrame, hline]
    cases s.ending with
    | some error => rfl
    | none =>
      have hlast : s.bytes.getLast? ≠ some newline := fun h => hnone (List.mem_of_getLast? h)
      change frameOf decode s.bytes = _
      rw [frameOf, if_pos (Or.inr hlast)]

/-- **The frames that are read are those of the lines of the whole stream**, whatever the chunks
are; one pass more than there are bytes is enough. -/
theorem readFrames_eq {fuel : ℕ} {s : Chunks} (hfuel : s.bytes.length < fuel) :
    readFrames decode fuel s = some (framesOf decode s.ending (splitLines s.bytes)) := by
  induction fuel generalizing s with
  | zero => exact absurd hfuel (Nat.not_lt_zero _)
  | succ fuel ih =>
    rw [readFrames]
    by_cases hlong : MAX_BRIDGE_FRAME_BYTES < (lineOf s.bytes).length
    · have hne : s.bytes ≠ [] := by
        intro hnil
        rw [hnil] at hlong
        exact absurd hlong (Nat.not_lt_zero _)
      have hframe := readFrame_tooLong decode hlong
      rw [splitLines_eq hne, framesOf, if_pos hlong]
      generalize readFrame decode s = result at hframe ⊢
      obtain ⟨frame, rest⟩ := result
      rw [show frame = .error oversizedFrame from hframe]
    by_cases hnewline : newline ∈ s.bytes
    · have hne : s.bytes ≠ [] := List.ne_nil_of_mem hnewline
      have hline : lineOf s.bytes ≠ [] := mt lineOf_eq_nil.mp hne
      have hlast := getLast?_lineOf.mpr hnewline
      obtain ⟨rest, hframe, hrest, hending⟩ :=
        readFrame_line decode hnewline (not_lt.mp hlong)
      rw [hframe, splitLines_eq hne, framesOf, if_neg hlong, if_neg (not_not.mpr hlast), frameOf,
        if_neg hline, if_neg (not_or.mpr ⟨hlong, not_not.mpr hlast⟩)]
      cases decode (lineOf s.bytes).dropLast with
      | error detail => rfl
      | ok frame =>
        have hpos : 0 < (lineOf s.bytes).length := List.length_pos_iff.mpr hline
        have hle := (lineOf_isPrefix s.bytes).length_le
        have hless : rest.bytes.length < fuel := by
          rw [hrest, List.length_drop]
          omega
        have hmore := ih hless
        rw [hrest, hending] at hmore
        simp only [hmore, Option.map_some]
    · have hself := lineOf_eq_self hnewline
      rw [hself] at hlong
      have hframe := readFrame_ended decode hnewline (not_lt.mp hlong)
      generalize readFrame decode s = result at hframe ⊢
      obtain ⟨frame, rest⟩ := result
      dsimp only at hframe
      subst hframe
      by_cases hnil : s.bytes = []
      · rw [hnil, if_pos rfl, splitLines]
        cases s.ending <;> rfl
      · have hlast : s.bytes.getLast? ≠ some newline :=
          fun h => hnewline (List.mem_of_getLast? h)
        rw [splitLines_eq hnil, hself, framesOf, if_neg hlong, if_pos hlast, if_neg hnil]
        cases s.ending <;> rfl

end Reading

/-! ### The loop of the broker -/

/-- The position of the first newline, as the loop looks for it. -/
theorem findIdx?_newline (bytes : List UInt8) :
    (bytes.findIdx? (· == newline)).elim bytes.length (· + 1) = (lineOf bytes).length ∧
      ((bytes.findIdx? (· == newline)).isSome = true ↔ newline ∈ bytes) := by
  induction bytes with
  | nil => exact ⟨rfl, by simp⟩
  | cons b bytes ih =>
    obtain ⟨hcount, hsome⟩ := ih
    rw [List.findIdx?_cons, lineOf]
    by_cases hb : b = newline
    · subst hb
      exact ⟨rfl, by simp⟩
    · have hb' : (b == newline) = false := beq_false_of_ne hb
      rw [if_neg hb, hb']
      constructor
      · rw [List.length_cons, List.length_cons, ← hcount]
        cases bytes.findIdx? (· == newline) <;> rfl
      · rw [List.mem_cons, or_iff_right (Ne.symm hb), ← hsome]
        cases bytes.findIdx? (· == newline) <;> rfl

/-- The deadline has not come when the pass begins, and the limit on the read can be set. -/
structure Pass.InTime (deadline : Option ℕ) (pass : Pass) : Prop where
  now : ∀ time ∈ deadline, pass.now < time
  configured : pass.configured = .ok ()

/-- The reads of the passes deliver the chunks, and then the end. -/
inductive Delivers (deadline : Option ℕ) (ending : Option IoError) :
    List (List UInt8) → List Pass → Prop
  | chunk {pass : Pass} {chunk : List UInt8} {chunks : List (List UInt8)} {passes : List Pass}
      (htime : pass.InTime deadline) (hreceived : pass.received = .ok chunk)
      (hmore : Delivers deadline ending chunks passes) :
      Delivers deadline ending (chunk :: chunks) (pass :: passes)
  | ended {pass : Pass} {passes : List Pass} (htime : pass.InTime deadline)
      (hreceived : pass.received = Chunks.atEnd ending []) :
      Delivers deadline ending [] (pass :: passes)

section Loop

variable {codec : Codec} {deadline : Option ℕ} {ending : Option IoError} {b : Broker}

/-- In time, a pass gets as far as its read. -/
theorem exists_readTimeout {pass : Pass} (htime : pass.InTime deadline) :
    ∃ timeout, readTimeout deadline pass.now = .ok timeout ∧
      setTimeout pass.configured timeout = .ok () := by
  obtain ⟨hnow, hconfigured⟩ := htime
  cases deadline with
  | none => exact ⟨none, rfl, hconfigured⟩
  | some time =>
    have hlt := hnow time rfl
    refine ⟨some (time - pass.now), if_pos hlt.le, ?_⟩
    rw [setTimeout_pos _ (by omega), hconfigured]

/-- A pass that finds bytes takes those of the line, and goes on unless that is enough. -/
theorem readFrameUntil_available {pass : Pass} {passes : List Pass} {available : List UInt8}
    (htime : pass.InTime deadline) (hne : available ≠ [])
    (hfill : fillBuf pass.received b = .ok (.ok available) { b with buffered := available })
    (bytes : List UInt8) :
    readFrameUntil codec deadline bytes (pass :: passes) b =
      if MAX_BRIDGE_FRAME_BYTES < (bytes ++ lineOf available).length ∨ newline ∈ available then
        .ok (finishFrame codec (bytes ++ lineOf available))
          { b with buffered := available.drop (lineOf available).length }
      else readFrameUntil codec deadline (bytes ++ lineOf available) passes
        { b with buffered := available.drop (lineOf available).length } := by
  obtain ⟨timeout, hread, hset⟩ := exists_readTimeout htime
  obtain ⟨hcount, hsome⟩ := findIdx?_newline available
  have htake : available.take (lineOf available).length = lineOf available :=
    (List.prefix_iff_eq_take.mp (lineOf_isPrefix available)).symm
  rw [readFrameUntil, hread]
  simp only [hset, bind, EStateM.bind, hfill, if_neg hne, hcount, htake, hsome, gt_iff_lt]
  by_cases henough : MAX_BRIDGE_FRAME_BYTES < (bytes ++ lineOf available).length ∨
      newline ∈ available
  · simp only [if_pos henough]
    rfl
  · simp only [if_neg henough]
    rfl

theorem fillBuf_buffered (received : Received) (h : b.buffered ≠ []) :
    fillBuf received b = .ok (.ok b.buffered) b := by
  simp only [fillBuf, bind, EStateM.bind, get, getThe, MonadStateOf.get, EStateM.get]
  rw [if_pos h]
  rfl

theorem fillBuf_received (received : Received) (h : b.buffered = []) :
    fillBuf received b = match received with
      | .error e => .ok (.error e) b
      | .ok bytes => .ok (.ok bytes) { b with buffered := bytes } := by
  simp only [fillBuf, bind, EStateM.bind, get, getThe, MonadStateOf.get, EStateM.get]
  rw [if_neg (not_not.mpr h)]
  cases received <;> rfl

/-- At the end of the stream the loop is left. -/
theorem readFrameUntil_atEnd {pass : Pass} {passes : List Pass} (htime : pass.InTime deadline)
    (hbuffered : b.buffered = []) (hreceived : pass.received = Chunks.atEnd ending [])
    (bytes : List UInt8) :
    readFrameUntil codec deadline bytes (pass :: passes) b =
      .ok ((Chunks.atEnd ending bytes).bind (finishFrame codec)) b := by
  obtain ⟨timeout, hread, hset⟩ := exists_readTimeout htime
  rw [readFrameUntil, hread, hreceived]
  cases ending with
  | some error =>
    have hfill : fillBuf (.error error) b = .ok (.error error) b := fillBuf_received _ hbuffered
    simp only [hset, bind, EStateM.bind, Chunks.atEnd, hfill]
    rfl
  | none =>
    have hself : { b with buffered := [] } = b := by rw [← hbuffered]
    have hfill : fillBuf (.ok []) b = .ok (.ok []) b :=
      (fillBuf_received _ hbuffered).trans (congrArg _ hself)
    simp only [hset, bind, EStateM.bind, Chunks.atEnd, hfill]
    rfl

/-- **The loop of the broker gathers the chunks its reads deliver.** -/
theorem readFrameUntil_gather {chunks : List (List UInt8)} {passes : List Pass}
    (hdelivers : Delivers deadline ending chunks passes) (hchunks : [] ∉ chunks)
    (hbuffered : b.buffered = []) (bytes : List UInt8) :
    ∃ buffered rest, Chunks.unread buffered rest =
        (Chunks.gather MAX_BRIDGE_FRAME_BYTES ending bytes chunks).2 ∧
      readFrameUntil codec deadline bytes passes b =
        .ok ((Chunks.gather MAX_BRIDGE_FRAME_BYTES ending bytes chunks).1.bind (finishFrame codec))
          { b with buffered := buffered } := by
  induction hdelivers generalizing bytes b with
  | ended htime hreceived =>
    refine ⟨[], [], rfl, ?_⟩
    rw [readFrameUntil_atEnd htime hbuffered hreceived, ← hbuffered]
    rfl
  | @chunk pass available chunks passes htime hreceived _ ih =>
    have hne : available ≠ [] := fun h => hchunks (h ▸ List.mem_cons_self)
    have hfill : fillBuf pass.received b = .ok (.ok available) { b with buffered := available } := by
      rw [fillBuf_received _ hbuffered, hreceived]
    rw [Chunks.gather, readFrameUntil_available htime hne hfill]
    split
    · exact ⟨_, _, rfl, rfl⟩
    · next hmore =>
      have hnone : newline ∉ available := (not_or.mp hmore).2
      rw [lineOf_eq_self hnone, List.drop_length]
      obtain ⟨buffered, rest, hrest, hread⟩ := ih
        (fun h => hchunks (List.mem_cons_of_mem _ h)) (b := { b with buffered := [] }) rfl
        (bytes ++ available)
      exact ⟨buffered, rest, hrest, hread⟩

/-- The passes find the rest of the buffer, if there is one, and then the chunks. -/
inductive DeliversAfter (deadline : Option ℕ) (ending : Option IoError) (buffered : List UInt8)
    (chunks : List (List UInt8)) : List Pass → Prop
  | read {passes : List Pass} (hbuffered : buffered = [])
      (hmore : Delivers deadline ending chunks passes) :
      DeliversAfter deadline ending buffered chunks passes
  | buffer {pass : Pass} {passes : List Pass} (hbuffered : buffered ≠ [])
      (htime : pass.InTime deadline) (hmore : Delivers deadline ending chunks passes) :
      DeliversAfter deadline ending buffered chunks (pass :: passes)

theorem finishFrame_eq (codec : Codec) : finishFrame codec = frameOf codec.decode := by
  funext bytes
  rw [finishFrame, frameOf]
  cases codec.decode bytes.dropLast <;> rfl

theorem readFrame_eq (codec : Codec) (s : Chunks) :
    (readFrame codec.decode s).1 =
      (Chunks.gather MAX_BRIDGE_FRAME_BYTES s.ending [] s.chunks).1.bind (finishFrame codec) ∧
    (readFrame codec.decode s).2.chunks =
      (Chunks.gather MAX_BRIDGE_FRAME_BYTES s.ending [] s.chunks).2 := by
  rw [readFrame, Chunks.readLine, finishFrame_eq]
  cases (Chunks.gather MAX_BRIDGE_FRAME_BYTES s.ending [] s.chunks).1 <;> exact ⟨rfl, rfl⟩

/-- **In time, the loop of the broker reads the frame that `readFrame` reads**, and leaves the
same bytes behind. -/
theorem readFrameUntil_eq {s : Chunks} {chunks : List (List UInt8)} {passes : List Pass}
    (hs : s.chunks = Chunks.unread b.buffered chunks)
    (hdelivers : DeliversAfter deadline s.ending b.buffered chunks passes) :
    ∃ buffered rest, Chunks.unread buffered rest = (readFrame codec.decode s).2.chunks ∧
      readFrameUntil codec deadline [] passes b =
        .ok (readFrame codec.decode s).1 { b with buffered := buffered } := by
  obtain ⟨hframe, hrest⟩ := readFrame_eq codec s
  rw [hframe, hrest]
  have hnonempty := s.nonempty
  cases hdelivers with
  | read hbuffered hmore =>
    rw [hbuffered, Chunks.unread, if_pos rfl] at hs
    rw [hs] at hnonempty ⊢
    exact readFrameUntil_gather hmore hnonempty hbuffered []
  | buffer hbuffered htime hmore =>
    rw [Chunks.unread, if_neg hbuffered] at hs
    rw [hs] at hnonempty ⊢
    rw [Chunks.gather, readFrameUntil_available htime hbuffered (fillBuf_buffered _ hbuffered),
      List.nil_append]
    split
    · exact ⟨_, _, rfl, rfl⟩
    · next hnot =>
      rw [lineOf_eq_self (not_or.mp hnot).2, List.drop_length]
      have hchunks : [] ∉ chunks := fun h => hnonempty (List.mem_cons_of_mem _ h)
      exact @readFrameUntil_gather codec deadline s.ending { b with buffered := [] } chunks _ hmore
        hchunks rfl b.buffered

end Loop

/-! ### Frames of the broker -/

def responseFields : BridgeResponse → List (String × List Char)
  | .opened => [("result", jsonString "opened")]
  | .androidInputReady => [("result", jsonString "android_input_ready")]
  | .finished => [("result", jsonString "finished")]
  | .error code detail =>
    [("result", jsonString "error"),
      ("data", jsonObject [("code", jsonString code), ("detail", jsonString detail)])]

def ResponseFrame.json (frame : ResponseFrame) : List Char :=
  jsonObject (("protocolVersion", jsonNat frame.protocolVersion) :: responseFields frame.response)

/-- The JSON library prints the frames of the broker so, and reads requests somehow. -/
def jsonCodec (decode : List UInt8 → Except String RequestFrame) : Codec where
  decode := decode
  encode := fun frame => .ok (utf8Bytes frame.json)

/-- The only field of the name. -/
def uniqueField (name : String) (fields : List (String × Json)) : Option Json :=
  match fields.filter (·.1 = name) with
  | [field] => some field.2
  | _ => none

/-- The field of the name, if there is one; there must not be two. -/
def optionalField (name : String) (fields : List (String × Json)) : Option (Option Json) :=
  match fields.filter (·.1 = name) with
  | [] => some none
  | [field] => some (some field.2)
  | _ => none

def unsigned32 : Json → Option ℕ
  | .number literal => parseUnsigned 4294967295 (.ofList literal)
  | _ => none

def stringOf : Json → Option String
  | .string text => some text
  | _ => none

/-- The content of a response without content. -/
def noData : Option Json → Option Unit
  | none | some .null => some ()
  | _ => none

/-- A response by its tag and its content. -/
def responseOf (fields : List (String × Json)) : Option BridgeResponse := do
  let result ← (uniqueField "result" fields).bind stringOf
  let data ← optionalField "data" fields
  match result, data with
  | "opened", data => (noData data).map fun () => .opened
  | "android_input_ready", data => (noData data).map fun () => .androidInputReady
  | "finished", data => (noData data).map fun () => .finished
  | "error", some (.object fields) => do
    let code ← (uniqueField "code" fields).bind stringOf
    let detail ← (uniqueField "detail" fields).bind stringOf
    return .error code detail
  | _, _ => none

def responseFrameOf : Json → Option ResponseFrame
  | .object fields => do
    let protocolVersion ← (uniqueField "protocolVersion" fields).bind unsigned32
    let response ← responseOf fields
    return { protocolVersion, response }
  | _ => none

/-- How the client reads a response, in the form it is documented to have. -/
def decodeResponseFrame (bytes : List UInt8) : Except String ResponseFrame :=
  match (String.fromUTF8? bytes.toByteArray).bind fun text =>
      (parseJson text.toList).bind responseFrameOf with
  | some frame => .ok frame
  | none => .error "invalid response frame"

/-! ### The client reads what the broker sends -/

theorem reads_responseFields (response : BridgeResponse) : ∃ fields,
    FieldsRead 2 (responseFields response) fields ∧
      (∀ field ∈ fields, field.1 ≠ "protocolVersion") ∧
      ∀ version, responseOf (("protocolVersion", version) :: fields) = some response := by
  have htag : ∀ tag : String, FieldsRead 2 [("result", jsonString tag)] [("result", .string tag)] :=
    fun tag => .cons ⟨rfl, (Reads.string tag).mono (by decide)⟩ .nil
  cases response with
  | opened => exact ⟨_, htag "opened", by simp, fun version => by
      simp [responseOf, uniqueField, optionalField, stringOf, noData]⟩
  | androidInputReady => exact ⟨_, htag "android_input_ready", by simp, fun version => by
      simp [responseOf, uniqueField, optionalField, stringOf, noData]⟩
  | finished => exact ⟨_, htag "finished", by simp, fun version => by
      simp [responseOf, uniqueField, optionalField, stringOf, noData]⟩
  | error code detail =>
    have hdata : FieldsRead 1 [("code", jsonString code), ("detail", jsonString detail)]
        [("code", .string code), ("detail", .string detail)] :=
      .cons ⟨rfl, Reads.string code⟩ (.cons ⟨rfl, Reads.string detail⟩ .nil)
    have hobject := Reads.object hdata (List.cons_ne_nil _ _) Nat.one_pos
    refine ⟨[("result", .string "error"),
      ("data", .object [("code", .string code), ("detail", .string detail)])], ?_, by simp, ?_⟩
    · exact .cons ⟨rfl, (Reads.string "error").mono (by decide)⟩ (.cons ⟨rfl, hobject⟩ .nil)
    · intro version
      simp [responseOf, uniqueField, optionalField, stringOf]

/-- **The client reads the frame that was sent.** -/
theorem decodeResponseFrame_json {frame : ResponseFrame} (h : frame.protocolVersion ≤ 4294967295) :
    decodeResponseFrame (utf8Bytes frame.json) = .ok frame := by
  obtain ⟨fields, hfields, hother, hresponse⟩ := reads_responseFields frame.response
  have hread : Reads 3 frame.json
      (.object (("protocolVersion", .number (jsonNat frame.protocolVersion)) :: fields)) := by
    refine Reads.object (List.Forall₂.cons ⟨rfl, ?_⟩ hfields) (List.cons_ne_nil _ _) (by decide)
    exact (Reads.nat frame.protocolVersion).mono (by decide)
  have hversion : uniqueField "protocolVersion"
      (("protocolVersion", .number (jsonNat frame.protocolVersion)) :: fields) =
        some (.number (jsonNat frame.protocolVersion)) := by
    have hnone : fields.filter (·.1 = "protocolVersion") = [] := by
      rw [List.filter_eq_nil_iff]
      simpa using hother
    rw [uniqueField, List.filter_cons_of_pos (by simp), hnone]
  rw [decodeResponseFrame, fromUTF8?_utf8Bytes, Option.bind_some, String.toList_ofList,
    parseJson_eq hread (by decide), Option.bind_some, responseFrameOf, hversion]
  simp only [Option.bind_some, unsigned32, parseUnsigned_jsonNat h, hresponse,
    Option.bind_eq_bind, Option.pure_def]

/-! ### Error frames -/

/-- The codes of the errors the broker reports. -/
def ERROR_CODES : List String :=
  ["invalid_frame", "version_mismatch", "invalid_event_node", "helper_start_failed",
    "android_verify_failed", "helper_finish_failed", "invalid_state"]

/-- The frame of an error, its words cut. -/
def errorFrame (code detail : String) : ResponseFrame :=
  ⟨BRIDGE_PROTOCOL_VERSION, .error code (.ofList (detail.toList.take MAX_ERROR_DETAIL_CHARS))⟩

theorem utf8Size_errorFrame (code detail : String) :
    utf8Size (errorFrame code detail).json =
      escapedSize code + escapedSize (.ofList (detail.toList.take MAX_ERROR_DETAIL_CHARS)) + 69 := by
  have hversion : utf8Size (jsonNat BRIDGE_PROTOCOL_VERSION) = 1 := by decide +kernel
  have hnames : escapedSize "protocolVersion" = 15 ∧ escapedSize "result" = 6 ∧
      escapedSize "error" = 5 ∧ escapedSize "data" = 4 ∧ escapedSize "code" = 4 ∧
      escapedSize "detail" = 6 := by decide +kernel
  obtain ⟨h₁, h₂, h₃, h₄, h₅, h₆⟩ := hnames
  simp only [errorFrame, ResponseFrame.json, responseFields, utf8Size_jsonObject, List.map_cons,
    List.map_nil, List.sum_cons, List.sum_nil, List.length_cons, List.length_nil,
    utf8Size_jsonString, hversion, h₁, h₂, h₃, h₄, h₅, h₆]
  omega

theorem escapedSize_le_of_mem : ∀ code ∈ ERROR_CODES, escapedSize code ≤ 21 := by decide +kernel

theorem escapedSize_take_le (detail : String) :
    escapedSize (.ofList (detail.toList.take MAX_ERROR_DETAIL_CHARS)) ≤ 6 * MAX_ERROR_DETAIL_CHARS := by
  refine (escapedSize_le _).trans (Nat.mul_le_mul_left 6 ?_)
  rw [String.toList_ofList]
  exact List.length_take_le _ _

theorem newline_notMem_errorFrame (code detail : String) :
    '\n' ∉ (errorFrame code detail).json := by
  have hversion : '\n' ∉ jsonNat BRIDGE_PROTOCOL_VERSION := by decide +kernel
  have hdata : '\n' ∉ jsonObject [("code", jsonString code),
      ("detail", jsonString (.ofList (detail.toList.take MAX_ERROR_DETAIL_CHARS)))] :=
    newline_notMem_jsonObject (by simp [newline_notMem_jsonString])
  exact newline_notMem_jsonObject (by
    simp [errorFrame, responseFields, newline_notMem_jsonString, hversion, hdata])

/-- A frame that fits is read, wherever the chunks end, and what follows it stays. -/
theorem readFrame_frame {α : Type} {decode : List UInt8 → Except String α} {word : List UInt8}
    {frame : α} {s : Chunks} (hword : newline ∉ word)
    (hlimit : (word ++ [newline]).length ≤ MAX_BRIDGE_FRAME_BYTES) (hdecode : decode word = .ok frame)
    (hs : word ++ [newline] <+: s.bytes) :
    ∃ rest, readFrame decode s = (.ok (some frame), rest) ∧
      s.bytes = word ++ [newline] ++ rest.bytes := by
  obtain ⟨more, hmore⟩ := hs
  have hline : lineOf s.bytes = word ++ [newline] := by
    rw [← hmore, List.append_assoc, List.singleton_append, lineOf_append_newline hword]
  have hnewline : newline ∈ s.bytes := by
    rw [← hmore]
    simp
  obtain ⟨rest, hread, hrest, -⟩ := readFrame_line decode hnewline (by rwa [hline])
  rw [hline] at hread hrest
  refine ⟨rest, ?_, ?_⟩
  · have hne : word ++ [newline] ≠ [] := List.append_ne_nil_of_right_ne_nil _ (List.cons_ne_nil _ _)
    have hok : ¬ ((word ++ [newline]).length > MAX_BRIDGE_FRAME_BYTES ∨
        (word ++ [newline]).getLast? ≠ some newline) :=
      not_or.mpr ⟨not_lt.mpr hlimit, not_not.mpr List.getLast?_concat⟩
    rw [hread, frameOf, if_neg hne, if_neg hok, List.dropLast_concat, hdecode]
  · rw [hrest, ← hmore, List.drop_left]

/-- **Every error is sent in a frame that fits, is one line and is read back by the client; and
whatever the chunks are, the frames that are read are those of the lines of the whole stream, as
the loop of the broker reads them.** -/
theorem error_frames_and_reading (decode : List UInt8 → Except String RequestFrame) :
    (∀ code ∈ ERROR_CODES, ∀ (detail : String) (turn : BrokerTurn) (b : Broker),
      let frame := errorFrame code detail
      let bytes := utf8Bytes frame.json ++ [newline]
      writeError (jsonCodec decode) turn code detail b =
        .ok turn.writeResult { b with sent := b.sent ++ [frame] } ∧
      bytes.length ≤ MAX_BRIDGE_FRAME_BYTES ∧ newline ∉ utf8Bytes frame.json ∧
      ∀ s : Chunks, bytes <+: s.bytes → ∃ rest,
        readFrame decodeResponseFrame s = (.ok (some frame), rest) ∧
          s.bytes = bytes ++ rest.bytes) ∧
    (∀ {α : Type} (decode : List UInt8 → Except String α) (s : Chunks) (fuel : ℕ),
      s.bytes.length < fuel →
      readFrames decode fuel s = some (framesOf decode s.ending (splitLines s.bytes))) ∧
    (∀ {codec : Codec} {deadline : Option ℕ} {b : Broker} {s : Chunks} {chunks : List (List UInt8)}
      {passes : List Pass}, s.chunks = Chunks.unread b.buffered chunks →
      DeliversAfter deadline s.ending b.buffered chunks passes →
      ∃ buffered rest, Chunks.unread buffered rest = (readFrame codec.decode s).2.chunks ∧
        readFrameUntil codec deadline [] passes b =
          .ok (readFrame codec.decode s).1 { b with buffered := buffered }) := by
  refine ⟨?_, fun decode s fuel hfuel => readFrames_eq decode hfuel,
    fun hs hdelivers => readFrameUntil_eq hs hdelivers⟩
  intro code hcode detail turn b frame bytes
  have hfits : bytes.length ≤ MAX_BRIDGE_FRAME_BYTES := by
    have hsize := utf8Size_errorFrame code detail
    have hcode := escapedSize_le_of_mem code hcode
    have hdetail := escapedSize_take_le detail
    rw [show MAX_ERROR_DETAIL_CHARS = 512 from rfl] at hdetail hsize
    rw [show bytes = utf8Bytes frame.json ++ [newline] from rfl, List.length_append,
      length_utf8Bytes, hsize, show MAX_BRIDGE_FRAME_BYTES = 4096 from rfl, List.length_singleton]
    omega
  have hline : newline ∉ utf8Bytes frame.json :=
    newline_not_mem_utf8Bytes (newline_notMem_errorFrame code detail)
  refine ⟨?_, hfits, hline, fun s hs => ?_⟩
  · have hnot : ¬ (utf8Bytes frame.json ++ [newline]).length > MAX_BRIDGE_FRAME_BYTES :=
      not_lt.mpr hfits
    change writeFrame (jsonCodec decode) turn frame b = _
    simp only [writeFrame, jsonCodec, if_neg hnot]
    rfl
  · refine readFrame_frame hline hfits (decodeResponseFrame_json ?_) hs
    exact (by decide : BRIDGE_PROTOCOL_VERSION ≤ 4294967295)

end BridgeBroker

end Wroid
