import Wroid.Cli.Request
import Wroid.Lib.Fallible

/-!
# Requests to the hub

The hub reads the header section of a request first, and then either its body or a package that is
uploaded.  Some of the body may have arrived with the header section.

The file system answers every call as it likes, but always the same; the disk has room for some
bytes of the package.

## Main definitions

* `readRequestHead`, `readBoundedBody`, `stageApkUpload` — the readers of the source.
* `requestHeadOf`, `requestOf`, `uploadOf` — what a stream as a whole means.

## Main results

* `readRequestHead_eq` — what the first reader leaves to the other ones.
* `requests_by_stream` — **what is read is determined by the stream**, and what is accepted is
  what the header section declares.
-/

namespace Wroid.HubRequests

open Lib

def MAX_BODY_BYTES : ℕ := 2 * 1024 * 1024
def MAX_APK_BYTES : ℕ := 4 * 1024 * 1024 * 1024

/-! ### The header section -/

structure RequestHead where
  method : String
  target : String
  contentLength : Option ℕ
  initialBody : List UInt8

/-- What the loop decides on the bytes so far. -/
def headerVerdict (data : List UInt8) : Option (Except String ℕ) :=
  match headerEnd data with
  | some length =>
    if MAX_HEADER_BYTES < length then some (.error "request headers are too large")
    else some (.ok length)
  | none =>
    if MAX_HEADER_BYTES < data.length then some (.error "request headers are too large") else none

def parseRequestLine (line : List Char) : Except String (String × String) :=
  match words line with
  | [] => .error "missing HTTP method"
  | [_] => .error "missing HTTP target"
  | [_, _] => .error "missing HTTP version"
  | method :: target :: version :: more =>
    if more ≠ [] then .error "invalid HTTP request line"
    else if version ≠ "HTTP/1.1".toList ∧ version ≠ "HTTP/1.0".toList then
      .error "unsupported HTTP version"
    else .ok (.ofList method, .ofList target)

/-- The header lines, with the length that was declared before. -/
def readHeaderLines : Option ℕ → List (List Char) → Except String (Option ℕ)
  | contentLength, [] => .ok contentLength
  | contentLength, line :: rest =>
    match splitOnce ':' line with
    | none => .error "malformed HTTP request header"
    | some (name, value) =>
      if named name "content-length" then
        if contentLength.isSome then .error "duplicate Content-Length is not supported"
        else match numberOf value with
          | none => .error "invalid Content-Length"
          | some length =>
            if named name "transfer-encoding" then .error "Transfer-Encoding is not supported"
            else readHeaderLines (some length) rest
      else if named name "transfer-encoding" then .error "Transfer-Encoding is not supported"
      else readHeaderLines contentLength rest

/-- The header lines of a header section. -/
def headerLines (text : List Char) : List (List Char) := (splitCrlf text).tail.filter (· ≠ [])

def parseRequestHead (header initialBody : List UInt8) : Except String RequestHead :=
  match String.fromUTF8? header.toByteArray with
  | none => .error "request headers are not valid UTF-8"
  | some text =>
    match (splitCrlf text.toList).head? with
    | none => .error "missing HTTP request line"
    | some requestLine => do
      let (method, target) ← parseRequestLine requestLine
      let contentLength ← readHeaderLines none (headerLines text.toList)
      return { method, target, contentLength, initialBody }

/-- The head of a request, and the stream behind the bytes that were read for it. -/
def readRequestHead (s : Chunks) : Except String RequestHead × Chunks :=
  let reading := s.readUntil (fun _ => 8192) headerVerdict []
  match reading.outcome with
  | .error error => (.error error.detail, reading.left)
  | .ok none => (.error "connection closed before request headers", reading.left)
  | .ok (some (.error message)) => (.error message, reading.left)
  | .ok (some (.ok length)) =>
    (parseRequestHead (reading.data.take length) (reading.data.drop length), reading.left)

/-! ### The body -/

def readBoundedBody (head : RequestHead) (s : Chunks) (maxBodyBytes : ℕ) : Except String Request :=
  let contentLength := head.contentLength.getD 0
  if maxBodyBytes < contentLength then .error "request body is too large"
  else if contentLength ≤ head.initialBody.length then
    .ok ⟨head.method, head.target, head.initialBody.take contentLength⟩
  else
    let reading := s.readUntil (fun body => min (contentLength - body.length) 8192)
      (fun body => if contentLength ≤ body.length then some () else none) head.initialBody
    match reading.outcome with
    | .error error => .error error.detail
    | .ok none => .error "connection closed before request body"
    | .ok (some _) => .ok ⟨head.method, head.target, reading.data.take contentLength⟩

def readRequest (s : Chunks) : Except String Request :=
  match readRequestHead s with
  | (.error message, _) => .error message
  | (.ok head, rest) => readBoundedBody head rest MAX_BODY_BYTES

/-! ### Uploads -/

def validateApkUploadLength : Option ℕ → Except String ℕ
  | none => .error "APK upload requires Content-Length"
  | some length =>
    if length = 0 then .error "APK upload is empty"
    else if MAX_APK_BYTES < length then .error "APK upload is too large (maximum 4 GiB)"
    else .ok length

def isValidSideloadTicket (ticket : String) : Bool :=
  utf8Size ticket.toList = 48 &&
    ticket.toList.all fun c => c.isDigit || 'a' ≤ c && c ≤ 'f'

inductive FileKind
  | directory
  | symlink
  | other
  deriving DecidableEq

/-- What the file system answers, and the room on the disk. -/
structure UploadHost where
  createDirectory : Except IoError Unit
  inspectDirectory : Except IoError FileKind
  secureDirectory : Except IoError Unit
  resolveDirectory : Except IoError String
  openTemporary : Except IoError Unit
  secureTemporary : Except IoError Unit
  room : ℕ
  full : IoError
  flush : Except IoError Unit
  sync : Except IoError Unit
  link : Except IoError Unit
  remove : Except IoError Unit

/-- The two files of a ticket that an upload is about. -/
structure UploadFiles where
  temporary : Option (List UInt8)
  artifact : Option (List UInt8)

def secureSideloadDirectory (host : UploadHost) (directory : String) : Except String String := do
  withContext s!"failed to create sideload directory {directory}" host.createDirectory
  let kind ← withContext s!"failed to inspect sideload directory {directory}" host.inspectDirectory
  if kind ≠ .directory then
    .error s!"sideload path is not a private directory: {directory}"
  else do
    withContext s!"failed to secure sideload directory {directory}" host.secureDirectory
    withContext s!"failed to resolve sideload directory {directory}" host.resolveDirectory

/-- How writing the package to its file ends, and what the file holds then. -/
def receiveApk (host : UploadHost) (length : ℕ) (initialBody : List UInt8) (s : Chunks) :
    Except String Unit × List UInt8 :=
  let initial := initialBody.take length
  if host.room < initial.length then (.error host.full.detail, initial.take host.room)
  else if length ≤ initial.length then (.ok (), initial)
  else
    let reading := s.readUntil (fun file => min (length - file.length) (64 * 1024))
      (fun file =>
        if host.room < file.length then some (.error host.full.detail)
        else if length ≤ file.length then some (.ok ()) else none) initial
    match reading.outcome with
    | .error _ => (.error "failed while reading APK upload", reading.data)
    | .ok none => (.error "connection closed before APK upload completed", reading.data)
    | .ok (some result) => (result, reading.data.take host.room)

/-- `create_new` -/
def createTemporary (host : UploadHost) (temporary : String) :
    EStateM String UploadFiles Unit := do
  if (← get).temporary.isSome then throw s!"failed to create APK upload {temporary}"
  ofAnswer (withContext s!"failed to create APK upload {temporary}" host.openTemporary)
  modify fun files => { files with temporary := some [] }

/-- `fs::hard_link`, which does not replace a file. -/
def publishArtifact (host : UploadHost) (artifact : String) : EStateM String UploadFiles Unit := do
  if (← get).artifact.isSome then throw s!"failed to publish APK upload {artifact}"
  ofAnswer (withContext s!"failed to publish APK upload {artifact}" host.link)
  modify fun files => { files with artifact := files.temporary }

/-- What is done with the package in its temporary file. -/
def uploadArtifact (host : UploadHost) (temporary artifact : String)
    (received : Except String Unit × List UInt8) : EStateM String UploadFiles String := do
  createTemporary host temporary
  ofAnswer (plainly host.secureTemporary)
  modify fun files => { files with temporary := some received.2 }
  ofAnswer received.1
  ofAnswer (plainly host.flush)
  ofAnswer (plainly host.sync)
  publishArtifact host artifact
  ofAnswer (plainly host.remove)
  modify fun files => { files with temporary := none }
  return artifact

/-- `received` says how receiving some length of bytes ends. -/
def stageReceived (host : UploadHost) (contentLength : Option ℕ)
    (received : ℕ → Except String Unit × List UInt8) (directory ticket : String)
    (files : UploadFiles) : Except String String × UploadFiles :=
  match validateApkUploadLength contentLength with
  | .error message => (.error message, files)
  | .ok length =>
    if isValidSideloadTicket ticket = false then (.error "invalid sideload ticket", files)
    else match secureSideloadDirectory host directory with
      | .error message => (.error message, files)
      | .ok directory =>
        match uploadArtifact host s!"{directory}/{ticket}.upload" s!"{directory}/{ticket}.apk"
            (received length) files with
        | .ok artifact files => (.ok artifact, files)
        | .error message files =>
          -- the temporary file is removed, if it can be
          match host.remove with
          | .ok _ => (.error message, { files with temporary := none })
          | .error _ => (.error message, files)

def stageApkUpload (host : UploadHost) (head : RequestHead) (s : Chunks)
    (directory ticket : String) (files : UploadFiles) : Except String String × UploadFiles :=
  stageReceived host head.contentLength (fun length => receiveApk host length head.initialBody s)
    directory ticket files

def receiveUpload (host : UploadHost) (s : Chunks) (directory ticket : String)
    (files : UploadFiles) : Except String String × UploadFiles :=
  match readRequestHead s with
  | (.error message, _) => (.error message, files)
  | (.ok head, rest) => stageApkUpload host head rest directory ticket files

/-! ### What a whole stream means -/

/-- The head of a request, with everything behind the header section. -/
def requestHeadOf (bytes : List UInt8) (ending : Option IoError) : Except String RequestHead :=
  match headerVerdict bytes with
  | some (.ok length) => parseRequestHead (bytes.take length) (bytes.drop length)
  | some (.error message) => .error message
  | none => .error (endedEarly ending "connection closed before request headers")

def boundedBodyOf (head : RequestHead) (ending : Option IoError) (maxBodyBytes : ℕ) :
    Except String Request :=
  let contentLength := head.contentLength.getD 0
  if maxBodyBytes < contentLength then .error "request body is too large"
  else if contentLength ≤ head.initialBody.length then
    .ok ⟨head.method, head.target, head.initialBody.take contentLength⟩
  else .error (endedEarly ending "connection closed before request body")

def requestOf (bytes : List UInt8) (ending : Option IoError) : Except String Request := do
  boundedBodyOf (← requestHeadOf bytes ending) ending MAX_BODY_BYTES

def receivedOf (host : UploadHost) (length : ℕ) (body : List UInt8) (ending : Option IoError) :
    Except String Unit × List UInt8 :=
  if host.room < min length body.length then (.error host.full.detail, body.take host.room)
  else if length ≤ body.length then (.ok (), body.take length)
  else match ending with
    | none => (.error "connection closed before APK upload completed", body)
    | some _ => (.error "failed while reading APK upload", body)

def uploadOf (host : UploadHost) (bytes : List UInt8) (ending : Option IoError)
    (directory ticket : String) (files : UploadFiles) : Except String String × UploadFiles :=
  match requestHeadOf bytes ending with
  | .error message => (.error message, files)
  | .ok head =>
    stageReceived host head.contentLength
      (fun length => receivedOf host length head.initialBody ending) directory ticket files

/-! ### The head does not depend on the chunks -/

/-- A verdict on some bytes stands. -/
theorem headerVerdict_append {data : List UInt8} {verdict : Except String ℕ}
    (h : headerVerdict data = some verdict) (rest : List UInt8) :
    headerVerdict (data ++ rest) = some verdict := by
  unfold headerVerdict at h ⊢
  cases hdata : headerEnd data with
  | some length =>
    rw [hdata] at h
    rw [headerEnd_append hdata]
    exact h
  | none =>
    rw [hdata] at h
    simp only at h
    split_ifs at h with hlong
    cases hall : headerEnd (data ++ rest) with
    | none =>
      have hmore : MAX_HEADER_BYTES < (data ++ rest).length := by
        rw [List.length_append]
        omega
      simp only [if_pos hmore, h]
    | some length =>
      have hlt := lt_of_headerEnd_append hdata hall
      have hmore : MAX_HEADER_BYTES < length := by omega
      simp only [if_pos hmore, h]

/-- The bytes behind the header section are only kept. -/
theorem parseRequestHead_eq (header body : List UInt8) : parseRequestHead header body =
    (parseRequestHead header []).map fun head => { head with initialBody := body } := by
  unfold parseRequestHead
  cases String.fromUTF8? header.toByteArray with
  | none => rfl
  | some text =>
    simp only
    cases (splitCrlf text.toList).head? with
    | none => rfl
    | some requestLine =>
      simp only
      cases parseRequestLine requestLine with
      | error message => rfl
      | ok line =>
        cases readHeaderLines none (headerLines text.toList) with
        | error message => rfl
        | ok contentLength => rfl

/-- **What the first reader leaves to the other ones.** -/
theorem readRequestHead_eq (s : Chunks) :
    (∃ message rest, readRequestHead s = (.error message, rest) ∧
      requestHeadOf s.bytes s.ending = .error message) ∨
    ∃ head rest, readRequestHead s = (.ok head, rest) ∧ rest.ending = s.ending ∧
      requestHeadOf s.bytes s.ending =
        .ok { head with initialBody := head.initialBody ++ rest.bytes } := by
  have hreads := @Chunks.readsUntil_readUntil _ (fun _ => 8192) headerVerdict (fun _ => True)
    (fun _ _ _ _ _ => trivial) (fun _ _ _ => by decide) [] s trivial (by decide)
  rw [List.nil_append] at hreads
  unfold readRequestHead requestHeadOf
  simp only
  generalize s.readUntil (fun _ => 8192) headerVerdict [] = reading at hreads
  cases hreads with
  | ended hstop hheld =>
    left
    cases hending : s.ending with
    | none => exact ⟨_, _, rfl, by rw [hstop]; rfl⟩
    | some error => exact ⟨_, _, rfl, by rw [hstop]; rfl⟩
  | @enough verdict data rest hstop hheld hall hending =>
    have hverdict := headerVerdict_append hstop rest.bytes
    rw [hall] at hverdict
    rw [hverdict]
    cases verdict with
    | error message => exact Or.inl ⟨_, _, rfl, rfl⟩
    | ok length =>
      have hle : length ≤ data.length := by
        unfold headerVerdict at hstop
        cases hend : headerEnd data with
        | none => simp [hend] at hstop
        | some length' =>
          simp only [hend] at hstop
          split_ifs at hstop
          · cases hstop
          · cases hstop
            exact (headerEnd_le hend).2
      have htake : s.bytes.take length = data.take length := by
        rw [← hall, List.take_append_of_le_length hle]
      have hdrop : s.bytes.drop length = data.drop length ++ rest.bytes := by
        rw [← hall, List.drop_append_of_le_length hle]
      simp only [htake, hdrop]
      rw [parseRequestHead_eq _ (data.drop length), parseRequestHead_eq _ (data.drop length ++ _)]
      cases parseRequestHead (data.take length) [] with
      | error message => exact Or.inl ⟨_, _, rfl, rfl⟩
      | ok head => exact Or.inr ⟨_, _, rfl, hending, rfl⟩

/-! ### The rest does not depend on the chunks -/

/-- What is read of a body that has not arrived as a whole. -/
theorem readBoundedBody_eq (head : RequestHead) (s : Chunks) (maxBodyBytes : ℕ) :
    readBoundedBody head s maxBodyBytes =
      boundedBodyOf { head with initialBody := head.initialBody ++ s.bytes } s.ending
        maxBodyBytes := by
  unfold readBoundedBody boundedBodyOf
  simp only
  generalize head.contentLength.getD 0 = length
  by_cases hlarge : maxBodyBytes < length
  · rw [if_pos hlarge, if_pos hlarge]
  rw [if_neg hlarge, if_neg hlarge]
  by_cases harrived : length ≤ head.initialBody.length
  · have hall : length ≤ (head.initialBody ++ s.bytes).length := by
      rw [List.length_append]
      omega
    rw [if_pos harrived, if_pos hall, List.take_append_of_le_length harrived]
  rw [if_neg harrived]
  have hreads := @Chunks.readsUntil_fill _ length 8192 (by decide)
    (fun body => if length ≤ body.length then some () else none)
    (fun data hnone => by by_contra hle; simp [not_lt.mp hle] at hnone) head.initialBody s
    (by omega) (if_neg harrived)
  generalize s.readUntil _ _ head.initialBody = reading at hreads
  cases hreads with
  | ended hstop hheld =>
    have hshort : ¬ length ≤ (head.initialBody ++ s.bytes).length := by
      intro hle
      rw [if_pos hle] at hstop
      cases hstop
    rw [if_neg hshort]
    cases s.ending with
    | none => rfl
    | some error => rfl
  | @enough _ data rest hstop hheld hall hending =>
    have hlength : length ≤ data.length := by
      by_contra hlt
      rw [if_neg hlt] at hstop
      cases hstop
    have hlong : length ≤ (head.initialBody ++ s.bytes).length := by
      rw [← hall, List.length_append]
      omega
    rw [if_pos hlong, ← hall, List.take_append_of_le_length hlength]

theorem readRequest_eq (s : Chunks) : readRequest s = requestOf s.bytes s.ending := by
  unfold readRequest requestOf
  rcases readRequestHead_eq s with ⟨message, rest, hread, hhead⟩ | ⟨head, rest, hread, hending, hhead⟩
  · rw [hread, hhead]
    rfl
  · rw [hread, hhead]
    simp only
    rw [readBoundedBody_eq, hending]
    rfl

/-- What is received of a package. -/
theorem receiveApk_eq (host : UploadHost) (length : ℕ) (initialBody : List UInt8) (s : Chunks) :
    receiveApk host length initialBody s =
      receivedOf host length (initialBody ++ s.bytes) s.ending := by
  have hinitial : (initialBody.take length).length = min length initialBody.length :=
    List.length_take
  have hall : (initialBody ++ s.bytes).length = initialBody.length + s.bytes.length :=
    List.length_append
  unfold receiveApk receivedOf
  simp only
  by_cases hfull : host.room < (initialBody.take length).length
  · rw [if_pos hfull, if_pos (by omega), List.take_take,
      List.take_append_of_le_length (by omega), min_eq_left (by omega)]
  rw [if_neg hfull]
  by_cases harrived : length ≤ (initialBody.take length).length
  · rw [if_pos harrived, if_neg (by omega), if_pos (by omega),
      List.take_append_of_le_length (by omega)]
  rw [if_neg harrived]
  have hwhole : initialBody.take length = initialBody := List.take_of_length_le (by omega)
  rw [hwhole] at hfull harrived ⊢
  have hreads := @Chunks.readsUntil_fill _ length (64 * 1024) (by decide)
    (fun file => if host.room < file.length then some (.error host.full.detail)
      else if length ≤ file.length then some (.ok ()) else (none : Option (Except String Unit)))
    (fun data hnone => by
      by_contra hle
      rw [if_pos (not_lt.mp hle)] at hnone
      split_ifs at hnone) initialBody s (by omega)
    (by rw [if_neg hfull, if_neg harrived])
  generalize s.readUntil _ _ initialBody = reading at hreads
  cases hreads with
  | ended hstop hheld =>
    split_ifs at hstop with hroom hlong
    rw [if_neg (by omega), if_neg hlong]
    cases s.ending with
    | none => rfl
    | some error => rfl
  | @enough result data rest hstop hheld hbytes hending =>
    have hlength := congrArg List.length hbytes
    rw [List.length_append] at hlength
    simp only
    split_ifs at hstop with hroom hlong
    · cases hstop
      rw [if_pos (by omega), ← hbytes, List.take_append_of_le_length hroom.le]
    · cases hstop
      rw [if_neg (by omega), if_pos (by omega), ← hbytes, List.take_append_of_le_length hlong,
        List.take_of_length_le (by omega), List.take_of_length_le hheld]

theorem receiveUpload_eq (host : UploadHost) (s : Chunks) (directory ticket : String)
    (files : UploadFiles) : receiveUpload host s directory ticket files =
      uploadOf host s.bytes s.ending directory ticket files := by
  unfold receiveUpload uploadOf
  rcases readRequestHead_eq s with ⟨message, rest, hread, hhead⟩ | ⟨head, rest, hread, hending, hhead⟩
  · rw [hread, hhead]
  · rw [hread, hhead]
    simp only [stageApkUpload, receiveApk_eq, hending]

/-! ### What is accepted -/

/-- The length a header section declares. -/
def declaredLength (lines : List (List Char)) : Option ℕ :=
  (lines.find? (isHeader "content-length")).bind fun line =>
    (splitOnce ':' line).bind fun halves => numberOf halves.2

/-- The bytes are a header section of a lawful size, a body of the length it declares, and whatever
follows. -/
def Frames (bytes body : List UInt8) : Prop :=
  ∃ header rest text, bytes = header ++ rest ∧ headerEnd bytes = some header.length ∧
    header.length ≤ MAX_HEADER_BYTES ∧ String.fromUTF8? header.toByteArray = some text ∧
    (headerLines text.toList).countP (isHeader "content-length") ≤ 1 ∧
    (∀ line ∈ headerLines text.toList, isHeader "transfer-encoding" line = false) ∧
    (declaredLength (headerLines text.toList)).getD 0 ≤ rest.length ∧
    body = rest.take ((declaredLength (headerLines text.toList)).getD 0)

/-- **What the header lines of an accepted request are.** -/
theorem readHeaderLines_eq_ok {lines : List (List Char)} {before declared : Option ℕ}
    (h : readHeaderLines before lines = .ok declared) :
    (∀ line ∈ lines, isHeader "transfer-encoding" line = false) ∧
      lines.countP (isHeader "content-length") + before.toList.length ≤ 1 ∧
      declared = before.or (declaredLength lines) := by
  induction lines generalizing before with
  | nil =>
    obtain rfl := Except.ok.inj h
    cases before with
    | none => simp [declaredLength]
    | some length => simp
  | cons line lines ih =>
    unfold readHeaderLines at h
    cases hsplit : splitOnce ':' line with
    | none => simp [hsplit] at h
    | some halves =>
      obtain ⟨name, value⟩ := halves
      have hheader : ∀ wanted, isHeader wanted line = named name wanted := by
        intro wanted
        rw [isHeader, hsplit, Option.any_some]
      simp only [hsplit] at h
      by_cases hlength : named name "content-length" = true
      · by_cases hsome : before.isSome = true
        · simp [hlength, hsome] at h
        rw [if_pos hlength, if_neg hsome] at h
        cases hnumber : numberOf value with
        | none => simp [hnumber] at h
        | some length =>
          simp only [hnumber] at h
          by_cases hencoding : named name "transfer-encoding" = true
          · simp [hencoding] at h
          rw [if_neg hencoding] at h
          obtain ⟨hlines, hcount, hdeclared⟩ := ih h
          obtain rfl : before = none := by simpa using hsome
          rw [Bool.not_eq_true] at hencoding
          have hfound : declaredLength (line :: lines) = some length := by
            rw [declaredLength, List.find?_cons, hheader, hlength]
            simp [hsplit, hnumber]
          refine ⟨?_, ?_, ?_⟩
          · simp only [List.forall_mem_cons]
            exact ⟨(hheader _).trans hencoding, hlines⟩
          · rw [List.countP_cons, hheader, hlength]
            simpa using hcount
          · rw [hdeclared, hfound]
            rfl
      · rw [if_neg hlength] at h
        split_ifs at h with hencoding
        obtain ⟨hlines, hcount, hdeclared⟩ := ih h
        rw [Bool.not_eq_true] at hencoding hlength
        have hfound : declaredLength (line :: lines) = declaredLength lines := by
          rw [declaredLength, List.find?_cons, hheader, hlength, ← declaredLength]
        refine ⟨?_, ?_, ?_⟩
        · simp only [List.forall_mem_cons]
          exact ⟨(hheader _).trans hencoding, hlines⟩
        · rw [List.countP_cons, hheader, hlength]
          simpa using hcount
        · rw [hdeclared, hfound]

/-- What an accepted head says about the stream. -/
theorem exists_of_requestHeadOf {bytes : List UInt8} {ending : Option IoError} {head : RequestHead}
    (h : requestHeadOf bytes ending = .ok head) :
    ∃ header text, bytes = header ++ head.initialBody ∧ headerEnd bytes = some header.length ∧
      header.length ≤ MAX_HEADER_BYTES ∧ String.fromUTF8? header.toByteArray = some text ∧
      (headerLines text.toList).countP (isHeader "content-length") ≤ 1 ∧
      (∀ line ∈ headerLines text.toList, isHeader "transfer-encoding" line = false) ∧
      head.contentLength = declaredLength (headerLines text.toList) := by
  unfold requestHeadOf headerVerdict at h
  cases hend : headerEnd bytes with
  | none =>
    simp only [hend] at h
    split_ifs at h
  | some length =>
    simp only [hend] at h
    by_cases hlarge : MAX_HEADER_BYTES < length
    · simp [hlarge] at h
    simp only [if_neg hlarge] at h
    have hle := (headerEnd_le hend).2
    have hlength : (bytes.take length).length = length := by
      rw [List.length_take]
      omega
    unfold parseRequestHead at h
    cases htext : String.fromUTF8? (bytes.take length).toByteArray with
    | none => simp [htext] at h
    | some text =>
      simp only [htext] at h
      cases hline : (splitCrlf text.toList).head? with
      | none => simp [hline] at h
      | some requestLine =>
        simp only [hline] at h
        cases hrequest : parseRequestLine requestLine with
        | error message => simp [hrequest, bind, Except.bind] at h
        | ok line =>
          cases hlines : readHeaderLines none (headerLines text.toList) with
          | error message => simp [hrequest, hlines, bind, Except.bind] at h
          | ok declared =>
            simp only [hrequest, hlines, bind, Except.bind, pure, Except.pure, Except.ok.injEq] at h
            obtain ⟨hencoding, hcount, hdeclared⟩ := readHeaderLines_eq_ok hlines
            rw [← h]
            refine ⟨bytes.take length, text, (List.take_append_drop length bytes).symm, ?_, ?_,
              htext, hcount, hencoding, hdeclared⟩
            · rw [hlength]
            · rw [hlength]
              exact not_lt.mp hlarge

theorem frames_of_requestOf {bytes : List UInt8} {ending : Option IoError} {request : Request}
    (h : requestOf bytes ending = .ok request) : Frames bytes request.body := by
  unfold requestOf at h
  cases hhead : requestHeadOf bytes ending with
  | error message => simp [hhead, bind, Except.bind] at h
  | ok head =>
    simp only [hhead, bind, Except.bind] at h
    obtain ⟨header, text, hbytes, hend, hle, htext, hcount, hencoding, hlength⟩ :=
      exists_of_requestHeadOf hhead
    unfold boundedBodyOf at h
    simp only at h
    split_ifs at h with hlarge hcomplete
    rw [hlength] at hcomplete h
    obtain rfl := Except.ok.inj h
    exact ⟨header, head.initialBody, text, hbytes, hend, hle, htext, hcount, hencoding, hcomplete,
      rfl⟩

section Upload

variable {host : UploadHost} {directory ticket : String} {files : UploadFiles}

/-- The published package is what was received. -/
theorem wp_uploadArtifact {temporary artifact : String}
    {received : Except String Unit × List UInt8} :
    wp (uploadArtifact host temporary artifact received)
      (fun _ files => received.1 = .ok () ∧ files.artifact = some received.2) (fun _ _ => True)
      files := by
  unfold uploadArtifact createTemporary publishArtifact
  simp only [wp_bind, wp_get, wp_ite, wp_throw, wp_ofAnswer, wp_modify, wp_pure, implies_true,
    and_true]
  split_ifs with htemporary hartifact
  · intro _ _ _ _ _ _ _ _ _ _
    trivial
  · intro _ _ _ _ _ hreceived _ _ _ _ _ _ _ _
    exact hreceived

theorem receivedOf_eq_ok {length : ℕ} {body : List UInt8} {ending : Option IoError}
    (h : (receivedOf host length body ending).1 = .ok ()) :
    length ≤ body.length ∧ (receivedOf host length body ending).2 = body.take length := by
  unfold receivedOf at h ⊢
  split_ifs at h ⊢ with hfull hcomplete
  · exact ⟨hcomplete, rfl⟩
  · cases ending with
    | none => cases h
    | some error => cases h

theorem frames_of_uploadOf {bytes : List UInt8} {ending : Option IoError} {artifact : String}
    {files' : UploadFiles}
    (h : uploadOf host bytes ending directory ticket files = (.ok artifact, files')) :
    ∃ package, files'.artifact = some package ∧ Frames bytes package := by
  unfold uploadOf at h
  cases hhead : requestHeadOf bytes ending with
  | error message => simp [hhead] at h
  | ok head =>
    obtain ⟨header, text, hbytes, hend, hle, htext, hcount, hencoding, hdeclared⟩ :=
      exists_of_requestHeadOf hhead
    simp only [hhead, stageReceived] at h
    cases hlength : validateApkUploadLength head.contentLength with
    | error message => simp [hlength] at h
    | ok length =>
      have hsome : head.contentLength = some length := by
        cases hcontent : head.contentLength with
        | none => simp [hcontent, validateApkUploadLength] at hlength
        | some declared =>
          rw [hcontent, validateApkUploadLength] at hlength
          split_ifs at hlength
          rw [Except.ok.inj hlength]
      simp only [hlength] at h
      by_cases hticket : isValidSideloadTicket ticket = false
      · simp [hticket] at h
      rw [if_neg hticket] at h
      cases hdirectory : secureSideloadDirectory host directory with
      | error message => simp [hdirectory] at h
      | ok resolved =>
        simp only [hdirectory] at h
        cases hresult : uploadArtifact host s!"{resolved}/{ticket}.upload"
            s!"{resolved}/{ticket}.apk" (receivedOf host length head.initialBody ending) files with
        | error message files'' =>
          simp only [hresult] at h
          cases hremove : host.remove with
          | ok _ => simp [hremove] at h
          | error _ => simp [hremove] at h
        | ok path files'' =>
          simp only [hresult, Prod.mk.injEq] at h
          obtain ⟨hreceived, hartifact⟩ := wp_ok wp_uploadArtifact hresult
          obtain ⟨hcomplete, hpackage⟩ := receivedOf_eq_ok hreceived
          have hvalue : (declaredLength (headerLines text.toList)).getD 0 = length := by
            rw [← hdeclared, hsome]
            rfl
          rw [← h.2]
          refine ⟨head.initialBody.take length, by rw [hartifact, hpackage], header,
            head.initialBody, text, hbytes, hend, hle, htext, hcount, hencoding, ?_, ?_⟩
          · rw [hvalue]
            exact hcomplete
          · rw [hvalue]

end Upload

/-! ### Both readers -/

/-- **What is read is determined by the stream**, not by its chunks, and what is accepted is framed
by the header section. -/
theorem requests_by_stream (s : Chunks) (host : UploadHost) (directory ticket : String)
    (files : UploadFiles) :
    readRequest s = requestOf s.bytes s.ending ∧
      receiveUpload host s directory ticket files =
        uploadOf host s.bytes s.ending directory ticket files ∧
      (∀ request, readRequest s = .ok request → Frames s.bytes request.body) ∧
      ∀ artifact files', receiveUpload host s directory ticket files = (.ok artifact, files') →
        ∃ package, files'.artifact = some package ∧ Frames s.bytes package := by
  rw [readRequest_eq, receiveUpload_eq]
  exact ⟨rfl, rfl, fun request h => frames_of_requestOf h,
    fun artifact files' h => frames_of_uploadOf h⟩

/-- A request that is cut inside the end of its header section. -/
def splitRequest : Chunks where
  chunks := ["POST / HTTP/1.1\r\nContent-Length: 2\r\n\r".toUTF8.toList, "\nabc".toUTF8.toList]
  ending := none
  nonempty := by decide +kernel

theorem requests_by_stream_split :
    readRequest splitRequest = .ok ⟨"POST", "/", [97, 98]⟩ ∧
      Frames splitRequest.bytes [97, 98] := by
  have h := requests_by_stream splitRequest
    ⟨.ok (), .ok .directory, .ok (), .ok "/", .ok (), .ok (), 0, ⟨.other, ""⟩, .ok (), .ok (), .ok (),
      .ok ()⟩ "/" "" ⟨none, none⟩
  have hread : readRequest splitRequest = .ok ⟨"POST", "/", [97, 98]⟩ := by
    rw [h.1]
    decide +kernel
  exact ⟨hread, h.2.2.1 _ hread⟩

end Wroid.HubRequests
