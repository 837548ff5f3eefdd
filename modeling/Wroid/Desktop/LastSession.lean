import Wroid.Inject.FrameReader
import Wroid.Core.Validate
import Wroid.Session.Metrics

/-!
# The report of the last session

A worker that ends writes down how its session went, for the launcher to show.  The writer cuts
the texts of the report; the reader looks at all of it again and deletes a report it does not
believe.

## Main definitions

* `LastGameSessionState`, `sessionOutcomeFromResult` — the report, and how a worker makes it.
* `LastGameSessionState.toText`, `decodeLastSession` — the report as it is printed and read.
* `writeLastGameSessionAt`, `readLastGameSessionAt` — how it gets to its file and back.
* `validLastGameSession` — which reports the reader believes.

## Main results

* `decodeLastSession_toText` — a report whose numbers fit is read as it was printed.
* `session_report_returns_iff` — **a report that was written is read back, if and only if its name,
  its path and its measurements are in the bounds of the reader**.
-/

namespace Wroid

open Lib

namespace LastSession

def LAST_SESSION_VERSION : ℕ := 1
def LAST_SESSION_FILE : String := "last-game-session.json"
def LAST_SESSION_MAX_BYTES : ℕ := 64 * 1024
def LAST_SESSION_DETAIL_CHARS : ℕ := 4096

/-! ### The report -/

structure LastSessionLatency where
  samples : ℕ
  p50Micros : ℕ
  p95Micros : ℕ
  p99Micros : ℕ
  maxMicros : ℕ
  deriving DecidableEq, Repr

structure LastSessionPerformance where
  framesSubmitted : ℕ
  peakSimultaneousContacts : ℕ
  mouseAimRecenters : ℕ
  readerToInject : LastSessionLatency
  kernelToInject : Option LastSessionLatency
  rejectedKernelTimestamps : ℕ
  deriving DecidableEq, Repr

/-- The report of a session.  A path is the bytes the system knows it by. -/
structure LastGameSessionState where
  version : ℕ
  pid : ℕ
  profilePath : List UInt8
  profileName : String
  packageName : String
  state : String
  detail : String
  finishedUnixMillis : ℕ
  performance : Option LastSessionPerformance
  deriving DecidableEq, Repr

def LastSessionLatency.ofMetrics (metrics : LatencyMetrics) : LastSessionLatency where
  samples := metrics.samples
  p50Micros := metrics.p50Micros
  p95Micros := metrics.p95Micros
  p99Micros := metrics.p99Micros
  maxMicros := metrics.maxMicros

def LastSessionPerformance.ofReport (report : GameSessionReport) : LastSessionPerformance where
  framesSubmitted := report.framesSubmitted
  peakSimultaneousContacts := report.peakSimultaneousContacts
  mouseAimRecenters := report.mouseAimRecenters
  readerToInject := .ofMetrics report.readerToInject
  kernelToInject := report.kernelToInject.map .ofMetrics
  rejectedKernelTimestamps := report.rejectedKernelTimestamps

/-! ### Paths -/

def slash : UInt8 := 0x2f
def dot : UInt8 := 0x2e

/-- `Path::file_name` -/
def fileName (path : List UInt8) : Option (List UInt8) :=
  match ((path.splitOn slash).filter fun name => name ≠ [] ∧ name ≠ [dot]).getLast? with
  | some name => if name = [dot, dot] then none else some name
  | none => none

/-- A file name up to its last dot, unless it begins with that. -/
def stemOf (name : List UInt8) : List UInt8 :=
  match name.reverse.dropWhile (· ≠ dot) with
  | [] | [_] => name
  | _ :: before => before.reverse

/-- `Path::file_stem` -/
def fileStem (path : List UInt8) : Option (List UInt8) := (fileName path).map stemOf

example : (fileStem (utf8Bytes "/games/shooter.v2.json/".toList)) =
    some (utf8Bytes "shooter.v2".toList) := by decide +kernel

/-! ### Making the report -/

/-- The files of the machine, as far as a worker looks at them when it ends. -/
structure ProfileFiles where
  canonicalize : List UInt8 → Except IoError (List UInt8)
  loadFromPath : List UInt8 → Except String ProfileV2

/-- `char::is_control` -/
def isControl (c : Char) : Bool :=
  decide (c.toNat < 0x20 ∨ 0x7f ≤ c.toNat ∧ c.toNat < 0xa0)

def boundedSessionDetail (detail : String) : String :=
  .ofList ((detail.toList.filter fun c => !isControl c || c ∈ ['\n', '\r', '\t']).take
    LAST_SESSION_DETAIL_CHARS)

section Outcome

variable (files : ProfileFiles) (profilePath : List UInt8)

/-- The path the report names: where the profile really is, if that can be found out. -/
def resolvedPath : List UInt8 := ((files.canonicalize profilePath).toOption).getD profilePath

/-- The name of the file of the profile, if it is text. -/
def stemText : Option String :=
  (fileStem (resolvedPath files profilePath)).bind fun stem => String.fromUTF8? stem.toByteArray

def sessionOutcome (pid : ℕ) (state detail : String) (finishedUnixMillis : ℕ)
    (performance : Option LastSessionPerformance) : LastGameSessionState :=
  let resolvedPath := resolvedPath files profilePath
  let profile := (files.loadFromPath resolvedPath).toOption
  { version := LAST_SESSION_VERSION
    pid
    profilePath := resolvedPath
    profileName := match profile with
      | some profile => .ofList (profile.name.toList.take 160)
      | none => (stemText files profilePath).getD "Wroid game"
    packageName := match profile with
      | some profile => .ofList (profile.packageName.toList.take 255)
      | none => ""
    state
    detail := boundedSessionDetail detail
    finishedUnixMillis
    performance }

/-- How a worker reports its result; `millis` is the time since the epoch, and an error is given
by its chain of messages. -/
def sessionOutcomeFromResult (pid : ℕ) (result : Except String GameSessionReport)
    (millis : ℕ) : LastGameSessionState :=
  match result with
  | .ok report =>
    sessionOutcome files profilePath pid "clean"
      "Session ended cleanly; input and Waydroid lifecycle cleanup completed." (toU64 millis)
      (some (.ofReport report))
  | .error error =>
    sessionOutcome files profilePath pid "failed" error (toU64 millis) none

end Outcome

/-! ### Printing -/

def LastSessionLatency.json (latency : LastSessionLatency) : List Char :=
  jsonObject [("samples", jsonNat latency.samples), ("p50Micros", jsonNat latency.p50Micros),
    ("p95Micros", jsonNat latency.p95Micros), ("p99Micros", jsonNat latency.p99Micros),
    ("maxMicros", jsonNat latency.maxMicros)]

/-- A field that is left out if there is nothing in it. -/
def fieldIfSome {α : Type} (name : String) (json : α → List Char) :
    Option α → List (String × List Char)
  | some value => [(name, json value)]
  | none => []

def LastSessionPerformance.json (performance : LastSessionPerformance) : List Char :=
  jsonObject ([("framesSubmitted", jsonNat performance.framesSubmitted),
    ("peakSimultaneousContacts", jsonNat performance.peakSimultaneousContacts),
    ("mouseAimRecenters", jsonNat performance.mouseAimRecenters),
    ("readerToInject", performance.readerToInject.json)] ++
    fieldIfSome "kernelToInject" LastSessionLatency.json performance.kernelToInject ++
    [("rejectedKernelTimestamps", jsonNat performance.rejectedKernelTimestamps)])

def LastGameSessionState.json (outcome : LastGameSessionState) (path : String) : List Char :=
  jsonObject ([("version", jsonNat outcome.version), ("pid", jsonNat outcome.pid),
    ("profilePath", jsonString path), ("profileName", jsonString outcome.profileName),
    ("packageName", jsonString outcome.packageName), ("state", jsonString outcome.state),
    ("detail", jsonString outcome.detail),
    ("finishedUnixMillis", jsonNat outcome.finishedUnixMillis)] ++
    fieldIfSome "performance" LastSessionPerformance.json outcome.performance)

/-- A path is printed as a string, which it may not be. -/
def LastGameSessionState.toText (outcome : LastGameSessionState) : Except String (List UInt8) :=
  match String.fromUTF8? outcome.profilePath.toByteArray with
  | some path => .ok (utf8Bytes (outcome.json path))
  | none => .error "path contains invalid UTF-8 characters"

/-! ### Reading -/

open BridgeBroker (uniqueField optionalField unsigned32 stringOf)

def unsigned64 : Json → Option ℕ
  | .number literal => parseUnsigned u64Max (.ofList literal)
  | _ => none

/-- A field that may be missing or `null`. -/
def readIfSome {α : Type} (read : Json → Option α) : Option Json → Option (Option α)
  | none | some .null => some none
  | some value => (read value).map some

def latencyOf : Json → Option LastSessionLatency
  | .object fields => do
    let samples ← (uniqueField "samples" fields).bind unsigned64
    let p50Micros ← (uniqueField "p50Micros" fields).bind unsigned64
    let p95Micros ← (uniqueField "p95Micros" fields).bind unsigned64
    let p99Micros ← (uniqueField "p99Micros" fields).bind unsigned64
    let maxMicros ← (uniqueField "maxMicros" fields).bind unsigned64
    return { samples, p50Micros, p95Micros, p99Micros, maxMicros }
  | _ => none

def performanceOf : Json → Option LastSessionPerformance
  | .object fields => do
    let framesSubmitted ← (uniqueField "framesSubmitted" fields).bind unsigned64
    let peakSimultaneousContacts ← (uniqueField "peakSimultaneousContacts" fields).bind unsigned64
    let mouseAimRecenters ← (uniqueField "mouseAimRecenters" fields).bind unsigned64
    let readerToInject ← (uniqueField "readerToInject" fields).bind latencyOf
    let kernelToInject ← (optionalField "kernelToInject" fields).bind (readIfSome latencyOf)
    let rejectedKernelTimestamps ← (uniqueField "rejectedKernelTimestamps" fields).bind unsigned64
    return { framesSubmitted, peakSimultaneousContacts, mouseAimRecenters, readerToInject,
             kernelToInject, rejectedKernelTimestamps }
  | _ => none

def lastSessionOf : Json → Option LastGameSessionState
  | .object fields => do
    let version ← (uniqueField "version" fields).bind unsigned32
    let pid ← (uniqueField "pid" fields).bind unsigned32
    let profilePath ← (uniqueField "profilePath" fields).bind stringOf
    let profileName ← (uniqueField "profileName" fields).bind stringOf
    let packageName ← (uniqueField "packageName" fields).bind stringOf
    let state ← (uniqueField "state" fields).bind stringOf
    let detail ← (uniqueField "detail" fields).bind stringOf
    let finishedUnixMillis ← (uniqueField "finishedUnixMillis" fields).bind unsigned64
    let performance ← (optionalField "performance" fields).bind (readIfSome performanceOf)
    return { version, pid, profilePath := utf8Bytes profilePath.toList, profileName, packageName,
             state, detail, finishedUnixMillis, performance }
  | _ => none

def decodeLastSession (bytes : List UInt8) : Option LastGameSessionState :=
  (String.fromUTF8? bytes.toByteArray).bind fun text => (parseJson text.toList).bind lastSessionOf

/-! ### What the reader believes -/

def MAX_LATENCY_SAMPLES : ℕ := 100000
def MAX_LATENCY_MICROS : ℕ := 60000000
def MAX_COUNTER : ℕ := 1000000000000

def validLatency (latency : LastSessionLatency) : Bool :=
  decide (latency.samples ≤ MAX_LATENCY_SAMPLES) &&
    (decide (0 < latency.samples) || decide (latency.maxMicros = 0)) &&
    decide (latency.p50Micros ≤ latency.p95Micros) &&
    decide (latency.p95Micros ≤ latency.p99Micros) &&
    decide (latency.p99Micros ≤ latency.maxMicros) &&
    decide (latency.maxMicros ≤ MAX_LATENCY_MICROS)

def validSessionPerformance (performance : LastSessionPerformance) : Bool :=
  validLatency performance.readerToInject &&
    performance.kernelToInject.all validLatency &&
    decide (performance.framesSubmitted ≤ MAX_COUNTER) &&
    decide (performance.mouseAimRecenters ≤ MAX_COUNTER) &&
    decide (performance.rejectedKernelTimestamps ≤ MAX_COUNTER) &&
    decide (performance.peakSimultaneousContacts ≤ u16Max)

def validLastGameSession (outcome : LastGameSessionState) : Bool :=
  decide (outcome.version = LAST_SESSION_VERSION) &&
    decide (0 < outcome.pid) &&
    (outcome.state == "clean" || outcome.state == "stopped" || outcome.state == "failed") &&
    decide (outcome.profileName.toList.length ≤ 160) &&
    decide (outcome.packageName.toList.length ≤ 255) &&
    decide (outcome.detail.toList.length ≤ LAST_SESSION_DETAIL_CHARS) &&
    decide (outcome.profilePath.length ≤ 4096) &&
    outcome.performance.all validSessionPerformance

/-! ### The file -/

inductive ReportStep
  | parent
  | createDirectory
  | setPermissions
  | openRandom
  | readRandom
  | createTemporary
  | encode
  | writeNewline
  | sync
  | publish
  | openDirectory
  | syncDirectory
  | removeTemporary
  | openReport
  | metadata
  | read
  | removeReport
  deriving DecidableEq, Repr

/-- The directory of the report, and which steps of a call fail in it. -/
structure ReportHost where
  path : String
  directory : String
  ticket : String
  report : Option (List UInt8)
  /-- The file with the name that an update prepares. -/
  temporary : Option (List UInt8)
  fault : ReportStep → Option IoError
  /-- How many bytes get to the file when its writing fails. -/
  torn : ℕ

/-- A chain of messages, the outermost first. -/
abbrev ReportError := List String

abbrev ReportM := EStateM ReportError ReportHost

def step (step : ReportStep) (context : ReportHost → List String) : ReportM Unit := do
  let host ← get
  match host.fault step with
  | some error => throw (context host ++ [error.detail])
  | none => pure ()

def ReportHost.temporaryPath (host : ReportHost) : String :=
  host.directory ++ "/." ++ LAST_SESSION_FILE ++ "." ++ host.ticket ++ ".tmp"

def createTemporary : ReportM Unit := do
  step .createTemporary fun host => ["failed to create " ++ host.temporaryPath]
  let host ← get
  if host.temporary.isSome then
    throw ["failed to create " ++ host.temporaryPath, "File exists (os error 17)"]
  else set { host with temporary := some [] }

/-- The report goes to the file while it is printed. -/
def encodeReport (outcome : LastGameSessionState) : ReportM Unit := do
  let host ← get
  match outcome.toText with
  | .error error => throw ["failed to encode session report", error]
  | .ok text =>
    match host.fault .encode with
    | some error =>
      set { host with temporary := some (text.take host.torn) }
      throw ["failed to encode session report", error.detail]
    | none => set { host with temporary := some text }

def publishReport (outcome : LastGameSessionState) : ReportM Unit := do
  createTemporary
  encodeReport outcome
  step .writeNewline fun _ => []
  modify fun host => { host with temporary := host.temporary.map (· ++ [newline]) }
  step .sync fun _ => []
  step .publish fun host => ["failed to publish " ++ host.path]
  modify fun host => { host with report := host.temporary, temporary := none }
  step .openDirectory fun _ => []
  step .syncDirectory fun _ => []

def removeTemporary (host : ReportHost) : ReportHost :=
  if (host.fault .removeTemporary).isNone then { host with temporary := none } else host

def writeLastGameSessionAt (outcome : LastGameSessionState) : ReportM Unit := do
  if ((← get).fault .parent).isSome then throw ["last session path has no parent"]
  step .createDirectory fun host => ["failed to create " ++ host.directory]
  step .setPermissions fun host => ["failed to secure " ++ host.directory]
  step .openRandom fun _ =>
    ["failed to name the session report update", "failed to open the system random source"]
  step .readRandom fun _ =>
    ["failed to name the session report update", "failed to generate a lifecycle ticket"]
  match ← attempt (publishReport outcome) with
  | .ok () => pure ()
  | .error error =>
    modify removeTemporary
    throw error

/-- Open the report for reading. -/
def ReportHost.openReport (host : ReportHost) : Except IoError (List UInt8) :=
  match host.fault .openReport, host.report with
  | some error, _ => .error error
  | none, some bytes => .ok bytes
  | none, none => .error ⟨.notFound, "No such file or directory (os error 2)"⟩

def removeReport (host : ReportHost) : ReportHost :=
  if (host.fault .removeReport).isNone then { host with report := none } else host

def readLastGameSessionAt : ReportM (Option LastGameSessionState) := do
  let host ← get
  match host.openReport with
  | .error error =>
    if error.kind = .notFound then return none
    else throw ["failed to open " ++ host.path, error.detail]
  | .ok bytes =>
    step .metadata fun _ => []
    if bytes.length > LAST_SESSION_MAX_BYTES then
      modify removeReport
      return none
    else
      step .read fun _ => []
      match decodeLastSession bytes with
      | none =>
        modify removeReport
        return none
      | some outcome =>
        if validLastGameSession outcome then return some outcome
        else
          modify removeReport
          return none

/-! ### What was printed is read -/

/-- The numbers of the report fit their types. -/
def LastSessionLatency.InRange (latency : LastSessionLatency) : Prop :=
  latency.samples ≤ u64Max ∧ latency.p50Micros ≤ u64Max ∧ latency.p95Micros ≤ u64Max ∧
    latency.p99Micros ≤ u64Max ∧ latency.maxMicros ≤ u64Max

def LastSessionPerformance.InRange (performance : LastSessionPerformance) : Prop :=
  performance.framesSubmitted ≤ u64Max ∧ performance.peakSimultaneousContacts ≤ u64Max ∧
    performance.mouseAimRecenters ≤ u64Max ∧ performance.readerToInject.InRange ∧
    (∀ latency, performance.kernelToInject = some latency → latency.InRange) ∧
    performance.rejectedKernelTimestamps ≤ u64Max

def LastGameSessionState.InRange (outcome : LastGameSessionState) : Prop :=
  outcome.version ≤ u32Max ∧ outcome.pid ≤ u32Max ∧ outcome.finishedUnixMillis ≤ u64Max ∧
    ∀ performance, outcome.performance = some performance → performance.InRange

theorem unsigned64_jsonNat {n : ℕ} (h : n ≤ u64Max) : unsigned64 (.number (jsonNat n)) = some n :=
  parseUnsigned_jsonNat h

theorem unsigned32_jsonNat {n : ℕ} (h : n ≤ u32Max) : unsigned32 (.number (jsonNat n)) = some n :=
  parseUnsigned_jsonNat h

theorem latency_reads {latency : LastSessionLatency} (h : latency.InRange) : ∃ fields,
    Reads 2 latency.json (.object fields) ∧ latencyOf (.object fields) = some latency := by
  obtain ⟨hsamples, h50, h95, h99, hmax⟩ := h
  have hfields : FieldsRead 1 [("samples", jsonNat latency.samples),
      ("p50Micros", jsonNat latency.p50Micros), ("p95Micros", jsonNat latency.p95Micros),
      ("p99Micros", jsonNat latency.p99Micros), ("maxMicros", jsonNat latency.maxMicros)]
      [("samples", .number (jsonNat latency.samples)),
        ("p50Micros", .number (jsonNat latency.p50Micros)),
        ("p95Micros", .number (jsonNat latency.p95Micros)),
        ("p99Micros", .number (jsonNat latency.p99Micros)),
        ("maxMicros", .number (jsonNat latency.maxMicros))] := by
    simp [FieldsRead, Reads.nat]
  refine ⟨_, Reads.object hfields (List.cons_ne_nil _ _) Nat.one_pos, ?_⟩
  simp [latencyOf, uniqueField, unsigned64_jsonNat, hsamples, h50, h95, h99, hmax]

/-- A field that may be left out reads as what it stands for. -/
theorem field_reads {α : Type} {d : ℕ} (name : String) (json : α → List Char)
    (read : Json → Option α) {value : Option α}
    (h : ∀ a, value = some a → ∃ fields, Reads d (json a) (.object fields) ∧
      read (.object fields) = some a) :
    ∃ fields, FieldsRead d (fieldIfSome name json value) fields ∧
      (∀ field ∈ fields, field.1 = name) ∧
        (optionalField name fields).bind (readIfSome read) = some value := by
  cases value with
  | none => exact ⟨[], .nil, by simp, rfl⟩
  | some a =>
    obtain ⟨fields, hreads, hread⟩ := h a rfl
    refine ⟨[(name, .object fields)], .cons ⟨rfl, hreads⟩ .nil, by simp, ?_⟩
    simp [optionalField, readIfSome, hread]

/-- A field is looked up among others. -/
theorem uniqueField_append {name other : String} {before middle after : List (String × Json)}
    (hne : other ≠ name) (hmiddle : ∀ field ∈ middle, field.1 = other) :
    uniqueField name (before ++ middle ++ after) = uniqueField name (before ++ after) := by
  have hnone : middle.filter (·.1 = name) = [] := by
    rw [List.filter_eq_nil_iff]
    intro field hfield
    simpa [hmiddle field hfield] using hne
  simp only [uniqueField, List.filter_append, hnone, List.append_nil]

theorem optionalField_append {name : String} {before middle after : List (String × Json)}
    (hbefore : ∀ field ∈ before, field.1 ≠ name) (hafter : ∀ field ∈ after, field.1 ≠ name) :
    optionalField name (before ++ middle ++ after) = optionalField name middle := by
  have hnone : ∀ fields : List (String × Json), (∀ field ∈ fields, field.1 ≠ name) →
      fields.filter (·.1 = name) = [] := by
    intro fields hfields
    rw [List.filter_eq_nil_iff]
    simpa using hfields
  simp only [optionalField, List.filter_append, hnone before hbefore, hnone after hafter,
    List.nil_append, List.append_nil]

theorem performance_reads {performance : LastSessionPerformance} (h : performance.InRange) :
    ∃ fields, Reads 3 performance.json (.object fields) ∧
      performanceOf (.object fields) = some performance := by
  obtain ⟨hframes, hpeak, hrecenters, hreader, hkernel, hrejected⟩ := h
  obtain ⟨reader, hreads, hread⟩ := latency_reads hreader
  obtain ⟨kernel, hkernels, hnames, hvalue⟩ := field_reads "kernelToInject"
    LastSessionLatency.json latencyOf fun latency hlatency => latency_reads (hkernel latency hlatency)
  have hnat : ∀ n, Reads 2 (jsonNat n) (.number (jsonNat n)) := fun n => (Reads.nat n).mono (by decide)
  have hbefore : FieldsRead 2 [("framesSubmitted", jsonNat performance.framesSubmitted),
      ("peakSimultaneousContacts", jsonNat performance.peakSimultaneousContacts),
      ("mouseAimRecenters", jsonNat performance.mouseAimRecenters),
      ("readerToInject", performance.readerToInject.json)]
      [("framesSubmitted", .number (jsonNat performance.framesSubmitted)),
        ("peakSimultaneousContacts", .number (jsonNat performance.peakSimultaneousContacts)),
        ("mouseAimRecenters", .number (jsonNat performance.mouseAimRecenters)),
        ("readerToInject", .object reader)] := by
    simp [FieldsRead, hnat, hreads]
  have hafter : FieldsRead 2
      [("rejectedKernelTimestamps", jsonNat performance.rejectedKernelTimestamps)]
      [("rejectedKernelTimestamps", .number (jsonNat performance.rejectedKernelTimestamps))] := by
    simp [FieldsRead, hnat]
  have hfields := (hbefore.append hkernels).append hafter
  have hother : ∀ {name} {before after}, "kernelToInject" ≠ name →
      uniqueField name (before ++ kernel ++ after) = uniqueField name (before ++ after) :=
    fun hne => uniqueField_append hne hnames
  refine ⟨_, Reads.object hfields (by simp) Nat.two_pos, ?_⟩
  rw [performanceOf, optionalField_append (by simp) (by simp), hvalue]
  simp (disch := decide) only [hother]
  simp [uniqueField, unsigned64_jsonNat, hframes, hpeak, hrecenters, hread, hrejected]

theorem outcome_reads {outcome : LastGameSessionState} {path : String}
    (hpath : outcome.profilePath = utf8Bytes path.toList) (h : outcome.InRange) : ∃ printed fields,
      outcome.json path = jsonObject printed ∧ printed ≠ [] ∧ FieldsRead 3 printed fields ∧
        lastSessionOf (.object fields) = some outcome := by
  obtain ⟨hversion, hpid, hfinished, hperformance⟩ := h
  obtain ⟨performance, hreads, hnames, hvalue⟩ := field_reads "performance"
    LastSessionPerformance.json performanceOf fun p hp => performance_reads (hperformance p hp)
  have hnat : ∀ n, Reads 3 (jsonNat n) (.number (jsonNat n)) := fun n => (Reads.nat n).mono (by decide)
  have hstring : ∀ text, Reads 3 (jsonString text) (.string text) :=
    fun text => (Reads.string text).mono (by decide)
  have hbefore : FieldsRead 3 [("version", jsonNat outcome.version), ("pid", jsonNat outcome.pid),
      ("profilePath", jsonString path), ("profileName", jsonString outcome.profileName),
      ("packageName", jsonString outcome.packageName), ("state", jsonString outcome.state),
      ("detail", jsonString outcome.detail),
      ("finishedUnixMillis", jsonNat outcome.finishedUnixMillis)]
      [("version", .number (jsonNat outcome.version)), ("pid", .number (jsonNat outcome.pid)),
        ("profilePath", .string path), ("profileName", .string outcome.profileName),
        ("packageName", .string outcome.packageName), ("state", .string outcome.state),
        ("detail", .string outcome.detail),
        ("finishedUnixMillis", .number (jsonNat outcome.finishedUnixMillis))] := by
    simp [FieldsRead, hnat, hstring]
  have hfields := (hbefore.append hreads).append .nil
  have hother : ∀ {name} {before after}, "performance" ≠ name →
      uniqueField name (before ++ performance ++ after) = uniqueField name (before ++ after) :=
    fun hne => uniqueField_append hne hnames
  refine ⟨_, _, by rw [List.append_nil]; rfl, by simp, hfields, ?_⟩
  rw [lastSessionOf, optionalField_append (by simp) (by simp), hvalue]
  simp (disch := decide) only [hother]
  simp [uniqueField, stringOf, unsigned64_jsonNat, unsigned32_jsonNat, hversion, hpid, hfinished,
    ← hpath]

/-- **A report whose numbers fit is read as it was printed**, with the newline after it. -/
theorem decodeLastSession_toText {outcome : LastGameSessionState} {text : List UInt8}
    (htext : outcome.toText = .ok text) (h : outcome.InRange) :
    decodeLastSession (text ++ [newline]) = some outcome := by
  unfold LastGameSessionState.toText at htext
  split at htext
  · next path hpath =>
    obtain rfl := Except.ok.inj htext
    have hbytes := fromUTF8?_toByteArray_eq_some.mp hpath
    obtain ⟨printed, fields, hjson, hne, hfields, hread⟩ := outcome_reads hbytes h
    have hline : utf8Bytes (outcome.json path) ++ [newline] =
        utf8Bytes (jsonObject printed ++ ['\n']) := by
      rw [hjson, utf8Bytes, utf8Bytes, List.flatMap_append]
      rfl
    rw [decodeLastSession, hline, fromUTF8?_utf8Bytes, Option.bind_some, String.toList_ofList,
      parseJson_object hfields hne (by decide) (by decide) (by decide), Option.bind_some, hread]
  · cases htext

/-! ### How long it is -/

theorem utf8Size_unsigned64_le {n : ℕ} (h : n ≤ u64Max) : utf8Size (jsonNat n) ≤ 20 :=
  utf8Size_jsonNat_le (by decide) (lt_of_le_of_lt h (by decide))

theorem utf8Size_latency_le {latency : LastSessionLatency} (h : latency.InRange) :
    utf8Size latency.json ≤ 170 := by
  obtain ⟨hsamples, h50, h95, h99, hmax⟩ := h
  have hnames : escapedSize "samples" = 7 ∧ escapedSize "p50Micros" = 9 ∧
      escapedSize "p95Micros" = 9 ∧ escapedSize "p99Micros" = 9 ∧ escapedSize "maxMicros" = 9 := by
    decide +kernel
  have hsamples := utf8Size_unsigned64_le hsamples
  have h50 := utf8Size_unsigned64_le h50
  have h95 := utf8Size_unsigned64_le h95
  have h99 := utf8Size_unsigned64_le h99
  have hmax := utf8Size_unsigned64_le hmax
  obtain ⟨hn₁, hn₂, hn₃, hn₄, hn₅⟩ := hnames
  simp only [LastSessionLatency.json, utf8Size_jsonObject, List.map_cons, List.map_nil,
    List.sum_cons, List.sum_nil, List.length_cons, List.length_nil, hn₁, hn₂, hn₃, hn₄, hn₅]
  omega

/-- A field takes as much as its value, or nothing. -/
theorem fieldIfSome_le {α : Type} {name : String} {json : α → List Char} {value : Option α} {n : ℕ}
    (h : ∀ a, value = some a → escapedSize name + 3 + utf8Size (json a) ≤ n) :
    ((fieldIfSome name json value).map fun field =>
      escapedSize field.1 + 3 + utf8Size field.2).sum ≤ n ∧
        (fieldIfSome name json value).length ≤ 1 := by
  cases value with
  | none => exact ⟨Nat.zero_le _, by simp [fieldIfSome]⟩
  | some a => simpa [fieldIfSome] using h a rfl

theorem utf8Size_performance_le {performance : LastSessionPerformance}
    (h : performance.InRange) : utf8Size performance.json ≤ 560 := by
  obtain ⟨hframes, hpeak, hrecenters, hreader, hkernel, hrejected⟩ := h
  have hnames : escapedSize "framesSubmitted" = 15 ∧ escapedSize "peakSimultaneousContacts" = 24 ∧
      escapedSize "mouseAimRecenters" = 17 ∧ escapedSize "readerToInject" = 14 ∧
        escapedSize "kernelToInject" = 14 ∧ escapedSize "rejectedKernelTimestamps" = 24 := by
    decide +kernel
  obtain ⟨hn₁, hn₂, hn₃, hn₄, hn₅, hn₆⟩ := hnames
  have hframes := utf8Size_unsigned64_le hframes
  have hpeak := utf8Size_unsigned64_le hpeak
  have hrecenters := utf8Size_unsigned64_le hrecenters
  have hrejected := utf8Size_unsigned64_le hrejected
  have hreader := utf8Size_latency_le hreader
  obtain ⟨hsize, hlength⟩ := @fieldIfSome_le _ "kernelToInject" LastSessionLatency.json
    performance.kernelToInject 187 fun latency hlatency => by
      have hle := utf8Size_latency_le (hkernel latency hlatency)
      omega
  simp only [LastSessionPerformance.json, utf8Size_jsonObject, List.map_append, List.map_cons,
    List.map_nil, List.sum_append, List.sum_cons, List.sum_nil, List.length_append,
    List.length_cons, List.length_nil, hn₁, hn₂, hn₃, hn₄, hn₆]
  omega

/-- **A report that the reader believes is not too long for it.** -/
theorem utf8Size_outcome_lt {outcome : LastGameSessionState} {path : String}
    (hpath : outcome.profilePath = utf8Bytes path.toList) (h : outcome.InRange)
    (hvalid : validLastGameSession outcome = true) :
    utf8Size (outcome.json path) < LAST_SESSION_MAX_BYTES := by
  obtain ⟨hversion, hpid, hfinished, hperformance⟩ := h
  simp only [validLastGameSession, Bool.and_eq_true, Bool.or_eq_true, beq_iff_eq,
    decide_eq_true_eq] at hvalid
  obtain ⟨⟨⟨⟨⟨⟨⟨-, -⟩, hstate⟩, hname⟩, hpackage⟩, hdetail⟩, hlong⟩, -⟩ := hvalid
  have hchars : path.toList.length ≤ 4096 := by
    rw [hpath, length_utf8Bytes] at hlong
    exact (length_le_utf8Size _).trans hlong
  have hstates : escapedSize outcome.state ≤ 7 := by
    rcases hstate with (h | h) | h
    all_goals rw [h]; decide +kernel
  have hnames : escapedSize "version" = 7 ∧ escapedSize "pid" = 3 ∧
      escapedSize "profilePath" = 11 ∧ escapedSize "profileName" = 11 ∧
      escapedSize "packageName" = 11 ∧ escapedSize "state" = 5 ∧ escapedSize "detail" = 6 ∧
      escapedSize "finishedUnixMillis" = 18 ∧ escapedSize "performance" = 11 := by
    decide +kernel
  obtain ⟨hn₁, hn₂, hn₃, hn₄, hn₅, hn₆, hn₇, hn₈, hn₉⟩ := hnames
  have hversion := utf8Size_unsigned64_le (hversion.trans (by decide))
  have hpid := utf8Size_unsigned64_le (hpid.trans (by decide))
  have hfinished := utf8Size_unsigned64_le hfinished
  have hpathSize := escapedSize_le path
  have hnameSize := escapedSize_le outcome.profileName
  have hpackageSize := escapedSize_le outcome.packageName
  have hdetailSize := escapedSize_le outcome.detail
  have hdetail : outcome.detail.toList.length ≤ 4096 := hdetail
  obtain ⟨hsize, hlength⟩ := @fieldIfSome_le _ "performance" LastSessionPerformance.json
    outcome.performance 574 fun performance hp => by
      have hle := utf8Size_performance_le (hperformance performance hp)
      omega
  simp only [LastGameSessionState.json, utf8Size_jsonObject, List.map_append, List.map_cons,
    List.map_nil, List.sum_append, List.sum_cons, List.sum_nil, List.length_append,
    List.length_cons, List.length_nil, utf8Size_jsonString, hn₁, hn₂, hn₃, hn₄, hn₅, hn₆, hn₇, hn₈,
    LAST_SESSION_MAX_BYTES]
  omega

theorem length_toText_lt {outcome : LastGameSessionState} {text : List UInt8}
    (htext : outcome.toText = .ok text) (h : outcome.InRange)
    (hvalid : validLastGameSession outcome = true) : text.length < LAST_SESSION_MAX_BYTES := by
  unfold LastGameSessionState.toText at htext
  split at htext
  · next path hpath =>
    obtain rfl := Except.ok.inj htext
    rw [length_utf8Bytes]
    exact utf8Size_outcome_lt (fromUTF8?_toByteArray_eq_some.mp hpath) h hvalid
  · cases htext

/-! ### What the file holds -/

theorem wp_step {s : ReportStep} {context : ReportHost → List String} {host : ReportHost}
    {Q : Unit → ReportHost → Prop} (hQ : Q () host) :
    wp (step s context) Q (fun _ _ => True) host := by
  simp only [step, wp_bind, wp_get]
  cases host.fault s with
  | none => exact hQ
  | some error => trivial

/-- The report is published whole. -/
theorem publishReport_spec (outcome : LastGameSessionState) (host : ReportHost) :
    wp (publishReport outcome)
      (fun _ h => ∃ text, outcome.toText = .ok text ∧ h.report = some (text ++ [newline]))
      (fun _ _ => True) host := by
  simp only [publishReport, createTemporary, encodeReport, wp_bind, wp_get, wp_ite, wp_throw, wp_set]
  refine wp_step ?_
  split
  · trivial
  cases htext : outcome.toText with
  | error error => trivial
  | ok text =>
    dsimp only
    cases host.fault .encode with
    | some error => trivial
    | none =>
      exact wp_step (wp_step (wp_step (wp_step (wp_step ⟨text, rfl, rfl⟩))))

theorem writeLastGameSessionAt_spec (outcome : LastGameSessionState) (host : ReportHost) :
    wp (writeLastGameSessionAt outcome)
      (fun _ h => ∃ text, outcome.toText = .ok text ∧ h.report = some (text ++ [newline]))
      (fun _ _ => True) host := by
  simp only [writeLastGameSessionAt, wp_bind, wp_get, wp_ite, wp_throw]
  split
  · trivial
  refine wp_step (wp_step (wp_step (wp_step ?_)))
  simp only [wp_attempt]
  refine wp_mono (publishReport_spec outcome host) ?_ ?_
  · intro _ h hpublished
    exact hpublished
  · intro error h _
    simp only [wp_bind, wp_modify, wp_throw]

/-- What the reader makes of the bytes it finds. -/
def Believes (bytes : List UInt8) (outcome : LastGameSessionState) : Prop :=
  bytes.length ≤ LAST_SESSION_MAX_BYTES ∧ decodeLastSession bytes = some outcome ∧
    validLastGameSession outcome = true

/-- **A report is read and stays, or it is deleted.** -/
theorem readLastGameSessionAt_spec {host : ReportHost} {bytes : List UInt8}
    (hreport : host.report = some bytes) (hworks : ∀ s, host.fault s = none) :
    wp readLastGameSessionAt (fun read h =>
      (∃ outcome, read = some outcome ∧ Believes bytes outcome ∧ h.report = some bytes) ∨
        read = none ∧ h.report = none ∧ ∀ outcome, ¬ Believes bytes outcome)
      (fun _ _ => False) host := by
  have hremoved : (removeReport host).report = none := by
    simp [removeReport, hworks]
  simp only [readLastGameSessionAt, ReportHost.openReport, step, hworks, hreport, wp_bind, wp_get,
    wp_ite, wp_modify, wp_pure]
  split
  · next hlong =>
    refine .inr ⟨trivial, hremoved, ?_⟩
    rintro outcome ⟨hshort, -⟩
    omega
  · next hshort =>
    cases hdecoded : decodeLastSession bytes with
    | none =>
      refine .inr ⟨rfl, hremoved, ?_⟩
      rintro outcome ⟨-, hsome, -⟩
      rw [hdecoded] at hsome
      cases hsome
    | some outcome =>
      simp only [wp_ite, wp_pure, wp_bind, wp_modify]
      split
      · next hvalid =>
        exact .inl ⟨outcome, rfl, ⟨Nat.le_of_not_lt hshort, hdecoded, hvalid⟩, hreport⟩
      · next hinvalid =>
        refine .inr ⟨trivial, hremoved, ?_⟩
        rintro outcome' ⟨-, hsome, hvalid⟩
        rw [hdecoded] at hsome
        obtain rfl := Option.some.inj hsome
        exact hinvalid hvalid

/-! ### The reports of the workers -/

/-- The measurements are in the bounds of the reader. -/
def PlausibleReport (report : GameSessionReport) : Prop :=
  report.framesSubmitted ≤ MAX_COUNTER ∧ report.mouseAimRecenters ≤ MAX_COUNTER ∧
    report.rejectedKernelTimestamps ≤ MAX_COUNTER ∧ report.peakSimultaneousContacts ≤ u16Max ∧
      report.readerToInject.maxMicros ≤ MAX_LATENCY_MICROS

/-- The name of the file of a profile that cannot be read has 160 characters at most, the path has
4096 bytes at most, and the measurements are plausible. -/
structure Reportable (files : ProfileFiles) (profilePath : List UInt8)
    (result : Except String GameSessionReport) : Prop where
  name : (files.loadFromPath (resolvedPath files profilePath)).toOption = none →
    ∀ stem, stemText files profilePath = some stem → stem.toList.length ≤ 160
  path : (resolvedPath files profilePath).length ≤ 4096
  measurements : ∀ report, result = .ok report → PlausibleReport report

theorem validLatency_eq_true {latency : LastSessionLatency} : validLatency latency = true ↔
    latency.samples ≤ MAX_LATENCY_SAMPLES ∧ (latency.samples = 0 → latency.maxMicros = 0) ∧
      latency.p50Micros ≤ latency.p95Micros ∧ latency.p95Micros ≤ latency.p99Micros ∧
      latency.p99Micros ≤ latency.maxMicros ∧ latency.maxMicros ≤ MAX_LATENCY_MICROS := by
  simp only [validLatency, Bool.and_eq_true, Bool.or_eq_true, decide_eq_true_eq, and_assoc]
  have hpos : (0 < latency.samples ∨ latency.maxMicros = 0) ↔
      (latency.samples = 0 → latency.maxMicros = 0) := by
    omega
  rw [hpos]

/-- Of the latencies of a session, only the largest one from the readers can be implausible. -/
theorem validLatency_ofMetrics {metrics : LatencyMetrics}
    (h : metrics.samples ≤ MAX_SAMPLES ∧ metrics.Ordered) :
    validLatency (.ofMetrics metrics) = true ↔ metrics.maxMicros ≤ MAX_LATENCY_MICROS := by
  rw [validLatency_eq_true]
  refine ⟨fun hvalid => hvalid.2.2.2.2.2, fun hmax => ?_⟩
  exact ⟨h.1, h.2.max, h.2.p50, h.2.p95, h.2.p99, hmax⟩

theorem validSessionPerformance_eq_true {performance : LastSessionPerformance} :
    validSessionPerformance performance = true ↔
      validLatency performance.readerToInject = true ∧
        performance.kernelToInject.all validLatency = true ∧
        performance.framesSubmitted ≤ MAX_COUNTER ∧ performance.mouseAimRecenters ≤ MAX_COUNTER ∧
        performance.rejectedKernelTimestamps ≤ MAX_COUNTER ∧
        performance.peakSimultaneousContacts ≤ u16Max := by
  simp only [validSessionPerformance, Bool.and_eq_true, decide_eq_true_eq, and_assoc]

theorem validSessionPerformance_ofReport {report : GameSessionReport} (h : report.Produced) :
    validSessionPerformance (.ofReport report) = true ↔ PlausibleReport report := by
  have hkernel : (report.kernelToInject.map LastSessionLatency.ofMetrics).all validLatency = true := by
    cases hlatency : report.kernelToInject with
    | none => rfl
    | some latency =>
      obtain ⟨hsamples, hordered, hmax⟩ := h.kernel hlatency
      exact (validLatency_ofMetrics ⟨hsamples, hordered⟩).mpr hmax
  have hreader := validLatency_ofMetrics h.reader
  rw [validSessionPerformance_eq_true]
  constructor
  · rintro ⟨hlatency, -, hframes, hrecenters, hrejected, hpeak⟩
    exact ⟨hframes, hrecenters, hrejected, hpeak, hreader.mp hlatency⟩
  · rintro ⟨hframes, hrecenters, hrejected, hpeak, hlatency⟩
    exact ⟨hreader.mpr hlatency, hkernel, hframes, hrecenters, hrejected, hpeak⟩

theorem validLastGameSession_eq_true {outcome : LastGameSessionState} :
    validLastGameSession outcome = true ↔ outcome.version = LAST_SESSION_VERSION ∧ 0 < outcome.pid ∧
      ((outcome.state = "clean" ∨ outcome.state = "stopped") ∨ outcome.state = "failed") ∧
      outcome.profileName.toList.length ≤ 160 ∧ outcome.packageName.toList.length ≤ 255 ∧
      outcome.detail.toList.length ≤ LAST_SESSION_DETAIL_CHARS ∧ outcome.profilePath.length ≤ 4096 ∧
      outcome.performance.all validSessionPerformance = true := by
  simp only [validLastGameSession, Bool.and_eq_true, Bool.or_eq_true, beq_iff_eq,
    decide_eq_true_eq, and_assoc]

section Outcome

variable {files : ProfileFiles} {profilePath : List UInt8}

theorem length_boundedSessionDetail (detail : String) :
    (boundedSessionDetail detail).toList.length ≤ LAST_SESSION_DETAIL_CHARS := by
  rw [boundedSessionDetail, String.toList_ofList]
  exact List.length_take_le _ _

/-- The texts of a report are short, but for the name of the file of its profile. -/
theorem validLastGameSession_outcome {pid finished : ℕ} {state detail : String}
    {performance : Option LastSessionPerformance} (hpid : 0 < pid)
    (hstate : state = "clean" ∨ state = "failed") :
    validLastGameSession
        (sessionOutcome files profilePath pid state detail finished performance) = true ↔
      ((files.loadFromPath (resolvedPath files profilePath)).toOption = none →
        ∀ stem, stemText files profilePath = some stem → stem.toList.length ≤ 160) ∧
      (resolvedPath files profilePath).length ≤ 4096 ∧
      performance.all validSessionPerformance = true := by
  have htake : ∀ (text : String) (n : ℕ), (String.ofList (text.toList.take n)).toList.length ≤ n := by
    intro text n
    rw [String.toList_ofList]
    exact List.length_take_le _ _
  have hdetail := length_boundedSessionDetail detail
  have hstate' : (state = "clean" ∨ state = "stopped") ∨ state = "failed" := by
    rcases hstate with h | h
    · exact .inl (.inl h)
    · exact .inr h
  rw [validLastGameSession_eq_true]
  cases hprofile : (files.loadFromPath (resolvedPath files profilePath)).toOption with
  | some profile =>
    simp only [sessionOutcome, hprofile]
    constructor
    · rintro ⟨-, -, -, -, -, -, hpath, hall⟩
      exact ⟨fun hnone => by simp at hnone, hpath, hall⟩
    · rintro ⟨-, hpath, hall⟩
      exact ⟨trivial, hpid, hstate', htake _ _, htake _ _, hdetail, hpath, hall⟩
  | none =>
    simp only [sessionOutcome, hprofile]
    constructor
    · rintro ⟨-, -, -, hname, -, -, hpath, hall⟩
      refine ⟨fun _ stem hstem => ?_, hpath, hall⟩
      rwa [hstem] at hname
    · rintro ⟨hname, hpath, hall⟩
      refine ⟨trivial, hpid, hstate', ?_, by decide, hdetail, hpath, hall⟩
      cases hstem : stemText files profilePath with
      | none => decide
      | some stem => exact hname trivial stem hstem

theorem inRange_of_validLatency {latency : LastSessionLatency}
    (h : validLatency latency = true) : latency.InRange := by
  obtain ⟨hsamples, -, h50, h95, h99, hmax⟩ := validLatency_eq_true.mp h
  have hmicros : MAX_LATENCY_MICROS ≤ u64Max := by decide
  have hcount : MAX_LATENCY_SAMPLES ≤ u64Max := by decide
  refine ⟨?_, ?_, ?_, ?_, ?_⟩ <;> omega

theorem inRange_of_validSessionPerformance {performance : LastSessionPerformance}
    (h : validSessionPerformance performance = true) : performance.InRange := by
  obtain ⟨hreader, hkernel, hframes, hrecenters, hrejected, hpeak⟩ :=
    validSessionPerformance_eq_true.mp h
  have hcounter : MAX_COUNTER ≤ u64Max := by decide
  have hcontacts : u16Max ≤ u64Max := by decide
  refine ⟨hframes.trans hcounter, hpeak.trans hcontacts, hrecenters.trans hcounter,
    inRange_of_validLatency hreader, fun latency hlatency => ?_, hrejected.trans hcounter⟩
  rw [hlatency] at hkernel
  exact inRange_of_validLatency hkernel

theorem toU64_le_u64Max (n : ℕ) : toU64 n ≤ u64Max := by
  unfold toU64
  split_ifs with h
  · exact h
  · exact le_refl _

/-- The outcome of a worker is valid exactly if it is reportable. -/
theorem validLastGameSession_result {pid millis : ℕ} {result : Except String GameSessionReport}
    (hpid : 0 < pid) (hresult : ∀ report, result = .ok report → report.Produced) :
    validLastGameSession (sessionOutcomeFromResult files profilePath pid result millis) = true ↔
      Reportable files profilePath result := by
  cases result with
  | ok report =>
    have hreport := validSessionPerformance_ofReport (hresult report rfl)
    rw [sessionOutcomeFromResult, validLastGameSession_outcome hpid (.inl rfl)]
    constructor
    · rintro ⟨hname, hpath, hall⟩
      refine ⟨hname, hpath, fun report' heq => ?_⟩
      obtain rfl := Except.ok.inj heq
      exact hreport.mp hall
    · rintro ⟨hname, hpath, hmeasured⟩
      exact ⟨hname, hpath, hreport.mpr (hmeasured report rfl)⟩
  | error error =>
    rw [sessionOutcomeFromResult, validLastGameSession_outcome hpid (.inr rfl)]
    constructor
    · rintro ⟨hname, hpath, -⟩
      exact ⟨hname, hpath, by simp⟩
    · rintro ⟨hname, hpath, -⟩
      exact ⟨hname, hpath, rfl⟩

theorem inRange_result {pid millis : ℕ} {result : Except String GameSessionReport}
    (hpid : pid ≤ u32Max)
    (hvalid : validLastGameSession
      (sessionOutcomeFromResult files profilePath pid result millis) = true) :
    (sessionOutcomeFromResult files profilePath pid result millis).InRange := by
  have hperformance : ∀ performance,
      (sessionOutcomeFromResult files profilePath pid result millis).performance = some performance →
        performance.InRange := by
    obtain ⟨-, -, -, -, -, -, -, hall⟩ := validLastGameSession_eq_true.mp hvalid
    intro performance heq
    rw [heq] at hall
    exact inRange_of_validSessionPerformance hall
  have hversion : LAST_SESSION_VERSION ≤ u32Max := by decide
  revert hperformance
  cases result with
  | ok report => exact fun h => ⟨hversion, hpid, toU64_le_u64Max millis, h⟩
  | error error => exact fun h => ⟨hversion, hpid, toU64_le_u64Max millis, h⟩

/-- **A report that was written is read back and stays**, if and only if its name, its path and its
measurements are in the bounds of the reader. -/
theorem session_report_returns_iff {pid millis : ℕ} {result : Except String GameSessionReport}
    (hpid : 0 < pid) (hpidMax : pid ≤ u32Max)
    (hresult : ∀ report, result = .ok report → report.Produced) {host host' later : ReportHost}
    (hwrite : writeLastGameSessionAt
      (sessionOutcomeFromResult files profilePath pid result millis) host = .ok () host')
    (hreport : later.report = host'.report) (hworks : ∀ s, later.fault s = none) :
    (∃ later', readLastGameSessionAt later =
        .ok (some (sessionOutcomeFromResult files profilePath pid result millis)) later' ∧
      later'.report = later.report) ↔ Reportable files profilePath result := by
  obtain ⟨text, htext, hpublished⟩ := wp_ok (writeLastGameSessionAt_spec _ host) hwrite
  rw [hpublished] at hreport
  have hread := readLastGameSessionAt_spec hreport hworks
  rw [← @validLastGameSession_result files profilePath pid millis result hpid hresult]
  constructor
  · rintro ⟨later', hreturned, -⟩
    rcases wp_ok hread hreturned with ⟨outcome, heq, hbelieves, -⟩ | ⟨hnone, -⟩
    · rw [Option.some.inj heq]
      exact hbelieves.2.2
    · cases hnone
  · intro hvalid
    have hrange := inRange_result hpidMax hvalid
    have hlength := length_toText_lt htext hrange hvalid
    have hbelieves : Believes (text ++ [newline])
        (sessionOutcomeFromResult files profilePath pid result millis) := by
      refine ⟨?_, decodeLastSession_toText htext hrange, hvalid⟩
      rw [List.length_append, List.length_singleton]
      exact hlength
    cases hreturned : readLastGameSessionAt later with
    | error error later' => exact (wp_error hread hreturned).elim
    | ok read later' =>
      rcases wp_ok hread hreturned with ⟨outcome, rfl, hbelieves', hkept⟩ | ⟨-, -, hnone⟩
      · obtain rfl := Option.some.inj (hbelieves.2.1.symm.trans hbelieves'.2.1)
        exact ⟨later', rfl, hkept.trans hreport.symm⟩
      · exact (hnone _ hbelieves).elim

end Outcome

/-- A directory in which everything works, and where no session was reported. -/
def freshHost : ReportHost where
  path := "/state/wroid/last-game-session.json"
  directory := "/state/wroid"
  ticket := "00112233445566778899aabbccddeeff"
  report := none
  temporary := none
  fault := fun _ => none
  torn := 0

/-- A machine on which no profile can be read. -/
def noProfiles : ProfileFiles where
  canonicalize := fun path => .ok path
  loadFromPath := fun _ => .error "No such file or directory (os error 2)"

def profileNamed (stem : List Char) : List UInt8 := utf8Bytes ("/games/".toList ++ stem ++ ".json".toList)

def shortSession : Except String GameSessionReport :=
  .ok ([Measurement.injected (.single ⟨1, .down, ⟨10, 10⟩⟩), .latency 250000 (some 5) 9].foldl
    SessionMetrics.record (.new 1)).report

theorem session_report_returns_short : ∃ host' later',
    writeLastGameSessionAt (sessionOutcomeFromResult noProfiles (profileNamed "shooter".toList) 42
      shortSession 7) freshHost = .ok () host' ∧
    readLastGameSessionAt { freshHost with report := host'.report } =
      .ok (some (sessionOutcomeFromResult noProfiles (profileNamed "shooter".toList) 42 shortSession 7))
        later' ∧ later'.report = host'.report := by
  obtain ⟨_, host', hwrite, -⟩ := exists_of_returnsWith
    (show returnsWith (fun _ => true) (writeLastGameSessionAt (sessionOutcomeFromResult noProfiles
      (profileNamed "shooter".toList) 42 shortSession 7)) freshHost = true by decide +kernel)
  have hname : stemText noProfiles (profileNamed "shooter".toList) = some "shooter" := by
    decide +kernel
  have hreportable : Reportable noProfiles (profileNamed "shooter".toList) shortSession := by
    refine ⟨fun _ stem hstem => ?_, by decide +kernel, fun report hreport => ?_⟩
    · rw [hname] at hstem
      obtain rfl := Option.some.inj hstem
      decide
    · obtain rfl := Except.ok.inj hreport
      unfold PlausibleReport
      decide +kernel
  have hproduced : ∀ report, shortSession = .ok report → report.Produced := by
    intro report hreport
    obtain rfl := Except.ok.inj hreport
    exact ⟨1, _, rfl⟩
  have hlater : ({ freshHost with report := host'.report } : ReportHost).report = host'.report := rfl
  obtain ⟨later', hread, hkept⟩ := (session_report_returns_iff (by decide) (by decide) hproduced hwrite
    hlater fun _ => rfl).mpr hreportable
  exact ⟨host', later', hwrite, hread, hkept⟩

/-- A profile that cannot be read is named after its file, and the reader deletes the report if
that name is too long. -/
theorem long_name_is_deleted : ∃ host',
    writeLastGameSessionAt (sessionOutcomeFromResult noProfiles
      (profileNamed (List.replicate 161 'a')) 42 shortSession 7) freshHost = .ok () host' ∧
    ¬ ∃ later', readLastGameSessionAt { freshHost with report := host'.report } =
        .ok (some (sessionOutcomeFromResult noProfiles (profileNamed (List.replicate 161 'a')) 42
          shortSession 7)) later' ∧ later'.report = host'.report := by
  obtain ⟨_, host', hwrite, -⟩ := exists_of_returnsWith
    (show returnsWith (fun _ => true) (writeLastGameSessionAt (sessionOutcomeFromResult noProfiles
      (profileNamed (List.replicate 161 'a')) 42 shortSession 7)) freshHost = true by decide +kernel)
  have hinvalid : validLastGameSession (sessionOutcomeFromResult noProfiles
      (profileNamed (List.replicate 161 'a')) 42 shortSession 7) = false := by decide +kernel
  refine ⟨host', hwrite, ?_⟩
  rintro ⟨later', hread, -⟩
  obtain ⟨text, -, hreport⟩ := wp_ok (writeLastGameSessionAt_spec _ freshHost) hwrite
  have hspec := @readLastGameSessionAt_spec { freshHost with report := host'.report } _ hreport fun _ => rfl
  rcases wp_ok hspec hread with ⟨outcome, heq, hbelieves, -⟩ | ⟨hnone, -⟩
  · rw [← Option.some.inj heq] at hbelieves
    exact Bool.false_ne_true (hinvalid.symm.trans hbelieves.2.2)
  · cases hnone

end LastSession

end Wroid
