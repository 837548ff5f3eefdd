import Wroid.Runtime.Touch

/-!
# The measurements of a session

What the session counts while it plays, and the report it makes of it at the end: frames and
contacts at the injector, latencies of the input pipeline with their percentiles, recenters of the
aim controllers.

## Main definitions

* `SessionMetrics`, `Measurement` — what is counted, and what changes it.
* `latencyMetrics` — the percentiles of a list of latencies.
* `SessionMetrics.report`, `GameSessionReport.Produced` — the report, and those that a session can
  make.

## Main results

* `latencySummary_ordered` — the percentiles of any latencies are in order.
* `Produced.reader`, `Produced.kernel` — what holds of the latencies of every report.
-/

namespace Wroid

/-- Durations are in nanoseconds. -/
def asMicros (duration : ℕ) : ℕ := duration / 1000

structure LatencyMetrics where
  samples : ℕ
  p50Micros : ℕ
  p95Micros : ℕ
  p99Micros : ℕ
  maxMicros : ℕ
  deriving DecidableEq, Repr

structure GameSessionReport where
  framesSubmitted : ℕ
  peakSimultaneousContacts : ℕ
  mouseAimRecenters : ℕ
  readerToInject : LatencyMetrics
  kernelToInject : Option LatencyMetrics
  rejectedKernelTimestamps : ℕ
  deriving DecidableEq, Repr

/-! ### Percentiles -/

structure LatencySummary where
  samples : ℕ
  p50 : ℕ
  p95 : ℕ
  p99 : ℕ
  max : ℕ
  deriving DecidableEq, Repr

/-- The value of a percentile; `micros` is sorted and not empty. -/
def percentileFromSorted (micros : List ℕ) (percentile : ℕ) : ℕ :=
  let rank := min (min (micros.length * percentile) u64Max + 99) u64Max / 100
  let index := min (rank - 1) (micros.length - 1)
  micros.getD index 0

def latencySummaryMicros (samples : List ℕ) : LatencySummary :=
  if samples = [] then ⟨0, 0, 0, 0, 0⟩
  else
    let micros := (samples.map asMicros).insertionSort (· ≤ ·)
    { samples := micros.length
      p50 := percentileFromSorted micros 50
      p95 := percentileFromSorted micros 95
      p99 := percentileFromSorted micros 99
      max := micros.getLast?.getD 0 }

/-- `try_into().unwrap_or(u64::MAX)` -/
def toU64 (n : ℕ) : ℕ := if n ≤ u64Max then n else u64Max

def latencyMetrics (samples : List ℕ) : LatencyMetrics :=
  let summary := latencySummaryMicros samples
  { samples := toU64 summary.samples
    p50Micros := toU64 summary.p50
    p95Micros := toU64 summary.p95
    p99Micros := toU64 summary.p99
    maxMicros := toU64 summary.max }

example : latencyMetrics [30000, 10999, 20000] = ⟨3, 20, 30, 30, 30⟩ := by decide +kernel

/-! ### Counting -/

/-- How long ago the kernel stamped an event, unless the stamp cannot be right. -/
def kernelEventAge (now timestamp : ℕ) : Option ℕ :=
  if timestamp ≤ now ∧ now - timestamp ≤ 60 * 1000000000 then some (now - timestamp) else none

def MAX_SAMPLES : ℕ := 100000

/-- What a session counts: the counters of its injector, its latencies, and how often each of its
aim controllers recentered. -/
structure SessionMetrics where
  activeContacts : List ContactId
  framesSubmitted : ℕ
  peakContacts : ℕ
  pipelineLatencies : List ℕ
  kernelLatencies : List ℕ
  rejectedKernelTimestamps : ℕ
  recenterCounts : List ℕ
  deriving DecidableEq, Repr

/-- What changes the counters. -/
inductive Measurement
  /-- The injector accepted a frame. -/
  | injected (frame : TouchFrame)
  /-- An aim controller recentered. -/
  | recentered (controller : ℕ)
  /-- A batch of input was handled: how long after it was read, when the kernel stamped it, and
  the clock. -/
  | latency (reader : ℕ) (kernelTimestamp : Option ℕ) (now : ℕ)

namespace SessionMetrics

def new (controllers : ℕ) : SessionMetrics where
  activeContacts := []
  framesSubmitted := 0
  peakContacts := 0
  pipelineLatencies := []
  kernelLatencies := []
  rejectedKernelTimestamps := 0
  recenterCounts := List.replicate controllers 0

/-- The contacts that are down after a transition; a set. -/
def track (contacts : List ContactId) (event : TouchEvent) : List ContactId :=
  match event.phase with
  | .down => contacts.insert event.contactId
  | .up | .cancel => contacts.erase event.contactId
  | .move => contacts

/-- `SessionMetricsInjector::inject`, once the frame is injected. -/
def noteInjected (frame : TouchFrame) (m : SessionMetrics) : SessionMetrics :=
  let activeContacts := frame.events.foldl track m.activeContacts
  { m with
    activeContacts
    framesSubmitted := min (m.framesSubmitted + 1) u64Max
    peakContacts := max m.peakContacts activeContacts.length }

def recordPipelineLatency (reader : ℕ) (kernelTimestamp : Option ℕ) (now : ℕ)
    (m : SessionMetrics) : SessionMetrics :=
  let m := if m.pipelineLatencies.length < MAX_SAMPLES then
      { m with pipelineLatencies := m.pipelineLatencies ++ [reader] } else m
  match kernelTimestamp with
  | none => m
  | some timestamp =>
    match kernelEventAge now timestamp with
    | some latency =>
      if m.kernelLatencies.length < MAX_SAMPLES then
        { m with kernelLatencies := m.kernelLatencies ++ [latency] } else m
    | none => { m with rejectedKernelTimestamps := min (m.rejectedKernelTimestamps + 1) u64Max }

def record (m : SessionMetrics) : Measurement → SessionMetrics
  | .injected frame => m.noteInjected frame
  | .recentered controller =>
    { m with recenterCounts := m.recenterCounts.modify controller fun n => min (n + 1) u64Max }
  | .latency reader kernelTimestamp now => m.recordPipelineLatency reader kernelTimestamp now

/-- The report of a session; the sum of the recenters wraps around. -/
def report (m : SessionMetrics) : GameSessionReport :=
  let kernelToInject := latencyMetrics m.kernelLatencies
  { framesSubmitted := m.framesSubmitted
    peakSimultaneousContacts := m.peakContacts
    mouseAimRecenters := m.recenterCounts.sum % (u64Max + 1)
    readerToInject := latencyMetrics m.pipelineLatencies
    kernelToInject := if 0 < kernelToInject.samples then some kernelToInject else none
    rejectedKernelTimestamps := m.rejectedKernelTimestamps }

end SessionMetrics

/-- A session can make the report. -/
def GameSessionReport.Produced (report : GameSessionReport) : Prop :=
  ∃ (controllers : ℕ) (measurements : List Measurement),
    report = (measurements.foldl SessionMetrics.record (.new controllers)).report

/-! ### What holds of every report -/

/-- The percentiles are in order, and nothing was measured if there are no samples. -/
structure LatencyMetrics.Ordered (m : LatencyMetrics) : Prop where
  p50 : m.p50Micros ≤ m.p95Micros
  p95 : m.p95Micros ≤ m.p99Micros
  p99 : m.p99Micros ≤ m.maxMicros
  max : m.samples = 0 → m.maxMicros = 0

theorem toU64_mono {n k : ℕ} (h : n ≤ k) : toU64 n ≤ toU64 k := by
  unfold toU64
  split_ifs <;> omega

theorem toU64_le (n : ℕ) : toU64 n ≤ n := by
  unfold toU64
  split_ifs <;> omega

theorem getD_mono {micros : List ℕ} (h : micros.Pairwise (· ≤ ·)) {i j : ℕ} (hij : i ≤ j)
    (hj : j < micros.length) : micros.getD i 0 ≤ micros.getD j 0 := by
  have hi : i < micros.length := by omega
  rw [List.getD_eq_getElem _ _ hi, List.getD_eq_getElem _ _ hj]
  rcases hij.eq_or_lt with rfl | hlt
  · exact le_refl _
  · exact List.pairwise_iff_getElem.mp h i j hi hj hlt

/-- A larger percentile is not smaller. -/
theorem percentileFromSorted_mono {micros : List ℕ} (h : micros.Pairwise (· ≤ ·))
    (hne : micros ≠ []) {p q : ℕ} (hpq : p ≤ q) :
    percentileFromSorted micros p ≤ percentileFromSorted micros q := by
  have hpos := List.length_pos_iff.mpr hne
  have hscaled : micros.length * p ≤ micros.length * q := Nat.mul_le_mul_left _ hpq
  simp only [percentileFromSorted]
  generalize u64Max = top
  exact getD_mono h (by omega) (by omega)

/-- No percentile is above the last value. -/
theorem percentileFromSorted_le {micros : List ℕ} (h : micros.Pairwise (· ≤ ·))
    (hne : micros ≠ []) (p : ℕ) : percentileFromSorted micros p ≤ micros.getLast?.getD 0 := by
  have hpos := List.length_pos_iff.mpr hne
  have hlast : micros.getLast?.getD 0 = micros.getD (micros.length - 1) 0 := by
    rw [List.getLast?_eq_getElem?, List.getD_eq_getElem?_getD]
  rw [hlast]
  simp only [percentileFromSorted]
  exact getD_mono h (by omega) (by omega)

theorem latencyMetrics_ordered (samples : List ℕ) : (latencyMetrics samples).Ordered := by
  have hsorted := (samples.map asMicros).pairwise_insertionSort (· ≤ ·)
  unfold latencyMetrics latencySummaryMicros
  split
  · exact ⟨le_refl _, le_refl _, le_refl _, fun _ => rfl⟩
  · next hne =>
    have hlength := (samples.map asMicros).length_insertionSort (· ≤ ·)
    rw [List.length_map] at hlength
    have hpos := List.length_pos_iff.mpr hne
    have hmicros : (samples.map asMicros).insertionSort (· ≤ ·) ≠ [] := by
      rw [← List.length_pos_iff]
      omega
    refine ⟨toU64_mono (percentileFromSorted_mono hsorted hmicros (by decide)),
      toU64_mono (percentileFromSorted_mono hsorted hmicros (by decide)),
      toU64_mono (percentileFromSorted_le hsorted hmicros 99), fun hnone => ?_⟩
    have hzero : toU64 samples.length = 0 := hlength ▸ hnone
    unfold toU64 at hzero
    split_ifs at hzero with hle
    · omega
    · exact absurd hzero (by decide)

theorem latencyMetrics_samples_le (samples : List ℕ) :
    (latencyMetrics samples).samples ≤ samples.length := by
  refine (toU64_le _).trans ?_
  unfold latencySummaryMicros
  split
  · exact Nat.zero_le _
  · simp only
    rw [List.length_insertionSort, List.length_map]

/-- The largest latency is one of them. -/
theorem latencyMetrics_max_le {samples : List ℕ} {bound : ℕ}
    (h : ∀ duration ∈ samples, asMicros duration ≤ bound) :
    (latencyMetrics samples).maxMicros ≤ bound := by
  refine (toU64_le _).trans ?_
  unfold latencySummaryMicros
  split
  · exact Nat.zero_le _
  · simp only
    cases hlast : ((samples.map asMicros).insertionSort (· ≤ ·)).getLast? with
    | none => exact Nat.zero_le _
    | some last =>
      have hmem := List.mem_of_getLast? hlast
      rw [List.mem_insertionSort, List.mem_map] at hmem
      obtain ⟨duration, hduration, rfl⟩ := hmem
      exact h duration hduration

/-- What holds of the latencies a session keeps. -/
structure SessionMetrics.Kept (m : SessionMetrics) : Prop where
  pipeline : m.pipelineLatencies.length ≤ MAX_SAMPLES
  kernel : m.kernelLatencies.length ≤ MAX_SAMPLES
  ages : ∀ age ∈ m.kernelLatencies, age ≤ 60 * 1000000000

namespace SessionMetrics

variable {m : SessionMetrics}

theorem kernelEventAge_le {now timestamp age : ℕ} (h : kernelEventAge now timestamp = some age) :
    age ≤ 60 * 1000000000 := by
  unfold kernelEventAge at h
  split_ifs at h with hrecent
  obtain rfl := Option.some.inj h
  exact hrecent.2

theorem Kept.pipelineLatency (h : m.Kept) (reader : ℕ) :
    Kept (if m.pipelineLatencies.length < MAX_SAMPLES then
      { m with pipelineLatencies := m.pipelineLatencies ++ [reader] } else m) := by
  split
  · next hlt =>
    refine ⟨?_, h.kernel, h.ages⟩
    rw [List.length_append, List.length_singleton]
    exact hlt
  · exact h

theorem Kept.recordPipelineLatency (h : m.Kept) (reader : ℕ) (kernelTimestamp : Option ℕ)
    (now : ℕ) : (m.recordPipelineLatency reader kernelTimestamp now).Kept := by
  have hreader := h.pipelineLatency reader
  unfold SessionMetrics.recordPipelineLatency
  revert hreader
  generalize (if m.pipelineLatencies.length < MAX_SAMPLES then
    { m with pipelineLatencies := m.pipelineLatencies ++ [reader] } else m) = d
  intro hreader
  cases kernelTimestamp with
  | none => exact hreader
  | some timestamp =>
    cases hage : kernelEventAge now timestamp with
    | none =>
      simp only [hage]
      exact ⟨hreader.pipeline, hreader.kernel, hreader.ages⟩
    | some age =>
      simp only [hage]
      split
      · next hlt =>
        refine ⟨hreader.pipeline, ?_, fun age' hmem => ?_⟩
        · rw [List.length_append, List.length_singleton]
          exact hlt
        · rcases List.mem_append.mp hmem with hold | hnew
          · exact hreader.ages age' hold
          · obtain rfl := List.mem_singleton.mp hnew
            exact kernelEventAge_le hage
      · exact hreader

theorem Kept.record (h : m.Kept) (measurement : Measurement) : (m.record measurement).Kept := by
  cases measurement with
  | injected frame => exact ⟨h.pipeline, h.kernel, h.ages⟩
  | recentered controller => exact ⟨h.pipeline, h.kernel, h.ages⟩
  | latency reader kernelTimestamp now => exact h.recordPipelineLatency reader kernelTimestamp now

theorem kept_foldl (measurements : List Measurement) (h : m.Kept) :
    (measurements.foldl record m).Kept := by
  induction measurements generalizing m with
  | nil => exact h
  | cons measurement measurements ih => exact ih (h.record measurement)

theorem kept_new (controllers : ℕ) : (new controllers).Kept :=
  ⟨Nat.zero_le _, Nat.zero_le _, by simp [new]⟩

end SessionMetrics

namespace GameSessionReport.Produced

variable {report : GameSessionReport}

/-- The latencies from the readers are in order, and not too many. -/
theorem reader (h : report.Produced) :
    report.readerToInject.samples ≤ MAX_SAMPLES ∧ report.readerToInject.Ordered := by
  obtain ⟨controllers, measurements, rfl⟩ := h
  have hkept := SessionMetrics.kept_foldl measurements (SessionMetrics.kept_new controllers)
  exact ⟨(latencyMetrics_samples_le _).trans hkept.pipeline, latencyMetrics_ordered _⟩

/-- So are those from the kernel, of which none is above a minute. -/
theorem kernel (h : report.Produced) {latency : LatencyMetrics}
    (hlatency : report.kernelToInject = some latency) :
    latency.samples ≤ MAX_SAMPLES ∧ latency.Ordered ∧ latency.maxMicros ≤ 60000000 := by
  obtain ⟨controllers, measurements, rfl⟩ := h
  have hkept := SessionMetrics.kept_foldl measurements (SessionMetrics.kept_new controllers)
  unfold SessionMetrics.report at hlatency
  simp only at hlatency
  split_ifs at hlatency
  obtain rfl := Option.some.inj hlatency
  refine ⟨(latencyMetrics_samples_le _).trans hkept.kernel, latencyMetrics_ordered _, ?_⟩
  refine latencyMetrics_max_le fun age hage => ?_
  have hminute := hkept.ages age hage
  unfold asMicros
  omega

end GameSessionReport.Produced

end Wroid
