/-
**The analysis model.**

`analyze` reduces a metrics store to the axes of the report.  Its numbers are `double`s; here it is
generic in them, so that the same function can be read over exact rationals.  A `std::map` is the
list of its entries in the order of the keys, and `std::sort`, which leaves open how equal elements
end up, is a parameter where elements can be equal.

Which capabilities an implementation has is not recorded anywhere: the matrix is inferred from the
narratives of the skipped tests.

Main definitions:

* `TftpHarness.Scorecard`, `TftpHarness.analyze` — **the scorecard of a store**;
* `TftpHarness.capabilityLabels`, `TftpHarness.capabilityMatrix` — the capabilities of the report,
  and its matrix.

Main results:

* `TftpHarness.capabilityMatrix_eq` — **a capability is supported in the matrix unless a skipped
  record names it**.
-/

import TftpHarness.Driver
import TftpHarness.Store

set_option relaxedAutoImplicit false
set_option autoImplicit false

namespace TftpHarness

/-! ### Numbers -/

instance : Zero Double := ⟨Double.ofInt 0⟩

instance : Add Double := ⟨Double.add⟩

instance : Sub Double := ⟨Double.sub⟩

instance : Mul Double := ⟨Double.mul⟩

instance : Div Double := ⟨Double.div⟩

instance : NatCast Double := ⟨fun n => Double.ofInt n⟩

instance : LT Double := ⟨fun x y => x.lt y = true⟩

instance : DecidableLT Double := fun x y => inferInstanceAs (Decidable (x.lt y = true))

section Analyze

variable (α : Type)

/-! ### The scorecard -/

structure SectionScore where
  section_ : Bytes
  passed : ℕ
  failed : ℕ
  skipped : ℕ
  weightedScore : α

structure ResiliencePoint where
  intensity : α
  success : α
  label : Bytes

structure ResilienceCurve where
  impairmentId : Bytes
  title : Bytes
  points : List (ResiliencePoint α)
  area : α

structure IntegrityEntry where
  testId : Bytes
  intensityLabel : Bytes
  narrative : Bytes
  seed : UInt64
  deriving DecidableEq

structure Scorecard where
  implementationName : Bytes
  conformanceScore : α
  sections : List (SectionScore α)
  mustFailureIds : List Bytes
  totalPassed : ℕ
  totalFailed : ℕ
  totalSkipped : ℕ
  resilienceIndex : α
  curves : List (ResilienceCurve α)
  integrityViolations : List IntegrityEntry
  cleanFailures : ℕ
  ungracefulFailures : ℕ
  gracefulDegradationRate : α
  totalRetransmissions : α
  totalDataPackets : α
  averageThroughputBytesPerSecond : α
  capabilitySupported : List (Bytes × Bool)
  records : List MetricRecord

/-- The counts and the weights of a section. -/
structure Accum where
  passed : ℕ
  failed : ℕ
  skipped : ℕ
  weightPassed : α
  weightTotal : α

/-- What the first loop of `analyze` has collected. -/
structure Analysis where
  bySection : List (Bytes × Accum α)
  curves : List (Bytes × ResilienceCurve α)
  mustFailureIds : List Bytes
  totalPassed : ℕ
  totalFailed : ℕ
  totalSkipped : ℕ
  integrityViolations : List IntegrityEntry
  cleanFailures : ℕ
  ungracefulFailures : ℕ
  totalRetransmissions : α
  totalDataPackets : α

end Analyze

/-- The entry of a key in a map, changed; it is made when there is none. -/
def alterEntry {ν : Type} (key : Bytes) (absent : ν) (f : ν → ν) :
    List (Bytes × ν) → List (Bytes × ν)
  | [] => [(key, f absent)]
  | (k, v) :: rest =>
      if k = key then (k, f v) :: rest
      else if key < k then (key, f absent) :: (k, v) :: rest
      else (k, v) :: alterEntry key absent f rest

/-- `section_of`. -/
def sectionOf (testId : Bytes) : Bytes := if testId = [] then text "?" else testId.take 1

/-! ### Capabilities -/

/-- The capabilities of the report with their labels, in the order of their names. -/
def capabilityLabels : List (Bytes × Bytes) :=
  [(Capability.netasciiMode, text "RFC 1350 netascii"),
    (Capability.readRequest, text "RFC 1350 read (RRQ)"),
    (Capability.writeRequest, text "RFC 1350 write (WRQ)"),
    (Capability.optionNegotiation, text "RFC 2347 option negotiation"),
    (Capability.blockSize, text "RFC 2348 blksize"),
    (Capability.timeoutOption, text "RFC 2349 timeout"),
    (Capability.transferSize, text "RFC 2349 tsize"),
    (Capability.windowSize, text "RFC 7440 windowsize")]

/-- The matrix: every capability is supported until a skipped record names it. -/
def capabilityMatrix (records : List MetricRecord) : List (Bytes × Bool) :=
  records.foldl
    (fun matrix record =>
      if record.outcome = .skipped then
        matrix.map fun entry =>
          if entry.1 <:+: record.narrative then (entry.1, false) else entry
      else matrix)
    (capabilityLabels.map fun label => (label.1, true))

/-- A skipped record names the capability. -/
def SkippedFor (capability : Bytes) (record : MetricRecord) : Prop :=
  record.outcome = .skipped ∧ capability <:+: record.narrative

instance (capability : Bytes) (record : MetricRecord) : Decidable (SkippedFor capability record) :=
  inferInstanceAs (Decidable (_ ∧ _))

/-- **A capability is supported in the matrix unless a skipped record names it.** -/
theorem capabilityMatrix_eq (records : List MetricRecord) :
    capabilityMatrix records = capabilityLabels.map fun label =>
      (label.1, decide (∀ record ∈ records, ¬ SkippedFor label.1 record)) := by
  induction records using List.reverseRecOn with
  | nil => simp [capabilityMatrix]
  | append_singleton records record ih =>
      have hlast : ∀ capability, (∀ r ∈ records ++ [record], ¬ SkippedFor capability r) ↔
          (∀ r ∈ records, ¬ SkippedFor capability r) ∧ ¬ SkippedFor capability record := by
        intro capability
        simp only [List.mem_append, List.mem_singleton, or_imp, forall_and, forall_eq]
      unfold capabilityMatrix at ih ⊢
      rw [List.foldl_append, ih, List.foldl_cons, List.foldl_nil]
      simp only [hlast]
      split
      · next hskipped =>
          rw [List.map_map]
          refine List.map_congr_left fun label _ => ?_
          by_cases hnamed : label.1 <:+: record.narrative
          · simp [SkippedFor, hskipped, hnamed]
          · simp [SkippedFor, hnamed]
      · next hskipped =>
          refine List.map_congr_left fun label _ => ?_
          simp [SkippedFor, hskipped]

/-! ### The analysis -/

section Arithmetic

variable {α : Type} [Zero α] [Add α] [Sub α] [Mul α] [Div α] [NatCast α] [LT α] [DecidableLT α]
  (read : Double → α)

/-- `severity_weight`. -/
def severityWeight : Severity → α
  | .critical => (9 : ℕ)
  | .major => (3 : ℕ)
  | .minor => (1 : ℕ)
  | .info => 0

/-- A counter of a record, zero when it has none of the name. -/
def counterOf (record : MetricRecord) (name : Bytes) : α := (record.counters[name]?.map read).getD 0

/-- The accumulation of a record in its section. -/
def accumulate (record : MetricRecord) (accum : Accum α) : Accum α :=
  let weight : α := severityWeight record.severity
  match record.outcome with
  | .pass =>
      { accum with
        passed := accum.passed + 1
        weightTotal := accum.weightTotal + weight
        weightPassed := accum.weightPassed + weight }
  | .fail =>
      { accum with
        failed := accum.failed + 1
        weightTotal := accum.weightTotal + weight }
  | .skipped => { accum with skipped := accum.skipped + 1 }

/-- The point of a record on its resilience curve. -/
def resiliencePoint (record : MetricRecord) (intensity : Double) : ResiliencePoint α where
  intensity := read intensity
  success :=
    match record.counters[text "success"]? with
    | some success => read success
    | none => if record.outcome = .pass then ((1 : ℕ) : α) else 0
  label := record.intensityLabel

/-- The body of the first loop of `analyze`. -/
def analyzeRecord (s : Analysis α) (record : MetricRecord) : Analysis α where
  bySection := alterEntry (sectionOf record.testId) ⟨0, 0, 0, 0, 0⟩ (accumulate record) s.bySection
  curves :=
    match record.intensity with
    | some intensity =>
        if sectionOf record.testId = text "F" then
          alterEntry record.testId ⟨[], [], [], 0⟩
            (fun curve =>
              { curve with
                impairmentId := record.testId
                title := record.title
                points := curve.points ++ [resiliencePoint read record intensity] }) s.curves
        else s.curves
    | none => s.curves
  mustFailureIds :=
    if record.outcome = .fail ∧ record.severity = .critical then
      s.mustFailureIds ++ [record.testId ++
        if record.intensityLabel = [] then [] else text " (" ++ record.intensityLabel ++ text ")"]
    else s.mustFailureIds
  totalPassed := s.totalPassed + if record.outcome = .pass then 1 else 0
  totalFailed := s.totalFailed + if record.outcome = .fail then 1 else 0
  totalSkipped := s.totalSkipped + if record.outcome = .skipped then 1 else 0
  integrityViolations :=
    if record.integrityViolation then
      s.integrityViolations ++
        [⟨record.testId, record.intensityLabel, record.narrative, record.seed⟩]
    else s.integrityViolations
  cleanFailures := s.cleanFailures +
    if record.outcome = .fail ∧ record.ungracefulFailure = false then 1 else 0
  ungracefulFailures := s.ungracefulFailures +
    if record.outcome = .fail ∧ record.ungracefulFailure = true then 1 else 0
  totalRetransmissions := s.totalRetransmissions + counterOf read record (text "retransmissions")
  totalDataPackets := s.totalDataPackets + counterOf read record (text "data_packets_sent")

/-- The first loop of `analyze`. -/
def analyzeRecords (records : List MetricRecord) : Analysis α :=
  records.foldl (analyzeRecord read) ⟨[], [], [], 0, 0, 0, [], 0, 0, 0, 0⟩

/-- A weight in percent of another. -/
def percentage (passed total : α) : α :=
  if 0 < total then ((100 : ℕ) : α) * passed / total else 0

def sectionScore (entry : Bytes × Accum α) : SectionScore α where
  section_ := entry.1
  passed := entry.2.passed
  failed := entry.2.failed
  skipped := entry.2.skipped
  weightedScore := percentage entry.2.weightPassed entry.2.weightTotal

/-- The sections of the conformance score. -/
def isConformanceSection (name : Bytes) : Bool :=
  name ∈ ["A", "B", "C", "D", "E", "G"].map text

/-- The sum of a weight over the conformance sections. -/
def conformanceWeight (weight : Accum α → α) (bySection : List (Bytes × Accum α)) : α :=
  bySection.foldl
    (fun sum entry => if isConformanceSection entry.1 then sum + weight entry.2 else sum) 0

/-- The trapezoids between a point and those after it, added up. -/
def integrate (integral : α) (previous : ResiliencePoint α) : List (ResiliencePoint α) → α
  | [] => integral
  | point :: points =>
      let width := point.intensity - previous.intensity
      let meanHeight := ((1 : ℕ) : α) / ((2 : ℕ) : α) * (point.success + previous.success)
      integrate (integral + width * meanHeight) point points

/-- The normalized area under sorted points. -/
def curveArea : List (ResiliencePoint α) → α
  | [] => 0
  | [point] => point.success
  | first :: point :: points =>
      let span := ((point :: points).getLast (List.cons_ne_nil _ _)).intensity - first.intensity
      if 0 < span then integrate 0 first (point :: points) / span else 0

/-- Sorting by a key, for keys that are distinct. -/
def sortByKey {β : Type} (key : β → Bytes) (items : List β) : List β :=
  items.mergeSort fun x y => decide (¬ key y < key x)

variable (sortPoints : List (ResiliencePoint α) → List (ResiliencePoint α))

/-- The curve with its points sorted and its area. -/
def finishCurve (curve : ResilienceCurve α) : ResilienceCurve α :=
  { curve with
    points := sortPoints curve.points
    area := curveArea (sortPoints curve.points) }

/-- The mean of some numbers, zero when there are none. -/
def mean (values : List α) : α :=
  if 0 < values.length then values.foldl (· + ·) 0 / (values.length : α) else 0

/-- The throughputs of successful transfers that reported one. -/
def throughputs (records : List MetricRecord) : List α :=
  records.filterMap fun record =>
    match record.counters[text "throughput_bytes_per_second"]? with
    | some throughput =>
        if 0 < read throughput ∧ record.outcome = .pass then some (read throughput) else none
    | none => none

/-- **`analyze`.** -/
def analyze (store : MetricsStore) : Scorecard α :=
  let s := analyzeRecords read store.records
  let curves := s.curves.map fun entry => finishCurve sortPoints entry.2
  let totalFailures := s.cleanFailures + s.ungracefulFailures
  { implementationName := store.implementationName
    conformanceScore := percentage (conformanceWeight Accum.weightPassed s.bySection)
      (conformanceWeight Accum.weightTotal s.bySection)
    sections := sortByKey SectionScore.section_ (s.bySection.map sectionScore)
    mustFailureIds := s.mustFailureIds
    totalPassed := s.totalPassed
    totalFailed := s.totalFailed
    totalSkipped := s.totalSkipped
    resilienceIndex := mean (curves.map ResilienceCurve.area)
    curves := sortByKey ResilienceCurve.impairmentId curves
    integrityViolations := s.integrityViolations
    cleanFailures := s.cleanFailures
    ungracefulFailures := s.ungracefulFailures
    gracefulDegradationRate :=
      if 0 < totalFailures then (s.cleanFailures : α) / (totalFailures : α) else ((1 : ℕ) : α)
    totalRetransmissions := s.totalRetransmissions
    totalDataPackets := s.totalDataPackets
    averageThroughputBytesPerSecond := mean (throughputs read store.records)
    capabilitySupported := capabilityMatrix store.records
    records := store.records }

end Arithmetic

end TftpHarness
