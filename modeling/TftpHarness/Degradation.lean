/-
**Graceful degradation.**

The rate is meant to be the fraction of the failures that ended cleanly, with neither a hang or a
crash nor corrupted bytes.  `judge_byte_exact` marks a hang and a corruption with two flags, one
each, and `analyze` reads the first of them only: a transfer that reported success and delivered
other bytes counts as a clean failure.  So the rate is the fraction as long as no failure is a
silent corruption, and to mark one never lowers the rate.

Main definitions:

* `TftpHarness.EndedCleanly`, `TftpHarness.cleanFraction` — clean failures, and their fraction;
* `TftpHarness.SilentFailure` — a failure that is a corruption and nothing else;
* `TftpHarness.MeasuresGrace` — the rate is the fraction, and marking a corruption moves it.

Main results:

* `TftpHarness.gracefulDegradationRate_eq` — what the rate is;
* `TftpHarness.gracefulDegradationRate_eq_cleanFraction_iff` — **the rate is the fraction exactly
  without silent failures**;
* `TftpHarness.gracefulDegradationRate_markCorrupted` — to mark a corruption leaves the rate;
* `TftpHarness.measuresGrace_iff` — both together.
-/

import TftpHarness.Accounting

set_option relaxedAutoImplicit false
set_option autoImplicit false

namespace TftpHarness

section Degradation

/-! ### Clean failures -/

/-- The record ended with neither a hang or a crash nor corrupted bytes. -/
def EndedCleanly (record : MetricRecord) : Prop :=
  record.ungracefulFailure = false ∧ record.integrityViolation = false

instance (record : MetricRecord) : Decidable (EndedCleanly record) :=
  inferInstanceAs (Decidable (_ ∧ _))

/-- The failures that ended cleanly. -/
def cleanEnds (records : List MetricRecord) : ℕ :=
  records.countP fun record => record.outcome = .fail ∧ EndedCleanly record

/-- The fraction of the failures that ended cleanly. -/
def cleanFraction (records : List MetricRecord) : ℚ :=
  if outcomeCount records .fail = 0 then 1 else cleanEnds records / outcomeCount records .fail

/-- A failure that corrupted bytes, and neither hung nor crashed. -/
def SilentFailure (record : MetricRecord) : Prop :=
  record.outcome = .fail ∧ record.integrityViolation = true ∧ record.ungracefulFailure = false

instance (record : MetricRecord) : Decidable (SilentFailure record) :=
  inferInstanceAs (Decidable (_ ∧ _ ∧ _))

/-- The failures that `analyze` takes for clean are the clean ones and the silent ones. -/
theorem failureCount_false (records : List MetricRecord) :
    failureCount records false =
      cleanEnds records + records.countP fun record => SilentFailure record := by
  unfold failureCount cleanEnds
  induction records with
  | nil => rfl
  | cons record records ih =>
      simp only [List.countP_cons, decide_eq_true_eq, ih]
      cases hcorrupted : record.integrityViolation <;>
        simp [SilentFailure, EndedCleanly, hcorrupted] <;> omega

/-! ### The rate -/

variable (read : Double → ℚ) (sortPoints : List (ResiliencePoint ℚ) → List (ResiliencePoint ℚ))
  (store : MetricsStore)

/-- **The rate** is the fraction of the failures that neither hung nor crashed. -/
theorem gracefulDegradationRate_eq :
    (analyze read sortPoints store).gracefulDegradationRate =
      if outcomeCount store.records .fail = 0 then 1
      else (failureCount store.records false : ℚ) / outcomeCount store.records .fail := by
  obtain ⟨hclean, hungraceful⟩ := analyzeRecords_failures read store.records
  simp only [analyze, hclean, hungraceful, failureCount_sum]
  by_cases hnone : outcomeCount store.records .fail = 0
  · rw [if_neg (by omega), if_pos hnone, Nat.cast_one]
  · rw [if_pos (Nat.pos_of_ne_zero hnone), if_neg hnone]

/-- **The rate is the fraction of clean failures exactly when no failure is silent.** -/
theorem gracefulDegradationRate_eq_cleanFraction_iff :
    (analyze read sortPoints store).gracefulDegradationRate = cleanFraction store.records ↔
      ∀ record ∈ store.records, ¬ SilentFailure record := by
  have hzero : (store.records.countP fun record => SilentFailure record) = 0 ↔
      ∀ record ∈ store.records, ¬ SilentFailure record := by
    simp only [List.countP_eq_zero, decide_eq_true_eq]
  rw [gracefulDegradationRate_eq, cleanFraction, ← hzero]
  split
  · next hnone =>
      have hfails := @failureCount_sum store.records
      rw [failureCount_false, hnone] at hfails
      exact iff_of_true rfl (by omega)
  · next hsome =>
      have hpos : (outcomeCount store.records .fail : ℚ) ≠ 0 := Nat.cast_ne_zero.2 hsome
      rw [div_left_inj' hpos, Nat.cast_inj, failureCount_false]
      omega

/-! ### Marking a corruption -/

/-- The record, marked as an integrity violation. -/
def markCorrupted (record : MetricRecord) : MetricRecord :=
  { record with integrityViolation := true }

/-- **To mark a corruption leaves the rate as it is.** -/
theorem gracefulDegradationRate_markCorrupted {before after : List MetricRecord}
    {record : MetricRecord} (h : store.records = before ++ record :: after) :
    (analyze read sortPoints
        { store with records := before ++ markCorrupted record :: after }).gracefulDegradationRate =
      (analyze read sortPoints store).gracefulDegradationRate := by
  have hfails : outcomeCount (before ++ markCorrupted record :: after) .fail =
      outcomeCount (before ++ record :: after) .fail := by
    simp only [outcomeCount, List.countP_append, List.countP_cons, markCorrupted]
  have hclean : failureCount (before ++ markCorrupted record :: after) false =
      failureCount (before ++ record :: after) false := by
    simp only [failureCount, List.countP_append, List.countP_cons, markCorrupted]
  simp only [gracefulDegradationRate_eq, h, hfails, hclean]

/-- The rate is the fraction of clean failures, and to mark a clean one as a corruption moves it. -/
structure MeasuresGrace : Prop where
  fraction : (analyze read sortPoints store).gracefulDegradationRate = cleanFraction store.records
  marking : ∀ before record after, store.records = before ++ record :: after →
    record.outcome = .fail → EndedCleanly record →
      (analyze read sortPoints { store with
          records := before ++ markCorrupted record :: after }).gracefulDegradationRate ≠
        (analyze read sortPoints store).gracefulDegradationRate

/-- **When the rate measures grace**: it is the fraction of clean failures exactly when no failure
is silent; and as marking one leaves the rate, both together hold exactly when every failure hung or
crashed. -/
theorem measuresGrace_iff :
    ((analyze read sortPoints store).gracefulDegradationRate = cleanFraction store.records ↔
        ∀ record ∈ store.records, ¬ SilentFailure record) ∧
      (MeasuresGrace read sortPoints store ↔
        ∀ record ∈ store.records, record.outcome = .fail → record.ungracefulFailure = true) := by
  have hfraction := gracefulDegradationRate_eq_cleanFraction_iff read sortPoints store
  refine ⟨hfraction, fun h record hrecord hfail => ?_, fun h => ⟨hfraction.2 ?_, ?_⟩⟩
  · -- a failure that neither hung nor crashed is silent, or can be marked
    rw [← Bool.not_eq_false]
    intro hgraceful
    cases hcorrupted : record.integrityViolation with
    | true => exact hfraction.1 h.fraction record hrecord ⟨hfail, hcorrupted, hgraceful⟩
    | false =>
        obtain ⟨before, after, hsplit⟩ := List.append_of_mem hrecord
        exact h.marking before record after hsplit hfail ⟨hgraceful, hcorrupted⟩
          (gracefulDegradationRate_markCorrupted read sortPoints store hsplit)
  · intro record hrecord hsilent
    exact absurd (h record hrecord hsilent.1) (by simp [hsilent.2.2])
  · intro before record after hsplit hfail hclean
    have hmem : record ∈ store.records := hsplit ▸ List.mem_append_right _ List.mem_cons_self
    exact absurd (h record hmem hfail) (by simp [hclean.1])

end Degradation

/-- A transfer reported success, and delivered other bytes. -/
def corruptedTransfer : MetricRecord :=
  { testId := text "A-01", outcome := .fail, severity := .critical, integrityViolation := true }

/-- **A store whose only failure is a corruption** has a rate of one, and no clean failure. -/
theorem corruptedTransfer_rate :
    (plainScorecard [corruptedTransfer]).gracefulDegradationRate = 1 ∧
      cleanFraction [corruptedTransfer] = 0 ∧
      ¬ MeasuresGrace (fun _ => 0) id { records := [corruptedTransfer] } := by
  have hrate : (plainScorecard [corruptedTransfer]).gracefulDegradationRate = 1 := by
    decide +kernel
  have hfraction : cleanFraction [corruptedTransfer] = 0 := by decide +kernel
  refine ⟨hrate, hfraction, fun h => ?_⟩
  have hsame := h.fraction
  rw [hfraction] at hsame
  exact one_ne_zero (hrate.symm.trans hsame)

end TftpHarness
