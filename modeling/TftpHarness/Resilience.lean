/-
**The resilience of an implementation.**

A record of section F with an intensity is a point on the curve of its test.  The area of a curve is
meant to be an average of the successes on it, by the trapezoidal rule over the observed range of
intensities; a curve of one point has the success there.  A curve of several points at one intensity
has no range, and the code then says that its area is zero.  Zero is not an average of successes
that are all positive, although every run at that intensity succeeded.

Main definitions:

* `TftpHarness.pointsOf`, `TftpHarness.fPoints` — the points of a test, and of section F;
* `TftpHarness.SortsPoints` — what is known of the sorting of points;
* `TftpHarness.AreasAverage` — areas and index are averages of successes;
* `TftpHarness.FlatCurve` — several points at one intensity, on one side of zero.

Main results:

* `TftpHarness.curvesOf_spec` — the curves that the first loop of `analyze` collects;
* `TftpHarness.between_curveArea_iff` — when the area of a curve is an average;
* `TftpHarness.areasAverage_iff` — **exactly without flat curves areas and index are averages**;
* `TftpHarness.repeatedIntensity_index` — an index of zero after two successes.
-/

import Mathlib.Data.List.Sort
import TftpHarness.Accounting
import TftpHarness.Averages

set_option relaxedAutoImplicit false
set_option autoImplicit false

namespace TftpHarness

open Averages

section Resilience

variable (read : Double → ℚ)

/-! ### The curves -/

/-- The point that a record contributes. -/
def pointOf (record : MetricRecord) : Option (ResiliencePoint ℚ) :=
  if sectionOf record.testId = text "F" then record.intensity.map (resiliencePoint read record)
  else none

/-- The points of a test, in the order of its records. -/
def pointsOf (records : List MetricRecord) (testId : Bytes) : List (ResiliencePoint ℚ) :=
  (records.filter fun record => record.testId = testId).filterMap (pointOf read)

/-- The points of section F. -/
def fPoints (records : List MetricRecord) : List (ResiliencePoint ℚ) :=
  records.filterMap (pointOf read)

/-- The curves that the first loop of `analyze` has collected. -/
def curvesOf (records : List MetricRecord) : List (Bytes × ResilienceCurve ℚ) :=
  (analyzeRecords read records).curves

variable (records : List MetricRecord)

theorem curvesOf_append (record : MetricRecord) :
    curvesOf read (records ++ [record]) =
      match pointOf read record with
      | some point =>
          alterEntry record.testId ⟨[], [], [], 0⟩
            (fun curve =>
              { curve with
                impairmentId := record.testId
                title := record.title
                points := curve.points ++ [point] }) (curvesOf read records)
      | none => curvesOf read records := by
  rw [curvesOf, analyzeRecords_append]
  simp only [analyzeRecord, pointOf, curvesOf]
  by_cases hsection : sectionOf record.testId = text "F"
  · cases hintensity : record.intensity <;> simp [hsection]
  · cases hintensity : record.intensity <;> simp [hsection]

theorem pointsOf_append (record : MetricRecord) (testId : Bytes) :
    pointsOf read (records ++ [record]) testId =
      pointsOf read records testId ++
        if record.testId = testId then (pointOf read record).toList else [] := by
  rw [pointsOf, List.filter_append, List.filterMap_append, ← pointsOf]
  congr 1
  by_cases h : record.testId = testId
  · simp only [h, decide_true, List.filter_cons_of_pos, List.filter_nil, if_pos]
    cases hpoint : pointOf read record <;> simp [hpoint]
  · simp [h]

theorem keysOrdered_curvesOf : KeysOrdered (curvesOf read records) := by
  induction records using List.reverseRecOn with
  | nil => exact List.Pairwise.nil
  | append_singleton records record ih =>
      rw [curvesOf_append]
      split
      · exact ih.alterEntry
      · exact ih

/-- A test has a curve if it has points. -/
theorem mem_keys_curvesOf (testId : Bytes) :
    testId ∈ (curvesOf read records).map Prod.fst ↔ pointsOf read records testId ≠ [] := by
  induction records using List.reverseRecOn with
  | nil => simp [curvesOf, analyzeRecords, pointsOf]
  | append_singleton records record ih =>
      rw [curvesOf_append, pointsOf_append]
      cases hpoint : pointOf read record with
      | none => simp [ih]
      | some point =>
          rw [mem_keys_alterEntry, ih]
          by_cases h : record.testId = testId
          · simp [h]
          · simp [h, Ne.symm h]

/-- **A curve has the points of its test.** -/
theorem curvesOf_spec {entry : Bytes × ResilienceCurve ℚ} (h : entry ∈ curvesOf read records) :
    entry.2.points = pointsOf read records entry.1 := by
  induction records using List.reverseRecOn generalizing entry with
  | nil => cases h
  | append_singleton records record ih =>
      rw [curvesOf_append] at h
      rw [pointsOf_append]
      cases hpoint : pointOf read record with
      | none =>
          rw [hpoint] at h
          simp [ih h]
      | some point =>
          rw [hpoint] at h
          rcases of_mem_alterEntry (keysOrdered_curvesOf read records) h with
            ⟨h, hkey⟩ | ⟨curve, rfl, h | ⟨hkey, rfl⟩⟩
          · simp [ih h, Ne.symm hkey]
          · have hpoints := ih h
            simp only at hpoints
            simp [hpoints]
          · have hempty : pointsOf read records record.testId = [] := by
              by_contra hne
              exact hkey ((mem_keys_curvesOf read records record.testId).2 hne)
            simp [hempty]

/-- The points of a test are points of section F. -/
theorem pointsOf_subset (testId : Bytes) : pointsOf read records testId ⊆ fPoints read records := by
  intro point hpoint
  obtain ⟨record, hrecord, hpoint⟩ := List.mem_filterMap.1 hpoint
  exact List.mem_filterMap.2 ⟨record, (List.mem_filter.1 hrecord).1, hpoint⟩

/-- If section F has points, it has curves. -/
theorem curvesOf_ne_nil (h : fPoints read records ≠ []) : curvesOf read records ≠ [] := by
  obtain ⟨point, hpoint⟩ := List.exists_mem_of_ne_nil _ h
  obtain ⟨record, hrecord, hpoint⟩ := List.mem_filterMap.1 hpoint
  have hmem : point ∈ pointsOf read records record.testId :=
    List.mem_filterMap.2 ⟨record, List.mem_filter.2 ⟨hrecord, by simp⟩, hpoint⟩
  have hkey := (mem_keys_curvesOf read records record.testId).2 (List.ne_nil_of_mem hmem)
  exact fun hnil => by simp [hnil] at hkey

end Resilience

/-! ### The area of a curve -/

/-- The points are at one intensity. -/
def OneIntensity (points : List (ResiliencePoint ℚ)) : Prop :=
  ∀ p ∈ points, ∀ q ∈ points, p.intensity = q.intensity

/-- Several points at one intensity, with successes that are all positive or all negative. -/
def FlatCurve (points : List (ResiliencePoint ℚ)) : Prop :=
  2 ≤ points.length ∧ OneIntensity points ∧
    ((∀ p ∈ points, 0 < p.success) ∨ ∀ p ∈ points, p.success < 0)

/-- Whether a curve is flat does not depend on the order of its points. -/
theorem flatCurve_perm {points points' : List (ResiliencePoint ℚ)} (h : points.Perm points') :
    FlatCurve points ↔ FlatCurve points' := by
  simp only [FlatCurve, OneIntensity, h.length_eq, h.mem_iff]

/-- The successes of some points. -/
def successes (points : List (ResiliencePoint ℚ)) : List ℚ := points.map ResiliencePoint.success

/-- The loop of the code adds up the trapezoids. -/
theorem integrate_eq (integral : ℚ) (p : ResiliencePoint ℚ) (points : List (ResiliencePoint ℚ)) :
    integrate integral p points =
      integral + trapezoids ResiliencePoint.intensity ResiliencePoint.success p points := by
  induction points generalizing integral p with
  | nil => simp [integrate, trapezoids]
  | cons q points ih =>
      simp only [integrate, trapezoids, ih]
      push_cast
      ring

/-- The area of several points in order is the normalized area under them, or zero when they are at
one intensity. -/
theorem curveArea_eq (p q : ResiliencePoint ℚ) (points : List (ResiliencePoint ℚ)) :
    curveArea (p :: q :: points) =
      if p.intensity < (lastPoint p (q :: points)).intensity then
        trapezoids ResiliencePoint.intensity ResiliencePoint.success p (q :: points) /
          ((lastPoint p (q :: points)).intensity - p.intensity)
      else 0 := by
  simp only [curveArea, integrate_eq, zero_add, sub_pos]
  rfl

/-- **When the area is an average**: unless the curve is flat. -/
theorem between_curveArea_iff {points : List (ResiliencePoint ℚ)} (hne : points ≠ [])
    (hsorted : points.Pairwise fun p q => p.intensity ≤ q.intensity) :
    Between (successes points) (curveArea points) ↔ ¬ FlatCurve points := by
  match points, hne with
  | [p], _ =>
      have hlength : ¬ 2 ≤ [p].length := by simp
      exact iff_of_true (between_of_mem List.mem_cons_self) fun hflat => hlength hflat.1
  | p :: q :: points, _ =>
      rw [curveArea_eq]
      split
      · next hspan =>
          refine iff_of_true (between_trapezoids hsorted hspan) fun hflat => hspan.ne ?_
          exact hflat.2.1 _ List.mem_cons_self _ (List.getLast_mem _)
      · next hspan =>
          have hone : OneIntensity (p :: q :: points) := by
            have heq := eq_of_lastPoint_le hsorted (not_lt.1 hspan)
            exact fun a ha b hb => (heq a ha).trans (heq b hb).symm
          have hlength : 2 ≤ (p :: q :: points).length := by simp
          rw [between_iff]
          simp only [FlatCurve, hlength, hone, true_and, successes, List.forall_mem_map]

/-! ### The scorecard -/

/-- What is known of the sorting of points: it rearranges them, and the intensities ascend. -/
structure SortsPoints (sortPoints : List (ResiliencePoint ℚ) → List (ResiliencePoint ℚ)) :
    Prop where
  perm : ∀ points, (sortPoints points).Perm points
  sorted : ∀ points, (sortPoints points).Pairwise fun p q => p.intensity ≤ q.intensity

section Index

variable (read : Double → ℚ) (records : List MetricRecord)

/-- Areas and index are averages: each area of successes on its curve, the index of successes in
section F, so that it is one when all of them are. -/
structure AreasAverage (card : Scorecard ℚ) : Prop where
  areas : ∀ curve ∈ card.curves, Between (successes curve.points) curve.area
  index : fPoints read records ≠ [] →
    Between (successes (fPoints read records)) card.resilienceIndex
  succeeded : fPoints read records ≠ [] → (∀ point ∈ fPoints read records, point.success = 1) →
    card.resilienceIndex = 1

/-- The mean of the code is the mean. -/
theorem mean_eq {values : List ℚ} (h : values ≠ []) : mean values = values.sum / values.length := by
  rw [mean, if_pos (List.length_pos_iff.2 h), List.sum_eq_foldl]

variable {sortPoints : List (ResiliencePoint ℚ) → List (ResiliencePoint ℚ)}
  (hsort : SortsPoints sortPoints) (store : MetricsStore)

include hsort in
/-- When the area of a curve of the scorecard is an average. -/
theorem between_finishCurve_iff {entry : Bytes × ResilienceCurve ℚ}
    (h : entry ∈ curvesOf read records) :
    Between (successes (finishCurve sortPoints entry.2).points)
        (finishCurve sortPoints entry.2).area ↔ ¬ FlatCurve (pointsOf read records entry.1) := by
  have hperm := hsort.perm entry.2.points
  have hne : sortPoints entry.2.points ≠ [] := by
    have hkey := (mem_keys_curvesOf read records entry.1).1 (List.mem_map_of_mem h)
    rw [← curvesOf_spec read records h] at hkey
    exact fun hnil => hkey (List.nil_perm.1 (hnil ▸ hperm))
  rw [finishCurve, between_curveArea_iff hne (hsort.sorted _), flatCurve_perm hperm,
    curvesOf_spec read records h]

/-- The curves of a scorecard are those of the first loop, finished. -/
theorem mem_curves {curve : ResilienceCurve ℚ} :
    curve ∈ (analyze read sortPoints store).curves ↔
      ∃ entry ∈ curvesOf read store.records, finishCurve sortPoints entry.2 = curve := by
  have hperm := List.mergeSort_perm ((curvesOf read store.records).map fun entry =>
    finishCurve sortPoints entry.2) fun x y => decide (¬ y.impairmentId < x.impairmentId)
  exact hperm.mem_iff.trans List.mem_map

include hsort in
/-- **Exactly without flat curves areas and index are averages.** -/
theorem areasAverage_iff :
    AreasAverage read store.records (analyze read sortPoints store) ↔
      ∀ testId, ¬ FlatCurve (pointsOf read store.records testId) := by
  constructor
  · intro h testId hflat
    have hne : pointsOf read store.records testId ≠ [] := by
      rintro hnil
      simp [hnil, FlatCurve] at hflat
    obtain ⟨entry, hentry, rfl⟩ :=
      List.mem_map.1 ((mem_keys_curvesOf read store.records testId).2 hne)
    have harea := h.areas _ ((mem_curves read store).2 ⟨entry, hentry, rfl⟩)
    exact (between_finishCurve_iff read store.records hsort hentry).1 harea hflat
  · intro hflat
    have hcurve : ∀ entry ∈ curvesOf read store.records,
        Between (successes (finishCurve sortPoints entry.2).points)
          (finishCurve sortPoints entry.2).area := fun entry hentry =>
      (between_finishCurve_iff read store.records hsort hentry).2 (hflat entry.1)
    have hindex : fPoints read store.records ≠ [] →
        Between (successes (fPoints read store.records))
          (analyze read sortPoints store).resilienceIndex := by
      intro hne
      have hareas : ((curvesOf read store.records).map fun entry =>
          (finishCurve sortPoints entry.2).area) ≠ [] :=
        List.map_eq_nil_iff.not.2 (curvesOf_ne_nil read store.records hne)
      have hmean := between_mean hareas
      rw [← mean_eq hareas] at hmean
      have hall : Between (successes (fPoints read store.records)) _ := hmean.trans fun area h => by
        obtain ⟨entry, hentry, rfl⟩ := List.mem_map.1 h
        refine (hcurve entry hentry).mono ?_
        refine List.map_subset _ fun point hpoint => ?_
        have hmem := (hsort.perm entry.2.points).mem_iff.1 hpoint
        rw [curvesOf_spec read store.records hentry] at hmem
        exact pointsOf_subset read store.records entry.1 hmem
      simpa only [analyze, List.map_map, curvesOf, Function.comp_def] using hall
    refine ⟨fun curve h => ?_, hindex, fun hne hone => ?_⟩
    · obtain ⟨entry, hentry, rfl⟩ := (mem_curves read store).1 h
      exact hcurve entry hentry
    · refine (hindex hne).eq_of_forall_eq fun success h => ?_
      obtain ⟨point, hpoint, rfl⟩ := List.mem_map.1 h
      exact hone point hpoint

end Index

/-- The points by intensity, equal ones as they were. -/
def byIntensity : List (ResiliencePoint ℚ) → List (ResiliencePoint ℚ) :=
  List.insertionSort fun p q => p.intensity ≤ q.intensity

theorem sortsPoints_byIntensity : SortsPoints byIntensity := by
  have htotal : Std.Total fun p q : ResiliencePoint ℚ => p.intensity ≤ q.intensity :=
    ⟨fun p q => le_total p.intensity q.intensity⟩
  have htrans : IsTrans (ResiliencePoint ℚ) fun p q => p.intensity ≤ q.intensity :=
    ⟨fun _ _ _ => le_trans⟩
  exact ⟨List.perm_insertionSort _, List.pairwise_insertionSort _⟩

/-- A finite number as it is. -/
def rationalOf : Double → ℚ
  | .finite x => x.value
  | _ => 0

/-- A test passed at some intensity. -/
def passedAt (intensity : ℤ) : MetricRecord :=
  { testId := text "F-01", outcome := .pass, intensity := some (Double.ofInt intensity) }

/-- The scorecard of some records, with the points sorted by insertion. -/
def resilienceScorecard (records : List MetricRecord) : Scorecard ℚ :=
  analyze rationalOf byIntensity { records := records }

/-- Two successes at different intensities. -/
theorem passedTwice_index :
    AreasAverage rationalOf [passedAt 0, passedAt 1]
      (resilienceScorecard [passedAt 0, passedAt 1]) := by
  refine (areasAverage_iff rationalOf sortsPoints_byIntensity
    { records := [passedAt 0, passedAt 1] }).2 fun testId hflat => ?_
  by_cases h : text "F-01" = testId
  · subst h
    have hintensities : (pointsOf rationalOf [passedAt 0, passedAt 1] (text "F-01")).map
        ResiliencePoint.intensity = [0, 1] := by decide +kernel
    obtain ⟨p, hp, hzero⟩ := List.mem_map.1 (hintensities ▸ List.mem_cons_self)
    obtain ⟨q, hq, hone⟩ := List.mem_map.1
      (hintensities ▸ List.mem_cons_of_mem _ List.mem_cons_self)
    exact zero_ne_one (hzero.symm.trans ((hflat.2.1 p hp q hq).trans hone))
  · have hempty : pointsOf rationalOf [passedAt 0, passedAt 1] testId = [] := by
      simp [pointsOf, passedAt, h]
    simp [hempty, FlatCurve] at hflat

/-- **Two successes at one intensity** have an index of zero. -/
theorem repeatedIntensity_index :
    ¬ AreasAverage rationalOf [passedAt 0, passedAt 0]
      (resilienceScorecard [passedAt 0, passedAt 0]) := by
  intro h
  have hone := h.succeeded (by decide +kernel) (by decide +kernel)
  exact absurd hone (by decide +kernel)

end TftpHarness
