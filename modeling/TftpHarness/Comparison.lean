/-
**Comparison mode.**

Two stores of the same suite are compared record by record: `render_divergences` keys the records of
each by test and intensity, and reports the keys whose records disagree in outcome or integrity.
The maps keep one record for each key, the last.  A test that emits several records under one key is
compared by the last of them, whatever the others say.

`std::sort`, which leaves open how equal elements end up, is a parameter.  The scoring axes and the
verdict, which do not look at single records, follow in modules of their own.

Main definitions:

* `TftpHarness.recordKey`, `TftpHarness.recordsByKey` — records by test and intensity;
* `TftpHarness.divergences`, `TftpHarness.renderDivergences` — **the divergences and their report**;
* `TftpHarness.LastOfKey` — the record at a position is the last with its key;
* `TftpHarness.HidesNothing` — every disagreement is represented in the report.

Main results:

* `TftpHarness.getElem?_recordsByKey` — the maps keep the last record of each key;
* `TftpHarness.hides_nothing_iff` — **nothing is hidden exactly when every test with a disagreement
  has one at the last record of a key**.
-/

import TftpHarness.Report

set_option relaxedAutoImplicit false
set_option autoImplicit false

namespace TftpHarness

/-! ### Divergences -/

/-- `record_key`. -/
def recordKey (record : MetricRecord) : Bytes :=
  record.testId ++ text "|" ++ record.intensityLabel

/-- The records by their keys; a later record replaces an earlier one. -/
def recordsByKey (records : List MetricRecord) : Std.ExtTreeMap Bytes MetricRecord :=
  records.foldl (fun byKey record => byKey.insert (recordKey record) record) ∅

/-- The two records disagree. -/
def Diverges (ra rb : MetricRecord) : Prop :=
  ra.outcome ≠ rb.outcome ∨ ra.integrityViolation ≠ rb.integrityViolation

instance (ra rb : MetricRecord) : Decidable (Diverges ra rb) := inferInstanceAs (Decidable (_ ∨ _))

structure Divergence where
  testId : Bytes
  intensity : Bytes
  rfc : Bytes
  aOutcome : Bytes
  bOutcome : Bytes
  detail : Bytes
  deriving DecidableEq

/-- The divergence of two records.  The narrative of the failing side explains it. -/
def divergenceOf (ra rb : MetricRecord) : Divergence where
  testId := ra.testId
  intensity := ra.intensityLabel
  rfc := ra.rfcClause
  aOutcome := outcomeName ra.outcome
  bOutcome := outcomeName rb.outcome
  detail := if ra.outcome = .fail then ra.narrative else rb.narrative

/-- The divergences of two lists of records, in the order of the keys. -/
def divergences (a b : List MetricRecord) : List Divergence :=
  (recordsByKey a).toList.filterMap fun entry =>
    match (recordsByKey b)[entry.1]? with
    | none => none
    | some rb => if Diverges entry.2 rb then some (divergenceOf entry.2 rb) else none

/-! ### The report -/

/-- `html_escape`. -/
def htmlEscape (raw : Bytes) : Bytes :=
  raw.flatMap fun c =>
    if c = 38 then text "&amp;"
    else if c = 60 then text "&lt;"
    else if c = 62 then text "&gt;"
    else if c = 34 then text "&quot;"
    else if c = 39 then text "&#39;"
    else [c]

/-- The class of an outcome's badge. -/
def badgeOf (outcome : Bytes) : Bytes :=
  if outcome = text "PASS" then text "pass"
  else if outcome = text "FAIL" then text "fail"
  else text "skip"

/-- The row of a divergence. -/
def divergenceRow (d : Divergence) : Bytes :=
  text "<tr><td class=\"mono\">" ++ htmlEscape d.testId ++ text "</td><td>" ++
    htmlEscape d.intensity ++ text "</td><td><span class=\"badge " ++ badgeOf d.aOutcome ++
    text "\">" ++ d.aOutcome ++ text "</span></td><td><span class=\"badge " ++
    badgeOf d.bOutcome ++ text "\">" ++ d.bOutcome ++ text "</span></td><td class=\"sub\">" ++
    htmlEscape d.rfc ++ text "</td><td class=\"narrative\">" ++ htmlEscape d.detail ++
    text "</td></tr>"

/-- The report that there are no divergences. -/
def noDivergences : Bytes :=
  text "<div class=\"callout good\">The two implementations produced " ++
    text "identical outcomes on every shared test. No divergences to " ++ text "attribute.</div>"

/-- The table of some divergences. -/
def divergenceTable (ds : List Divergence) : Bytes :=
  text "<p class=\"sub\">" ++ toDecimal ds.length ++
    text " test(s) where the two implementations diverged, each traced to its " ++
    text "RFC clause.</p>" ++
    text "<div class=\"tablewrap\"><table><thead><tr><th>Test</th>" ++
    text "<th>Condition</th><th>A</th><th>B</th><th>RFC</th>" ++
    text "<th>Explanation</th></tr></thead><tbody>" ++ ds.flatMap divergenceRow ++
    text "</tbody></table></div>"

section Render

variable {α : Type} (sortByTest : List Divergence → List Divergence) (a b : Scorecard α)

/-- The divergences that are reported. -/
def reported : List Divergence := sortByTest (divergences a.records b.records)

/-- **`render_divergences`.** -/
def renderDivergences : Bytes :=
  if reported sortByTest a b = [] then noDivergences
  else divergenceTable (reported sortByTest a b)

end Render

/-! ### What the maps keep -/

/-- The record at a position, when no later record has its key. -/
def LastOfKey (records : List MetricRecord) (j : ℕ) (record : MetricRecord) : Prop :=
  records[j]? = some record ∧
    ∀ k later, j < k → records[k]? = some later → recordKey later ≠ recordKey record

/-- The last record of a list after one more is appended: the new one, or a former last one with
another key. -/
theorem lastOfKey_append_singleton {records : List MetricRecord} {new record : MetricRecord}
    {j : ℕ} : LastOfKey (records ++ [new]) j record ↔
      j = records.length ∧ record = new ∨
        LastOfKey records j record ∧ recordKey new ≠ recordKey record := by
  constructor
  · rintro ⟨hj, hlast⟩
    rcases Nat.lt_trichotomy j records.length with hlt | rfl | hgt
    · rw [List.getElem?_append_left hlt] at hj
      refine Or.inr ⟨⟨hj, ?_⟩, hlast records.length new hlt List.getElem?_concat_length⟩
      intro k later hk hlater
      refine hlast k later hk ?_
      rw [List.getElem?_append_left (List.getElem?_eq_some_iff.1 hlater).1]
      exact hlater
    · rw [List.getElem?_concat_length] at hj
      exact Or.inl ⟨rfl, (Option.some.inj hj).symm⟩
    · have hnone : (records ++ [new])[j]? = none := List.getElem?_eq_none (by
        rw [List.length_append, List.length_singleton]
        omega)
      rw [hnone] at hj
      cases hj
  · rintro (⟨rfl, rfl⟩ | ⟨⟨hj, hlast⟩, hnew⟩)
    · refine ⟨List.getElem?_concat_length, fun k later hk hlater => ?_⟩
      have hlt := (List.getElem?_eq_some_iff.1 hlater).1
      rw [List.length_append, List.length_singleton] at hlt
      omega
    · have hlt := (List.getElem?_eq_some_iff.1 hj).1
      refine ⟨by rw [List.getElem?_append_left hlt]; exact hj, fun k later hk hlater => ?_⟩
      rcases Nat.lt_or_ge k records.length with hkl | hkl
      · rw [List.getElem?_append_left hkl] at hlater
        exact hlast k later hk hlater
      · have hkt := (List.getElem?_eq_some_iff.1 hlater).1
        rw [List.length_append, List.length_singleton] at hkt
        obtain rfl : k = records.length := by omega
        rw [List.getElem?_concat_length] at hlater
        rw [← Option.some.inj hlater]
        exact hnew

/-- **The map holds the last record of each key.** -/
theorem getElem?_recordsByKey {records : List MetricRecord} {key : Bytes}
    {record : MetricRecord} : (recordsByKey records)[key]? = some record ↔
      recordKey record = key ∧ ∃ j, LastOfKey records j record := by
  induction records using List.reverseRecOn with
  | nil => simp [recordsByKey, LastOfKey]
  | append_singleton records new ih =>
      have hinsert : recordsByKey (records ++ [new]) =
          (recordsByKey records).insert (recordKey new) new := by
        rw [recordsByKey, List.foldl_append]
        rfl
      rw [hinsert, Std.ExtTreeMap.getElem?_insert]
      simp only [lastOfKey_append_singleton, Std.LawfulEqCmp.compare_eq_iff_eq]
      by_cases hkey : recordKey new = key
      · rw [if_pos hkey]
        constructor
        · intro h
          obtain rfl := Option.some.inj h
          exact ⟨hkey, records.length, Or.inl ⟨rfl, rfl⟩⟩
        · rintro ⟨hrecord, j, ⟨-, rfl⟩ | ⟨-, hne⟩⟩
          · rfl
          · exact absurd (hkey.trans hrecord.symm) hne
      · rw [if_neg hkey, ih]
        constructor
        · rintro ⟨hrecord, j, hlast⟩
          exact ⟨hrecord, j, Or.inr ⟨hlast, by rw [hrecord]; exact hkey⟩⟩
        · rintro ⟨hrecord, j, ⟨-, rfl⟩ | ⟨hlast, -⟩⟩
          · exact absurd hrecord hkey
          · exact ⟨hrecord, j, hlast⟩

/-! ### The same suite run twice -/

/-- The records are of the same test and intensity. -/
def SameTest (ra rb : MetricRecord) : Prop :=
  ra.testId = rb.testId ∧ ra.intensityLabel = rb.intensityLabel

instance (ra rb : MetricRecord) : Decidable (SameTest ra rb) := inferInstanceAs (Decidable (_ ∧ _))

section Aligned

variable {as bs : List MetricRecord}

/-- Records of the same tests have the same keys. -/
theorem keys_aligned (h : List.Forall₂ SameTest as bs) : as.map recordKey = bs.map recordKey := by
  induction h with
  | nil => rfl
  | cons hsame _ ih => simp only [List.map_cons, ih, recordKey, hsame.1, hsame.2]

/-- The records at a position of two lists with the same keys. -/
theorem exists_aligned (hkeys : as.map recordKey = bs.map recordKey) {j : ℕ} {ra : MetricRecord}
    (hj : as[j]? = some ra) : ∃ rb, bs[j]? = some rb ∧ recordKey rb = recordKey ra := by
  have hmap : (as.map recordKey)[j]? = (bs.map recordKey)[j]? := by rw [hkeys]
  rw [List.getElem?_map, List.getElem?_map, hj, Option.map_some] at hmap
  exact Option.map_eq_some_iff.1 hmap.symm

/-- The last records of a key stand at the same position. -/
theorem LastOfKey.aligned (hkeys : as.map recordKey = bs.map recordKey) {j : ℕ}
    {ra rb : MetricRecord} (h : LastOfKey as j ra) (hj : bs[j]? = some rb) : LastOfKey bs j rb := by
  obtain ⟨rb', hj', hkey⟩ := exists_aligned hkeys h.1
  obtain rfl : rb' = rb := Option.some.inj (hj'.symm.trans hj)
  refine ⟨hj, fun k later hk hlater => ?_⟩
  obtain ⟨earlier, hearlier, hsame⟩ := exists_aligned hkeys.symm hlater
  rw [← hsame, hkey]
  exact h.2 k earlier hk hearlier

/-- There is one last record of a key. -/
theorem LastOfKey.unique {j k : ℕ} {record record' : MetricRecord} (h : LastOfKey as j record)
    (h' : LastOfKey as k record') (hkey : recordKey record = recordKey record') : j = k := by
  rcases Nat.lt_trichotomy j k with hlt | heq | hgt
  · exact absurd hkey.symm (h.2 k record' hlt h'.1)
  · exact heq
  · exact absurd hkey (h'.2 j record hgt h.1)

/-- **The divergences of the same suite** are those of the last records of the keys. -/
theorem mem_divergences_iff (hkeys : as.map recordKey = bs.map recordKey) {d : Divergence} :
    d ∈ divergences as bs ↔ ∃ j ra rb, LastOfKey as j ra ∧ bs[j]? = some rb ∧ Diverges ra rb ∧
      d = divergenceOf ra rb := by
  simp only [divergences, List.mem_filterMap, Prod.exists,
    Std.ExtTreeMap.mem_toList_iff_getElem?_eq_some]
  constructor
  · rintro ⟨key, ra, ha, hd⟩
    obtain ⟨hkey, j, hlast⟩ := getElem?_recordsByKey.1 ha
    split at hd
    · cases hd
    · next rb hb =>
        -- the last record of the key in the second list stands at the same position
        obtain ⟨hkeyb, k, hlastb⟩ := getElem?_recordsByKey.1 hb
        obtain ⟨rb', hj, hkey'⟩ := exists_aligned hkeys hlast.1
        have hlast' := hlast.aligned hkeys hj
        have hjk : j = k := hlast'.unique hlastb (by rw [hkey', hkey, hkeyb])
        split at hd
        · next hdiv =>
            rw [hjk] at hlast
            exact ⟨k, ra, rb, hlast, hlastb.1, hdiv, (Option.some.inj hd).symm⟩
        · cases hd
  · rintro ⟨j, ra, rb, hlast, hj, hdiv, rfl⟩
    have hlastb := hlast.aligned hkeys hj
    obtain ⟨rb', hj', hkey⟩ := exists_aligned hkeys hlast.1
    obtain rfl : rb' = rb := Option.some.inj (hj'.symm.trans hj)
    refine ⟨recordKey ra, ra, getElem?_recordsByKey.2 ⟨rfl, j, hlast⟩, ?_⟩
    have hb : (recordsByKey bs)[recordKey ra]? = some rb' :=
      getElem?_recordsByKey.2 ⟨hkey, j, hlastb⟩
    simp only [hb, if_pos hdiv]

end Aligned

/-! ### What is hidden -/

section Hiding

variable {α : Type} (sortByTest : List Divergence → List Divergence) (a b : Scorecard α)

/-- **Nothing is hidden**: where the report says that there are no divergences the records agree at
every position, and where two records disagree a divergence of their test is reported. -/
structure HidesNothing : Prop where
  silent : renderDivergences sortByTest a b = noDivergences → ∀ (i : ℕ) ra rb,
    a.records[i]? = some ra → b.records[i]? = some rb → ¬ Diverges ra rb
  represented : ∀ (i : ℕ) ra rb,
    a.records[i]? = some ra → b.records[i]? = some rb → Diverges ra rb →
      ∃ d ∈ reported sortByTest a b, d.testId = ra.testId

/-- The two reports begin differently. -/
theorem divergenceTable_ne_noDivergences (ds : List Divergence) :
    divergenceTable ds ≠ noDivergences := by
  intro h
  have htable : (divergenceTable ds).take 2 = (text "<p class=\"sub\">").take 2 := by
    unfold divergenceTable
    simp only [List.append_assoc]
    exact List.take_append_of_le_length (by decide +kernel)
  have hne : noDivergences.take 2 ≠ (text "<p class=\"sub\">").take 2 := by decide +kernel
  rw [h] at htable
  exact hne htable

/-- **Comparison mode hides nothing** exactly when every test with a disagreement has one at the
last record of a key. -/
theorem hides_nothing_iff (hsort : ∀ ds, (sortByTest ds).Perm ds)
    (haligned : List.Forall₂ SameTest a.records b.records) :
    HidesNothing sortByTest a b ↔
      ∀ (i : ℕ) ra rb, a.records[i]? = some ra → b.records[i]? = some rb → Diverges ra rb →
        ∃ j ra' rb', LastOfKey a.records j ra' ∧ b.records[j]? = some rb' ∧ Diverges ra' rb' ∧
          ra'.testId = ra.testId := by
  have hkeys := keys_aligned haligned
  have hmem : ∀ d, d ∈ reported sortByTest a b ↔ d ∈ divergences a.records b.records :=
    fun d => (hsort _).mem_iff
  constructor
  · intro h i ra rb hi hi' hdiv
    obtain ⟨d, hd, htest⟩ := h.represented i ra rb hi hi' hdiv
    obtain ⟨j, ra', rb', hlast, hj, hdiv', rfl⟩ := (mem_divergences_iff hkeys).1 ((hmem d).1 hd)
    exact ⟨j, ra', rb', hlast, hj, hdiv', htest⟩
  · intro h
    have hrep : ∀ (i : ℕ) ra rb, a.records[i]? = some ra → b.records[i]? = some rb →
        Diverges ra rb → ∃ d ∈ reported sortByTest a b, d.testId = ra.testId := by
      intro i ra rb hi hi' hdiv
      obtain ⟨j, ra', rb', hlast, hj, hdiv', htest⟩ := h i ra rb hi hi' hdiv
      exact ⟨divergenceOf ra' rb',
        (hmem _).2 ((mem_divergences_iff hkeys).2 ⟨j, ra', rb', hlast, hj, hdiv', rfl⟩), htest⟩
    refine ⟨fun hnone i ra rb hi hi' hdiv => ?_, hrep⟩
    obtain ⟨d, hd, -⟩ := hrep i ra rb hi hi' hdiv
    unfold renderDivergences at hnone
    rw [if_neg (List.ne_nil_of_mem hd)] at hnone
    exact divergenceTable_ne_noDivergences _ hnone

end Hiding

/-- The scorecard of some records. -/
def scorecardOf (records : List MetricRecord) : Scorecard Double :=
  analyze (fun x => x) (fun points => points) { records := records }

/-- A record of the test that transfers two fixtures. -/
def aroundBlockSizeRecord (outcome : Outcome) : MetricRecord where
  testId := text "A-06"
  outcome := outcome

/-- The second fixture fails on one side only. -/
theorem hides_nothing_iff_second_fixture :
    HidesNothing (sortByKey Divergence.testId)
      (scorecardOf [aroundBlockSizeRecord .pass, aroundBlockSizeRecord .fail])
      (scorecardOf [aroundBlockSizeRecord .pass, aroundBlockSizeRecord .pass]) := by
  refine (hides_nothing_iff _ _ _ (fun ds => List.mergeSort_perm ds _)
    (.cons ⟨rfl, rfl⟩ (.cons ⟨rfl, rfl⟩ .nil))).2 fun i ra rb hi _ _ => ?_
  refine ⟨1, aroundBlockSizeRecord .fail, aroundBlockSizeRecord .pass, ⟨rfl, ?_⟩, rfl,
    Or.inl (by decide), ?_⟩
  · rintro (_ | _ | k) later hk hlater
    · omega
    · omega
    · cases hlater
  · match i, hi with
    | 0, hi => cases hi; rfl
    | 1, hi => cases hi; rfl

/-- The first fixture fails on one side only, and the report says that there are no divergences. -/
theorem first_fixture_hidden :
    List.Forall₂ SameTest
        (scorecardOf [aroundBlockSizeRecord .fail, aroundBlockSizeRecord .pass]).records
        (scorecardOf [aroundBlockSizeRecord .pass, aroundBlockSizeRecord .pass]).records ∧
      renderDivergences (sortByKey Divergence.testId)
        (scorecardOf [aroundBlockSizeRecord .fail, aroundBlockSizeRecord .pass])
        (scorecardOf [aroundBlockSizeRecord .pass, aroundBlockSizeRecord .pass]) = noDivergences ∧
      ¬ HidesNothing (sortByKey Divergence.testId)
        (scorecardOf [aroundBlockSizeRecord .fail, aroundBlockSizeRecord .pass])
        (scorecardOf [aroundBlockSizeRecord .pass, aroundBlockSizeRecord .pass]) := by
  have hnone : divergences [aroundBlockSizeRecord .fail, aroundBlockSizeRecord .pass]
      [aroundBlockSizeRecord .pass, aroundBlockSizeRecord .pass] = [] := by decide +kernel
  have hrender : renderDivergences (sortByKey Divergence.testId)
      (scorecardOf [aroundBlockSizeRecord .fail, aroundBlockSizeRecord .pass])
      (scorecardOf [aroundBlockSizeRecord .pass, aroundBlockSizeRecord .pass]) =
      noDivergences := by
    have hreported : reported (sortByKey Divergence.testId)
        (scorecardOf [aroundBlockSizeRecord .fail, aroundBlockSizeRecord .pass])
        (scorecardOf [aroundBlockSizeRecord .pass, aroundBlockSizeRecord .pass]) = [] := by
      have hdivergences : divergences
          (scorecardOf [aroundBlockSizeRecord .fail, aroundBlockSizeRecord .pass]).records
          (scorecardOf [aroundBlockSizeRecord .pass, aroundBlockSizeRecord .pass]).records = [] :=
        hnone
      rw [reported, hdivergences, sortByKey, List.mergeSort_nil]
    rw [renderDivergences, if_pos hreported]
  exact ⟨.cons ⟨rfl, rfl⟩ (.cons ⟨rfl, rfl⟩ .nil), hrender,
    fun h => h.silent hrender 0 _ _ rfl rfl (Or.inl (by decide))⟩

end TftpHarness
