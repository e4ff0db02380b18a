/-
**The accounts of a scorecard.**

The first loop of `analyze` keeps a dozen accumulators, one of them a map from sections to counts
and weights, and the code after it adds the sections up again.  Nothing may get lost on the way: a
record is counted once in a total and once in its section, a failure is clean or ungraceful, a
critical failure and an integrity violation are each listed once.  The conformance score is then a
quotient of two weights over the records themselves, from which its range, its growth when a
failure turns into a pass and its indifference to records without weight are read off.

The numbers are exact, so sums do not depend on the order of the records; nor does the map, because
changing two of its entries in either order gives the same map.

Main definitions:

* `TftpHarness.weightOf`, `TftpHarness.Weighs` — the weight of some records in the conformance
  score, and the records that have one;
* `TftpHarness.Conserved`, `TftpHarness.SameAccounts` — what a scorecard accounts for, and what two
  scorecards agree on.

Main results:

* `TftpHarness.alterEntry_comm`, `TftpHarness.sum_alterEntry` — the map of the sections;
* `TftpHarness.mem_sectionAccums` — what a section has accumulated;
* `TftpHarness.conformanceScore_eq` — **the score is a quotient of weights**;
* `TftpHarness.scorecard_accounts` — the accounts of every store.
-/

import Mathlib.Data.List.Perm.Basic
import TftpHarness.Report

set_option relaxedAutoImplicit false
set_option autoImplicit false

namespace TftpHarness

/-! ### Maps -/

/-- Two keys are equal or one is before the other. -/
theorem key_lt_of_not_lt {a b : Bytes} (hlt : ¬ a < b) (hne : a ≠ b) : b < a := by
  by_contra h
  exact hne (List.le_antisymm h hlt)

section Maps

variable {ν : Type}

/-- Changes of two entries, the first key before the second. -/
theorem alterEntry_comm_of_lt {key key' : Bytes} (hlt : key < key') {absent : ν} (f g : ν → ν)
    (m : List (Bytes × ν)) :
    alterEntry key absent f (alterEntry key' absent g m) =
      alterEntry key' absent g (alterEntry key absent f m) := by
  have hne : key ≠ key' := fun h => List.lt_irrefl key' (h ▸ hlt)
  have hnot : ¬ key' < key := fun h => List.lt_irrefl key (List.lt_trans hlt h)
  induction m with
  | nil => simp [alterEntry, hne, hne.symm, hlt, hnot]
  | cons entry m ih =>
      obtain ⟨k, v⟩ := entry
      by_cases hk : k = key
      · subst hk
        simp [alterEntry, hne, hnot]
      by_cases hkey : key < k
      · by_cases hk' : k = key'
        · subst hk'
          simp [alterEntry, hk, hkey, hne, hnot]
        · by_cases hkey' : key' < k <;>
            simp [alterEntry, hk, hk', hkey, hkey', hne, hne.symm, hlt, hnot]
      · -- the entry lies before both keys
        have hbefore : k < key := key_lt_of_not_lt hkey (Ne.symm hk)
        have hk' : k ≠ key' := fun h => hnot (h ▸ hbefore)
        have hkey' : ¬ key' < k := fun h => hnot (List.lt_trans h hbefore)
        simp [alterEntry, hk, hk', hkey, hkey', ih]

/-- **Two changes of a map** can be made in either order, if they are of different entries or can
themselves be. -/
theorem alterEntry_comm {key key' : Bytes} {absent : ν} {f g : ν → ν}
    (h : key = key' → ∀ v, f (g v) = g (f v)) (m : List (Bytes × ν)) :
    alterEntry key absent f (alterEntry key' absent g m) =
      alterEntry key' absent g (alterEntry key absent f m) := by
  by_cases hkeys : key = key'
  · subst hkeys
    induction m with
    | nil => simp [alterEntry, h rfl]
    | cons entry m ih =>
        obtain ⟨k, v⟩ := entry
        simp only [alterEntry]
        split
        · next heq => simp [alterEntry, heq, h rfl]
        · split
          · simp [alterEntry, h rfl]
          · next hne hlt => simp [alterEntry, hne, hlt, ih]
  · by_cases hlt : key < key'
    · exact alterEntry_comm_of_lt hlt f g m
    · exact (alterEntry_comm_of_lt (key_lt_of_not_lt hlt hkeys) g f m).symm

/-- A sum over the entries of a map grows by what one entry has gained. -/
theorem sum_alterEntry {β : Type} [AddCommMonoid β] {key : Bytes} {absent : ν} {f : ν → ν}
    {weigh : Bytes → ν → β} {gain : β} (habsent : weigh key absent = 0)
    (hgain : ∀ v, weigh key (f v) = weigh key v + gain) (m : List (Bytes × ν)) :
    ((alterEntry key absent f m).map fun entry => weigh entry.1 entry.2).sum =
      (m.map fun entry => weigh entry.1 entry.2).sum + gain := by
  induction m with
  | nil => simp [alterEntry, hgain, habsent]
  | cons entry m ih =>
      obtain ⟨k, v⟩ := entry
      simp only [alterEntry]
      split
      · next heq =>
          subst heq
          simp only [List.map_cons, List.sum_cons, hgain]
          exact add_right_comm _ _ _
      split
      · simp only [List.map_cons, List.sum_cons, hgain, habsent, zero_add]
        exact add_comm _ _
      · simp only [List.map_cons, List.sum_cons, ih, add_assoc]

/-- The keys of a changed map are those it had and the one that was changed. -/
theorem mem_keys_alterEntry {key : Bytes} {absent : ν} {f : ν → ν} {m : List (Bytes × ν)}
    {k : Bytes} :
    k ∈ (alterEntry key absent f m).map Prod.fst ↔ k = key ∨ k ∈ m.map Prod.fst := by
  induction m with
  | nil => simp [alterEntry]
  | cons entry m ih =>
      obtain ⟨k', v⟩ := entry
      simp only [alterEntry]
      split
      · next heq =>
          subst heq
          simp
      split
      · simp
      · simp only [List.map_cons, List.mem_cons, ih]
        tauto

/-- The keys of a map stand in order, each once. -/
def KeysOrdered (m : List (Bytes × ν)) : Prop := (m.map Prod.fst).Pairwise (· < ·)

/-- A change keeps the keys in order. -/
theorem KeysOrdered.alterEntry {key : Bytes} {absent : ν} {f : ν → ν} {m : List (Bytes × ν)}
    (hm : KeysOrdered m) : KeysOrdered (alterEntry key absent f m) := by
  unfold KeysOrdered at hm ⊢
  induction m with
  | nil => simp [TftpHarness.alterEntry]
  | cons entry m ih =>
      obtain ⟨k, v⟩ := entry
      simp only [List.map_cons, List.pairwise_cons] at hm
      simp only [TftpHarness.alterEntry]
      split
      · simpa using hm
      split
      · next hlt =>
          simp only [List.map_cons, List.pairwise_cons, List.forall_mem_cons]
          exact ⟨⟨hlt, fun k' hk' => List.lt_trans hlt (hm.1 k' hk')⟩, hm⟩
      · next hne hlt =>
          rw [List.map_cons, List.pairwise_cons]
          refine ⟨fun k' hk' => ?_, ih hm.2⟩
          rcases mem_keys_alterEntry.1 hk' with rfl | hk'
          · exact key_lt_of_not_lt hlt (Ne.symm hne)
          · exact hm.1 k' hk'

/-- An entry of a changed map is another one that it had, or the one that was changed. -/
theorem of_mem_alterEntry {key : Bytes} {absent : ν} {f : ν → ν} {m : List (Bytes × ν)}
    (hm : KeysOrdered m) {entry : Bytes × ν} (h : entry ∈ alterEntry key absent f m) :
    entry ∈ m ∧ entry.1 ≠ key ∨
      ∃ v, entry = (key, f v) ∧ ((key, v) ∈ m ∨ key ∉ m.map Prod.fst ∧ v = absent) := by
  induction m with
  | nil => exact Or.inr ⟨absent, List.mem_singleton.1 h, Or.inr ⟨List.not_mem_nil, rfl⟩⟩
  | cons first m ih =>
      obtain ⟨k, v⟩ := first
      have hafter : ∀ e ∈ m, k < e.1 := fun e he =>
        (List.pairwise_cons.1 hm).1 _ (List.mem_map_of_mem he)
      simp only [alterEntry] at h
      split at h
      · next heq =>
          subst heq
          rcases List.mem_cons.1 h with rfl | h
          · exact Or.inr ⟨v, rfl, Or.inl List.mem_cons_self⟩
          · exact Or.inl ⟨List.mem_cons_of_mem _ h, fun hkey =>
              List.lt_irrefl k (hkey ▸ hafter entry h)⟩
      split at h
      · next hne hlt =>
          rcases List.mem_cons.1 h with rfl | h
          · refine Or.inr ⟨absent, rfl, Or.inr ⟨fun hkey => ?_, rfl⟩⟩
            rcases List.mem_cons.1 hkey with hkey | hkey
            · exact hne hkey.symm
            · obtain ⟨e, he, rfl⟩ := List.mem_map.1 hkey
              exact List.lt_irrefl _ (List.lt_trans hlt (hafter e he))
          · refine Or.inl ⟨h, fun hkey => ?_⟩
            rcases List.mem_cons.1 h with rfl | h
            · exact hne hkey
            · exact List.lt_irrefl k (List.lt_trans (hafter entry h) (hkey ▸ hlt))
      · next hne hlt =>
          rcases List.mem_cons.1 h with rfl | h
          · exact Or.inl ⟨List.mem_cons_self, hne⟩
          rcases ih hm.of_cons h with ⟨h, hkey⟩ | ⟨v', rfl, h | ⟨hkey, rfl⟩⟩
          · exact Or.inl ⟨List.mem_cons_of_mem _ h, hkey⟩
          · exact Or.inr ⟨v', rfl, Or.inl (List.mem_cons_of_mem _ h)⟩
          · refine Or.inr ⟨v', rfl, Or.inr ⟨fun h => ?_, rfl⟩⟩
            rcases List.mem_cons.1 h with h | h
            · exact hne h.symm
            · exact hkey h

/-- Keys in order are distinct. -/
theorem KeysOrdered.nodup {m : List (Bytes × ν)} (hm : KeysOrdered m) : (m.map Prod.fst).Nodup := by
  refine List.Pairwise.imp ?_ hm
  rintro a _ hlt rfl
  exact List.lt_irrefl a hlt

/-- A sum over the entries of one key is over the one entry. -/
theorem sum_of_key {β : Type} [AddCommMonoid β] {m : List (Bytes × ν)}
    (hm : (m.map Prod.fst).Nodup) {entry : Bytes × ν} (h : entry ∈ m) (weigh : ν → β) :
    (m.map fun e => if e.1 = entry.1 then weigh e.2 else 0).sum = weigh entry.2 := by
  induction m with
  | nil => cases h
  | cons first m ih =>
      rw [List.map_cons, List.nodup_cons] at hm
      rw [List.map_cons, List.sum_cons]
      rcases List.mem_cons.1 h with rfl | h
      · have hrest : (m.map fun e => if e.1 = entry.1 then weigh e.2 else 0).sum = 0 := by
          refine List.sum_eq_zero fun x hx => ?_
          obtain ⟨e, he, rfl⟩ := List.mem_map.1 hx
          exact if_neg fun heq => hm.1 (List.mem_map.2 ⟨e, he, heq⟩)
        rw [if_pos rfl, hrest, add_zero]
      · have hne : first.1 ≠ entry.1 := fun heq => hm.1 (List.mem_map.2 ⟨entry, h, heq.symm⟩)
        rw [if_neg hne, zero_add, ih hm.2 h]

end Maps

/-! ### What the first loop collects -/

section Collected

/-- An empty section. -/
def Accum.empty : Accum ℚ := ⟨0, 0, 0, 0, 0⟩

/-- The map of the sections after some records. -/
def sectionAccums (records : List MetricRecord) : List (Bytes × Accum ℚ) :=
  records.foldl (fun m record => alterEntry (sectionOf record.testId) .empty (accumulate record) m)
    []

/-- The entry of the list of critical failures for a record. -/
def mustFailureId (record : MetricRecord) : Option Bytes :=
  if record.outcome = .fail ∧ record.severity = .critical then
    some (record.testId ++
      if record.intensityLabel = [] then [] else text " (" ++ record.intensityLabel ++ text ")")
  else none

/-- The entry of the integrity ledger for a record. -/
def integrityEntry (record : MetricRecord) : Option IntegrityEntry :=
  if record.integrityViolation then
    some ⟨record.testId, record.intensityLabel, record.narrative, record.seed⟩
  else none

variable (read : Double → ℚ) (records : List MetricRecord)

theorem analyzeRecords_append (record : MetricRecord) :
    analyzeRecords read (records ++ [record]) =
      analyzeRecord read (analyzeRecords read records) record := by
  rw [analyzeRecords, List.foldl_append]
  rfl

theorem analyzeRecords_bySection :
    (analyzeRecords read records).bySection = sectionAccums records := by
  induction records using List.reverseRecOn with
  | nil => rfl
  | append_singleton records record ih =>
      rw [analyzeRecords_append, sectionAccums, List.foldl_append, ← sectionAccums, ← ih]
      rfl

/-- The number of records with an outcome. -/
def outcomeCount (outcome : Outcome) : ℕ := records.countP fun record => record.outcome = outcome

theorem analyzeRecords_counts :
    (analyzeRecords read records).totalPassed = outcomeCount records .pass ∧
      (analyzeRecords read records).totalFailed = outcomeCount records .fail ∧
      (analyzeRecords read records).totalSkipped = outcomeCount records .skipped := by
  induction records using List.reverseRecOn with
  | nil => exact ⟨rfl, rfl, rfl⟩
  | append_singleton records record ih =>
      rw [analyzeRecords_append]
      simp only [analyzeRecord, ih, outcomeCount, List.countP_append, List.countP_singleton,
        decide_eq_true_eq, and_self]

/-- The failures that were clean, or not. -/
def failureCount (ungraceful : Bool) : ℕ :=
  records.countP fun record => record.outcome = .fail ∧ record.ungracefulFailure = ungraceful

theorem analyzeRecords_failures :
    (analyzeRecords read records).cleanFailures = failureCount records false ∧
      (analyzeRecords read records).ungracefulFailures = failureCount records true := by
  induction records using List.reverseRecOn with
  | nil => exact ⟨rfl, rfl⟩
  | append_singleton records record ih =>
      rw [analyzeRecords_append]
      simp only [analyzeRecord, ih, failureCount, List.countP_append, List.countP_singleton,
        decide_eq_true_eq, and_self]

theorem analyzeRecords_lists :
    (analyzeRecords read records).mustFailureIds = records.filterMap mustFailureId ∧
      (analyzeRecords read records).integrityViolations = records.filterMap integrityEntry := by
  induction records using List.reverseRecOn with
  | nil => exact ⟨rfl, rfl⟩
  | append_singleton records record ih =>
      rw [analyzeRecords_append, List.filterMap_append, List.filterMap_append, ← ih.1, ← ih.2]
      simp only [analyzeRecord, mustFailureId, integrityEntry, List.filterMap_cons,
        List.filterMap_nil]
      constructor
      · split <;> simp
      · split <;> simp

variable {records}

/-- Every record has one of the three outcomes. -/
theorem outcomeCount_sum :
    outcomeCount records .pass + outcomeCount records .fail + outcomeCount records .skipped =
      records.length := by
  unfold outcomeCount
  induction records with
  | nil => rfl
  | cons record records ih =>
      simp only [List.countP_cons, List.length_cons, decide_eq_true_eq]
      cases record.outcome <;> simp <;> omega

/-- Every failure is clean or ungraceful. -/
theorem failureCount_sum :
    failureCount records false + failureCount records true = outcomeCount records .fail := by
  unfold outcomeCount failureCount
  induction records with
  | nil => rfl
  | cons record records ih =>
      simp only [List.countP_cons, decide_eq_true_eq]
      have hsplit : ((if record.outcome = .fail ∧ record.ungracefulFailure = false then 1 else 0) +
          if record.outcome = .fail ∧ record.ungracefulFailure = true then 1 else 0) =
            if record.outcome = .fail then 1 else 0 := by
        cases record.outcome <;> cases record.ungracefulFailure <;> rfl
      omega

/-! ### The sections -/

variable (records)

theorem sectionAccums_append (record : MetricRecord) :
    sectionAccums (records ++ [record]) =
      alterEntry (sectionOf record.testId) .empty (accumulate record) (sectionAccums records) := by
  rw [sectionAccums, List.foldl_append]
  rfl

theorem keysOrdered_sectionAccums : KeysOrdered (sectionAccums records) := by
  induction records using List.reverseRecOn with
  | nil => exact List.Pairwise.nil
  | append_singleton records record ih =>
      rw [sectionAccums_append]
      exact ih.alterEntry

/-- Every record has its section in the map. -/
theorem sectionOf_mem_keys {record : MetricRecord} (h : record ∈ records) :
    sectionOf record.testId ∈ (sectionAccums records).map Prod.fst := by
  induction records using List.reverseRecOn with
  | nil => cases h
  | append_singleton records last ih =>
      rw [sectionAccums_append, mem_keys_alterEntry]
      rcases List.mem_append.1 h with h | h
      · exact Or.inr (ih h)
      · exact Or.inl (by rw [List.mem_singleton.1 h])

/-- **What the sections have accumulated adds up** to what the records contribute. -/
theorem sum_sectionAccums {β : Type} [AddCommMonoid β] (weigh : Bytes → Accum ℚ → β)
    (gain : MetricRecord → β) (hempty : ∀ key, weigh key .empty = 0)
    (hgain : ∀ record v, weigh (sectionOf record.testId) (accumulate record v) =
      weigh (sectionOf record.testId) v + gain record) :
    ((sectionAccums records).map fun entry => weigh entry.1 entry.2).sum =
      (records.map gain).sum := by
  induction records using List.reverseRecOn with
  | nil => rfl
  | append_singleton records record ih =>
      rw [sectionAccums_append, sum_alterEntry (hempty _) (hgain record), ih, List.map_append,
        List.sum_append, List.map_singleton, List.sum_singleton]

/-- Counting is adding up ones. -/
theorem sum_indicator {β : Type} (p : β → Prop) [DecidablePred p] (l : List β) :
    (l.map fun a => if p a then 1 else 0).sum = l.countP fun a => p a := by
  induction l with
  | nil => rfl
  | cons a l ih => simp only [List.map_cons, List.sum_cons, ih, List.countP_cons,
      decide_eq_true_eq, Nat.add_comm]

/-- The number of records of a section with an outcome. -/
def sectionCount (name : Bytes) (outcome : Outcome) : ℕ :=
  records.countP fun record => sectionOf record.testId = name ∧ record.outcome = outcome

/-- The count that a section keeps of an outcome. -/
def Accum.count (accum : Accum ℚ) : Outcome → ℕ
  | .pass => accum.passed
  | .fail => accum.failed
  | .skipped => accum.skipped

theorem count_accumulate (record : MetricRecord) (accum : Accum ℚ) (outcome : Outcome) :
    (accumulate record accum).count outcome =
      accum.count outcome + if record.outcome = outcome then 1 else 0 := by
  cases hrecord : record.outcome <;> cases outcome <;> simp [accumulate, Accum.count, hrecord]

/-- **What a section has accumulated**: the number of its records with each outcome. -/
theorem mem_sectionAccums {entry : Bytes × Accum ℚ} (h : entry ∈ sectionAccums records)
    (outcome : Outcome) : entry.2.count outcome = sectionCount records entry.1 outcome := by
  rw [← sum_of_key (keysOrdered_sectionAccums records).nodup h fun accum => accum.count outcome]
  have hsum := sum_sectionAccums records
    (fun key accum => if key = entry.1 then accum.count outcome else 0)
    (fun record => if sectionOf record.testId = entry.1 ∧ record.outcome = outcome then 1 else 0)
    (fun key => by split <;> cases outcome <;> rfl)
    (fun record v => by
      rw [count_accumulate]
      by_cases hkey : sectionOf record.testId = entry.1 <;> simp [hkey])
  rw [hsum, sectionCount, sum_indicator]

/-- The records of all sections are all the records. -/
theorem sum_counts_sectionAccums :
    ((sectionAccums records).map fun entry =>
      entry.2.passed + entry.2.failed + entry.2.skipped).sum = records.length := by
  rw [sum_sectionAccums records (fun _ accum => accum.passed + accum.failed + accum.skipped)
    (fun _ => 1) (fun _ => rfl) (fun record v => by
      cases hrecord : record.outcome <;> simp [accumulate, hrecord] <;> omega)]
  simp

/-- **The sections do not depend on the order of the records.** -/
theorem sectionAccums_perm {records records' : List MetricRecord} (h : records.Perm records') :
    sectionAccums records = sectionAccums records' := by
  refine h.foldl_eq' (fun x _ y _ m => alterEntry_comm (fun _ v => ?_) m) _
  cases hx : x.outcome <;> cases hy : y.outcome <;>
    simp [accumulate, hx, hy, add_right_comm]

/-! ### The conformance score -/

/-- The weight of the records of the conformance sections with some outcomes. -/
def weightOf (outcomes : List Outcome) : ℚ :=
  ((records.filter fun record =>
    isConformanceSection (sectionOf record.testId) ∧ record.outcome ∈ outcomes).map
      fun record => severityWeight record.severity).sum

theorem severityWeight_nonneg (severity : Severity) : 0 ≤ (severityWeight severity : ℚ) := by
  cases severity <;> simp [severityWeight]

theorem weightOf_cons (outcomes : List Outcome) (record : MetricRecord)
    (records : List MetricRecord) :
    weightOf (record :: records) outcomes =
      (if isConformanceSection (sectionOf record.testId) ∧ record.outcome ∈ outcomes then
        severityWeight record.severity else 0) + weightOf records outcomes := by
  unfold weightOf
  rw [List.filter_cons]
  simp only [decide_eq_true_eq]
  split
  · rw [List.map_cons, List.sum_cons]
  · rw [zero_add]

theorem weightOf_append (outcomes : List Outcome) (records records' : List MetricRecord) :
    weightOf (records ++ records') outcomes =
      weightOf records outcomes + weightOf records' outcomes := by
  rw [weightOf, List.filter_append, List.map_append, List.sum_append]
  rfl

theorem weightOf_nonneg (outcomes : List Outcome) : 0 ≤ weightOf records outcomes := by
  refine List.sum_nonneg fun x hx => ?_
  obtain ⟨record, -, rfl⟩ := List.mem_map.1 hx
  exact severityWeight_nonneg _

/-- The passes weigh no more than the passes and the failures. -/
theorem weightOf_pass_le : weightOf records [.pass] ≤ weightOf records [.pass, .fail] := by
  induction records with
  | nil => exact le_refl _
  | cons record records ih =>
      rw [weightOf_cons, weightOf_cons]
      refine add_le_add ?_ ih
      split
      · next hpass => rw [if_pos ⟨hpass.1, by simp [List.mem_singleton.1 hpass.2]⟩]
      · split
        · exact severityWeight_nonneg _
        · exact le_refl _

/-- The weight over the conformance sections is a sum over all of them. -/
theorem conformanceWeight_eq_sum (weight : Accum ℚ → ℚ) (m : List (Bytes × Accum ℚ)) :
    conformanceWeight weight m =
      (m.map fun entry => if isConformanceSection entry.1 then weight entry.2 else 0).sum := by
  induction m using List.reverseRecOn with
  | nil => rfl
  | append_singleton m entry ih =>
      rw [List.map_append, List.sum_append, ← ih, conformanceWeight, List.foldl_append,
        ← conformanceWeight, List.foldl_cons, List.foldl_nil, List.map_singleton,
        List.sum_singleton]
      split
      · rfl
      · rw [add_zero]

/-- The weight that the sections have accumulated is that of the records they accumulate. -/
theorem conformanceWeight_sectionAccums_eq (weight : Accum ℚ → ℚ) (outcomes : List Outcome)
    (hempty : weight .empty = 0)
    (hgain : ∀ record v, weight (accumulate record v) =
      weight v + if record.outcome ∈ outcomes then severityWeight record.severity else 0) :
    conformanceWeight weight (sectionAccums records) = weightOf records outcomes := by
  rw [conformanceWeight_eq_sum, sum_sectionAccums records
    (fun key accum => if isConformanceSection key then weight accum else 0)
    (fun record => if isConformanceSection (sectionOf record.testId) ∧ record.outcome ∈ outcomes
      then severityWeight record.severity else 0)
    (fun key => by rw [hempty, ite_self])
    (fun record v => by
      rw [hgain]
      by_cases hsection : isConformanceSection (sectionOf record.testId) = true <;>
        simp [hsection])]
  induction records with
  | nil => rfl
  | cons record records ih => rw [List.map_cons, List.sum_cons, ih, weightOf_cons]

/-- The weights of the passes, and of the passes and the failures. -/
theorem conformanceWeight_sectionAccums :
    conformanceWeight Accum.weightPassed (sectionAccums records) = weightOf records [.pass] ∧
      conformanceWeight Accum.weightTotal (sectionAccums records) =
        weightOf records [.pass, .fail] := by
  constructor
  · refine conformanceWeight_sectionAccums_eq records _ _ rfl fun record v => ?_
    cases hrecord : record.outcome <;> simp [accumulate, hrecord]
  · refine conformanceWeight_sectionAccums_eq records _ _ rfl fun record v => ?_
    cases hrecord : record.outcome <;> simp [accumulate, hrecord]

/-- **The conformance score** is the weight of the passes in percent of that of the passes and the
failures. -/
theorem conformanceScore_eq (sortPoints : List (ResiliencePoint ℚ) → List (ResiliencePoint ℚ))
    (store : MetricsStore) :
    (analyze read sortPoints store).conformanceScore =
      if weightOf store.records [.pass, .fail] = 0 then 0
      else 100 * weightOf store.records [.pass] / weightOf store.records [.pass, .fail] := by
  obtain ⟨hpassed, htotal⟩ := conformanceWeight_sectionAccums store.records
  simp only [analyze, analyzeRecords_bySection, hpassed, htotal, percentage]
  have hnonneg := weightOf_nonneg store.records [.pass, .fail]
  by_cases hzero : weightOf store.records [.pass, .fail] = 0
  · rw [if_neg (by rw [hzero]; exact lt_irrefl _), if_pos hzero]
  · rw [if_pos (lt_of_le_of_ne hnonneg (Ne.symm hzero)), if_neg hzero]
    rfl

/-- A failure that turns into a pass weighs as much, and now among the passes. -/
theorem weightOf_turned (before after : List MetricRecord) {record : MetricRecord}
    (hfail : record.outcome = .fail) :
    weightOf (before ++ { record with outcome := .pass } :: after) [.pass, .fail] =
        weightOf (before ++ record :: after) [.pass, .fail] ∧
      weightOf (before ++ record :: after) [.pass] ≤
        weightOf (before ++ { record with outcome := .pass } :: after) [.pass] := by
  simp only [weightOf_append, weightOf_cons, hfail]
  refine ⟨by simp, ?_⟩
  have hweight := severityWeight_nonneg record.severity
  by_cases hsection : isConformanceSection (sectionOf record.testId) = true
  · simpa [hsection] using hweight
  · simp [hsection]

/-- A record that weighs in the conformance score, if it is in one of its sections at all. -/
def Weighs (record : MetricRecord) : Prop :=
  record.outcome ≠ .skipped ∧ record.severity ≠ .info ∧
    sectionOf record.testId ≠ text "F" ∧ sectionOf record.testId ≠ text "H"

instance (record : MetricRecord) : Decidable (Weighs record) :=
  inferInstanceAs (Decidable (_ ∧ _ ∧ _ ∧ _))

/-- Only the records that weigh have a weight. -/
theorem weightOf_filter_weighs {outcomes : List Outcome} (h : .skipped ∉ outcomes) :
    weightOf (records.filter fun record => Weighs record) outcomes =
      weightOf records outcomes := by
  induction records with
  | nil => rfl
  | cons record records ih =>
      rw [List.filter_cons, weightOf_cons]
      split
      · rw [weightOf_cons, ih]
      · next hnot =>
          rw [ih]
          have hnone : (if isConformanceSection (sectionOf record.testId) ∧
              record.outcome ∈ outcomes then severityWeight record.severity else 0) =
                (0 : ℚ) := by
            split
            · next hcounts =>
                by_contra hweight
                refine hnot (decide_eq_true ⟨?_, ?_, ?_, ?_⟩)
                · exact fun heq => h (heq ▸ hcounts.2)
                · exact fun heq => hweight (by rw [heq]; rfl)
                · exact fun heq => absurd hcounts.1 (by rw [heq]; decide)
                · exact fun heq => absurd hcounts.1 (by rw [heq]; decide)
            · rfl
          rw [hnone, zero_add]

/-- The weight does not depend on the order of the records. -/
theorem weightOf_perm {records records' : List MetricRecord} (h : records.Perm records')
    (outcomes : List Outcome) : weightOf records outcomes = weightOf records' outcomes :=
  ((h.filter _).map _).sum_eq

end Collected

/-! ### The accounts -/

section Accounts

/-- What a scorecard accounts for: every record in a total and in one section, every failure as
clean or ungraceful, and the critical failures and integrity violations in their lists. -/
structure Conserved (records : List MetricRecord) (card : Scorecard ℚ) : Prop where
  total : card.totalPassed + card.totalFailed + card.totalSkipped = records.length
  sections_total : (card.sections.map fun score =>
    score.passed + score.failed + score.skipped).sum = records.length
  sections_distinct : (card.sections.map SectionScore.section_).Nodup
  section_counts : ∀ score ∈ card.sections,
    score.passed = sectionCount records score.section_ .pass ∧
      score.failed = sectionCount records score.section_ .fail ∧
      score.skipped = sectionCount records score.section_ .skipped
  section_of_record : ∀ record ∈ records,
    ∃ score ∈ card.sections, score.section_ = sectionOf record.testId
  failures : card.cleanFailures + card.ungracefulFailures = card.totalFailed
  mustFailures : card.mustFailureIds = records.filterMap mustFailureId
  ledger : card.integrityViolations = records.filterMap integrityEntry

/-- What two scorecards of the same records in another order agree on. -/
structure SameAccounts (card card' : Scorecard ℚ) : Prop where
  sections : card.sections = card'.sections
  totals : card.totalPassed = card'.totalPassed ∧ card.totalFailed = card'.totalFailed ∧
    card.totalSkipped = card'.totalSkipped
  failures : card.cleanFailures = card'.cleanFailures ∧
    card.ungracefulFailures = card'.ungracefulFailures
  mustFailures : card.mustFailureIds.Perm card'.mustFailureIds
  ledger : card.integrityViolations.Perm card'.integrityViolations
  conformanceScore : card.conformanceScore = card'.conformanceScore
  gracefulDegradationRate : card.gracefulDegradationRate = card'.gracefulDegradationRate
  averageThroughput : card.averageThroughputBytesPerSecond = card'.averageThroughputBytesPerSecond
  capabilitySupported : card.capabilitySupported = card'.capabilitySupported

variable (read : Double → ℚ) (sortPoints : List (ResiliencePoint ℚ) → List (ResiliencePoint ℚ))
  (store : MetricsStore)

/-- The sections of a scorecard are those of the map. -/
theorem sections_perm : (analyze read sortPoints store).sections.Perm
    ((sectionAccums store.records).map sectionScore) := by
  simp only [analyze, analyzeRecords_bySection]
  exact List.mergeSort_perm _ _

/-- **Nothing is lost and nothing doubled.** -/
theorem conserved_analyze : Conserved store.records (analyze read sortPoints store) := by
  have hsections := sections_perm read sortPoints store
  obtain ⟨hpassed, hfailed, hskipped⟩ := analyzeRecords_counts read store.records
  obtain ⟨hclean, hungraceful⟩ := analyzeRecords_failures read store.records
  obtain ⟨hmust, hledger⟩ := analyzeRecords_lists read store.records
  refine ⟨?_, ?_, ?_, fun score hscore => ?_, fun record hrecord => ?_, ?_, hmust, hledger⟩
  · simp only [analyze, hpassed, hfailed, hskipped, outcomeCount_sum]
  · rw [(hsections.map _).sum_eq, List.map_map, ← sum_counts_sectionAccums store.records]
    rfl
  · rw [(hsections.map _).nodup_iff, List.map_map]
    exact (keysOrdered_sectionAccums store.records).nodup
  · obtain ⟨entry, hentry, rfl⟩ := List.mem_map.1 (hsections.mem_iff.1 hscore)
    have hcount := mem_sectionAccums store.records hentry
    exact ⟨hcount .pass, hcount .fail, hcount .skipped⟩
  · obtain ⟨entry, hentry, hkey⟩ := List.mem_map.1 (sectionOf_mem_keys store.records hrecord)
    exact ⟨sectionScore entry, hsections.mem_iff.2 (List.mem_map.2 ⟨entry, hentry, rfl⟩), hkey⟩
  · simp only [analyze, hclean, hungraceful, hfailed, failureCount_sum]

/-- A mean does not depend on the order of the values. -/
theorem mean_perm {values values' : List ℚ} (h : values.Perm values') :
    mean values = mean values' := by
  have hsum : values.foldl (· + ·) 0 = values'.foldl (· + ·) 0 :=
    h.foldl_eq' (fun x _ y _ z => add_right_comm z x y) 0
  rw [mean, mean, hsum, h.length_eq]

/-- The order of the records does not matter. -/
theorem sameAccounts_of_perm {records : List MetricRecord} (h : store.records.Perm records) :
    SameAccounts (analyze read sortPoints store)
      (analyze read sortPoints { store with records := records }) := by
  obtain ⟨hpassed, hfailed, hskipped⟩ := analyzeRecords_counts read store.records
  obtain ⟨hpassed', hfailed', hskipped'⟩ := analyzeRecords_counts read records
  obtain ⟨hclean, hungraceful⟩ := analyzeRecords_failures read store.records
  obtain ⟨hclean', hungraceful'⟩ := analyzeRecords_failures read records
  obtain ⟨hmust, hledger⟩ := analyzeRecords_lists read store.records
  obtain ⟨hmust', hledger'⟩ := analyzeRecords_lists read records
  have houtcomes (outcome : Outcome) : outcomeCount store.records outcome =
      outcomeCount records outcome := h.countP_eq _
  have hfailures (ungraceful : Bool) : failureCount store.records ungraceful =
      failureCount records ungraceful := h.countP_eq _
  have hclean_eq : (analyzeRecords read store.records).cleanFailures =
      (analyzeRecords read records).cleanFailures := by rw [hclean, hclean', hfailures]
  have hungraceful_eq : (analyzeRecords read store.records).ungracefulFailures =
      (analyzeRecords read records).ungracefulFailures := by
    rw [hungraceful, hungraceful', hfailures]
  refine ⟨?_, ⟨?_, ?_, ?_⟩, ⟨hclean_eq, hungraceful_eq⟩, ?_, ?_, ?_, ?_, ?_, ?_⟩
  · simp only [analyze, analyzeRecords_bySection, sectionAccums_perm h]
  · simp only [analyze, hpassed, hpassed', houtcomes]
  · simp only [analyze, hfailed, hfailed', houtcomes]
  · simp only [analyze, hskipped, hskipped', houtcomes]
  · simp only [analyze, hmust, hmust']
    exact h.filterMap _
  · simp only [analyze, hledger, hledger']
    exact h.filterMap _
  · simp only [conformanceScore_eq, weightOf_perm h]
  · simp only [analyze, hclean_eq, hungraceful_eq]
  · exact mean_perm (h.filterMap _)
  · simp only [analyze, capabilityMatrix_eq, h.mem_iff]

/-- **The accounts of every store.**  Nothing is lost; the conformance score is the weight of the
passes in percent of that of the passes and the failures in the conformance sections, so it is in
range, it is not lowered when a failure turns into a pass, and records that do not weigh can be
added or removed; and the order of the records does not matter. -/
theorem scorecard_accounts :
    Conserved store.records (analyze read sortPoints store) ∧
    (analyze read sortPoints store).conformanceScore =
      (if weightOf store.records [.pass, .fail] = 0 then 0
        else 100 * weightOf store.records [.pass] / weightOf store.records [.pass, .fail]) ∧
    (0 ≤ (analyze read sortPoints store).conformanceScore ∧
      (analyze read sortPoints store).conformanceScore ≤ 100) ∧
    (∀ before record after, store.records = before ++ record :: after → record.outcome = .fail →
      (analyze read sortPoints store).conformanceScore ≤ (analyze read sortPoints { store with
        records := before ++ { record with outcome := .pass } :: after }).conformanceScore) ∧
    (∀ records, (records.filter fun record => Weighs record) =
        (store.records.filter fun record => Weighs record) →
      (analyze read sortPoints { store with records := records }).conformanceScore =
        (analyze read sortPoints store).conformanceScore) ∧
    ∀ records, store.records.Perm records → SameAccounts (analyze read sortPoints store)
      (analyze read sortPoints { store with records := records }) := by
  refine ⟨conserved_analyze read sortPoints store, conformanceScore_eq read sortPoints store,
    ?_, ?_, ?_, fun records h => sameAccounts_of_perm read sortPoints store h⟩
  · rw [conformanceScore_eq]
    split
    · exact ⟨le_refl _, by norm_num⟩
    · next hne =>
        have hpass := weightOf_nonneg store.records [.pass]
        have htotal := lt_of_le_of_ne (weightOf_nonneg store.records [.pass, .fail]) (Ne.symm hne)
        refine ⟨by positivity, ?_⟩
        rw [div_le_iff₀ htotal]
        linarith [weightOf_pass_le store.records]
  · intro before record after hrecords hfail
    obtain ⟨htotal, hpass⟩ := weightOf_turned before after hfail
    rw [conformanceScore_eq, conformanceScore_eq, hrecords, htotal]
    split
    · exact le_refl _
    · next hne =>
        have hpos := lt_of_le_of_ne (weightOf_nonneg (before ++ record :: after) [.pass, .fail])
          (Ne.symm hne)
        exact div_le_div_of_nonneg_right (mul_le_mul_of_nonneg_left hpass (by norm_num)) hpos.le
  · intro records h
    have hweights (outcomes : List Outcome) (hskipped : .skipped ∉ outcomes) :
        weightOf records outcomes = weightOf store.records outcomes := by
      rw [← weightOf_filter_weighs records hskipped, h, weightOf_filter_weighs _ hskipped]
    simp only [conformanceScore_eq, hweights [.pass] (by decide),
      hweights [.pass, .fail] (by decide)]

end Accounts

/-- A critical failure. -/
def criticalFailure : MetricRecord :=
  { testId := text "A-01", severity := .critical, outcome := .fail }

/-- A major pass, a failure under impairment and a skipped test. -/
def otherRecords : List MetricRecord :=
  [{ testId := text "G-02", severity := .major, outcome := .pass },
    { testId := text "F-01", severity := .major, outcome := .fail },
    { testId := text "E-03", severity := .critical, outcome := .skipped }]

/-- The scorecard of some records without counters. -/
def plainScorecard (records : List MetricRecord) : Scorecard ℚ :=
  analyze (fun _ => 0) id { records := records }

/-- The failure turned into a pass, the records that do not weigh left out, the order reversed. -/
theorem plainScorecard_accounts :
    (plainScorecard (criticalFailure :: otherRecords)).conformanceScore = 25 ∧
    (plainScorecard (criticalFailure :: otherRecords)).conformanceScore ≤
      (plainScorecard
        ({ criticalFailure with outcome := .pass } :: otherRecords)).conformanceScore ∧
    (plainScorecard (criticalFailure :: otherRecords.take 1)).conformanceScore =
      (plainScorecard (criticalFailure :: otherRecords)).conformanceScore ∧
    SameAccounts (plainScorecard (criticalFailure :: otherRecords))
      (plainScorecard (criticalFailure :: otherRecords).reverse) := by
  obtain ⟨-, hscore, -, hturned, hneutral, hperm⟩ :=
    scorecard_accounts (fun _ => 0) id { records := criticalFailure :: otherRecords }
  refine ⟨hscore.trans ?_, hturned [] criticalFailure otherRecords rfl rfl,
    hneutral (criticalFailure :: otherRecords.take 1) rfl, hperm _ ?_⟩
  · decide +kernel
  · exact (List.reverse_perm _).symm

end TftpHarness
