/-
**Metric records.**

One record per test and impairment intensity: the outcome, its severity and clause, the measured
counters and the seed that reproduces the run.  The store writes a record as a JSON object on a line
of its own, and the report, the comparison mode and a resumed run read it back.

The seed is an unsigned 64-bit number.  On its way through the store it becomes a `long long`, then
a `double`, then a numeral, then a `double` again and a `long long` again.

Main definitions:

* `TftpHarness.MetricRecord`, `MetricRecord.toJson`, `MetricRecord.fromJson` — the record and its
  two conversions;
* `TftpHarness.recordMembers` — the members of the JSON object, with the three that hold numbers as
  parameters.

Main results:

* `TftpHarness.parse_record` — **what comes back of a record**: all but its numbers as they were,
  the numbers as their numerals are read;
* `TftpHarness.parse_record_none` — a record with a number that is not read back does not come back.
-/

import TftpHarness.RoundTrip
import Std.Data.ExtTreeMap

set_option relaxedAutoImplicit false
set_option autoImplicit false

namespace TftpHarness

/-! ### Records -/

/-- The three outcomes of a test. -/
inductive Outcome
  | pass
  | fail
  | skipped
  deriving DecidableEq

/-- The severity of a test, from the keyword strength of its clause. -/
inductive Severity
  | critical
  | major
  | minor
  | info
  deriving DecidableEq

def outcomeName : Outcome → Bytes
  | .pass => text "PASS"
  | .fail => text "FAIL"
  | .skipped => text "SKIPPED"

def severityName : Severity → Bytes
  | .critical => text "CRITICAL"
  | .major => text "MAJOR"
  | .minor => text "MINOR"
  | .info => text "INFO"

def outcomeFromName (name : Bytes) : Outcome :=
  if name = text "PASS" then .pass else if name = text "FAIL" then .fail else .skipped

def severityFromName (name : Bytes) : Severity :=
  if name = text "CRITICAL" then .critical
  else if name = text "MAJOR" then .major
  else if name = text "MINOR" then .minor
  else .info

/-- `std::map<std::string, double>`. -/
abbrev Counters := Std.ExtTreeMap Bytes Double

/-- `MetricRecord`. -/
structure MetricRecord where
  testId : Bytes := []
  title : Bytes := []
  rfcClause : Bytes := []
  severity : Severity := .info
  outcome : Outcome := .skipped
  intensity : Option Double := none
  intensityLabel : Bytes := []
  seed : UInt64 := 0
  narrative : Bytes := []
  integrityViolation : Bool := false
  ungracefulFailure : Bool := false
  counters : Counters := ∅
  implementationName : Bytes := []

@[simp] theorem outcomeFromName_outcomeName (o : Outcome) :
    outcomeFromName (outcomeName o) = o := by
  cases o <;> decide +kernel

@[simp] theorem severityFromName_severityName (s : Severity) :
    severityFromName (severityName s) = s := by
  cases s <;> decide +kernel

namespace MetricRecord

/-- `static_cast<long long>(seed)`. -/
def signedSeed (r : MetricRecord) : ℤ := r.seed.toInt64.toInt

/-- The object of the counters, in the order of their names. -/
def countersJson (r : MetricRecord) : JsonValue :=
  r.counters.toList.foldl (fun json counter => json.set counter.1 (.number counter.2 false))
    (.object [])

/-- `MetricRecord::to_json`. -/
def toJson (r : MetricRecord) : JsonValue :=
  let record := JsonValue.object []
    |>.set (text "type") (.string (text "metric"))
    |>.set (text "test_id") (.string r.testId)
    |>.set (text "title") (.string r.title)
    |>.set (text "rfc_clause") (.string r.rfcClause)
    |>.set (text "severity") (.string (severityName r.severity))
    |>.set (text "outcome") (.string (outcomeName r.outcome))
  let record :=
    match r.intensity with
    | some x => record.set (text "intensity") (.number x false)
    | none => record
  record
    |>.set (text "intensity_label") (.string r.intensityLabel)
    |>.set (text "seed") (.integer r.signedSeed)
    |>.set (text "narrative") (.string r.narrative)
    |>.set (text "integrity_violation") (.boolean r.integrityViolation)
    |>.set (text "ungraceful_failure") (.boolean r.ungracefulFailure)
    |>.set (text "implementation_name") (.string r.implementationName)
    |>.set (text "counters") r.countersJson

end MetricRecord

/-- A field of the record, left at its default when the object has no such key. -/
def JsonValue.field {α : Type} (v : JsonValue) (key : Bytes) (absent : α)
    (read : JsonValue → α) : α :=
  if v.has key then read (v.getAt key) else absent

/-- The counters of a record read from the members of an object. -/
def countersOfMembers (members : List (Bytes × JsonValue)) : Counters :=
  members.foldl (fun counters member => counters.insert member.1 member.2.asNumber) ∅

/-- `MetricRecord::from_json`. -/
def MetricRecord.fromJson (v : JsonValue) : MetricRecord where
  testId := v.field (text "test_id") [] (·.asString)
  title := v.field (text "title") [] (·.asString)
  rfcClause := v.field (text "rfc_clause") [] (·.asString)
  severity := v.field (text "severity") .info fun w => severityFromName w.asString
  outcome := v.field (text "outcome") .skipped fun w => outcomeFromName w.asString
  intensity := v.field (text "intensity") none fun w => if w.isNumber then some w.asNumber else none
  intensityLabel := v.field (text "intensity_label") [] (·.asString)
  seed := v.field (text "seed") 0 fun w => (Int64.ofInt w.asInteger).toUInt64
  narrative := v.field (text "narrative") [] (·.asString)
  integrityViolation := v.field (text "integrity_violation") false (·.asBool)
  ungracefulFailure := v.field (text "ungraceful_failure") false (·.asBool)
  implementationName := v.field (text "implementation_name") [] (·.asString)
  counters := v.field (text "counters") ∅ fun w => countersOfMembers w.members

/-! ### The object of a record -/

/-- The members of the object of a record, with the values that hold numbers as parameters. -/
def recordMembers (r : MetricRecord) (intensity : Option JsonValue) (seed counters : JsonValue) :
    List (Bytes × JsonValue) :=
  [(text "type", .string (text "metric")), (text "test_id", .string r.testId),
    (text "title", .string r.title), (text "rfc_clause", .string r.rfcClause),
    (text "severity", .string (severityName r.severity)),
    (text "outcome", .string (outcomeName r.outcome))] ++
  (match intensity with
    | some v => [(text "intensity", v)]
    | none => []) ++
  [(text "intensity_label", .string r.intensityLabel), (text "seed", seed),
    (text "narrative", .string r.narrative),
    (text "integrity_violation", .boolean r.integrityViolation),
    (text "ungraceful_failure", .boolean r.ungracefulFailure),
    (text "implementation_name", .string r.implementationName), (text "counters", counters)]

/-- The keys of the object, in order. -/
def recordKeys (hasIntensity : Bool) : List Bytes :=
  [text "type", text "test_id", text "title", text "rfc_clause", text "severity", text "outcome"] ++
    (if hasIntensity then [text "intensity"] else []) ++
    [text "intensity_label", text "seed", text "narrative", text "integrity_violation",
      text "ungraceful_failure", text "implementation_name", text "counters"]

theorem nodup_recordKeys (hasIntensity : Bool) : (recordKeys hasIntensity).Nodup := by
  cases hasIntensity <;> decide +kernel

theorem intensity_notMem_recordKeys : text "intensity" ∉ recordKeys false := by
  decide +kernel

section Members

variable (r : MetricRecord) (intensity : Option JsonValue) (seed counters : JsonValue)

theorem recordMembers_keys :
    (recordMembers r intensity seed counters).map Prod.fst = recordKeys intensity.isSome := by
  cases intensity <;> rfl

theorem nodup_recordMembers : ((recordMembers r intensity seed counters).map Prod.fst).Nodup := by
  rw [recordMembers_keys]
  exact nodup_recordKeys _

end Members

/-- A measured number as a JSON value. -/
def measured (x : Double) : JsonValue := .number x false

/-- **The object of a record** has these members. -/
theorem toJson_eq (r : MetricRecord) :
    r.toJson = .object
      (recordMembers r (r.intensity.map measured) (.integer r.signedSeed) r.countersJson) := by
  rw [← JsonValue.foldl_set_empty (nodup_recordMembers ..)]
  unfold MetricRecord.toJson recordMembers
  cases r.intensity <;> rfl

/-- The counters have distinct names. -/
theorem nodup_counters (r : MetricRecord) :
    ((r.counters.toList.map fun counter =>
      (counter.1, measured counter.2)).map Prod.fst).Nodup := by
  rw [List.map_map, List.Nodup, List.pairwise_map]
  refine Std.ExtTreeMap.distinct_keys_toList.imp ?_
  intro a b hne heq
  exact hne (Std.compare_eq_iff_eq.2 heq)

/-- The object of the counters. -/
theorem countersJson_eq (r : MetricRecord) :
    r.countersJson =
      .object (r.counters.toList.map fun counter => (counter.1, measured counter.2)) := by
  rw [← JsonValue.foldl_set_empty (nodup_counters r), List.foldl_map]
  rfl

/-! ### What comes back -/

section Fields

variable {r : MetricRecord} {intensity : Option JsonValue} {seed counters : JsonValue}

theorem field_of_mem {α : Type} {key : Bytes} (value : JsonValue) {absent : α}
    {read : JsonValue → α} (h : (key, value) ∈ recordMembers r intensity seed counters) :
    (JsonValue.object (recordMembers r intensity seed counters)).field key absent read =
      read value := by
  rw [JsonValue.field, JsonValue.has_of_mem h, if_pos rfl,
    JsonValue.getAt_of_mem (nodup_recordMembers ..) h]

/-- The intensity is read when it is there and a number. -/
def intensityOf (intensity : Option JsonValue) : Option Double :=
  intensity.bind fun w => if w.isNumber then some w.asNumber else none

theorem field_intensity :
    (JsonValue.object (recordMembers r intensity seed counters)).field (text "intensity") none
        (fun w => if w.isNumber then some w.asNumber else none) = intensityOf intensity := by
  cases intensity with
  | none =>
      have habsent : text "intensity" ∉ (recordMembers r none seed counters).map Prod.fst := by
        rw [recordMembers_keys]
        exact intensity_notMem_recordKeys
      rw [JsonValue.field, JsonValue.has_of_notMem habsent]
      rfl
  | some w =>
      rw [field_of_mem w (by simp [recordMembers])]
      rfl

/-- **Reading the members of a record.** -/
theorem fromJson_recordMembers :
    MetricRecord.fromJson (.object (recordMembers r intensity seed counters)) =
      { r with
        intensity := intensityOf intensity
        seed := (Int64.ofInt seed.asInteger).toUInt64
        counters := countersOfMembers counters.members } := by
  have hmem : ∀ {key : Bytes} {value : JsonValue},
      (key, value) ∈ recordMembers r none seed counters →
        (key, value) ∈ recordMembers r intensity seed counters := by
    intro key value h
    simp only [recordMembers, List.append_nil, List.mem_append] at h ⊢
    rcases h with h | h
    · exact Or.inl (Or.inl h)
    · exact Or.inr h
  unfold MetricRecord.fromJson
  rw [field_intensity]
  rw [field_of_mem (.string r.testId) (hmem (by simp [recordMembers])),
    field_of_mem (.string r.title) (hmem (by simp [recordMembers])),
    field_of_mem (.string r.rfcClause) (hmem (by simp [recordMembers])),
    field_of_mem (.string (severityName r.severity)) (hmem (by simp [recordMembers])),
    field_of_mem (.string (outcomeName r.outcome)) (hmem (by simp [recordMembers])),
    field_of_mem (.string r.intensityLabel) (hmem (by simp [recordMembers])),
    field_of_mem seed (hmem (by simp [recordMembers])),
    field_of_mem (.string r.narrative) (hmem (by simp [recordMembers])),
    field_of_mem (.boolean r.integrityViolation) (hmem (by simp [recordMembers])),
    field_of_mem (.boolean r.ungracefulFailure) (hmem (by simp [recordMembers])),
    field_of_mem counters (hmem (by simp [recordMembers])),
    field_of_mem (.string r.implementationName) (hmem (by simp [recordMembers]))]
  simp only [JsonValue.asString, JsonValue.asBool, severityFromName_severityName,
    outcomeFromName_outcomeName]

end Fields

/-- A counter comes back under its name. -/
def CounterReadsBack (counter : Bytes × Double) (read : Bytes × JsonValue) : Prop :=
  read.1 = counter.1 ∧ (measured counter.2).reread = some read.2

section Parse

variable {r : MetricRecord} {intensity : Option JsonValue} {seed : JsonValue}
  {counters : List (Bytes × JsonValue)}

theorem reread_countersJson (h : List.Forall₂ CounterReadsBack r.counters.toList counters) :
    r.countersJson.reread = some (.object counters) := by
  rw [countersJson_eq]
  exact reread_object (nodup_counters r) (List.forall₂_map_left_iff.2 h)

/-- The object that comes back of a record. -/
theorem parse_toJson (pretty : Bool)
    (hintensity : Option.Rel (fun x v => (measured x).reread = some v) r.intensity intensity)
    (hseed : (JsonValue.integer r.signedSeed).reread = some seed)
    (hcounters : List.Forall₂ CounterReadsBack r.counters.toList counters) :
    parseJson (r.toJson.serialize pretty) =
      some (.object (recordMembers r intensity seed (.object counters))) := by
  have hstring : ∀ key value, MemberReadsBack (key, .string value) (key, .string value) :=
    fun key value => ⟨rfl, by rw [JsonValue.reread]⟩
  have hboolean : ∀ key value, MemberReadsBack (key, .boolean value) (key, .boolean value) :=
    fun key value => ⟨rfl, by rw [JsonValue.reread]⟩
  have hmembers : List.Forall₂ MemberReadsBack
      (recordMembers r (r.intensity.map measured) (.integer r.signedSeed) r.countersJson)
      (recordMembers r intensity seed (.object counters)) := by
    unfold recordMembers
    refine List.rel_append (List.rel_append ?_ ?_) ?_
    · exact .cons (hstring _ _) (.cons (hstring _ _) (.cons (hstring _ _) (.cons (hstring _ _)
        (.cons (hstring _ _) (.cons (hstring _ _) .nil)))))
    · generalize r.intensity = given at hintensity
      cases hintensity with
      | none => exact .nil
      | some h => exact .cons ⟨rfl, h⟩ .nil
    · exact .cons (hstring _ _) (.cons ⟨rfl, hseed⟩ (.cons (hstring _ _) (.cons (hboolean _ _)
        (.cons (hboolean _ _) (.cons (hstring _ _)
          (.cons ⟨rfl, reread_countersJson hcounters⟩ .nil))))))
  rw [parseJson_serialize, toJson_eq, reread_object (nodup_recordMembers ..) hmembers]

/-- **What comes back of a record**: all but its numbers as they were, the numbers as their numerals
are read. -/
theorem parse_record (pretty : Bool)
    (hintensity : Option.Rel (fun x v => (measured x).reread = some v) r.intensity intensity)
    (hseed : (JsonValue.integer r.signedSeed).reread = some seed)
    (hcounters : List.Forall₂ CounterReadsBack r.counters.toList counters) :
    (parseJson (r.toJson.serialize pretty)).map MetricRecord.fromJson =
      some { r with
        intensity := intensityOf intensity
        seed := (Int64.ofInt seed.asInteger).toUInt64
        counters := countersOfMembers counters } := by
  rw [parse_toJson pretty hintensity hseed hcounters, Option.map_some, fromJson_recordMembers]
  rfl

/-- A record with a number that is not read back does not come back. -/
theorem parse_record_none (pretty : Bool) {x : Double}
    (hx : r.intensity = some x ∨ ∃ name, (name, x) ∈ r.counters.toList)
    (hnone : (measured x).reread = none) : parseJson (r.toJson.serialize pretty) = none := by
  rw [parseJson_serialize, toJson_eq]
  rcases hx with hx | ⟨name, hmem⟩
  · have hmember : (text "intensity", measured x) ∈
        recordMembers r (r.intensity.map measured) (.integer r.signedSeed) r.countersJson := by
      simp [recordMembers, hx]
    exact reread_object_none hmember hnone
  · have hcounters : r.countersJson.reread = none := by
      rw [countersJson_eq]
      exact reread_object_none (List.mem_map.2 ⟨(name, x), hmem, rfl⟩) hnone
    have hmember : (text "counters", r.countersJson) ∈
        recordMembers r (r.intensity.map measured) (.integer r.signedSeed) r.countersJson := by
      simp [recordMembers]
    exact reread_object_none hmember hcounters

end Parse

end TftpHarness
