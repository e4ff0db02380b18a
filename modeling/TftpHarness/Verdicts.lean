/-
**What the records of a test say about its transfers.**

Three promises of the report rest on the judges: a transfer that reported success and delivered
wrong bytes is in the integrity ledger, a transfer that hung or could not be set up is an ungraceful
failure, and a transfer that the implementation could not be asked for is skipped.  Each judge
decides alone, and the results it is handed may be anything.

A test returns a record for each transfer, in order, or a single one for all of them.  Of a record
two flags and the outcome matter here, its verdict.  The tests fall into six kinds by what their
verdicts depend on, and the promises are kept by a kind on exactly the results given below.

Main definitions:

* `TftpHarness.coveringRecords` — the records that cover a transfer of a test;
* `TftpHarness.JudgeKind`, `TftpHarness.Conforms` — the kinds of judges, and what a verdict of each
  kind is;
* `TftpHarness.LedgerReached`, `TftpHarness.HangRecorded` — the results on which a kind keeps the
  two promises;
* `TftpHarness.performTest` — a test executed by the driver.

Main results:

* `TftpHarness.exists_covering_record` — every transfer of a test is covered by one record, which
  conforms to the kind of the test;
* `TftpHarness.performTest_covers` — so is every transfer that the driver makes for it;
* `TftpHarness.corruption_ledgered_iff` — **silent corruption reaches the ledger exactly there**;
* `TftpHarness.hang_recorded_iff` — **a hang or a failed setup is recorded as one exactly there**;
* `TftpHarness.unsupported_skipped_iff` — **an unsupported request is skipped exactly by the
  byte-exact tests**.
-/

import TftpHarness.Registry

set_option relaxedAutoImplicit false
set_option autoImplicit false

namespace TftpHarness

/-! ### Verdicts -/

/-- What the two promises read of a record. -/
structure Verdict where
  outcome : Outcome
  integrityViolation : Bool := false
  ungracefulFailure : Bool := false
  deriving DecidableEq

def MetricRecord.verdict (record : MetricRecord) : Verdict where
  outcome := record.outcome
  integrityViolation := record.integrityViolation
  ungracefulFailure := record.ungracefulFailure

/-- The transfer reported success and delivered wrong bytes. -/
def SilentCorruption (result : DriveResult) : Prop :=
  result.appResult.completedSuccessfully = true ∧ result.integrity.verdict = .mismatch

instance (result : DriveResult) : Decidable (SilentCorruption result) :=
  inferInstanceAs (Decidable (_ ∧ _))

/-- A record that nothing was judged in yet. -/
structure Blank (record : MetricRecord) : Prop where
  integrityViolation : record.integrityViolation = false
  ungracefulFailure : record.ungracefulFailure = false

theorem blank_fillCounters {record : MetricRecord} (h : Blank record) (result : DriveResult) :
    Blank (fillCounters record result) := ⟨h.integrityViolation, h.ungracefulFailure⟩

/-! ### The kinds of judges -/

/-- The tests by what their verdicts depend on: byte-exact transfers, the final block, judges that
only guard against a hang, the fresh TID, sweeps, and the churn that collapses its records. -/
inductive JudgeKind
  | byteExact
  | finalBlock
  | guarded
  | freshTid
  | sweep
  | churn
  deriving DecidableEq, Repr

def byteExactVerdict (result : DriveResult) : Verdict :=
  if result.appResult.unsupportedConfiguration then { outcome := .skipped }
  else if result.setupFailed ∨ result.watchdogFired then
    { outcome := .fail, ungracefulFailure := true }
  else if result.appResult.completedSuccessfully then
    if result.integrity.matches then { outcome := .pass }
    else { outcome := .fail, integrityViolation := true }
  else { outcome := .fail }

def finalBlockVerdict (result : DriveResult) : Verdict :=
  if result.watchdogFired ∨ result.setupFailed then
    { outcome := .fail, ungracefulFailure := true }
  else if ¬ result.observer.terminatingShortBlockPresent then { outcome := .fail }
  else if result.appResult.completedSuccessfully then
    if result.integrity.matches then { outcome := .pass }
    else { outcome := .fail, integrityViolation := true }
  else { outcome := .fail }

def sweepVerdict (result : DriveResult) : Verdict :=
  if SilentCorruption result then { outcome := .fail, integrityViolation := true }
  else if result.watchdogFired then { outcome := .fail, ungracefulFailure := true }
  else { outcome := .pass }

/-- **The verdict of each kind.** -/
def Conforms (kind : JudgeKind) (result : DriveResult) (verdict : Verdict) : Prop :=
  match kind with
  | .byteExact => verdict = byteExactVerdict result
  | .finalBlock => verdict = finalBlockVerdict result
  | .guarded =>
      verdict.outcome ≠ .skipped ∧ verdict.integrityViolation = false ∧
        verdict.ungracefulFailure = result.watchdogFired ∧
        (result.watchdogFired = true → verdict.outcome = .fail)
  | .sweep => verdict = sweepVerdict result
  | .freshTid | .churn =>
      verdict.outcome ≠ .skipped ∧ verdict.integrityViolation = false ∧
        verdict.ungracefulFailure = false

section Judges

variable {record : MetricRecord} (h : Blank record) (result : DriveResult)
include h

theorem conforms_judgeByteExact :
    Conforms .byteExact result (judgeByteExact record result).verdict := by
  have hblank := blank_fillCounters h result
  unfold Conforms judgeByteExact byteExactVerdict MetricRecord.verdict IntegrityResult.matches
  dsimp only
  split_ifs <;> simp_all [hblank.integrityViolation, hblank.ungracefulFailure]

theorem conforms_judgeFinalBlock :
    Conforms .finalBlock result (judgeFinalBlock record result).verdict := by
  have hblank := blank_fillCounters h result
  unfold Conforms judgeFinalBlock finalBlockVerdict MetricRecord.verdict
  dsimp only
  split_ifs <;> simp_all [hblank.integrityViolation, hblank.ungracefulFailure]

theorem conforms_judgeSweep (corrupted hung exact clean : Bytes) :
    Conforms .sweep result (judgeSweep corrupted hung exact clean record result).verdict := by
  have hblank := blank_fillCounters h result
  unfold Conforms judgeSweep sweepVerdict SilentCorruption MetricRecord.verdict
  dsimp only
  split_ifs <;> simp_all [hblank.integrityViolation, hblank.ungracefulFailure]

theorem conforms_judgeFreshTid :
    Conforms .freshTid result (judgeFreshTid record result).verdict := by
  have hblank := blank_fillCounters h result
  unfold judgeFreshTid
  dsimp only
  split
  · exact ⟨Outcome.noConfusion, hblank.integrityViolation, hblank.ungracefulFailure⟩
  · exact ⟨Outcome.noConfusion, hblank.integrityViolation, hblank.ungracefulFailure⟩

/-- A judge that records a hang, and otherwise passes or fails the filled record without a flag. -/
def GuardsHang (judge : MetricRecord → DriveResult → MetricRecord) : Prop :=
  ∀ record result,
    (result.watchdogFired = true → (judge record result).verdict =
      { outcome := .fail
        integrityViolation := record.integrityViolation
        ungracefulFailure := true }) ∧
      (result.watchdogFired = false → (judge record result).verdict.outcome ≠ .skipped ∧
        (judge record result).verdict.integrityViolation = record.integrityViolation ∧
        (judge record result).verdict.ungracefulFailure = record.ungracefulFailure)

theorem conforms_of_guardsHang {judge : MetricRecord → DriveResult → MetricRecord}
    (hjudge : GuardsHang judge) : Conforms .guarded result (judge record result).verdict := by
  obtain ⟨hhung, hended⟩ := hjudge record result
  rcases hfired : result.watchdogFired with _ | _
  · obtain ⟨hskip, hviolation, hungraceful⟩ := hended hfired
    refine ⟨hskip, hviolation.trans h.integrityViolation, ?_, ?_⟩
    · rw [hungraceful, h.ungracefulFailure, hfired]
    · rw [hfired]
      exact fun hfalse => absurd hfalse Bool.false_ne_true
  · rw [hhung hfired]
    exact ⟨Outcome.noConfusion, h.integrityViolation, hfired.symm, fun _ => rfl⟩

end Judges

theorem guardsHang_judgeFileNotFound : GuardsHang judgeFileNotFound := by
  intro record result
  unfold judgeFileNotFound
  dsimp only
  split_ifs <;> simp_all [MetricRecord.verdict, fillCounters]

theorem guardsHang_judgeFileExists : GuardsHang judgeFileExists := by
  intro record result
  unfold judgeFileExists
  dsimp only
  split_ifs <;> simp_all [MetricRecord.verdict, fillCounters]

theorem guardsHang_judgeAccessViolation : GuardsHang judgeAccessViolation := by
  intro record result
  unfold judgeAccessViolation
  dsimp only
  split_ifs <;> simp_all [MetricRecord.verdict, fillCounters]

theorem guardsHang_judgeIllegalOpcode : GuardsHang judgeIllegalOpcode := by
  intro record result
  unfold judgeIllegalOpcode
  dsimp only
  split_ifs <;> simp_all [MetricRecord.verdict, fillCounters]

theorem guardsHang_judgeMalformedPacket (what : Bytes) :
    GuardsHang (judgeMalformedPacket what) := by
  intro record result
  unfold judgeMalformedPacket
  dsimp only
  split_ifs <;> simp_all [MetricRecord.verdict, fillCounters]

theorem guardsHang_judgeStrayTid (what : Bytes) : GuardsHang (judgeStrayTid what) := by
  intro record result
  unfold judgeStrayTid
  dsimp only
  split_ifs <;> simp_all [MetricRecord.verdict, fillCounters]

theorem guardsHang_judgeSorcerersApprentice : GuardsHang judgeSorcerersApprentice := by
  intro record result
  unfold judgeSorcerersApprentice
  dsimp only
  split_ifs <;> simp_all [MetricRecord.verdict, fillCounters]

theorem guardsHang_judgeBlackout (hung ended : Bytes) : GuardsHang (judgeBlackout hung ended) := by
  intro record result
  unfold judgeBlackout
  dsimp only
  split_ifs <;> simp_all [MetricRecord.verdict, fillCounters]

/-! ### Bodies -/

/-- A record conforms to the result it was judged from. -/
def RecordConforms (kind : JudgeKind) (result : DriveResult) (record : MetricRecord) : Prop :=
  Conforms kind result record.verdict

/-- **The body returns a record for each transfer it drives**, in order, and they conform. -/
def Covers (kind : JudgeKind) (body : Driving (List MetricRecord)) : Prop :=
  ∀ results left records, body.feed results = some (records, left) →
    ∃ used, results = used ++ left ∧ List.Forall₂ (RecordConforms kind) used records

theorem covers_pure_nil (kind : JudgeKind) : Covers kind (pure []) := by
  intro results left records h
  rw [Dialogue.feed_pure] at h
  obtain ⟨rfl, rfl⟩ := Prod.mk.inj (Option.some.inj h)
  exact ⟨[], rfl, .nil⟩

/-- Two bodies in sequence. -/
theorem covers_append {kind : JudgeKind} {body body' : Driving (List MetricRecord)}
    (h : Covers kind body) (h' : Covers kind body') :
    Covers kind (do
      let a ← body
      let b ← body'
      return a ++ b) := by
  intro results left records hfeed
  rw [Dialogue.feed_bind] at hfeed
  obtain ⟨⟨a, rest⟩, ha, hfeed⟩ := Option.bind_eq_some_iff.1 hfeed
  dsimp only at hfeed
  rw [Dialogue.feed_bind] at hfeed
  obtain ⟨⟨b, rest'⟩, hb, hfeed⟩ := Option.bind_eq_some_iff.1 hfeed
  rw [Dialogue.feed_pure] at hfeed
  obtain ⟨rfl, rfl⟩ := Prod.mk.inj (Option.some.inj hfeed)
  obtain ⟨used, rfl, hused⟩ := h _ _ _ ha
  obtain ⟨used', rfl, hused'⟩ := h' _ _ _ hb
  exact ⟨used ++ used', (List.append_assoc ..).symm, List.rel_append hused hused'⟩

/-- One transfer, and then a body. -/
theorem covers_drive_cons {kind : JudgeKind} {request : DriveRequest}
    {judge : DriveResult → MetricRecord} {body : Driving (List MetricRecord)}
    (hjudge : ∀ result, RecordConforms kind result (judge result)) (h : Covers kind body) :
    Covers kind (do
      let result ← drive request
      let out ← body
      return judge result :: out) := by
  intro results left records hfeed
  rw [Dialogue.feed_bind] at hfeed
  obtain ⟨⟨result, rest⟩, hdrive, hfeed⟩ := Option.bind_eq_some_iff.1 hfeed
  have hresults : results = result :: rest := by
    cases results with
    | nil => exact absurd hdrive (by simp [drive, Dialogue.feed])
    | cons first others =>
        have hfirst : Dialogue.feed (Dialogue.done first : Driving DriveResult) others =
            some (result, rest) := hdrive
        rw [Dialogue.feed] at hfirst
        obtain ⟨rfl, rfl⟩ := Prod.mk.inj (Option.some.inj hfirst)
        rfl
  dsimp only at hfeed
  rw [Dialogue.feed_bind] at hfeed
  obtain ⟨⟨out, rest'⟩, hout, hfeed⟩ := Option.bind_eq_some_iff.1 hfeed
  rw [Dialogue.feed_pure] at hfeed
  obtain ⟨rfl, rfl⟩ := Prod.mk.inj (Option.some.inj hfeed)
  obtain ⟨used, rfl, hused⟩ := h _ _ _ hout
  exact ⟨result :: used, hresults, .cons (hjudge result) hused⟩

theorem covers_driveAndJudge {kind : JudgeKind} (context : TestContext) (test : TestInfo)
    (request : DriveRequest) {judge : MetricRecord → DriveResult → MetricRecord}
    (hjudge : ∀ {record : MetricRecord}, Blank record → ∀ result,
      Conforms kind result (judge record result).verdict) :
    Covers kind (driveAndJudge context test request judge) :=
  covers_drive_cons (fun result => hjudge ⟨rfl, rfl⟩ result) (covers_pure_nil kind)

/-- One point of a sweep after the other. -/
theorem covers_sweep (context : TestContext) (test : TestInfo) (fixtureKey : Bytes)
    (options : RequestedOptions) (watchdog : ℤ) (corrupted hung exact clean : Bytes)
    (points : List SweepPoint) :
    ∀ index, Covers .sweep (sweep context test fixtureKey options watchdog
      (judgeSweep corrupted hung exact clean) index points) := by
  induction points with
  | nil => exact fun _ => covers_pure_nil _
  | cons point points ih =>
      intro index
      exact covers_drive_cons
        (fun result => conforms_judgeSweep ⟨rfl, rfl⟩ result corrupted hung exact clean)
        (ih (index + 1))

theorem covers_basicDownload (context : TestContext) (test : TestInfo) (fixtureKey : Bytes)
    (options : RequestedOptions) (blockSize : ℕ) (mode : TransferMode) :
    Covers .byteExact (basicDownload context test fixtureKey options blockSize mode) :=
  covers_driveAndJudge context test _ fun hblank result => conforms_judgeByteExact hblank result

theorem covers_basicUpload (context : TestContext) (test : TestInfo) (fixtureKey : Bytes)
    (options : RequestedOptions) (mode : TransferMode) :
    Covers .byteExact (basicUpload context test fixtureKey options mode) :=
  covers_driveAndJudge context test _ fun hblank result => conforms_judgeByteExact hblank result

theorem covers_windowDownloads (context : TestContext) (test : TestInfo) (ws : List ℕ) :
    Covers .byteExact (windowDownloads context test ws) := by
  induction ws with
  | nil => exact covers_pure_nil _
  | cons w ws ih => exact covers_append (covers_basicDownload _ _ _ _ _ _) ih

theorem covers_guarded (context : TestContext) (test : TestInfo) (request : DriveRequest)
    {judge : MetricRecord → DriveResult → MetricRecord} (hjudge : GuardsHang judge) :
    Covers .guarded (driveAndJudge context test request judge) :=
  covers_driveAndJudge context test request fun hblank result =>
    conforms_of_guardsHang hblank result hjudge

/-- **The body returns a single record for all transfers it drives.** -/
def Collapses (body : Driving (List MetricRecord)) : Prop :=
  ∀ results left records, body.feed results = some (records, left) →
    ∃ record, records = [record] ∧ ∀ result, RecordConforms .churn result record

theorem collapses_rapidChurn (context : TestContext) (test : TestInfo) :
    Collapses (rapidChurn context test) := by
  intro results left records hfeed
  unfold rapidChurn at hfeed
  rw [Dialogue.feed_bind] at hfeed
  obtain ⟨⟨out, rest⟩, -, hfeed⟩ := Option.bind_eq_some_iff.1 hfeed
  dsimp only at hfeed
  rw [Dialogue.feed_pure] at hfeed
  obtain ⟨rfl, rfl⟩ := Prod.mk.inj (Option.some.inj hfeed)
  refine ⟨_, rfl, fun result => ⟨?_, rfl, rfl⟩⟩
  dsimp only [MetricRecord.verdict]
  split
  · exact Outcome.noConfusion
  · exact Outcome.noConfusion

/-! ### The registry -/

/-- The kind of a test, by its identifier. -/
def judgeKind (id : Bytes) : JudgeKind :=
  if id ∈ ["A-04", "A-05"].map text then .finalBlock
  else if id = text "A-20" then .freshTid
  else if id = text "H-03" then .churn
  else if id ∈ ["A-30", "A-31", "A-41", "E-03", "E-04", "E-05", "E-07", "F-01", "F-02", "F-03",
      "F-04", "F-05", "F-06", "F-07", "F-08"].map text then .sweep
  else if id ∈ ["A-11", "A-12", "A-13", "A-14", "A-15", "A-21", "A-22", "A-32", "A-33", "A-34",
      "F-09", "G-01", "G-03", "G-04", "G-06", "G-08"].map text then .guarded
  else .byteExact

/-- The body of a test keeps to the kind. -/
def KeepsTo (kind : JudgeKind) (test : TestCase) : Prop :=
  match kind with
  | .churn => ∀ context, Collapses (test.body context)
  | kind => ∀ context, Covers kind (test.body context)

/-- The kinds of the tests, in the order of the registry. -/
def registryKinds : List JudgeKind :=
  [.byteExact, .byteExact, .byteExact, .finalBlock, .finalBlock, .byteExact, .byteExact, .byteExact,
    .byteExact, .byteExact, .guarded, .guarded, .guarded, .guarded, .guarded,
    .freshTid, .guarded, .guarded,
    .sweep, .sweep, .guarded, .guarded, .guarded, .sweep,
    .byteExact, .byteExact, .byteExact, .byteExact, .byteExact, .byteExact, .byteExact, .byteExact,
    .byteExact,
    .byteExact, .byteExact, .sweep, .sweep, .sweep, .sweep,
    .sweep, .sweep, .sweep, .sweep, .sweep, .sweep, .sweep, .sweep, .guarded,
    .guarded, .guarded, .guarded, .guarded, .guarded,
    .churn]

theorem registryKinds_eq :
    registryKinds = buildTestRegistry.map fun test => judgeKind test.info.id := by
  decide +kernel

theorem keepsTo_registry : List.Forall₂ KeepsTo registryKinds buildTestRegistry := by
  unfold registryKinds buildTestRegistry baseProtocolTests tidTests retransmissionTests optionTests
    windowTests adversarialTests robustnessTests resourceTests
  simp only [List.cons_append, List.nil_append, List.forall₂_cons, List.forall₂_nil_left_iff,
    and_true]
  refine ⟨fun _ => covers_basicDownload _ _ _ _ _ _,
    fun _ => covers_basicUpload _ _ _ _ _,
    fun _ => covers_basicDownload _ _ _ _ _ _,
    fun _ => covers_driveAndJudge _ _ _ conforms_judgeFinalBlock,
    fun _ => covers_driveAndJudge _ _ _ conforms_judgeFinalBlock,
    fun _ => covers_append (covers_basicDownload _ _ _ _ _ _) (covers_basicDownload _ _ _ _ _ _),
    fun _ => covers_basicDownload _ _ _ _ _ _,
    fun _ => covers_basicDownload _ _ _ _ _ _,
    fun _ => covers_basicUpload _ _ _ _ _,
    fun _ => covers_basicDownload _ _ _ _ _ _,
    fun _ => covers_guarded _ _ _ guardsHang_judgeFileNotFound,
    fun _ => covers_guarded _ _ _ guardsHang_judgeFileExists,
    fun _ => covers_guarded _ _ _ guardsHang_judgeAccessViolation,
    fun _ => covers_guarded _ _ _ guardsHang_judgeIllegalOpcode,
    fun _ => covers_guarded _ _ _ (guardsHang_judgeMalformedPacket _),
    fun _ => covers_driveAndJudge _ _ _ conforms_judgeFreshTid,
    fun _ => covers_guarded _ _ _ (guardsHang_judgeStrayTid _),
    fun _ => covers_guarded _ _ _ (guardsHang_judgeStrayTid _),
    fun _ => covers_sweep _ _ _ _ _ _ _ _ _ _ _,
    fun _ => covers_sweep _ _ _ _ _ _ _ _ _ _ _,
    fun _ => covers_guarded _ _ _ guardsHang_judgeSorcerersApprentice,
    fun _ => covers_guarded _ _ _ guardsHang_judgeSorcerersApprentice,
    fun _ => covers_guarded _ _ _ (guardsHang_judgeBlackout _ _),
    fun _ => covers_sweep _ _ _ _ _ _ _ _ _ _ _,
    fun _ => covers_basicDownload _ _ _ _ _ _,
    fun _ => covers_basicDownload _ _ _ _ _ _,
    fun _ => covers_basicDownload _ _ _ _ _ _,
    fun _ => covers_basicDownload _ _ _ _ _ _,
    fun _ => covers_basicDownload _ _ _ _ _ _,
    fun _ => covers_basicDownload _ _ _ _ _ _,
    fun _ => covers_basicDownload _ _ _ _ _ _,
    fun _ => covers_basicDownload _ _ _ _ _ _,
    fun _ => covers_basicDownload _ _ _ _ _ _,
    fun _ => covers_basicDownload _ _ _ _ _ _,
    fun _ => covers_windowDownloads _ _ _,
    fun _ => covers_sweep _ _ _ _ _ _ _ _ _ _ _,
    fun _ => covers_sweep _ _ _ _ _ _ _ _ _ _ _,
    fun _ => covers_sweep _ _ _ _ _ _ _ _ _ _ _,
    fun _ => covers_sweep _ _ _ _ _ _ _ _ _ _ _,
    fun _ => covers_sweep _ _ _ _ _ _ _ _ _ _ _,
    fun _ => covers_sweep _ _ _ _ _ _ _ _ _ _ _,
    fun _ => covers_sweep _ _ _ _ _ _ _ _ _ _ _,
    fun _ => covers_sweep _ _ _ _ _ _ _ _ _ _ _,
    fun _ => covers_sweep _ _ _ _ _ _ _ _ _ _ _,
    fun _ => covers_sweep _ _ _ _ _ _ _ _ _ _ _,
    fun _ => covers_sweep _ _ _ _ _ _ _ _ _ _ _,
    fun _ => covers_sweep _ _ _ _ _ _ _ _ _ _ _,
    fun _ => covers_guarded _ _ _ (guardsHang_judgeBlackout _ _),
    fun _ => covers_guarded _ _ _ (guardsHang_judgeMalformedPacket _),
    fun _ => covers_guarded _ _ _ guardsHang_judgeIllegalOpcode,
    fun _ => covers_guarded _ _ _ (guardsHang_judgeMalformedPacket _),
    fun _ => covers_guarded _ _ _ (guardsHang_judgeStrayTid _),
    fun _ => covers_guarded _ _ _ (guardsHang_judgeStrayTid _),
    fun _ => collapses_rapidChurn _ _⟩

/-- Every test keeps to the kind of its identifier. -/
theorem keepsTo_of_mem {test : TestCase} (h : test ∈ buildTestRegistry) :
    KeepsTo (judgeKind test.info.id) test := by
  have hall := keepsTo_registry
  rw [registryKinds_eq, List.forall₂_map_left_iff, List.forall₂_same] at hall
  exact hall test h

/-! ### The records that cover a transfer -/

/-- The records that cover the transfer with an index: the one with this index when there is one for
each transfer, and otherwise all of them. -/
def coveringRecords (results : List DriveResult) (records : List MetricRecord) (i : ℕ) :
    List MetricRecord :=
  if records.length = results.length then records[i]?.toList else records

section Covering

variable {test : TestCase} {context : TestContext} {results : List DriveResult}
  {records : List MetricRecord} {i : ℕ} {result : DriveResult}

/-- **Every transfer of a test is covered by one record**, which conforms to the kind of the test.
-/
theorem exists_covering_record (htest : test ∈ buildTestRegistry)
    (hrun : (test.body context).feed results = some (records, []))
    (hi : results[i]? = some result) :
    ∃ record, coveringRecords results records i = [record] ∧
      RecordConforms (judgeKind test.info.id) result record := by
  have hkeeps := keepsTo_of_mem htest
  have hpaired : ∀ kind, Covers kind (test.body context) →
      ∃ record, coveringRecords results records i = [record] ∧
        RecordConforms kind result record := by
    intro kind hcovers
    obtain ⟨used, hused, hforall⟩ := hcovers _ _ _ hrun
    rw [List.append_nil] at hused
    subst hused
    obtain ⟨hlt, rfl⟩ := List.getElem?_eq_some_iff.1 hi
    have hlength := hforall.length_eq
    refine ⟨records[i], ?_, (List.forall₂_iff_get.1 hforall).2 i hlt (hlength ▸ hlt)⟩
    rw [coveringRecords, if_pos hlength.symm, List.getElem?_eq_getElem (hlength ▸ hlt)]
    rfl
  unfold KeepsTo at hkeeps
  cases hkind : judgeKind test.info.id with
  | churn =>
      rw [hkind] at hkeeps
      obtain ⟨record, rfl, hconforms⟩ := hkeeps context _ _ _ hrun
      refine ⟨record, ?_, hconforms result⟩
      unfold coveringRecords
      split
      · next hlength =>
          have hzero : i = 0 := by
            have hlt := (List.getElem?_eq_some_iff.1 hi).1
            rw [← hlength, List.length_singleton] at hlt
            omega
          rw [hzero]
          rfl
      · rfl
  | byteExact => exact hpaired .byteExact (by rw [hkind] at hkeeps; exact hkeeps context)
  | finalBlock => exact hpaired .finalBlock (by rw [hkind] at hkeeps; exact hkeeps context)
  | guarded => exact hpaired .guarded (by rw [hkind] at hkeeps; exact hkeeps context)
  | freshTid => exact hpaired .freshTid (by rw [hkind] at hkeeps; exact hkeeps context)
  | sweep => exact hpaired .sweep (by rw [hkind] at hkeeps; exact hkeeps context)

/-- A test executed by the driver. -/
def performTest (surroundings : Surroundings) (context : TestContext) (test : TestCase)
    (files : FileSystem) : Except Bytes (List MetricRecord) × FileSystem :=
  let ((records, _), files) := (test.body context).handle (driveTransfer surroundings) files
  (.ok records, files)

/-- **The driver's transfers are covered**: an executed test returns records that cover each of the
results it was handed. -/
theorem performTest_covers (htest : test ∈ buildTestRegistry) (surroundings : Surroundings)
    (files : FileSystem) :
    ∃ records results, (performTest surroundings context test files).1 = .ok records ∧
      results = ((test.body context).handle (driveTransfer surroundings) files).1.2 ∧
      ∀ i result, results[i]? = some result →
        ∃ record, coveringRecords results records i = [record] ∧
          RecordConforms (judgeKind test.info.id) result record :=
  ⟨_, _, rfl, rfl, fun _ _ => exists_covering_record htest
    (Dialogue.feed_handle (driveTransfer surroundings) (test.body context) files)⟩

/-! ### The integrity ledger -/

/-- The results with silent corruption that a kind of judge puts into the ledger. -/
def LedgerReached (kind : JudgeKind) (result : DriveResult) : Prop :=
  match kind with
  | .byteExact =>
      result.appResult.unsupportedConfiguration = false ∧ result.setupFailed = false ∧
        result.watchdogFired = false
  | .finalBlock =>
      result.setupFailed = false ∧ result.watchdogFired = false ∧
        result.observer.terminatingShortBlockPresent = true
  | .sweep => True
  | .guarded | .freshTid | .churn => False

theorem ledger_of_conforms {kind : JudgeKind} {verdict : Verdict}
    (h : Conforms kind result verdict) (hsilent : SilentCorruption result) :
    (verdict.outcome = .fail ∧ verdict.integrityViolation = true) ↔ LedgerReached kind result := by
  obtain ⟨hcompleted, hmismatch⟩ := hsilent
  have hmatches : result.integrity.matches = false := by
    rw [IntegrityResult.matches, hmismatch]
    rfl
  cases kind with
  | byteExact =>
      obtain rfl := h
      unfold byteExactVerdict LedgerReached
      cases result.appResult.unsupportedConfiguration <;> cases result.setupFailed <;>
        cases result.watchdogFired <;> simp [hcompleted, hmatches]
  | finalBlock =>
      obtain rfl := h
      unfold finalBlockVerdict LedgerReached
      cases result.observer.terminatingShortBlockPresent <;> cases result.setupFailed <;>
        cases result.watchdogFired <;> simp [hcompleted, hmatches]
  | sweep =>
      obtain rfl := h
      simp [sweepVerdict, LedgerReached, SilentCorruption, hcompleted, hmismatch]
  | guarded =>
      obtain ⟨-, hviolation, -, -⟩ := h
      simp [LedgerReached, hviolation]
  | freshTid =>
      obtain ⟨-, hviolation, -⟩ := h
      simp [LedgerReached, hviolation]
  | churn =>
      obtain ⟨-, hviolation, -⟩ := h
      simp [LedgerReached, hviolation]

/-- **Silent corruption reaches the integrity ledger** exactly in the sweeps, in the byte-exact
tests when nothing else went wrong, and in the final-block tests when the terminating block was
seen. -/
theorem corruption_ledgered_iff (htest : test ∈ buildTestRegistry)
    (hrun : (test.body context).feed results = some (records, [])) (hi : results[i]? = some result)
    (hsilent : SilentCorruption result) :
    (∃ record ∈ coveringRecords results records i,
        record.outcome = .fail ∧ record.integrityViolation = true) ↔
      LedgerReached (judgeKind test.info.id) result := by
  obtain ⟨record, hcovering, hconforms⟩ := exists_covering_record htest hrun hi
  rw [hcovering, ← ledger_of_conforms hconforms hsilent]
  simp [MetricRecord.verdict]

end Covering

/-- A transfer from a fresh TID that reported success and delivered wrong bytes. -/
def corruptedResult : DriveResult where
  appResult := { completedSuccessfully := true }
  observer := { serverSelectedFreshTid := true }
  integrity := { verdict := .mismatch }

/-- What the test of a fresh TID makes of it. -/
def corruptedRecord : MetricRecord :=
  judgeFreshTid { baseRecord freshTidTest.info {} with seed := seedFor {} freshTidTest.info.id 0 }
    corruptedResult

theorem freshTidTest_mem : freshTidTest ∈ buildTestRegistry := by
  simp [buildTestRegistry, tidTests]

theorem corruption_ledgered_iff_fresh_tid :
    (∃ record ∈ coveringRecords [corruptedResult] [corruptedRecord] 0,
        record.outcome = .fail ∧ record.integrityViolation = true) ↔
      LedgerReached (judgeKind freshTidTest.info.id) corruptedResult :=
  @corruption_ledgered_iff freshTidTest {} _ _ 0 _ freshTidTest_mem rfl rfl ⟨rfl, rfl⟩

/-- The test of a fresh TID passes a transfer that delivered wrong bytes. -/
theorem corruption_passed_by_fresh_tid :
    SilentCorruption corruptedResult ∧
      (freshTidTest.body {}).feed [corruptedResult] = some ([corruptedRecord], []) ∧
      corruptedRecord.outcome = .pass ∧
      ¬ ∃ record ∈ coveringRecords [corruptedResult] [corruptedRecord] 0,
        record.outcome = .fail ∧ record.integrityViolation = true := by
  refine ⟨⟨rfl, rfl⟩, rfl, rfl, ?_⟩
  rintro ⟨record, hmem, hfail, -⟩
  obtain rfl := List.mem_singleton.1 hmem
  exact Outcome.noConfusion hfail

/-! ### Hangs and failed setups -/

section Hangs

variable {test : TestCase} {context : TestContext} {results : List DriveResult}
  {records : List MetricRecord} {i : ℕ} {result : DriveResult}

/-- The results of a transfer that hung or could not be set up that a kind of judge records so. -/
def HangRecorded (kind : JudgeKind) (result : DriveResult) : Prop :=
  match kind with
  | .byteExact | .finalBlock => True
  | .guarded => result.watchdogFired = true
  | .sweep => result.watchdogFired = true ∧ ¬ SilentCorruption result
  | .freshTid | .churn => False

theorem hang_of_conforms {kind : JudgeKind} {verdict : Verdict} (h : Conforms kind result verdict)
    (hhang : result.setupFailed = true ∨ result.watchdogFired = true)
    (hsupported : result.appResult.unsupportedConfiguration = false) :
    (verdict.outcome = .fail ∧ verdict.ungracefulFailure = true) ↔ HangRecorded kind result := by
  cases kind with
  | byteExact =>
      obtain rfl := h
      simp [byteExactVerdict, HangRecorded, hsupported, hhang]
  | finalBlock =>
      obtain rfl := h
      simp [finalBlockVerdict, HangRecorded, Or.comm.1 hhang]
  | sweep =>
      obtain rfl := h
      unfold sweepVerdict HangRecorded
      by_cases hsilent : SilentCorruption result
      · simp [hsilent]
      · cases hfired : result.watchdogFired <;> simp [hsilent]
  | guarded =>
      obtain ⟨-, -, hungraceful, hfail⟩ := h
      constructor
      · rintro ⟨-, hflag⟩
        exact hungraceful.symm.trans hflag
      · intro hfired
        exact ⟨hfail hfired, hungraceful.trans hfired⟩
  | freshTid =>
      obtain ⟨-, -, hungraceful⟩ := h
      simp [HangRecorded, hungraceful]
  | churn =>
      obtain ⟨-, -, hungraceful⟩ := h
      simp [HangRecorded, hungraceful]

/-- **A transfer that hung or could not be set up is recorded so**, and never as passed, exactly in
the byte-exact and the final-block tests, and in the guarded tests and the sweeps when it hung. -/
theorem hang_recorded_iff (htest : test ∈ buildTestRegistry)
    (hrun : (test.body context).feed results = some (records, [])) (hi : results[i]? = some result)
    (hhang : result.setupFailed = true ∨ result.watchdogFired = true)
    (hsupported : result.appResult.unsupportedConfiguration = false) :
    ((∃ record ∈ coveringRecords results records i,
          record.outcome = .fail ∧ record.ungracefulFailure = true) ∧
        ∀ record ∈ coveringRecords results records i, record.outcome ≠ .pass) ↔
      HangRecorded (judgeKind test.info.id) result := by
  obtain ⟨record, hcovering, hconforms⟩ := exists_covering_record htest hrun hi
  rw [hcovering, ← hang_of_conforms hconforms hhang hsupported]
  simp only [List.mem_singleton, exists_eq_left, forall_eq]
  constructor
  · rintro ⟨hfail, -⟩
    exact hfail
  · intro hfail
    refine ⟨hfail, fun hpass => ?_⟩
    have hclash : record.outcome = .fail := hfail.1
    rw [hpass] at hclash
    exact Outcome.noConfusion hclash

end Hangs

theorem fileNotFoundTest_mem : fileNotFoundTest ∈ buildTestRegistry := by
  simp [buildTestRegistry, baseProtocolTests]

/-- What the test of a missing file makes of a result. -/
def fileNotFoundRecord (result : DriveResult) : MetricRecord :=
  judgeFileNotFound
    { baseRecord fileNotFoundTest.info {} with
      seed := seedFor {} fileNotFoundTest.info.id 0 } result

/-- A transfer that hung. -/
def hungResult : DriveResult := { watchdogFired := true }

theorem hang_recorded_iff_file_not_found :
    ((∃ record ∈ coveringRecords [hungResult] [fileNotFoundRecord hungResult] 0,
          record.outcome = .fail ∧ record.ungracefulFailure = true) ∧
        ∀ record ∈ coveringRecords [hungResult] [fileNotFoundRecord hungResult] 0,
          record.outcome ≠ .pass) ↔
      HangRecorded (judgeKind fileNotFoundTest.info.id) hungResult :=
  @hang_recorded_iff fileNotFoundTest {} _ _ 0 _ fileNotFoundTest_mem rfl rfl (Or.inr rfl) rfl

/-- A transfer whose server could not be reached. -/
def unstartedResult : DriveResult := setupFailure (text "server returned an unparseable endpoint")

/-- The test of a missing file passes a transfer that never took place. -/
theorem failed_setup_passed_by_file_not_found :
    unstartedResult.setupFailed = true ∧
      unstartedResult.appResult.unsupportedConfiguration = false ∧
      (fileNotFoundTest.body {}).feed [unstartedResult] =
        some ([fileNotFoundRecord unstartedResult], []) ∧
      (fileNotFoundRecord unstartedResult).outcome = .pass ∧
      ¬ ∃ record ∈ coveringRecords [unstartedResult] [fileNotFoundRecord unstartedResult] 0,
        record.outcome = .fail ∧ record.ungracefulFailure = true := by
  refine ⟨rfl, rfl, rfl, rfl, ?_⟩
  rintro ⟨record, hmem, hfail, -⟩
  obtain rfl := List.mem_singleton.1 hmem
  exact Outcome.noConfusion hfail

/-! ### Unsupported requests -/

section Unsupported

variable {test : TestCase} {context : TestContext} {results : List DriveResult}
  {records : List MetricRecord} {i : ℕ} {result : DriveResult}

/-- Only the byte-exact judge looks at the flag; no other verdict is ever a skip. -/
theorem skipped_of_conforms {kind : JudgeKind} {verdict : Verdict}
    (h : Conforms kind result verdict)
    (hunsupported : result.appResult.unsupportedConfiguration = true) :
    verdict.outcome = .skipped ↔ kind = .byteExact := by
  cases kind with
  | byteExact =>
      obtain rfl := h
      simp [byteExactVerdict, hunsupported]
  | finalBlock =>
      obtain rfl := h
      have hjudged : (finalBlockVerdict result).outcome ≠ .skipped := by
        unfold finalBlockVerdict
        split_ifs <;> exact Outcome.noConfusion
      simp [hjudged]
  | sweep =>
      obtain rfl := h
      have hjudged : (sweepVerdict result).outcome ≠ .skipped := by
        unfold sweepVerdict
        split_ifs <;> exact Outcome.noConfusion
      simp [hjudged]
  | guarded => simp [h.1]
  | freshTid => simp [h.1]
  | churn => simp [h.1]

/-- **A transfer the implementation could not be asked for is skipped** exactly in the tests that
judge byte-exact transfers and return their records. -/
theorem unsupported_skipped_iff (htest : test ∈ buildTestRegistry)
    (hrun : (test.body context).feed results = some (records, [])) (hi : results[i]? = some result)
    (hunsupported : result.appResult.unsupportedConfiguration = true) :
    (∀ record ∈ coveringRecords results records i, record.outcome = .skipped) ↔
      judgeKind test.info.id = .byteExact := by
  obtain ⟨record, hcovering, hconforms⟩ := exists_covering_record htest hrun hi
  rw [hcovering, ← skipped_of_conforms hconforms hunsupported]
  simp [MetricRecord.verdict]

end Unsupported

/-- A transfer with a value that the client does not offer. -/
def unsupportedResult : DriveResult where
  appResult := { unsupportedConfiguration := true }

/-- What a byte-exact test makes of it. -/
def unsupportedRecord (test : TestCase) : MetricRecord :=
  judgeByteExact { baseRecord test.info {} with seed := seedFor {} test.info.id 0 }
    unsupportedResult

/-- The test of a block size the client may not offer. -/
def ethernetBlockSizeTest : TestCase :=
  blockSizeTest "C-03" "blksize = 1428 (Ethernet-friendly)" "RFC 2348" .major "kib_8" 1428

theorem ethernetBlockSizeTest_mem : ethernetBlockSizeTest ∈ buildTestRegistry := by
  simp [buildTestRegistry, optionTests, ethernetBlockSizeTest]

theorem unsupported_skipped_iff_block_size :
    (∀ record ∈ coveringRecords [unsupportedResult] [unsupportedRecord ethernetBlockSizeTest] 0,
        record.outcome = .skipped) ↔ judgeKind ethernetBlockSizeTest.info.id = .byteExact :=
  @unsupported_skipped_iff ethernetBlockSizeTest {} _ _ 0 _ ethernetBlockSizeTest_mem rfl rfl rfl

/-- The first test of the final block. -/
def exactBlockTest : TestCase :=
  testCase "A-04" "File length exactly 512 bytes" "RFC 1350 section 2" .critical rrq
    fun c t => finalBlockRule c t (text "exact_block")

theorem exactBlockTest_mem : exactBlockTest ∈ buildTestRegistry := by
  simp [buildTestRegistry, baseProtocolTests, exactBlockTest]

/-- What the test of the final block makes of an unsupported request. -/
def unsupportedFinalBlockRecord : MetricRecord :=
  judgeFinalBlock
    { baseRecord exactBlockTest.info {} with
      seed := seedFor {} exactBlockTest.info.id 0 } unsupportedResult

/-- The test of the final block fails a transfer that the implementation could not be asked for. -/
theorem unsupported_failed_by_final_block_rule :
    exactBlockTest ∈ buildTestRegistry ∧
      unsupportedResult.appResult.unsupportedConfiguration = true ∧
      unsupportedResult.setupFailed = false ∧ unsupportedResult.watchdogFired = false ∧
      (exactBlockTest.body {}).feed [unsupportedResult] =
        some ([unsupportedFinalBlockRecord], []) ∧
      unsupportedFinalBlockRecord.outcome = .fail ∧
      ¬ ∀ record ∈ coveringRecords [unsupportedResult] [unsupportedFinalBlockRecord] 0,
        record.outcome = .skipped := by
  refine ⟨exactBlockTest_mem, rfl, rfl, rfl, rfl, rfl, fun hall => ?_⟩
  exact Outcome.noConfusion (hall _ (List.mem_singleton_self _))

end TftpHarness
