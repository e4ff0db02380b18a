/-
**The suite runner.**

`run_suite` generates the fixtures, walks the registry, and appends what each test returns to the
store.  A test one of whose required capabilities is missing is not run: its single record is
skipped and names the capability that was found missing first.  How a test is executed is a
parameter, a function of a state of its own that may fail with an exception; with the driver it is
`performTest`.

Left out are the path of the store, the callback that prints the progress, and the directory that is
made up when no work root is given.

Main definitions:

* `TftpHarness.generateStandardFixtures`, `TftpHarness.buildFixtureMap` — the fixtures;
* `TftpHarness.runTest`, `TftpHarness.runSuite` — **the runner**.

Main results:

* `TftpHarness.le_length_netasciiText` — the loop of the netascii fixture ends by itself;
* `TftpHarness.mem_skipped_runSuite_iff` — **the skipped records of a suite**.
-/

import TftpHarness.Registry
import TftpHarness.Report

set_option relaxedAutoImplicit false
set_option autoImplicit false

namespace TftpHarness

/-! ### Fixtures -/

/-- The bytes of the linear congruential stream from a state on. -/
def lcgBytes : ℕ → UInt32 → Bytes
  | 0, _ => []
  | n + 1, state =>
      let state := state * 1664525 + 1013904223
      (state >>> 24).toUInt8 :: lcgBytes n state

/-- `deterministic_binary`. -/
def deterministicBinary (size : ℕ) (seed : UInt32) : Bytes :=
  lcgBytes size (seed * 2654435761 + 1013904223)

/-- The pieces of the netascii text: text, line feeds, a bare CR and a CR LF. -/
def netasciiFragments : List Bytes :=
  [text "The quick brown fox", [10], text "carriage" ++ [13] ++ text "return-in-the-middle",
    [13, 10], text "another line of netascii content", [10], text "tab" ++ [9] ++
    text "and more words", [10]]

/-- The loop of `deterministic_netascii_text`, which a number of fragments ends at the latest. -/
def netasciiText (approxSize : ℕ) : ℕ → ℕ → Bytes → Bytes
  | 0, _, bytes => bytes
  | fuel + 1, index, bytes =>
      if bytes.length < approxSize then
        netasciiText approxSize fuel (index + 1) (bytes ++ netasciiFragments.getD (index % 8) [])
      else bytes

/-- `deterministic_netascii_text`: no fragment is empty. -/
def deterministicNetasciiText (approxSize : ℕ) : Bytes := netasciiText approxSize approxSize 0 []

theorem netasciiFragments_ne_nil (index : ℕ) : netasciiFragments.getD (index % 8) [] ≠ [] := by
  have hall : ∀ i < 8, netasciiFragments.getD i [] ≠ [] := by decide +kernel
  exact hall _ (Nat.mod_lt _ (by decide))

/-- The fragments are enough: the text is as long as asked for. -/
theorem le_length_netasciiText {approxSize : ℕ} (fuel : ℕ) :
    ∀ (index : ℕ) (bytes : Bytes), approxSize ≤ bytes.length + fuel →
      approxSize ≤ (netasciiText approxSize fuel index bytes).length := by
  induction fuel with
  | zero => exact fun _ _ h => h
  | succ fuel ih =>
      intro index bytes h
      rw [netasciiText]
      split
      · refine ih _ _ ?_
        have hpos := List.length_pos_iff.2 (netasciiFragments_ne_nil index)
        rw [List.length_append]
        omega
      · omega

/-- The sizes of the standard fixtures, which draw their seeds from their place. -/
def fixtureSizes : List (Bytes × ℕ) :=
  [(text "empty.bin", 0), (text "one.bin", 1), (text "just_under_block.bin", 511),
    (text "exact_block.bin", 512), (text "just_over_block.bin", 513),
    (text "two_blocks_exact.bin", 1024), (text "odd_medium.bin", 3000), (text "kib_8.bin", 8000),
    (text "kib_64.bin", 65000)]

/-- `generate_standard_fixtures`. -/
def generateStandardFixtures (includeHuge : Bool) : List Fixture :=
  (fixtureSizes.mapIdx fun i spec => ⟨spec.1, deterministicBinary spec.2 (UInt32.ofNat (i + 1))⟩) ++
    [⟨text "netascii_mixed.txt", deterministicNetasciiText 4096⟩] ++
    if includeHuge then
      [⟨text "multi_megabyte.bin", deterministicBinary (4 * 1024 * 1024) 101⟩,
        ⟨text "over_65535_blocks.bin", deterministicBinary (65536 * 512 + 1024) 202⟩]
    else []

/-- The key of a fixture: its name up to the first dot. -/
def fixtureKey (fixture : Fixture) : Bytes := fixture.name.takeWhile (· ≠ 0x2E)

/-- `build_fixture_map`: of several fixtures with a key the last one counts. -/
def buildFixtureMap (fixtures : List Fixture) (key : Bytes) : Option Fixture :=
  fixtures.reverse.find? fun fixture => fixtureKey fixture = key

/-! ### The runner -/

structure RunnerOptions where
  baseSeed : UInt64 := 0xC0FFEE1234
  workRoot : List Bytes := []
  includeHugeFixtures : Bool := false
  watchdog : ℤ := 20000
  idFilter : Bytes := []

structure RunSummary where
  totalRecords : ℕ := 0
  passed : ℕ := 0
  failed : ℕ := 0
  skipped : ℕ := 0
  integrityViolations : ℕ := 0
  ungracefulFailures : ℕ := 0
  deriving DecidableEq, Repr

/-- The summary with one more record. -/
def RunSummary.count (summary : RunSummary) (record : MetricRecord) : RunSummary where
  totalRecords := summary.totalRecords + 1
  passed := summary.passed + if record.outcome = .pass then 1 else 0
  failed := summary.failed + if record.outcome = .fail then 1 else 0
  skipped := summary.skipped + if record.outcome = .skipped then 1 else 0
  integrityViolations := summary.integrityViolations + if record.integrityViolation then 1 else 0
  ungracefulFailures := summary.ungracefulFailures + if record.ungracefulFailure then 1 else 0

def bothSupport (client : ClientAdapter) (server : ServerAdapter) (capability : Bytes) : Bool :=
  client.supportsCapability capability && server.supportsCapability capability

/-- The first of the required capabilities that is not there. -/
def firstMissing (supported : Bytes → Bool) (capabilities : List Bytes) : Option Bytes :=
  capabilities.find? fun capability => !supported capability

/-- The narrative of a skipped test. -/
def missingNarrative (missing : Bytes) : Bytes :=
  text "capability '" ++ missing ++ text "' not supported by the implementation under test"

def skippedRecord (test : TestInfo) (implementation missing : Bytes) : MetricRecord where
  testId := test.id
  title := test.title
  rfcClause := test.rfcClause
  severity := .info
  outcome := .skipped
  implementationName := implementation
  narrative := missingNarrative missing

/-- The record of a test that threw an exception. -/
def exceptionRecord (test : TestInfo) (implementation error : Bytes) : MetricRecord where
  testId := test.id
  title := test.title
  rfcClause := test.rfcClause
  severity := test.severity
  outcome := .fail
  ungracefulFailure := true
  implementationName := implementation
  narrative := text "test threw an exception: " ++ error

/-- A record without an implementation gets the one under test. -/
def withImplementation (implementation : Bytes) (record : MetricRecord) : MetricRecord :=
  if record.implementationName = [] then { record with implementationName := implementation }
  else record

section Suite

variable {σ : Type}
  (execute : TestContext → TestCase → σ → Except Bytes (List MetricRecord) × σ)

/-- What the runner has: the store, the summary, and the state of the execution. -/
structure SuiteState (σ : Type) where
  store : MetricsStore
  summary : RunSummary := {}
  state : σ

/-- The records appended, one after the other. -/
def appendRecords (s : SuiteState σ) (records : List MetricRecord) : SuiteState σ :=
  records.foldl
    (fun s record =>
      { s with
        store := s.store.append record
        summary := s.summary.count record }) s

/-- The records of one test, and the state after it. -/
def runTest (supported : Bytes → Bool) (context : TestContext) (test : TestCase) (state : σ) :
    List MetricRecord × σ :=
  match firstMissing supported test.requiredCapabilities with
  | some missing => ([skippedRecord test.info context.implementationName missing], state)
  | none =>
      match execute context test state with
      | (.ok records, state) =>
          (records.map (withImplementation context.implementationName), state)
      | (.error error, state) =>
          ([exceptionRecord test.info context.implementationName error], state)

/-- The loop of `run_suite` over the tests. -/
def runTests (supported : Bytes → Bool) (context : TestContext) (idFilter : Bytes) :
    List TestCase → SuiteState σ → SuiteState σ
  | [], s => s
  | test :: tests, s =>
      if idFilter ≠ [] ∧ ¬ idFilter <:+: test.info.id then
        runTests supported context idFilter tests s
      else
        let (records, state) := runTest execute supported context test s.state
        runTests supported context idFilter tests (appendRecords { s with state } records)

/-- The context of a run. -/
def suiteContext (client : ClientAdapter) (server : ServerAdapter) (options : RunnerOptions) :
    TestContext where
  client := some client
  server := some server
  fixtures := buildFixtureMap (generateStandardFixtures options.includeHugeFixtures)
  workRoot := options.workRoot ++ [text "tests"]
  baseSeed := options.baseSeed
  implementationName := client.implementationName ++ text " / " ++ server.implementationName
  watchdog := options.watchdog

/-- **`run_suite`.** -/
def runSuite (client : ClientAdapter) (server : ServerAdapter) (options : RunnerOptions)
    (state : σ) : SuiteState σ :=
  let context := suiteContext client server options
  let s := runTests execute (bothSupport client server) context options.idFilter buildTestRegistry
    { store := MetricsStore.create context.implementationName, state }
  { s with store := { s.store with isOpen := false } }

end Suite

/-! ### Skipped records -/

section Skipped

variable {σ : Type} {execute : TestContext → TestCase → σ → Except Bytes (List MetricRecord) × σ}
  {supported : Bytes → Bool} {context : TestContext}

/-- The bodies of the tests never return a skipped record themselves. -/
def NeverSkips (execute : TestContext → TestCase → σ → Except Bytes (List MetricRecord) × σ) :
    Prop :=
  ∀ context test state records, (execute context test state).1 = .ok records →
    ∀ record ∈ records, record.outcome ≠ .skipped

theorem records_appendRecords (records : List MetricRecord) :
    ∀ s : SuiteState σ, (appendRecords s records).store.records = s.store.records ++ records := by
  induction records with
  | nil => exact fun s => (List.append_nil _).symm
  | cons record records ih =>
      intro s
      have happend : (s.store.append record).records = s.store.records ++ [record] := by
        unfold MetricsStore.append
        dsimp only
        split <;> rfl
      unfold appendRecords at ih ⊢
      rw [List.foldl_cons, ih]
      dsimp only
      rw [happend, List.append_assoc, List.singleton_append]

/-- The skipped records of one test. -/
theorem mem_skipped_runTest_iff (h : NeverSkips execute) (test : TestCase) (state : σ)
    {record : MetricRecord} (hskipped : record.outcome = .skipped) :
    record ∈ (runTest execute supported context test state).1 ↔
      ∃ missing, firstMissing supported test.requiredCapabilities = some missing ∧
        record = skippedRecord test.info context.implementationName missing := by
  unfold runTest
  cases hmissing : firstMissing supported test.requiredCapabilities with
  | some missing => simp
  | none =>
      have hnone : ¬ ∃ missing, (none : Option Bytes) = some missing ∧
          record = skippedRecord test.info context.implementationName missing := by
        rintro ⟨missing, hsome, -⟩
        exact absurd hsome (by simp)
      rw [iff_false_right hnone]
      rcases hexecute : execute context test state with ⟨⟨error⟩ | ⟨records⟩, state'⟩
      · intro hmem
        rw [List.mem_singleton.1 hmem] at hskipped
        exact Outcome.noConfusion hskipped
      · intro hmem
        obtain ⟨record', hmem', rfl⟩ := List.mem_map.1 hmem
        refine h context test state records (by rw [hexecute]) record' hmem' ?_
        unfold withImplementation at hskipped
        split at hskipped
        · exact hskipped
        · exact hskipped

/-- The skipped records of an unfiltered suite. -/
theorem mem_skipped_runTests_iff (h : NeverSkips execute) {record : MetricRecord}
    (hskipped : record.outcome = .skipped) (tests : List TestCase) :
    ∀ s : SuiteState σ,
      record ∈ (runTests execute supported context [] tests s).store.records ↔
        record ∈ s.store.records ∨ ∃ test ∈ tests, ∃ missing,
          firstMissing supported test.requiredCapabilities = some missing ∧
            record = skippedRecord test.info context.implementationName missing := by
  induction tests with
  | nil => intro s; simp [runTests]
  | cons test tests ih =>
      intro s
      rw [runTests, if_neg (fun hfilter => hfilter.1 rfl)]
      dsimp only
      rw [ih, records_appendRecords, List.mem_append, mem_skipped_runTest_iff h test _ hskipped,
        List.exists_mem_cons_iff, or_assoc]

/-- **The skipped records of a suite** are those of the tests with a missing capability. -/
theorem mem_skipped_runSuite_iff (h : NeverSkips execute) (client : ClientAdapter)
    (server : ServerAdapter) {options : RunnerOptions} (hfilter : options.idFilter = []) (state : σ)
    {record : MetricRecord} (hskipped : record.outcome = .skipped) :
    record ∈ (runSuite execute client server options state).store.records ↔
      ∃ test ∈ buildTestRegistry, ∃ missing,
        firstMissing (bothSupport client server) test.requiredCapabilities = some missing ∧
          record = skippedRecord test.info (suiteContext client server options).implementationName
            missing := by
  unfold runSuite
  dsimp only
  rw [hfilter, mem_skipped_runTests_iff h hskipped]
  simp [MetricsStore.create]

end Skipped

end TftpHarness
