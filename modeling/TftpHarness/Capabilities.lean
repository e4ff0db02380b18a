/-
**The capability matrix.**

The report infers the matrix from the narratives of skipped tests, and such a narrative names one
capability, the first that was missing.  A capability that both adapters lack is shown as supported
when no test gets as far as missing it: each test that requires it lists another missing one before
it.  So whether the matrix tells the truth depends on the order in which the registry lists the
capabilities.

Main definitions:

* `TftpHarness.capabilityNames` — the eight capabilities;
* `TftpHarness.prerequisites` — what the tests that require a capability list before it.

Main results:

* `TftpHarness.firstMissing_eq_some_iff` — when a capability is the first missing one;
* `TftpHarness.capability_truthful_iff` — the truth of one entry of the matrix;
* `TftpHarness.capability_matrix_truthful_iff` — **when the matrix tells the truth**.
-/

import TftpHarness.Runner

set_option relaxedAutoImplicit false
set_option autoImplicit false

namespace TftpHarness

open Capability

/-! ### The first missing capability -/

/-- A capability is the first missing one when it is required and missing and all before it are
there. -/
theorem firstMissing_eq_some_iff {supported : Bytes → Bool} {capability : Bytes}
    (capabilities : List Bytes) :
    firstMissing supported capabilities = some capability ↔
      capability ∈ capabilities ∧ supported capability = false ∧
        ∀ x ∈ capabilities.takeWhile (· ≠ capability), supported x = true := by
  unfold firstMissing
  induction capabilities with
  | nil => simp
  | cons first rest ih =>
      by_cases heq : first = capability
      · subst heq
        cases hfirst : supported first with
        | true => simp [hfirst, ih]
        | false => simp [hfirst]
      · cases hfirst : supported first with
        | true => simp [hfirst, ih, heq, Ne.symm heq]
        | false => simp [hfirst, heq]

/-- What the tests that require a capability list before it. -/
def prerequisites (capability : Bytes) : List (List Bytes) :=
  (((buildTestRegistry.map TestCase.requiredCapabilities).filter (capability ∈ ·)).map
    fun capabilities => capabilities.takeWhile (· ≠ capability)).dedup

/-- Some test misses the capability first. -/
theorem exists_firstMissing_iff {supported : Bytes → Bool} {capability : Bytes} :
    (∃ test ∈ buildTestRegistry,
        firstMissing supported test.requiredCapabilities = some capability) ↔
      supported capability = false ∧
        ∃ before ∈ prerequisites capability, ∀ x ∈ before, supported x = true := by
  simp only [prerequisites, List.mem_dedup, List.mem_map, List.mem_filter, firstMissing_eq_some_iff]
  constructor
  · rintro ⟨test, htest, hmem, hmissing, hbefore⟩
    exact ⟨hmissing, _, ⟨_, ⟨⟨test, htest, rfl⟩, by simpa using hmem⟩, rfl⟩, hbefore⟩
  · rintro ⟨hmissing, _, ⟨_, ⟨⟨test, htest, rfl⟩, hmem⟩, rfl⟩, hbefore⟩
    exact ⟨test, htest, by simpa using hmem, hmissing, hbefore⟩

/-! ### The matrix -/

/-- The eight capabilities. -/
def capabilityNames : List Bytes := capabilityLabels.map Prod.fst

/-- The narrative of a missing capability names no other. -/
theorem infix_missingNarrative_iff :
    ∀ capability ∈ capabilityNames, ∀ missing ∈ capabilityNames,
      (capability <:+: missingNarrative missing ↔ capability = missing) := by
  decide +kernel

theorem requiredCapabilities_subset :
    ∀ test ∈ buildTestRegistry, ∀ capability ∈ test.requiredCapabilities,
      capability ∈ capabilityNames := by
  have hall : ∀ capabilities ∈ buildTestRegistry.map TestCase.requiredCapabilities,
      ∀ capability ∈ capabilities, capability ∈ capabilityNames := by decide +kernel
  exact fun test htest => hall _ (List.mem_map_of_mem htest)

/-- The entry of a capability in the matrix of some records. -/
theorem lookup_capabilityMatrix {capability : Bytes} (h : capability ∈ capabilityNames)
    (records : List MetricRecord) :
    (capabilityMatrix records).lookup capability =
      some (decide (∀ record ∈ records, ¬ SkippedFor capability record)) := by
  have hnames : capabilityLabels.map (fun label =>
      (label.1, decide (∀ record ∈ records, ¬ SkippedFor label.1 record))) =
        capabilityNames.map fun name =>
          (name, decide (∀ record ∈ records, ¬ SkippedFor name record)) := by
    rw [capabilityNames, List.map_map]
    rfl
  rw [capabilityMatrix_eq, hnames,
    List.lookup_graph (fun name => decide (∀ record ∈ records, ¬ SkippedFor name record)) h]

section Truth

variable {σ : Type} {execute : TestContext → TestCase → σ → Except Bytes (List MetricRecord) × σ}
  {options : RunnerOptions}

/-- Some record of the suite was skipped for a capability when some test misses it first. -/
theorem exists_skippedFor_iff (h : NeverSkips execute) (client : ClientAdapter)
    (server : ServerAdapter) (hfilter : options.idFilter = []) (state : σ) {capability : Bytes}
    (hcapability : capability ∈ capabilityNames) :
    (∃ record ∈ (runSuite execute client server options state).store.records,
        SkippedFor capability record) ↔
      ∃ test ∈ buildTestRegistry,
        firstMissing (bothSupport client server) test.requiredCapabilities = some capability := by
  have hnamed : ∀ test ∈ buildTestRegistry, ∀ missing,
      firstMissing (bothSupport client server) test.requiredCapabilities = some missing →
        (capability <:+: missingNarrative missing ↔ capability = missing) := by
    intro test htest missing hmissing
    have hrequired := ((firstMissing_eq_some_iff _).1 hmissing).1
    exact infix_missingNarrative_iff _ hcapability _
      (requiredCapabilities_subset test htest missing hrequired)
  constructor
  · rintro ⟨record, hmem, hskipped, hinfix⟩
    obtain ⟨test, htest, missing, hmissing, rfl⟩ :=
      (mem_skipped_runSuite_iff h client server hfilter state hskipped).1 hmem
    exact ⟨test, htest, (hnamed test htest missing hmissing).1 hinfix ▸ hmissing⟩
  · rintro ⟨test, htest, hmissing⟩
    exact ⟨skippedRecord test.info (suiteContext client server options).implementationName
        capability,
      (mem_skipped_runSuite_iff h client server hfilter state rfl).2
        ⟨test, htest, capability, hmissing, rfl⟩,
      rfl, (hnamed test htest capability hmissing).2 rfl⟩

variable (sortPoints : List (ResiliencePoint Double) → List (ResiliencePoint Double))

/-- **The matrix is right about a capability** when both adapters have it, or some test requires it
after capabilities that they all have. -/
theorem capability_truthful_iff (h : NeverSkips execute) (client : ClientAdapter)
    (server : ServerAdapter) (hfilter : options.idFilter = []) (state : σ) {capability : Bytes}
    (hcapability : capability ∈ capabilityNames) :
    (analyze id sortPoints
        (runSuite execute client server options state).store).capabilitySupported.lookup
          capability =
        some (bothSupport client server capability) ↔
      bothSupport client server capability = true ∨ ∃ before ∈ prerequisites capability,
        ∀ x ∈ before, bothSupport client server x = true := by
  have hmatrix : (analyze id sortPoints
      (runSuite execute client server options state).store).capabilitySupported =
        capabilityMatrix (runSuite execute client server options state).store.records := rfl
  rw [hmatrix, lookup_capabilityMatrix hcapability, Option.some.injEq]
  have hskipped := exists_skippedFor_iff h client server hfilter state hcapability
  rw [exists_firstMissing_iff] at hskipped
  cases hsupported : bothSupport client server capability with
  | true =>
      simp only [hsupported, Bool.true_eq_false, false_and, iff_false, not_exists, not_and]
        at hskipped
      simpa using hskipped
  | false =>
      simp only [hsupported, true_and] at hskipped
      simp only [decide_eq_false_iff_not, Bool.false_eq_true, false_or, ← hskipped]
      push Not
      rfl

/-- What the registry lists before each capability. -/
theorem prerequisites_eq :
    capabilityNames.map prerequisites =
      [[[readRequest], [writeRequest]], [[]], [[]], [[readRequest]],
        [[readRequest, optionNegotiation]], [[readRequest, optionNegotiation]],
        [[readRequest, optionNegotiation]], [[readRequest, optionNegotiation]]] := by
  decide +kernel

/-- **The matrix tells the truth** exactly when a lack of netascii shows in a read or a write
request, a lack of option negotiation in a read request, and a lack of an option in a read request
with options. -/
theorem capability_matrix_truthful_iff (h : NeverSkips execute) (client : ClientAdapter)
    (server : ServerAdapter) (hfilter : options.idFilter = []) (state : σ) :
    (∀ capability ∈ capabilityNames,
        (analyze id sortPoints
          (runSuite execute client server options state).store).capabilitySupported.lookup
            capability = some (bothSupport client server capability)) ↔
      (bothSupport client server netasciiMode = true ∨
          bothSupport client server readRequest = true ∨
          bothSupport client server writeRequest = true) ∧
        (bothSupport client server optionNegotiation = true ∨
          bothSupport client server readRequest = true) ∧
        ∀ option ∈ [blockSize, timeoutOption, transferSize, windowSize],
          bothSupport client server option = true ∨
            bothSupport client server readRequest = true ∧
              bothSupport client server optionNegotiation = true := by
  have hentry := fun capability (hcapability : capability ∈ capabilityNames) =>
    capability_truthful_iff sortPoints h client server hfilter state hcapability
  rw [forall₂_congr hentry]
  have heq := prerequisites_eq
  simp only [capabilityNames, capabilityLabels, List.map_cons, List.map_nil, List.cons.injEq,
    and_true] at heq ⊢
  obtain ⟨hnetascii, hrrq, hwrq, hopt, hblk, htmo, htsz, hwin⟩ := heq
  simp only [hnetascii, hrrq, hwrq, hopt, hblk, htmo, htsz, hwin, List.mem_cons, List.not_mem_nil,
    or_false, exists_eq_or_imp, exists_eq_left, forall_eq_or_imp, forall_eq, false_imp_iff,
    implies_true, or_true, true_and]

end Truth

/-! ### The reference personalities -/

/-- The personalities of the reference implementation. -/
inductive ReferencePersonality
  | correct
  | buggy
  | optionsUnsupported
  deriving DecidableEq, Repr

/-- `make_engine_config`, its timeout aside. -/
def makeEngineConfig : ReferencePersonality → EngineConfig
  | .correct => { maximumRetransmissions := 8 }
  | .buggy =>
      { maximumRetransmissions := 8
        quirks :=
          { retransmitOnDuplicateAck := true
            omitTerminatingEmptyBlock := true
            acceptOutOfSequenceData := true } }
  | .optionsUnsupported =>
      { maximumRetransmissions := 8
        supportOptionNegotiation := false
        supportBlockSizeOption := false
        supportTimeoutOption := false
        supportTransferSizeOption := false
        supportWindowSizeOption := false }

/-- `config_supports`, the capability query of both reference adapters. -/
def configSupports (config : EngineConfig) (capabilityName : Bytes) : Bool :=
  if capabilityName = readRequest ∨ capabilityName = writeRequest ∨
      capabilityName = netasciiMode then
    capabilityName != netasciiMode || config.supportNetascii
  else if capabilityName = optionNegotiation then config.supportOptionNegotiation
  else if capabilityName = blockSize then config.supportBlockSizeOption
  else if capabilityName = timeoutOption then config.supportTimeoutOption
  else if capabilityName = transferSize then config.supportTransferSizeOption
  else if capabilityName = windowSize then config.supportWindowSizeOption
  else false

/-- A client with the capabilities of a personality, which is never called. -/
def personalityClient (personality : ReferencePersonality) : ClientAdapter where
  implementationName := text "reference"
  supportsCapability := configSupports (makeEngineConfig personality)
  performReadRequest := fun _ _ _ files =>
    { watchdogFired := false, trace := {}, files, join := fun files => ({}, Double.ofInt 0, files) }
  performWriteRequest := fun _ _ _ files =>
    { watchdogFired := false, trace := {}, files, join := fun files => ({}, Double.ofInt 0, files) }

/-- A server with the capabilities of a personality, which is never called. -/
def personalityServer (personality : ReferencePersonality) : ServerAdapter where
  implementationName := text "reference"
  supportsCapability := configSupports (makeEngineConfig personality)
  start := fun _ files => ({}, files)
  stop := fun files => files

/-- Bodies that pass. -/
def passingBodies (context : TestContext) (test : TestCase) (state : Unit) :
    Except Bytes (List MetricRecord) × Unit :=
  (.ok [{ baseRecord test.info context with outcome := .pass }], state)

theorem neverSkips_passingBodies : NeverSkips passingBodies := by
  intro context test state records hrecords record hmem
  obtain rfl := Except.ok.inj hrecords
  rw [List.mem_singleton.1 hmem]
  exact Outcome.noConfusion

/-- The matrix of a suite whose bodies pass, between the adapters of a personality. -/
def personalityMatrix (personality : ReferencePersonality) : List (Bytes × Bool) :=
  (analyze id id (runSuite passingBodies (personalityClient personality)
    (personalityServer personality) {} ()).store).capabilitySupported

/-- **An implementation without options is shown with all of them** but the negotiation. -/
theorem base_only_shown_with_options :
    [blockSize, timeoutOption, transferSize, windowSize].map (fun option =>
        (bothSupport (personalityClient .optionsUnsupported) (personalityServer .optionsUnsupported)
          option, (personalityMatrix .optionsUnsupported).lookup option)) =
      List.replicate 4 (false, some true) := by
  decide +kernel

/-- A client without netascii and without the window size option. -/
def partialClient : ClientAdapter :=
  { personalityClient .correct with
    supportsCapability := configSupports
      { makeEngineConfig .correct with
        supportNetascii := false
        supportWindowSizeOption := false } }

/-- Beside a complete server the matrix shows what this client lacks, and nothing else. -/
theorem capability_matrix_truthful_iff_partial :
    let matrix := (analyze id id (runSuite passingBodies partialClient
      (personalityServer .correct) {} ()).store).capabilitySupported
    matrix.lookup netasciiMode = some false ∧ matrix.lookup windowSize = some false ∧
      ∀ capability ∈ capabilityNames, capability ≠ netasciiMode → capability ≠ windowSize →
        matrix.lookup capability = some true := by
  intro matrix
  have htruth : ∀ capability ∈ capabilityNames, matrix.lookup capability =
      some (bothSupport partialClient (personalityServer .correct) capability) :=
    (capability_matrix_truthful_iff id neverSkips_passingBodies partialClient
      (personalityServer .correct) rfl ()).2 (by decide +kernel)
  have hlacks : bothSupport partialClient (personalityServer .correct) netasciiMode = false ∧
      bothSupport partialClient (personalityServer .correct) windowSize = false := by
    decide +kernel
  have hothers : ∀ capability ∈ capabilityNames, capability ≠ netasciiMode →
      capability ≠ windowSize →
      bothSupport partialClient (personalityServer .correct) capability = true := by
    decide +kernel
  refine ⟨?_, ?_, fun capability hcapability hnetascii hwindow => ?_⟩
  · rw [htruth netasciiMode (by decide +kernel), hlacks.1]
  · rw [htruth windowSize (by decide +kernel), hlacks.2]
  · rw [htruth capability hcapability, hothers capability hcapability hnetascii hwindow]

end TftpHarness
