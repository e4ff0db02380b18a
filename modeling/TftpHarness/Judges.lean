/-
**The judges.**

A test drives one or more transfers and turns each result into a record.  How a result is judged
differs from test to test: `src/runner/test_registry.cpp` has a judge for each kind of behaviour
under test, which reads some of the fields of the result in an order of its own.  Every function
below carries the name of its source function; a test is a dialogue whose queries are transfers.

Main definitions:

* `TftpHarness.TestContext`, `TftpHarness.TestInfo`, `TftpHarness.Driving` — what a test is given,
  and how it drives transfers;
* `TftpHarness.judgeByteExact`, `TftpHarness.finalBlockRule`, `TftpHarness.fileNotFound`,
  `TftpHarness.strayTid`, `TftpHarness.resilienceSweep` and their siblings — the judges.
-/

import TftpHarness.Dialogue
import TftpHarness.Driver
import TftpHarness.Metrics

set_option relaxedAutoImplicit false
set_option autoImplicit false

namespace TftpHarness

/-! ### What a test is given -/

structure TestContext where
  client : Option ClientAdapter := none
  server : Option ServerAdapter := none
  fixtures : Bytes → Option Fixture := fun _ => none
  workRoot : List Bytes := []
  baseSeed : UInt64 := 0
  implementationName : Bytes := []
  watchdog : ℤ := 20000

/-- The metadata of a test. -/
structure TestInfo where
  id : Bytes
  title : Bytes
  rfcClause : Bytes
  severity : Severity := .info
  deriving DecidableEq

/-- What a test does: it drives transfers, one after the other. -/
abbrev Driving := Dialogue DriveRequest DriveResult

/-- One transfer. -/
def drive (request : DriveRequest) : Driving DriveResult := .ask request .done

/-! ### Shared helpers -/

/-- `seed_for`: the identifier and the index, mixed into the base seed. -/
def seedFor (context : TestContext) (id : Bytes) (index : ℕ) : UInt64 :=
  let fnvPrime : UInt64 := 1099511628211
  let hash := id.foldl (fun hash c => (hash ^^^ c.toUInt64) * fnvPrime) 1469598103934665603
  context.baseSeed ^^^ ((hash ^^^ UInt64.ofNat (u32 index)) * fnvPrime)

def baseRecord (test : TestInfo) (context : TestContext) : MetricRecord where
  testId := test.id
  title := test.title
  rfcClause := test.rfcClause
  severity := test.severity
  implementationName := context.implementationName

/-- What was measured, under the names of the counters. -/
def measuredCounters (result : DriveResult) : List (Bytes × Double) :=
  let bytes := Double.ofInt result.integrity.deliveredSize
  [(text "data_packets_sent", Double.ofInt result.observer.dataPacketsSent),
    (text "distinct_data_blocks", Double.ofInt result.observer.distinctDataBlocks),
    (text "retransmissions", Double.ofInt result.observer.retransmittedDataPackets),
    (text "duplicate_acks", Double.ofInt result.observer.duplicateAcknowledgements),
    (text "datagrams_dropped", Double.ofInt result.observer.datagramsDropped),
    (text "datagrams_corrupted", Double.ofInt result.observer.datagramsCorrupted),
    (text "datagrams_injected", Double.ofInt result.observer.datagramsInjected),
    (text "duration_ms", result.durationMs),
    (text "bytes", bytes)] ++
  if (Double.ofInt 0).lt result.durationMs then
    [(text "throughput_bytes_per_second",
      bytes.div (result.durationMs.div (Double.ofInt 1000)))]
  else []

/-- `fill_counters`. -/
def fillCounters (record : MetricRecord) (result : DriveResult) : MetricRecord :=
  { record with
    counters := (measuredCounters result).foldl
      (fun counters counter => counters.insert counter.1 counter.2) record.counters }

/-- `make_request`. -/
def makeRequest (context : TestContext) (test : TestInfo) (fixtureKey : Bytes)
    (direction : TransferDirection) (seedIndex : ℕ) : DriveRequest where
  client := context.client
  server := context.server
  direction := direction
  fixture := context.fixtures fixtureKey
  seed := seedFor context test.id seedIndex
  workRoot := context.workRoot ++ [test.id, toDecimal seedIndex]
  effectiveBlockSize := 512
  watchdog := context.watchdog

def withBlockSize (blockSize : ℕ) : RequestedOptions := { blockSize := some blockSize }

def withWindowSize (windowSize : ℕ) : RequestedOptions := { windowSize := some windowSize }

/-- One transfer with one record: the record of the request, judged. -/
def driveAndJudge (context : TestContext) (test : TestInfo) (request : DriveRequest)
    (judge : MetricRecord → DriveResult → MetricRecord) : Driving (List MetricRecord) := do
  let record := { baseRecord test context with seed := request.seed }
  let result ← drive request
  return [judge record result]

/-! ### Positive transfers -/

/-- `judge_byte_exact`: a transfer expected to complete byte-exact. -/
def judgeByteExact (record : MetricRecord) (result : DriveResult) : MetricRecord :=
  let record := fillCounters record result
  -- a request the implementation cannot express is never a failure
  if result.appResult.unsupportedConfiguration then
    { record with
      outcome := .skipped
      narrative := text "unsupported by this implementation: " ++
        if result.appResult.reportedErrorMessage = [] then
          text "the requested transfer cannot be configured"
        else result.appResult.reportedErrorMessage }
  else if result.setupFailed then
    { record with
      outcome := .fail
      ungracefulFailure := true
      narrative := text "harness setup failed: " ++ result.setupError }
  else if result.watchdogFired then
    { record with
      outcome := .fail
      ungracefulFailure := true
      narrative := text "transfer hung past the watchdog (no clean termination)" }
  else if result.appResult.completedSuccessfully ∧ result.integrity.verdict = .mismatch then
    { record with
      outcome := .fail
      integrityViolation := true
      severity := .critical
      narrative := text "reported SUCCESS but " ++ result.integrity.detail }
  else if ¬ result.appResult.completedSuccessfully then
    { record with
      outcome := .fail
      narrative := text "transfer did not complete: " ++
        if result.appResult.reportedErrorMessage = [] then text "no error surfaced"
        else result.appResult.reportedErrorMessage }
  else if ¬ result.integrity.matches then
    { record with
      outcome := .fail
      integrityViolation := true
      narrative := result.integrity.detail }
  else
    { record with
      outcome := .pass
      narrative := text "byte-exact transfer completed. " ++ result.observer.narrative }

/-- `basic_download`. -/
def basicDownload (context : TestContext) (test : TestInfo) (fixtureKey : Bytes)
    (options : RequestedOptions) (blockSize : ℕ) (mode : TransferMode) :
    Driving (List MetricRecord) :=
  driveAndJudge context test
    { makeRequest context test fixtureKey .download 0 with
      options
      mode
      effectiveBlockSize := blockSize } judgeByteExact

/-- `basic_upload`. -/
def basicUpload (context : TestContext) (test : TestInfo) (fixtureKey : Bytes)
    (options : RequestedOptions) (mode : TransferMode) : Driving (List MetricRecord) :=
  driveAndJudge context test
    { makeRequest context test fixtureKey .upload 0 with
      options
      mode } judgeByteExact

/-- The judge of `final_block_rule`. -/
def judgeFinalBlock (record : MetricRecord) (result : DriveResult) : MetricRecord :=
  let record := fillCounters record result
  if result.watchdogFired ∨ result.setupFailed then
    { record with
      outcome := .fail
      ungracefulFailure := true
      narrative := if result.setupFailed then text "setup failed: " ++ result.setupError
        else text "transfer hung past the watchdog" }
  else if ¬ result.observer.terminatingShortBlockPresent then
    { record with
      outcome := .fail
      severity := .critical
      narrative := text "no terminating DATA block shorter than the block size was sent; " ++
        text "the final-block rule (RFC 1350 section 2) is violated. " ++
        result.observer.narrative }
  else if result.appResult.completedSuccessfully ∧ ¬ result.integrity.matches then
    { record with
      outcome := .fail
      integrityViolation := true
      narrative := text "reported success but " ++ result.integrity.detail }
  else if ¬ result.appResult.completedSuccessfully then
    { record with
      outcome := .fail
      narrative := text "transfer did not complete" }
  else
    { record with
      outcome := .pass
      narrative := text "terminating short/empty DATA present; byte-exact. " ++
        result.observer.narrative }

/-- `final_block_rule`. -/
def finalBlockRule (context : TestContext) (test : TestInfo) (fixtureKey : Bytes) :
    Driving (List MetricRecord) :=
  driveAndJudge context test (makeRequest context test fixtureKey .download 0) judgeFinalBlock

/-! ### Errors the server should return -/

/-- The judge of `file_not_found`. -/
def judgeFileNotFound (record : MetricRecord) (result : DriveResult) : MetricRecord :=
  let record := fillCounters record result
  let gotError1 := result.appResult.reportedErrorCode = some TftpErrorCode.fileNotFound.code
  if result.watchdogFired then
    { record with
      outcome := .fail
      ungracefulFailure := true
      narrative := text "server hung instead of returning ERROR 1" }
  else if gotError1 then
    { record with
      outcome := .pass
      narrative := text "server returned ERROR code 1 (file not found)" }
  else if ¬ result.appResult.completedSuccessfully then
    { record with
      outcome := .pass
      severity := .minor
      narrative := text "missing file rejected cleanly (error code was not 1)" }
  else
    { record with
      outcome := .fail
      narrative := text "server did not reject a request for a missing file" }

/-- `file_not_found`. -/
def fileNotFound (context : TestContext) (test : TestInfo) : Driving (List MetricRecord) :=
  driveAndJudge context test
    { makeRequest context test (text "empty") .download 0 with
      remoteFilename := text "definitely-not-present-9137.bin"
      stageServedFixture := false } judgeFileNotFound

/-- The judge of `file_exists`. -/
def judgeFileExists (record : MetricRecord) (result : DriveResult) : MetricRecord :=
  let record := fillCounters record result
  let gotError6 := result.appResult.reportedErrorCode = some TftpErrorCode.fileAlreadyExists.code
  if result.watchdogFired then
    { record with
      outcome := .fail
      ungracefulFailure := true
      narrative := text "hung instead of returning ERROR 6" }
  else if gotError6 then
    { record with
      outcome := .pass
      narrative := text "server returned ERROR code 6 (file already exists)" }
  else if ¬ result.appResult.completedSuccessfully then
    { record with
      outcome := .pass
      severity := .minor
      narrative := text "overwrite refused (error code was not 6)" }
  else
    { record with
      outcome := .pass
      severity := .minor
      narrative := text "server allows overwriting an existing file (a MAY-level policy)" }

/-- `file_exists`. -/
def fileExists (context : TestContext) (test : TestInfo) : Driving (List MetricRecord) :=
  driveAndJudge context test
    { makeRequest context test (text "one") .upload 0 with
      plantExistingDestination := true
      remoteFilename := text "already-there.bin" } judgeFileExists

/-- The judge of `access_violation`. -/
def judgeAccessViolation (record : MetricRecord) (result : DriveResult) : MetricRecord :=
  let record := fillCounters record result
  if result.watchdogFired then
    { record with
      outcome := .fail
      ungracefulFailure := true
      narrative := text "hung on a path-traversal request" }
  else if ¬ result.appResult.completedSuccessfully then
    { record with
      outcome := .pass
      narrative := text "path-traversal request refused (error code " ++
        (match result.appResult.reportedErrorCode with
          | some code => toDecimal code
          | none => text "none") ++ text ")" }
  else
    { record with
      outcome := .fail
      severity := .critical
      narrative := text "served a file outside the served directory" }

/-- `access_violation`. -/
def accessViolation (context : TestContext) (test : TestInfo) : Driving (List MetricRecord) :=
  driveAndJudge context test
    { makeRequest context test (text "empty") .download 0 with
      remoteFilename := text "../../etc/hosts"
      stageServedFixture := false } judgeAccessViolation

/-! ### Injected packets -/

def makeInjection (bytes : Bytes) (towardClient stray : Bool) (description : Bytes) :
    InjectedPacket where
  bytes := bytes
  towardClient := towardClient
  fromStrayTid := stray
  description := description

/-- A DATA packet of a peer. -/
def isPeerData (observed : TraceRecord) : Bool :=
  observed.isData && observed.disposition != .injected

/-- The scripts that fire once: the packet is injected at the first DATA packet of a peer, when none
of the calls before had one. -/
def injectOnce (packet : InjectedPacket) (calls : List TraceRecord) : List InjectedPacket :=
  match calls.getLast? with
  | none => []
  | some observed =>
      if !calls.dropLast.any isPeerData && isPeerData observed then [packet] else []

/-- The judge of `illegal_opcode`. -/
def judgeIllegalOpcode (record : MetricRecord) (result : DriveResult) : MetricRecord :=
  let record := fillCounters record result
  if result.watchdogFired then
    { record with
      outcome := .fail
      ungracefulFailure := true
      narrative := text "crashed/hung on an illegal opcode" }
  else if result.appResult.completedSuccessfully ∧ result.integrity.matches then
    { record with
      outcome := .pass
      narrative := text "illegal opcode tolerated; transfer completed byte-exact" }
  else
    { record with
      outcome := .fail
      narrative := text "an injected illegal opcode disrupted the transfer" }

/-- `illegal_opcode`. -/
def illegalOpcode (context : TestContext) (test : TestInfo) : Driving (List MetricRecord) :=
  driveAndJudge context test
    { makeRequest context test (text "kib_8") .download 0 with
      injection := some (injectOnce
        (makeInjection [0x00, 0x09, 0x00, 0x01] true true (text "illegal opcode 9 injected"))) }
    judgeIllegalOpcode

/-- The judge of `malformed_packet`. -/
def judgeMalformedPacket (what : Bytes) (record : MetricRecord) (result : DriveResult) :
    MetricRecord :=
  let record := fillCounters record result
  if result.watchdogFired then
    { record with
      outcome := .fail
      ungracefulFailure := true
      narrative := text "crashed/hung on " ++ what }
  else if result.appResult.completedSuccessfully ∧ result.integrity.matches then
    { record with
      outcome := .pass
      narrative := what ++ text " tolerated; transfer completed byte-exact" }
  else
    { record with
      outcome := .fail
      narrative := what ++ text " disrupted the transfer" }

/-- `malformed_packet`. -/
def malformedPacket (context : TestContext) (test : TestInfo) (bytes what : Bytes) :
    Driving (List MetricRecord) :=
  driveAndJudge context test
    { makeRequest context test (text "kib_8") .download 0 with
      injection := some (injectOnce (makeInjection bytes true true what)) }
    (judgeMalformedPacket what)

/-- The judge of `fresh_tid`, which looks at the observer's report alone. -/
def judgeFreshTid (record : MetricRecord) (result : DriveResult) : MetricRecord :=
  let record := fillCounters record result
  if result.observer.serverSelectedFreshTid then
    { record with
      outcome := .pass
      narrative := text "server replied from a fresh TID distinct from the request port. " ++
        result.observer.narrative }
  else
    { record with
      outcome := .fail
      narrative := text "server did not select a fresh TID for the transfer" }

/-- `fresh_tid`. -/
def freshTid (context : TestContext) (test : TestInfo) : Driving (List MetricRecord) :=
  driveAndJudge context test (makeRequest context test (text "odd_medium") .download 0)
    judgeFreshTid

/-- The judge of `stray_tid`. -/
def judgeStrayTid (what : Bytes) (record : MetricRecord) (result : DriveResult) : MetricRecord :=
  let record := fillCounters record result
  let ok := result.appResult.completedSuccessfully && result.integrity.matches
  if result.watchdogFired then
    { record with
      outcome := .fail
      ungracefulFailure := true
      narrative := text "aborted/hung after " ++ what }
  else if ok then
    { record with
      outcome := .pass
      narrative := what ++ text " ignored; transfer completed byte-exact" ++
        if result.observer.strayTidReplyWasError5 then text " (stray TID rebuffed with ERROR 5)"
        else [] }
  else
    { record with
      outcome := .fail
      severity := .critical
      narrative := what ++ text " derailed the legitimate transfer" }

/-- `stray_tid`. -/
def strayTid (context : TestContext) (test : TestInfo) (injectedBytes : Bytes) (towardClient : Bool)
    (what : Bytes) : Driving (List MetricRecord) :=
  driveAndJudge context test
    { makeRequest context test (text "kib_8") .download 0 with
      injection := some (injectOnce (makeInjection injectedBytes towardClient true what)) }
    (judgeStrayTid what)

/-- The script of `sorcerers_apprentice`: every DATA packet of the server is answered with a
duplicate of its ACK. -/
def duplicateAcks (calls : List TraceRecord) : List InjectedPacket :=
  match calls.getLast? with
  | none => []
  | some observed =>
      match observed.packetOf .data with
      | none => []
      | some packet =>
          if observed.direction = .serverToClient ∧ observed.disposition ≠ .injected then
            [makeInjection (serializeAcknowledgement packet.blockNumber) false false
              (text "duplicate ACK (Sorcerer's Apprentice probe)")]
          else []

/-- The judge of `sorcerers_apprentice`. -/
def judgeSorcerersApprentice (record : MetricRecord) (result : DriveResult) : MetricRecord :=
  let record := fillCounters record result
  if result.watchdogFired then
    { record with
      outcome := .fail
      ungracefulFailure := true
      narrative := text "hung under duplicate-ACK injection" }
  else if result.observer.retransmittedDataPackets = 0 then
    { record with
      outcome := .pass
      narrative := text "no retransmission from duplicate ACKs; no amplification " ++
        text "(RFC 1123 section 4.2). " ++ result.observer.narrative }
  else
    { record with
      outcome := .fail
      severity := .critical
      narrative := text "sender retransmitted DATA in response to duplicate ACKs — " ++
        text "Sorcerer's Apprentice amplification (" ++
        toDecimal result.observer.retransmittedDataPackets ++
        text " needless retransmissions). " ++ result.observer.narrative }

/-- `sorcerers_apprentice`. -/
def sorcerersApprentice (context : TestContext) (test : TestInfo) : Driving (List MetricRecord) :=
  driveAndJudge context test
    { makeRequest context test (text "kib_8") .download 0 with
      injection := some duplicateAcks } judgeSorcerersApprentice

/-! ### Impairments -/

/-- The judge of a transfer under total blackout, which only has to end. -/
def judgeBlackout (hung ended : Bytes) (record : MetricRecord) (result : DriveResult) :
    MetricRecord :=
  let record := fillCounters record result
  if result.watchdogFired then
    { record with
      outcome := .fail
      ungracefulFailure := true
      narrative := hung }
  else
    { record with
      outcome := .pass
      narrative := ended }

/-- A transfer under total blackout after some DATA packets. -/
def blackoutTest (context : TestContext) (test : TestInfo) (afterDataPackets : ℕ)
    (hung ended : Bytes) : Driving (List MetricRecord) :=
  driveAndJudge context test
    { makeRequest context test (text "kib_8") .download 0 with
      impairment :=
        { blackoutEnabled := true
          blackoutAfterDataPackets := afterDataPackets }
      watchdog := max context.watchdog 20000 } (judgeBlackout hung ended)

/-- An intensity and the impairment at it. -/
abbrev SweepPoint := Double × ImpairmentConfig

/-- What the two sweeps do alike: one transfer and one record for each point, the points counted
from an index on. -/
def sweep (context : TestContext) (test : TestInfo) (fixtureKey : Bytes)
    (options : RequestedOptions) (watchdog : ℤ)
    (judge : MetricRecord → DriveResult → MetricRecord) :
    ℕ → List SweepPoint → Driving (List MetricRecord)
  | _, [] => pure []
  | index, point :: points => do
      let request :=
        { makeRequest context test fixtureKey .download index with
          impairment := point.2
          options
          watchdog := max context.watchdog watchdog }
      let label := test.id ++ text "=" ++ point.1.format 4
      let record :=
        { baseRecord test context with
          seed := request.seed
          intensity := some point.1
          intensityLabel := label.take 63 }
      let result ← drive request
      let out ← sweep context test fixtureKey options watchdog judge (index + 1) points
      return judge record result :: out

/-- The judge of a sweep: narratives for a corruption that was accepted, a hang, a byte-exact
transfer and a clean failure. -/
def judgeSweep (corrupted hung exact clean : Bytes) (record : MetricRecord) (result : DriveResult) :
    MetricRecord :=
  let record := fillCounters record result
  let byteExact := result.appResult.completedSuccessfully && result.integrity.matches
  let success := Double.ofInt (if byteExact then 1 else 0)
  let record := { record with counters := record.counters.insert (text "success") success }
  if result.appResult.completedSuccessfully ∧ result.integrity.verdict = .mismatch then
    { record with
      outcome := .fail
      integrityViolation := true
      severity := .critical
      narrative := corrupted ++ result.integrity.detail }
  else if result.watchdogFired then
    { record with
      outcome := .fail
      ungracefulFailure := true
      narrative := hung }
  else if byteExact then
    { record with
      outcome := .pass
      narrative := exact ++ result.observer.narrative }
  else
    -- a clean non-completion is graceful; the `success` counter records the drop
    { record with
      outcome := .pass
      narrative := clean ++ result.observer.narrative }

/-- `resilience_sweep`. -/
def resilienceSweep (context : TestContext) (test : TestInfo) (fixtureKey : Bytes)
    (points : List SweepPoint) (options : RequestedOptions) : Driving (List MetricRecord) :=
  sweep context test fixtureKey options 45000
    (judgeSweep
      (text "reported SUCCESS but delivered corrupted bytes under impairment — ")
      (text "hung under impairment (no clean termination)")
      (text "completed byte-exact under impairment. ")
      (text "did not complete at this intensity, but failed cleanly (no corruption, no hang). "))
    0 points

/-- `integrity_under_corruption`. -/
def integrityUnderCorruption (context : TestContext) (test : TestInfo) (fixtureKey : Bytes)
    (points : List SweepPoint) : Driving (List MetricRecord) :=
  sweep context test fixtureKey {} 25000
    (judgeSweep
      (text "SILENTLY accepted corrupted data as valid — ")
      (text "hung under corruption (no clean termination)")
      (text "dropped corrupted datagrams and completed byte-exact. ")
      (text "detected corruption and refused to deliver invalid data (failed cleanly, no silent " ++
        text "corruption). "))
    0 points

def lossConfig (probability : Double) : ImpairmentConfig :=
  { uniformLossProbability := probability }

def dupConfig (probability : Double) : ImpairmentConfig :=
  { duplicationProbability := probability }

def reorderConfig (probability : Double) (extraDelayMs : ℤ) : ImpairmentConfig :=
  { reorderProbability := probability
    reorderExtraDelay := extraDelayMs }

def delayConfig (fixedMs jitterMs : ℤ) : ImpairmentConfig :=
  { fixedDelay := fixedMs
    jitter := jitterMs }

def corruptionConfig (probability : Double) (target : CorruptionTarget) : ImpairmentConfig :=
  { corruptionProbability := probability
    corruptionTarget := target }

end TftpHarness
