/-
**The test registry.**

The suite in the order of the source: every test with its clause, its severity, the capabilities
both adapters must have, and what it runs.

Main definitions:

* `TftpHarness.TestCase`, `TftpHarness.buildTestRegistry` — **the registry**.
-/

import TftpHarness.Judges

set_option relaxedAutoImplicit false
set_option autoImplicit false

namespace TftpHarness

/-- A test: its metadata, the capabilities it requires, and its body. -/
structure TestCase where
  info : TestInfo
  requiredCapabilities : List Bytes
  run : TestContext → TestInfo → Driving (List MetricRecord)

/-- What a test does in a context. -/
def TestCase.body (test : TestCase) (context : TestContext) : Driving (List MetricRecord) :=
  test.run context test.info

/-- The `add` of the registry. -/
def testCase (id title rfcClause : String) (severity : Severity) (requiredCapabilities : List Bytes)
    (run : TestContext → TestInfo → Driving (List MetricRecord)) : TestCase where
  info := ⟨text id, text title, text rfcClause, severity⟩
  requiredCapabilities := requiredCapabilities
  run := run

/-! ### Required capabilities -/

def rrq : List Bytes := [Capability.readRequest]

def wrq : List Bytes := [Capability.writeRequest]

/-- A test of one option, with a read request. -/
def rrqWithOption (option : Bytes) : List Bytes :=
  [Capability.readRequest, Capability.optionNegotiation, option]

/-! ### A. RFC 1350 base protocol -/

/-- A percentage as the `double` nearest to it. -/
def percent (n : ℕ) : Double := Double.ofRat (n / 100)

/-- `basic_download` with its default arguments. -/
def plainDownload (fixtureKey : String) (context : TestContext) (test : TestInfo) :
    Driving (List MetricRecord) :=
  basicDownload context test (text fixtureKey) {} 512 .octet

/-- Two fixtures, one after the other. -/
def aroundBlockSize (context : TestContext) (test : TestInfo) : Driving (List MetricRecord) := do
  let a ← plainDownload "just_under_block" context test
  let b ← plainDownload "just_over_block" context test
  return a ++ b

/-- A loss of ten percent. -/
def tenPercentLoss : List SweepPoint := [(percent 10, lossConfig (percent 10))]

/-- The test of a fresh TID. -/
def freshTidTest : TestCase :=
  testCase "A-20" "Server selects a fresh TID" "RFC 1350 section 4" .major rrq freshTid

/-- The test of a missing file. -/
def fileNotFoundTest : TestCase :=
  testCase "A-11" "Error 1: file not found on RRQ" "RFC 1350 section 5" .major rrq fileNotFound

def baseProtocolTests : List TestCase :=
  [testCase "A-01" "RRQ octet transfer, small file" "RFC 1350 sections 1, 5" .critical rrq
      (plainDownload "one"),
    testCase "A-02" "WRQ octet transfer, small file" "RFC 1350 sections 1, 5" .critical wrq
      fun c t => basicUpload c t (text "one") {} .octet,
    testCase "A-03" "Zero-byte file" "RFC 1350 section 2" .major rrq (plainDownload "empty"),
    testCase "A-04" "File length exactly 512 bytes" "RFC 1350 section 2" .critical rrq
      fun c t => finalBlockRule c t (text "exact_block"),
    testCase "A-05" "File length exact multiple of block size" "RFC 1350 section 2" .critical rrq
      fun c t => finalBlockRule c t (text "two_blocks_exact"),
    testCase "A-06" "File length 511 / 513 bytes" "RFC 1350 section 2" .major rrq aroundBlockSize,
    testCase "A-07" "Large multi-block file" "RFC 1350 section 2" .critical rrq
      (plainDownload "kib_64"),
    testCase "A-08" "netascii CR LF line endings" "RFC 1350 section 1, App." .major
      [Capability.readRequest, Capability.netasciiMode]
      fun c t => basicDownload c t (text "netascii_mixed") {} 512 .netascii,
    testCase "A-09" "netascii bare CR must be CR NUL" "RFC 1350 App. (netascii)" .major
      [Capability.writeRequest, Capability.netasciiMode]
      fun c t => basicUpload c t (text "netascii_mixed") {} .netascii,
    testCase "A-10" "Lock-step ACK discipline" "RFC 1350 section 2" .major rrq
      (plainDownload "odd_medium"),
    fileNotFoundTest,
    testCase "A-12" "Error 6: file already exists on WRQ" "RFC 1350 section 5" .major wrq
      fileExists,
    testCase "A-13" "Error 2: access violation" "RFC 1350 section 5" .minor rrq accessViolation,
    testCase "A-14" "Illegal opcode received" "RFC 1350 section 5" .major rrq illegalOpcode,
    testCase "A-15" "Malformed RRQ/WRQ (missing NUL terminator)" "RFC 1350 section 5" .major rrq
      fun c t => malformedPacket c t ([0x00, 0x02] ++ text "xyz")
        (text "unterminated request string")]

def tidTests : List TestCase :=
  [freshTidTest,
    testCase "A-21" "Packet from an unexpected TID" "RFC 1350 section 4" .critical rrq
      fun c t => strayTid c t (serializeAcknowledgement 1) true (text "stray-TID ACK"),
    testCase "A-22" "Injected spoofed ERROR from wrong TID" "RFC 1350 section 4" .critical rrq
      fun c t => strayTid c t (serializeError TftpErrorCode.notDefined (text "spoofed")) true
        (text "spoofed ERROR from stray TID")]

def retransmissionTests : List TestCase :=
  [testCase "A-30" "DATA lost, sender times out and retransmits" "RFC 1350 section 2" .major rrq
      fun c t => resilienceSweep c t (text "kib_8") tenPercentLoss {},
    testCase "A-31" "ACK lost, receiver discards duplicate DATA and re-ACKs" "RFC 1350 section 2"
      .major rrq fun c t => resilienceSweep c t (text "kib_8") tenPercentLoss {},
    testCase "A-32" "Duplicate ACK (Sorcerer's Apprentice)" "RFC 1123 section 4.2" .critical rrq
      sorcerersApprentice,
    testCase "A-33" "Retransmit only on timeout, never on duplicate" "RFC 1123 section 4.2"
      .critical
      rrq sorcerersApprentice,
    testCase "A-34" "Retry cap / give-up behavior" "RFC 1350 section 2" .major rrq
      fun c t => blackoutTest c t 3
        (text "did not terminate after total blackout (infinite loop)")
        (text "bounded termination after blackout (gave up cleanly)"),
    testCase "A-41" "Block-number desync injection (corrupted block number)" "RFC 1350 section 2"
      .critical rrq fun c t => integrityUnderCorruption c t (text "odd_medium")
        [(percent 5, corruptionConfig (percent 5) .blockNumber)]]

/-! ### B, C, D, E. Options -/

/-- A download with a block size, observed with the same. -/
def blockSizeDownload (fixtureKey : String) (blockSize : ℕ) (context : TestContext)
    (test : TestInfo) : Driving (List MetricRecord) :=
  basicDownload context test (text fixtureKey) (withBlockSize blockSize) blockSize .octet

/-- A download with a window size. -/
def windowDownload (windowSize : ℕ) (context : TestContext) (test : TestInfo) :
    Driving (List MetricRecord) :=
  basicDownload context test (text "kib_8") (withWindowSize windowSize) 512 .octet

/-- The records of several window sizes. -/
def windowDownloads (context : TestContext) (test : TestInfo) :
    List ℕ → Driving (List MetricRecord)
  | [] => pure []
  | w :: ws => do
      let records ← windowDownload w context test
      let out ← windowDownloads context test ws
      return records ++ out

def blockSizeTest (id title rfcClause : String) (severity : Severity) (fixtureKey : String)
    (blockSize : ℕ) : TestCase :=
  testCase id title rfcClause severity (rrqWithOption Capability.blockSize)
    (blockSizeDownload fixtureKey blockSize)

def optionTests : List TestCase :=
  [blockSizeTest "B-01" "Client requests an option; server supports it" "RFC 2347 section 2" .major
      "kib_8" 1024,
    blockSizeTest "B-04" "Option names are case-insensitive" "RFC 2347 section 2" .minor
      "odd_medium" 700,
    blockSizeTest "C-01" "blksize = 512 (default)" "RFC 2348" .minor "kib_8" 512,
    blockSizeTest "C-02" "blksize = 8 (minimum)" "RFC 2348" .major "just_over_block" 8,
    blockSizeTest "C-03" "blksize = 1428 (Ethernet-friendly)" "RFC 2348" .major "kib_8" 1428,
    blockSizeTest "C-04" "blksize = 65464 (maximum)" "RFC 2348" .major "kib_8" 65464,
    blockSizeTest "C-07" "blksize exceeds path MTU" "RFC 2348; UDP/IP fragmentation" .major
      "kib_8" 9000,
    testCase "D-01" "timeout option negotiated" "RFC 2349 section 2" .major
      (rrqWithOption Capability.timeoutOption)
      fun c t => basicDownload c t (text "odd_medium") { timeoutSeconds := some 2 } 512 .octet,
    testCase "D-03" "tsize = 0 on RRQ returns file size" "RFC 2349 section 3" .major
      (rrqWithOption Capability.transferSize)
      fun c t => basicDownload c t (text "kib_8") { transferSize := some 0 } 512 .octet]

/-- A test of windows under an impairment. -/
def windowSweepTest (id title rfcClause : String) (windowSize : ℕ) (points : List SweepPoint) :
    TestCase :=
  testCase id title rfcClause .critical (rrqWithOption Capability.windowSize)
    fun c t => resilienceSweep c t (text "kib_8") points (withWindowSize windowSize)

def windowTests : List TestCase :=
  [testCase "E-01" "windowsize = 1 (lock-step)" "RFC 7440 section 2" .major
      (rrqWithOption Capability.windowSize) (windowDownload 1),
    testCase "E-02" "windowsize = 4/16/64" "RFC 7440 section 2" .major
      (rrqWithOption Capability.windowSize) fun c t => windowDownloads c t [4, 16, 64],
    windowSweepTest "E-03" "Single block lost within a window (rollback)" "RFC 7440 section 4" 8
      tenPercentLoss,
    windowSweepTest "E-04" "Reordering within a window" "RFC 7440 section 4" 8
      [(percent 20, reorderConfig (percent 20) 40)],
    windowSweepTest "E-05" "Duplicate ACK within windowed transfer"
      "RFC 7440 section 4; RFC 1123 section 4.2" 8 [(percent 25, dupConfig (percent 25))],
    windowSweepTest "E-07" "Sustained loss forcing repeated rollback" "RFC 7440 section 4" 16
      [(percent 30, lossConfig (percent 30))]]

/-! ### F. Adversarial network conditions -/

/-- A sweep over the default transfer. -/
def sweepTest (id title rfcClause : String) (severity : Severity) (fixtureKey : String)
    (points : List SweepPoint) : TestCase :=
  testCase id title rfcClause severity rrq
    fun c t => resilienceSweep c t (text fixtureKey) points {}

/-- Loss in bursts, entered with a probability. -/
def burstConfig (goodToBad : Double) : ImpairmentConfig :=
  { gilbertElliottEnabled := true
    goodToBadProbability := goodToBad
    badToGoodProbability := percent 40
    lossInBadState := Double.ofInt 1 }

def throttleConfig (bytesPerSecond : Double) : ImpairmentConfig :=
  { throttleEnabled := true
    throttleBytesPerSecond := bytesPerSecond }

def adversarialTests : List TestCase :=
  [sweepTest "F-01" "Uniform packet loss" "RFC 1350 section 2 (retransmission)" .critical "kib_8"
      ([1, 5, 10, 25, 50, 75, 90].map fun p => (percent p, lossConfig (percent p))),
    sweepTest "F-02" "Bursty (Gilbert-Elliott) loss" "correlated loss" .major "kib_8"
      ([5, 15, 30].map fun p => (percent p, burstConfig (percent p))),
    sweepTest "F-03" "Packet duplication" "RFC 1123 section 4.2 (SAS resistance)" .critical "kib_8"
      ([5, 25, 50].map fun p => (percent p, dupConfig (percent p))),
    sweepTest "F-04" "Reordering" "sequence handling" .critical "kib_8"
      [(percent 10, reorderConfig (percent 10) 30), (percent 30, reorderConfig (percent 30) 80)],
    sweepTest "F-05" "Fixed delay + jitter" "timeout tuning" .major "kib_8"
      [(Double.ofInt 50, delayConfig 50 50), (Double.ofInt 200, delayConfig 200 100)],
    testCase "F-06" "Corruption passing UDP checksum" "application-level validation" .critical rrq
      fun c t => integrityUnderCorruption c t (text "odd_medium")
        ([5, 15, 30].map fun p => (percent p, corruptionConfig (percent p) .opcodeField)),
    sweepTest "F-07" "Bandwidth saturation / throttle" "progress under starvation" .major
      "odd_medium"
      ([50000, 10000, 2000].map fun bps => (Double.ofInt bps, throttleConfig (Double.ofInt bps))),
    sweepTest "F-08" "Combined loss + reorder + delay" "compound-failure resilience" .critical
      "kib_8"
      [(Double.ofInt 1,
        { uniformLossProbability := percent 10
          reorderProbability := percent 10
          reorderExtraDelay := 40
          fixedDelay := 20
          jitter := 20 })],
    testCase "F-09" "Total blackout after N blocks" "bounded termination" .major rrq
      fun c t => blackoutTest c t 5 (text "infinite loop after blackout")
        (text "terminated cleanly after blackout")]

/-! ### G. Malformed input, H. Resource edges -/

def robustnessTests : List TestCase :=
  [testCase "G-01" "Truncated packet (< 4 bytes)" "robustness" .major rrq
      fun c t => malformedPacket c t [0x00, 0x03] (text "truncated 2-byte datagram"),
    testCase "G-03" "Invalid opcode (0, 9, 65535)" "robustness" .major rrq illegalOpcode,
    testCase "G-04" "Invalid/undefined error code in ERROR packet" "robustness" .minor rrq
      fun c t => malformedPacket c t ([0x00, 0x05, 0x00, 0x63] ++ text "x" ++ [0x00])
        (text "undefined error code 99"),
    testCase "G-06" "Second server responding (TID confusion)" "RFC 1350 section 4" .critical rrq
      fun c t => strayTid c t (serializeData 2 [0xDE, 0xAD]) true
        (text "spoofed DATA from a second server"),
    testCase "G-08" "ACK for a future/never-sent block" "robustness" .critical rrq
      fun c t => strayTid c t (serializeAcknowledgement 60000) false
        (text "ACK for a never-sent block")]

/-- The records of some downloads of the same file. -/
def repeatedDownloads (context : TestContext) (test : TestInfo) :
    ℕ → Driving (List MetricRecord)
  | 0 => pure []
  | n + 1 => do
      let records ← plainDownload "one" context test
      let out ← repeatedDownloads context test n
      return records ++ out

/-- Five downloads, collapsed to a single record. -/
def rapidChurn (context : TestContext) (test : TestInfo) : Driving (List MetricRecord) := do
  let out ← repeatedDownloads context test 5
  let allOk := out.all fun r => r.outcome = .pass
  return [{ baseRecord test context with
    seed := (out.head?.map MetricRecord.seed).getD 0
    outcome := if allOk then .pass else .fail
    narrative := if allOk then text "5 rapid start/stop transfers all clean"
      else text "a transfer failed under rapid churn" }]

def resourceTests : List TestCase :=
  [testCase "H-03" "Rapid start/stop churn" "resource edges" .minor rrq rapidChurn]

/-- **`build_test_registry`.** -/
def buildTestRegistry : List TestCase :=
  baseProtocolTests ++ tidTests ++ retransmissionTests ++ optionTests ++ windowTests ++
    adversarialTests ++ robustnessTests ++ resourceTests

end TftpHarness
