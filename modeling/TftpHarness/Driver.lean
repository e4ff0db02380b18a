/-
**The transfer driver.**

`drive_transfer` is the plumbing of every test: it stages the files, brings up the server, puts the
proxy in front of it, lets the client run until it returns or the watchdog fires, takes everything
down and measures.  The adapters are code of whoever evaluates an implementation, and may be any
functions of what they are given.  What happens between the start of the client and its return, on
the proxy and in the files, is the outcome of one call; it may depend on everything there is.

A working directory is given by the names that lead to it.

Main definitions:

* `TftpHarness.ClientAdapter`, `TftpHarness.ServerAdapter`, `TftpHarness.Surroundings` — what the
  driver drives, and what it asks of the system;
* `TftpHarness.DriveRequest`, `TftpHarness.DriveResult` — a transfer and what is known of it;
* `TftpHarness.stageFiles`, `TftpHarness.driveTransfer` — **the driver**.

Main results:

* `TftpHarness.stageFiles_ok`, `TftpHarness.stageFiles_error` — **what the driver stages, and when
  it cannot**.
-/

import TftpHarness.Oracle
import TftpHarness.Proxy

set_option relaxedAutoImplicit false
set_option autoImplicit false

namespace TftpHarness

/-! ### The adapter interface -/

/-- The address the implementation under test must talk to. -/
structure EndpointConfiguration where
  proxyHost : Bytes := []
  proxyPort : ℕ := 0
  deriving DecidableEq, Repr

inductive TransferMode
  | octet
  | netascii
  deriving DecidableEq, Repr

/-- Options an integrator may request for a transfer; `none` is not requested. -/
structure RequestedOptions where
  blockSize : Option ℕ := none
  timeoutSeconds : Option ℕ := none
  transferSize : Option ℕ := none
  windowSize : Option ℕ := none
  deriving DecidableEq, Repr

/-- What the implementation itself believes happened. -/
structure TransferResult where
  completedSuccessfully : Bool := false
  reportedErrorCode : Option ℕ := none
  reportedErrorMessage : Bytes := []
  processExitCode : Option ℤ := none
  wallClockDuration : ℤ := 0
  optionsConfirmedInUse : RequestedOptions := {}
  unsupportedConfiguration : Bool := false
  deriving DecidableEq, Repr

structure ReadRequestSpecification where
  remoteFilename : Bytes
  localDestinationPath : Path
  mode : TransferMode := .octet
  requestedOptions : RequestedOptions := {}
  deriving DecidableEq, Repr

structure WriteRequestSpecification where
  localSourcePath : Path
  remoteFilename : Bytes
  mode : TransferMode := .octet
  requestedOptions : RequestedOptions := {}
  deriving DecidableEq, Repr

namespace Capability

def optionNegotiation : Bytes := text "rfc2347_option_negotiation"

def blockSize : Bytes := text "rfc2348_blksize"

def timeoutOption : Bytes := text "rfc2349_timeout"

def transferSize : Bytes := text "rfc2349_tsize"

def windowSize : Bytes := text "rfc7440_windowsize"

def netasciiMode : Bytes := text "rfc1350_netascii"

def writeRequest : Bytes := text "rfc1350_wrq"

def readRequest : Bytes := text "rfc1350_rrq"

end Capability

/-- What one call of the client brings about: whether the watchdog fired before it returned, the
trace and the files when the proxy is stopped, and what is left to happen once the server has
stopped, until the client returns. -/
structure Exchange where
  watchdogFired : Bool
  trace : PacketTrace
  files : FileSystem
  join : FileSystem → TransferResult × Double × FileSystem

/-- The client under test.  A call takes the proxy it runs against and the files as they are. -/
structure ClientAdapter where
  implementationName : Bytes
  supportsCapability : Bytes → Bool
  performReadRequest : EndpointConfiguration → ReadRequestSpecification → ProxyConfig → FileSystem →
    Exchange
  performWriteRequest : EndpointConfiguration → WriteRequestSpecification → ProxyConfig →
    FileSystem → Exchange

/-- The server under test. -/
structure ServerAdapter where
  implementationName : Bytes
  supportsCapability : Bytes → Bool
  start : List Bytes → FileSystem → EndpointConfiguration × FileSystem
  stop : FileSystem → FileSystem

/-- What the driver asks of the system: `Endpoint::from_host_and_port`, and starting a proxy, which
listens at an endpoint or fails to bind. -/
structure Surroundings where
  fromHostAndPort : Bytes → ℕ → Option Endpoint
  startProxy : ProxyConfig → Option EndpointConfiguration

/-! ### Requests and results -/

/-- A fixture: its file name and its contents. -/
structure Fixture where
  name : Bytes
  bytes : Bytes
  deriving DecidableEq, Repr

structure DriveRequest where
  client : Option ClientAdapter := none
  server : Option ServerAdapter := none
  direction : TransferDirection := .download
  fixture : Option Fixture := none
  options : RequestedOptions := {}
  mode : TransferMode := .octet
  impairment : ImpairmentConfig := {}
  seed : UInt64 := 0
  injection : Option (List TraceRecord → List InjectedPacket) := none
  workRoot : List Bytes := []
  watchdog : ℤ := 20000
  effectiveBlockSize : ℕ := 512
  remoteFilename : Bytes := []
  plantExistingDestination : Bool := false
  stageServedFixture : Bool := true

structure DriveResult where
  setupFailed : Bool := false
  setupError : Bytes := []
  appResult : TransferResult := {}
  trace : PacketTrace := {}
  observer : ObserverReport := {}
  integrity : IntegrityResult := {}
  watchdogFired : Bool := false
  durationMs : Double := Double.ofInt 0

namespace DriveRequest

def served (request : DriveRequest) : List Bytes := request.workRoot ++ [text "served"]

def localDirectory (request : DriveRequest) : List Bytes := request.workRoot ++ [text "local"]

/-- The remote filename, the fixture's name when none is given. -/
def remoteName (request : DriveRequest) (fixture : Fixture) : Bytes :=
  if request.remoteFilename = [] then fixture.name else request.remoteFilename

/-- The file in the served directory. -/
def servedPath (request : DriveRequest) (fixture : Fixture) : Path :=
  ⟨request.served, request.remoteName fixture⟩

def downloadDestination (request : DriveRequest) : Path :=
  ⟨request.localDirectory, text "download.out"⟩

def uploadSource (request : DriveRequest) : Path :=
  ⟨request.localDirectory, text "upload_source.bin"⟩

end DriveRequest

/-! ### The driver -/

/-- The working directories are created, as far as they are not there. -/
def createWorkDirectories (request : DriveRequest) (files : FileSystem) : FileSystem :=
  (files.createDirectories request.served).createDirectories request.localDirectory

/-- The files of the transfer, staged, or the error. -/
def stageFiles (request : DriveRequest) (fixture : Fixture) (files : FileSystem) :
    Except Bytes FileSystem :=
  let files := createWorkDirectories request files
  match request.direction with
  | .download =>
      if request.stageServedFixture then
        match files.write (request.servedPath fixture).components fixture.bytes with
        | none => .error (text "could not stage served fixture")
        | some files => .ok files
      else .ok files
  | .upload =>
      match files.write request.uploadSource.components fixture.bytes with
      | none => .error (text "could not stage upload source")
      | some files =>
          if request.plantExistingDestination then
            .ok (files.overwrite (request.servedPath fixture).components (text "old"))
          else .ok files

/-- The call of the client, on a thread of its own. -/
def performTransfer (client : ClientAdapter) (request : DriveRequest) (fixture : Fixture)
    (target : EndpointConfiguration) (proxy : ProxyConfig) (files : FileSystem) : Exchange :=
  match request.direction with
  | .download =>
      client.performReadRequest target
        { remoteFilename := request.remoteName fixture
          localDestinationPath := request.downloadDestination
          mode := request.mode
          requestedOptions := request.options } proxy files
  | .upload =>
      client.performWriteRequest target
        { localSourcePath := request.uploadSource
          remoteFilename := request.remoteName fixture
          mode := request.mode
          requestedOptions := request.options } proxy files

/-- The files the oracle compares. -/
def checkIntegrity (request : DriveRequest) (fixture : Fixture) (files : FileSystem) :
    IntegrityResult :=
  match request.direction with
  | .download =>
      compareFiles files (request.servedPath fixture) request.downloadDestination
        (request.mode = .netascii)
  | .upload =>
      compareFiles files request.uploadSource (request.servedPath fixture)
        (request.mode = .netascii)

/-- A result without a transfer. -/
def setupFailure (error : Bytes) : DriveResult := { setupFailed := true, setupError := error }

section Drive

variable (surroundings : Surroundings)

/-- The transfer through a proxy that listens, and what is measured of it. -/
def runThroughProxy (client : ClientAdapter) (server : ServerAdapter) (request : DriveRequest)
    (fixture : Fixture) (target : EndpointConfiguration) (proxy : ProxyConfig)
    (files : FileSystem) :
    DriveResult × FileSystem :=
  let exchange := performTransfer client request fixture target proxy files
  let (appResult, durationMs, files) := exchange.join (server.stop exchange.files)
  ({ watchdogFired := exchange.watchdogFired
     trace := exchange.trace
     appResult
     durationMs
     observer := observe exchange.trace
       { direction := request.direction, blockSize := request.effectiveBlockSize }
     integrity := checkIntegrity request fixture files }, files)

/-- The transfer once its files are staged. -/
def runStaged (client : ClientAdapter) (server : ServerAdapter) (request : DriveRequest)
    (fixture : Fixture) (files : FileSystem) : DriveResult × FileSystem :=
  let (realServer, files) := server.start request.served files
  match surroundings.fromHostAndPort realServer.proxyHost realServer.proxyPort with
  | none => (setupFailure (text "server returned an unparseable endpoint"), server.stop files)
  | some serverEndpoint =>
      let proxy : ProxyConfig :=
        { serverEndpoint
          impairment := request.impairment
          seed := request.seed
          injection := request.injection }
      match surroundings.startProxy proxy with
      | none => (setupFailure (text "impairment proxy failed to bind"), server.stop files)
      | some target => runThroughProxy client server request fixture target proxy files

/-- **`drive_transfer`**: the result and the files it leaves. -/
def driveTransfer (request : DriveRequest) (files : FileSystem) : DriveResult × FileSystem :=
  match request.client, request.server, request.fixture with
  | some client, some server, some fixture =>
      match stageFiles request fixture files with
      | .error error => (setupFailure error, createWorkDirectories request files)
      | .ok files => runStaged surroundings client server request fixture files
  | _, _, _ => (setupFailure (text "null adapter or fixture"), files)

end Drive

/-! ### What is staged -/

/-- The files the driver writes before it starts the server, in order. -/
def stagedFiles (request : DriveRequest) (fixture : Fixture) :
    List (List (FileTree.Component Bytes) × Bytes) :=
  match request.direction with
  | .download =>
      if request.stageServedFixture then
        [((request.servedPath fixture).components, fixture.bytes)]
      else []
  | .upload =>
      (request.uploadSource.components, fixture.bytes) ::
        if request.plantExistingDestination then
          [((request.servedPath fixture).components, text "old")]
        else []

/-- The first of the staged files, which the transfer cannot do without, can be written. -/
def CanStage (request : DriveRequest) (fixture : Fixture) (files : FileSystem) : Prop :=
  ∀ file ∈ (stagedFiles request fixture).head?,
    ((createWorkDirectories request files).target file.1).isSome

/-- The error when it cannot. -/
def stagingError (request : DriveRequest) : Bytes :=
  match request.direction with
  | .download => text "could not stage served fixture"
  | .upload => text "could not stage upload source"

theorem write_eq_none {files : FileSystem} {path : List (FileTree.Component Bytes)}
    {contents : Bytes} (h : ¬ (files.target path).isSome) : files.write path contents = none := by
  rw [FileTree.Tree.write, Option.not_isSome_iff_eq_none.1 h, Option.map_none]

theorem write_eq_overwrite {files : FileSystem} {path : List (FileTree.Component Bytes)}
    {contents : Bytes} (h : (files.target path).isSome) :
    files.write path contents = some (files.overwrite path contents) := by
  obtain ⟨l, hl⟩ := Option.isSome_iff_exists.1 h
  rw [FileTree.Tree.overwrite, FileTree.Tree.write, hl, Option.map_some, Option.getD_some]

theorem stageFiles_ok {request : DriveRequest} {fixture : Fixture} {files : FileSystem}
    (h : CanStage request fixture files) :
    stageFiles request fixture files =
      .ok ((createWorkDirectories request files).overwriteAll (stagedFiles request fixture)) := by
  unfold CanStage at h
  unfold stageFiles
  unfold stagedFiles at h ⊢
  cases hdirection : request.direction with
  | download =>
      simp only [hdirection] at h ⊢
      split
      · next hstage =>
          rw [if_pos hstage] at h
          rw [write_eq_overwrite (h _ rfl)]
          rfl
      · rfl
  | upload =>
      simp only [hdirection] at h ⊢
      rw [write_eq_overwrite (h _ rfl)]
      dsimp only
      split <;> rfl

theorem stageFiles_error {request : DriveRequest} {fixture : Fixture} {files : FileSystem}
    (h : ¬ CanStage request fixture files) :
    stageFiles request fixture files = .error (stagingError request) := by
  unfold CanStage at h
  unfold stageFiles stagingError
  unfold stagedFiles at h
  cases hdirection : request.direction with
  | download =>
      simp only [hdirection] at h ⊢
      split
      · next hstage =>
          rw [if_pos hstage] at h
          rw [write_eq_none (by simpa using h)]
      · next hstage =>
          rw [if_neg hstage] at h
          simp at h
  | upload =>
      simp only [hdirection] at h ⊢
      rw [write_eq_none (by simpa using h)]

/-! ### The two ways a transfer goes -/

section Ways

variable {surroundings : Surroundings} (request : DriveRequest) {client : ClientAdapter}
  {server : ServerAdapter} {fixture : Fixture} {files : FileSystem}

theorem driveTransfer_of_staged {staged : FileSystem} (hclient : request.client = some client)
    (hserver : request.server = some server) (hfixture : request.fixture = some fixture)
    (hstage : stageFiles request fixture files = .ok staged) :
    driveTransfer surroundings request files =
      runStaged surroundings client server request fixture staged := by
  unfold driveTransfer
  simp only [hclient, hserver, hfixture, hstage]

theorem driveTransfer_of_not_staged {error : Bytes} (hclient : request.client = some client)
    (hserver : request.server = some server) (hfixture : request.fixture = some fixture)
    (hstage : stageFiles request fixture files = .error error) :
    driveTransfer surroundings request files =
      (setupFailure error, createWorkDirectories request files) := by
  unfold driveTransfer
  simp only [hclient, hserver, hfixture, hstage]

theorem driveTransfer_of_no_fixture (hfixture : request.fixture = none) :
    (driveTransfer surroundings request files).1 =
      setupFailure (text "null adapter or fixture") := by
  unfold driveTransfer
  rw [hfixture]
  cases request.client <;> cases request.server <;> rfl

end Ways

end TftpHarness
