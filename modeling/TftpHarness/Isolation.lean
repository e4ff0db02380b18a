/-
**Isolation of transfers.**

The driver promises that each transfer runs in its own fresh directories.  It creates the
directories but does not empty them, and several tests call it again with the same one.  Whether a
transfer is isolated is a two-run property, over all adapters: two runs of the driver on files that
differ only in the working directory report the same.

The driver overwrites the files it stages and nothing else, so a transfer is isolated exactly when
the two working directories differ at most there.  The adapter that tells the runs apart looks at
the files and reports what it sees.

Main definitions:

* `TftpHarness.Isolated` — no adapter can make the result depend on what was there before;
* `TftpHarness.NothingStale` — what was there before differs at most where the driver overwrites it.

Main results:

* `TftpHarness.isolated_iff` — **a transfer is isolated exactly when nothing stale is left**;
* `TftpHarness.stale_download_matches` — a client that writes nothing is credited with the output of
  an earlier transfer.
-/

import TftpHarness.Driver

set_option relaxedAutoImplicit false
set_option autoImplicit false

namespace TftpHarness

/-! ### The two-run property -/

/-- The outcome, the application's own result and the verdict on the delivered bytes. -/
structure Reported where
  setupFailed : Bool
  setupError : Bytes
  watchdogFired : Bool
  appResult : TransferResult
  verdict : IntegrityVerdict
  deriving DecidableEq, Repr

def DriveResult.reported (result : DriveResult) : Reported where
  setupFailed := result.setupFailed
  setupError := result.setupError
  watchdogFired := result.watchdogFired
  appResult := result.appResult
  verdict := result.integrity.verdict

/-- The files differ only inside the two working directories of the request. -/
def DifferOnlyInside (request : DriveRequest) (before after : FileSystem) : Prop :=
  ∀ l, (∀ d, d = request.served ∨ d = request.localDirectory → d <+: l → l = d) →
    before.node l = after.node l

/-- The request, made of these adapters. -/
def DriveRequest.withAdapters (request : DriveRequest) (client : ClientAdapter)
    (server : ServerAdapter) : DriveRequest :=
  { request with client := some client, server := some server }

/-- **No adapter can make what the driver reports depend on the files there were before.** -/
def Isolated (request : DriveRequest) (before after : FileSystem) : Prop :=
  ∀ (surroundings : Surroundings) (client : ClientAdapter) (server : ServerAdapter),
    (driveTransfer surroundings (request.withAdapters client server) before).1.reported =
      (driveTransfer surroundings (request.withAdapters client server) after).1.reported

/-- The driver overwrites the location when it stages its files. -/
def Overwritten (request : DriveRequest) (fixture : Fixture) (files : FileSystem) (l : List Bytes) :
    Prop :=
  (createWorkDirectories request files).Written (stagedFiles request fixture) l

/-- Without a fixture there is no transfer.  Otherwise neither run can stage its files, or both can
and what was there before differs at most where both overwrite it. -/
def NothingStale (request : DriveRequest) (before after : FileSystem) : Prop :=
  ∀ fixture, request.fixture = some fixture →
    (¬ CanStage request fixture before ∧ ¬ CanStage request fixture after) ∨
      (CanStage request fixture before ∧ CanStage request fixture after ∧
        ∀ l, ¬ (Overwritten request fixture before l ∧ Overwritten request fixture after l) →
          before.node l = after.node l)

/-! ### What is staged -/

/-- Creating the working directories does not hide a difference. -/
theorem node_createWorkDirectories_eq_iff {request : DriveRequest} {before after : FileSystem}
    (h : DifferOnlyInside request before after) (l : List Bytes) :
    (createWorkDirectories request before).node l = (createWorkDirectories request after).node l ↔
      before.node l = after.node l := by
  -- a directory above one of the two, or one of the two, is not inside either
  have habove : ∀ d p, d = request.served ∨ d = request.localDirectory → p <+: d →
      before.node p = after.node p := by
    intro d p hd hp
    refine h p fun d' hd' hbegins => ?_
    have hlength : d'.length = d.length := by
      rcases hd with rfl | rfl <;> rcases hd' with rfl | rfl <;>
        simp [DriveRequest.served, DriveRequest.localDirectory]
    have hle := hbegins.length_le
    have hle' := hp.length_le
    exact ( List.IsPrefix.eq_of_length hbegins (by omega)).symm
  unfold createWorkDirectories
  rw [FileTree.Tree.node_createDirectories_eq_iff,
    FileTree.Tree.node_createDirectories_eq_iff fun p => habove _ p (Or.inl rfl)]
  intro p hp
  rw [FileTree.Tree.node_createDirectories_eq_iff fun p => habove _ p (Or.inl rfl)]
  exact habove _ p (Or.inr rfl) hp

/-- **The staged files are the same in both runs exactly when nothing stale is left.** -/
theorem stageFiles_eq_iff {request : DriveRequest} {fixture : Fixture} {before after : FileSystem}
    (h : DifferOnlyInside request before after) :
    stageFiles request fixture before = stageFiles request fixture after ↔
      (¬ CanStage request fixture before ∧ ¬ CanStage request fixture after) ∨
        (CanStage request fixture before ∧ CanStage request fixture after ∧
          ∀ l, ¬ (Overwritten request fixture before l ∧ Overwritten request fixture after l) →
            before.node l = after.node l) := by
  by_cases hbefore : CanStage request fixture before
  · by_cases hafter : CanStage request fixture after
    · rw [stageFiles_ok hbefore, stageFiles_ok hafter, Except.ok.injEq,
        FileTree.Tree.overwriteAll_eq_iff]
      simp only [node_createWorkDirectories_eq_iff h]
      simp only [hbefore, hafter, Overwritten, not_true_eq_false, false_and, true_and, false_or]
    · simp [stageFiles_ok hbefore, stageFiles_error hafter, hbefore, hafter]
  · by_cases hafter : CanStage request fixture after
    · simp [stageFiles_error hbefore, stageFiles_ok hafter, hbefore, hafter]
    · simp [stageFiles_error hbefore, stageFiles_error hafter, hbefore, hafter]

/-! ### Telling two runs apart -/

/-- A system on which every endpoint parses and every proxy binds. -/
def openSurroundings : Surroundings where
  fromHostAndPort := fun host port => some ⟨false, host, port⟩
  startProxy := fun _ => some {}

/-- A server that leaves the files alone. -/
def idleServer : ServerAdapter where
  implementationName := []
  supportsCapability := fun _ => true
  start := fun _ files => ({}, files)
  stop := fun files => files

/-- A client that writes nothing and reports what it makes of the files it finds. -/
def observingClient (completed : FileSystem → Bool) : ClientAdapter where
  implementationName := []
  supportsCapability := fun _ => true
  performReadRequest := fun _ _ _ files =>
    { watchdogFired := false
      trace := {}
      files
      join := fun files => ({ completedSuccessfully := completed files }, Double.ofInt 0, files) }
  performWriteRequest := fun _ _ _ files =>
    { watchdogFired := false
      trace := {}
      files
      join := fun files => ({ completedSuccessfully := completed files }, Double.ofInt 0, files) }

/-- The request, made of these adapters. -/
def observed (completed : FileSystem → Bool) (request : DriveRequest) : DriveRequest :=
  request.withAdapters (observingClient completed) idleServer

section Observing

variable (completed : FileSystem → Bool) {request : DriveRequest} {fixture : Fixture}
  {files staged : FileSystem}

/-- The run reports what the client makes of the staged files. -/
theorem observed_ok (hfixture : request.fixture = some fixture)
    (h : stageFiles request fixture files = .ok staged) :
    (driveTransfer openSurroundings (observed completed request) files).1.reported =
      { setupFailed := false
        setupError := []
        watchdogFired := false
        appResult := { completedSuccessfully := completed staged }
        verdict := (checkIntegrity request fixture staged).verdict } := by
  rw [driveTransfer_of_staged (observed completed request) rfl rfl hfixture h]
  unfold runStaged runThroughProxy performTransfer
  have hdirection : (observed completed request).direction = request.direction := rfl
  rw [hdirection]
  cases request.direction <;> rfl

theorem observed_error {error : Bytes} (hfixture : request.fixture = some fixture)
    (h : stageFiles request fixture files = .error error) :
    (driveTransfer openSurroundings (observed completed request) files).1.reported =
      (setupFailure error).reported := by
  rw [driveTransfer_of_not_staged (observed completed request) rfl rfl hfixture h]

/-- **Two runs that no client tells apart have staged the same files.** -/
theorem stageFiles_eq_of_observed {before after : FileSystem}
    (hfixture : request.fixture = some fixture)
    (h : ∀ completed : FileSystem → Bool,
      (driveTransfer openSurroundings (observed completed request) before).1.reported =
        (driveTransfer openSurroundings (observed completed request) after).1.reported) :
    stageFiles request fixture before = stageFiles request fixture after := by
  classical
  cases hbefore : stageFiles request fixture before with
  | error error =>
      have hleft := observed_error (fun _ => true) hfixture hbefore
      cases hafter : stageFiles request fixture after with
      | error error' =>
          have hright := observed_error (fun _ => true) hfixture hafter
          have heq := hleft.symm.trans ((h fun _ => true).trans hright)
          rw [show error = error' from congrArg Reported.setupError heq]
      | ok staged' =>
          have hright := observed_ok (fun _ => true) hfixture hafter
          have heq := hleft.symm.trans ((h fun _ => true).trans hright)
          exact absurd (congrArg Reported.setupFailed heq) (by simp [setupFailure,
            DriveResult.reported])
  | ok staged =>
      -- the client that recognises the files staged in the first run
      have hleft := observed_ok (fun files => files = staged) hfixture hbefore
      cases hafter : stageFiles request fixture after with
      | error error' =>
          have hright := observed_error (fun files => files = staged) hfixture hafter
          have heq := hleft.symm.trans ((h fun files => files = staged).trans hright)
          exact absurd (congrArg Reported.setupFailed heq) (by simp [setupFailure,
            DriveResult.reported])
      | ok staged' =>
          have hright := observed_ok (fun files => files = staged) hfixture hafter
          have heq := hleft.symm.trans ((h fun files => files = staged).trans hright)
          have hsaw : decide (staged = staged) = decide (staged' = staged) :=
            congrArg (fun reported : Reported => reported.appResult.completedSuccessfully) heq
          have hsame : staged' = staged := by simpa using hsaw
          rw [hsame]

end Observing

/-- A run depends on the files there were before through the staged files only. -/
theorem driveTransfer_congr {surroundings : Surroundings} {request : DriveRequest}
    {client : ClientAdapter} {server : ServerAdapter} {fixture : Fixture}
    {before after : FileSystem}
    (hclient : request.client = some client) (hserver : request.server = some server)
    (hfixture : request.fixture = some fixture)
    (hstage : stageFiles request fixture before = stageFiles request fixture after) :
    (driveTransfer surroundings request before).1 =
      (driveTransfer surroundings request after).1 := by
  cases hafter : stageFiles request fixture after with
  | error error =>
      rw [driveTransfer_of_not_staged request hclient hserver hfixture (hstage.trans hafter),
        driveTransfer_of_not_staged request hclient hserver hfixture hafter]
  | ok staged =>
      rw [driveTransfer_of_staged request hclient hserver hfixture (hstage.trans hafter),
        driveTransfer_of_staged request hclient hserver hfixture hafter]

/-! ### Isolation -/

/-- **A transfer is isolated exactly when nothing stale is left.** -/
theorem isolated_iff (request : DriveRequest) (before after : FileSystem)
    (h : DifferOnlyInside request before after) :
    Isolated request before after ↔ NothingStale request before after := by
  unfold NothingStale
  constructor
  · intro hisolated fixture hfixture
    rw [← stageFiles_eq_iff h]
    exact stageFiles_eq_of_observed hfixture fun completed =>
      hisolated openSurroundings (observingClient completed) idleServer
  · intro hstale surroundings client server
    cases hfixture : request.fixture with
    | none =>
        rw [driveTransfer_of_no_fixture (request.withAdapters client server) hfixture,
          driveTransfer_of_no_fixture (request.withAdapters client server) hfixture]
    | some fixture =>
        have hstage : stageFiles (request.withAdapters client server) fixture before =
            stageFiles (request.withAdapters client server) fixture after :=
          (stageFiles_eq_iff h).2 (hstale fixture hfixture)
        have hsame := @driveTransfer_congr surroundings (request.withAdapters client server) client
          server fixture before after rfl rfl hfixture hstage
        rw [hsame]

/-! ### A directory that is used again -/

/-- A file overwritten inside a working directory changes nothing elsewhere. -/
theorem differOnlyInside_overwrite {request : DriveRequest} {files : FileSystem}
    {path : List (FileTree.Component Bytes)} {d : List Bytes} (name : Bytes)
    (hd : d = request.served ∨ d = request.localDirectory)
    (htarget : (files.target path).map Subtype.val = some (d ++ [name])) (contents : Bytes) :
    DifferOnlyInside request files (files.overwrite path contents) := by
  intro l hl
  rw [FileTree.Tree.node_overwrite, if_neg]
  intro heq
  rw [htarget] at heq
  have hinside := hl d hd (Option.some.inj heq ▸ List.prefix_append d [name])
  rw [← Option.some.inj heq] at hinside
  simpa using congrArg List.length hinside

/-- A file of one byte. -/
def oneByteFixture : Fixture := ⟨text "one.bin", [7]⟩

/-- A download of it, with the root as working directory. -/
def oneByteDownload : DriveRequest where
  fixture := some oneByteFixture

/-- The working directories, created and empty. -/
def freshFiles : FileSystem := createWorkDirectories oneByteDownload FileTree.Tree.empty

/-- The working directories with the output of an earlier transfer. -/
def usedFiles : FileSystem :=
  freshFiles.overwrite oneByteDownload.downloadDestination.components [7]

/-- The working directories with another file served under the name. -/
def servedFiles : FileSystem :=
  freshFiles.overwrite (oneByteDownload.servedPath oneByteFixture).components [1, 2]

/-- What the driver makes of the files before it starts the server. -/
def oneByteStaged (files : FileSystem) : FileSystem :=
  (createWorkDirectories oneByteDownload files).overwriteAll
    (stagedFiles oneByteDownload oneByteFixture)

theorem differOnlyInside_usedFiles : DifferOnlyInside oneByteDownload freshFiles usedFiles :=
  differOnlyInside_overwrite (text "download.out") (Or.inr rfl) (by decide +kernel) _

theorem differOnlyInside_servedFiles : DifferOnlyInside oneByteDownload freshFiles servedFiles :=
  differOnlyInside_overwrite (text "one.bin") (Or.inl rfl) (by decide +kernel) _

theorem canStage_of_target {files : FileSystem}
    (h : ((createWorkDirectories oneByteDownload files).target
      (oneByteDownload.servedPath oneByteFixture).components).isSome) :
    CanStage oneByteDownload oneByteFixture files := by
  intro file hfile
  obtain rfl := Option.some.inj hfile
  exact h

/-- The verdict of the run with a client that writes nothing and reports success. -/
theorem verdict_oneByteDownload {files : FileSystem}
    (h : ((createWorkDirectories oneByteDownload files).target
      (oneByteDownload.servedPath oneByteFixture).components).isSome) :
    (driveTransfer openSurroundings (observed (fun _ => true) oneByteDownload)
        files).1.reported.verdict =
      (checkIntegrity oneByteDownload oneByteFixture (oneByteStaged files)).verdict := by
  rw [observed_ok _ rfl (stageFiles_ok (canStage_of_target h))]
  rfl

/-- **A client that writes nothing is credited with the output of an earlier transfer.** -/
theorem stale_download_matches :
    DifferOnlyInside oneByteDownload freshFiles usedFiles ∧
      (driveTransfer openSurroundings (observed (fun _ => true) oneByteDownload)
        freshFiles).1.reported.verdict = .missingArtifact ∧
      (driveTransfer openSurroundings (observed (fun _ => true) oneByteDownload)
        usedFiles).1.reported.verdict = .match ∧
      ¬ Isolated oneByteDownload freshFiles usedFiles := by
  have hfresh : (driveTransfer openSurroundings (observed (fun _ => true) oneByteDownload)
      freshFiles).1.reported.verdict = .missingArtifact := by
    rw [verdict_oneByteDownload (by decide +kernel)]
    exact (compareFiles_missing ..).2 (Or.inr (by decide +kernel))
  have hused : (driveTransfer openSurroundings (observed (fun _ => true) oneByteDownload)
      usedFiles).1.reported.verdict = .match := by
    have hsource : (oneByteStaged usedFiles).read
        (oneByteDownload.servedPath oneByteFixture).components = some [7] := by decide +kernel
    have hdelivered : (oneByteStaged usedFiles).read
        oneByteDownload.downloadDestination.components = some [7] := by decide +kernel
    rw [verdict_oneByteDownload (by decide +kernel)]
    exact compareFiles_self hsource hdelivered
  refine ⟨differOnlyInside_usedFiles, hfresh, hused, fun hisolated => ?_⟩
  have hsame := congrArg Reported.verdict
    (hisolated openSurroundings (observingClient fun _ => true) idleServer)
  exact absurd (hfresh.symm.trans (hsame.trans hused)) (by decide)

/-- What was served under the name before is overwritten. -/
theorem isolated_iff_served_before :
    Isolated oneByteDownload freshFiles servedFiles ∧
      (Isolated oneByteDownload freshFiles servedFiles ↔
        NothingStale oneByteDownload freshFiles servedFiles) := by
  have hiff := isolated_iff oneByteDownload freshFiles servedFiles differOnlyInside_servedFiles
  refine ⟨hiff.2 ?_, hiff⟩
  intro fixture hfixture
  obtain rfl := Option.some.inj hfixture
  refine Or.inr ⟨canStage_of_target (by decide +kernel), canStage_of_target (by decide +kernel), ?_⟩
  intro l hl
  unfold servedFiles
  rw [FileTree.Tree.node_overwrite, if_neg]
  intro heq
  have hlocation : l = [text "served", text "one.bin"] := by
    have htarget : (freshFiles.target (oneByteDownload.servedPath oneByteFixture).components).map
        Subtype.val = some [text "served", text "one.bin"] := by decide +kernel
    exact Option.some.inj (heq.symm.trans htarget)
  rw [hlocation] at hl
  refine hl ⟨⟨_, List.mem_singleton.2 rfl, ?_⟩, ⟨_, List.mem_singleton.2 rfl, ?_⟩⟩
  · decide +kernel
  · decide +kernel

end TftpHarness
