/-
**Uploads to one name at the same time.**

`handle_request` runs in a thread of its own for every WRQ.  It asks whether the served file exists,
negotiates, receives the blocks, and writes the file.  Between the question and the write lies a
whole transfer, in which another handler may ask the same question about the same file.

This module takes the handler of a WRQ apart into these four steps and lets any number of handlers
take theirs in any order.

Main definitions:

* `TftpHarness.Upload`, `TftpHarness.UploadStage`, `TftpHarness.UploadAction` — a handler, where it
  stands and its steps;
* `TftpHarness.openUpload`, `TftpHarness.uploadAct`, `TftpHarness.uploadTasks` — how a handler
  starts and acts, and the pool of all handlers;
* `TftpHarness.UploadsKept` — what a handler has written is never replaced;
* `TftpHarness.OneAtWork` — no two handlers past their check are at work on one file.

Main results:

* `TftpHarness.handleRequest_upload`, `TftpHarness.handlerReceive_upload` — the handler of the
  server takes these steps one after the other;
* `TftpHarness.uploadsKept_of_oneAtWork` — **a completed upload is never overwritten** as long as
  one handler at a time is at work on a file;
* `TftpHarness.upload_overwritten` — two handlers that both ask before either writes.
-/

import TftpHarness.Pool
import TftpHarness.ServedPath
import TftpHarness.Service

set_option relaxedAutoImplicit false
set_option autoImplicit false

namespace TftpHarness

/-! ### The steps of a handler -/

/-- Where the handler of a WRQ stands: before its check, past it, in its data plane, with a
completed transfer to write, or at one of its ends. -/
inductive UploadStage
  | accepted
  | checked
  | receiving (r : ReceiverState)
  | received (bytes : Bytes)
  | stored (bytes : Bytes)
  | refused (code : TftpErrorCode)
  | failed (outcome : TransferOutcome)
  deriving DecidableEq, Repr

/-- A handler that has passed its check and may still write. -/
def UploadStage.AtWork : UploadStage → Prop
  | .checked => True
  | .receiving _ => True
  | .received _ => True
  | _ => False

instance : DecidablePred UploadStage.AtWork := fun stage =>
  match stage with
  | .accepted => inferInstanceAs (Decidable False)
  | .checked => inferInstanceAs (Decidable True)
  | .receiving _ => inferInstanceAs (Decidable True)
  | .received _ => inferInstanceAs (Decidable True)
  | .stored _ => inferInstanceAs (Decidable False)
  | .refused _ => inferInstanceAs (Decidable False)
  | .failed _ => inferInstanceAs (Decidable False)

/-- The local variables of `handle_request` for a WRQ. -/
structure Upload where
  clientEndpoint : Endpoint
  request : TftpPacket
  path : Bytes := []
  params : NegotiatedParameters
  stage : UploadStage := .accepted
  deriving DecidableEq

/-- The steps of a handler. -/
inductive UploadAction
  | checkExists
  | negotiate
  | receive (event : SocketEvent)
  | writeFile

section Steps

variable (config : EngineConfig)

/-- The start of a handler: the requested name is resolved, or the request is refused. -/
def openUpload (served : ServedDirectory) (given : TftpPacket × Endpoint) :
    Upload × List (Endpoint × Bytes) :=
  let u : Upload :=
    { clientEndpoint := given.2
      request := given.1
      params := { blockSize := config.defaultBlockSize, windowSize := 1 } }
  match resolveServedPath served given.1.filename with
  | none =>
      ({ u with stage := .refused TftpErrorCode.accessViolation },
        [(given.2, serializeError TftpErrorCode.accessViolation (text "access violation"))])
  | some path => ({ u with path := path }, [])

/-- Where a handler stands after a receive of its data plane. -/
def stageAfter (request : TftpPacket) (r : ReceiverState) : UploadStage :=
  if r.phase ≠ .returned then .receiving r
  else if r.outcome.completedSuccessfully then
    .received (decodeForMode (modeIsNetascii request.mode) r.sink)
  else .failed r.outcome

/-- A handler that refuses its request because the file exists. -/
def refuseUpload (u : Upload) : Upload × List (Endpoint × Bytes) :=
  ({ u with stage := .refused TftpErrorCode.fileAlreadyExists },
    [(u.clientEndpoint,
      serializeError TftpErrorCode.fileAlreadyExists (text "file already exists"))])

/-- The negotiation of a handler, up to the first receive of its data plane. -/
def negotiateUpload (u : Upload) : Upload × List (Endpoint × Bytes) :=
  let negotiated := negotiateServerOptions u.request config none u.params
  let started := receiverStart negotiated.2 config [] 1 none
  ({ u with params := negotiated.2, stage := .receiving started.1 },
    (u.clientEndpoint, if negotiated.1 = [] then serializeAcknowledgement 0
      else serializeOptionAcknowledgement negotiated.1) ::
        started.2.map fun i => (u.clientEndpoint, ackDatagram i))

/-- One step of a handler. -/
def uploadAct (files : Files) (u : Upload) (action : UploadAction) :
    Option (Files × Upload × List (Endpoint × Bytes)) :=
  match u.stage, action with
  | .accepted, .checkExists =>
      if config.rejectOverwriteOnWriteRequest ∧ (files u.path).isSome then
        some (files, refuseUpload u)
      else some (files, { u with stage := .checked }, [])
  | .checked, .negotiate => some (files, negotiateUpload config u)
  | .receiving r, .receive event =>
      let reacted := (dataReceiver u.params config).onEvent u.clientEndpoint r event
      some (files, { u with stage := stageAfter u.request reacted.1 }, reacted.2)
  | .received bytes, .writeFile =>
      some (Function.update files u.path (some bytes), { u with stage := .stored bytes }, [])
  | _, _ => none

/-- All handlers of a server. -/
def uploadTasks (served : ServedDirectory) :
    Pool.Tasks Files Upload (TftpPacket × Endpoint) UploadAction (Endpoint × Bytes) where
  start := openUpload config served
  act := uploadAct config

/-- Several steps of one handler, without the others. -/
def uploadActs (files : Files) (u : Upload) :
    List UploadAction → Option (Files × Upload × List (Endpoint × Bytes))
  | [] => some (files, u, [])
  | action :: actions => (uploadAct config files u action).bind fun r =>
      (uploadActs r.1 r.2.1 actions).map fun r' => (r'.1, r'.2.1, r.2.2 ++ r'.2.2)

end Steps

/-! ### The handler of the server -/

section Handler

variable {config : EngineConfig} {served : ServedDirectory} {files : Files}

/-- A handler of the server and one taken apart stand at the same place. -/
structure SameUpload (h : Handler) (u : Upload) : Prop where
  clientEndpoint : h.clientEndpoint = u.clientEndpoint
  netascii : h.netascii = modeIsNetascii u.request.mode
  path : h.path = u.path
  params : h.params = u.params
  stage : (∃ code, u.stage = .refused code ∧ h.phase = .returned) ∨
    ∃ r, u.stage = .receiving r ∧ h.phase = .receiving r

/-- **`handle_request` for a WRQ** is the start of a handler, its check and its negotiation. -/
theorem handleRequest_upload {request : TftpPacket} (hop : request.opcode = .writeRequest)
    (client : Endpoint) :
    ∃ actions u sends, uploadActs config files (openUpload config served (request, client)).1
        actions = some (files, u, sends) ∧
      (handleRequest config served files request client).2 =
        (openUpload config served (request, client)).2 ++ sends ∧
      SameUpload (handleRequest config served files request client).1 u := by
  have hread : request.opcode ≠ .readRequest := by rw [hop]; decide
  unfold handleRequest openUpload
  cases hresolve : resolveServedPath served request.filename with
  | none => exact ⟨[], _, _, rfl, by simp [refuseRequest], rfl, rfl, rfl, rfl, Or.inl ⟨_, rfl, rfl⟩⟩
  | some path =>
      set u : Upload :=
        { clientEndpoint := client
          request := request
          path := path
          params := { blockSize := config.defaultBlockSize, windowSize := 1 } } with hu
      by_cases hexists : config.rejectOverwriteOnWriteRequest = true ∧ (files path).isSome = true
      · have hacts : uploadActs config files u [.checkExists] =
            some (files, (refuseUpload u).1, (refuseUpload u).2) := by
          simp [uploadActs, uploadAct, hu, hexists]
        refine ⟨_, _, _, hacts, ?_, ?_⟩
        · simp [hread, hexists, refuseRequest, refuseUpload, hu]
        · simp only [hread, if_false, if_pos hexists, refuseRequest]
          exact ⟨rfl, rfl, rfl, rfl, Or.inl ⟨_, rfl, rfl⟩⟩
      · have hacts : uploadActs config files u [.checkExists, .negotiate] =
            some (files, (negotiateUpload config { u with stage := .checked }).1,
              (negotiateUpload config { u with stage := .checked }).2) := by
          simp [uploadActs, uploadAct, hu, hexists]
        refine ⟨_, _, _, hacts, ?_, ?_⟩
        · simp only [hread, if_false, if_neg hexists]
          rfl
        · simp only [hread, if_false, if_neg hexists]
          exact ⟨rfl, rfl, rfl, rfl, Or.inr ⟨_, rfl, rfl⟩⟩

/-- **A receive of the server's handler** is one of the data plane, and the write when that returns
from a completed transfer; unless the data plane has returned, both go on from the same place. -/
theorem handlerReceive_upload {h : Handler} {u : Upload} {r : ReceiverState}
    (hsame : SameUpload h u) (hstage : u.stage = .receiving r) (hrun : r.phase ≠ .returned)
    (event : SocketEvent) :
    ∃ actions u', uploadActs config files u (.receive event :: actions) =
        some ((handlerReceive config files h event).1, u',
          (handlerReceive config files h event).2.2) ∧
      (SameUpload (handlerReceive config files h event).2.1 u' ∨
        ∃ r', (handlerReceive config files h event).2.1.phase = .receiving r' ∧
          r'.phase = .returned) := by
  have hphase : h.phase = .receiving r := by
    rcases hsame.stage with ⟨code, hrefused, -⟩ | ⟨r', hreceiving, hphase⟩
    · rw [hstage] at hrefused
      cases hrefused
    · rw [hstage] at hreceiving
      cases hreceiving
      exact hphase
  simp only [handlerReceive, hphase, hsame.params, hsame.clientEndpoint, storeUpload]
  generalize hreact : (dataReceiver u.params config).onEvent u.clientEndpoint r event = reacted
  by_cases hdone : reacted.1.phase = .returned ∧ reacted.1.outcome.completedSuccessfully = true
  · let bytes := decodeForMode (modeIsNetascii u.request.mode) reacted.1.sink
    refine ⟨[.writeFile], { u with stage := .stored bytes }, ?_, Or.inr ⟨_, rfl, hdone.1⟩⟩
    simp only [uploadActs, uploadAct, hstage, hreact, stageAfter, hdone.1, hdone.2, hrun, ne_eq,
      not_true_eq_false, not_false_eq_true, if_false, if_true, and_self, Option.bind_some,
      Option.map_some, List.append_nil, hsame.path, hsame.netascii]
    rfl
  · refine ⟨[], { u with stage := stageAfter u.request reacted.1 }, ?_, ?_⟩
    · rw [if_neg fun hstored => hdone hstored.2]
      simp only [uploadActs, uploadAct, hstage, hreact, Option.bind_some, Option.map_some,
        List.append_nil]
    · by_cases hret : reacted.1.phase = .returned
      · exact Or.inr ⟨_, rfl, hret⟩
      · refine Or.inl ⟨rfl, hsame.netascii, hsame.path, rfl, ?_⟩
        exact Or.inr ⟨reacted.1, by simp only [stageAfter, if_pos hret], rfl⟩

end Handler

/-! ### What is stored stays -/

section Runs

variable {config : EngineConfig} {served : ServedDirectory}

/-- The files and the handlers of a server, and all it has sent. -/
abbrev UploadState := Pool.State Files Upload (Endpoint × Bytes)

/-- One event: a WRQ of a client opens a handler, or a handler takes a step. -/
abbrev UploadLabel := Pool.Label (TftpPacket × Endpoint) UploadAction

variable (config served) in
/-- **A completed upload is never overwritten** in a run from the files `files`: once a handler has
stored its file, the file holds those bytes ever after; no other handler stores one of that name;
and a handler that has not made its check by then is refused with ERROR 6. -/
def UploadsKept (files : Files) (schedule : List UploadLabel) : Prop :=
  ∀ before after mid st, schedule = before ++ after →
    Pool.run (uploadTasks config served) { shared := files } before = some mid →
    Pool.run (uploadTasks config served) { shared := files } schedule = some st →
    ∀ (k : ℕ) (u : Upload) (bytes : Bytes), mid.tasks[k]? = some u → u.stage = .stored bytes →
      st.shared u.path = some bytes ∧
      (∀ (j : ℕ) (v : Upload), j ≠ k → st.tasks[j]? = some v → v.path = u.path →
        ∀ bytes', v.stage ≠ .stored bytes') ∧
      ∀ (j : ℕ) (v : Upload), mid.tasks[j]? = some v → v.path = u.path → v.stage = .accepted →
        uploadAct config mid.shared v .checkExists =
          some (mid.shared, { v with stage := .refused TftpErrorCode.fileAlreadyExists },
            [(v.clientEndpoint,
              serializeError TftpErrorCode.fileAlreadyExists (text "file already exists"))])

/-- A handler that finds no file in its check is the only one at work on that file. -/
def OneAtWork (st : UploadState) : UploadLabel → Prop
  | .act k .checkExists => ∀ u ∈ st.tasks[k]?, u.stage = .accepted → st.shared u.path = none →
      ∀ v ∈ st.tasks.eraseIdx k, v.path = u.path → ¬ v.stage.AtWork
  | _ => True

instance (st : UploadState) (l : UploadLabel) : Decidable (OneAtWork st l) :=
  match l with
  | .start _ => inferInstanceAs (Decidable True)
  | .act k .checkExists => inferInstanceAs (Decidable (∀ u ∈ st.tasks[k]?, u.stage = .accepted →
      st.shared u.path = none → ∀ v ∈ st.tasks.eraseIdx k, v.path = u.path → ¬ v.stage.AtWork))
  | .act _ .negotiate => inferInstanceAs (Decidable True)
  | .act _ (.receive _) => inferInstanceAs (Decidable True)
  | .act _ .writeFile => inferInstanceAs (Decidable True)

/-- The invariant: what is stored is there, and stored once; the file a handler is at work on is
not, and it is the only one. -/
structure StoreInv (st : UploadState) : Prop where
  kept : ∀ (k : ℕ) (u : Upload) (bytes : Bytes), st.tasks[k]? = some u → u.stage = .stored bytes →
    st.shared u.path = some bytes
  once : ∀ (j k : ℕ) (u v : Upload) (bytes bytes' : Bytes), st.tasks[j]? = some u →
    st.tasks[k]? = some v → u.stage = .stored bytes → v.stage = .stored bytes' →
    u.path = v.path → j = k
  absent : ∀ (k : ℕ) (u : Upload), st.tasks[k]? = some u → u.stage.AtWork → st.shared u.path = none
  alone : ∀ (j k : ℕ) (u v : Upload), st.tasks[j]? = some u → st.tasks[k]? = some v →
    u.stage.AtWork → v.stage.AtWork → u.path = v.path → j = k

/-- Everything a step does to the files and to what its handler may still do. -/
inductive UploadMove (config : EngineConfig) (files : Files) (u : Upload) :
    UploadAction → Files → Upload → Prop
  | passed (hstage : u.stage = .accepted)
      (habsent : config.rejectOverwriteOnWriteRequest = true → files u.path = none) :
      UploadMove config files u .checkExists files { u with stage := .checked }
  | worked {action : UploadAction} {u' : Upload} (hwork : u.stage.AtWork)
      (hpath : u'.path = u.path) (hstored : ∀ bytes, u'.stage ≠ .stored bytes) :
      UploadMove config files u action files u'
  | ended {action : UploadAction} {u' : Upload} (hwork : ¬ u'.stage.AtWork)
      (hpath : u'.path = u.path) (hstored : ∀ bytes, u'.stage ≠ .stored bytes) :
      UploadMove config files u action files u'
  | stored {bytes : Bytes} (hstage : u.stage = .received bytes) :
      UploadMove config files u .writeFile (Function.update files u.path (some bytes))
        { u with stage := .stored bytes }

theorem stageAfter_ne_stored (request : TftpPacket) (r : ReceiverState) (bytes : Bytes) :
    stageAfter request r ≠ .stored bytes := by
  unfold stageAfter
  split
  · simp
  · split <;> simp

/-- **Every step of a handler is one of the moves.** -/
theorem uploadMove_act {files files' : Files} {u u' : Upload} {action : UploadAction}
    {sends : List (Endpoint × Bytes)}
    (h : uploadAct config files u action = some (files', u', sends)) :
    UploadMove config files u action files' u' := by
  unfold uploadAct at h
  split at h
  · next hstage =>
      split at h
      · cases Option.some.inj h
        exact .ended id rfl (by simp)
      · next hfree =>
          cases Option.some.inj h
          refine .passed hstage fun hreject => ?_
          simpa [hreject] using hfree
  · next hstage =>
      cases Option.some.inj h
      exact .worked (by rw [hstage]; trivial) rfl (by simp)
  · next r event hstage =>
      cases Option.some.inj h
      exact .worked (by rw [hstage]; trivial) rfl (stageAfter_ne_stored _ _)
  · next bytes hstage =>
      cases Option.some.inj h
      exact .stored hstage
  · cases h

/-- Where no handler has gone further than before, the invariant stays. -/
theorem StoreInv.of_earlier {st st' : UploadState} (h : StoreInv st)
    (hshared : st'.shared = st.shared)
    (hwork : ∀ (j : ℕ) (w : Upload), st'.tasks[j]? = some w → w.stage.AtWork →
      ∃ v : Upload, st.tasks[j]? = some v ∧ v.path = w.path ∧ v.stage.AtWork)
    (hstored : ∀ (j : ℕ) (w : Upload) (bytes : Bytes), st'.tasks[j]? = some w →
      w.stage = .stored bytes → st.tasks[j]? = some w) : StoreInv st' := by
  refine ⟨?_, ?_, ?_, ?_⟩
  · intro k u bytes hu hstage
    rw [hshared]
    exact h.kept k u bytes (hstored k u bytes hu hstage) hstage
  · intro j k u v bytes bytes' hu hv hstage hstage'
    exact h.once j k u v bytes bytes' (hstored j u bytes hu hstage) (hstored k v bytes' hv hstage')
      hstage hstage'
  · intro k u hu hat
    obtain ⟨v, hv, hpath, hat'⟩ := hwork k u hu hat
    rw [hshared, ← hpath]
    exact h.absent k v hv hat'
  · intro j k u v hu hv hat hat' hpath
    obtain ⟨u₀, hu₀, hpath₀, hat₀⟩ := hwork j u hu hat
    obtain ⟨v₀, hv₀, hpath₀', hat₀'⟩ := hwork k v hv hat'
    exact h.alone j k u₀ v₀ hu₀ hv₀ hat₀ hat₀' (by rw [hpath₀, hpath₀', hpath])

variable (config served) in
/-- A handler that starts is neither at work nor done. -/
theorem openUpload_stage (given : TftpPacket × Endpoint) :
    ¬ (openUpload config served given).1.stage.AtWork ∧
      ∀ bytes, (openUpload config served given).1.stage ≠ .stored bytes := by
  unfold openUpload
  simp only
  split
  · exact ⟨id, by simp⟩
  · exact ⟨id, by simp⟩

/-- What a step of handler `k` leaves of the handlers. -/
def OnlyChanges (st st' : UploadState) (k : ℕ) (u' : Upload) : Prop :=
  ∀ (j : ℕ) (w : Upload), st'.tasks[j]? = some w → j = k ∧ w = u' ∨ j ≠ k ∧ st.tasks[j]? = some w

/-- A step that stores nothing leaves the stored ones as they were. -/
theorem OnlyChanges.stored_before {st st' : UploadState} {k : ℕ} {u' : Upload}
    (h : OnlyChanges st st' k u') (hstored : ∀ bytes, u'.stage ≠ .stored bytes) (j : ℕ) (w : Upload)
    (bytes : Bytes) (hw : st'.tasks[j]? = some w) (hstage : w.stage = .stored bytes) :
    st.tasks[j]? = some w := by
  rcases h j w hw with ⟨rfl, rfl⟩ | ⟨-, hold⟩
  · exact absurd hstage (hstored bytes)
  · exact hold

/-- Passing the check keeps the invariant when nobody else is at work on the file. -/
theorem StoreInv.passed {st st' : UploadState} {k : ℕ} {u u' : Upload} (h : StoreInv st)
    (hshared : st'.shared = st.shared) (hother : OnlyChanges st st' k u')
    (hpath : u'.path = u.path) (hstored : ∀ bytes, u'.stage ≠ .stored bytes)
    (hnone : st.shared u.path = none)
    (halone : ∀ (j : ℕ) (w : Upload), j ≠ k → st.tasks[j]? = some w → w.path = u.path →
      ¬ w.stage.AtWork) : StoreInv st' := by
  have hold := hother.stored_before hstored
  refine ⟨?_, ?_, ?_, ?_⟩
  · intro j w bytes hw hstage
    rw [hshared]
    exact h.kept j w bytes (hold j w bytes hw hstage) hstage
  · intro i j v w bytes bytes' hv hw hstage hstage'
    exact h.once i j v w bytes bytes' (hold i v bytes hv hstage) (hold j w bytes' hw hstage')
      hstage hstage'
  · intro j w hw hat
    rw [hshared]
    rcases hother j w hw with ⟨rfl, rfl⟩ | ⟨-, hw'⟩
    · rw [hpath]
      exact hnone
    · exact h.absent j w hw' hat
  · intro i j v w hv hw hat hat' hsame
    rcases hother i v hv with ⟨rfl, rfl⟩ | ⟨hi, hv'⟩
    · rcases hother j w hw with ⟨rfl, rfl⟩ | ⟨hj, hw'⟩
      · rfl
      · exact absurd hat' (halone j w hj hw' (hsame.symm.trans hpath))
    · rcases hother j w hw with ⟨rfl, rfl⟩ | ⟨hj, hw'⟩
      · exact absurd hat (halone i v hi hv' (hsame.trans hpath))
      · exact h.alone i j v w hv' hw' hat hat' hsame

/-- Writing the file keeps the invariant: it was not there, so no other handler has stored it. -/
theorem StoreInv.stored {st st' : UploadState} {k : ℕ} {u u' : Upload} {bytes : Bytes}
    (h : StoreInv st) (hk : st.tasks[k]? = some u) (hat : u.stage.AtWork)
    (hshared : st'.shared = Function.update st.shared u.path (some bytes))
    (hother : OnlyChanges st st' k u') (hpath : u'.path = u.path)
    (hstage : u'.stage = .stored bytes) : StoreInv st' := by
  have hnone := h.absent k u hk hat
  have hdiffer : ∀ (j : ℕ) (w : Upload) (bytes : Bytes), st.tasks[j]? = some w →
      w.stage = .stored bytes → w.path ≠ u.path := by
    intro j w bytes hw hstored hsame
    have hsome := h.kept j w bytes hw hstored
    rw [hsame, hnone] at hsome
    cases hsome
  have hdone : ¬ u'.stage.AtWork := by
    rw [hstage]
    exact id
  refine ⟨?_, ?_, ?_, ?_⟩
  · intro j w bytes' hw hstored
    rw [hshared]
    rcases hother j w hw with ⟨rfl, rfl⟩ | ⟨-, hw'⟩
    · cases hstage.symm.trans hstored
      rw [hpath, Function.update_self]
    · rw [Function.update_of_ne (hdiffer j w bytes' hw' hstored)]
      exact h.kept j w bytes' hw' hstored
  · intro i j v w b b' hv hw hstored hstored' hsame
    rcases hother i v hv with ⟨rfl, rfl⟩ | ⟨hi, hv'⟩
    · rcases hother j w hw with ⟨rfl, rfl⟩ | ⟨hj, hw'⟩
      · rfl
      · exact absurd (hsame.symm.trans hpath) (hdiffer j w b' hw' hstored')
    · rcases hother j w hw with ⟨rfl, rfl⟩ | ⟨hj, hw'⟩
      · exact absurd (hsame.trans hpath) (hdiffer i v b hv' hstored)
      · exact h.once i j v w b b' hv' hw' hstored hstored' hsame
  · intro j w hw hat'
    rw [hshared]
    rcases hother j w hw with ⟨rfl, rfl⟩ | ⟨hj, hw'⟩
    · exact absurd hat' hdone
    · rw [Function.update_of_ne fun hsame => hj (h.alone j k w u hw' hk hat' hat hsame)]
      exact h.absent j w hw' hat'
  · intro i j v w hv hw hatv hatw hsame
    rcases hother i v hv with ⟨rfl, rfl⟩ | ⟨hi, hv'⟩
    · exact absurd hatv hdone
    · rcases hother j w hw with ⟨rfl, rfl⟩ | ⟨hj, hw'⟩
      · exact absurd hatw hdone
      · exact h.alone i j v w hv' hw' hatv hatw hsame

/-- **One step keeps the invariant** when a handler that finds no file is alone. -/
theorem StoreInv.step {st st' : UploadState} {l : UploadLabel}
    (hreject : config.rejectOverwriteOnWriteRequest = true) (hone : OneAtWork st l)
    (h : StoreInv st) (hstep : Pool.step (uploadTasks config served) st l = some st') :
    StoreInv st' := by
  rcases Pool.step_cases hstep with ⟨given, -, hshared, htasks⟩ |
    ⟨k, action, u, u', sends, rfl, hk, hact, htasks⟩
  · obtain ⟨hwork, hstored⟩ := openUpload_stage config served given
    refine h.of_earlier hshared ?_ ?_
    · intro j w hw hat
      rw [htasks] at hw
      rcases Service.getElem?_open_cases hw with ⟨-, rfl⟩ | hold
      · exact absurd hat hwork
      · exact ⟨w, hold, rfl, hat⟩
    · intro j w bytes hw hstage
      rw [htasks] at hw
      rcases Service.getElem?_open_cases hw with ⟨-, rfl⟩ | hold
      · exact absurd hstage (hstored bytes)
      · exact hold
  · have hother : OnlyChanges st st' k u' := by
      intro j w hw
      rw [htasks] at hw
      exact Service.getElem?_set_cases hk hw
    have hmove : UploadMove config st.shared u action st'.shared u' := uploadMove_act hact
    generalize hfiles : st'.shared = files at hmove
    cases hmove with
    | worked hwork hpath hstored =>
        refine h.of_earlier hfiles (fun j w hw hat => ?_) (hother.stored_before hstored)
        rcases hother j w hw with ⟨rfl, rfl⟩ | ⟨-, hold⟩
        · exact ⟨u, hk, hpath.symm, hwork⟩
        · exact ⟨w, hold, rfl, hat⟩
    | ended hwork hpath hstored =>
        refine h.of_earlier hfiles (fun j w hw hat => ?_) (hother.stored_before hstored)
        rcases hother j w hw with ⟨rfl, rfl⟩ | ⟨-, hold⟩
        · exact absurd hat hwork
        · exact ⟨w, hold, rfl, hat⟩
    | passed hstage habsent =>
        have hnone := habsent hreject
        refine h.passed hfiles hother rfl (by simp) hnone fun j w hj hw => ?_
        exact hone u hk hstage hnone w (List.mem_eraseIdx_iff_getElem?.2 ⟨j, hj, hw⟩)
    | @stored bytes hstage =>
        have hat : u.stage.AtWork := by
          rw [hstage]
          trivial
        exact h.stored hk hat hfiles hother rfl rfl

/-- **A completed upload is never overwritten** in a run in which a handler that finds no file is
the only one at work on it. -/
theorem uploadsKept_of_oneAtWork (hreject : config.rejectOverwriteOnWriteRequest = true)
    {files : Files} {schedule : List UploadLabel}
    (hone : Pool.StepsMeet (uploadTasks config served) OneAtWork { shared := files } schedule) :
    UploadsKept config served files schedule := by
  rintro before after mid st rfl hmid hst k u bytes hk hstage
  obtain ⟨hbefore, hafter⟩ := hone.append hmid
  rw [Pool.run_append, hmid, Option.bind_some] at hst
  have hstart : StoreInv ({ shared := files } : UploadState) := by
    refine ⟨?_, ?_, ?_, ?_⟩ <;> simp
  have hinv : StoreInv mid := Pool.run_invariant
    (fun _ _ _ hone hinv hstep => hinv.step hreject hone hstep) hbefore hstart hmid
  have hinv' : StoreInv st := Pool.run_invariant
    (fun _ _ _ hone hinv hstep => hinv.step hreject hone hstep) hafter hinv hst
  have hdone : ∀ shared action, (uploadTasks config served).act shared u action = none := by
    intro shared action
    simp only [uploadTasks, uploadAct, hstage]
  have hk' := Pool.run_task hdone hk hst
  refine ⟨hinv'.kept k u bytes hk' hstage, ?_, ?_⟩
  · intro j v hj hv hpath bytes' hstored
    exact hj (hinv'.once j k v u bytes' bytes hv hk' hstored hstage hpath)
  · intro j v hv hpath haccepted
    have hsome : (mid.shared v.path).isSome = true := by
      rw [hpath, hinv.kept k u bytes hk hstage]
      rfl
    simp only [uploadAct, haccepted, hreject, hsome, and_self, if_true, refuseUpload]

/-- A WRQ of `f`. -/
def writeRequestOfF : TftpPacket :=
  { opcode := .writeRequest, filename := text "f", mode := text "octet" }

/-- Two clients that write `f`. -/
def firstWriter : Endpoint := ⟨false, [], 1⟩

def secondWriter : Endpoint := ⟨false, [], 2⟩

/-- The rest of an upload of one byte after its check. -/
def uploadByte (k : ℕ) (client : Endpoint) (byte : UInt8) : List UploadLabel :=
  [.act k .negotiate, .act k (.receive (.datagram client [0, 3, 0, 1, byte])),
    .act k (.receive .wouldBlock), .act k .writeFile]

/-- One upload, and a second one after it. -/
theorem uploadsKept_of_oneAtWork_in_turn :
    UploadsKept {} (lexicalDirectory (text "/") (text "/srv")) (fun _ => none)
      ([.start (writeRequestOfF, firstWriter), .act 0 .checkExists] ++
        uploadByte 0 firstWriter 7 ++
        [.start (writeRequestOfF, secondWriter), .act 1 .checkExists]) :=
  uploadsKept_of_oneAtWork rfl (by decide +kernel)

/-- **Two uploads that both make their check first**: the second to write replaces what the first
has written. -/
theorem upload_overwritten :
    ¬ UploadsKept {} (lexicalDirectory (text "/") (text "/srv")) (fun _ => none)
      ([.start (writeRequestOfF, firstWriter), .start (writeRequestOfF, secondWriter),
          .act 0 .checkExists, .act 1 .checkExists] ++ uploadByte 0 firstWriter 7 ++
        uploadByte 1 secondWriter 8) := by
  intro h
  set tasks := uploadTasks {} (lexicalDirectory (text "/") (text "/srv")) with htasks
  set before : List UploadLabel :=
    [.start (writeRequestOfF, firstWriter), .start (writeRequestOfF, secondWriter),
      .act 0 .checkExists, .act 1 .checkExists] ++ uploadByte 0 firstWriter 7 with hbefore
  obtain ⟨mid, hmid⟩ : ∃ mid, Pool.run tasks { shared := fun _ => none } before = some mid :=
    Option.isSome_iff_exists.1 (by decide +kernel)
  obtain ⟨st, hst⟩ : ∃ st, Pool.run tasks { shared := fun _ => none }
      (before ++ uploadByte 1 secondWriter 8) = some st :=
    Option.isSome_iff_exists.1 (by decide +kernel)
  have hfirst : (Pool.run tasks { shared := fun _ => none } before).bind
      (fun st => st.tasks[0]?.map fun u => (u.path, u.stage)) =
        some (text "/srv/f", .stored [7]) := by decide +kernel
  have hlast : (Pool.run tasks { shared := fun _ => none }
      (before ++ uploadByte 1 secondWriter 8)).map (fun st => st.shared (text "/srv/f")) =
        some (some [8]) := by decide +kernel
  rw [hmid, Option.bind_some] at hfirst
  rw [hst, Option.map_some] at hlast
  obtain ⟨u, hu, heq⟩ := Option.map_eq_some_iff.1 hfirst
  obtain ⟨hpath, hstage⟩ := Prod.mk.inj heq
  have hkept := (h before (uploadByte 1 secondWriter 8) mid st rfl hmid hst 0 u [7] hu hstage).1
  rw [hpath, Option.some.inj hlast] at hkept
  exact absurd hkept (by decide)

end Runs

end TftpHarness
