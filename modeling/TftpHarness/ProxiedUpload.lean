/-
**Uploading through the impairment proxy.**

A WRQ that is repeated before the first reply opens several handlers, and each of them offers to
receive the file.  The client takes what they say for the answers of one server; its blocks reach
the one handler the proxy is locked onto.  So the handlers behind it receive nothing: whatever they
say, the handler in front may have said itself, and no two of them ever write the file.

A handler that is opened when the file has been stored may refuse the request, where the others did
not.  That is too late to come to the front: the file is stored by the handler in front only.

As without a proxy, an ACK 0 that overtakes the OACK makes the client send blocks of the default
size.  An upload is safe when the negotiated block size frames the payload as the default one does.

Main definitions:

* `TftpHarness.proxiedUploadStart` — the start of an upload on the bench;
* `TftpHarness.UploadBench`, `TftpHarness.uploadTransfer` — what holds of the client, the handlers
  and the files, and the upload as a transfer over the bench.

Main results:

* `TftpHarness.UploadBench.front_sends` — what any handler sends, the one in front may have sent;
* `TftpHarness.uploadTransfer_lawful` — every reaction of the two ends keeps what holds;
* `TftpHarness.proxied_upload_safety` — **an upload through a proxy that drops, repeats, delays and
  reorders, but corrupts nothing, is stored whole, once, and for good**.
-/

import TftpHarness.BenchTransfer
import TftpHarness.Upload

set_option relaxedAutoImplicit false
set_option autoImplicit false

namespace TftpHarness

/-! ### The invariant -/

section Invariant

variable (call : ClientCall) (payload : Bytes) (sc : EngineConfig) (served : ServedDirectory)
  (files : Files) (addresses : BenchAddresses)

/-- The bench when the client has sent its first WRQ to the proxy. -/
def proxiedUploadStart (config : ProxyConfig) (clock : ℕ → ℤ) :
    Network.State (BenchState (ClientPhase SenderState)) Endpoint Bytes where
  parties :=
    { client := (writeFileStart call payload).1
      proxy := proxyStart config (addresses.environment clock)
      sessions := []
      files := files }
  network := Service.sendsFrom (addresses.address .client) (writeFileStart call payload).2

/-- A handler that receives the upload, with its receiver at `r`. -/
abbrev BenchWriter (h : Handler) (r : ReceiverState) : Prop :=
  Writer call payload sc addresses.relaySocket h r

/-- The listener refuses the request when the files are as they were. -/
def UploadRefused : Prop :=
  ∃ h sends, acceptRequest sc served files addresses.relaySocket
    (writeRequestDatagram call payload) = some (h, sends) ∧ h.phase = .returned

/-- **What holds of the client, the proxy, the handlers and the files together.** -/
structure UploadBench (c : ClientPhase SenderState) (front : Option Endpoint)
    (sessions : List Handler) (shared : Files) : Prop where
  handlers : ∀ (k : ℕ) h, sessions[k]? = some h →
    (∃ r, BenchWriter call payload sc addresses h r ∧
      resolveServedPath served call.remoteFilename = some h.path) ∨ h.phase = .returned
  /-- A handler that is not in front has received nothing. -/
  behind : ∀ (k : ℕ) h r, sessions[k]? = some h → BenchWriter call payload sc addresses h r →
    front ≠ some (addresses.address (.session k)) → r.Fresh h.params
  unlocked : front = none → c.locked = none
  ahead : ∀ e, front = some e → ∃ (k : ℕ) (h : Handler), e = addresses.address (.session k) ∧
    sessions[k]? = some h ∧
      UploadAgreement call payload sc addresses.relaySocket addresses.frontAddress c [h]
  /-- As long as no handler that receives the upload is in front, nothing is written, and the
  handlers are all refused or none is. -/
  idle : (∀ (k : ℕ) h, front = some (addresses.address (.session k)) → sessions[k]? = some h →
      h.phase = .returned) → shared = files ∧ ∀ (k : ℕ) h, sessions[k]? = some h →
        (h.phase = .returned ↔ UploadRefused call payload sc served files addresses)
  shared_cases : ∀ path, shared path = files path ∨
    resolveServedPath served call.remoteFilename = some path ∧
      shared path = some (decodeForMode (modeIsNetascii call.mode) payload)
  /-- What a handler has stored stays. -/
  stored : ∀ (k : ℕ) h r, sessions[k]? = some h → BenchWriter call payload sc addresses h r →
    r.phase = .returned → r.outcome.completedSuccessfully = true →
      shared h.path = some (decodeForMode (modeIsNetascii call.mode) payload)
  reported : ∀ outcome, c.outcome = some outcome → outcome.completedSuccessfully = true →
    ∃ peer params s, c.locked = some (peer, params, s) ∧ s.outcome.completedSuccessfully = true

/-- **An upload as a transfer over the bench.** -/
def uploadTransfer : BenchTransfer (ClientPhase SenderState) where
  request := writeRequestDatagram call payload
  Agrees c front sessions shared :=
    UploadBench call payload sc served files addresses c front sessions shared
  ClientSends c bytes := WriteClientSends payload c (addresses.address (.proxy .listen)) bytes
  HandlerSends h bytes := WriterSends call payload sc addresses.relaySocket h bytes

end Invariant

section Steps

variable {call : ClientCall} {payload : Bytes} {sc : EngineConfig} {served : ServedDirectory}
  {files : Files} {addresses : BenchAddresses}

/-! ### The handler in front -/

/-- The handler in front has moved on, and agrees with the client as before. -/
theorem UploadAgreement.front_step {c : ClientPhase SenderState} {client : Endpoint}
    {address : ℕ → Endpoint} {h h' : Handler}
    (hagree : UploadAgreement call payload sc client address c [h]) {r' : ReceiverState}
    (hw : Writer call payload sc client h' r')
    (hp : Partnered call payload c (address 0) h' r') :
    UploadAgreement call payload sc client address c [h'] := by
  refine ⟨?_, ?_⟩
  · intro j g q hj hq
    obtain ⟨rfl, rfl⟩ := eq_of_getElem?_singleton hj
    cases hw.unique hq
    exact hp
  · intro peer params s hlocked
    obtain ⟨j, g, q, hj, -, hpeer⟩ := hagree.peer peer params s hlocked
    obtain ⟨rfl, rfl⟩ := eq_of_getElem?_singleton hj
    exact ⟨0, h', r', rfl, hw, hpeer⟩

/-- A handler sends no empty datagram. -/
theorem WriterSends.ne_nil {client : Endpoint} {h : Handler} {bytes : Bytes}
    (hsends : WriterSends call payload sc client h bytes) : bytes ≠ [] := by
  rcases hsends with ⟨hne, -⟩ | ⟨r, -, ⟨-, rfl⟩ | ⟨a, -, rfl⟩⟩
  · exact hne
  · simp [serializeOptionAcknowledgement, bytesOfU16]
  · simp [ackDatagram, serializeAcknowledgement, bytesOfU16]

/-- A receiver that has accepted nothing has not completed anything. -/
theorem ReceiverState.Fresh.not_completed {params : NegotiatedParameters} {r : ReceiverState}
    (h : r.Fresh params) (hphase : r.phase = .returned) :
    r.outcome.completedSuccessfully = false := by
  have hfinal := h.gotFinal
  simp only [ReceiverState.gotFinal, hphase] at hfinal
  exact hfinal

section Front

variable {c c' : ClientPhase SenderState} {front : Option Endpoint} {sessions : List Handler}
  {shared : Files}
  (hold : UploadBench call payload sc served files addresses c front sessions shared)

include hold

/-- **What any handler sends, the handler in front may have sent.** -/
theorem UploadBench.front_sends {j k : ℕ} {g h : Handler} (hj : sessions[j]? = some g)
    (hk : sessions[k]? = some h) (hfront : front = some (addresses.address (.session k)))
    {bytes : Bytes} (hsends : WriterSends call payload sc addresses.relaySocket g bytes) :
    WriterSends call payload sc addresses.relaySocket h bytes := by
  rcases hsends with herr | ⟨r, hg, hbytes⟩
  · exact Or.inl herr
  · rcases hold.handlers k h hk with ⟨q, hh, -⟩ | hreturned
    · have hoack : h.oackOptions = g.oackOptions :=
        congrArg Prod.fst (hh.negotiated_eq.symm.trans hg.negotiated_eq)
      refine Or.inr ⟨q, hh, ?_⟩
      rcases hbytes with ⟨hne, hbytes⟩ | ⟨a, ha, hbytes⟩
      · exact Or.inl ⟨hoack ▸ hne, hoack ▸ hbytes⟩
      · by_cases hjk : j = k
        · subst hjk
          cases Option.some.inj (hj.symm.trans hk)
          cases hh.unique hg
          exact Or.inr ⟨a, ha, hbytes⟩
        · -- another handler has received nothing, so it acknowledges nothing
          have hother : front ≠ some (addresses.address (.session j)) := by
            rw [hfront]
            intro heq
            exact hjk (BenchParty.session.inj (addresses.injective (Option.some.inj heq))).symm
          rw [(hold.behind j g r hj hg hother).lastInSequence] at ha
          exact Or.inr ⟨a, le_trans ha (Nat.zero_le _), hbytes⟩
    · -- a refused handler in front has refused neighbours only
      obtain ⟨-, hrefused⟩ := hold.idle fun i f hi hf => by
        cases BenchParty.session.inj (addresses.injective (Option.some.inj (hi.symm.trans hfront)))
        cases Option.some.inj (hk.symm.trans hf)
        exact hreturned
      have hphase := (hrefused j g hj).2 ((hrefused k h hk).1 hreturned)
      exact absurd (hphase.symm.trans hg.phase_eq) (by simp)

theorem UploadBench.visible : ∃ visible, InFront addresses front sessions visible ∧
    UploadAgreement call payload sc addresses.relaySocket addresses.frontAddress c visible := by
  cases hfront : front with
  | some e =>
      obtain ⟨k, h, rfl, hk, hvisible⟩ := hold.ahead e hfront
      exact ⟨[h], Or.inr ⟨k, h, rfl, hk, rfl⟩, hvisible⟩
  | none =>
      have hunlocked := hold.unlocked hfront
      refine ⟨[], Or.inl ⟨rfl, rfl⟩, by simp, fun peer params s heq => ?_⟩
      exact absurd (hunlocked.symm.trans heq) (by simp)

/-- A client that agrees with the handler in front agrees with the bench. -/
theorem UploadBench.client {visible : List Handler}
    (hvisible : InFront addresses front sessions visible)
    (hagree : UploadAgreement call payload sc addresses.relaySocket addresses.frontAddress c'
      visible)
    (hreported : ∀ outcome, c'.outcome = some outcome → outcome.completedSuccessfully = true →
      ∃ peer params s, c'.locked = some (peer, params, s) ∧
        s.outcome.completedSuccessfully = true) :
    UploadBench call payload sc served files addresses c' front sessions shared := by
  refine ⟨hold.handlers, hold.behind, fun hnone => ?_, fun e he => ?_, hold.idle,
    hold.shared_cases, hold.stored, hreported⟩
  · rcases hvisible with ⟨-, rfl⟩ | ⟨k, h, hsome, -, -⟩
    · cases hlocked : c'.locked with
      | none => rfl
      | some locked =>
          obtain ⟨k, h, r, hk, -⟩ := hagree.peer _ _ _ hlocked
          exact absurd hk (by simp)
    · exact absurd (hnone.symm.trans hsome) (by simp)
  · rcases hvisible with ⟨hnone, -⟩ | ⟨k, h, hsome, hk, rfl⟩
    · exact absurd (hnone.symm.trans he) (by simp)
    · exact ⟨k, h, Option.some.inj (he.symm.trans hsome), hk, hagree⟩

/-- The client is locked onto the listen socket of the proxy, and the proxy onto a handler that
receives the upload. -/
theorem UploadBench.lockedOnto {peer : Endpoint} {params : NegotiatedParameters} {s : SenderState}
    (hlocked : c.locked = some (peer, params, s)) :
    peer = addresses.address (.proxy .listen) ∧ ∃ (k : ℕ) (h : Handler) (r : ReceiverState),
      sessions[k]? = some h ∧ front = some (addresses.address (.session k)) ∧
        BenchWriter call payload sc addresses h r ∧ Framed payload params h.params ∧
          payload.length / params.blockSize + 1 ≤ 65535 ∧
            Safe payload params h.params call.config s r := by
  obtain ⟨visible, hvisible, hagree⟩ := hold.visible
  obtain ⟨j, g, r, hj, hw, hpeer⟩ := hagree.peer _ _ _ hlocked
  rcases hvisible with ⟨-, rfl⟩ | ⟨k, h, hsome, hk, rfl⟩
  · exact absurd hj (by simp)
  · obtain ⟨rfl, rfl⟩ := eq_of_getElem?_singleton hj
    subst hpeer
    exact ⟨rfl, k, g, r, hk, hsome, hw, (hagree.partnered 0 g r rfl hw).locked params s hlocked⟩

/-- **A receiver past its loop is in front, and holds the whole payload.** -/
theorem UploadBench.whole (homit : call.config.quirks.omitTerminatingEmptyBlock = false) {k : ℕ}
    {h : Handler} {r : ReceiverState} (hk : sessions[k]? = some h)
    (hw : BenchWriter call payload sc addresses h r) (hfinal : r.gotFinal = true) :
    front = some (addresses.address (.session k)) ∧ r.sink = payload := by
  by_cases hfront : front = some (addresses.address (.session k))
  · obtain ⟨j, g, heq, hj, hagree⟩ := hold.ahead _ hfront
    cases BenchParty.session.inj (addresses.injective heq)
    cases Option.some.inj (hk.symm.trans hj)
    exact ⟨hfront, @UploadAgreement.whole call payload sc _ _ homit c [h] hagree 0 h r rfl hw
      hfinal⟩
  · exact absurd ((hold.behind k h r hk hw hfront).gotFinal.symm.trans hfinal) (by decide)

end Front

/-! ### Reactions -/

/-- A handler whose receiver has returned does not move. -/
theorem handlerReceive_returned {h : Handler} {r : ReceiverState} (hphase : h.phase = .receiving r)
    (hreturned : r.phase = .returned) (shared : Files) (event : SocketEvent) :
    (handlerReceive sc shared h event).2.1.phase = .receiving r := by
  simp [handlerReceive, hphase, PeerLoop.onEvent, dataReceiver, hreturned]

/-- A receiver that has accepted nothing stores nothing. -/
theorem storeUpload_fresh {params : NegotiatedParameters} {r' : ReceiverState}
    (hfresh : r'.Fresh params) (h : Handler) (shared : Files) (r : ReceiverState) :
    storeUpload h shared r r' = shared := by
  unfold storeUpload
  split
  · next hdone => exact absurd (hfresh.not_completed hdone.2.1) (by simp [hdone.2.2])
  · rfl

section Reactions

variable {c : ClientPhase SenderState} {front : Option Endpoint} {sessions : List Handler}
  {shared : Files}
  (hold : UploadBench call payload sc served files addresses c front sessions shared)

include hold

/-- The handler that answers first comes to the front; the client is still in its handshake. -/
theorem UploadBench.locks {k : ℕ} {h : Handler} (hnone : front = none)
    (hk : sessions[k]? = some h) :
    UploadBench call payload sc served files addresses c
      (some (addresses.address (.session k))) sessions shared := by
  subst hnone
  have hunlocked := hold.unlocked rfl
  refine ⟨hold.handlers, fun j g r hj hw _ => hold.behind j g r hj hw (by simp),
    fun hnone => absurd hnone (by simp), fun e he => ?_, fun _ => hold.idle (by simp),
    hold.shared_cases, hold.stored, hold.reported⟩
  cases Option.some.inj he
  refine ⟨k, h, rfl, hk, ?_, ?_⟩
  · intro j g r hj hw
    obtain ⟨rfl, rfl⟩ := eq_of_getElem?_singleton hj
    have hfresh := hold.behind k g r hk hw (by simp)
    exact ⟨fun params s heq => absurd (hunlocked.symm.trans heq) (by simp), fun _ => hfresh⟩
  · intro peer params s heq
    exact absurd (hunlocked.symm.trans heq) (by simp)

/-- **What a handler hears**: the one in front the client, any other nobody.  `P` is what its
receiver satisfies. -/
theorem UploadBench.hears (homit : call.config.quirks.omitTerminatingEmptyBlock = false)
    (hskip : sc.quirks.acceptOutOfSequenceData = false)
    (hname : (0 : UInt8) ∉ call.remoteFilename) (hmode : (0 : UInt8) ∉ call.mode) {k : ℕ}
    {h : Handler} {r : ReceiverState} (hk : sessions[k]? = some h)
    (hw : BenchWriter call payload sc addresses h r) {event : SocketEvent}
    (hevent : ∀ bytes, event = .datagram addresses.relaySocket bytes →
      front = some (addresses.address (.session k)) ∧
        (uploadTransfer call payload sc served files addresses).ClientSays c front bytes) :
    ∃ P : ReceiverState → Prop, P r ∧
      (∀ status, (∀ packet, status = .gotPacket packet → ∃ bytes,
          event = .datagram addresses.relaySocket bytes ∧ parseDatagram bytes = .ok packet) →
        P (receiverReceive h.params sc r status).1 ∧
          r.lastInSequence ≤ (receiverReceive h.params sc r status).1.lastInSequence ∧
          ∀ a ∈ (receiverReceive h.params sc r status).2,
            a = (receiverReceive h.params sc r status).1.lastInSequence) ∧
      (front = some (addresses.address (.session k)) → ∀ q, P q →
        Partnered call payload c (addresses.frontAddress 0) h q) ∧
      (front ≠ some (addresses.address (.session k)) → ∀ q, P q → q.Fresh h.params) := by
  by_cases hfront : front = some (addresses.address (.session k))
  · obtain ⟨j, g, heq, hj, hagree⟩ := hold.ahead _ hfront
    cases BenchParty.session.inj (addresses.injective heq)
    cases Option.some.inj (hk.symm.trans hj)
    have hpartnered := hagree.partnered 0 h r rfl hw
    refine ⟨Partnered call payload c (addresses.frontAddress 0) h, hpartnered, ?_,
      fun _ _ => id, fun hne => absurd hfront hne⟩
    intro status hpeer
    refine hpartnered.receive homit hskip hw.window_le fun packet hgot hop => ?_
    obtain ⟨bytes, hdatagram, hparse⟩ := hpeer packet hgot
    rcases (hevent bytes hdatagram).2 with rfl | ⟨-, hsent⟩
    · cases Except.ok.inj (hparse.symm.trans (parse_writeRequestDatagram hname hmode))
      exact absurd hop (by simp [writeRequestPacket])
    · exact ⟨bytes, hsent, hparse⟩
  · have hfresh := hold.behind k h r hk hw hfront
    refine ⟨fun q => q.Fresh h.params, hfresh, ?_, fun heq => absurd heq hfront, fun _ _ => id⟩
    intro status hpeer
    refine hfresh.receive hskip hw.window_le fun packet hgot => ?_
    obtain ⟨bytes, hdatagram, -⟩ := hpeer packet hgot
    exact absurd (hevent bytes hdatagram).1 hfront

/-- A handler that has moved on, in front or not. -/
theorem UploadBench.session (homit : call.config.quirks.omitTerminatingEmptyBlock = false) {k : ℕ}
    {h h' : Handler} {r r' : ReceiverState} (hk : sessions[k]? = some h)
    (hw : BenchWriter call payload sc addresses h r)
    (hw' : BenchWriter call payload sc addresses h' r') (hparams : h'.params = h.params)
    (hpath : h'.path = h.path) (hstill : r.phase = .returned → r' = r)
    (hahead : front = some (addresses.address (.session k)) →
      Partnered call payload c (addresses.frontAddress 0) h' r')
    (hbehind : front ≠ some (addresses.address (.session k)) → r'.Fresh h'.params) :
    UploadBench call payload sc served files addresses c front (sessions.set k h')
      (storeUpload h shared r r') := by
  have hself : (sessions.set k h')[k]? = some h' :=
    List.getElem?_set_self (List.getElem?_eq_some_iff.1 hk).1
  have hfront : ∀ e, front = some e → ∃ (j : ℕ) (g : Handler),
      e = addresses.address (.session j) ∧ (sessions.set k h')[j]? = some g ∧
        UploadAgreement call payload sc addresses.relaySocket addresses.frontAddress c [g] := by
    intro e he
    obtain ⟨j, g, rfl, hj, hagree⟩ := hold.ahead e he
    by_cases hjk : j = k
    · subst hjk
      cases Option.some.inj (hk.symm.trans hj)
      exact ⟨j, h', rfl, hself, hagree.front_step hw' (hahead he)⟩
    · exact ⟨j, g, rfl, by rw [List.getElem?_set_ne (Ne.symm hjk)]; exact hj, hagree⟩
  have hresolved : resolveServedPath served call.remoteFilename = some h.path := by
    rcases hold.handlers k h hk with ⟨q, -, hresolved⟩ | hreturned
    · exact hresolved
    · exact absurd (hreturned.symm.trans hw.phase_eq) (by simp)
  -- what is stored is the payload, and it is stored by the handler in front
  have hwhole : r'.gotFinal = true →
      front = some (addresses.address (.session k)) ∧ r'.sink = payload := by
    intro hfinal
    by_cases hlocked : front = some (addresses.address (.session k))
    · obtain ⟨j, g, heq, hj, hagree⟩ := hfront _ hlocked
      cases BenchParty.session.inj (addresses.injective heq)
      cases Option.some.inj (hself.symm.trans hj)
      exact ⟨hlocked, @UploadAgreement.whole call payload sc _ _ homit c [h'] hagree 0 h' r' rfl hw'
        hfinal⟩
    · exact absurd ((hbehind hlocked).gotFinal.symm.trans hfinal) (by decide)
  refine ⟨?_, ?_, hold.unlocked, hfront, ?_, ?_, ?_, hold.reported⟩
  · intro j g hj
    rcases Service.getElem?_set_cases hk hj with ⟨rfl, rfl⟩ | ⟨-, hj⟩
    · exact Or.inl ⟨r', hw', hresolved.trans (by rw [hpath])⟩
    · exact hold.handlers j g hj
  · intro j g q hj hq hother
    rcases Service.getElem?_set_cases hk hj with ⟨rfl, rfl⟩ | ⟨-, hj⟩
    · cases hw'.unique hq
      exact hbehind hother
    · exact hold.behind j g q hj hq hother
  · intro hidle
    have hother : front ≠ some (addresses.address (.session k)) := by
      intro heq
      exact absurd ((hidle k h' heq hself).symm.trans hw'.phase_eq) (by simp)
    obtain ⟨hsame, hrefused⟩ := hold.idle fun j g hj hg => by
      have hjk : j ≠ k := by
        rintro rfl
        exact hother hj
      exact hidle j g hj (by rw [List.getElem?_set_ne (Ne.symm hjk)]; exact hg)
    refine ⟨(storeUpload_fresh (hbehind hother) h shared r).trans hsame, fun j g hj => ?_⟩
    rcases Service.getElem?_set_cases hk hj with ⟨rfl, rfl⟩ | ⟨-, hj⟩
    · rw [← hrefused j h hk, hw.phase_eq, hw'.phase_eq]
      simp
    · exact hrefused j g hj
  · intro path
    rcases storeUpload_cases h shared r r' path with hsame | ⟨hfinal, hwritten⟩
    · rw [hsame]
      exact hold.shared_cases path
    · by_cases heq : path = h.path
      · subst heq
        refine Or.inr ⟨hresolved, ?_⟩
        rw [hwritten, hw.netascii_eq, (hwhole hfinal).2]
      · rw [storeUpload_other (Ne.symm heq)]
        exact hold.shared_cases path
  · intro j g q hj hq hphase hdone
    rcases Service.getElem?_set_cases hk hj with ⟨rfl, rfl⟩ | ⟨hjk, hj⟩
    · cases hw'.unique hq
      by_cases hreturned : r.phase = .returned
      · cases hstill hreturned
        rw [storeUpload, if_neg (fun hnow => hnow.1 hreturned), hpath]
        exact hold.stored j h r hk hw hphase hdone
      · have hfinal : r'.gotFinal = true := by
          simp only [ReceiverState.gotFinal, hphase]
          exact hdone
        rw [storeUpload, if_pos ⟨hreturned, hphase, hdone⟩, hpath, Function.update_self,
          hw.netascii_eq, (hwhole hfinal).2]
    · -- the handler that has stored the file is in front, so this one stores nothing
      have hfinal : q.gotFinal = true := by
        simp only [ReceiverState.gotFinal, hphase]
        exact hdone
      have hother : front ≠ some (addresses.address (.session k)) := by
        rw [(hold.whole homit hj hq hfinal).1]
        intro heq
        exact hjk (BenchParty.session.inj (addresses.injective (Option.some.inj heq)))
      rw [storeUpload_fresh (hbehind hother) h shared r]
      exact hold.stored j g q hj hq hphase hdone

/-- **A reaction of the client**: for it the server is the handler in front. -/
theorem UploadBench.writeFile (hb : 1 ≤ sc.defaultBlockSize)
    (hdefault : call.config.defaultBlockSize = sc.defaultBlockSize)
    (homit : call.config.quirks.omitTerminatingEmptyBlock = false)
    (hdup : call.config.quirks.retransmitOnDuplicateAck = false)
    (hfits : UploadFits call payload sc)
    (halike : FramesAlike payload.length call.config.defaultBlockSize
      (writeNegotiated call payload sc).2.blockSize)
    (hlisten : call.serverEndpoint = addresses.address (.proxy .listen))
    {event : Option (Endpoint × Bytes)}
    (hevent : ∀ sender bytes, event = some (sender, bytes) →
      sender = addresses.address (.proxy .listen) ∧ front ≠ none ∧
        ∃ (k : ℕ) (h : Handler), sessions[k]? = some h ∧
          WriterSends call payload sc addresses.relaySocket h bytes) :
    UploadBench call payload sc served files addresses
        (writeFileReceive call payload c (eventOf event)).1 front sessions shared ∧
      (∀ bytes, WriteClientSends payload c (addresses.address (.proxy .listen)) bytes →
        WriteClientSends payload (writeFileReceive call payload c (eventOf event)).1
          (addresses.address (.proxy .listen)) bytes) ∧
      ∀ send ∈ (writeFileReceive call payload c (eventOf event)).2,
        send.1 = addresses.address (.proxy .listen) ∧
          (send.2 = writeRequestDatagram call payload ∨ front ≠ none ∧
            WriteClientSends payload (writeFileReceive call payload c (eventOf event)).1
              (addresses.address (.proxy .listen)) send.2) := by
  obtain ⟨visible, hvisible, hagree⟩ := hold.visible
  have hheard : ∀ sender bytes, eventOf event = .datagram sender bytes →
      ∃ k h, sender = addresses.frontAddress k ∧ visible[k]? = some h ∧
        WriterSends call payload sc addresses.relaySocket h bytes := by
    intro sender bytes heq
    obtain ⟨hsender, hlocked, j, g, hj, hsends⟩ := hevent _ _ (eventOf_eq_datagram.1 heq)
    rcases hvisible with ⟨hnone, -⟩ | ⟨k, h, hsome, hk, rfl⟩
    · exact absurd hnone hlocked
    · exact ⟨0, h, hsender, rfl, hold.front_sends hj hk hsome hsends⟩
  have hstep := @writeFileReceive_step call payload sc addresses.relaySocket
    addresses.frontAddress c visible (frontAddress_injective addresses) homit hagree hb hdefault
    hdup hfits (eventOf event) hheard (by
      -- an ACK comes from a handler with the negotiated parameters
      intro attempt packet k h bytes _ heq hparse hop _ hk
      obtain ⟨j, g, hsender, hj, hsends⟩ := hheard _ _ heq
      cases frontAddress_injective addresses _ _ hsender
      cases Option.some.inj (hk.symm.trans hj)
      obtain ⟨packet', hparse', herr | ⟨r, hw, -⟩⟩ := hsends.parse
      · cases Except.ok.inj (hparse.symm.trans hparse')
        exact absurd (herr.symm.trans hop) (by simp)
      · rw [hw.negotiated_eq] at halike
        exact halike)
  have htargets := @writeFileReceive_targets call payload c (eventOf event)
  have hreported := @writeFile_reported call payload c hold.reported (eventOf event)
  generalize writeFileReceive call payload c (eventOf event) = reacted at hstep htargets hreported ⊢
  refine ⟨hold.client hvisible hstep.agreement hreported,
    fun bytes hsent => hsent.mono fun params s => hstep.moves _ params s, fun send hmem => ?_⟩
  -- to the proxy in any case: the request, or an answer to what the proxy has handed on
  have hrequest : send = (call.serverEndpoint, writeRequestDatagram call payload) →
      send.1 = addresses.address (.proxy .listen) ∧
        (send.2 = writeRequestDatagram call payload ∨ front ≠ none ∧
          WriteClientSends payload reacted.1 (addresses.address (.proxy .listen)) send.2) := by
    rintro rfl
    exact ⟨hlisten, Or.inl rfl⟩
  have hanswer : send.1 = addresses.address (.proxy .listen) → front ≠ none →
      send.1 = addresses.address (.proxy .listen) ∧
        (send.2 = writeRequestDatagram call payload ∨ front ≠ none ∧
          WriteClientSends payload reacted.1 (addresses.address (.proxy .listen)) send.2) := by
    intro htarget hlocked
    rcases hstep.sends _ hmem with hsend | ⟨k, hk, hsent⟩
    · exact hrequest hsend
    · have hzero : addresses.frontAddress k = addresses.frontAddress 0 := hk.symm.trans htarget
      rw [hzero] at hsent
      exact ⟨htarget, Or.inr ⟨hlocked, hsent⟩⟩
  rcases htargets _ hmem with hsend | ⟨params, s, hlocked⟩ | ⟨bytes, hdatagram⟩
  · exact hrequest hsend
  · obtain ⟨hpeer, k, h, r, -, hfront, -⟩ := hold.lockedOnto hlocked
    exact hanswer hpeer (by rw [hfront]; exact Option.some_ne_none _)
  · obtain ⟨hsender, hfront, -⟩ := hevent _ _ (eventOf_eq_datagram.1 hdatagram)
    exact hanswer hsender hfront

/-- **A reaction of a handler**: only the one in front ever hears the client. -/
theorem UploadBench.handler (homit : call.config.quirks.omitTerminatingEmptyBlock = false)
    (hskip : sc.quirks.acceptOutOfSequenceData = false)
    (hname : (0 : UInt8) ∉ call.remoteFilename) (hmode : (0 : UInt8) ∉ call.mode) {k : ℕ}
    {h : Handler} (hk : sessions[k]? = some h) {event : Option (Endpoint × Bytes)}
    (hevent : ∀ sender bytes, event = some (sender, bytes) →
      sender = addresses.relaySocket ∧ front = some (addresses.address (.session k)) ∧
        (uploadTransfer call payload sc served files addresses).ClientSays c front bytes) :
    UploadBench call payload sc served files addresses c front
        (sessions.set k (handlerReceive sc shared h (eventOf event)).2.1)
        (handlerReceive sc shared h (eventOf event)).1 ∧
      (∀ bytes, WriterSends call payload sc addresses.relaySocket h bytes →
        WriterSends call payload sc addresses.relaySocket
          (handlerReceive sc shared h (eventOf event)).2.1 bytes) ∧
      ∀ send ∈ (handlerReceive sc shared h (eventOf event)).2.2,
        send.1 = addresses.relaySocket ∧ WriterSends call payload sc addresses.relaySocket
          (handlerReceive sc shared h (eventOf event)).2.1 send.2 := by
  rcases hold.handlers k h hk with ⟨r, hw, -⟩ | hphase
  · obtain ⟨P, hP, hreact, hahead, hbehind⟩ := hold.hears homit hskip hname hmode hk hw
      fun bytes heq => (hevent _ bytes (eventOf_eq_datagram.1 heq)).2
    obtain ⟨r', hstore, hstep⟩ := @writer_receive call payload sc addresses.relaySocket P h r hw hP
      (eventOf event) (fun sender bytes heq => (hevent _ _ (eventOf_eq_datagram.1 heq)).1) hreact
      shared
    have hpath : (handlerReceive sc shared h (eventOf event)).2.1.path = h.path := by
      simp only [handlerReceive, hw.phase_eq]
    have hstill : r.phase = .returned → r' = r := fun hreturned =>
      HandlerPhase.receiving.inj (hstep.writer.phase_eq.symm.trans
        (handlerReceive_returned hw.phase_eq hreturned shared (eventOf event)))
    rw [hstore]
    refine ⟨hold.session homit hk hw hstep.writer hstep.params_eq hpath hstill (fun hfront => ?_)
      fun hfront => ?_, fun bytes => hstep.sends_mono hw, hstep.sends⟩
    · have hpartnered := hahead hfront r' hstep.keeps
      refine ⟨?_, ?_⟩
      · rw [hstep.params_eq]
        exact hpartnered.locked
      · rw [hstep.params_eq]
        exact hpartnered.unlocked
    · rw [hstep.params_eq]
      exact hbehind hfront r' hstep.keeps
  · -- a handler that has refused the request
    have hstill : handlerReceive sc shared h (eventOf event) = (shared, h, []) := by
      simp only [handlerReceive, hphase]
    obtain ⟨hlt, rfl⟩ := List.getElem?_eq_some_iff.1 hk
    rw [hstill, List.set_getElem_self]
    exact ⟨hold, fun _ => id, fun send hmem => absurd hmem List.not_mem_nil⟩

/-- **The listener**: a copy of the request opens a handler behind the one in front. -/
theorem UploadBench.accept (hname : (0 : UInt8) ∉ call.remoteFilename)
    (hmode : (0 : UInt8) ∉ call.mode) {h : Handler} {sends : List (Endpoint × Bytes)}
    (haccept : acceptRequest sc served shared addresses.relaySocket
      (writeRequestDatagram call payload) = some (h, sends)) :
    UploadBench call payload sc served files addresses c front (sessions ++ [h]) shared ∧
      ∀ send ∈ sends, send.1 = addresses.relaySocket ∧
        WriterSends call payload sc addresses.relaySocket h send.2 := by
  have hopened := writer_accept hname hmode haccept
  have hlt : ∀ {j : ℕ}, front = some (addresses.address (.session j)) → j < sessions.length := by
    intro j hfront
    obtain ⟨k, g, heq, hk, -⟩ := hold.ahead _ hfront
    cases BenchParty.session.inj (addresses.injective heq)
    exact (List.getElem?_eq_some_iff.1 hk).1
  refine ⟨⟨?_, ?_, hold.unlocked, ?_, ?_, hold.shared_cases, ?_, hold.reported⟩, ?_⟩
  · intro j g hj
    rcases Service.getElem?_open_cases hj with ⟨rfl, rfl⟩ | hj
    · rcases hopened with ⟨hphase, -⟩ | ⟨r, hw, -, -⟩
      · exact Or.inr hphase
      · obtain ⟨request, hparse, -, hpath⟩ := (acceptRequest_foreign haccept).2.2 r hw.phase_eq
        cases Except.ok.inj (hparse.symm.trans (parse_writeRequestDatagram hname hmode))
        exact Or.inl ⟨r, hw, hpath⟩
    · exact hold.handlers j g hj
  · intro j g q hj hq hother
    rcases Service.getElem?_open_cases hj with ⟨rfl, rfl⟩ | hj
    · rcases hopened with ⟨hphase, -⟩ | ⟨r, hw, hfresh, -⟩
      · exact absurd (hphase.symm.trans hq.phase_eq) (by simp)
      · cases hw.unique hq
        exact hfresh
    · exact hold.behind j g q hj hq hother
  · intro e he
    obtain ⟨j, g, rfl, hj, hagree⟩ := hold.ahead e he
    exact ⟨j, g, rfl, Service.getElem?_open hj, hagree⟩
  · intro hidle
    obtain ⟨rfl, hrefused⟩ := hold.idle fun j g hfront hj =>
      hidle j g hfront (Service.getElem?_open hj)
    refine ⟨rfl, fun j g hj => ?_⟩
    rcases Service.getElem?_open_cases hj with ⟨rfl, rfl⟩ | hj
    · refine ⟨fun hphase => ⟨g, sends, haccept, hphase⟩, ?_⟩
      rintro ⟨g', sends', haccept', hphase⟩
      cases Option.some.inj (haccept.symm.trans haccept')
      exact hphase
    · exact hrefused j g hj
  · intro j g q hj hq hphase hdone
    rcases Service.getElem?_open_cases hj with ⟨rfl, rfl⟩ | hj
    · rcases hopened with ⟨hreturned, -⟩ | ⟨r, hw, hfresh, -⟩
      · exact absurd (hreturned.symm.trans hq.phase_eq) (by simp)
      · cases hw.unique hq
        exact absurd (hfresh.not_completed hphase) (by simp [hdone])
    · exact hold.stored j g q hj hq hphase hdone
  · intro send hmem
    rcases hopened with ⟨-, hsends⟩ | ⟨r, -, -, hsends⟩
    · exact ⟨(hsends send hmem).1, Or.inl (hsends send hmem).2⟩
    · exact hsends send hmem

end Reactions

/-- **Every reaction of the two ends of an upload keeps what holds of them.** -/
theorem uploadTransfer_lawful (hb : 1 ≤ sc.defaultBlockSize)
    (hdefault : call.config.defaultBlockSize = sc.defaultBlockSize)
    (homit : call.config.quirks.omitTerminatingEmptyBlock = false)
    (hdup : call.config.quirks.retransmitOnDuplicateAck = false)
    (hskip : sc.quirks.acceptOutOfSequenceData = false)
    (hfits : UploadFits call payload sc)
    (halike : FramesAlike payload.length call.config.defaultBlockSize
      (writeNegotiated call payload sc).2.blockSize)
    (hname : (0 : UInt8) ∉ call.remoteFilename) (hmode : (0 : UInt8) ∉ call.mode)
    (hlisten : call.serverEndpoint = addresses.address (.proxy .listen)) :
    (uploadTransfer call payload sc served files addresses).Lawful addresses
      (writeRoles call payload sc served) where
  handlerSends_ne_nil := fun h bytes hsends => hsends.ne_nil
  ahead := by
    intro c front sessions shared e hold he
    obtain ⟨k, h, rfl, -⟩ := hold.ahead e he
    exact ⟨k, rfl⟩
  locks := fun hold hk => hold.locks rfl hk
  client := fun hold hevent =>
    hold.writeFile hb hdefault homit hdup hfits halike hlisten hevent
  session := fun hold hk hevent => hold.handler homit hskip hname hmode hk hevent
  accept := by
    intro c front sessions shared h sends hold haccept
    rw [serviceRoles_accept] at haccept
    exact hold.accept hname hmode haccept

end Steps

/-! ### Safety -/

section Safety

variable {call : ClientCall} {payload : Bytes} {sc : EngineConfig} {served : ServedDirectory}
  {files : Files} {addresses : BenchAddresses}

/-- What holds when the client has sent its first request. -/
theorem proxiedUploadStart_holds {config : ProxyConfig} {clock : ℕ → ℤ}
    (hlisten : call.serverEndpoint = addresses.address (.proxy .listen)) :
    Network.Holds ((uploadTransfer call payload sc served files addresses).Inv addresses)
      ((uploadTransfer call payload sc served files addresses).Transit addresses)
      (proxiedUploadStart call payload files addresses config clock) := by
  have hunlocked : (writeFileStart call payload).1.locked = none := by
    simp only [writeFileStart, writeFileAttempt, attemptRequest]
    split <;> rfl
  have hunfinished : ∀ outcome, (writeFileStart call payload).1.outcome = some outcome →
      outcome.completedSuccessfully = false := by
    simp only [writeFileStart, writeFileAttempt, attemptRequest]
    split <;> simp [ClientPhase.outcome]
  refine BenchTransfer.holds_start ⟨by simp, by simp, fun _ => hunlocked, by simp,
    fun _ => ⟨rfl, by simp⟩, fun _ => Or.inl rfl, by simp, fun outcome houtcome hcompleted => ?_⟩
    fun send hmem => ?_
  · exact absurd ((hunfinished outcome houtcome).symm.trans hcompleted) (by decide)
  · simp only [writeFileStart, writeFileAttempt, attemptRequest] at hmem
    split at hmem
    · rw [← hlisten]
      exact List.mem_singleton.1 hmem
    · exact absurd hmem List.not_mem_nil

/-- **Safety of an upload through the proxy.**  In every state an upload on the bench reaches, the
proxy dropping, repeating, delaying and reordering as its configuration and its seed will have it
and the network doing the same between any two parties, when the negotiated block size frames the
payload as the default one does: when the client has reported success, the handler the proxy is
locked onto has accepted the final block and holds the whole payload; no other handler ever accepts
a final block; what a handler has stored, under the path the name resolves to, stays stored; and
nothing else is written to the served directory. -/
theorem proxied_upload_safety {config : ProxyConfig} {clock : ℕ → ℤ}
    (hcq : call.config.quirks = {}) (hsq : sc.quirks = {})
    (hdefault : call.config.defaultBlockSize = sc.defaultBlockSize)
    (hb : 1 ≤ sc.defaultBlockSize) (hname : (0 : UInt8) ∉ call.remoteFilename)
    (hmode : (0 : UInt8) ∉ call.mode)
    (hlisten : call.serverEndpoint = addresses.address (.proxy .listen))
    (hserver : config.serverEndpoint = addresses.address .listener)
    (hinjection : config.injection = none) (hbytes : config.impairment.KeepsBytes)
    (hfits : UploadFits call payload sc)
    (halike : FramesAlike payload.length call.config.defaultBlockSize
      (writeNegotiated call payload sc).2.blockSize)
    {schedule : List (Network.Label BenchEvent)}
    {st : Network.State (BenchState (ClientPhase SenderState)) Endpoint Bytes}
    (h : Network.run (bench addresses config clock (writeRoles call payload sc served))
      (proxiedUploadStart call payload files addresses config clock) schedule = some st) :
    (∀ outcome, st.parties.client.outcome = some outcome → outcome.completedSuccessfully = true →
      ∃ (k : ℕ) (h : Handler) (r : ReceiverState), st.parties.sessions[k]? = some h ∧
        st.parties.proxy.front = some (addresses.address (.session k)) ∧
          h.phase = .receiving r ∧ r.gotFinal = true ∧ r.sink = payload) ∧
    (∀ (k : ℕ) h r, st.parties.sessions[k]? = some h → h.phase = .receiving r →
      r.gotFinal = true →
        st.parties.proxy.front = some (addresses.address (.session k)) ∧ r.sink = payload) ∧
    (∀ (k : ℕ) h r, st.parties.sessions[k]? = some h → h.phase = .receiving r →
      r.phase = .returned → r.outcome.completedSuccessfully = true →
        resolveServedPath served call.remoteFilename = some h.path ∧
          st.parties.files h.path =
            some (decodeForMode (modeIsNetascii call.mode) payload)) ∧
    (∀ path, st.parties.files path = files path ∨
      resolveServedPath served call.remoteFilename = some path ∧
        st.parties.files path = some (decodeForMode (modeIsNetascii call.mode) payload)) := by
  have homit : call.config.quirks.omitTerminatingEmptyBlock = false := by rw [hcq]
  have hdup : call.config.quirks.retransmitOnDuplicateAck = false := by rw [hcq]
  have hskip : sc.quirks.acceptOutOfSequenceData = false := by rw [hsq]
  have hold : UploadBench call payload sc served files addresses st.parties.client
      st.parties.proxy.front st.parties.sessions st.parties.files :=
    ((uploadTransfer_lawful hb hdefault homit hdup hskip hfits halike hname hmode hlisten).run
      hserver hinjection hbytes (proxiedUploadStart_holds hlisten) h).agrees
  have hwriter : ∀ (k : ℕ) h r, st.parties.sessions[k]? = some h → h.phase = .receiving r →
      BenchWriter call payload sc addresses h r ∧
        resolveServedPath served call.remoteFilename = some h.path := by
    intro k h r hk hphase
    rcases hold.handlers k h hk with ⟨q, hw, hpath⟩ | hreturned
    · cases HandlerPhase.receiving.inj (hphase.symm.trans hw.phase_eq)
      exact ⟨hw, hpath⟩
    · exact absurd (hphase.symm.trans hreturned) (by simp)
  refine ⟨?_, ?_, ?_, hold.shared_cases⟩
  · intro outcome houtcome hcompleted
    obtain ⟨peer, params, s, hlocked, hdone⟩ := hold.reported outcome houtcome hcompleted
    obtain ⟨-, k, g, r, hk, hfront, hw, hf, -, hsafe⟩ := hold.lockedOnto hlocked
    exact ⟨k, g, r, hk, hfront, hw.phase_eq, (hsafe.sender_done hdone).2,
      hsafe.sender_success hf homit hdone⟩
  · intro k g r hk hphase hfinal
    exact hold.whole homit hk (hwriter k g r hk hphase).1 hfinal
  · intro k g r hk hphase hreturned hdone
    obtain ⟨hw, hpath⟩ := hwriter k g r hk hphase
    exact ⟨hpath, hold.stored k g r hk hw hreturned hdone⟩

end Safety

/-! ### Two handlers behind the proxy -/

/-- A call that stores a file as `f` through the proxy. -/
def proxiedWrite : ClientCall where
  serverEndpoint := benchByPort.address (.proxy .listen)
  remoteFilename := text "f"
  mode := text "octet"
  options := {}
  config := { defaultBlockSize := 2 }

/-- The request is repeated on its way to the proxy, whatever comes first goes on first, and in the
end the first handler has waited long enough. -/
def firstWaits : List (Network.Label BenchEvent) :=
  .duplicate 0 :: (List.replicate 16 [.deliver 0, .act .flush]).flatten ++
    [.act (.timeoutSession 0)]

/-- The bench after that schedule. -/
def doubledUpload :
    Option (Network.State (BenchState (ClientPhase SenderState)) Endpoint Bytes) :=
  Network.run (bench benchByPort doublingProxy (fun _ => 0)
      (writeRoles proxiedWrite [1, 2, 3] { defaultBlockSize := 2 } plainDirectory))
    (proxiedUploadStart proxiedWrite [1, 2, 3] (fun _ => none) benchByPort doublingProxy
      (fun _ => 0)) firstWaits

/-- The request opens two handlers, and the one in front stores the file. -/
theorem proxied_upload_safety_two_handlers :
    ∃ st, doubledUpload = some st ∧ st.parties.sessions.length = 2 ∧
      ∃ (k : ℕ) (h : Handler) (r : ReceiverState), st.parties.sessions[k]? = some h ∧
        st.parties.proxy.front = some (benchByPort.address (.session k)) ∧
          h.phase = .receiving r ∧ r.gotFinal = true ∧ r.sink = [1, 2, 3] := by
  have hrun : (doubledUpload.map fun st => (st.parties.sessions.length,
      st.parties.client.outcome.map (·.completedSuccessfully))) = some (2, some true) := by
    decide +kernel
  obtain ⟨st, hst, heq⟩ := Option.map_eq_some_iff.1 hrun
  obtain ⟨hlength, hsome⟩ := Prod.mk.inj heq
  obtain ⟨outcome, houtcome, hcompleted⟩ := Option.map_eq_some_iff.1 hsome
  have hfits : UploadFits proxiedWrite [1, 2, 3] { defaultBlockSize := 2 } := by
    constructor <;> decide
  exact ⟨st, hst, hlength, (@proxied_upload_safety proxiedWrite [1, 2, 3]
    { defaultBlockSize := 2 } plainDirectory (fun _ => none) benchByPort doublingProxy (fun _ => 0)
    rfl rfl rfl (by decide) (by decide) (by decide) rfl rfl rfl (by decide +kernel) hfits
    (by decide) firstWaits st hst).1 outcome houtcome hcompleted⟩

end TftpHarness
