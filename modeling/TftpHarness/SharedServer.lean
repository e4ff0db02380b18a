/-
**A download from a server that others use.**

A server answers anybody.  While one client downloads a file, outsiders send whatever they like to
the listening port and to any of the transfer ports: requests for the same file or others, uploads,
stray packets, garbage.  Handlers rebuff what does not come from their own client, so the outsiders
can make a handler do nothing but answer them, or time out early, and they meet the download only in
the files they upload.

Main definitions:

* `TftpHarness.sharedServer` — the parties of a download, with outsiders;
* `TftpHarness.Outsider`, `TftpHarness.Harmless` — who the outsiders are, and what they do not do:
  send to the client, or upload the file it downloads;
* `TftpHarness.SharedInv`, `TftpHarness.SharedTransit` — the invariant.

Main results:

* `TftpHarness.handlerReceive_stray`, `TftpHarness.handlerReceive_foreign` — what an outsider can
  make a handler do;
* `TftpHarness.shared_download_safety` — **a download is as safe as without the others**.
-/

import TftpHarness.Network
import TftpHarness.Download

set_option relaxedAutoImplicit false
set_option autoImplicit false

namespace TftpHarness

/-! ### A service with outsiders -/

/-- What happens without a datagram: a receive times out, or an outsider sends something. -/
inductive SharedEvent
  | timeoutClient
  | timeoutSession (k : ℕ)
  | outsider (d : Service.Datagram Endpoint Bytes)
  deriving DecidableEq, Repr

section Shared

variable {γ : Type} (R : Service.Roles Endpoint Bytes γ Handler Files)
  (addresses : Service.Addresses Endpoint)

/-- The client, the handlers and the files. -/
abbrev SharedState (γ : Type) : Type := Service.State Endpoint Bytes γ Handler Files

/-- What a reaction has added to an empty network is what it sends. -/
def sentApart (st : SharedState γ) : SharedState γ × List (Service.Datagram Endpoint Bytes) :=
  ({ st with network := [] }, st.network)

/-- **The parties of a service, and outsiders.** -/
def sharedServer : Network.System (SharedState γ) Endpoint Bytes SharedEvent where
  receive st d := sentApart (Service.deliver R addresses st [] d)
  act st
    | .timeoutClient => sentApart (Service.reactClient R addresses st [] none)
    | .timeoutSession k =>
        match st.sessions[k]? with
        | none => (st, [])
        | some h => sentApart (Service.reactSession R addresses st [] k h none)
    | .outsider d => (st, [d])

variable {R addresses}

/-- A datagram is for the client, for the listener, for a session, or for nobody. -/
theorem sharedServer_receive {I : SharedState γ → Prop}
    {T : SharedState γ → Service.Datagram Endpoint Bytes → Prop} {st : SharedState γ}
    {d : Service.Datagram Endpoint Bytes}
    (hnobody : Network.Keeps I T st ({ st with network := [] }, []))
    (hclient : d.target = addresses.client →
      Network.Keeps I T st
        (sentApart (Service.reactClient R addresses st [] (some (d.source, d.message)))))
    (hlistener : ∀ h sends, d.target = addresses.listener →
      R.accept st.shared d.source d.message = some (h, sends) →
        Network.Keeps I T st (sentApart (Service.openSession addresses st [] h sends)))
    (hsession : ∀ k h, d.target = addresses.session k → st.sessions[k]? = some h →
      Network.Keeps I T st
        (sentApart (Service.reactSession R addresses st [] k h (some (d.source, d.message))))) :
    Network.Keeps I T st ((sharedServer R addresses).receive st d) := by
  simp only [sharedServer, Service.deliver]
  split
  · next htarget => exact hclient htarget
  · split
    · next htarget =>
        split
        · exact hnobody
        · next h sends haccept => exact hlistener h sends htarget haccept
    · split
      · exact hnobody
      · next k hfind =>
          have htarget : d.target = addresses.session k := by
            simpa using List.find?_some hfind
          split
          · exact hnobody
          · next h hk => exact hsession k h htarget hk

end Shared

/-! ### What an outsider can make a handler do -/

section Handlers

variable {sc : EngineConfig} {served : ServedDirectory} {files : Files} {h : Handler}

/-- The locked receive answers the source of a datagram, if anybody. -/
theorem receiveFromLockedPeer_replies {peer : Endpoint} {event : SocketEvent} :
    ∀ send ∈ (receiveFromLockedPeer peer event).2, ∃ bytes, event = .datagram send.1 bytes := by
  intro send hmem
  cases event with
  | wouldBlock => exact absurd hmem List.not_mem_nil
  | failure => exact absurd hmem List.not_mem_nil
  | datagram sender bytes =>
      by_cases hempty : bytes = []
      · subst hempty
        exact absurd hmem List.not_mem_nil
      by_cases hsender : sender = peer
      · subst hsender
        rw [receiveFromLockedPeer_peer hempty] at hmem
        exact absurd hmem List.not_mem_nil
      · rw [receiveFromLockedPeer_stray hsender hempty] at hmem
        rw [List.mem_singleton.1 hmem]
        exact ⟨bytes, rfl⟩

/-- Nothing, when it has a datagram to send: the handler answers it, at most. -/
theorem handlerReceive_stray {sender : Endpoint} {bytes : Bytes} (hne : bytes ≠ [])
    (hstray : sender ≠ h.clientEndpoint) :
    (handlerReceive sc files h (.datagram sender bytes)).1 = files ∧
      (handlerReceive sc files h (.datagram sender bytes)).2.1 = h ∧
      ∀ send ∈ (handlerReceive sc files h (.datagram sender bytes)).2.2, send.1 = sender := by
  have hreceive := receiveFromLockedPeer_stray hstray hne
  unfold handlerReceive
  cases hphase : h.phase with
  | awaitingAck attempt => simp [hreceive]
  | sending s =>
      have hsame : { h with phase := HandlerPhase.sending s } = h := by rw [← hphase]
      simp only [PeerLoop.onEvent, hreceive]
      split <;> simp [hsame]
  | receiving r =>
      have hsame : { h with phase := HandlerPhase.receiving r } = h := by rw [← hphase]
      simp only [PeerLoop.onEvent, hreceive]
      split <;> simp [hsame, storeUpload_self]
  | returned => simp

/-- An empty datagram reads as a timeout, whoever has sent it. -/
theorem handlerReceive_empty (sender : Endpoint) :
    handlerReceive sc files h (.datagram sender []) = handlerReceive sc files h .wouldBlock := by
  unfold handlerReceive
  cases h.phase <;> rfl

/-- **Whatever a handler hears**, it keeps its client and its path, it does not become the receiver
of an upload, it changes no file but its own, and only as such a receiver, and it sends to its
client or back to the source. -/
theorem handlerReceive_foreign (event : SocketEvent) :
    (handlerReceive sc files h event).2.1.clientEndpoint = h.clientEndpoint ∧
      (handlerReceive sc files h event).2.1.path = h.path ∧
      (∀ r, (handlerReceive sc files h event).2.1.phase = .receiving r →
        ∃ r', h.phase = .receiving r') ∧
      (∀ path, (∀ r, h.phase = .receiving r → h.path ≠ path) →
        (handlerReceive sc files h event).1 path = files path) ∧
      ∀ send ∈ (handlerReceive sc files h event).2.2, send.1 = h.clientEndpoint ∨
        ∃ bytes, event = .datagram send.1 bytes := by
  have hloop : ∀ {σ : Type} (loop : PeerLoop σ ℕ) (s : σ),
      ∀ send ∈ (loop.onEvent h.clientEndpoint s event).2, send.1 = h.clientEndpoint ∨
        ∃ bytes, event = .datagram send.1 bytes := by
    intro σ loop s send hmem
    rcases loop.onEvent_cases h.clientEndpoint s event with ⟨-, hstray⟩ | ⟨status, -, hreact, -⟩
    · exact Or.inr (hstray send hmem).2.2
    · rw [hreact] at hmem
      obtain ⟨i, -, rfl⟩ := List.mem_map.1 hmem
      exact Or.inl rfl
  unfold handlerReceive
  cases hphase : h.phase with
  | awaitingAck attempt =>
      have hattempt : ∀ n, (oackAttempt sc h n).1.clientEndpoint = h.clientEndpoint ∧
          (oackAttempt sc h n).1.path = h.path ∧
          (∀ r, (oackAttempt sc h n).1.phase ≠ .receiving r) ∧
          ∀ send ∈ (oackAttempt sc h n).2, send.1 = h.clientEndpoint := by
        intro n
        unfold oackAttempt
        split <;> simp
      have hreplies := @receiveFromLockedPeer_replies h.clientEndpoint event
      generalize receiveFromLockedPeer h.clientEndpoint event = received at hreplies
      obtain ⟨status, replies⟩ := received
      have hsends : ∀ l : List (Endpoint × Bytes), (∀ send ∈ l, send.1 = h.clientEndpoint) →
          ∀ send ∈ replies ++ l, send.1 = h.clientEndpoint ∨
            ∃ bytes, event = .datagram send.1 bytes := by
        intro l hl send hmem
        rcases List.mem_append.1 hmem with hold | hnew
        · exact Or.inr (hreplies send hold)
        · exact Or.inl (hl send hnew)
      have hagain : ∀ n, (oackAttempt sc h n).1.clientEndpoint = h.clientEndpoint ∧
          (oackAttempt sc h n).1.path = h.path ∧
          (∀ r, (oackAttempt sc h n).1.phase = .receiving r →
            ∃ r', HandlerPhase.awaitingAck attempt = .receiving r') ∧
          (∀ path, (∀ r, HandlerPhase.awaitingAck attempt = .receiving r → h.path ≠ path) →
            files path = files path) ∧
          ∀ send ∈ replies ++ (oackAttempt sc h n).2, send.1 = h.clientEndpoint ∨
            ∃ bytes, event = .datagram send.1 bytes := by
        intro n
        obtain ⟨hclient, hpath, hnot, hto⟩ := hattempt n
        exact ⟨hclient, hpath, fun r hr => absurd hr (hnot r), fun _ _ => rfl, hsends _ hto⟩
      cases status with
      | none =>
          exact ⟨rfl, rfl, fun r hr => absurd (hphase.symm.trans hr) (by simp), fun _ _ => rfl,
            fun send hmem => Or.inr (hreplies send hmem)⟩
      | some status =>
          cases status with
          | gotPacket reply =>
              simp only
              split
              · refine ⟨rfl, rfl, by simp [handlerSend], fun _ _ => rfl, hsends _ ?_⟩
                intro send hmem
                obtain ⟨i, -, rfl⟩ := List.mem_map.1 hmem
                rfl
              split
              · exact ⟨rfl, rfl, by simp, fun _ _ => rfl,
                  fun send hmem => Or.inr (hreplies send hmem)⟩
              · exact hagain (attempt + 1)
          | timedOut => exact hagain (attempt + 1)
          | socketError => exact hagain (attempt + 1)
  | sending s =>
      refine ⟨rfl, rfl, by simp, fun _ _ => rfl, hloop _ _⟩
  | receiving r =>
      refine ⟨rfl, rfl, fun _ _ => ⟨r, rfl⟩, fun path hpath => ?_, hloop _ _⟩
      exact storeUpload_other (hpath r rfl) files _ _
  | returned => simp [hphase]

/-- The client's own request is answered from the file it asks for alone. -/
theorem acceptRequest_target {call : ClientCall} {files' : Files} {client : Endpoint}
    (hname : (0 : UInt8) ∉ call.remoteFilename) (hmode : (0 : UInt8) ∉ call.mode)
    (hsame : ∀ path, resolveServedPath served call.remoteFilename = some path →
      files' path = files path) :
    acceptRequest sc served files' client (readRequestDatagram call) =
      acceptRequest sc served files client (readRequestDatagram call) := by
  have hop : (readRequestPacket call).opcode = .readRequest := rfl
  unfold acceptRequest
  rw [parse_readRequestDatagram hname hmode]
  simp only [handleRequest, hop, if_true]
  cases hpath : resolveServedPath served (readRequestPacket call).filename with
  | none => rfl
  | some path => simp only [hsame path hpath]

end Handlers

/-! ### The invariant -/

section Invariant

variable (call : ClientCall) (file : DestinationFile) (sc : EngineConfig)
  (served : ServedDirectory) (files : Files) (addresses : Service.Addresses Endpoint)

/-- Somebody who is not one of the parties. -/
structure Outsider (e : Endpoint) : Prop where
  ne_client : e ≠ addresses.client
  ne_listener : e ≠ addresses.listener
  ne_session : ∀ k, e ≠ addresses.session k

/-- The file that the client downloads. -/
def IsTarget (path : Bytes) : Prop := resolveServedPath served call.remoteFilename = some path

/-- **What outsiders do not do**: they do not send to the client, and do not ask to write the file
it downloads. -/
structure Harmless (d : Service.Datagram Endpoint Bytes) : Prop where
  source : Outsider addresses d.source
  target : d.target ≠ addresses.client
  writes : ∀ request path, parseDatagram d.message = .ok request →
    request.opcode = .writeRequest → resolveServedPath served request.filename = some path →
      ¬ IsTarget call served path

/-- The events with harmless outsiders. -/
def SharedEvent.Allowed : SharedEvent → Prop
  | .outsider d => Harmless call served addresses d
  | _ => True

/-- A handler of the client serves the file or has refused to; one of an outsider does not write the
file. -/
def SharedHandler (h : Handler) : Prop :=
  h.clientEndpoint = addresses.client ∧
      (Reader call sc served files addresses.client h ∨ h.phase = .returned) ∨
    Outsider addresses h.clientEndpoint ∧
      ∀ r, h.phase = .receiving r → ¬ IsTarget call served h.path

/-- What may be in transit: the traffic of the download, what outsiders have sent, and what is on
its way to them. -/
inductive SharedTransit (st : SharedState ReadFileState)
    (d : Service.Datagram Endpoint Bytes) : Prop
  | request (source : d.source = addresses.client) (target : d.target = addresses.listener)
      (message : d.message = readRequestDatagram call)
  | toSession (k : ℕ) (h : Handler) (source : d.source = addresses.client)
      (target : d.target = addresses.session k) (session : st.sessions[k]? = some h)
      (mine : h.clientEndpoint = addresses.client)
      (message : ReadClientSends st.client (addresses.session k) d.message)
  | toClient (k : ℕ) (h : Handler) (source : d.source = addresses.session k)
      (target : d.target = addresses.client) (session : st.sessions[k]? = some h)
      (mine : h.clientEndpoint = addresses.client)
      (message : ReaderSends call sc served files addresses.client h d.message)
  | outsider (harmless : Harmless call served addresses d)
  | answer (target : Outsider addresses d.target)

/-- **The invariant of a download at a shared server.** -/
structure SharedInv (before : Option Bytes) (st : SharedState ReadFileState) : Prop where
  network : st.network = []
  target : ∀ path, IsTarget call served path → st.shared path = files path
  agreement : Agreement call sc served files addresses.client addresses.session st.client
    st.sessions
  handlers : ∀ (k : ℕ) h, st.sessions[k]? = some h →
    SharedHandler call sc served files addresses h
  destination : DestinationInv call file before st.client

/-- The parties only move on. -/
structure SharedGrows (st st' : SharedState ReadFileState) : Prop where
  client : ∀ peer params r, st.client.phase.locked = some (peer, params, r) →
    ∃ r', st'.client.phase.locked = some (peer, params, r') ∧
      r.lastInSequence ≤ r'.lastInSequence
  sessions : ∀ (k : ℕ) h, st.sessions[k]? = some h → h.clientEndpoint = addresses.client →
    ∃ h', st'.sessions[k]? = some h' ∧ h'.clientEndpoint = addresses.client ∧
      ∀ bytes, ReaderSends call sc served files addresses.client h bytes →
        ReaderSends call sc served files addresses.client h' bytes

end Invariant

section Steps

variable {call : ClientCall} {file : DestinationFile} {sc : EngineConfig}
  {served : ServedDirectory} {files : Files} {addresses : Service.Addresses Endpoint}
  {st st' : SharedState ReadFileState} {before : Option Bytes}

theorem SharedTransit.mono
    (hgrows : SharedGrows call sc served files addresses st st')
    {d : Service.Datagram Endpoint Bytes}
    (h : SharedTransit call sc served files addresses st d) :
    SharedTransit call sc served files addresses st' d := by
  cases h with
  | request source target message => exact .request source target message
  | toSession k h source target session mine message =>
      obtain ⟨h', hk, hmine, -⟩ := hgrows.sessions k h session mine
      exact .toSession k h' source target hk hmine
        (message.mono fun params r => hgrows.client _ params r)
  | toClient k h source target session mine message =>
      obtain ⟨h', hk, hmine, hsends⟩ := hgrows.sessions k h session mine
      exact .toClient k h' source target hk hmine (hsends _ message)
  | outsider harmless => exact .outsider harmless
  | answer target => exact .answer target

/-! ### The agreement after a handler has moved -/

section Agreement

variable {client : Endpoint} {address : ℕ → Endpoint} {c : ReadFileState}
  {sessions : List Handler} (hagree : Agreement call sc served files client address c sessions)
  {k : ℕ} {h h' : Handler} (hk : sessions[k]? = some h)

include hagree hk

/-- A handler that serves the file has reacted. -/
theorem Agreement.set_reader (hr : Reader call sc served files client h)
    {sends : List (Endpoint × Bytes)}
    (hstep : ReaderStep call sc served files client
      (∃ params r, c.phase.locked = some (address k, params, r)) (partner c (address k)) h h'
      sends) : Agreement call sc served files client address c (sessions.set k h') := by
  refine ⟨?_, ?_, ?_⟩
  · intro j g hj hg
    rcases Service.getElem?_set_cases hk hj with ⟨rfl, rfl⟩ | ⟨-, hj⟩
    · rw [hstep.payload_eq, hstep.params_eq]
      exact hstep.safe
    · exact hagree.safe j g hj hg
  · intro peer params r hlocked
    obtain ⟨j, g, hj, hg, hpeer, hblock, hwindow⟩ := hagree.agreed peer params r hlocked
    refine ⟨j, Service.exists_getElem?_set hk hj (fun hjk => ?_)
      fun _ => ⟨hg, hpeer, hblock, hwindow⟩⟩
    subst hjk
    cases Option.some.inj (hk.symm.trans hj)
    rw [hstep.params_eq]
    exact ⟨hstep.reader, hpeer, hblock, hwindow⟩
  · intro j g hj hg hsend
    rcases Service.getElem?_set_cases hk hj with ⟨rfl, rfl⟩ | ⟨-, hj⟩
    · rw [hstep.oack_eq]
      rcases hstep.starts hsend with hbefore | hacked
      · exact hagree.started j h hk hr hbefore
      · exact Or.inr hacked
    · exact hagree.started j g hj hg hsend

/-- A handler that has nothing to do with the download has reacted. -/
theorem Agreement.set_other (hr : ¬ Reader call sc served files client h)
    (hr' : ¬ Reader call sc served files client h') :
    Agreement call sc served files client address c (sessions.set k h') := by
  refine ⟨?_, ?_, ?_⟩
  · intro j g hj hg
    rcases Service.getElem?_set_cases hk hj with ⟨rfl, rfl⟩ | ⟨-, hj⟩
    · exact absurd hg hr'
    · exact hagree.safe j g hj hg
  · intro peer params r hlocked
    obtain ⟨j, g, hj, hg, hrest⟩ := hagree.agreed peer params r hlocked
    refine ⟨j, Service.exists_getElem?_set hk hj (fun hjk => ?_) fun _ => ⟨hg, hrest⟩⟩
    subst hjk
    cases Option.some.inj (hk.symm.trans hj)
    exact absurd hg hr
  · intro j g hj hg hsend
    rcases Service.getElem?_set_cases hk hj with ⟨rfl, rfl⟩ | ⟨-, hj⟩
    · exact absurd hg hr'
    · exact hagree.started j g hj hg hsend

omit hk in
/-- A handler has been opened that has nothing to do with the download, or is safe with a client
that does not know it. -/
theorem Agreement.opened {h : Handler}
    (hopened : Reader call sc served files client h →
      Safe h.payload h.params h.params sc (h.sender sc) {} ∧ (h.IsSending → h.oackOptions = []))
    (hunlocked : ∀ params r, c.phase.locked ≠ some (address sessions.length, params, r)) :
    Agreement call sc served files client address c (sessions ++ [h]) := by
  refine ⟨?_, ?_, ?_⟩
  · intro j g hj hg
    rcases Service.getElem?_open_cases hj with ⟨rfl, rfl⟩ | hj
    · rw [partner_other hunlocked]
      exact (hopened hg).1
    · exact hagree.safe j g hj hg
  · intro peer params r hlocked
    obtain ⟨j, g, hj, hrest⟩ := hagree.agreed peer params r hlocked
    exact ⟨j, g, Service.getElem?_open hj, hrest⟩
  · intro j g hj hg hsend
    rcases Service.getElem?_open_cases hj with ⟨rfl, rfl⟩ | hj
    · exact Or.inl ((hopened hg).2 hsend)
    · exact hagree.started j g hj hg hsend

end Agreement

/-! ### The parties react -/

section Reactions

variable (hinv : SharedInv call file sc served files addresses before st)

include hinv

/-- Nothing has happened. -/
theorem sharedInv_nobody :
    Network.Keeps (SharedInv call file sc served files addresses before)
      (SharedTransit call sc served files addresses) st ({ st with network := [] }, []) := by
  have hsame : { st with network := [] } = st := by rw [← hinv.network]
  rw [hsame]
  exact Network.Keeps.refl hinv

section Client

variable (hb : 1 ≤ sc.defaultBlockSize) (homit : sc.quirks.omitTerminatingEmptyBlock = false)
  (hblocks : BlocksFit call sc served files)

include hb homit hblocks

/-- A reaction of the client, which hears its own handlers only. -/
theorem sharedInv_client (hbig : sc.defaultBlockSize < 2 ^ 32)
    (hdefault : call.config.defaultBlockSize = sc.defaultBlockSize)
    (hskip : call.config.quirks.acceptOutOfSequenceData = false)
    (hlistener : addresses.listener = call.serverEndpoint)
    {event : Option (Endpoint × Bytes)}
    (hevent : ∀ sender bytes, event = some (sender, bytes) → ∃ (k : ℕ) (h : Handler),
      sender = addresses.session k ∧ st.sessions[k]? = some h ∧
        h.clientEndpoint = addresses.client ∧
        ReaderSends call sc served files addresses.client h bytes) :
    Network.Keeps (SharedInv call file sc served files addresses before)
      (SharedTransit call sc served files addresses) st
      (sentApart (Service.reactClient (readRoles call file sc served) addresses st [] event)) := by
  have hreceived : ∀ sender bytes, eventOf event = .datagram sender bytes →
      event = some (sender, bytes) := by
    intro sender bytes heq
    cases event with
    | none => exact absurd heq (by simp [eventOf])
    | some received =>
        cases heq
        rfl
  have hstep := @readFileReceive_step call file sc served files addresses.client addresses.session
    st.client st.sessions addresses.session_injective hb hbig hdefault homit hskip hblocks
    hinv.agreement (eventOf event) (by
      intro sender bytes heq
      obtain ⟨k, h, hsender, hk, -, hsends⟩ := hevent _ _ (hreceived _ _ heq)
      exact ⟨k, h, hsender, hk, hsends⟩)
  have htargets := @readFileReceive_targets call file st.client (eventOf event)
  have hdestination := readFile_destination hinv.destination (eventOf event)
  have heq : sentApart (Service.reactClient (readRoles call file sc served) addresses st []
      event) = ({ st with
        client := (readFileReceive call file st.client (eventOf event)).1
        network := [] }, Service.sendsFrom addresses.client
          (readFileReceive call file st.client (eventOf event)).2) := rfl
  rw [heq]
  generalize readFileReceive call file st.client (eventOf event) = reacted
    at hstep htargets hdestination ⊢
  have hgrows : SharedGrows call sc served files addresses st
      { st with client := reacted.1, network := [] } :=
    ⟨hstep.moves, fun k h hk hmine => ⟨h, hk, hmine, fun _ => id⟩⟩
  refine ⟨⟨rfl, hinv.target, hstep.agreement, hinv.handlers, hdestination⟩,
    fun d hd => hd.mono hgrows, fun d hd => ?_⟩
  obtain ⟨hsource, hmem⟩ := Service.mem_sendsFrom.1 hd
  -- the request goes to the listener, anything else to a handler of the client
  rcases hstep.sends _ hmem with hrequest | ⟨k, htarget, hsent⟩
  · obtain ⟨htarget, hmessage⟩ := Prod.mk.inj hrequest
    exact .request hsource (htarget.trans hlistener.symm) hmessage
  · rcases htargets _ hmem with hrequest | ⟨params, r, hlocked⟩ | ⟨bytes, hdatagram⟩
    · obtain ⟨htarget, hmessage⟩ := Prod.mk.inj hrequest
      exact .request hsource (htarget.trans hlistener.symm) hmessage
    · obtain ⟨j, h, hj, hr, hpeer, -⟩ := hinv.agreement.agreed _ _ _ hlocked
      cases addresses.session_injective k j (htarget.symm.trans hpeer)
      exact .toSession k h hsource htarget hj hr.client_eq hsent
    · obtain ⟨j, h, hsender, hj, hmine, -⟩ := hevent _ _ (hreceived _ _ hdatagram)
      cases addresses.session_injective k j (htarget.symm.trans hsender)
      exact .toSession k h hsource htarget hj hmine hsent

/-- What session `k` makes of a socket event. -/
def SharedInv.reaction (sc : EngineConfig) (addresses : Service.Addresses Endpoint)
    (st : SharedState ReadFileState) (k : ℕ) (h : Handler) (event : SocketEvent) :
    SharedState ReadFileState × List (Service.Datagram Endpoint Bytes) :=
  ({ st with
      sessions := st.sessions.set k (handlerReceive sc st.shared h event).2.1
      shared := (handlerReceive sc st.shared h event).1
      network := [] },
    Service.sendsFrom (addresses.session k) (handlerReceive sc st.shared h event).2.2)

/-- A handler of the client that hears its client, or a timeout. -/
theorem sharedInv_reader (hdup : sc.quirks.retransmitOnDuplicateAck = false) {k : ℕ} {h : Handler}
    (hk : st.sessions[k]? = some h) (hr : Reader call sc served files addresses.client h)
    {event : SocketEvent}
    (hevent : ∀ sender bytes, event = .datagram sender bytes →
      sender = addresses.client ∧ ReadClientSends st.client (addresses.session k) bytes) :
    Network.Keeps (SharedInv call file sc served files addresses before)
      (SharedTransit call sc served files addresses) st
      (SharedInv.reaction sc addresses st k h event) := by
  have hsmall := hblocks h.payload hr.payload_eq
  rw [hr.negotiated_eq] at hsmall
  obtain ⟨hshared, hstep⟩ := @reader_receive call sc served files addresses.client
    (∃ params r, st.client.phase.locked = some (addresses.session k, params, r))
    (partner st.client (addresses.session k)) h hr (hinv.agreement.safe k h hk hr) homit hdup
    (hr.framed hb hblocks) hsmall event (fun sender bytes heq => (hevent sender bytes heq).1) (by
      intro bytes packet heq hparse hop
      rcases (hevent _ _ heq).2 with ⟨-, packet', hparse', herr⟩ | ⟨params, r, a, hlocked, ha, rfl⟩
      · cases Except.ok.inj (hparse.symm.trans hparse')
        exact absurd (herr.symm.trans hop) (by simp)
      · cases Except.ok.inj (hparse.symm.trans (parse_ackDatagram a))
        rw [partner_locked hlocked]
        exact ⟨⟨params, r, hlocked⟩, a, ha, rfl⟩) st.shared
  unfold SharedInv.reaction
  generalize handlerReceive sc st.shared h event = reacted at hshared hstep ⊢
  have hself : (st.sessions.set k reacted.2.1)[k]? = some reacted.2.1 :=
    List.getElem?_set_self (List.getElem?_eq_some_iff.1 hk).1
  have hgrows : SharedGrows call sc served files addresses st
      { st with
        sessions := st.sessions.set k reacted.2.1, shared := reacted.1, network := [] } := by
    refine ⟨fun _ _ r heq => ⟨r, heq, le_refl _⟩, fun j g hj hmine => ?_⟩
    refine Service.exists_getElem?_set hk hj (fun hjk => ?_) fun _ => ⟨hmine, fun _ => id⟩
    subst hjk
    cases Option.some.inj (hk.symm.trans hj)
    exact ⟨hstep.reader.client_eq, fun bytes hsent => hsent.mono (fun _ => hstep.reader)
      hstep.payload_eq hstep.params_eq hstep.oack_eq hstep.sending hstep.sent_le⟩
  refine ⟨⟨rfl, fun path hpath => ?_, hinv.agreement.set_reader hk hr hstep, ?_,
    hinv.destination⟩, fun d hd => hd.mono hgrows, fun d hd => ?_⟩
  · have hkept : reacted.1 path = st.shared path := by rw [hshared]
    exact hkept.trans (hinv.target path hpath)
  · intro j g hj
    rcases Service.getElem?_set_cases hk hj with ⟨rfl, rfl⟩ | ⟨-, hj⟩
    · exact Or.inl ⟨hstep.reader.client_eq, Or.inl hstep.reader⟩
    · exact hinv.handlers j g hj
  · obtain ⟨hsource, hmem⟩ := Service.mem_sendsFrom.1 hd
    obtain ⟨htarget, hsent⟩ := hstep.sends _ hmem
    exact .toClient k _ hsource htarget hself hstep.reader.client_eq hsent

omit hb homit hblocks in
/-- A handler that stays as it is and answers outsiders. -/
theorem sharedInv_still {k : ℕ} {h : Handler} (hk : st.sessions[k]? = some h)
    {event : SocketEvent} (hfiles : (handlerReceive sc st.shared h event).1 = st.shared)
    (hsame : (handlerReceive sc st.shared h event).2.1 = h)
    (hsends : ∀ send ∈ (handlerReceive sc st.shared h event).2.2, Outsider addresses send.1) :
    Network.Keeps (SharedInv call file sc served files addresses before)
      (SharedTransit call sc served files addresses) st
      (SharedInv.reaction sc addresses st k h event) := by
  have hset : st.sessions.set k h = st.sessions := by
    obtain ⟨hlt, hget⟩ := List.getElem?_eq_some_iff.1 hk
    rw [← hget, List.set_getElem_self]
  have hstate : (SharedInv.reaction sc addresses st k h event).1 = st := by
    simp only [SharedInv.reaction, hfiles, hsame, hset]
    rw [← hinv.network]
  refine ⟨?_, fun d hd => ?_, fun d hd => ?_⟩
  · rw [hstate]
    exact hinv
  · rw [hstate]
    exact hd
  · exact .answer (hsends _ (Service.mem_sendsFrom.1 hd).2)

omit hb homit hblocks in
/-- A handler of an outsider, which hears outsiders only. -/
theorem sharedInv_foreign {k : ℕ} {h : Handler} (hk : st.sessions[k]? = some h)
    (hforeign : Outsider addresses h.clientEndpoint)
    (hwrites : ∀ r, h.phase = .receiving r → ¬ IsTarget call served h.path) {event : SocketEvent}
    (hevent : ∀ sender bytes, event = .datagram sender bytes → Outsider addresses sender) :
    Network.Keeps (SharedInv call file sc served files addresses before)
      (SharedTransit call sc served files addresses) st
      (SharedInv.reaction sc addresses st k h event) := by
  obtain ⟨hclient, hpath, hphase, hfiles, hsends⟩ :=
    @handlerReceive_foreign sc st.shared h event
  unfold SharedInv.reaction
  generalize handlerReceive sc st.shared h event = reacted at hclient hpath hphase hfiles hsends ⊢
  have hnot : ∀ g : Handler, g.clientEndpoint = h.clientEndpoint →
      ¬ Reader call sc served files addresses.client g := by
    intro g heq hr
    exact hforeign.ne_client (heq.symm.trans hr.client_eq)
  have hgrows : SharedGrows call sc served files addresses st
      { st with
        sessions := st.sessions.set k reacted.2.1, shared := reacted.1, network := [] } := by
    refine ⟨fun _ _ r heq => ⟨r, heq, le_refl _⟩, fun j g hj hmine => ?_⟩
    refine Service.exists_getElem?_set hk hj (fun hjk => ?_) fun _ => ⟨hmine, fun _ => id⟩
    subst hjk
    cases Option.some.inj (hk.symm.trans hj)
    exact absurd hmine hforeign.ne_client
  refine ⟨⟨rfl, fun path htarget => ?_,
    hinv.agreement.set_other hk (hnot h rfl) (hnot _ hclient), ?_, hinv.destination⟩,
    fun d hd => hd.mono hgrows, fun d hd => ?_⟩
  · have hkept := hfiles path fun r hr heq => hwrites r hr (heq ▸ htarget)
    exact hkept.trans (hinv.target path htarget)
  · intro j g hj
    rcases Service.getElem?_set_cases hk hj with ⟨rfl, rfl⟩ | ⟨-, hj⟩
    · refine Or.inr ⟨hclient ▸ hforeign, fun r hr => ?_⟩
      obtain ⟨r', hr'⟩ := hphase r hr
      rw [hpath]
      exact hwrites r' hr'
    · exact hinv.handlers j g hj
  · obtain ⟨-, hmem⟩ := Service.mem_sendsFrom.1 hd
    rcases hsends _ hmem with hto | ⟨bytes, hsource⟩
    · have hto' : d.target = h.clientEndpoint := hto
      exact .answer (hto' ▸ hforeign)
    · exact .answer (hevent _ _ hsource)

/-- **A reaction of a handler**, whoever's it is and whatever it hears. -/
theorem sharedInv_session (hdup : sc.quirks.retransmitOnDuplicateAck = false) {k : ℕ} {h : Handler}
    (hk : st.sessions[k]? = some h) {event : Option (Endpoint × Bytes)}
    (hevent : ∀ sender bytes, event = some (sender, bytes) →
      (sender = addresses.client ∧ h.clientEndpoint = addresses.client ∧
        ReadClientSends st.client (addresses.session k) bytes) ∨ Outsider addresses sender) :
    Network.Keeps (SharedInv call file sc served files addresses before)
      (SharedTransit call sc served files addresses) st
      (sentApart (Service.reactSession (readRoles call file sc served) addresses st [] k h
        event)) := by
  have heq : sentApart (Service.reactSession (readRoles call file sc served) addresses st [] k h
      event) = SharedInv.reaction sc addresses st k h (eventOf event) := rfl
  rw [heq]
  rcases hinv.handlers k h hk with ⟨hmine, hr | hphase⟩ | ⟨hforeign, hwrites⟩
  · cases event with
    | none => exact sharedInv_reader hinv hb homit hblocks hdup hk hr (by simp [eventOf])
    | some received =>
        obtain ⟨sender, bytes⟩ := received
        rcases hevent sender bytes rfl with ⟨rfl, -, hsends⟩ | houtsider
        · refine sharedInv_reader hinv hb homit hblocks hdup hk hr ?_
          intro sender' bytes' heq
          cases heq
          exact ⟨rfl, hsends⟩
        · by_cases hempty : bytes = []
          · -- an empty datagram reads as a timeout
            subst hempty
            have hread : SharedInv.reaction sc addresses st k h (eventOf (some (sender, []))) =
                SharedInv.reaction sc addresses st k h .wouldBlock := by
              simp only [SharedInv.reaction, eventOf, handlerReceive_empty]
            rw [hread]
            exact sharedInv_reader hinv hb homit hblocks hdup hk hr (by simp)
          · have hstray : sender ≠ h.clientEndpoint := fun heq =>
              houtsider.ne_client (heq.trans hmine)
            obtain ⟨hfiles, hsame, hsends⟩ := @handlerReceive_stray sc st.shared h sender bytes
              hempty hstray
            exact sharedInv_still hinv hk hfiles hsame fun send hmem =>
              (hsends send hmem).symm ▸ houtsider
  · have hreturned : ∀ e, handlerReceive sc st.shared h e = (st.shared, h, []) := by
      intro e
      simp only [handlerReceive, hphase]
    exact sharedInv_still hinv hk (by rw [hreturned]) (by rw [hreturned]) (by simp [hreturned])
  · refine sharedInv_foreign hinv hk hforeign hwrites ?_
    intro sender bytes heq
    cases event with
    | none => exact absurd heq (by simp [eventOf])
    | some received =>
        cases heq
        rcases hevent _ _ rfl with ⟨-, hmine, -⟩ | houtsider
        · exact absurd hmine hforeign.ne_client
        · exact houtsider

/-- **A request that opens a handler**: the client's own, or one of an outsider. -/
theorem sharedInv_listener (hname : (0 : UInt8) ∉ call.remoteFilename)
    (hmode : (0 : UInt8) ∉ call.mode) {d : Service.Datagram Endpoint Bytes}
    (hd : (d.source = addresses.client ∧ d.message = readRequestDatagram call) ∨
      Harmless call served addresses d) {h : Handler} {sends : List (Endpoint × Bytes)}
    (haccept : acceptRequest sc served st.shared d.source d.message = some (h, sends)) :
    Network.Keeps (SharedInv call file sc served files addresses before)
      (SharedTransit call sc served files addresses) st
      (sentApart (Service.openSession addresses st [] h sends)) := by
  have heq : sentApart (Service.openSession addresses st [] h sends) =
      ({ st with sessions := st.sessions ++ [h], network := [] },
        Service.sendsFrom (addresses.session st.sessions.length) sends) := rfl
  rw [heq]
  have hgrows : SharedGrows call sc served files addresses st
      { st with sessions := st.sessions ++ [h], network := [] } :=
    ⟨fun _ _ r heq => ⟨r, heq, le_refl _⟩,
      fun j g hj hmine => ⟨g, Service.getElem?_open hj, hmine, fun _ => id⟩⟩
  have hnew : (st.sessions ++ [h])[st.sessions.length]? = some h := List.getElem?_concat_length
  -- the client is not locked onto an address nobody has had
  have hunlocked : ∀ params r,
      st.client.phase.locked ≠ some (addresses.session st.sessions.length, params, r) := by
    intro params r hlocked
    obtain ⟨j, g, hj, -, hpeer, -⟩ := hinv.agreement.agreed _ _ _ hlocked
    have hlt := (List.getElem?_eq_some_iff.1 hj).1
    have := addresses.session_injective _ _ hpeer
    omega
  have hhandlers : SharedHandler call sc served files addresses h →
      ∀ (k : ℕ) (g : Handler), (st.sessions ++ [h])[k]? = some g →
        SharedHandler call sc served files addresses g := by
    intro hh k g hk
    rcases Service.getElem?_open_cases hk with ⟨-, rfl⟩ | hk
    · exact hh
    · exact hinv.handlers k g hk
  rcases hd with ⟨hsource, hmessage⟩ | hharmless
  · rw [hsource, hmessage, acceptRequest_target hname hmode hinv.target] at haccept
    have hopened := reader_accept hname hmode hb homit hblocks haccept
    have hsafe : Reader call sc served files addresses.client h →
        Safe h.payload h.params h.params sc (h.sender sc) {} ∧
          (h.IsSending → h.oackOptions = []) := by
      intro hr
      rcases hopened with ⟨hnone, -⟩ | ⟨-, hsafe, hstarts, -⟩
      · exact absurd (hnone.symm.trans hr.payload_eq) (by simp)
      · exact ⟨hsafe, hstarts⟩
    have hmine := (acceptRequest_foreign haccept).1
    refine ⟨⟨rfl, hinv.target, hinv.agreement.opened hsafe hunlocked, hhandlers ?_,
      hinv.destination⟩, fun e he => he.mono hgrows, fun e he => ?_⟩
    · refine Or.inl ⟨hmine, ?_⟩
      rcases hopened with ⟨-, hphase, -⟩ | ⟨hr, -⟩
      · exact Or.inr hphase
      · exact Or.inl hr
    · obtain ⟨hfrom, hmem⟩ := Service.mem_sendsFrom.1 he
      rcases hopened with ⟨-, -, hsends⟩ | ⟨-, -, -, hsends⟩
      · exact .toClient _ h hfrom (hsends _ hmem).1 hnew hmine (Or.inl (hsends _ hmem).2)
      · exact .toClient _ h hfrom (hsends _ hmem).1 hnew hmine (hsends _ hmem).2
  · obtain ⟨hforeign, hsends, hwrites⟩ := acceptRequest_foreign haccept
    have houtsider : Outsider addresses h.clientEndpoint := hforeign.symm ▸ hharmless.source
    refine ⟨⟨rfl, hinv.target, hinv.agreement.opened ?_ hunlocked, hhandlers ?_,
      hinv.destination⟩, fun e he => he.mono hgrows, fun e he => ?_⟩
    · intro hr
      exact absurd hr.client_eq houtsider.ne_client
    · refine Or.inr ⟨houtsider, fun r hr => ?_⟩
      obtain ⟨request, hparse, hop, hpath⟩ := hwrites r hr
      exact hharmless.writes request h.path hparse hop hpath
    · have hto : e.target = d.source := hsends _ (Service.mem_sendsFrom.1 he).2
      exact .answer (hto.symm ▸ hharmless.source)

variable (hbig : sc.defaultBlockSize < 2 ^ 32)
  (hdefault : call.config.defaultBlockSize = sc.defaultBlockSize)
  (hskip : call.config.quirks.acceptOutOfSequenceData = false)
  (hdup : sc.quirks.retransmitOnDuplicateAck = false)
  (hlistener : addresses.listener = call.serverEndpoint)

include hbig hdefault hskip hdup hlistener

/-- A datagram has come. -/
theorem sharedInv_receive (hname : (0 : UInt8) ∉ call.remoteFilename)
    (hmode : (0 : UInt8) ∉ call.mode) {d : Service.Datagram Endpoint Bytes}
    (hd : SharedTransit call sc served files addresses st d) :
    Network.Keeps (SharedInv call file sc served files addresses before)
      (SharedTransit call sc served files addresses) st
      ((sharedServer (readRoles call file sc served) addresses).receive st d) := by
  refine sharedServer_receive (sharedInv_nobody hinv) ?_ ?_ ?_
  · intro htarget
    refine sharedInv_client hinv hb homit hblocks hbig hdefault hskip hlistener ?_
    intro sender bytes heq
    cases heq
    cases hd with
    | request _ target _ => exact absurd (htarget.symm.trans target) addresses.client_ne_listener
    | toSession k h _ target _ _ _ =>
        exact absurd (target.symm.trans htarget) (addresses.session_ne_client k)
    | toClient k h source _ session mine message => exact ⟨k, h, source, session, mine, message⟩
    | outsider harmless => exact absurd htarget harmless.target
    | answer target => exact absurd htarget target.ne_client
  · intro h sends htarget haccept
    refine sharedInv_listener hinv hb homit hblocks hname hmode ?_ haccept
    cases hd with
    | request source _ message => exact Or.inl ⟨source, message⟩
    | toSession k h _ target _ _ _ =>
        exact absurd (target.symm.trans htarget) (addresses.session_ne_listener k)
    | toClient k h _ target _ _ _ =>
        exact absurd (target.symm.trans htarget) addresses.client_ne_listener
    | outsider harmless => exact Or.inr harmless
    | answer target => exact absurd htarget target.ne_listener
  · intro k h htarget hk
    refine sharedInv_session hinv hb homit hblocks hdup hk ?_
    intro sender bytes heq
    cases heq
    cases hd with
    | request _ target _ =>
        exact absurd (htarget.symm.trans target) (addresses.session_ne_listener k)
    | toSession j g source target session mine message =>
        obtain rfl := addresses.session_injective k j (htarget.symm.trans target)
        cases Option.some.inj (hk.symm.trans session)
        exact Or.inl ⟨source, mine, message⟩
    | toClient j g _ target _ _ _ =>
        exact absurd (htarget.symm.trans target) (addresses.session_ne_client k)
    | outsider harmless => exact Or.inr harmless.source
    | answer target => exact absurd htarget (target.ne_session k)

/-- A receive times out, or an outsider sends something. -/
theorem sharedInv_act (event : SharedEvent) (hallowed : event.Allowed call served addresses) :
    Network.Keeps (SharedInv call file sc served files addresses before)
      (SharedTransit call sc served files addresses) st
      ((sharedServer (readRoles call file sc served) addresses).act st event) := by
  cases event with
  | timeoutClient =>
      exact sharedInv_client hinv hb homit hblocks hbig hdefault hskip hlistener (by simp)
  | timeoutSession k =>
      simp only [sharedServer]
      split
      · exact Network.Keeps.refl hinv
      · next h hk => exact sharedInv_session hinv hb homit hblocks hdup hk (by simp)
  | outsider d =>
      refine ⟨hinv, fun _ => id, fun e he => ?_⟩
      cases List.mem_singleton.1 he
      exact .outsider hallowed

end Client

end Reactions

end Steps

/-! ### Safety -/

section Safety

variable {call : ClientCall} {file : DestinationFile} {sc : EngineConfig}
  {served : ServedDirectory} {files : Files} {addresses : Service.Addresses Endpoint}

/-- The client has sent its first request, and nobody else has said anything. -/
def sharedStart (call : ClientCall) (files : Files) (addresses : Service.Addresses Endpoint)
    (before : Option Bytes) : Network.State (SharedState ReadFileState) Endpoint Bytes where
  parties := { downloadStart call files addresses before with network := [] }
  network := (downloadStart call files addresses before).network

theorem sharedInv_start (hlistener : addresses.listener = call.serverEndpoint)
    (before : Option Bytes) :
    Network.Holds (SharedInv call file sc served files addresses before)
      (SharedTransit call sc served files addresses)
      (sharedStart call files addresses before) := by
  have hunlocked : (readFileStart call before).1.phase.locked = none := by
    simp only [readFileStart, readFileAttempt, attemptRequest]
    split <;> rfl
  refine ⟨⟨rfl, fun _ _ => rfl, ⟨?_, ?_, ?_⟩, ?_, destinationInv_attempt before 0⟩, ?_⟩
  · intro k h hk
    exact absurd hk (by simp [sharedStart, downloadStart])
  · intro peer params r hlocked
    exact absurd (hunlocked.symm.trans hlocked) (by simp)
  · intro k h hk
    exact absurd hk (by simp [sharedStart, downloadStart])
  · intro k h hk
    exact absurd hk (by simp [sharedStart, downloadStart])
  · intro d hd
    obtain ⟨hsource, hmem⟩ := Service.mem_sendsFrom.1 hd
    have hrequest : (d.target, d.message) = (call.serverEndpoint, readRequestDatagram call) := by
      simp only [readFileStart, readFileAttempt, attemptRequest] at hmem
      split at hmem
      · exact List.mem_singleton.1 hmem
      · exact absurd hmem List.not_mem_nil
    obtain ⟨htarget, hmessage⟩ := Prod.mk.inj hrequest
    exact .request hsource (htarget.trans hlistener.symm) hmessage

/-- **Safety of a download from a server that others use.**  Outsiders send what they like to the
server, at any time and any number of times, while the network drops, repeats, delays and reorders
everybody's datagrams.  As long as they do not send to the client or upload the file it downloads:
the client is locked onto a handler of its own, with its block size and window; a download that has
reported success has written the file; any other has left its destination alone, unless the final
write failed; and the served file is as it was. -/
theorem shared_download_safety (hsq : sc.quirks = {}) (hcq : call.config.quirks = {})
    (hdefault : call.config.defaultBlockSize = sc.defaultBlockSize)
    (hb : 1 ≤ sc.defaultBlockSize) (hbig : sc.defaultBlockSize < 2 ^ 32)
    (hname : (0 : UInt8) ∉ call.remoteFilename) (hmode : (0 : UInt8) ∉ call.mode)
    (hlistener : addresses.listener = call.serverEndpoint)
    (hblocks : BlocksFit call sc served files) {before : Option Bytes}
    {schedule : List (Network.Label SharedEvent)}
    (hallowed : ∀ event, .act event ∈ schedule → event.Allowed call served addresses)
    {st : Network.State (SharedState ReadFileState) Endpoint Bytes}
    (h : Network.run (sharedServer (readRoles call file sc served) addresses)
      (sharedStart call files addresses before) schedule = some st) :
    (∀ peer params r, st.parties.client.phase.locked = some (peer, params, r) →
      ∃ (k : ℕ) (h : Handler), st.parties.sessions[k]? = some h ∧ peer = addresses.session k ∧
        h.clientEndpoint = addresses.client ∧
        params.blockSize = h.params.blockSize ∧ params.windowSize = h.params.windowSize) ∧
    (∀ outcome, st.parties.client.phase.outcome = some outcome →
      outcome.completedSuccessfully = true →
        ∃ path bytes, resolveServedPath served call.remoteFilename = some path ∧
          files path = some bytes ∧
          st.parties.client.destination =
            some (if modeIsNetascii call.mode then
                decodeNetasciiToLocal (encodeLocalToNetascii bytes)
              else bytes)) ∧
    ((∀ outcome, st.parties.client.phase.outcome = some outcome →
        outcome.completedSuccessfully = false) →
      st.parties.client.destination = before ∨
        ∃ peer params r outcome,
          st.parties.client.phase = .finished peer params r outcome ∧
          r.outcome.completedSuccessfully = true ∧
          (file.write (decodeForMode (modeIsNetascii call.mode) r.sink)).1 = false) ∧
    ∀ path, resolveServedPath served call.remoteFilename = some path →
      st.parties.shared path = files path := by
  have homit : sc.quirks.omitTerminatingEmptyBlock = false := by rw [hsq]
  have hdup : sc.quirks.retransmitOnDuplicateAck = false := by rw [hsq]
  have hskip : call.config.quirks.acceptOutOfSequenceData = false := by rw [hcq]
  have hinv := (Network.run_invariant
    (fun _ _ hinv hd => sharedInv_receive hinv hb homit hblocks hbig hdefault hskip hdup hlistener
      hname hmode hd)
    (fun _ event hallowed hinv => sharedInv_act hinv hb homit hblocks hbig hdefault hskip hdup
      hlistener event hallowed)
    hallowed (@sharedInv_start call file sc served files addresses hlistener before) h).invariant
  refine ⟨?_, ?_, hinv.destination.unwritten, hinv.target⟩
  · intro peer params r hlocked
    obtain ⟨k, g, hk, hr, hpeer, hparams⟩ := hinv.agreement.agreed peer params r hlocked
    exact ⟨k, g, hk, hpeer, hr.client_eq, hparams⟩
  · intro outcome houtcome hcompleted
    refine hinv.destination.written_file (fun peer params r hlocked hdone => ?_) houtcome
      hcompleted
    obtain ⟨k, g, hk, hr, rfl, -⟩ := hinv.agreement.agreed peer params r hlocked
    have hsafe := hinv.agreement.safe k g hk hr
    rw [partner_locked hlocked] at hsafe
    rw [hsafe.receiver_success (hr.framed hb hblocks) homit hdone]
    exact hr.payload_eq

end Safety

/-! ### Somebody else uploads a file -/

/-- Somebody at another address. -/
def elsewhere : Endpoint := ⟨false, [1], 7⟩

theorem outsider_elsewhere : Outsider addressesByPort elsewhere :=
  ⟨by decide, by decide, fun k => by simp [elsewhere, addressesByPort]⟩

/-- The request of an upload of another file. -/
def otherUpload : Service.Datagram Endpoint Bytes :=
  ⟨elsewhere, addressesByPort.listener, serializeWriteRequest (text "g") (text "octet") []⟩

/-- The one block of that upload. -/
def otherBlock : Service.Datagram Endpoint Bytes :=
  ⟨elsewhere, addressesByPort.session 0, serializeData 1 [7]⟩

/-- A stray packet for the handler of the client. -/
def strayAck : Service.Datagram Endpoint Bytes :=
  ⟨elsewhere, addressesByPort.session 1, serializeAcknowledgement 9⟩

/-- The upload goes on between the blocks of the download. -/
def interleaved : List (Network.Label SharedEvent) :=
  [.act (.outsider otherUpload), .deliver 1, .deliver 0, .deliver 1, .act (.outsider strayAck),
    .deliver 2, .act (.outsider otherBlock), .deliver 3, .deliver 1, .deliver 3, .deliver 3,
    .act (.timeoutSession 0), .act .timeoutClient]

/-- A file of three bytes. -/
def servedFile : Files := fun path => if path = text "f" then some [1, 2, 3] else none

/-- The server after that schedule. -/
def interleavedDownload : Option (Network.State (SharedState ReadFileState) Endpoint Bytes) :=
  Network.run (sharedServer (readRoles plainRead writableFile { defaultBlockSize := 2 }
      plainDirectory) addressesByPort)
    (sharedStart plainRead servedFile addressesByPort none) interleaved

theorem interleaved_allowed : ∀ event, .act event ∈ interleaved →
    event.Allowed plainRead plainDirectory addressesByPort := by
  have hupload : parseDatagram otherUpload.message =
      .ok { opcode := .writeRequest, filename := text "g", mode := text "octet" } := by
    decide +kernel
  have hblock : parseDatagram otherBlock.message =
      .ok { opcode := .data, blockNumber := 1, data := [7] } := by decide +kernel
  have hstray : parseDatagram strayAck.message =
      .ok { opcode := .acknowledgement, blockNumber := 9 } := by decide +kernel
  intro event hmem
  simp only [interleaved, List.mem_cons, Network.Label.act.injEq, reduceCtorEq, false_or,
    List.not_mem_nil, or_false] at hmem
  rcases hmem with rfl | rfl | rfl | rfl | rfl
  · refine ⟨outsider_elsewhere, by decide, fun request path hparse _ hpath htarget => ?_⟩
    cases Except.ok.inj (hupload.symm.trans hparse)
    have htarget' : resolveServedPath plainDirectory (text "f") = some path := htarget
    exact absurd (hpath.trans htarget'.symm) (by decide +kernel)
  · refine ⟨outsider_elsewhere, by decide, fun request path hparse hop => ?_⟩
    cases Except.ok.inj (hstray.symm.trans hparse)
    exact absurd hop (by simp)
  · refine ⟨outsider_elsewhere, by decide, fun request path hparse hop => ?_⟩
    cases Except.ok.inj (hblock.symm.trans hparse)
    exact absurd hop (by simp)
  · trivial
  · trivial

/-- Both transfers succeed, on one server. -/
theorem shared_download_safety_beside_upload :
    ∃ st, interleavedDownload = some st ∧ st.parties.shared (text "g") = some [7] ∧
      st.parties.client.destination = some [1, 2, 3] := by
  have hrun : (interleavedDownload.map fun st => (st.parties.shared (text "g"),
      st.parties.client.phase.outcome.map (·.completedSuccessfully))) =
        some (some [7], some true) := by
    decide +kernel
  obtain ⟨st, hst, heq⟩ := Option.map_eq_some_iff.1 hrun
  obtain ⟨hother, hsome⟩ := Prod.mk.inj heq
  obtain ⟨outcome, houtcome, hcompleted⟩ := Option.map_eq_some_iff.1 hsome
  refine ⟨st, hst, hother, ?_⟩
  obtain ⟨path, bytes, hpath, hfile, hdestination⟩ := (@shared_download_safety plainRead
    writableFile { defaultBlockSize := 2 } plainDirectory servedFile addressesByPort rfl rfl rfl
    (by decide) (by decide) (by decide) (by decide) rfl (by
      intro payload hpayload
      cases Option.some.inj hpayload
      decide) none interleaved interleaved_allowed st hst).2.1 outcome houtcome hcompleted
  obtain rfl : _ = path := Option.some.inj hpath
  cases Option.some.inj hfile
  exact hdestination

end TftpHarness
