/-
**Every transfer completes when nothing is lost.**

An upload goes the way of a download with the ends exchanged: the client sends, and the handler
that its request has opened receives.  The first answer is the OACK or, from a server without
options, ACK 0; over a network that loses nothing the client gets the OACK whenever there is one,
so it always sends with the parameters the handler expects.  The handler writes the file when its
closing dally is over.

Main definitions:

* `TftpHarness.UploadCompleted` — a completed upload;
* `TftpHarness.Uploading` — the phases of an upload, with the number of steps left.

Main results:

* `TftpHarness.uploading_next` — every event leads to a phase with fewer steps left;
* `TftpHarness.uploading_done` — where an upload cannot go on it has completed;
* `TftpHarness.lossless_transfers_complete` — **every loss-free transfer completes**, a download or
  an upload, for every content, every mode and every set of options.
-/

import TftpHarness.DownloadCompletion
import TftpHarness.Upload

set_option relaxedAutoImplicit false
set_option autoImplicit false

namespace TftpHarness

section Upload

variable (call : ClientCall) (payload : Bytes) (sc : EngineConfig) (files : Files)
  (addresses : Service.Addresses Endpoint)

/-- The handler of an upload may end its closing dally. -/
def UploadDally (st : Service.State Endpoint Bytes (ClientPhase SenderState) Handler Files)
    (l : Service.Label) : Prop :=
  ∃ k h r dally, l = .timeoutSession k ∧ st.sessions[k]? = some h ∧ h.phase = .receiving r ∧
    r.phase = .dallying dally

/-- An upload that has completed: the client and the handler have returned, and the file is what was
sent; the other files are as they were. -/
def UploadCompleted (path source : Bytes)
    (st : Service.State Endpoint Bytes (ClientPhase SenderState) Handler Files ×
      List (Service.Datagram Endpoint Bytes)) : Prop :=
  ∃ peer params s outcome h r,
    st.1.client = .finished peer params s outcome ∧ st.1.sessions = [h] ∧
      h.phase = .receiving r ∧ r.phase = .returned ∧
      CompletedTransfer (encodeForMode (modeIsNetascii call.mode) source) outcome r.outcome st.2 ∧
      st.1.shared = Function.update files path (some
        (if modeIsNetascii call.mode then decodeNetasciiToLocal (encodeLocalToNetascii source)
        else source))

/-- The files once the receiver of a handler stands at `r`. -/
def storedFiles (h : Handler) (r : ReceiverState) : Files :=
  if r.phase = .returned then
    Function.update files h.path (some (decodeForMode h.netascii r.sink))
  else files

/-- The first answer of a handler to a WRQ. -/
def writeAnswer (h : Handler) : Bytes :=
  if h.oackOptions = [] then serializeAcknowledgement 0
  else serializeOptionAcknowledgement h.oackOptions

/-- **The phases of an upload** received by `h`, with the number of steps left. -/
inductive Uploading (h : Handler) : ℕ →
    Service.State Endpoint Bytes (ClientPhase SenderState) Handler Files ×
      List (Service.Datagram Endpoint Bytes) → Prop
  /-- The WRQ is on its way. -/
  | requested {sent : List (Service.Datagram Endpoint Bytes)} (unsent : dataSent sent = []) :
      Uploading h (3 * (payload.length / h.params.blockSize + 1) + 3)
        (⟨.handshake 0, [], files,
          [⟨addresses.client, addresses.listener, writeRequestDatagram call payload⟩]⟩, sent)
  /-- The OACK or ACK 0 is on its way. -/
  | answered {sent : List (Service.Datagram Endpoint Bytes)} (unsent : dataSent sent = []) :
      Uploading h (3 * (payload.length / h.params.blockSize + 1) + 2)
        (⟨.handshake 0,
          [{ h with phase := .receiving (receiverStart h.params sc [] 1 none).1 }], files,
          [⟨addresses.session 0, addresses.client, writeAnswer h⟩]⟩, sent)
  | transferring {sent network : List (Service.Datagram Endpoint Bytes)} {shared : Files}
      {params : NegotiatedParameters} (blockSize : params.blockSize = h.params.blockSize)
      (windowSize : params.windowSize = h.params.windowSize) {s : SenderState}
      {r : ReceiverState} {data acks : List ℕ}
      (flow : Flow payload params h.params call.config s r data acks)
      (blocksSent : dataSent sent =
        (indexRange 1 s.highestSent).map (dataDatagram payload params))
      (inTransit : network =
        blockDatagrams payload params addresses.client (addresses.session 0) data ++
          ackDatagrams (addresses.session 0) addresses.client acks)
      (stored : shared = storedFiles files h r) :
      Uploading h (stepsLeft (payload.length / h.params.blockSize + 1) r acks)
        (⟨writeFileFinish (addresses.session 0) params s, [{ h with phase := .receiving r }],
          shared, network⟩, sent)

end Upload

/-! ### What a datagram does to a client or a handler -/

section Upload

variable {call : ClientCall} {payload : Bytes} {sc : EngineConfig} {files : Files}

/-- An ACK reaches the sender of a client. -/
theorem writeFileReceive_ack {peer : Endpoint} {params : NegotiatedParameters} {s : SenderState}
    (hrun : s.returned = false) (a : ℕ) :
    writeFileReceive call payload (writeFileFinish peer params s) (.datagram peer (ackDatagram a)) =
      (writeFileFinish peer params (senderReceive payload params call.config s (.gotPacket
          { opcode := .acknowledgement, blockNumber := wireBlockNumber a })).1,
        (senderReceive payload params call.config s (.gotPacket
          { opcode := .acknowledgement, blockNumber := wireBlockNumber a })).2.map fun i =>
            (peer, dataDatagram payload params i)) := by
  have hrun' : (dataSender payload params call.config).returned s = false := hrun
  have hphase : writeFileFinish peer params s = .transfer peer params s := by
    simp [writeFileFinish, hrun]
  simp only [hphase, writeFileReceive, PeerLoop.onEvent_packet hrun' (ackDatagram_ne_nil a)
    (parse_ackDatagram a)]
  rfl

/-- A receiver that goes on stores nothing. -/
theorem storeUpload_running {h : Handler} {r r' : ReceiverState} (hphase : r'.phase ≠ .returned) :
    storeUpload h files r r' = files := by
  simp [storeUpload, hphase]

/-- A block reaches the receiver of a handler. -/
theorem handlerReceive_data {client : Endpoint} {h : Handler} (hclient : h.clientEndpoint = client)
    {sp : NegotiatedParameters} {r : ReceiverState} (hphase : r.phase = .receiving) (i : ℕ) :
    handlerReceive sc files { h with phase := .receiving r }
        (.datagram client (dataDatagram payload sp i)) =
      (storeUpload h files r (receiverReceive h.params sc r (.gotPacket
          { opcode := .data, blockNumber := wireBlockNumber i,
            data := blockPayload payload i sp.blockSize })).1,
        { h with phase := .receiving (receiverReceive h.params sc r (.gotPacket
          { opcode := .data, blockNumber := wireBlockNumber i,
            data := blockPayload payload i sp.blockSize })).1 },
        (receiverReceive h.params sc r (.gotPacket
          { opcode := .data, blockNumber := wireBlockNumber i,
            data := blockPayload payload i sp.blockSize })).2.map fun a =>
              (client, ackDatagram a)) := by
  subst hclient
  have hrun : (dataReceiver h.params sc).returned r = false := by simp [dataReceiver, hphase]
  simp only [handlerReceive, PeerLoop.onEvent_packet hrun (dataDatagram_ne_nil payload sp i)
    (parse_dataDatagram payload sp i)]
  rfl

/-- The end of the dally of a handler, which writes the file. -/
theorem handlerReceive_dally {h : Handler} {r : ReceiverState} {dally : ℕ}
    (hphase : r.phase = .dallying dally) :
    handlerReceive sc files { h with phase := .receiving r } .wouldBlock =
      (storedFiles files h (receiverFinish r), { h with phase := .receiving (receiverFinish r) },
        []) := by
  have hrun : (dataReceiver h.params sc).returned r = false := by simp [dataReceiver, hphase]
  have hreact : receiverReceive h.params sc r .timedOut = (receiverFinish r, []) := by
    simp only [receiverReceive, hphase]
  simp only [handlerReceive, PeerLoop.onEvent_wouldBlock hrun]
  simp only [dataReceiver, hreact, storeUpload, storedFiles, hphase, receiverFinish, List.map_nil]
  simp

variable (call payload) in
/-- What is known of the handler that receives an upload from `client`. -/
structure ReadyWriter (client : Endpoint) (h : Handler) : Prop where
  client_eq : h.clientEndpoint = client
  netascii_eq : h.netascii = modeIsNetascii call.mode
  unsent : ∀ source target : Endpoint, dataSent [⟨source, target, writeAnswer h⟩] = []
  framed : ∀ params : NegotiatedParameters, params.blockSize = h.params.blockSize →
    params.windowSize = h.params.windowSize →
      Framed payload params h.params ∧ params.windowSize ≤ 65535
  accepted : ∃ params : NegotiatedParameters, (∀ peer, writeFileReceive call payload (.handshake 0)
      (.datagram peer (writeAnswer h)) = writeFileTransfer call payload peer params) ∧
    params.blockSize = h.params.blockSize ∧ params.windowSize = h.params.windowSize

/-- The handler of an upload as it stands at its first receive. -/
theorem handleWriteRequest_eq {client : Endpoint} (path : Bytes) :
    handleWriteRequest sc (openedWriter call sc client path) (writeRequestPacket call payload) =
      ({ openedWriter call sc client path with
          params := (writeNegotiated call payload sc).2
          oackOptions := (writeNegotiated call payload sc).1
          phase := .receiving (receiverStart (writeNegotiated call payload sc).2 sc [] 1 none).1 },
        [(client, if (writeNegotiated call payload sc).1 = [] then serializeAcknowledgement 0
          else serializeOptionAcknowledgement (writeNegotiated call payload sc).1)]) := rfl

theorem readyWriter_openedWriter {addresses : Service.Addresses Endpoint} {path : Bytes}
    (hends : CorrectEnds call sc addresses)
    (hblocks : payload.length / (writeNegotiated call payload sc).2.blockSize + 1 <
      2 ^ 32 - 65536) :
    ReadyWriter call payload addresses.client { openedWriter call sc addresses.client path with
      params := (writeNegotiated call payload sc).2
      oackOptions := (writeNegotiated call payload sc).1 } := by
  have hb := hends.defaultBlockSize_pos
  have hrequest := requested_writeRequestPacket call payload
  have hclean : ∀ o ∈ (writeNegotiated call payload sc).1, o.Clean :=
    clean_negotiateServerOptions (fun o ho => (hrequest o ho).clean) _
  refine ⟨rfl, rfl, ?_, ?_, ?_⟩
  · intro source target
    refine dataSent_eq_nil fun d hd => ?_
    rw [List.mem_singleton.1 hd]
    simp only [writeAnswer]
    split
    · exact ⟨_, parse_ackDatagram 0, by simp⟩
    · exact ⟨_, parse_serializeOptionAcknowledgement hclean, by simp⟩
  · intro params hblock hwindow
    exact Framed.of_negotiated hb hblocks hblock hwindow hblock.symm hwindow.symm
  · by_cases hoack : (writeNegotiated call payload sc).1 = []
    · have hplain : (writeNegotiated call payload sc).2 = defaultParameters sc :=
        negotiateServerOptions_nil hoack
      refine ⟨defaultParameters call.config, fun peer => ?_, ?_, ?_⟩
      · simp only [writeAnswer, hoack, if_true, writeFileReceive]
        rw [firstReply_datagram (serializeAcknowledgement_ne_nil 0) (parse_ackDatagram 0)]
        rfl
      · simp only [hplain, defaultParameters, hends.defaultBlockSize_eq]
      · simp only [hplain, defaultParameters]
    · obtain ⟨params, happly, hblock, hwindow⟩ :=
        @applyOackToClient_negotiateServerOptions sc none (effectiveOptions call payload)
          (fun size hsize => absurd hsize (by simp)) (writeRequestPacket call payload) hrequest
          (defaultParameters sc) (defaultParameters call.config) hends.defaultBlockSize_eq rfl
      rw [← writeNegotiated] at happly
      refine ⟨params, fun peer => ?_, hblock, hwindow⟩
      simp only [writeAnswer, hoack, if_false, writeFileReceive,
        firstReply_datagram (serializeOptionAcknowledgement_ne_nil _)
          (parse_serializeOptionAcknowledgement hclean), writeFileReply, happly]

/-! ### The steps of an upload -/

section Step

variable {addresses : Service.Addresses Endpoint} {served : ServedDirectory}
  {sent : List (Service.Datagram Endpoint Bytes)} {h : Handler}
  {t : Service.State Endpoint Bytes (ClientPhase SenderState) Handler Files ×
    List (Service.Datagram Endpoint Bytes)}
  (hends : CorrectEnds call sc addresses) (hready : ReadyWriter call payload addresses.client h)

include hready

/-- **The WRQ opens the handler.** -/
theorem uploading_requested
    (haccept : acceptRequest sc served files addresses.client (writeRequestDatagram call payload) =
      some ({ h with phase := .receiving (receiverStart h.params sc [] 1 none).1 },
        [(addresses.client, writeAnswer h)]))
    (unsent : dataSent sent = [])
    (hnext : Service.LosslessNext (writeRoles call payload sc served) addresses UploadDally
      (⟨.handshake 0, [], files,
        [⟨addresses.client, addresses.listener, writeRequestDatagram call payload⟩]⟩, sent) t) :
    ∃ m, m < 3 * (payload.length / h.params.blockSize + 1) + 3 ∧
      Uploading call payload sc files addresses h m t := by
  have hquiet : ∀ l, ¬ UploadDally (⟨.handshake 0, [], files,
      [⟨addresses.client, addresses.listener, writeRequestDatagram call payload⟩]⟩ :
        Service.State Endpoint Bytes (ClientPhase SenderState) Handler Files) l := by
    rintro l ⟨k, g, r, dally, -, hk, -⟩
    exact absurd hk (by simp)
  have hdeliver := @Service.deliver_listener _ _ _ _ _ _ (writeRoles call payload sc served)
    addresses ⟨.handshake 0, [], files,
      [⟨addresses.client, addresses.listener, writeRequestDatagram call payload⟩]⟩ []
    ⟨addresses.client, addresses.listener, writeRequestDatagram call payload⟩ rfl _
    (by rw [writeRoles, serviceRoles_accept]; exact haccept)
  have ht := Service.losslessNext_single rfl hquiet hnext
  simp only [hdeliver, Service.openSession, Service.sendsFrom, List.map_cons, List.map_nil,
    List.nil_append, List.length_nil] at ht
  rw [ht]
  refine ⟨3 * (payload.length / h.params.blockSize + 1) + 2, by omega, .answered ?_⟩
  rw [dataSent_append, unsent, List.nil_append]
  exact hready.unsent _ _

/-- **The first answer opens the data plane of the client**, with the parameters of the handler. -/
theorem uploading_answered (homit : call.config.quirks.omitTerminatingEmptyBlock = false)
    (unsent : dataSent sent = [])
    (hnext : Service.LosslessNext (writeRoles call payload sc served) addresses UploadDally
      (⟨.handshake 0, [{ h with phase := .receiving (receiverStart h.params sc [] 1 none).1 }],
        files, [⟨addresses.session 0, addresses.client, writeAnswer h⟩]⟩, sent) t) :
    ∃ m, m < 3 * (payload.length / h.params.blockSize + 1) + 2 ∧
      Uploading call payload sc files addresses h m t := by
  obtain ⟨params, hreact, hblock, hwindow⟩ := hready.accepted
  have hflow := flow_start (hready.framed _ hblock hwindow).1 homit sc
  have hquiet : ∀ l, ¬ UploadDally (⟨.handshake 0,
      [{ h with phase := .receiving (receiverStart h.params sc [] 1 none).1 }], files,
      [⟨addresses.session 0, addresses.client, writeAnswer h⟩]⟩ :
        Service.State Endpoint Bytes (ClientPhase SenderState) Handler Files) l := by
    rintro l ⟨k, g, r, dally, -, hk, hphase, hdally⟩
    rw [List.mem_singleton.1 (List.mem_of_getElem? hk)] at hphase
    cases hphase
    exact absurd hdally (by simp [receiverStart])
  have ht := Service.losslessNext_single rfl hquiet hnext
  simp only [Service.deliver_client, Service.reactClient, writeRoles, serviceRoles, eventOf, hreact,
    writeFileTransfer, List.nil_append, sendsFrom_blocks] at ht
  rw [ht]
  have hsent : dataSent (sent ++ blockDatagrams payload params addresses.client
      (addresses.session 0)
      (senderStart payload params call.config 0).2) =
        (indexRange 1 (senderStart payload params call.config 0).1.highestSent).map
          (dataDatagram payload params) := by
    rw [dataSent_append, unsent, List.nil_append, dataSent_blockDatagrams, hflow.data_eq]
    rfl
  refine ⟨_, ?_, .transferring hblock hwindow hflow hsent (by simp [ackDatagrams]) rfl⟩
  rw [stepsLeft_start]
  omega

include hends

/-- **A block reaches the handler**, which acknowledges it if it ends the window or the file. -/
theorem uploading_data {params : NegotiatedParameters}
    (hblock : params.blockSize = h.params.blockSize)
    (hwindow : params.windowSize = h.params.windowSize) {s : SenderState}
    {r : ReceiverState} {i : ℕ}
    {data acks : List ℕ} (hflow : Flow payload params h.params call.config s r (i :: data) acks)
    (hsent : dataSent sent = (indexRange 1 s.highestSent).map (dataDatagram payload params))
    {network : List (Service.Datagram Endpoint Bytes)}
    (ht₁ : t.1 = Service.deliver (writeRoles call payload sc served) addresses
      ⟨writeFileFinish (addresses.session 0) params s, [{ h with phase := .receiving r }],
        storedFiles files h r, network⟩
      (blockDatagrams payload params addresses.client (addresses.session 0) data ++
        ackDatagrams (addresses.session 0) addresses.client acks)
      ⟨addresses.client, addresses.session 0, dataDatagram payload params i⟩)
    (ht₂ : t.2 = sent ++ t.1.network.drop
      (blockDatagrams payload params addresses.client (addresses.session 0) data ++
        ackDatagrams (addresses.session 0) addresses.client acks).length) :
    ∃ m, m < stepsLeft (payload.length / h.params.blockSize + 1) r acks ∧
      Uploading call payload sc files addresses h m t := by
  have homit : call.config.quirks.omitTerminatingEmptyBlock = false := by rw [hends.client_quirks]
  have hskip : sc.quirks.acceptOutOfSequenceData = false := by rw [hends.server_quirks]
  have hf := (hready.framed _ hblock hwindow).1
  have htotal : senderTotalBlocks payload params call.config =
      payload.length / h.params.blockSize + 1 := by
    rw [hf.total_eq homit, hblock]
  obtain ⟨hphase, hgoes, hflow', hless⟩ :=
    Flow.data hf hblock.symm homit hskip hwindow.symm hflow rfl
  rw [htotal] at hless
  obtain ⟨st, sent'⟩ := t
  rw [Service.deliver_session (k := 0) (h := { h with phase := .receiving r }) rfl rfl] at ht₁
  simp only [Service.reactSession, writeRoles, serviceRoles, eventOf,
    handlerReceive_data hready.client_eq hphase, storeUpload_running hgoes, List.set_cons_zero,
    sendsFrom_acks] at ht₁
  subst ht₁
  simp only [List.drop_left] at ht₂
  subst ht₂
  refine ⟨_, hless, .transferring hblock hwindow hflow' ?_ ?_ ?_⟩
  · rw [dataSent_append, dataSent_ackDatagrams, List.append_nil]
    exact hsent
  · simp [ackDatagrams]
  · simp only [storedFiles, hphase, if_neg hgoes, reduceCtorEq, if_false]

/-- **An ACK reaches the client**, which sends the next window or returns. -/
theorem uploading_ack {params : NegotiatedParameters}
    (hblock : params.blockSize = h.params.blockSize)
    (hwindow : params.windowSize = h.params.windowSize) {s : SenderState}
    {r : ReceiverState} {a : ℕ}
    {acks : List ℕ} (hflow : Flow payload params h.params call.config s r [] (a :: acks))
    (hsent : dataSent sent = (indexRange 1 s.highestSent).map (dataDatagram payload params))
    {network : List (Service.Datagram Endpoint Bytes)}
    (ht₁ : t.1 = Service.deliver (writeRoles call payload sc served) addresses
      ⟨writeFileFinish (addresses.session 0) params s, [{ h with phase := .receiving r }],
        storedFiles files h r, network⟩
      (ackDatagrams (addresses.session 0) addresses.client acks)
      ⟨addresses.session 0, addresses.client, ackDatagram a⟩)
    (ht₂ : t.2 = sent ++ t.1.network.drop
      (ackDatagrams (addresses.session 0) addresses.client acks).length) :
    ∃ m, m < stepsLeft (payload.length / h.params.blockSize + 1) r (a :: acks) ∧
      Uploading call payload sc files addresses h m t := by
  have homit : call.config.quirks.omitTerminatingEmptyBlock = false := by rw [hends.client_quirks]
  have hdup : call.config.quirks.retransmitOnDuplicateAck = false := by rw [hends.client_quirks]
  obtain ⟨hf, hwindow_le⟩ := hready.framed _ hblock hwindow
  have htotal : senderTotalBlocks payload params call.config =
      payload.length / h.params.blockSize + 1 := by
    rw [hf.total_eq homit, hblock]
  obtain ⟨rfl, rfl, -, hrun, harrived, -, -⟩ := hflow.sender_turn
  obtain ⟨hflow', hless⟩ := Flow.ack hf hblock.symm homit hdup hwindow_le hflow rfl
  rw [htotal] at hless
  obtain ⟨st, sent'⟩ := t
  simp only [Service.deliver_client, Service.reactClient, writeRoles, serviceRoles, eventOf,
    writeFileReceive_ack hrun, sendsFrom_blocks] at ht₁
  subst ht₁
  simp only [List.drop_left] at ht₂
  subst ht₂
  have hmore := hflow'.safe.received_le
  refine ⟨_, hless, .transferring hblock hwindow hflow' ?_ (by simp [ackDatagrams]) rfl⟩
  rw [dataSent_append, dataSent_blockDatagrams, hsent, hflow'.data_eq, ← harrived,
    ← List.map_append, indexRange_append (by omega) hmore]

/-- **The handler ends its dally**, and the file is there. -/
theorem uploading_dally {params : NegotiatedParameters}
    (hblock : params.blockSize = h.params.blockSize)
    (hwindow : params.windowSize = h.params.windowSize) {s : SenderState} {r r' : ReceiverState}
    {data acks : List ℕ} (hflow : Flow payload params h.params call.config s r data acks)
    (hsent : dataSent sent = (indexRange 1 s.highestSent).map (dataDatagram payload params))
    {k : ℕ} {g g' : Handler} (hk : [{ h with phase := .receiving r }][k]? = some g)
    (hk' : [{ h with phase := .receiving r }][k]? = some g') (hphase : g'.phase = .receiving r')
    {dally : ℕ} (hdally : r'.phase = .dallying dally)
    (ht₁ : t.1 = Service.reactSession (writeRoles call payload sc served) addresses
      ⟨writeFileFinish (addresses.session 0) params s, [{ h with phase := .receiving r }],
        storedFiles files h r,
        blockDatagrams payload params addresses.client (addresses.session 0) data ++
          ackDatagrams (addresses.session 0) addresses.client acks⟩
      (blockDatagrams payload params addresses.client (addresses.session 0) data ++
        ackDatagrams (addresses.session 0) addresses.client acks) k g none)
    (ht₂ : t.2 = sent ++ t.1.network.drop
      (blockDatagrams payload params addresses.client (addresses.session 0) data ++
        ackDatagrams (addresses.session 0) addresses.client acks).length) :
    ∃ m, m < stepsLeft (payload.length / h.params.blockSize + 1) r acks ∧
      Uploading call payload sc files addresses h m t := by
  have homit : call.config.quirks.omitTerminatingEmptyBlock = false := by rw [hends.client_quirks]
  have hzero : k = 0 := by
    have hlt := (List.getElem?_eq_some_iff.1 hk).1
    simp only [List.length_cons, List.length_nil] at hlt
    omega
  subst hzero
  obtain rfl : { h with phase := .receiving r } = g := Option.some.inj hk
  obtain rfl : { h with phase := .receiving r } = g' := Option.some.inj hk'
  obtain rfl : r = r' := by
    cases hphase
    rfl
  obtain ⟨hflow', hless⟩ := hflow.dally hdally
  rw [(hready.framed _ hblock hwindow).1.total_eq homit, hblock] at hless
  have hfiles : storedFiles files h r = files := by simp [storedFiles, hdally]
  obtain ⟨st, sent'⟩ := t
  simp only [hfiles, Service.reactSession, writeRoles, serviceRoles, eventOf,
    handlerReceive_dally hdally, Service.sendsFrom, List.map_nil, List.append_nil,
    List.set_cons_zero] at ht₁
  subst ht₁
  simp only [List.drop_length, List.append_nil] at ht₂
  subst ht₂
  exact ⟨_, hless, .transferring hblock hwindow hflow' hsent rfl rfl⟩

/-- **A step of the data plane.** -/
theorem uploading_transferring {network : List (Service.Datagram Endpoint Bytes)}
    {params : NegotiatedParameters} (hblock : params.blockSize = h.params.blockSize)
    (hwindow : params.windowSize = h.params.windowSize) {s : SenderState} {r : ReceiverState}
    {data acks : List ℕ} (hflow : Flow payload params h.params call.config s r data acks)
    (hsent : dataSent sent = (indexRange 1 s.highestSent).map (dataDatagram payload params))
    (hinTransit : network =
      blockDatagrams payload params addresses.client (addresses.session 0) data ++
        ackDatagrams (addresses.session 0) addresses.client acks)
    (hnext : Service.LosslessNext (writeRoles call payload sc served) addresses UploadDally
      (⟨writeFileFinish (addresses.session 0) params s, [{ h with phase := .receiving r }],
        storedFiles files h r, network⟩, sent) t) :
    ∃ m, m < stepsLeft (payload.length / h.params.blockSize + 1) r acks ∧
      Uploading call payload sc files addresses h m t := by
  subst hinTransit
  have hlink := oneLink_of_oneWay payload params addresses.client (addresses.session 0) hflow.oneWay
  rcases Service.losslessNext_cases hnext hlink with ⟨d, rest, hnetwork, ht₁, ht₂⟩ |
    ⟨hmay, -⟩ | ⟨k, g, hmay, hk, ht₁, ht₂⟩
  · cases data with
    | cons i data =>
        obtain ⟨rfl, rfl⟩ := List.cons.inj hnetwork
        exact uploading_data hends hready hblock hwindow hflow hsent ht₁ ht₂
    | nil =>
        cases acks with
        | cons a acks =>
            obtain ⟨rfl, rfl⟩ := List.cons.inj hnetwork
            exact uploading_ack hends hready hblock hwindow hflow hsent ht₁ ht₂
        | nil => exact absurd hnetwork (by simp [blockDatagrams, ackDatagrams])
  · obtain ⟨k, g, r', dally, hl, -⟩ := hmay
    exact absurd hl (by simp)
  · obtain ⟨k', g', r', dally, hl, hk', hphase, hdally⟩ := hmay
    cases hl
    exact uploading_dally hends hready hblock hwindow hflow hsent hk hk' hphase hdally ht₁ ht₂

/-- **Every event of an upload leads to a phase with fewer steps left.** -/
theorem uploading_next
    (haccept : acceptRequest sc served files addresses.client (writeRequestDatagram call payload) =
      some ({ h with phase := .receiving (receiverStart h.params sc [] 1 none).1 },
        [(addresses.client, writeAnswer h)])) {n : ℕ}
    {st : Service.State Endpoint Bytes (ClientPhase SenderState) Handler Files ×
      List (Service.Datagram Endpoint Bytes)}
    (hst : Uploading call payload sc files addresses h n st)
    (hnext : Service.LosslessNext (writeRoles call payload sc served) addresses UploadDally st t) :
    ∃ m, m < n ∧ Uploading call payload sc files addresses h m t := by
  cases hst with
  | requested unsent => exact uploading_requested hready haccept unsent hnext
  | answered unsent =>
      have homit : call.config.quirks.omitTerminatingEmptyBlock = false := by
        rw [hends.client_quirks]
      exact uploading_answered hready homit unsent hnext
  | transferring blockSize windowSize flow blocksSent inTransit stored =>
      subst stored
      exact uploading_transferring hends hready blockSize windowSize flow blocksSent inTransit hnext

/-- **Where an upload cannot go on it has completed.** -/
theorem uploading_done {path source : Bytes} (hpath : h.path = path)
    (hpayload : payload = encodeForMode (modeIsNetascii call.mode) source) {n : ℕ}
    {st : Service.State Endpoint Bytes (ClientPhase SenderState) Handler Files ×
      List (Service.Datagram Endpoint Bytes)}
    (hst : Uploading call payload sc files addresses h n st)
    (hended : ∀ t, ¬ Service.LosslessNext (writeRoles call payload sc served) addresses UploadDally
      st t) : UploadCompleted call files path source st := by
  have homit : call.config.quirks.omitTerminatingEmptyBlock = false := by rw [hends.client_quirks]
  have hempty : st.1.network = [] := by
    by_contra hne
    obtain ⟨t, ht⟩ := @Service.exists_losslessNext_deliver _ _ _ _ _ _
      (writeRoles call payload sc served) addresses UploadDally st hne
    exact hended t ht
  cases hst with
  | requested unsent => exact absurd hempty (by simp)
  | answered unsent => exact absurd hempty (by simp)
  | @transferring sent network shared params blockSize windowSize s r data acks flow blocksSent
      inTransit stored =>
      obtain ⟨rfl, rfl⟩ : data = [] ∧ acks = [] := by
        simpa [blockDatagrams, ackDatagrams] using inTransit.symm.trans hempty
      have hf := (hready.framed _ blockSize windowSize).1
      have hdally : ∀ dally, r.phase ≠ .dallying dally := by
        intro dally hphase
        obtain ⟨t, ht⟩ := @Service.exists_losslessNext _ _ _ _ _ _
          (writeRoles call payload sc served) addresses UploadDally
          (⟨writeFileFinish (addresses.session 0) params s, [{ h with phase := .receiving r }],
            shared, network⟩, sent) _ (.timeoutSession 0)
              ⟨0, _, r, dally, rfl, rfl, rfl, hphase⟩ rfl
        exact hended t ht
      obtain ⟨hreturned, -, -, hphase, -, -, hsink⟩ := flow.complete hf blockSize.symm homit hdally
      have htransfer :=
        flow.completedTransfer hf blockSize.symm windowSize.symm homit hdally blocksSent
      have hnegotiated : { s.outcome with negotiated := params } = s.outcome := by
        rw [← flow.tally.sender_negotiated]
      refine ⟨addresses.session 0, params, s, s.outcome, { h with phase := .receiving r }, r, ?_,
        rfl,
        rfl, hphase, ?_, ?_⟩
      · simp only [writeFileFinish, hreturned, if_true, hnegotiated]
      · rw [← hpayload]
        exact htransfer
      · simp only [stored, storedFiles, hphase, if_true, hsink, hpath, hready.netascii_eq, hpayload,
          decodeForMode_encodeForMode]

end Step

end Upload

/-! ### Both directions -/

section Complete

variable {call : ClientCall} {sc : EngineConfig} {served : ServedDirectory}
  {addresses : Service.Addresses Endpoint} {files : Files} {path source : Bytes}
  (hends : CorrectEnds call sc addresses)
  (hpath : resolveServedPath served call.remoteFilename = some path)

include hends hpath

/-- A download of a file of less than 2^32 - 65536 blocks completes. -/
theorem download_inevitable {file : DestinationFile} {before : Option Bytes}
    (hwrite : ∀ bytes, (file.write bytes).1 = true) (hsource : files path = some source)
    (hblocks : (encodeForMode (modeIsNetascii call.mode) source).length / (readNegotiated call sc
      (encodeForMode (modeIsNetascii call.mode) source).length).2.blockSize + 1 < 2 ^ 32 - 65536) :
    Service.Inevitable
      (Service.LosslessNext (readRoles call file sc served) addresses DownloadDally)
      (DownloadCompleted call source)
      (Service.recorded (downloadStart call files addresses before)) := by
  have hready := @readyReader_openedReader call sc addresses path source hends hblocks
  have haccept := @acceptRequest_readRequest call sc served files addresses.client hends.filename
    hends.mode path source hpath hsource
  have hunsent :
      dataSent [⟨addresses.client, addresses.listener, readRequestDatagram call⟩] = [] := by
    refine dataSent_eq_nil fun d hd => ?_
    rw [List.mem_singleton.1 hd]
    exact ⟨_, parse_readRequestDatagram hends.filename hends.mode, by simp [readRequestPacket]⟩
  have hattempt : readFileStart call before = (⟨.handshake 0, before⟩,
      [(addresses.listener, readRequestDatagram call)]) := by
    rw [hends.listener]
    simp only [readFileStart, readFileAttempt, attemptRequest]
    rw [if_pos (by exact_mod_cast hends.client_sends)]
  have hstart : Service.recorded (downloadStart call files addresses before) =
      (⟨⟨.handshake 0, before⟩, [], files,
        [⟨addresses.client, addresses.listener, readRequestDatagram call⟩]⟩,
        [⟨addresses.client, addresses.listener, readRequestDatagram call⟩]) := by
    simp only [Service.recorded, downloadStart, hattempt, Service.sendsFrom, List.map_cons,
      List.map_nil]
  rw [hstart]
  exact Service.inevitable_of_rank
    (fun n st t hst hnext => downloading_next hends hready haccept hst hnext)
    (fun n st hst hended => downloading_done hends hready rfl hwrite hst hended)
    (.requested hunsent)

/-- An upload of less than 2^32 - 65536 blocks to a file that may be written completes. -/
theorem upload_inevitable
    (hallowed : ¬ (sc.rejectOverwriteOnWriteRequest = true ∧ (files path).isSome = true))
    {payload : Bytes} (hpayload : payload = encodeForMode (modeIsNetascii call.mode) source)
    (hblocks : payload.length / (writeNegotiated call payload sc).2.blockSize + 1 <
      2 ^ 32 - 65536) :
    Service.Inevitable
      (Service.LosslessNext (writeRoles call payload sc served) addresses UploadDally)
      (UploadCompleted call files path source)
      (Service.recorded (uploadStart call payload files addresses)) := by
  have hready := @readyWriter_openedWriter call payload sc addresses path hends hblocks
  have haccept := @acceptRequest_writeRequest call payload sc addresses.client served files
    hends.filename hends.mode path hpath hallowed
  rw [handleWriteRequest_eq] at haccept
  have hunsent :
      dataSent [⟨addresses.client, addresses.listener, writeRequestDatagram call payload⟩] =
        [] := by
    refine dataSent_eq_nil fun d hd => ?_
    rw [List.mem_singleton.1 hd]
    exact ⟨_, parse_writeRequestDatagram hends.filename hends.mode, by simp [writeRequestPacket]⟩
  have hattempt : writeFileStart call payload = (.handshake 0,
      [(addresses.listener, writeRequestDatagram call payload)]) := by
    rw [hends.listener]
    simp only [writeFileStart, writeFileAttempt, attemptRequest]
    rw [if_pos (by exact_mod_cast hends.client_sends)]
  have hstart : Service.recorded (uploadStart call payload files addresses) =
      (⟨.handshake 0, [], files,
        [⟨addresses.client, addresses.listener, writeRequestDatagram call payload⟩]⟩,
        [⟨addresses.client, addresses.listener, writeRequestDatagram call payload⟩]) := by
    simp only [Service.recorded, uploadStart, hattempt, Service.sendsFrom, List.map_cons,
      List.map_nil]
  rw [hstart]
  exact Service.inevitable_of_rank
    (fun n st t hst hnext => uploading_next hends hready haccept hst hnext)
    (fun n st hst hended => uploading_done hends hready rfl hpayload hst hended)
    (.requested hunsent)

end Complete

/-- **Every loss-free transfer completes.**  A client and a server with one default block size work
by the book, and the network delivers every datagram once and in order, before anybody times out
but the receiver in its closing dally.  Then every run of a download or an upload of less than
2^32 - 65536 blocks ends, whatever the content, the mode, the requested options and the supported
ones, and where it ends both ends have succeeded with the same parameters, every block has been
sent once, and the destination holds the source, in netascii mode in its canonical form. -/
theorem lossless_transfers_complete {call : ClientCall} {sc : EngineConfig}
    {served : ServedDirectory}
    {addresses : Service.Addresses Endpoint} {files : Files} {path source : Bytes}
    (hends : CorrectEnds call sc addresses)
    (hpath : resolveServedPath served call.remoteFilename = some path) :
    (∀ (file : DestinationFile) (before : Option Bytes), (∀ bytes, (file.write bytes).1 = true) →
      files path = some source →
      (encodeForMode (modeIsNetascii call.mode) source).length / (readNegotiated call sc
        (encodeForMode (modeIsNetascii call.mode) source).length).2.blockSize + 1 <
          2 ^ 32 - 65536 →
      Service.Inevitable
        (Service.LosslessNext (readRoles call file sc served) addresses DownloadDally)
        (DownloadCompleted call source)
        (Service.recorded (downloadStart call files addresses before))) ∧
    (¬ (sc.rejectOverwriteOnWriteRequest = true ∧ (files path).isSome = true) →
      ∀ payload : Bytes, payload = encodeForMode (modeIsNetascii call.mode) source →
        payload.length / (writeNegotiated call payload sc).2.blockSize + 1 < 2 ^ 32 - 65536 →
          Service.Inevitable
            (Service.LosslessNext (writeRoles call payload sc served) addresses UploadDally)
            (UploadCompleted call files path source)
            (Service.recorded (uploadStart call payload files addresses))) := by
  constructor
  · intro file before hwrite hsource hblocks
    exact download_inevitable hends hpath hwrite hsource hblocks
  · intro hallowed payload hpayload hblocks
    exact upload_inevitable hends hpath hallowed hpayload hblocks

/-- A call that transfers `f` in netascii, in windows of two blocks of eight bytes. -/
def netasciiCall : ClientCall where
  serverEndpoint := addressesByPort.listener
  remoteFilename := text "f"
  mode := text "netascii"
  options := { blockSize := some 8, transferSize := some 0, windowSize := some 2 }
  config := {}

/-- Sixteen bytes and a line feed, which netascii turns into eighteen. -/
theorem lossless_transfers_complete_netascii :
    Service.Inevitable
        (Service.LosslessNext (readRoles netasciiCall writableFile {} plainDirectory)
          addressesByPort
          DownloadDally)
        (DownloadCompleted netasciiCall (List.replicate 16 7 ++ [10]))
        (Service.recorded (downloadStart netasciiCall
          (Function.update (fun _ => none) (text "f") (some (List.replicate 16 7 ++ [10])))
          addressesByPort none)) ∧
      Service.Inevitable
        (Service.LosslessNext (writeRoles netasciiCall
          (encodeForMode true (List.replicate 16 7 ++ [10])) {} plainDirectory) addressesByPort
          UploadDally)
        (UploadCompleted netasciiCall (fun _ => none) (text "f") (List.replicate 16 7 ++ [10]))
        (Service.recorded (uploadStart netasciiCall
          (encodeForMode true (List.replicate 16 7 ++ [10])) (fun _ => none) addressesByPort)) := by
  have hends : CorrectEnds netasciiCall {} addressesByPort :=
    ⟨rfl, rfl, rfl, by decide, by decide, by decide, by decide, by decide +kernel,
      by decide +kernel,
      rfl⟩
  have hpath : resolveServedPath plainDirectory netasciiCall.remoteFilename = some (text "f") := by
    decide +kernel
  refine ⟨(lossless_transfers_complete hends hpath).1 writableFile none (fun _ => rfl) ?_ ?_,
    (lossless_transfers_complete hends hpath).2 ?_ _ ?_ ?_⟩
  · exact Function.update_self _ _ _
  · decide +kernel
  · decide
  · decide +kernel
  · decide +kernel

end TftpHarness
