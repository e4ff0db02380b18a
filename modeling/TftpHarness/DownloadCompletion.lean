/-
**A download completes when nothing is lost.**

A client and a server that agree on the default block size run one download over a network that
delivers every datagram once and in order; nobody's receive times out but that of the client, which
leaves its closing dally in this way.  The handshake is a sequence of single datagrams: the
request, then the OACK and its ACK, or the first block of a server without options.  It leaves both
ends with one block size and one window, whatever was requested and whatever the two support, and
from there on the data plane is a flow.  So every run ends, and ends with both ends successful.

Main definitions:

* `TftpHarness.CorrectEnds` — what the two ends of a transfer have to have in common;
* `TftpHarness.CompletedTransfer` — a transfer that has completed without sending anything twice;
* `TftpHarness.DownloadCompleted` — a completed download;
* `TftpHarness.Downloading` — the phases of a download, with the number of steps left.

Main results:

* `TftpHarness.Flow.completedTransfer` — a flow that has ended is a completed transfer;
* `TftpHarness.downloading_next` — every event leads to a phase with fewer steps left;
* `TftpHarness.downloading_done` — **where a download cannot go on it has completed**.
-/

import TftpHarness.Download
import TftpHarness.Flow
import TftpHarness.Lossless

set_option relaxedAutoImplicit false
set_option autoImplicit false

namespace TftpHarness

/-! ### What completion means -/

/-- A datagram that parses as DATA. -/
def isData (bytes : Bytes) : Bool :=
  match parseDatagram bytes with
  | .ok packet => packet.opcode = .data
  | .error _ => false

/-- The DATA datagrams among those sent. -/
def dataSent (sent : List (Service.Datagram Endpoint Bytes)) : List Bytes :=
  (sent.map Service.Datagram.message).filter isData

/-- **A transfer that has completed without loss**, by the outcomes of its two ends and the
datagrams sent: both report success and the same parameters, and every block of the payload has
been sent once, in order. -/
structure CompletedTransfer (payload : Bytes) (sender receiver : TransferOutcome)
    (sent : List (Service.Datagram Endpoint Bytes)) : Prop where
  sender_success : sender.completedSuccessfully = true
  receiver_success : receiver.completedSuccessfully = true
  blockSize_eq : receiver.negotiated.blockSize = sender.negotiated.blockSize
  windowSize_eq : receiver.negotiated.windowSize = sender.negotiated.windowSize
  sender_retransmissions : sender.retransmissions = 0
  receiver_retransmissions : receiver.retransmissions = 0
  data_packets_sent : sender.dataPacketsSent =
    totalBlockCount payload.length sender.negotiated.blockSize
  data_packets_received : receiver.dataPacketsReceived =
    totalBlockCount payload.length sender.negotiated.blockSize
  data_count : (dataSent sent).length = totalBlockCount payload.length sender.negotiated.blockSize
  data_blocks : dataSent sent =
    (indexRange 1 (totalBlockCount payload.length sender.negotiated.blockSize)).map
      (dataDatagram payload sender.negotiated)

/-- What the two ends of a transfer have in common: the default block size; and both work by the
book and send at least once.  What they support is up to each of them. -/
structure CorrectEnds (call : ClientCall) (sc : EngineConfig)
    (addresses : Service.Addresses Endpoint) : Prop where
  client_quirks : call.config.quirks = {}
  server_quirks : sc.quirks = {}
  defaultBlockSize_eq : call.config.defaultBlockSize = sc.defaultBlockSize
  defaultBlockSize_pos : 1 ≤ sc.defaultBlockSize
  defaultBlockSize_le : sc.defaultBlockSize ≤ 65464
  client_sends : 0 ≤ call.config.maximumRetransmissions
  server_sends : 0 ≤ sc.maximumRetransmissions
  filename : (0 : UInt8) ∉ call.remoteFilename
  mode : (0 : UInt8) ∉ call.mode
  listener : addresses.listener = call.serverEndpoint

theorem dataSent_append (sent sent' : List (Service.Datagram Endpoint Bytes)) :
    dataSent (sent ++ sent') = dataSent sent ++ dataSent sent' := by
  simp only [dataSent, List.map_append, List.filter_append]

/-- Datagrams that parse as something else are not counted. -/
theorem dataSent_eq_nil {sent : List (Service.Datagram Endpoint Bytes)}
    (h : ∀ d ∈ sent, ∃ packet, parseDatagram d.message = .ok packet ∧ packet.opcode ≠ .data) :
    dataSent sent = [] := by
  refine List.filter_eq_nil_iff.2 fun bytes hbytes => ?_
  obtain ⟨d, hd, rfl⟩ := List.mem_map.1 hbytes
  obtain ⟨packet, hparse, hop⟩ := h d hd
  simp [isData, hparse, hop]

section Blocks

variable (payload : Bytes) (params : NegotiatedParameters) (source target : Endpoint)

/-- The datagrams of a list of blocks. -/
def blockDatagrams (blocks : List ℕ) : List (Service.Datagram Endpoint Bytes) :=
  blocks.map fun i => ⟨source, target, dataDatagram payload params i⟩

/-- The datagrams of a list of ACKs. -/
def ackDatagrams (acks : List ℕ) : List (Service.Datagram Endpoint Bytes) :=
  acks.map fun a => ⟨source, target, ackDatagram a⟩

theorem dataSent_blockDatagrams (blocks : List ℕ) :
    dataSent (blockDatagrams payload params source target blocks) =
      blocks.map (dataDatagram payload params) := by
  have hall : ∀ i, isData (dataDatagram payload params i) = true := by
    intro i
    simp [isData, parse_dataDatagram]
  simp [dataSent, blockDatagrams, Function.comp_def, List.filter_eq_self, hall]

theorem dataSent_ackDatagrams (acks : List ℕ) :
    dataSent (ackDatagrams source target acks) = [] := by
  refine dataSent_eq_nil fun d hd => ?_
  obtain ⟨a, -, rfl⟩ := List.mem_map.1 hd
  exact ⟨_, parse_ackDatagram a, by simp⟩

end Blocks

/-- Datagrams of a flow are on one link. -/
theorem oneLink_of_oneWay (payload : Bytes) (params : NegotiatedParameters)
    (source target : Endpoint) {data acks : List ℕ} (h : data = [] ∨ acks = []) :
    ∀ d ∈ blockDatagrams payload params source target data ++ ackDatagrams target source acks,
      ∀ e ∈ blockDatagrams payload params source target data ++ ackDatagrams target source acks,
        e.source = d.source ∧ e.target = d.target := by
  rcases h with rfl | rfl
  · simp [blockDatagrams, ackDatagrams]
  · simp [blockDatagrams, ackDatagrams]

/-- **A flow that has ended is a completed transfer.** -/
theorem Flow.completedTransfer {payload : Bytes} {sp rp : NegotiatedParameters} {sc : EngineConfig}
    {s : SenderState} {r : ReceiverState} (hf : Framed payload sp rp)
    (hblock : rp.blockSize = sp.blockSize) (hwindow : rp.windowSize = sp.windowSize)
    (homit : sc.quirks.omitTerminatingEmptyBlock = false) (h : Flow payload sp rp sc s r [] [])
    (hdally : ∀ dally, r.phase ≠ .dallying dally)
    {sent : List (Service.Datagram Endpoint Bytes)}
    (hserved : dataSent sent = (indexRange 1 s.highestSent).map (dataDatagram payload sp)) :
    CompletedTransfer payload s.outcome r.outcome sent := by
  obtain ⟨-, hsender, hlast, -, hreceiver, hall, -⟩ := h.complete hf hblock homit hdally
  have htotal : senderTotalBlocks payload sp sc = totalBlockCount payload.length sp.blockSize := by
    simp [senderTotalBlocks, homit]
  have hsn := h.tally.sender_negotiated
  have hrn := h.tally.receiver_negotiated
  refine ⟨hsender, hreceiver, ?_, ?_, h.tally.sender_retransmissions,
    h.tally.receiver_retransmissions, ?_, ?_, ?_, ?_⟩
  · rw [hsn, hrn, hblock]
  · rw [hsn, hrn, hwindow]
  · rw [h.tally.sent, hsn, hlast, htotal]
  · rw [h.tally.received, hsn, hall, htotal]
  · rw [hserved, hsn, hlast, htotal, List.length_map, length_indexRange, Nat.add_sub_cancel]
  · rw [hserved, hsn, hlast, htotal]

/-! ### The parameters of the two ends -/

section Negotiated

variable {request : TftpPacket} {config : EngineConfig} {actualFileSize : Option ℕ}
  {payload : Bytes}
  (hb : 1 ≤ config.defaultBlockSize)
  (hblocks : payload.length / (negotiateServerOptions request config actualFileSize
    (defaultParameters config)).2.blockSize + 1 < 2 ^ 32 - 65536)

include hb hblocks

/-- Two ends with what the server has negotiated frame a payload of less than 2^32 - 65536 blocks.
-/
theorem Framed.of_negotiated {sp rp : NegotiatedParameters}
    (hsb : sp.blockSize = (negotiateServerOptions request config actualFileSize
      (defaultParameters config)).2.blockSize)
    (hsw : sp.windowSize = (negotiateServerOptions request config actualFileSize
      (defaultParameters config)).2.windowSize)
    (hblock : rp.blockSize = sp.blockSize) (hwindow : rp.windowSize = sp.windowSize) :
    Framed payload sp rp ∧ sp.windowSize ≤ 65535 := by
  obtain ⟨hblockSize, hwindowSize⟩ :=
    negotiateServerOptions_range request config actualFileSize (defaultParameters config)
  rw [← hsb] at hblockSize hblocks
  rw [← hsw] at hwindowSize
  have hdefault : (defaultParameters config).blockSize = config.defaultBlockSize := rfl
  have hone : (defaultParameters config).windowSize = 1 := rfl
  have hwin : senderWindow sp ≤ 65535 := max_le (by omega) (by decide)
  have hwin' : receiverWindow rp ≤ 65535 := max_le (by omega) (by decide)
  exact ⟨Framed.of_eq (by omega) hblock (by omega) (by omega), by omega⟩

/-- Such a payload has a size that fits 64 bits. -/
theorem payload_length_lt (hle : config.defaultBlockSize ≤ 65464) : payload.length < 2 ^ 64 := by
  have hrange := (negotiateServerOptions_range request config actualFileSize
    (defaultParameters config)).1
  have hdefault : (defaultParameters config).blockSize = config.defaultBlockSize := rfl
  generalize (negotiateServerOptions request config actualFileSize
    (defaultParameters config)).2.blockSize = blockSize at hblocks hrange
  calc payload.length
      < (payload.length / blockSize + 1) * blockSize :=
        Nat.lt_mul_of_div_lt (Nat.lt_succ_self _) (by omega)
    _ ≤ (2 ^ 32 - 65536) * 65464 := Nat.mul_le_mul (le_of_lt hblocks) (by omega)
    _ < 2 ^ 64 := by decide

end Negotiated

/-! ### Downloads -/

section Download

variable (call : ClientCall) (file : DestinationFile) (sc : EngineConfig) (files : Files)
  (addresses : Service.Addresses Endpoint)

/-- The client of a download may end its closing dally. -/
def DownloadDally (st : Service.State Endpoint Bytes ReadFileState Handler Files)
    (l : Service.Label) : Prop :=
  l = .timeoutClient ∧ ∃ peer params r dally, st.client.phase = .transfer peer params r ∧
    r.phase = .dallying dally

/-- A download that has completed: the client and the handler have returned, and the destination
holds what was served. -/
def DownloadCompleted (source : Bytes)
    (st : Service.State Endpoint Bytes ReadFileState Handler Files ×
      List (Service.Datagram Endpoint Bytes)) : Prop :=
  ∃ peer params r outcome h s,
    st.1.client.phase = .finished peer params r outcome ∧ st.1.sessions = [h] ∧
      h.phase = .sending s ∧ s.returned = true ∧
      CompletedTransfer (encodeForMode (modeIsNetascii call.mode) source) s.outcome outcome st.2 ∧
      st.1.client.destination = some
        (if modeIsNetascii call.mode then decodeNetasciiToLocal (encodeLocalToNetascii source)
        else source)

/-- **The phases of a download** served by `h`, with the number of steps left. -/
inductive Downloading (h : Handler) (before : Option Bytes) : ℕ →
    Service.State Endpoint Bytes ReadFileState Handler Files ×
      List (Service.Datagram Endpoint Bytes) → Prop
  /-- The RRQ is on its way. -/
  | requested {sent : List (Service.Datagram Endpoint Bytes)} (unsent : dataSent sent = []) :
      Downloading h before (3 * senderTotalBlocks h.payload h.params sc + 5)
        (⟨⟨.handshake 0, before⟩, [], files,
          [⟨addresses.client, addresses.listener, readRequestDatagram call⟩]⟩, sent)
  /-- The OACK is on its way. -/
  | offered {sent : List (Service.Datagram Endpoint Bytes)} (unsent : dataSent sent = [])
      (oack : h.oackOptions ≠ []) :
      Downloading h before (3 * senderTotalBlocks h.payload h.params sc + 3)
        (⟨⟨.handshake 0, before⟩, [{ h with phase := .awaitingAck 0 }], files,
          [⟨addresses.session 0, addresses.client, serializeOptionAcknowledgement h.oackOptions⟩]⟩,
          sent)
  /-- The client has accepted the OACK, and its ACK is on its way. -/
  | agreed {sent : List (Service.Datagram Endpoint Bytes)} (unsent : dataSent sent = [])
      {params : NegotiatedParameters} (blockSize : params.blockSize = h.params.blockSize)
      (windowSize : params.windowSize = h.params.windowSize) :
      Downloading h before (3 * senderTotalBlocks h.payload h.params sc + 2)
        (⟨readFileFinish call file before (addresses.session 0) params
            (receiverStart params call.config [] 1 none).1,
          [{ h with phase := .awaitingAck 0 }], files,
          ackDatagrams addresses.client (addresses.session 0) [0]⟩, sent)
  /-- A server without an OACK has sent the first block. -/
  | answered {sent network : List (Service.Datagram Endpoint Bytes)} {s : SenderState}
      {data : List ℕ}
      (blockSize : (defaultParameters call.config).blockSize = h.params.blockSize)
      (windowSize : (defaultParameters call.config).windowSize = h.params.windowSize)
      (flow : Flow h.payload h.params (defaultParameters call.config) sc s
        (receiverStart (defaultParameters call.config) call.config [] 1 none).1 data [])
      (blocksSent : dataSent sent =
        (indexRange 1 s.highestSent).map (dataDatagram h.payload h.params))
      (inTransit : network =
        blockDatagrams h.payload h.params (addresses.session 0) addresses.client data ++
          ackDatagrams addresses.client (addresses.session 0) []) :
      Downloading h before (3 * senderTotalBlocks h.payload h.params sc + 1)
        (⟨⟨.handshake 0, before⟩, [{ h with phase := .sending s }], files, network⟩, sent)
  | transferring {sent network : List (Service.Datagram Endpoint Bytes)}
      {params : NegotiatedParameters} (blockSize : params.blockSize = h.params.blockSize)
      (windowSize : params.windowSize = h.params.windowSize) {s : SenderState}
      {r : ReceiverState} {data acks : List ℕ}
      (flow : Flow h.payload h.params params sc s r data acks)
      (blocksSent : dataSent sent =
        (indexRange 1 s.highestSent).map (dataDatagram h.payload h.params))
      (inTransit : network =
        blockDatagrams h.payload h.params (addresses.session 0) addresses.client data ++
          ackDatagrams addresses.client (addresses.session 0) acks) :
      Downloading h before (stepsLeft (senderTotalBlocks h.payload h.params sc) r acks)
        (⟨readFileFinish call file before (addresses.session 0) params r,
          [{ h with phase := .sending s }], files, network⟩, sent)

end Download

section Download

variable {call : ClientCall} {file : DestinationFile} {sc : EngineConfig} {files : Files}

/-! #### What a datagram does to a client or a handler -/

theorem readFileFinish_running {before : Option Bytes} {peer : Endpoint}
    {params : NegotiatedParameters} {r : ReceiverState} (hphase : r.phase ≠ .returned) :
    readFileFinish call file before peer params r = ⟨.transfer peer params r, before⟩ := by
  rw [readFileFinish, if_pos hphase]

/-- A block reaches the receiver of a client. -/
theorem readFileReceive_data {before : Option Bytes} {peer : Endpoint} {payload : Bytes}
    {sp params : NegotiatedParameters} {r : ReceiverState} (hphase : r.phase = .receiving) (i : ℕ) :
    readFileReceive call file (readFileFinish call file before peer params r)
        (.datagram peer (dataDatagram payload sp i)) =
      (readFileFinish call file before peer params (receiverReceive params call.config r (.gotPacket
          { opcode := .data, blockNumber := wireBlockNumber i,
            data := blockPayload payload i sp.blockSize })).1,
        (receiverReceive params call.config r (.gotPacket
          { opcode := .data, blockNumber := wireBlockNumber i,
            data := blockPayload payload i sp.blockSize })).2.map
              fun a => (peer, ackDatagram a)) := by
  have hrun : (dataReceiver params call.config).returned r = false := by
    simp [dataReceiver, hphase]
  rw [readFileFinish_running (by simp [hphase])]
  simp only [readFileReceive, PeerLoop.onEvent_packet hrun (dataDatagram_ne_nil payload sp i)
    (parse_dataDatagram payload sp i)]
  rfl

/-- The end of the dally of a client. -/
theorem readFileReceive_dally {before : Option Bytes} {peer : Endpoint}
    {params : NegotiatedParameters} {r : ReceiverState} {dally : ℕ}
    (hphase : r.phase = .dallying dally) :
    readFileReceive call file (readFileFinish call file before peer params r) .wouldBlock =
      (readFileFinish call file before peer params (receiverFinish r), []) := by
  have hrun : (dataReceiver params call.config).returned r = false := by
    simp [dataReceiver, hphase]
  rw [readFileFinish_running (by simp [hphase])]
  simp only [readFileReceive, PeerLoop.onEvent_wouldBlock hrun]
  simp only [dataReceiver, receiverReceive, hphase, List.map_nil]

/-- An ACK reaches the sender of a handler. -/
theorem handlerReceive_ack {client : Endpoint} {h : Handler} (hclient : h.clientEndpoint = client)
    {s : SenderState} (hrun : s.returned = false) (a : ℕ) :
    handlerReceive sc files { h with phase := .sending s } (.datagram client (ackDatagram a)) =
      (files, { h with phase := .sending (senderReceive h.payload h.params sc s (.gotPacket
          { opcode := .acknowledgement, blockNumber := wireBlockNumber a })).1 },
        (senderReceive h.payload h.params sc s (.gotPacket
          { opcode := .acknowledgement, blockNumber := wireBlockNumber a })).2.map fun i =>
            (client, dataDatagram h.payload h.params i)) := by
  subst hclient
  have hrun' : (dataSender h.payload h.params sc).returned s = false := hrun
  simp only [handlerReceive, PeerLoop.onEvent_packet hrun' (ackDatagram_ne_nil a)
    (parse_ackDatagram a)]
  rfl

/-- ACK 0 opens the data plane of a handler that waits for it. -/
theorem handlerReceive_ackOack {client : Endpoint} {h : Handler}
    (hclient : h.clientEndpoint = client) {attempt : ℕ} :
    handlerReceive sc files { h with phase := .awaitingAck attempt }
        (.datagram client (ackDatagram 0)) = (files, handlerSend sc h) := by
  subst hclient
  have hreceive : receiveFromLockedPeer h.clientEndpoint
      (.datagram h.clientEndpoint (ackDatagram 0)) =
        (some (.gotPacket { opcode := .acknowledgement, blockNumber := wireBlockNumber 0 }),
          []) := by
    rw [receiveFromLockedPeer_peer (ackDatagram_ne_nil 0), parse_ackDatagram]
    rfl
  simp only [handlerReceive, hreceive]
  rfl

theorem sendsFrom_blocks (payload : Bytes) (params : NegotiatedParameters)
    (source target : Endpoint)
    (blocks : List ℕ) :
    Service.sendsFrom source (blocks.map fun i => (target, dataDatagram payload params i)) =
      blockDatagrams payload params source target blocks := by
  simp [Service.sendsFrom, blockDatagrams]

theorem sendsFrom_acks (source target : Endpoint) (acks : List ℕ) :
    Service.sendsFrom source (acks.map fun a => (target, ackDatagram a)) =
      ackDatagrams source target acks := by
  simp [Service.sendsFrom, ackDatagrams]

theorem sendsFrom_handlerSend {client : Endpoint} {h : Handler}
    (hclient : h.clientEndpoint = client)
    (source : Endpoint) : Service.sendsFrom source (handlerSend sc h).2 =
      blockDatagrams h.payload h.params source client (senderStart h.payload h.params sc 0).2 := by
  subst hclient
  exact sendsFrom_blocks _ _ _ _ _

theorem dataSent_oack {options : List TftpOption} (hclean : ∀ o ∈ options, o.Clean)
    {source target : Endpoint} :
    dataSent [⟨source, target, serializeOptionAcknowledgement options⟩] = [] := by
  refine dataSent_eq_nil fun d hd => ?_
  rw [List.mem_singleton.1 hd]
  exact ⟨_, parse_serializeOptionAcknowledgement hclean, by simp⟩

/-- The first block of a server without options opens the data plane of a client. -/
theorem readFileReceive_first {before : Option Bytes} {peer : Endpoint} {payload : Bytes}
    {sp : NegotiatedParameters} (i : ℕ) :
    readFileReceive call file ⟨.handshake 0, before⟩ (.datagram peer (dataDatagram payload sp i)) =
      (readFileFinish call file before peer (defaultParameters call.config)
          (receiverReceive (defaultParameters call.config) call.config
            (receiverStart (defaultParameters call.config) call.config [] 1 none).1 (.gotPacket
            { opcode := .data, blockNumber := wireBlockNumber i,
              data := blockPayload payload i sp.blockSize })).1,
        (receiverReceive (defaultParameters call.config) call.config
          (receiverStart (defaultParameters call.config) call.config [] 1 none).1 (.gotPacket
          { opcode := .data, blockNumber := wireBlockNumber i,
            data := blockPayload payload i sp.blockSize })).2.map
              fun a => (peer, ackDatagram a)) := by
  simp only [readFileReceive,
    firstReply_datagram (dataDatagram_ne_nil payload sp i) (parse_dataDatagram payload sp i)]
  rfl

/-- An OACK that the client accepts opens its data plane, after an ACK. -/
theorem readFileReceive_oack {before : Option Bytes} {peer : Endpoint} {options : List TftpOption}
    (hclean : ∀ o ∈ options, o.Clean) {params : NegotiatedParameters}
    (happly : applyOackToClient call.options options (defaultParameters call.config) = .ok params) :
    readFileReceive call file ⟨.handshake 0, before⟩
        (.datagram peer (serializeOptionAcknowledgement options)) =
      (readFileFinish call file before peer params (receiverStart params call.config [] 1 none).1,
        [(peer, ackDatagram 0)]) := by
  simp only [readFileReceive, firstReply_datagram (serializeOptionAcknowledgement_ne_nil options)
    (parse_serializeOptionAcknowledgement hclean), readFileReply, happly]
  rfl

/-! #### The steps of a download -/

variable (call sc) in
/-- What is known of the handler that serves a file to `client`. -/
structure ReadyReader (client : Endpoint) (h : Handler) : Prop where
  client_eq : h.clientEndpoint = client
  clean : ∀ o ∈ h.oackOptions, o.Clean
  plain : h.oackOptions = [] → h.params = defaultParameters sc
  framed : ∀ params : NegotiatedParameters, params.blockSize = h.params.blockSize →
    params.windowSize = h.params.windowSize → Framed h.payload h.params params
  window_le : h.params.windowSize ≤ 65535
  accepted : ∃ params, applyOackToClient call.options h.oackOptions
      (defaultParameters call.config) = .ok params ∧
    params.blockSize = h.params.blockSize ∧ params.windowSize = h.params.windowSize

theorem readyReader_openedReader {addresses : Service.Addresses Endpoint} {path source : Bytes}
    (hends : CorrectEnds call sc addresses)
    (hblocks : (encodeForMode (modeIsNetascii call.mode) source).length /
      (openedReader call sc addresses.client path source).params.blockSize + 1 < 2 ^ 32 - 65536) :
    ReadyReader call sc addresses.client (openedReader call sc addresses.client path source) := by
  have hb := hends.defaultBlockSize_pos
  have hsize := payload_length_lt hb hblocks hends.defaultBlockSize_le
  refine ⟨rfl, ?_, fun hoack => negotiateServerOptions_nil hoack, ?_, ?_, ?_⟩
  · exact clean_negotiateServerOptions (clean_buildRequestedOptionList call) _
  · exact fun params hblock hwindow =>
      (Framed.of_negotiated hb hblocks rfl rfl hblock hwindow).1
  · exact (Framed.of_negotiated hb hblocks rfl rfl rfl rfl).2
  · exact applyOackToClient_negotiateServerOptions
      (fun size heq => Option.some.inj heq ▸ hsize) (fun o ho => requested_of_mem_build ho)
      hends.defaultBlockSize_eq rfl

section Step

variable {addresses : Service.Addresses Endpoint} {served : ServedDirectory}
  {before : Option Bytes} {sent : List (Service.Datagram Endpoint Bytes)} {h : Handler}
  {t : Service.State Endpoint Bytes ReadFileState Handler Files ×
    List (Service.Datagram Endpoint Bytes)}
  (hends : CorrectEnds call sc addresses) (hready : ReadyReader call sc addresses.client h)

include hends hready

/-- **The RRQ opens the handler of the file.** -/
theorem downloading_requested
    (haccept : acceptRequest sc served files addresses.client (readRequestDatagram call) =
      some (if h.oackOptions = [] then handlerSend sc h else oackAttempt sc h 0))
    (unsent : dataSent sent = [])
    (hnext : Service.LosslessNext (readRoles call file sc served) addresses DownloadDally
      (⟨⟨.handshake 0, before⟩, [], files,
        [⟨addresses.client, addresses.listener, readRequestDatagram call⟩]⟩, sent) t) :
    ∃ m, m < 3 * senderTotalBlocks h.payload h.params sc + 5 ∧
      Downloading call file sc files addresses h before m t := by
  have hquiet : ∀ l, ¬ DownloadDally (⟨⟨.handshake 0, before⟩, [], files,
      [⟨addresses.client, addresses.listener, readRequestDatagram call⟩]⟩ :
        Service.State Endpoint Bytes ReadFileState Handler Files) l := by
    rintro l ⟨-, peer, params, r, dally, hphase, -⟩
    exact absurd hphase (by simp)
  have hdeliver := @Service.deliver_listener _ _ _ _ _ _ (readRoles call file sc served) addresses
    ⟨⟨.handshake 0, before⟩, [], files,
      [⟨addresses.client, addresses.listener, readRequestDatagram call⟩]⟩ []
    ⟨addresses.client, addresses.listener, readRequestDatagram call⟩ rfl _
    (by rw [readRoles, serviceRoles_accept]; exact haccept)
  have ht := Service.losslessNext_single rfl hquiet hnext
  simp only [hdeliver, Service.openSession, List.nil_append, List.length_nil] at ht
  by_cases hoack : h.oackOptions = []
  · have hblock : (defaultParameters call.config).blockSize = h.params.blockSize := by
      rw [hready.plain hoack, defaultParameters, hends.defaultBlockSize_eq]
      rfl
    have hwindow : (defaultParameters call.config).windowSize = h.params.windowSize := by
      rw [hready.plain hoack]
      rfl
    have homit : sc.quirks.omitTerminatingEmptyBlock = false := by rw [hends.server_quirks]
    have hflow := flow_start (hready.framed _ hblock hwindow) homit call.config
    rw [if_pos hoack, sendsFrom_handlerSend hready.client_eq] at ht
    rw [ht]
    refine ⟨3 * senderTotalBlocks h.payload h.params sc + 1, by omega,
      .answered hblock hwindow hflow ?_ (by simp [ackDatagrams])⟩
    rw [dataSent_append, unsent, List.nil_append, dataSent_blockDatagrams, hflow.data_eq]
    rfl
  · have hsends : oackAttempt sc h 0 = ({ h with phase := .awaitingAck 0 },
        [(addresses.client, serializeOptionAcknowledgement h.oackOptions)]) := by
      rw [← hready.client_eq, oackAttempt, if_pos (by exact_mod_cast hends.server_sends)]
    rw [if_neg hoack, hsends] at ht
    rw [ht]
    refine ⟨3 * senderTotalBlocks h.payload h.params sc + 3, by omega, .offered ?_ hoack⟩
    rw [dataSent_append, unsent, List.nil_append]
    exact dataSent_oack hready.clean

omit hends in
/-- **The OACK brings the client the parameters of the handler.** -/
theorem downloading_offered (unsent : dataSent sent = [])
    (hnext : Service.LosslessNext (readRoles call file sc served) addresses DownloadDally
      (⟨⟨.handshake 0, before⟩, [{ h with phase := .awaitingAck 0 }], files,
        [⟨addresses.session 0, addresses.client, serializeOptionAcknowledgement h.oackOptions⟩]⟩,
        sent) t) :
    ∃ m, m < 3 * senderTotalBlocks h.payload h.params sc + 3 ∧
      Downloading call file sc files addresses h before m t := by
  obtain ⟨params, happly, hblock, hwindow⟩ := hready.accepted
  have hquiet : ∀ l, ¬ DownloadDally (⟨⟨.handshake 0, before⟩, [{ h with phase := .awaitingAck 0 }],
      files, [⟨addresses.session 0, addresses.client,
        serializeOptionAcknowledgement h.oackOptions⟩]⟩ :
        Service.State Endpoint Bytes ReadFileState Handler Files) l := by
    rintro l ⟨-, peer, params, r, dally, hphase, -⟩
    exact absurd hphase (by simp)
  have ht := Service.losslessNext_single rfl hquiet hnext
  simp only [Service.deliver_client, Service.reactClient, readRoles, serviceRoles, eventOf,
    readFileReceive_oack hready.clean happly, List.nil_append] at ht
  rw [ht]
  refine ⟨3 * senderTotalBlocks h.payload h.params sc + 2, by omega, .agreed ?_ hblock hwindow⟩
  rw [dataSent_append, unsent, List.nil_append]
  exact dataSent_ackDatagrams addresses.client (addresses.session 0) [0]

/-- **The ACK of the OACK opens the data plane of the handler.** -/
theorem downloading_agreed {params : NegotiatedParameters} (unsent : dataSent sent = [])
    (hblock : params.blockSize = h.params.blockSize)
    (hwindow : params.windowSize = h.params.windowSize)
    (hnext : Service.LosslessNext (readRoles call file sc served) addresses DownloadDally
      (⟨readFileFinish call file before (addresses.session 0) params
          (receiverStart params call.config [] 1 none).1,
        [{ h with phase := .awaitingAck 0 }], files,
        ackDatagrams addresses.client (addresses.session 0) [0]⟩, sent) t) :
    ∃ m, m < 3 * senderTotalBlocks h.payload h.params sc + 2 ∧
      Downloading call file sc files addresses h before m t := by
  have homit : sc.quirks.omitTerminatingEmptyBlock = false := by rw [hends.server_quirks]
  have hflow := flow_start (hready.framed _ hblock hwindow) homit call.config
  have hquiet : ∀ l, ¬ DownloadDally (⟨readFileFinish call file before (addresses.session 0) params
      (receiverStart params call.config [] 1 none).1, [{ h with phase := .awaitingAck 0 }], files,
        ackDatagrams addresses.client (addresses.session 0) [0]⟩ :
        Service.State Endpoint Bytes ReadFileState Handler Files) l := by
    rintro l ⟨-, peer, params', r, dally, hphase, hdally⟩
    rw [readFileFinish_running (by simp [receiverStart])] at hphase
    cases hphase
    exact absurd hdally (by simp [receiverStart])
  have ht := Service.losslessNext_single
    (d := ⟨addresses.client, addresses.session 0, ackDatagram 0⟩)
    rfl hquiet hnext
  rw [Service.deliver_session (k := 0) (h := { h with phase := .awaitingAck 0 }) rfl rfl] at ht
  simp only [Service.reactSession, readRoles, serviceRoles, eventOf,
    handlerReceive_ackOack hready.client_eq, List.nil_append, List.set_cons_zero,
    sendsFrom_handlerSend hready.client_eq] at ht
  rw [ht]
  have hserved : dataSent (sent ++ blockDatagrams h.payload h.params (addresses.session 0)
      addresses.client (senderStart h.payload h.params sc 0).2) =
        (indexRange 1 (senderStart h.payload h.params sc 0).1.highestSent).map
          (dataDatagram h.payload h.params) := by
    rw [dataSent_append, unsent, List.nil_append, dataSent_blockDatagrams, hflow.data_eq]
    rfl
  refine ⟨_, ?_, .transferring hblock hwindow hflow hserved (by simp [ackDatagrams])⟩
  rw [stepsLeft_start]
  omega

/-- **A block reaches the client**, which acknowledges it if it ends the window or the file. -/
theorem downloading_data {c : ReadFileState} {params : NegotiatedParameters}
    (hblock : params.blockSize = h.params.blockSize)
    (hwindow : params.windowSize = h.params.windowSize) {s : SenderState}
    {r : ReceiverState} {i : ℕ}
    {data acks : List ℕ} (hflow : Flow h.payload h.params params sc s r (i :: data) acks)
    (hserved : dataSent sent =
      (indexRange 1 s.highestSent).map (dataDatagram h.payload h.params))
    {network : List (Service.Datagram Endpoint Bytes)}
    (hreact : r.phase = .receiving → readFileReceive call file c
        (.datagram (addresses.session 0) (dataDatagram h.payload h.params i)) =
      (readFileFinish call file before (addresses.session 0) params
          (receiverReceive params call.config r (.gotPacket
            { opcode := .data, blockNumber := wireBlockNumber i,
              data := blockPayload h.payload i h.params.blockSize })).1,
        (receiverReceive params call.config r (.gotPacket
          { opcode := .data, blockNumber := wireBlockNumber i,
            data := blockPayload h.payload i h.params.blockSize })).2.map
              fun a => (addresses.session 0, ackDatagram a)))
    (ht₁ : t.1 = Service.deliver (readRoles call file sc served) addresses
      ⟨c, [{ h with phase := .sending s }], files, network⟩
      (blockDatagrams h.payload h.params (addresses.session 0) addresses.client data ++
        ackDatagrams addresses.client (addresses.session 0) acks)
      ⟨addresses.session 0, addresses.client, dataDatagram h.payload h.params i⟩)
    (ht₂ : t.2 = sent ++ t.1.network.drop
      (blockDatagrams h.payload h.params (addresses.session 0) addresses.client data ++
        ackDatagrams addresses.client (addresses.session 0) acks).length) :
    ∃ m, m < stepsLeft (senderTotalBlocks h.payload h.params sc) r acks ∧
      Downloading call file sc files addresses h before m t := by
  have homit : sc.quirks.omitTerminatingEmptyBlock = false := by rw [hends.server_quirks]
  have hskip : call.config.quirks.acceptOutOfSequenceData = false := by rw [hends.client_quirks]
  obtain ⟨hphase, -, hflow', hless⟩ := Flow.data (hready.framed _ hblock hwindow) hblock homit
    hskip hwindow hflow rfl
  obtain ⟨st, sent'⟩ := t
  simp only [Service.deliver_client, Service.reactClient, readRoles, serviceRoles, eventOf,
    hreact hphase, sendsFrom_acks] at ht₁
  subst ht₁
  simp only [List.drop_left] at ht₂
  subst ht₂
  refine ⟨_, hless, .transferring hblock hwindow hflow' ?_ ?_⟩
  · rw [dataSent_append, dataSent_ackDatagrams, List.append_nil]
    exact hserved
  · simp [ackDatagrams]

/-- **An ACK reaches the handler**, which sends the next window or returns. -/
theorem downloading_ack {params : NegotiatedParameters}
    (hblock : params.blockSize = h.params.blockSize)
    (hwindow : params.windowSize = h.params.windowSize) {s : SenderState}
    {r : ReceiverState} {a : ℕ}
    {acks : List ℕ} (hflow : Flow h.payload h.params params sc s r [] (a :: acks))
    (hserved : dataSent sent =
      (indexRange 1 s.highestSent).map (dataDatagram h.payload h.params))
    {network : List (Service.Datagram Endpoint Bytes)}
    (ht₁ : t.1 = Service.deliver (readRoles call file sc served) addresses
      ⟨readFileFinish call file before (addresses.session 0) params r,
        [{ h with phase := .sending s }], files, network⟩
      (ackDatagrams addresses.client (addresses.session 0) acks)
      ⟨addresses.client, addresses.session 0, ackDatagram a⟩)
    (ht₂ : t.2 = sent ++ t.1.network.drop
      (ackDatagrams addresses.client (addresses.session 0) acks).length) :
    ∃ m, m < stepsLeft (senderTotalBlocks h.payload h.params sc) r (a :: acks) ∧
      Downloading call file sc files addresses h before m t := by
  have homit : sc.quirks.omitTerminatingEmptyBlock = false := by rw [hends.server_quirks]
  have hdup : sc.quirks.retransmitOnDuplicateAck = false := by rw [hends.server_quirks]
  obtain ⟨rfl, rfl, -, hrun, harrived, -, -⟩ := hflow.sender_turn
  obtain ⟨hflow', hless⟩ := Flow.ack (hready.framed _ hblock hwindow) hblock homit hdup
    hready.window_le hflow rfl
  obtain ⟨st, sent'⟩ := t
  rw [Service.deliver_session (k := 0) (h := { h with phase := .sending s }) rfl rfl] at ht₁
  simp only [Service.reactSession, readRoles, serviceRoles, eventOf,
    handlerReceive_ack hready.client_eq hrun, List.set_cons_zero, sendsFrom_blocks] at ht₁
  subst ht₁
  simp only [List.drop_left] at ht₂
  subst ht₂
  have hmore := hflow'.safe.received_le
  refine ⟨_, hless, .transferring hblock hwindow hflow' ?_ (by simp [ackDatagrams])⟩
  rw [dataSent_append, dataSent_blockDatagrams, hserved, hflow'.data_eq, ← harrived,
    ← List.map_append, indexRange_append (by omega) hmore]

omit hends hready in
/-- **The client ends its dally**, and the destination is there. -/
theorem downloading_dally {params : NegotiatedParameters}
    (hblock : params.blockSize = h.params.blockSize)
    (hwindow : params.windowSize = h.params.windowSize) {s : SenderState} {r r' : ReceiverState}
    {data acks : List ℕ} (hflow : Flow h.payload h.params params sc s r data acks)
    (hserved : dataSent sent =
      (indexRange 1 s.highestSent).map (dataDatagram h.payload h.params))
    {peer : Endpoint} {params' : NegotiatedParameters}
    (hphase : (readFileFinish call file before (addresses.session 0) params r).phase =
      .transfer peer params' r') {dally : ℕ} (hdally : r'.phase = .dallying dally)
    (ht₁ : t.1 = Service.reactClient (readRoles call file sc served) addresses
      ⟨readFileFinish call file before (addresses.session 0) params r,
        [{ h with phase := .sending s }], files,
        blockDatagrams h.payload h.params (addresses.session 0) addresses.client data ++
          ackDatagrams addresses.client (addresses.session 0) acks⟩
      (blockDatagrams h.payload h.params (addresses.session 0) addresses.client data ++
        ackDatagrams addresses.client (addresses.session 0) acks) none)
    (ht₂ : t.2 = sent ++ t.1.network.drop
      (blockDatagrams h.payload h.params (addresses.session 0) addresses.client data ++
        ackDatagrams addresses.client (addresses.session 0) acks).length) :
    ∃ m, m < stepsLeft (senderTotalBlocks h.payload h.params sc) r acks ∧
      Downloading call file sc files addresses h before m t := by
  obtain rfl : r = r' := by
    have hlocked := locked_readFileFinish call file before (addresses.session 0) params r
    rw [hphase] at hlocked
    cases hlocked
    rfl
  obtain ⟨hflow', hless⟩ := hflow.dally hdally
  obtain ⟨st, sent'⟩ := t
  simp only [Service.reactClient, readRoles, serviceRoles, eventOf, readFileReceive_dally hdally,
    Service.sendsFrom, List.map_nil, List.append_nil] at ht₁
  subst ht₁
  simp only [List.drop_length, List.append_nil] at ht₂
  subst ht₂
  exact ⟨_, hless, .transferring hblock hwindow hflow' hserved rfl⟩

/-- **A step of the data plane.** -/
theorem downloading_transferring {network : List (Service.Datagram Endpoint Bytes)}
    {params : NegotiatedParameters} (hblock : params.blockSize = h.params.blockSize)
    (hwindow : params.windowSize = h.params.windowSize) {s : SenderState} {r : ReceiverState}
    {data acks : List ℕ} (hflow : Flow h.payload h.params params sc s r data acks)
    (hserved : dataSent sent =
      (indexRange 1 s.highestSent).map (dataDatagram h.payload h.params))
    (hinTransit : network =
      blockDatagrams h.payload h.params (addresses.session 0) addresses.client data ++
        ackDatagrams addresses.client (addresses.session 0) acks)
    (hnext : Service.LosslessNext (readRoles call file sc served) addresses DownloadDally
      (⟨readFileFinish call file before (addresses.session 0) params r,
        [{ h with phase := .sending s }], files, network⟩, sent) t) :
    ∃ m, m < stepsLeft (senderTotalBlocks h.payload h.params sc) r acks ∧
      Downloading call file sc files addresses h before m t := by
  subst hinTransit
  have hlink := oneLink_of_oneWay h.payload h.params (addresses.session 0) addresses.client
    hflow.oneWay
  rcases Service.losslessNext_cases hnext hlink with ⟨d, rest, hnetwork, ht₁, ht₂⟩ |
    ⟨hmay, ht₁, ht₂⟩ | ⟨k, g, hmay, -⟩
  · cases data with
    | cons i data =>
        obtain ⟨rfl, rfl⟩ := List.cons.inj hnetwork
        exact downloading_data hends hready hblock hwindow hflow hserved
          (fun hphase => readFileReceive_data hphase i) ht₁ ht₂
    | nil =>
        cases acks with
        | cons a acks =>
            obtain ⟨rfl, rfl⟩ := List.cons.inj hnetwork
            exact downloading_ack hends hready hblock hwindow hflow hserved ht₁ ht₂
        | nil => exact absurd hnetwork (by simp [blockDatagrams, ackDatagrams])
  · obtain ⟨-, peer, params', r', dally, hphase, hdally⟩ := hmay
    exact downloading_dally hblock hwindow hflow hserved hphase hdally ht₁ ht₂
  · exact absurd hmay.1 (by simp)

/-- **Every event of a download leads to a phase with fewer steps left.** -/
theorem downloading_next
    (haccept : acceptRequest sc served files addresses.client (readRequestDatagram call) =
      some (if h.oackOptions = [] then handlerSend sc h else oackAttempt sc h 0)) {n : ℕ}
    {st : Service.State Endpoint Bytes ReadFileState Handler Files ×
      List (Service.Datagram Endpoint Bytes)}
    (hst : Downloading call file sc files addresses h before n st)
    (hnext : Service.LosslessNext (readRoles call file sc served) addresses DownloadDally st t) :
    ∃ m, m < n ∧ Downloading call file sc files addresses h before m t := by
  cases hst with
  | requested unsent => exact downloading_requested hends hready haccept unsent hnext
  | offered unsent oack => exact downloading_offered hready unsent hnext
  | agreed unsent blockSize windowSize =>
      exact downloading_agreed hends hready unsent blockSize windowSize hnext
  | transferring blockSize windowSize flow blocksSent inTransit =>
      exact downloading_transferring hends hready blockSize windowSize flow blocksSent
        inTransit hnext
  | @answered sent network s data blockSize windowSize flow blocksSent inTransit =>
      subst inTransit
      have hlink := oneLink_of_oneWay h.payload h.params (addresses.session 0) addresses.client
        flow.oneWay
      rcases Service.losslessNext_cases hnext hlink with ⟨d, rest, hnetwork, ht₁, ht₂⟩ |
        ⟨hmay, -⟩ | ⟨k, g, hmay, -⟩
      · cases data with
        | nil => exact absurd hnetwork (by simp [blockDatagrams, ackDatagrams])
        | cons i data =>
            obtain ⟨rfl, rfl⟩ := List.cons.inj hnetwork
            rw [← stepsLeft_start _ (defaultParameters call.config) call.config]
            exact downloading_data hends hready blockSize windowSize flow blocksSent
              (fun _ => readFileReceive_first i) ht₁ ht₂
      · obtain ⟨-, peer, params, r, dally, hphase, -⟩ := hmay
        exact absurd hphase (by simp)
      · exact absurd hmay.1 (by simp)

/-- **Where a download cannot go on it has completed.** -/
theorem downloading_done {source : Bytes}
    (hpayload : h.payload = encodeForMode (modeIsNetascii call.mode) source)
    (hwrite : ∀ bytes, (file.write bytes).1 = true) {n : ℕ}
    {st : Service.State Endpoint Bytes ReadFileState Handler Files ×
      List (Service.Datagram Endpoint Bytes)}
    (hst : Downloading call file sc files addresses h before n st)
    (hended : ∀ t, ¬ Service.LosslessNext (readRoles call file sc served) addresses
      DownloadDally st t) : DownloadCompleted call source st := by
  have homit : sc.quirks.omitTerminatingEmptyBlock = false := by rw [hends.server_quirks]
  have hempty : st.1.network = [] := by
    by_contra hne
    obtain ⟨t, ht⟩ := @Service.exists_losslessNext_deliver _ _ _ _ _ _
      (readRoles call file sc served) addresses DownloadDally st hne
    exact hended t ht
  cases hst with
  | requested unsent => exact absurd hempty (by simp)
  | offered unsent oack => exact absurd hempty (by simp)
  | agreed unsent blockSize windowSize => exact absurd hempty (by simp [ackDatagrams])
  | @answered sent network s data blockSize windowSize flow blocksSent inTransit =>
      have hdata : data = [] := by
        simpa [blockDatagrams, ackDatagrams] using inTransit.symm.trans hempty
      subst hdata
      obtain ⟨-, -, -, hphase, -⟩ := flow.complete (hready.framed _ blockSize windowSize) blockSize
        homit (by simp [receiverStart])
      exact absurd hphase (by simp [receiverStart])
  | @transferring sent network params blockSize windowSize s r data acks flow blocksSent
    inTransit =>
      obtain ⟨rfl, rfl⟩ : data = [] ∧ acks = [] := by
        simpa [blockDatagrams, ackDatagrams] using inTransit.symm.trans hempty
      have hf := hready.framed _ blockSize windowSize
      have hdally : ∀ dally, r.phase ≠ .dallying dally := by
        intro dally hphase
        have hrunning : readFileFinish call file before (addresses.session 0) params r =
            ⟨.transfer (addresses.session 0) params r, before⟩ :=
          readFileFinish_running (by simp [hphase])
        obtain ⟨t, ht⟩ := @Service.exists_losslessNext _ _ _ _ _ _
          (readRoles call file sc served) addresses DownloadDally
          (⟨readFileFinish call file before (addresses.session 0) params r,
            [{ h with phase := .sending s }], files, network⟩, sent) _ .timeoutClient
          ⟨rfl, _, _, _, _, by rw [hrunning], hphase⟩ rfl
        exact hended t ht
      obtain ⟨hreturned, -, -, hphase, hcompleted, -, hsink⟩ :=
        flow.complete hf blockSize homit hdally
      have htransfer := flow.completedTransfer hf blockSize windowSize homit hdally blocksSent
      have hnegotiated : { r.outcome with negotiated := params } = r.outcome := by
        rw [← flow.tally.receiver_negotiated]
      have hfinish : readFileFinish call file before (addresses.session 0) params r =
          ⟨.finished (addresses.session 0) params r r.outcome,
            some (decodeForMode (modeIsNetascii call.mode) h.payload)⟩ := by
        rw [readFileFinish, if_neg (by simp [hphase]), if_neg (by simp [hcompleted])]
        simp only [hwrite, if_true, hnegotiated, hsink, file.write_eq _ (hwrite _)]
      refine ⟨addresses.session 0, params, r, r.outcome, { h with phase := .sending s }, s, ?_, rfl,
        rfl, hreturned, ?_, ?_⟩
      · simp only [hfinish]
      · rw [← hpayload]
        exact htransfer
      · simp only [hfinish, hpayload, decodeForMode_encodeForMode]

end Step

end Download

end TftpHarness
