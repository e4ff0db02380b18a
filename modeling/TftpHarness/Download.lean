/-
**Downloading from the reference server, handshake included.**

`read_file` talks to `ReferenceServer` over a network that drops, duplicates, delays and reorders.
Retransmitted requests open several handlers, all from the same request, so all of them negotiate
the same parameters; the client locks onto one of them and rebuffs the others.  A handler that
sends an OACK sends no data before the client has acknowledged it, and the client acknowledges it
only after it has locked onto that handler; so a client that locks onto a DATA packet has locked
onto a handler without an OACK, whose parameters are the default ones the client then uses.  From
there on the data plane is safe.

Main definitions:

* `TftpHarness.readRoles`, `TftpHarness.downloadStart` — the parties and the start of a download;
* `TftpHarness.Reader` — a handler that serves the file;
* `TftpHarness.partner` — the client's receiver, as a handler may think of it;
* `TftpHarness.DownloadInv` — the invariant of the whole system.

Main results:

* `TftpHarness.downloadInv_step` — every event preserves the invariant;
* `TftpHarness.download_safety` — **the client and its handler agree on their parameters, and a
  download that reports success has written the file**.
-/

import TftpHarness.World

set_option relaxedAutoImplicit false
set_option autoImplicit false

namespace TftpHarness

section Download

variable (call : ClientCall) (file : DestinationFile) (sc : EngineConfig)
  (served : ServedDirectory) (files : Files)

/-- The parties of a download. -/
abbrev readRoles : Service.Roles Endpoint Bytes ReadFileState Handler Files :=
  serviceRoles (readFileReceive call file) sc served

/-- The system when the first RRQ has been sent. -/
def downloadStart (addresses : Service.Addresses Endpoint) (before : Option Bytes) :
    Service.State Endpoint Bytes ReadFileState Handler Files where
  client := (readFileStart call before).1
  sessions := []
  shared := files
  network := Service.sendsFrom addresses.client (readFileStart call before).2

/-- The RRQ as the server parses it. -/
def readRequestPacket : TftpPacket :=
  { opcode := .readRequest, filename := call.remoteFilename, mode := call.mode,
    options := buildRequestedOptionList call.options call.config }

/-- The bytes a download of the requested file transfers. -/
def servedPayload : Option Bytes :=
  ((resolveServedPath served call.remoteFilename).bind files).map
    (encodeForMode (modeIsNetascii call.mode))

/-- What the server negotiates for a payload of a given size. -/
def readNegotiated (size : ℕ) : List TftpOption × NegotiatedParameters :=
  negotiateServerOptions (readRequestPacket call) sc (some size) (defaultParameters sc)

/-- The sender of a handler; a handler that has not started it yet is about to. -/
def Handler.sender (h : Handler) : SenderState :=
  match h.phase with
  | .sending s => s
  | _ => (senderStart h.payload h.params sc 0).1

/-- The data plane of a handler has started. -/
def Handler.IsSending (h : Handler) : Prop := ∃ s, h.phase = .sending s

/-- A handler that serves the file to `client`: everything about it but its progress is determined
by the request. -/
structure Reader (client : Endpoint) (h : Handler) : Prop where
  client_eq : h.clientEndpoint = client
  payload_eq : servedPayload call served files = some h.payload
  negotiated_eq : readNegotiated call sc h.payload.length = (h.oackOptions, h.params)
  waits : ∀ attempt, h.phase = .awaitingAck attempt → h.oackOptions ≠ []
  not_receiving : ∀ r, h.phase ≠ .receiving r

/-- What a handler may have sent to its client. -/
def ReaderSends (client : Endpoint) (h : Handler) (bytes : Bytes) : Prop :=
  ErrorDatagram bytes ∨
  (Reader call sc served files client h ∧ h.oackOptions ≠ [] ∧
    bytes = serializeOptionAcknowledgement h.oackOptions) ∨
  (Reader call sc served files client h ∧ h.IsSending ∧
    ∃ i, 1 ≤ i ∧ i ≤ (h.sender sc).highestSent ∧ bytes = dataDatagram h.payload h.params i)

end Download

section Reader

variable {call : ClientCall} {sc : EngineConfig} {served : ServedDirectory} {files : Files}
  {client : Endpoint}

/-- A served payload has at most 65535 blocks of the size the server negotiates for it. -/
def BlocksFit (call : ClientCall) (sc : EngineConfig) (served : ServedDirectory) (files : Files) :
    Prop :=
  ∀ payload, servedPayload call served files = some payload →
    payload.length / (readNegotiated call sc payload.length).2.blockSize + 1 ≤ 65535

/-- The parameters of a handler frame its payload for a receiver with the same parameters. -/
theorem Reader.framed {h : Handler} (hr : Reader call sc served files client h)
    (hb : 1 ≤ sc.defaultBlockSize) (hblocks : BlocksFit call sc served files) :
    Framed h.payload h.params h.params := by
  have hfit := hblocks h.payload hr.payload_eq
  have hneg := hr.negotiated_eq
  rw [hneg] at hfit
  have hdefault : (defaultParameters sc).windowSize = 1 := rfl
  have hdefault' : (defaultParameters sc).blockSize = sc.defaultBlockSize := rfl
  obtain ⟨hblock, hwindow⟩ := negotiateServerOptions_range (readRequestPacket call) sc
    (some h.payload.length) (defaultParameters sc)
  rw [← readNegotiated, hneg] at hblock hwindow
  simp only at hfit hblock hwindow
  have hrange : 0 < h.params.blockSize ∧ h.params.windowSize ≤ 65535 := by omega
  have hwin : senderWindow h.params ≤ 65535 := max_le hrange.2 (by decide)
  have hwin' : receiverWindow h.params ≤ 65535 := max_le hrange.2 (by decide)
  exact Framed.of_eq hrange.1 rfl (by omega) (by omega)

/-- What a handler has once sent it may have sent at any later time. -/
theorem ReaderSends.mono {h h' : Handler} (hh' : Reader call sc served files client h →
      Reader call sc served files client h')
    (hpayload : h'.payload = h.payload) (hparams : h'.params = h.params)
    (hoack : h'.oackOptions = h.oackOptions) (hsending : h.IsSending → h'.IsSending)
    (hsent : (h.sender sc).highestSent ≤ (h'.sender sc).highestSent) {bytes : Bytes}
    (hsends : ReaderSends call sc served files client h bytes) :
    ReaderSends call sc served files client h' bytes := by
  rcases hsends with herr | ⟨hr, hne, hbytes⟩ | ⟨hr, hs, i, hi, hle, hbytes⟩
  · exact Or.inl herr
  · exact Or.inr (Or.inl ⟨hh' hr, by rw [hoack]; exact hne, by rw [hoack]; exact hbytes⟩)
  · refine Or.inr (Or.inr ⟨hh' hr, hsending hs, i, hi, le_trans hle hsent, ?_⟩)
    rw [hpayload, hparams]
    exact hbytes

variable (call sc served files client) in
/-- What a reaction of a handler keeps: it goes on serving the file, starts its data plane only when
`acked` holds, stays safe with the receiver `r`, and sends only to its client. -/
structure ReaderStep (acked : Prop) (r : ReceiverState) (h h' : Handler)
    (sends : List (Endpoint × Bytes)) : Prop where
  reader : Reader call sc served files client h'
  payload_eq : h'.payload = h.payload
  params_eq : h'.params = h.params
  oack_eq : h'.oackOptions = h.oackOptions
  sending : h.IsSending → h'.IsSending
  starts : h'.IsSending → h.IsSending ∨ acked
  safe : Safe h.payload h.params h.params sc (h'.sender sc) r
  sent_le : (h.sender sc).highestSent ≤ (h'.sender sc).highestSent
  sends : ∀ send ∈ sends, send.1 = client ∧ ReaderSends call sc served files client h' send.2

/-- The sender of a handler that waits is the one it is about to start. -/
theorem Handler.sender_of_waiting {h : Handler} (hwait : ¬ h.IsSending) :
    h.sender sc = (senderStart h.payload h.params sc 0).1 := by
  unfold Handler.sender
  split
  · next s hs => exact absurd ⟨s, hs⟩ hwait
  · rfl

section Step

variable {acked : Prop} {r : ReceiverState} {h : Handler}
  (hr : Reader call sc served files client h)
  (hsafe : Safe h.payload h.params h.params sc (h.sender sc) r)

include hr hsafe

/-- A handler whose data plane has not started, and does not start. -/
theorem ReaderStep.waiting {phase : HandlerPhase} {sends : List (Endpoint × Bytes)}
    (hwait : ¬ h.IsSending)
    (hwaits : ∀ attempt, phase = .awaitingAck attempt → h.oackOptions ≠ [])
    (hnot : ∀ r, phase ≠ .receiving r) (hwait' : ∀ s, phase ≠ .sending s)
    (hsends : ∀ send ∈ sends, send = (client, serializeOptionAcknowledgement h.oackOptions) ∧
      h.oackOptions ≠ []) :
    ReaderStep call sc served files client acked r h { h with phase := phase } sends := by
  have hstill : ¬ Handler.IsSending { h with phase := phase } := by
    rintro ⟨s, hs⟩
    exact hwait' s hs
  have hsender : Handler.sender sc { h with phase := phase } = h.sender sc := by
    rw [Handler.sender_of_waiting hstill, Handler.sender_of_waiting hwait]
  have hr' : Reader call sc served files client { h with phase := phase } :=
    ⟨hr.client_eq, hr.payload_eq, hr.negotiated_eq, hwaits, hnot⟩
  refine ⟨hr', rfl, rfl, rfl, fun hs => absurd hs hwait, fun hs => absurd hs hstill, ?_, ?_, ?_⟩
  · rw [hsender]
    exact hsafe
  · rw [hsender]
  · intro send hsend
    obtain ⟨rfl, hne⟩ := hsends send hsend
    exact ⟨rfl, Or.inr (Or.inl ⟨hr', hne, rfl⟩)⟩

/-- A handler that does nothing. -/
theorem ReaderStep.refl : ReaderStep call sc served files client acked r h h [] :=
  ⟨hr, rfl, rfl, rfl, id, Or.inl, hsafe, le_refl _, fun _ hsend => absurd hsend List.not_mem_nil⟩

/-- A handler sends its OACK once more, or gives up. -/
theorem ReaderStep.attempt (hwait : ¬ h.IsSending) (hne : h.oackOptions ≠ []) (attempt : ℕ) :
    ReaderStep call sc served files client acked r h (oackAttempt sc h attempt).1
      (oackAttempt sc h attempt).2 := by
  obtain rfl := hr.client_eq
  unfold oackAttempt
  split
  · refine ReaderStep.waiting hr hsafe hwait (fun _ _ => hne) (by simp) (by simp) ?_
    intro send hsend
    exact ⟨List.mem_singleton.1 hsend, hne⟩
  · exact ReaderStep.waiting hr hsafe hwait (by simp) (by simp) (by simp) (by simp)

omit hsafe in
/-- A handler in its data plane, after a reaction of its sender. -/
theorem ReaderStep.sendingTo {s : SenderState} {out : List ℕ}
    (hsafe : Safe h.payload h.params h.params sc s r)
    (hle : (h.sender sc).highestSent ≤ s.highestSent) (hstarts : h.IsSending ∨ acked)
    (hout : ∀ i ∈ out, 1 ≤ i ∧ i ≤ s.highestSent) :
    ReaderStep call sc served files client acked r h { h with phase := .sending s }
      (out.map fun i => (client, dataDatagram h.payload h.params i)) := by
  have hr' : Reader call sc served files client { h with phase := .sending s } :=
    ⟨hr.client_eq, hr.payload_eq, hr.negotiated_eq, by simp, by simp⟩
  refine ⟨hr', rfl, rfl, rfl, fun _ => ⟨s, rfl⟩, fun _ => hstarts, hsafe, hle, ?_⟩
  intro send hsend
  obtain ⟨i, hi, rfl⟩ := List.mem_map.1 hsend
  exact ⟨rfl, Or.inr (Or.inr ⟨hr', ⟨s, rfl⟩, i, (hout i hi).1, (hout i hi).2, rfl⟩)⟩

/-- A handler starts its data plane. -/
theorem ReaderStep.start (hf : Framed h.payload h.params h.params)
    (homit : sc.quirks.omitTerminatingEmptyBlock = false) (hwait : ¬ h.IsSending)
    (hacked : acked) :
    ReaderStep call sc served files client acked r h (handlerSend sc h).1 (handlerSend sc h).2 := by
  obtain rfl := hr.client_eq
  have hsender := @Handler.sender_of_waiting sc h hwait
  have hadv := @advanced_senderStart h.payload h.params sc 0 (hf.sender_bound homit)
  refine ReaderStep.sendingTo hr (hsender ▸ hsafe) (le_of_eq (by rw [hsender])) (Or.inr hacked) ?_
  intro i hi
  rw [hadv.sent, mem_indexRange] at hi
  exact ⟨by omega, hi.2⟩

/-- **Every reaction of a handler keeps to its invariant**, when its client has sent it nothing but
ERRORs and ACKs of blocks the receiver `r` holds. -/
theorem reader_receive (homit : sc.quirks.omitTerminatingEmptyBlock = false)
    (hdup : sc.quirks.retransmitOnDuplicateAck = false)
    (hf : Framed h.payload h.params h.params)
    (hsmall : h.payload.length / h.params.blockSize + 1 ≤ 65535) {event : SocketEvent}
    (hsource : ∀ sender bytes, event = .datagram sender bytes → sender = client)
    (hpacket : ∀ bytes packet, event = .datagram client bytes →
      parseDatagram bytes = .ok packet → packet.opcode = .acknowledgement →
        acked ∧ ∃ a, a ≤ r.lastInSequence ∧ packet.blockNumber = wireBlockNumber a)
    (shared : Files) :
    (handlerReceive sc shared h event).1 = shared ∧
      ReaderStep call sc served files client acked r h (handlerReceive sc shared h event).2.1
        (handlerReceive sc shared h event).2.2 := by
  obtain rfl := hr.client_eq
  unfold handlerReceive
  cases hphase : h.phase with
  | awaitingAck attempt =>
      have hne := hr.waits attempt hphase
      have hwait : ¬ h.IsSending := by
        rintro ⟨s, hs⟩
        exact absurd (hphase.symm.trans hs) (by simp)
      rcases receiveFromLockedPeer_cases hsource with hnone | ⟨status, hstatus, hpeer⟩
      · rw [hnone]
        exact ⟨rfl, ReaderStep.refl hr hsafe⟩
      · simp only [hstatus]
        cases status with
        | gotPacket reply =>
            simp only [List.nil_append]
            obtain ⟨bytes, hevent, hparse⟩ := hpeer reply rfl
            -- ACK 0 starts the transfer, an ERROR ends it, anything else costs an attempt
            split
            · next hack =>
                exact ⟨rfl, ReaderStep.start hr hsafe hf homit hwait
                  (hpacket bytes reply hevent hparse hack.1).1⟩
            split
            · exact ⟨rfl, ReaderStep.waiting hr hsafe hwait (by simp) (by simp) (by simp) (by simp)⟩
            · exact ⟨rfl, ReaderStep.attempt hr hsafe hwait hne (attempt + 1)⟩
        | timedOut => exact ⟨rfl, ReaderStep.attempt hr hsafe hwait hne (attempt + 1)⟩
        | socketError => exact ⟨rfl, ReaderStep.attempt hr hsafe hwait hne (attempt + 1)⟩
  | sending s =>
      have hsend : h.IsSending := ⟨s, hphase⟩
      have hsender : h.sender sc = s := by
        unfold Handler.sender
        rw [hphase]
      rw [hsender] at hsafe
      refine ⟨rfl, ?_⟩
      rcases (dataSender h.payload h.params sc).onEvent_cases h.clientEndpoint s event with
        ⟨hstill, hsends⟩ | ⟨status, hrun, hreact, hpeer⟩
      · -- the sender stands still: only a stray source would be answered, and there is none
        have hnone :
            ((dataSender h.payload h.params sc).onEvent h.clientEndpoint s event).2 = [] := by
          refine List.eq_nil_iff_forall_not_mem.2 fun send hsend => ?_
          obtain ⟨hne, -, bytes, hevent⟩ := hsends send hsend
          exact hne (hsource _ _ hevent)
        have hsame : { h with phase := HandlerPhase.sending s } = h := by
          rw [← hphase]
        simp only [hstill, hnone, hsame]
        exact ReaderStep.refl hr (hsender ▸ hsafe)
      · have hsent := hsafe.sender.sent_le
        have htotal := hf.total_eq homit
        have hlis := hsafe.received_le
        obtain ⟨hsafe', -, hmono, -, hout⟩ := hsafe.sender_receive hf homit hdup hrun (by
          intro packet hgot hop
          obtain ⟨bytes, hevent, hparse⟩ := hpeer packet hgot
          obtain ⟨-, a, ha, hblock⟩ := hpacket bytes packet hevent hparse hop
          rw [hblock, resolveAckToAbsolute_exact (by omega) (by omega)]
          split
          · exact ha
          · exact hsafe.acked_le)
        simp only [hreact]
        refine ReaderStep.sendingTo hr hsafe' (hsender ▸ hmono) (Or.inl hsend) fun i hi => ?_
        obtain ⟨hlo, hhi⟩ := hout i hi
        exact ⟨by omega, hhi⟩
  | receiving r => exact absurd hphase (hr.not_receiving r)
  | returned => exact ⟨rfl, ReaderStep.refl hr hsafe⟩

end Step

end Reader

/-! ### Opening a handler -/

section Open

variable {call : ClientCall} {sc : EngineConfig} {served : ServedDirectory} {files : Files}
  {client : Endpoint}

theorem clean_buildRequestedOptionList (call : ClientCall) :
    ∀ o ∈ buildRequestedOptionList call.options call.config, o.Clean :=
  fun _ ho => (requested_of_mem_build ho).clean

theorem parse_readRequestDatagram (hname : (0 : UInt8) ∉ call.remoteFilename)
    (hmode : (0 : UInt8) ∉ call.mode) :
    parseDatagram (readRequestDatagram call) = .ok (readRequestPacket call) :=
  parse_serializeReadRequest hname hmode (clean_buildRequestedOptionList call)

/-- A handler that has negotiated, at its first receive. -/
theorem reader_start (hb : 1 ≤ sc.defaultBlockSize)
    (homit : sc.quirks.omitTerminatingEmptyBlock = false)
    (hblocks : BlocksFit call sc served files) {h : Handler}
    (hr : Reader call sc served files client h) (hphase : h.phase = .returned) :
    ReaderStep call sc served files client (h.oackOptions = []) {} h
      (if h.oackOptions = [] then handlerSend sc h else oackAttempt sc h 0).1
      (if h.oackOptions = [] then handlerSend sc h else oackAttempt sc h 0).2 := by
  have hf := hr.framed hb hblocks
  have hbound := hf.sender_bound homit
  have hwait : ¬ h.IsSending := by
    rintro ⟨s, hs⟩
    exact absurd (hphase.symm.trans hs) (by simp)
  have hsafe : Safe h.payload h.params h.params sc (h.sender sc) {} := by
    rw [Handler.sender_of_waiting hwait]
    refine safe_fresh ?_ (senderInv_start 0 hbound) (advanced_senderStart 0 hbound).lastAcked
      ⟨rfl, rfl, rfl, fun _ => receiverWindow_pos h.params⟩
    rw [hf.total_eq homit]
    exact Nat.succ_pos _
  split
  · next hoack => exact ReaderStep.start hr hsafe hf homit hwait hoack
  · next hoack => exact ReaderStep.attempt hr hsafe hwait hoack 0

variable (call sc client) in
/-- The handler of a file that can be served, when it has negotiated. -/
def openedReader (path bytes : Bytes) : Handler where
  clientEndpoint := client
  path := path
  netascii := modeIsNetascii call.mode
  payload := encodeForMode (modeIsNetascii call.mode) bytes
  params := (readNegotiated call sc (encodeForMode (modeIsNetascii call.mode) bytes).length).2
  oackOptions := (readNegotiated call sc (encodeForMode (modeIsNetascii call.mode) bytes).length).1
  phase := .returned

/-- The RRQ of a file that can be served opens its handler, which sends its OACK or its first
block. -/
theorem acceptRequest_readRequest (hname : (0 : UInt8) ∉ call.remoteFilename)
    (hmode : (0 : UInt8) ∉ call.mode) {path bytes : Bytes}
    (hpath : resolveServedPath served call.remoteFilename = some path)
    (hfile : files path = some bytes) :
    acceptRequest sc served files client (readRequestDatagram call) =
      some (if (openedReader call sc client path bytes).oackOptions = [] then
        handlerSend sc (openedReader call sc client path bytes)
      else oackAttempt sc (openedReader call sc client path bytes) 0) := by
  have hne : readRequestDatagram call ≠ [] := by simp [readRequestDatagram, serializeReadRequest,
    bytesOfU16]
  have hop : (readRequestPacket call).opcode = .readRequest := rfl
  have hpath' : resolveServedPath served (readRequestPacket call).filename = some path := hpath
  simp only [acceptRequest, hne, if_false, parse_readRequestDatagram hname hmode, hop, ne_eq,
    not_true_eq_false, false_and, handleRequest, hpath', if_true, hfile]
  rfl

/-- **Every copy of the request opens the same handler**, which refuses or serves the file. -/
theorem reader_accept (hname : (0 : UInt8) ∉ call.remoteFilename)
    (hmode : (0 : UInt8) ∉ call.mode) (hb : 1 ≤ sc.defaultBlockSize)
    (homit : sc.quirks.omitTerminatingEmptyBlock = false)
    (hblocks : BlocksFit call sc served files) {h : Handler} {sends : List (Endpoint × Bytes)}
    (haccept : acceptRequest sc served files client (readRequestDatagram call) =
      some (h, sends)) :
    (servedPayload call served files = none ∧ h.phase = .returned ∧
        ∀ send ∈ sends, send.1 = client ∧ ErrorDatagram send.2) ∨
      (Reader call sc served files client h ∧
        Safe h.payload h.params h.params sc (h.sender sc) {} ∧
        (h.IsSending → h.oackOptions = []) ∧
        ∀ send ∈ sends, send.1 = client ∧ ReaderSends call sc served files client h send.2) := by
  have hne : readRequestDatagram call ≠ [] := by simp [readRequestDatagram, serializeReadRequest,
    bytesOfU16]
  have hop : (readRequestPacket call).opcode = .readRequest := rfl
  obtain ⟨hrefuse₁, hrefuse₂, -⟩ := errorDatagram_refusal
  have hopened := haccept
  simp only [acceptRequest, hne, if_false, parse_readRequestDatagram hname hmode, hop, ne_eq,
    not_true_eq_false, false_and] at haccept
  have heq := Option.some.inj haccept
  unfold handleRequest at heq
  simp only [hop, if_true] at heq
  split at heq
  · next hpath =>
      left
      have hpath' : resolveServedPath served call.remoteFilename = none := hpath
      cases heq
      exact ⟨by simp only [servedPayload, hpath', Option.bind_none, Option.map_none], rfl,
        by simpa [refuseRequest] using hrefuse₁⟩
  next path hpath =>
  have hpath' : resolveServedPath served call.remoteFilename = some path := hpath
  split at heq
  · next hfile =>
      left
      cases heq
      exact ⟨by simp only [servedPayload, hpath', Option.bind_some, hfile, Option.map_none], rfl,
        by simpa [refuseRequest] using hrefuse₂⟩
  next bytes hfile =>
  right
  have hserved : servedPayload call served files =
      some (encodeForMode (modeIsNetascii call.mode) bytes) := by
    simp only [servedPayload, hpath', Option.bind_some, hfile, Option.map_some]
  have hr₀ : Reader call sc served files client (openedReader call sc client path bytes) :=
    ⟨rfl, hserved, rfl, by simp [openedReader], by simp [openedReader]⟩
  have hstart := reader_start hb homit hblocks hr₀ rfl
  rw [Option.some.inj ((acceptRequest_readRequest hname hmode hpath' hfile).symm.trans hopened)]
    at hstart
  refine ⟨hstart.reader, ?_, ?_, hstart.sends⟩
  · rw [hstart.payload_eq, hstart.params_eq]
    exact hstart.safe
  · intro hsend
    rw [hstart.oack_eq]
    rcases hstart.starts hsend with ⟨s, hs⟩ | hoack
    · exact absurd hs (by simp [openedReader])
    · exact hoack

end Open

/-! ### The client and the handlers -/

/-- The receiver a peer of the client talks to: that of the data plane with it, or one that has not
started yet. -/
def partner (c : ReadFileState) (peer : Endpoint) : ReceiverState :=
  match c.phase.locked with
  | some (lockedPeer, _, r) => if lockedPeer = peer then r else {}
  | none => {}

theorem partner_locked {c : ReadFileState} {peer : Endpoint} {params : NegotiatedParameters}
    {r : ReceiverState} (h : c.phase.locked = some (peer, params, r)) : partner c peer = r := by
  simp only [partner, h, if_true]

theorem partner_other {c : ReadFileState} {peer : Endpoint}
    (h : ∀ params r, c.phase.locked ≠ some (peer, params, r)) : partner c peer = {} := by
  unfold partner
  split
  · next lockedPeer params r hlocked =>
      split
      · next heq =>
          subst heq
          exact absurd hlocked (h params r)
      · rfl
  · rfl

section Client

variable (call : ClientCall) (sc : EngineConfig) (served : ServedDirectory) (files : Files)
  (client : Endpoint) (address : ℕ → Endpoint)

/-- **What holds of the client and the handlers together**: every handler is safe with the client's
receiver, the client is locked onto a handler with its own parameters, and a handler with an OACK
has started its data plane only for a client locked onto it. -/
structure Agreement (c : ReadFileState) (sessions : List Handler) : Prop where
  safe : ∀ k h, sessions[k]? = some h → Reader call sc served files client h →
    Safe h.payload h.params h.params sc (h.sender sc) (partner c (address k))
  agreed : ∀ peer params r, c.phase.locked = some (peer, params, r) →
    ∃ k h, sessions[k]? = some h ∧ Reader call sc served files client h ∧ peer = address k ∧
      params.blockSize = h.params.blockSize ∧ params.windowSize = h.params.windowSize
  started : ∀ k h, sessions[k]? = some h → Reader call sc served files client h → h.IsSending →
    h.oackOptions = [] ∨ ∃ params r, c.phase.locked = some (address k, params, r)

/-- What the client may have sent to a peer: ERRORs, and ACKs of blocks it holds. -/
def ReadClientSends (c : ReadFileState) (peer : Endpoint) (bytes : Bytes) : Prop :=
  ErrorDatagram bytes ∨ ∃ params r a, c.phase.locked = some (peer, params, r) ∧
    a ≤ r.lastInSequence ∧ bytes = ackDatagram a

/-- What a reaction of the client keeps. -/
structure ReadClientStep (c c' : ReadFileState) (sessions : List Handler)
    (sends : List (Endpoint × Bytes)) : Prop where
  agreement : Agreement call sc served files client address c' sessions
  moves : ∀ peer params r, c.phase.locked = some (peer, params, r) →
    ∃ r', c'.phase.locked = some (peer, params, r') ∧ r.lastInSequence ≤ r'.lastInSequence
  sends : ∀ send ∈ sends, send = (call.serverEndpoint, readRequestDatagram call) ∨
    ∃ k, send.1 = address k ∧ ReadClientSends c' (address k) send.2

end Client

section ClientStep

variable {call : ClientCall} {file : DestinationFile} {sc : EngineConfig}
  {served : ServedDirectory} {files : Files} {client : Endpoint} {address : ℕ → Endpoint}
  {c : ReadFileState} {sessions : List Handler}

/-- What a handler has sent parses as an ERROR, its OACK or a block of the file. -/
theorem ReaderSends.parse {h : Handler} {bytes : Bytes}
    (hsends : ReaderSends call sc served files client h bytes) :
    bytes ≠ [] ∧ ∃ packet, parseDatagram bytes = .ok packet ∧
      (packet.opcode = .error ∨
        (Reader call sc served files client h ∧ h.oackOptions ≠ [] ∧
          packet = { opcode := .optionAcknowledgement, options := h.oackOptions }) ∨
        (Reader call sc served files client h ∧ h.IsSending ∧
          ∃ i, 1 ≤ i ∧ i ≤ (h.sender sc).highestSent ∧
            packet = { opcode := .data, blockNumber := wireBlockNumber i,
                       data := blockPayload h.payload i h.params.blockSize })) := by
  rcases hsends with ⟨hne, packet, hparse, hop⟩ | ⟨hr, hne, rfl⟩ | ⟨hr, hsend, i, hi, hle, rfl⟩
  · exact ⟨hne, packet, hparse, Or.inl hop⟩
  · have hclean : ∀ o ∈ h.oackOptions, o.Clean := by
      have hall := @clean_negotiateServerOptions sc (some h.payload.length)
        (readRequestPacket call) (clean_buildRequestedOptionList call) (defaultParameters sc)
      rw [← readNegotiated, hr.negotiated_eq] at hall
      exact hall
    exact ⟨serializeOptionAcknowledgement_ne_nil _, _, parse_serializeOptionAcknowledgement hclean,
      Or.inr (Or.inl ⟨hr, hne, rfl⟩)⟩
  · exact ⟨serializeData_ne_nil _ _, _, parse_dataDatagram h.payload h.params i,
      Or.inr (Or.inr ⟨hr, hsend, i, hi, hle, rfl⟩)⟩

/-- The client is, or gets, locked onto a handler with its parameters and a safe receiver. -/
theorem Agreement.lock (hinj : ∀ j k, address j = address k → j = k)
    (hagree : Agreement call sc served files client address c sessions)
    {c' : ReadFileState} {k : ℕ} {h : Handler} (hk : sessions[k]? = some h)
    (hr : Reader call sc served files client h)
    (hother : ∀ peer params r, c.phase.locked = some (peer, params, r) → peer = address k)
    {params : NegotiatedParameters} {r : ReceiverState}
    (hlocked : c'.phase.locked = some (address k, params, r))
    (hblock : params.blockSize = h.params.blockSize)
    (hwindow : params.windowSize = h.params.windowSize)
    (hsafe : Safe h.payload h.params h.params sc (h.sender sc) r) :
    Agreement call sc served files client address c' sessions := by
  refine ⟨?_, ?_, ?_⟩
  · intro j h' hj hr'
    by_cases hjk : j = k
    · subst hjk
      cases Option.some.inj (hk.symm.trans hj)
      rw [partner_locked hlocked]
      exact hsafe
    · have hne : address j ≠ address k := fun heq => hjk (hinj j k heq)
      have hold := hagree.safe j h' hj hr'
      rw [partner_other fun p r heq => hne (hother _ p r heq)] at hold
      rw [partner_other]
      · exact hold
      · intro p r heq
        rw [hlocked] at heq
        exact hne (congrArg Prod.fst (Option.some.inj heq)).symm
  · intro peer p r' heq
    cases Option.some.inj (hlocked.symm.trans heq)
    exact ⟨k, h, hk, hr, rfl, hblock, hwindow⟩
  · intro j h' hj hr' hsend
    by_cases hjk : j = k
    · subst hjk
      exact Or.inr ⟨params, r, hlocked⟩
    · rcases hagree.started j h' hj hr' hsend with hoack | ⟨p, r', heq⟩
      · exact Or.inl hoack
      · exact absurd (hinj j k (hother _ p r' heq)) hjk

/-- A client that is not locked onto anybody and stays so. -/
theorem ReadClientStep.unlocked (hagree : Agreement call sc served files client address c sessions)
    {c' : ReadFileState} {sends : List (Endpoint × Bytes)} (hc : c.phase.locked = none)
    (hc' : c'.phase.locked = none)
    (hsends : ∀ send ∈ sends, send = (call.serverEndpoint, readRequestDatagram call)) :
    ReadClientStep call sc served files client address c c' sessions sends := by
  have hpartner : ∀ peer, partner c' peer = partner c peer := by
    intro peer
    simp only [partner, hc, hc']
  refine ⟨⟨?_, ?_, ?_⟩, ?_, fun send hsend => Or.inl (hsends send hsend)⟩
  · intro k h hk hr
    rw [hpartner]
    exact hagree.safe k h hk hr
  · intro peer params r heq
    exact absurd (hc'.symm.trans heq) (by simp)
  · intro k h hk hr hsend
    rcases hagree.started k h hk hr hsend with hoack | ⟨params, r, heq⟩
    · exact Or.inl hoack
    · exact absurd (hc.symm.trans heq) (by simp)
  · intro peer params r heq
    exact absurd (hc.symm.trans heq) (by simp)

theorem locked_readFileFinish (call : ClientCall) (file : DestinationFile)
    (destination : Option Bytes) (lockedPeer : Endpoint) (params : NegotiatedParameters)
    (r : ReceiverState) :
    (readFileFinish call file destination lockedPeer params r).phase.locked =
      some (lockedPeer, params, r) := by
  simp only [readFileFinish]
  split
  · rfl
  split
  · rfl
  split <;> rfl

/-- A server payload of at most 65535 blocks has a size that fits 64 bits. -/
theorem Reader.size_lt {h : Handler} (hr : Reader call sc served files client h)
    (hbig : sc.defaultBlockSize < 2 ^ 32) (hb : 1 ≤ sc.defaultBlockSize)
    (hblocks : BlocksFit call sc served files) : h.payload.length < 2 ^ 64 := by
  have hpos := (hr.framed hb hblocks).blockSize_pos
  have hfit := hblocks h.payload hr.payload_eq
  have hblock := (negotiateServerOptions_range (readRequestPacket call) sc
    (some h.payload.length) (defaultParameters sc)).1
  rw [← readNegotiated, hr.negotiated_eq] at hblock
  rw [hr.negotiated_eq] at hfit
  simp only at hfit hblock
  have hdefault : (defaultParameters sc).blockSize = sc.defaultBlockSize := rfl
  have hlt : h.params.blockSize < 2 ^ 32 := by omega
  have hdiv : h.payload.length < (h.payload.length / h.params.blockSize + 1) * h.params.blockSize :=
    Nat.lt_mul_of_div_lt (Nat.lt_succ_self _) hpos
  calc h.payload.length
      < (h.payload.length / h.params.blockSize + 1) * h.params.blockSize := hdiv
    _ ≤ 65535 * 2 ^ 32 := Nat.mul_le_mul hfit (le_of_lt hlt)
    _ < 2 ^ 64 := by decide

/-- The client locks onto a handler, or a reaction of its data plane moves on. -/
theorem ReadClientStep.lock (hinj : ∀ j k, address j = address k → j = k)
    (hagree : Agreement call sc served files client address c sessions) {k : ℕ} {h : Handler}
    (hk : sessions[k]? = some h) (hr : Reader call sc served files client h)
    {c' : ReadFileState} {params : NegotiatedParameters} {r : ReceiverState}
    (hlocked : c'.phase.locked = some (address k, params, r))
    (hother : ∀ peer p r', c.phase.locked = some (peer, p, r') →
      peer = address k ∧ p = params ∧ r'.lastInSequence ≤ r.lastInSequence)
    (hblock : params.blockSize = h.params.blockSize)
    (hwindow : params.windowSize = h.params.windowSize)
    (hsafe : Safe h.payload h.params h.params sc (h.sender sc) r)
    {sends : List (Endpoint × Bytes)}
    (hsends : ∀ send ∈ sends, (send.1 = address k ∧
        ∃ a, a ≤ r.lastInSequence ∧ send.2 = ackDatagram a) ∨
      ∃ j, send.1 = address j ∧ ErrorDatagram send.2) :
    ReadClientStep call sc served files client address c c' sessions sends := by
  refine ⟨hagree.lock hinj hk hr (fun peer p r' heq => (hother peer p r' heq).1) hlocked hblock
    hwindow hsafe, ?_, ?_⟩
  · intro peer p r' heq
    obtain ⟨rfl, rfl, hle⟩ := hother peer p r' heq
    exact ⟨r, hlocked, hle⟩
  · intro send hsend
    right
    rcases hsends send hsend with ⟨htarget, a, ha, hbytes⟩ | ⟨j, htarget, herr⟩
    · exact ⟨k, htarget, Or.inr ⟨params, r, a, hlocked, ha, hbytes⟩⟩
    · exact ⟨j, htarget, Or.inl herr⟩

section Reply

variable (hinj : ∀ j k, address j = address k → j = k)
  (hb : 1 ≤ sc.defaultBlockSize) (hbig : sc.defaultBlockSize < 2 ^ 32)
  (hdefault : call.config.defaultBlockSize = sc.defaultBlockSize)
  (homit : sc.quirks.omitTerminatingEmptyBlock = false)
  (hskip : call.config.quirks.acceptOutOfSequenceData = false)
  (hblocks : BlocksFit call sc served files)
  (hagree : Agreement call sc served files client address c sessions)

include hinj hb hdefault homit hskip hblocks hagree

/-- **A DATA packet as the first reply** comes from a handler without an OACK, whose parameters are
those the client defaults to. -/
theorem readFileReply_data (hc : c.phase.locked = none) {k : ℕ} {h : Handler}
    (hk : sessions[k]? = some h) (hr : Reader call sc served files client h)
    (hsend : h.IsSending) {i : ℕ} (hi : 1 ≤ i) (hle : i ≤ (h.sender sc).highestSent) :
    ReadClientStep call sc served files client address c
      (readFileReply call file c.destination (address k)
        { opcode := .data, blockNumber := wireBlockNumber i,
          data := blockPayload h.payload i h.params.blockSize }).1 sessions
      (readFileReply call file c.destination (address k)
        { opcode := .data, blockNumber := wireBlockNumber i,
          data := blockPayload h.payload i h.params.blockSize }).2 := by
  have hf := hr.framed hb hblocks
  have hoack : h.oackOptions = [] := by
    rcases hagree.started k h hk hr hsend with hoack | ⟨params, r, heq⟩
    · exact hoack
    · exact absurd (hc.symm.trans heq) (by simp)
  have hparams : h.params = defaultParameters sc := by
    have hneg := hr.negotiated_eq
    have hnil : (readNegotiated call sc h.payload.length).1 = [] := by rw [hneg, hoack]
    have hsame := negotiateServerOptions_nil hnil
    rw [← readNegotiated, hneg] at hsame
    exact hsame
  have hsafe := hagree.safe k h hk hr
  rw [partner_other fun params r heq => absurd (hc.symm.trans heq) (by simp)] at hsafe
  -- nothing has been acknowledged, so only block 1 has been sent
  have hacked : (h.sender sc).lastAcked = 0 := Nat.le_zero.1 hsafe.acked_le
  have hwin : senderWindow h.params = 1 := by rw [hparams]; rfl
  have hone : i = 1 := by
    have hsent := hsafe.sender.sent_le
    omega
  subst hone
  have hsame : defaultParameters call.config = h.params := by
    rw [hparams, defaultParameters, hdefault]
    rfl
  let r₀ : ReceiverState := (receiverStart h.params call.config [] 1 none).1
  have hsafe₀ : Safe h.payload h.params h.params sc (h.sender sc) r₀ := by
    refine safe_fresh ?_ hsafe.sender hacked (fresh_receiverStart _ _ _)
    rw [hf.total_eq homit]
    exact Nat.succ_pos _
  let first : TftpPacket :=
    { opcode := .data, blockNumber := wireBlockNumber 1,
      data := blockPayload h.payload 1 h.params.blockSize }
  have hstep : receiverStart h.params call.config [] 1 (some first) =
      receiverReceive h.params call.config r₀ (.gotPacket first) := rfl
  obtain ⟨hsafe', -, hacks⟩ := @Safe.receiver _ _ _ _ _ hf homit hskip _ _ hsafe₀
    (.gotPacket first) (by
      intro packet hpacket _ _
      cases hpacket
      exact ⟨hle, rfl⟩)
  rw [← hstep] at hsafe' hacks
  have hreply : readFileReply call file c.destination (address k) first =
      readFileTransfer call file c.destination (address k) h.params (some first) := by
    rw [← hsame]
    rfl
  rw [hreply]
  refine ReadClientStep.lock hinj hagree hk hr
    (locked_readFileFinish call file c.destination (address k) h.params _)
    (fun peer p r' heq => ?_) rfl rfl hsafe' ?_
  · exact absurd (hc.symm.trans heq) (by simp)
  · intro send hsend
    obtain ⟨a, ha, rfl⟩ := List.mem_map.1 hsend
    exact Or.inl ⟨rfl, a, le_of_eq (hacks a ha), rfl⟩

omit hskip in
include hbig in
/-- **An OACK as the first reply** is accepted, with the parameters of the handler that sent it. -/
theorem readFileReply_oack (hc : c.phase.locked = none) {k : ℕ} {h : Handler}
    (hk : sessions[k]? = some h) (hr : Reader call sc served files client h) :
    ReadClientStep call sc served files client address c
      (readFileReply call file c.destination (address k)
        { opcode := .optionAcknowledgement, options := h.oackOptions }).1 sessions
      (readFileReply call file c.destination (address k)
        { opcode := .optionAcknowledgement, options := h.oackOptions }).2 := by
  have hf := hr.framed hb hblocks
  have hsafe := hagree.safe k h hk hr
  rw [partner_other fun params r heq => absurd (hc.symm.trans heq) (by simp)] at hsafe
  have hacked : (h.sender sc).lastAcked = 0 := Nat.le_zero.1 hsafe.acked_le
  obtain ⟨params, happly, hblock, hwindow⟩ :=
    @applyOackToClient_negotiateServerOptions sc (some h.payload.length) call.options
      (fun size hsize => Option.some.inj hsize ▸ hr.size_lt hbig hb hblocks)
      (readRequestPacket call) (fun o ho => requested_of_mem_build ho)
      (defaultParameters sc) (defaultParameters call.config) hdefault rfl
  rw [← readNegotiated, hr.negotiated_eq] at happly hblock hwindow
  have hsafe' : Safe h.payload h.params h.params sc (h.sender sc)
      (receiverStart params call.config [] 1 none).1 := by
    refine safe_fresh ?_ hsafe.sender hacked (fresh_receiverStart _ _ _)
    rw [hf.total_eq homit]
    exact Nat.succ_pos _
  have hreply : readFileReply call file c.destination (address k)
      { opcode := .optionAcknowledgement, options := h.oackOptions } =
        ((readFileTransfer call file c.destination (address k) params none).1,
          (address k, serializeAcknowledgement 0) ::
            (readFileTransfer call file c.destination (address k) params none).2) := by
    simp only [readFileReply, happly]
  rw [hreply]
  refine ReadClientStep.lock hinj hagree hk hr
    (locked_readFileFinish call file c.destination (address k) params _)
    (fun peer p r' heq => ?_) hblock hwindow hsafe' ?_
  · exact absurd (hc.symm.trans heq) (by simp)
  · intro send hsend
    rcases List.mem_cons.1 hsend with rfl | hsend
    · exact Or.inl ⟨rfl, 0, Nat.zero_le _, rfl⟩
    · exact absurd hsend List.not_mem_nil

include hbig in
/-- The first reply, whatever it is. -/
theorem readFileReply_step (hc : c.phase.locked = none) {k : ℕ} {h : Handler}
    (hk : sessions[k]? = some h) {bytes : Bytes}
    (hsends : ReaderSends call sc served files client h bytes) {packet : TftpPacket}
    (hparse : parseDatagram bytes = .ok packet) :
    ReadClientStep call sc served files client address c
      (readFileReply call file c.destination (address k) packet).1 sessions
      (readFileReply call file c.destination (address k) packet).2 := by
  obtain ⟨-, packet', hparse', hcases⟩ := hsends.parse
  cases Except.ok.inj (hparse.symm.trans hparse')
  rcases hcases with hop | ⟨hr, -, rfl⟩ | ⟨hr, hsend, i, hi, hle, rfl⟩
  · simp only [readFileReply, hop]
    exact ReadClientStep.unlocked hagree hc rfl (by simp)
  · exact readFileReply_oack hinj hb hbig hdefault homit hblocks hagree hc hk hr
  · exact readFileReply_data hinj hb hdefault homit hskip hblocks hagree hc hk hr hsend hi hle

omit hdefault in
/-- The data plane of the client, once it is locked onto a handler. -/
theorem readFileReceive_transfer {lockedPeer : Endpoint} {params : NegotiatedParameters}
    {r : ReceiverState} (hphase : c.phase = .transfer lockedPeer params r) {event : SocketEvent}
    (hevent : ∀ sender bytes, event = .datagram sender bytes → ∃ k h, sender = address k ∧
      sessions[k]? = some h ∧ ReaderSends call sc served files client h bytes) :
    ReadClientStep call sc served files client address c
      (readFileReceive call file c event).1 sessions (readFileReceive call file c event).2 := by
  have hlocked : c.phase.locked = some (lockedPeer, params, r) := by rw [hphase]; rfl
  obtain ⟨k, h, hk, hr, rfl, hblock, hwindow⟩ := hagree.agreed _ _ _ hlocked
  have hf := hr.framed hb hblocks
  have hsafe := hagree.safe k h hk hr
  rw [partner_locked hlocked] at hsafe
  have hmine := fun peer p r' (heq : c.phase.locked = some (peer, p, r')) =>
    Option.some.inj (hlocked.symm.trans heq)
  simp only [readFileReceive, hphase]
  rcases (dataReceiver params call.config).onEvent_cases (address k) r event with
    ⟨hstill, hsends⟩ | ⟨status, -, hreact, hpeer⟩
  · -- the receiver stands still, rebuffing at most another handler
    simp only [hstill]
    refine ReadClientStep.lock hinj hagree hk hr
      (locked_readFileFinish call file c.destination (address k) params r)
      (fun peer p r' heq => ?_) hblock hwindow hsafe ?_
    · cases hmine peer p r' heq
      exact ⟨rfl, rfl, le_refl _⟩
    · intro send hsend
      obtain ⟨-, hbytes, bytes, hstray⟩ := hsends send hsend
      obtain ⟨j, h', hsender, hj, -⟩ := hevent _ _ hstray
      refine Or.inr ⟨j, hsender, ?_⟩
      rw [hbytes]
      exact errorDatagram_strayReply
  · obtain ⟨hsafe', hmono, hacks⟩ :=
      (hsafe.congr hblock hwindow).receiver (hf.congr hblock hwindow) homit hskip (by
        intro packet hgot hop hnext
        obtain ⟨bytes, hdatagram, hparse⟩ := hpeer packet hgot
        obtain ⟨j, h', hsender, hj, hsent⟩ := hevent _ _ hdatagram
        cases hinj k j hsender
        cases Option.some.inj (hk.symm.trans hj)
        obtain ⟨-, packet', hparse', hcases⟩ := hsent.parse
        cases Except.ok.inj (hparse.symm.trans hparse')
        rcases hcases with herr | ⟨-, -, rfl⟩ | ⟨-, -, i, hi, hle, rfl⟩
        · exact absurd (herr.symm.trans hop) (by simp)
        · exact absurd hop (by simp)
        · have hsmall := hblocks h.payload hr.payload_eq
          rw [hr.negotiated_eq] at hsmall
          have hsent_le := hsafe.sender.sent_le
          have htotal := hf.total_eq homit
          have hlis := hsafe.received_le
          -- among at most 65535 blocks the wire number tells the index
          have heq : i = r.lastInSequence + 1 := by
            have hnear : h.payload.length / h.params.blockSize + 1 ≤ 65535 := hsmall
            exact eq_of_u16_eq hnext (by omega) (by omega)
          rw [← heq]
          exact ⟨hle, rfl⟩)
    simp only [hreact]
    refine ReadClientStep.lock hinj hagree hk hr
      (locked_readFileFinish call file c.destination (address k) params _)
      (fun peer p r' heq => ?_) hblock hwindow (hsafe'.congr hblock.symm hwindow.symm) ?_
    · cases hmine peer p r' heq
      exact ⟨rfl, rfl, hmono⟩
    · intro send hsend
      obtain ⟨a, ha, rfl⟩ := List.mem_map.1 hsend
      exact Or.inl ⟨rfl, a, le_of_eq (hacks a ha), rfl⟩

include hbig in
/-- **Every receive of the client keeps the agreement**, when the handlers send only what they may.
-/
theorem readFileReceive_step {event : SocketEvent}
    (hevent : ∀ sender bytes, event = .datagram sender bytes → ∃ k h, sender = address k ∧
      sessions[k]? = some h ∧ ReaderSends call sc served files client h bytes) :
    ReadClientStep call sc served files client address c
      (readFileReceive call file c event).1 sessions (readFileReceive call file c event).2 := by
  cases hphase : c.phase with
  | handshake attempt =>
      have hc : c.phase.locked = none := by rw [hphase]; rfl
      simp only [readFileReceive, hphase]
      cases hfirst : firstReply event with
      | none =>
          refine ReadClientStep.unlocked hagree hc ?_ ?_
          · simp only [readFileAttempt, attemptRequest]
            split <;> rfl
          · simp only [readFileAttempt, attemptRequest]
            split <;> simp
      | some reply =>
          obtain ⟨sender, packet⟩ := reply
          obtain ⟨bytes, rfl, hparse⟩ := firstReply_some hfirst
          obtain ⟨k, h, rfl, hk, hsends⟩ := hevent _ _ rfl
          exact readFileReply_step hinj hb hbig hdefault homit hskip hblocks hagree hc hk hsends
            hparse
  | transfer lockedPeer params r =>
      exact readFileReceive_transfer hinj hb homit hskip hblocks hagree hphase hevent
  | finished lockedPeer params r outcome =>
      simp only [readFileReceive, hphase]
      exact ⟨hagree, fun peer p r' heq => ⟨r', heq, le_refl _⟩, by simp⟩
  | refused outcome =>
      simp only [readFileReceive, hphase]
      exact ⟨hagree, fun peer p r' heq => ⟨r', heq, le_refl _⟩, by simp⟩
  | threw =>
      simp only [readFileReceive, hphase]
      exact ⟨hagree, fun peer p r' heq => ⟨r', heq, le_refl _⟩, by simp⟩

end Reply

end ClientStep

/-! ### The whole system -/

section System

variable (call : ClientCall) (file : DestinationFile) (sc : EngineConfig) (served : ServedDirectory)
    (files : Files)
  (addresses : Service.Addresses Endpoint)

/-- What may be in transit: copies of the request, what the client has sent to a handler, and what a
handler has sent to the client. -/
abbrev DownloadTraffic (c : ReadFileState) (sessions : List Handler) :
    Service.Datagram Endpoint Bytes → Prop :=
  Service.Traffic addresses (fun bytes => bytes = readRequestDatagram call)
    (fun k bytes => ReadClientSends c (addresses.session k) bytes)
    (fun k bytes => ∃ h, sessions[k]? = some h ∧
      ReaderSends call sc served files addresses.client h bytes)

/-- **The invariant of a download.** -/
structure DownloadInv (before : Option Bytes)
    (st : Service.State Endpoint Bytes ReadFileState Handler Files) : Prop where
  shared : st.shared = files
  agreement : Agreement call sc served files addresses.client addresses.session st.client
    st.sessions
  handlers : ∀ (k : ℕ) h, st.sessions[k]? = some h →
    Reader call sc served files addresses.client h ∨ h.phase = .returned
  network : ∀ d ∈ st.network,
    DownloadTraffic call sc served files addresses st.client st.sessions d
  destination : DestinationInv call file before st.client

end System

section Run

variable {call : ClientCall} {file : DestinationFile} {sc : EngineConfig}
  {served : ServedDirectory} {files : Files} {addresses : Service.Addresses Endpoint}

/-- What the client has sent it may have sent at any later time. -/
theorem ReadClientSends.mono {c c' : ReadFileState} {peer : Endpoint} {bytes : Bytes}
    (hsent : ReadClientSends c peer bytes)
    (hmoves : ∀ params r, c.phase.locked = some (peer, params, r) →
      ∃ r', c'.phase.locked = some (peer, params, r') ∧ r.lastInSequence ≤ r'.lastInSequence) :
    ReadClientSends c' peer bytes := by
  rcases hsent with herr | ⟨params, r, a, hlocked, ha, hbytes⟩
  · exact Or.inl herr
  · obtain ⟨r', hlocked', hle⟩ := hmoves params r hlocked
    exact Or.inr ⟨params, r', a, hlocked', le_trans ha hle, hbytes⟩

variable {before : Option Bytes} {st : Service.State Endpoint Bytes ReadFileState Handler Files}
  (hinv : DownloadInv call file sc served files addresses before st)

include hinv

/-- What is in transit may be lost or repeated. -/
theorem downloadInv_network {network : List (Service.Datagram Endpoint Bytes)}
    (hsub : ∀ d ∈ network, d ∈ st.network) :
    DownloadInv call file sc served files addresses before { st with network := network } :=
  ⟨hinv.shared, hinv.agreement, hinv.handlers, fun d hd => hinv.network d (hsub d hd),
    hinv.destination⟩

section Server

variable (hb : 1 ≤ sc.defaultBlockSize)
  (homit : sc.quirks.omitTerminatingEmptyBlock = false)
  (hblocks : BlocksFit call sc served files)

include hb homit hblocks

/-- The invariant after a reaction of a handler. -/
theorem downloadInv_session (hdup : sc.quirks.retransmitOnDuplicateAck = false)
    {network : List (Service.Datagram Endpoint Bytes)} (hsub : ∀ d ∈ network, d ∈ st.network)
    {k : ℕ} {h : Handler} (hk : st.sessions[k]? = some h)
    {event : Option (Endpoint × Bytes)}
    (hevent : event = none ∨ ∃ d ∈ st.network, d.target = addresses.session k ∧
      event = some (d.source, d.message)) :
    DownloadInv call file sc served files addresses before
      (Service.reactSession (readRoles call file sc served) addresses st network k h event) := by
  rcases hinv.handlers k h hk with hr | hphase
  · -- a handler that serves the file hears its client only
    have hsmall := hblocks h.payload hr.payload_eq
    rw [hr.negotiated_eq] at hsmall
    have hsource : ∀ sender bytes, eventOf event = .datagram sender bytes →
        sender = addresses.client ∧
          ReadClientSends st.client (addresses.session k) bytes := by
      intro sender bytes heq
      rcases hevent with rfl | ⟨d, hd, htarget, rfl⟩
      · exact absurd heq (by simp [eventOf])
      · cases heq
        exact (hinv.network d hd).to_session htarget
    obtain ⟨hshared, hstep⟩ := @reader_receive call sc served files addresses.client
      (∃ params r, st.client.phase.locked = some (addresses.session k, params, r))
      (partner st.client (addresses.session k)) h hr (hinv.agreement.safe k h hk hr) homit hdup
      (hr.framed hb hblocks) hsmall (eventOf event)
      (fun sender bytes heq => (hsource sender bytes heq).1) (by
        intro bytes packet heq hparse hop
        rcases (hsource _ _ heq).2 with ⟨-, packet', hparse', herr⟩ |
          ⟨params, r, a, hlocked, ha, rfl⟩
        · cases Except.ok.inj (hparse.symm.trans hparse')
          exact absurd (herr.symm.trans hop) (by simp)
        · cases Except.ok.inj (hparse.symm.trans (parse_ackDatagram a))
          rw [partner_locked hlocked]
          exact ⟨⟨params, r, hlocked⟩, a, ha, rfl⟩) st.shared
    generalize hreact : handlerReceive sc st.shared h (eventOf event) = reacted at hshared hstep
    have heq : Service.reactSession (readRoles call file sc served) addresses st network k h event =
        { st with
          sessions := st.sessions.set k reacted.2.1
          shared := reacted.1
          network := network ++ Service.sendsFrom (addresses.session k) reacted.2.2 } := by
      rw [← hreact]
      rfl
    rw [heq]
    refine ⟨hshared.trans hinv.shared, ⟨?_, ?_, ?_⟩, ?_, ?_, hinv.destination⟩
    · intro j g hj hrg
      rcases Service.getElem?_set_cases hk hj with ⟨rfl, rfl⟩ | ⟨-, hj⟩
      · rw [hstep.payload_eq, hstep.params_eq]
        exact hstep.safe
      · exact hinv.agreement.safe j g hj hrg
    · intro peer params r hlocked
      obtain ⟨j, g, hj, hrg, hpeer, hblock, hwindow⟩ := hinv.agreement.agreed peer params r hlocked
      refine ⟨j, Service.exists_getElem?_set hk hj (fun hjk => ?_)
        fun _ => ⟨hrg, hpeer, hblock, hwindow⟩⟩
      subst hjk
      cases Option.some.inj (hk.symm.trans hj)
      exact ⟨hstep.reader, hpeer, by rw [hstep.params_eq]; exact hblock,
        by rw [hstep.params_eq]; exact hwindow⟩
    · intro j g hj hrg hsend
      rcases Service.getElem?_set_cases hk hj with ⟨rfl, rfl⟩ | ⟨-, hj⟩
      · rw [hstep.oack_eq]
        rcases hstep.starts hsend with hbefore | hacked
        · exact hinv.agreement.started j h hk hr hbefore
        · exact Or.inr hacked
      · exact hinv.agreement.started j g hj hrg hsend
    · intro j g hj
      rcases Service.getElem?_set_cases hk hj with ⟨rfl, rfl⟩ | ⟨-, hj⟩
      · exact Or.inl hstep.reader
      · exact hinv.handlers j g hj
    · -- the new handler explains what was in transit and what it sends itself
      intro d hd
      rcases List.mem_append.1 hd with hd | hd
      · refine (hinv.network d (hsub d hd)).mono (fun _ _ => id) fun j bytes hsent => ?_
        obtain ⟨g, hj, hsent⟩ := hsent
        refine Service.exists_getElem?_set hk hj (fun hjk => ?_) fun _ => hsent
        subst hjk
        cases Option.some.inj (hk.symm.trans hj)
        exact hsent.mono (fun _ => hstep.reader) hstep.payload_eq hstep.params_eq hstep.oack_eq
          hstep.sending hstep.sent_le
      · obtain ⟨hsource', hmem⟩ := Service.mem_sendsFrom.1 hd
        obtain ⟨htarget, hsent⟩ := hstep.sends _ hmem
        have hself : (st.sessions.set k reacted.2.1)[k]? = some reacted.2.1 :=
          List.getElem?_set_self (List.getElem?_eq_some_iff.1 hk).1
        exact .toClient k hsource' htarget ⟨_, hself, hsent⟩
  · -- a handler that has returned
    have hstill :
        (readRoles call file sc served).session st.shared h event = (st.shared, h, []) := by
      simp only [readRoles, serviceRoles, handlerReceive, hphase]
    rw [Service.reactSession_still hk hstill]
    exact downloadInv_network hinv hsub

/-- The invariant after the listener has opened a handler. -/
theorem downloadInv_open (hname : (0 : UInt8) ∉ call.remoteFilename)
    (hmode : (0 : UInt8) ∉ call.mode) {network : List (Service.Datagram Endpoint Bytes)}
    (hsub : ∀ d ∈ network, d ∈ st.network) {d : Service.Datagram Endpoint Bytes}
    (hd : d ∈ st.network) (htarget : d.target = addresses.listener) {h : Handler}
    {sends : List (Endpoint × Bytes)}
    (haccept : (readRoles call file sc served).accept st.shared d.source d.message =
      some (h, sends)) :
    DownloadInv call file sc served files addresses before
      (Service.openSession addresses st network h sends) := by
  obtain ⟨hsource, hmessage⟩ := (hinv.network d hd).to_listener htarget
  have hrequest : acceptRequest sc served st.shared d.source d.message = some (h, sends) := haccept
  rw [hsource, hmessage, hinv.shared] at hrequest
  have hopened := reader_accept hname hmode hb homit hblocks hrequest
  -- the client is not locked onto an address nobody has had
  have hunlocked : ∀ params r,
      st.client.phase.locked ≠ some (addresses.session st.sessions.length, params, r) := by
    intro params r hlocked
    obtain ⟨j, g, hj, -, hpeer, -⟩ := hinv.agreement.agreed _ _ _ hlocked
    have hlt := (List.getElem?_eq_some_iff.1 hj).1
    have := addresses.session_injective _ _ hpeer
    omega
  refine ⟨hinv.shared, ⟨?_, ?_, ?_⟩, ?_, ?_, hinv.destination⟩
  · intro j g hj hrg
    rcases Service.getElem?_open_cases hj with ⟨rfl, rfl⟩ | hj
    · have hpartner : partner st.client (addresses.session st.sessions.length) = {} :=
        partner_other hunlocked
      rcases hopened with ⟨hnone, -⟩ | ⟨-, hsafe, -⟩
      · exact absurd (hnone.symm.trans hrg.payload_eq) (by simp)
      · have hclient : (Service.openSession addresses st network g sends).client = st.client := rfl
        rw [hclient, hpartner]
        exact hsafe
    · exact hinv.agreement.safe j g hj hrg
  · intro peer params r hlocked
    obtain ⟨j, g, hj, hrest⟩ := hinv.agreement.agreed peer params r hlocked
    exact ⟨j, g, Service.getElem?_open hj, hrest⟩
  · intro j g hj hrg hsend
    rcases Service.getElem?_open_cases hj with ⟨rfl, rfl⟩ | hj
    · rcases hopened with ⟨-, hphase, -⟩ | ⟨-, -, hstarts, -⟩
      · obtain ⟨s, hs⟩ := hsend
        exact absurd (hphase.symm.trans hs) (by simp)
      · exact Or.inl (hstarts hsend)
    · exact hinv.agreement.started j g hj hrg hsend
  · intro j g hj
    rcases Service.getElem?_open_cases hj with ⟨rfl, rfl⟩ | hj
    · rcases hopened with ⟨-, hphase, -⟩ | ⟨hr, -⟩
      · exact Or.inr hphase
      · exact Or.inl hr
    · exact hinv.handlers j g hj
  · -- the new handler explains what it sends
    intro e he
    rcases List.mem_append.1 he with he | he
    · exact (hinv.network e (hsub e he)).mono (fun _ _ => id)
        fun j bytes ⟨g, hj, hsent⟩ => ⟨g, Service.getElem?_open hj, hsent⟩
    · obtain ⟨hsource', hmem⟩ := Service.mem_sendsFrom.1 he
      have hnew : (st.sessions ++ [h])[st.sessions.length]? = some h := List.getElem?_concat_length
      rcases hopened with ⟨-, -, hsends⟩ | ⟨-, -, -, hsends⟩
      · exact .toClient _ hsource' (hsends _ hmem).1 ⟨h, hnew, Or.inl (hsends _ hmem).2⟩
      · exact .toClient _ hsource' (hsends _ hmem).1 ⟨h, hnew, (hsends _ hmem).2⟩

/-- The invariant after a reaction of the client. -/
theorem downloadInv_client (hbig : sc.defaultBlockSize < 2 ^ 32)
    (hdefault : call.config.defaultBlockSize = sc.defaultBlockSize)
    (hskip : call.config.quirks.acceptOutOfSequenceData = false)
    (hlistener : addresses.listener = call.serverEndpoint)
    {network : List (Service.Datagram Endpoint Bytes)} (hsub : ∀ d ∈ network, d ∈ st.network)
    {event : Option (Endpoint × Bytes)}
    (hevent : event = none ∨ ∃ d ∈ st.network, d.target = addresses.client ∧
      event = some (d.source, d.message)) :
    DownloadInv call file sc served files addresses before
      (Service.reactClient (readRoles call file sc served) addresses st network event) := by
  have hstep := @readFileReceive_step call file sc served files addresses.client addresses.session
    st.client st.sessions addresses.session_injective hb hbig hdefault homit hskip hblocks
    hinv.agreement (eventOf event) (by
      intro sender bytes heq
      rcases hevent with rfl | ⟨d, hd, htarget, rfl⟩
      · exact absurd heq (by simp [eventOf])
      · cases heq
        obtain ⟨k, hsource, h, hk, hsent⟩ := (hinv.network d hd).to_client htarget
        exact ⟨k, h, hsource, hk, hsent⟩)
  refine ⟨hinv.shared, hstep.agreement, hinv.handlers, ?_,
    readFile_destination hinv.destination (eventOf event)⟩
  intro d hd
  rcases List.mem_append.1 hd with hd | hd
  · exact (hinv.network d (hsub d hd)).mono
      (fun k bytes hsent => hsent.mono fun params r => hstep.moves _ params r) fun _ _ => id
  · obtain ⟨hsource, hmem⟩ := Service.mem_sendsFrom.1 hd
    rcases hstep.sends _ hmem with hrequest | ⟨k, htarget, hsent⟩
    · obtain ⟨htarget, hmessage⟩ := Prod.mk.inj hrequest
      exact .request hsource (htarget.trans hlistener.symm) hmessage
    · exact .toSession k hsource htarget hsent

/-- **Every event preserves the invariant.** -/
theorem downloadInv_step (hbig : sc.defaultBlockSize < 2 ^ 32)
    (hdefault : call.config.defaultBlockSize = sc.defaultBlockSize)
    (hdup : sc.quirks.retransmitOnDuplicateAck = false)
    (hskip : call.config.quirks.acceptOutOfSequenceData = false)
    (hname : (0 : UInt8) ∉ call.remoteFilename) (hmode : (0 : UInt8) ∉ call.mode)
    (hlistener : addresses.listener = call.serverEndpoint) {l : Service.Label}
    {st' : Service.State Endpoint Bytes ReadFileState Handler Files}
    (hstep : Service.step (readRoles call file sc served) addresses st l = some st') :
    DownloadInv call file sc served files addresses before st' := by
  rcases Service.step_cases hstep with
    ⟨network, event, hsub, hevent, rfl⟩ | ⟨network, k, h, event, hsub, hk, hevent, rfl⟩ |
    ⟨network, d, h, sends, hsub, hd, htarget, haccept, rfl⟩ | ⟨network, hsub, rfl⟩
  · refine downloadInv_client hinv hb homit hblocks hbig hdefault hskip hlistener hsub ?_
    rcases hevent with hnone | ⟨i, d, -, hd, htarget, hsome⟩
    · exact Or.inl hnone
    · exact Or.inr ⟨d, List.mem_of_getElem? hd, htarget, hsome⟩
  · exact downloadInv_session hinv hb homit hblocks hdup hsub hk hevent
  · exact downloadInv_open hinv hb homit hblocks hname hmode hsub hd htarget haccept
  · exact downloadInv_network hinv hsub

end Server

omit hinv in
/-- The invariant before the first event. -/
theorem downloadInv_start (hlistener : addresses.listener = call.serverEndpoint)
    (before : Option Bytes) :
    DownloadInv call file sc served files addresses before
      (downloadStart call files addresses before) := by
  have hunlocked : (readFileStart call before).1.phase.locked = none := by
    simp only [readFileStart, readFileAttempt, attemptRequest]
    split <;> rfl
  refine ⟨rfl, ⟨?_, ?_, ?_⟩, ?_, ?_, destinationInv_attempt before 0⟩
  · intro k h hk
    exact absurd hk (by simp [downloadStart])
  · intro peer params r hlocked
    exact absurd (hunlocked.symm.trans hlocked) (by simp)
  · intro k h hk
    exact absurd hk (by simp [downloadStart])
  · intro k h hk
    exact absurd hk (by simp [downloadStart])
  · intro d hd
    obtain ⟨hsource, hmem⟩ := Service.mem_sendsFrom.1 hd
    have hrequest : (d.target, d.message) = (call.serverEndpoint, readRequestDatagram call) := by
      simp only [readFileStart, readFileAttempt, attemptRequest] at hmem
      split at hmem
      · exact List.mem_singleton.1 hmem
      · exact absurd hmem List.not_mem_nil
    obtain ⟨htarget, hmessage⟩ := Prod.mk.inj hrequest
    exact .request hsource (htarget.trans hlistener.symm) hmessage

/-- A client whose data plane has completed holds the whole file in its sink. -/
theorem DownloadInv.sink_eq (hb : 1 ≤ sc.defaultBlockSize)
    (homit : sc.quirks.omitTerminatingEmptyBlock = false)
    (hblocks : BlocksFit call sc served files) {peer : Endpoint} {params : NegotiatedParameters}
    {r : ReceiverState} (hlocked : st.client.phase.locked = some (peer, params, r))
    (hcompleted : r.outcome.completedSuccessfully = true) :
    servedPayload call served files = some r.sink := by
  obtain ⟨k, h, hk, hr, rfl, -, -⟩ := hinv.agreement.agreed peer params r hlocked
  have hsafe := hinv.agreement.safe k h hk hr
  rw [partner_locked hlocked] at hsafe
  rw [hsafe.receiver_success (hr.framed hb hblocks) homit hcompleted]
  exact hr.payload_eq

end Run

/-- The bytes a download of a file stores: those of the file, in netascii after a round trip. -/
theorem servedPayload_decode {call : ClientCall} {served : ServedDirectory} {files : Files}
    {payload : Bytes} (h : servedPayload call served files = some payload) :
    ∃ path bytes, resolveServedPath served call.remoteFilename = some path ∧
      files path = some bytes ∧
      decodeForMode (modeIsNetascii call.mode) payload =
        if modeIsNetascii call.mode then decodeNetasciiToLocal (encodeLocalToNetascii bytes)
        else bytes := by
  obtain ⟨bytes, hbytes, rfl⟩ := Option.map_eq_some_iff.1 h
  obtain ⟨path, hpath, hfile⟩ := Option.bind_eq_some_iff.1 hbytes
  exact ⟨path, bytes, hpath, hfile, decodeForMode_encodeForMode _ bytes⟩

/-- A call that has reported success has written the file, if a data plane that completes holds the
whole payload. -/
theorem DestinationInv.written_file {call : ClientCall} {file : DestinationFile}
    {served : ServedDirectory} {files : Files} {before : Option Bytes} {c : ReadFileState}
    (h : DestinationInv call file before c)
    (hsink : ∀ peer params r, c.phase.locked = some (peer, params, r) →
      r.outcome.completedSuccessfully = true → servedPayload call served files = some r.sink)
    {outcome : TransferOutcome} (houtcome : c.phase.outcome = some outcome)
    (hcompleted : outcome.completedSuccessfully = true) :
    ∃ path bytes, resolveServedPath served call.remoteFilename = some path ∧
      files path = some bytes ∧
      c.destination =
        some (if modeIsNetascii call.mode then decodeNetasciiToLocal (encodeLocalToNetascii bytes)
          else bytes) := by
  obtain ⟨peer, params, r, hphase, hdone, hdestination⟩ := h.written outcome houtcome hcompleted
  obtain ⟨path, bytes, hpath, hfile, hdecode⟩ :=
    servedPayload_decode (hsink peer params r (by rw [hphase]; rfl) hdone)
  exact ⟨path, bytes, hpath, hfile, by rw [hdestination, hdecode]⟩

/-- **Safety of a download, handshake included.**  In every state a download from the server
reaches over a network that drops, duplicates, delays and reorders: a client past its handshake has
the block size and the window of the handler it is locked onto; a download that has reported
success has written the file; any other has left its destination alone, unless the final write
failed. -/
theorem download_safety {call : ClientCall} {file : DestinationFile} {sc : EngineConfig}
    {served : ServedDirectory} {files : Files} {addresses : Service.Addresses Endpoint}
    (hsq : sc.quirks = {}) (hcq : call.config.quirks = {})
    (hdefault : call.config.defaultBlockSize = sc.defaultBlockSize)
    (hb : 1 ≤ sc.defaultBlockSize) (hbig : sc.defaultBlockSize < 2 ^ 32)
    (hname : (0 : UInt8) ∉ call.remoteFilename) (hmode : (0 : UInt8) ∉ call.mode)
    (hlistener : addresses.listener = call.serverEndpoint)
    (hblocks : BlocksFit call sc served files) {before : Option Bytes}
    {schedule : List Service.Label}
    {st : Service.State Endpoint Bytes ReadFileState Handler Files}
    (h : Service.run (readRoles call file sc served) addresses
      (downloadStart call files addresses before) schedule = some st) :
    (∀ peer params r, st.client.phase.locked = some (peer, params, r) →
      ∃ k h, st.sessions[k]? = some h ∧ peer = addresses.session k ∧
        params.blockSize = h.params.blockSize ∧ params.windowSize = h.params.windowSize) ∧
    (∀ outcome, st.client.phase.outcome = some outcome → outcome.completedSuccessfully = true →
      ∃ path bytes, resolveServedPath served call.remoteFilename = some path ∧
        files path = some bytes ∧
        st.client.destination =
          some (if modeIsNetascii call.mode then
              decodeNetasciiToLocal (encodeLocalToNetascii bytes)
            else bytes)) ∧
    ((∀ outcome, st.client.phase.outcome = some outcome →
        outcome.completedSuccessfully = false) →
      st.client.destination = before ∨
        ∃ peer params r outcome, st.client.phase = .finished peer params r outcome ∧
          r.outcome.completedSuccessfully = true ∧
          (file.write (decodeForMode (modeIsNetascii call.mode) r.sink)).1 = false) := by
  have homit : sc.quirks.omitTerminatingEmptyBlock = false := by rw [hsq]
  have hinv : DownloadInv call file sc served files addresses before st :=
    Service.run_invariant_any (fun _ _ _ hinv hstep =>
      downloadInv_step hinv hb homit hblocks hbig hdefault (by rw [hsq]) (by rw [hcq]) hname hmode
        hlistener hstep) (downloadInv_start hlistener before) h
  refine ⟨?_, ?_, ?_⟩
  · intro peer params r hlocked
    obtain ⟨k, g, hk, -, hpeer, hblock, hwindow⟩ := hinv.agreement.agreed peer params r hlocked
    exact ⟨k, g, hk, hpeer, hblock, hwindow⟩
  · intro outcome houtcome hcompleted
    obtain ⟨peer, params, r, hphase, hdone, hdestination⟩ :=
      hinv.destination.written outcome houtcome hcompleted
    have hlocked : st.client.phase.locked = some (peer, params, r) := by rw [hphase]; rfl
    obtain ⟨path, bytes, hpath, hfile, hdecode⟩ :=
      servedPayload_decode (hinv.sink_eq hb homit hblocks hlocked hdone)
    exact ⟨path, bytes, hpath, hfile, by rw [hdestination, hdecode]⟩
  · intro hnone
    by_cases hdone : ∃ peer params r outcome, st.client.phase = .finished peer params r outcome ∧
        r.outcome.completedSuccessfully = true
    · obtain ⟨peer, params, r, outcome, hphase, hdone⟩ := hdone
      have hfail := hnone outcome (by rw [hphase]; rfl)
      exact Or.inr ⟨peer, params, r, outcome, hphase, hdone,
        hinv.destination.failed peer params r outcome hphase hdone hfail⟩
    · -- no data plane has completed, so nothing was written
      left
      refine hinv.destination.untouched fun peer params r outcome hphase => ?_
      by_contra hcontra
      exact hdone ⟨peer, params, r, outcome, hphase, by simpa using hcontra⟩

/-- A call for the file `f` with blocks of two bytes. -/
def plainRead : ClientCall where
  serverEndpoint := addressesByPort.listener
  remoteFilename := text "f"
  mode := text "octet"
  options := {}
  config := { defaultBlockSize := 2 }

/-- A destination whose writes all succeed. -/
def writableFile : DestinationFile := ⟨fun bytes => (true, some bytes), fun _ _ => rfl⟩

/-- The request is sent twice; the client locks onto the second handler and rebuffs the first. -/
theorem download_safety_two_handlers :
    ∃ st, Service.run (readRoles plainRead writableFile { defaultBlockSize := 2 } plainDirectory)
        addressesByPort
        (downloadStart plainRead (fun path => if path = text "f" then some [1, 2, 3] else none)
          addressesByPort none)
        [.timeoutClient, .deliver 0, .deliver 0, .deliver 1, .deliver 1, .deliver 0, .deliver 0,
          .timeoutClient] = some st ∧
      st.client.phase.outcome.map (·.completedSuccessfully) = some true ∧
      st.client.destination = some [1, 2, 3] := by
  refine ⟨_, rfl, by decide, ?_⟩
  have hsafe := (@download_safety plainRead writableFile { defaultBlockSize := 2 } plainDirectory
    (fun path => if path = text "f" then some [1, 2, 3] else none) addressesByPort rfl rfl rfl
    (by decide) (by decide) (by decide) (by decide) rfl (by
      intro payload hpayload
      cases Option.some.inj hpayload
      decide) none
    [.timeoutClient, .deliver 0, .deliver 0, .deliver 1, .deliver 1, .deliver 0, .deliver 0,
      .timeoutClient] _ rfl).2.1 _ rfl (by decide)
  obtain ⟨path, bytes, hpath, hfile, hdestination⟩ := hsafe
  have hbytes : bytes = [1, 2, 3] := by
    obtain rfl : _ = path := Option.some.inj hpath
    exact (Option.some.inj hfile).symm
  rw [hdestination, hbytes]
  rfl

end TftpHarness
