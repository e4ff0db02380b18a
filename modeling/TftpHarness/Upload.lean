/-
**Uploading to the reference server, handshake included.**

`write_file` talks to `ReferenceServer` over a network that drops, duplicates, delays and reorders.
For a WRQ a handler sends its OACK once and leaves the rest to its receiver, which repeats ACK 0
when nothing arrives.  A client that never sees the OACK takes that ACK 0 for the answer of a server
without options, and sends blocks of the default size to a handler that expects the negotiated one.
The handler of an RRQ repeats its OACK instead.

Where no client is led astray in that way, every upload is safe: an upload that reports success has
reached the handler the client is locked onto, and no handler completes with anything but the whole
payload.  An ACK 0 leads the client astray only when the two block sizes frame the payload
differently.

Main definitions:

* `TftpHarness.writeRoles`, `TftpHarness.uploadStart` — the parties and the start of an upload;
* `TftpHarness.FramesAlike` — two block sizes end a payload at the same place;
* `TftpHarness.AcksFit` — an event does not lead the client astray;
* `TftpHarness.UploadInv` — the invariant of the whole system.

Main results:

* `TftpHarness.uploadInv_step` — every event that does not lead the client astray preserves the
  invariant;
* `TftpHarness.upload_safety` — **safety of the runs made of such events**;
* `TftpHarness.upload_reported_but_lost` — a run in which the client reports success for an upload
  that its handler never completes.
-/

import TftpHarness.World

set_option relaxedAutoImplicit false
set_option autoImplicit false

namespace TftpHarness

/-! ### Block sizes that frame a payload alike -/

/-- A receiver that takes the first block shorter than `expected` for the final one holds a whole
payload of `size` bytes sent in blocks of size `sent` when it has taken a block for final, and takes
the last block for final. -/
def FramesAlike (size sent expected : ℕ) : Prop :=
  if expected ≤ sent then size % sent < expected else size ≤ sent

instance (size sent expected : ℕ) : Decidable (FramesAlike size sent expected) := by
  unfold FramesAlike
  infer_instance

theorem framesAlike_self {size blockSize : ℕ} (hb : 0 < blockSize) :
    FramesAlike size blockSize blockSize := by
  rw [FramesAlike, if_pos (le_refl _)]
  exact Nat.mod_lt size hb

/-- Block sizes that frame a payload alike are as good as equal ones. -/
theorem Framed.of_alike {payload : Bytes} {sp rp : NegotiatedParameters} (hb : 0 < sp.blockSize)
    (halike : FramesAlike payload.length sp.blockSize rp.blockSize)
    (hs : payload.length / sp.blockSize + 1 + senderWindow sp < 4294967296)
    (hr : payload.length / sp.blockSize + 1 + receiverWindow rp < 4294967296) :
    Framed payload sp rp := by
  unfold FramesAlike at halike
  refine ⟨hb, hs, hr, ?_, ?_⟩
  · intro i hi hle hshort
    rw [length_blockPayload hi (by omega)] at hshort
    obtain ⟨j, rfl⟩ : ∃ j, i = j + 1 := ⟨i - 1, by omega⟩
    rw [Nat.add_sub_cancel] at hshort
    rw [Nat.succ_mul]
    split at halike
    · omega
    · have := Nat.zero_le (j * sp.blockSize)
      omega
  · rw [length_blockPayload (Nat.succ_pos _) (by omega), Nat.succ_sub_one]
    have hmod := Nat.mod_lt payload.length hb
    have hdiv := Nat.mod_add_div' payload.length sp.blockSize
    split at halike <;> omega

section Upload

variable (call : ClientCall) (payload : Bytes) (sc : EngineConfig) (served : ServedDirectory)
  (files : Files)

/-- The parties of an upload. -/
abbrev writeRoles : Service.Roles Endpoint Bytes (ClientPhase SenderState) Handler Files :=
  serviceRoles (writeFileReceive call payload) sc served

/-- The system when the first WRQ has been sent. -/
def uploadStart (addresses : Service.Addresses Endpoint) :
    Service.State Endpoint Bytes (ClientPhase SenderState) Handler Files where
  client := (writeFileStart call payload).1
  sessions := []
  shared := files
  network := Service.sendsFrom addresses.client (writeFileStart call payload).2

/-- The WRQ as the server parses it. -/
def writeRequestPacket : TftpPacket :=
  { opcode := .writeRequest, filename := call.remoteFilename, mode := call.mode,
    options := buildRequestedOptionList (effectiveOptions call payload) call.config }

/-- What the server negotiates for the WRQ. -/
def writeNegotiated : List TftpOption × NegotiatedParameters :=
  negotiateServerOptions (writeRequestPacket call payload) sc none (defaultParameters sc)

/-- A handler that receives the upload of `client`, with its receiver at `r`. -/
structure Writer (client : Endpoint) (h : Handler) (r : ReceiverState) : Prop where
  client_eq : h.clientEndpoint = client
  netascii_eq : h.netascii = modeIsNetascii call.mode
  negotiated_eq : writeNegotiated call payload sc = (h.oackOptions, h.params)
  phase_eq : h.phase = .receiving r

/-- What a handler may have sent to its client. -/
def WriterSends (client : Endpoint) (h : Handler) (bytes : Bytes) : Prop :=
  ErrorDatagram bytes ∨ ∃ r, Writer call payload sc client h r ∧
    ((h.oackOptions ≠ [] ∧ bytes = serializeOptionAcknowledgement h.oackOptions) ∨
      ∃ a, a ≤ r.lastInSequence ∧ bytes = ackDatagram a)

/-- What the client may have sent to a peer: ERRORs, and blocks in its window. -/
def WriteClientSends (c : ClientPhase SenderState) (peer : Endpoint) (bytes : Bytes) : Prop :=
  ErrorDatagram bytes ∨ ∃ params s i, c.locked = some (peer, params, s) ∧
    1 ≤ i ∧ i ≤ s.highestSent ∧ bytes = dataDatagram payload params i

/-- The payload has at most 65535 blocks of the default size and of the negotiated one. -/
def UploadFits : Prop :=
  payload.length / sc.defaultBlockSize + 1 ≤ 65535 ∧
    payload.length / (writeNegotiated call payload sc).2.blockSize + 1 ≤ 65535

/-- What holds of the client and a handler together: if the client is locked onto it, the two frame
the payload alike and are safe with each other; otherwise the handler has accepted nothing. -/
structure Partnered (c : ClientPhase SenderState) (peer : Endpoint) (h : Handler)
    (r : ReceiverState) : Prop where
  locked : ∀ params s, c.locked = some (peer, params, s) → Framed payload params h.params ∧
    payload.length / params.blockSize + 1 ≤ 65535 ∧ Safe payload params h.params call.config s r
  unlocked : (∀ params s, c.locked ≠ some (peer, params, s)) → r.Fresh h.params

/-- **What holds of the client and the handlers together.** -/
structure UploadAgreement (client : Endpoint) (address : ℕ → Endpoint)
    (c : ClientPhase SenderState) (sessions : List Handler) : Prop where
  partnered : ∀ k h r, sessions[k]? = some h → Writer call payload sc client h r →
    Partnered call payload c (address k) h r
  peer : ∀ lockedPeer params s, c.locked = some (lockedPeer, params, s) →
    ∃ k h r, sessions[k]? = some h ∧ Writer call payload sc client h r ∧ lockedPeer = address k

/-- **An event does not lead the client astray**: when it hands a client in its handshake an ACK 0,
the handler that sent it has a block size that frames the payload as the default block size does. -/
def AcksFit (addresses : Service.Addresses Endpoint)
    (st : Service.State Endpoint Bytes (ClientPhase SenderState) Handler Files)
    (l : Service.Label) : Prop :=
  ∀ i d attempt packet, l = .deliver i → st.network[i]? = some d → d.target = addresses.client →
    st.client = .handshake attempt → parseDatagram d.message = .ok packet →
    packet.opcode = .acknowledgement → packet.blockNumber = 0 →
      ∀ (k : ℕ) h, d.source = addresses.session k → st.sessions[k]? = some h →
        FramesAlike payload.length call.config.defaultBlockSize h.params.blockSize

end Upload

/-! ### The client and the handlers -/

section Client

variable (call : ClientCall) (payload : Bytes) (sc : EngineConfig) (client : Endpoint)
  (address : ℕ → Endpoint)

/-- What a reaction of the client keeps. -/
structure WriteClientStep (c c' : ClientPhase SenderState) (sessions : List Handler)
    (sends : List (Endpoint × Bytes)) : Prop where
  agreement : UploadAgreement call payload sc client address c' sessions
  moves : ∀ peer params s, c.locked = some (peer, params, s) →
    ∃ s', c'.locked = some (peer, params, s') ∧ s.highestSent ≤ s'.highestSent
  sends : ∀ send ∈ sends, send = (call.serverEndpoint, writeRequestDatagram call payload) ∨
    ∃ k, send.1 = address k ∧ WriteClientSends payload c' (address k) send.2

end Client

section ClientStep

variable {call : ClientCall} {payload : Bytes} {sc : EngineConfig} {client : Endpoint}
  {address : ℕ → Endpoint} {c : ClientPhase SenderState} {sessions : List Handler}

/-- The request of an upload asks only for what the client has requested. -/
theorem requested_writeRequestPacket (call : ClientCall) (payload : Bytes) :
    ∀ o ∈ (writeRequestPacket call payload).options,
      (effectiveOptions call payload).Requested o :=
  fun _ ho => requested_of_mem_build ho

/-- What a handler has sent parses as an ERROR, its OACK or an ACK of a block it holds. -/
theorem WriterSends.parse {h : Handler} {bytes : Bytes}
    (hsends : WriterSends call payload sc client h bytes) :
    ∃ packet, parseDatagram bytes = .ok packet ∧
      (packet.opcode = .error ∨ ∃ r, Writer call payload sc client h r ∧
        (packet = { opcode := .optionAcknowledgement, options := h.oackOptions } ∨
          ∃ a, a ≤ r.lastInSequence ∧
            packet = { opcode := .acknowledgement, blockNumber := wireBlockNumber a })) := by
  rcases hsends with ⟨-, packet, hparse, hop⟩ | ⟨r, hw, ⟨-, rfl⟩ | ⟨a, ha, rfl⟩⟩
  · exact ⟨packet, hparse, Or.inl hop⟩
  · have hclean : ∀ o ∈ h.oackOptions, o.Clean := by
      have hall := @clean_negotiateServerOptions sc none (writeRequestPacket call payload)
        (fun o ho => (requested_writeRequestPacket call payload o ho).clean) (defaultParameters sc)
      rw [← writeNegotiated, hw.negotiated_eq] at hall
      exact hall
    exact ⟨_, parse_serializeOptionAcknowledgement hclean, Or.inr ⟨r, hw, Or.inl rfl⟩⟩
  · exact ⟨_, parse_ackDatagram a, Or.inr ⟨r, hw, Or.inr ⟨a, ha, rfl⟩⟩⟩

theorem Writer.unique {h : Handler} {r r' : ReceiverState}
    (hw : Writer call payload sc client h r) (hw' : Writer call payload sc client h r') :
    r = r' :=
  HandlerPhase.receiving.inj (hw.phase_eq.symm.trans hw'.phase_eq)

/-- The windows of a handler and of a client that follows it stay below the range of a wire number.
-/
theorem Writer.window_le {h : Handler} {r : ReceiverState}
    (hw : Writer call payload sc client h r) : h.params.windowSize ≤ 65535 := by
  have hdefault : (defaultParameters sc).windowSize = 1 := rfl
  have hrange := (negotiateServerOptions_range (writeRequestPacket call payload) sc none
    (defaultParameters sc)).2
  rw [← writeNegotiated, hw.negotiated_eq] at hrange
  simp only at hrange
  omega

theorem Writer.blockSize_pos {h : Handler} {r : ReceiverState}
    (hw : Writer call payload sc client h r) (hb : 1 ≤ sc.defaultBlockSize) :
    0 < h.params.blockSize := by
  have hdefault : (defaultParameters sc).blockSize = sc.defaultBlockSize := rfl
  have hrange := (negotiateServerOptions_range (writeRequestPacket call payload) sc none
    (defaultParameters sc)).1
  rw [← writeNegotiated, hw.negotiated_eq] at hrange
  simp only at hrange
  omega

theorem locked_writeFileFinish (lockedPeer : Endpoint) (params : NegotiatedParameters)
    (s : SenderState) :
    (writeFileFinish lockedPeer params s).locked = some (lockedPeer, params, s) := by
  unfold writeFileFinish
  split <;> rfl

/-- The client is, or gets, locked onto a handler that frames the payload alike and is safe with
it. -/
theorem WriteClientStep.lock (hinj : ∀ j k, address j = address k → j = k)
    (hagree : UploadAgreement call payload sc client address c sessions) {k : ℕ} {h : Handler}
    {r : ReceiverState} (hk : sessions[k]? = some h) (hw : Writer call payload sc client h r)
    {c' : ClientPhase SenderState} {params : NegotiatedParameters} {s : SenderState}
    (hlocked : c'.locked = some (address k, params, s))
    (hother : ∀ peer p s', c.locked = some (peer, p, s') →
      peer = address k ∧ p = params ∧ s'.highestSent ≤ s.highestSent)
    (hf : Framed payload params h.params)
    (hsmall : payload.length / params.blockSize + 1 ≤ 65535)
    (hsafe : Safe payload params h.params call.config s r) {sends : List (Endpoint × Bytes)}
    (hsends : ∀ send ∈ sends, (send.1 = address k ∧
        ∃ i, 1 ≤ i ∧ i ≤ s.highestSent ∧ send.2 = dataDatagram payload params i) ∨
      ∃ j, send.1 = address j ∧ ErrorDatagram send.2) :
    WriteClientStep call payload sc client address c c' sessions sends := by
  refine ⟨⟨?_, ?_⟩, ?_, ?_⟩
  · intro j g q hj hg
    by_cases hjk : j = k
    · subst hjk
      cases Option.some.inj (hk.symm.trans hj)
      cases hw.unique hg
      refine ⟨fun p s' heq => ?_, fun hnot => absurd hlocked (hnot params s)⟩
      cases Option.some.inj (hlocked.symm.trans heq)
      exact ⟨hf, hsmall, hsafe⟩
    · have hfresh := (hagree.partnered j g q hj hg).unlocked fun p s' heq =>
        hjk (hinj j k (hother _ p s' heq).1)
      refine ⟨fun p s' heq => ?_, fun _ => hfresh⟩
      have hpeer := congrArg Prod.fst (Option.some.inj (hlocked.symm.trans heq))
      exact absurd (hinj k j hpeer) (Ne.symm hjk)
  · intro peer p s' heq
    cases Option.some.inj (hlocked.symm.trans heq)
    exact ⟨k, h, r, hk, hw, rfl⟩
  · intro peer p s' heq
    obtain ⟨rfl, rfl, hle⟩ := hother peer p s' heq
    exact ⟨s, hlocked, hle⟩
  · intro send hsend
    right
    rcases hsends send hsend with ⟨htarget, i, hi, hle, hbytes⟩ | ⟨j, htarget, herr⟩
    · exact ⟨k, htarget, Or.inr ⟨params, s, i, hlocked, hi, hle, hbytes⟩⟩
    · exact ⟨j, htarget, Or.inl herr⟩

/-- A client that is not locked onto anybody and stays so. -/
theorem WriteClientStep.unlocked
    (hagree : UploadAgreement call payload sc client address c sessions)
    {c' : ClientPhase SenderState} {sends : List (Endpoint × Bytes)} (hc : c.locked = none)
    (hc' : c'.locked = none)
    (hsends : ∀ send ∈ sends,
      send = (call.serverEndpoint, writeRequestDatagram call payload)) :
    WriteClientStep call payload sc client address c c' sessions sends := by
  refine ⟨⟨?_, ?_⟩, ?_, fun send hsend => Or.inl (hsends send hsend)⟩
  · intro k h r hk hw
    have hfresh := (hagree.partnered k h r hk hw).unlocked (by simp [hc])
    exact ⟨fun params s heq => absurd (hc'.symm.trans heq) (by simp), fun _ => hfresh⟩
  · intro peer params s heq
    exact absurd (hc'.symm.trans heq) (by simp)
  · intro peer params s heq
    exact absurd (hc.symm.trans heq) (by simp)

/-- A client that does not react. -/
theorem WriteClientStep.refl (hagree : UploadAgreement call payload sc client address c sessions) :
    WriteClientStep call payload sc client address c c sessions [] :=
  ⟨hagree, fun _ _ s heq => ⟨s, heq, le_refl _⟩,
    fun _ hsend => absurd hsend List.not_mem_nil⟩

section Reply

variable (hinj : ∀ j k, address j = address k → j = k)
  (homit : call.config.quirks.omitTerminatingEmptyBlock = false)
  (hagree : UploadAgreement call payload sc client address c sessions)

include hinj homit hagree

/-- **The client locks onto a handler that has accepted nothing** and frames the payload alike. -/
theorem writeFileTransfer_step (hc : c.locked = none) {k : ℕ} {h : Handler} {r : ReceiverState}
    (hk : sessions[k]? = some h) (hw : Writer call payload sc client h r)
    {params : NegotiatedParameters} (hpos : 0 < params.blockSize)
    (hwindow : params.windowSize ≤ 65535)
    (halike : FramesAlike payload.length params.blockSize h.params.blockSize)
    (hsmall : payload.length / params.blockSize + 1 ≤ 65535) :
    WriteClientStep call payload sc client address c
      (writeFileTransfer call payload (address k) params).1 sessions
      (writeFileTransfer call payload (address k) params).2 := by
  have hwin : senderWindow params ≤ 65535 := max_le hwindow (by decide)
  have hwin' : receiverWindow h.params ≤ 65535 := max_le hw.window_le (by decide)
  have hf := Framed.of_alike hpos halike (by omega) (by omega)
  have hbound := hf.sender_bound homit
  have hadv := @advanced_senderStart payload params call.config 0 hbound
  have hfresh := (hagree.partnered k h r hk hw).unlocked (by simp [hc])
  have hsafe : Safe payload params h.params call.config
      (senderStart payload params call.config 0).1 r := by
    refine safe_fresh ?_ (senderInv_start 0 hbound) hadv.lastAcked hfresh
    rw [hf.total_eq homit]
    exact Nat.succ_pos _
  refine WriteClientStep.lock hinj hagree hk hw (locked_writeFileFinish (address k) params _)
    (fun peer p s heq => ?_) hf hsmall hsafe ?_
  · exact absurd (hc.symm.trans heq) (by simp)
  · intro send hsend
    obtain ⟨i, hi, rfl⟩ := List.mem_map.1 hsend
    rw [hadv.sent, mem_indexRange] at hi
    exact Or.inl ⟨rfl, i, by omega, hi.2, rfl⟩

/-- The first reply, unless it is an ACK 0 of a handler that frames the payload differently. -/
theorem writeFileReply_step (hb : 1 ≤ sc.defaultBlockSize)
    (hdefault : call.config.defaultBlockSize = sc.defaultBlockSize)
    (hfits : UploadFits call payload sc) (hc : c.locked = none) {k : ℕ} {h : Handler}
    (hk : sessions[k]? = some h) {bytes : Bytes}
    (hsends : WriterSends call payload sc client h bytes) {packet : TftpPacket}
    (hparse : parseDatagram bytes = .ok packet)
    (hacks : packet.opcode = .acknowledgement → packet.blockNumber = 0 →
      FramesAlike payload.length call.config.defaultBlockSize h.params.blockSize) :
    WriteClientStep call payload sc client address c
      (writeFileReply call payload (address k) packet).1 sessions
      (writeFileReply call payload (address k) packet).2 := by
  obtain ⟨packet', hparse', hcases⟩ := hsends.parse
  cases Except.ok.inj (hparse.symm.trans hparse')
  rcases hcases with hop | ⟨r, hw, rfl | ⟨a, ha, rfl⟩⟩
  · simp only [writeFileReply, hop]
    exact WriteClientStep.unlocked hagree hc rfl (by simp)
  · -- the OACK brings the parameters of the handler
    obtain ⟨params, happly, hblock, hwindow⟩ :=
      @applyOackToClient_negotiateServerOptions sc none (effectiveOptions call payload)
        (fun size hsize => absurd hsize (by simp)) (writeRequestPacket call payload)
        (requested_writeRequestPacket call payload) (defaultParameters sc)
        (defaultParameters call.config) hdefault rfl
    have hsmall := hfits.2
    rw [← writeNegotiated, hw.negotiated_eq] at happly hblock hwindow
    rw [hw.negotiated_eq] at hsmall
    simp only at happly hblock hwindow hsmall
    have hreply : writeFileReply call payload (address k)
        { opcode := .optionAcknowledgement, options := h.oackOptions } =
          writeFileTransfer call payload (address k) params := by
      simp only [writeFileReply, happly]
    rw [hreply]
    have hpos := hw.blockSize_pos hb
    refine writeFileTransfer_step hinj homit hagree hc hk hw (by omega)
      (hwindow ▸ hw.window_le) ?_ (hblock ▸ hsmall)
    rw [hblock]
    exact framesAlike_self hpos
  · -- ACK 0 starts the transfer with the default parameters
    by_cases hzero : wireBlockNumber a = 0
    · have hreply : writeFileReply call payload (address k)
          { opcode := .acknowledgement, blockNumber := wireBlockNumber a } =
            writeFileTransfer call payload (address k) (defaultParameters call.config) := by
        simp only [writeFileReply, hzero, if_true]
      have hpos : 0 < (defaultParameters call.config).blockSize := by
        rw [defaultParameters, hdefault]
        exact hb
      have hsmall : payload.length / (defaultParameters call.config).blockSize + 1 ≤ 65535 := by
        rw [defaultParameters, hdefault]
        exact hfits.1
      rw [hreply]
      exact writeFileTransfer_step hinj homit hagree hc hk hw hpos
        (Nat.succ_le_succ (Nat.zero_le _)) (hacks rfl hzero) hsmall
    · -- any other ACK is refused
      simp only [writeFileReply, hzero, if_false]
      exact WriteClientStep.unlocked hagree hc rfl (by simp)

/-- The data plane of the client, once it is locked onto a handler. -/
theorem writeFileReceive_transfer
    (hdup : call.config.quirks.retransmitOnDuplicateAck = false) {lockedPeer : Endpoint}
    {params : NegotiatedParameters} {s : SenderState} (hphase : c = .transfer lockedPeer params s)
    {event : SocketEvent}
    (hevent : ∀ sender bytes, event = .datagram sender bytes → ∃ k h, sender = address k ∧
      sessions[k]? = some h ∧ WriterSends call payload sc client h bytes) :
    WriteClientStep call payload sc client address c
      (writeFileReceive call payload c event).1 sessions
      (writeFileReceive call payload c event).2 := by
  have hlocked : c.locked = some (lockedPeer, params, s) := by rw [hphase]; rfl
  obtain ⟨k, h, r, hk, hw, rfl⟩ := hagree.peer _ _ _ hlocked
  obtain ⟨hf, hsmall, hsafe⟩ := (hagree.partnered k h r hk hw).locked params s hlocked
  have hmine := fun peer p s' (heq : c.locked = some (peer, p, s')) =>
    Option.some.inj (hlocked.symm.trans heq)
  subst hphase
  simp only [writeFileReceive]
  rcases (dataSender payload params call.config).onEvent_cases (address k) s event with
    ⟨hstill, hsends⟩ | ⟨status, hrun, hreact, hpeer⟩
  · -- the sender stands still, rebuffing at most another handler
    simp only [hstill]
    refine WriteClientStep.lock hinj hagree hk hw (locked_writeFileFinish (address k) params s)
      (fun peer p s' heq => ?_) hf hsmall hsafe ?_
    · cases hmine peer p s' heq
      exact ⟨rfl, rfl, le_refl _⟩
    · intro send hsend
      obtain ⟨-, hbytes, bytes, hstray⟩ := hsends send hsend
      obtain ⟨j, h', hsender, -⟩ := hevent _ _ hstray
      refine Or.inr ⟨j, hsender, ?_⟩
      rw [hbytes]
      exact errorDatagram_strayReply
  · have hsent := hsafe.sender.sent_le
    have htotal := hf.total_eq homit
    obtain ⟨hsafe', -, hmono, -, hout⟩ := hsafe.sender_receive hf homit hdup hrun (by
      intro packet hgot hop
      obtain ⟨bytes, hdatagram, hparse⟩ := hpeer packet hgot
      obtain ⟨j, g, hsender, hj, hsent'⟩ := hevent _ _ hdatagram
      cases hinj k j hsender
      cases Option.some.inj (hk.symm.trans hj)
      obtain ⟨packet', hparse', hcases⟩ := hsent'.parse
      cases Except.ok.inj (hparse.symm.trans hparse')
      rcases hcases with herr | ⟨q, hq, rfl | ⟨a, ha, rfl⟩⟩
      · exact absurd (herr.symm.trans hop) (by simp)
      · exact absurd hop (by simp)
      · cases hw.unique hq
        have hlis := hsafe.received_le
        -- among at most 65535 blocks the wire number tells the index
        rw [resolveAckToAbsolute_exact (by omega) (by omega)]
        split
        · exact ha
        · exact hsafe.acked_le)
    simp only [hreact]
    refine WriteClientStep.lock hinj hagree hk hw (locked_writeFileFinish (address k) params _)
      (fun peer p s' heq => ?_) hf hsmall hsafe' ?_
    · cases hmine peer p s' heq
      exact ⟨rfl, rfl, hmono⟩
    · intro send hsend
      obtain ⟨i, hi, rfl⟩ := List.mem_map.1 hsend
      obtain ⟨hlo, hhi⟩ := hout i hi
      exact Or.inl ⟨rfl, i, by omega, hhi, rfl⟩

/-- **Every receive of the client keeps the agreement**, unless it takes an ACK 0 that leads it
astray. -/
theorem writeFileReceive_step (hb : 1 ≤ sc.defaultBlockSize)
    (hdefault : call.config.defaultBlockSize = sc.defaultBlockSize)
    (hdup : call.config.quirks.retransmitOnDuplicateAck = false)
    (hfits : UploadFits call payload sc) {event : SocketEvent}
    (hevent : ∀ sender bytes, event = .datagram sender bytes → ∃ k h, sender = address k ∧
      sessions[k]? = some h ∧ WriterSends call payload sc client h bytes)
    (hacks : ∀ attempt packet (k : ℕ) h bytes, c = .handshake attempt →
      event = .datagram (address k) bytes → parseDatagram bytes = .ok packet →
      packet.opcode = .acknowledgement → packet.blockNumber = 0 → sessions[k]? = some h →
        FramesAlike payload.length call.config.defaultBlockSize h.params.blockSize) :
    WriteClientStep call payload sc client address c
      (writeFileReceive call payload c event).1 sessions
      (writeFileReceive call payload c event).2 := by
  cases c with
  | handshake attempt =>
      simp only [writeFileReceive]
      cases hfirst : firstReply event with
      | none =>
          refine WriteClientStep.unlocked hagree rfl ?_ ?_
          · simp only [writeFileAttempt, attemptRequest]
            split <;> rfl
          · simp only [writeFileAttempt, attemptRequest]
            split <;> simp
      | some reply =>
          obtain ⟨sender, packet⟩ := reply
          obtain ⟨bytes, rfl, hparse⟩ := firstReply_some hfirst
          obtain ⟨k, h, rfl, hk, hsends⟩ := hevent _ _ rfl
          exact writeFileReply_step hinj homit hagree hb hdefault hfits rfl hk hsends hparse
            fun hop hzero => hacks attempt packet k h bytes rfl rfl hparse hop hzero hk
  | transfer lockedPeer params s =>
      exact writeFileReceive_transfer hinj homit hagree hdup rfl hevent
  | finished lockedPeer params s outcome => exact WriteClientStep.refl hagree
  | refused outcome => exact WriteClientStep.refl hagree
  | threw => exact WriteClientStep.refl hagree

end Reply

end ClientStep

/-! ### The handlers -/

section Handler

variable {call : ClientCall} {payload : Bytes} {sc : EngineConfig} {client : Endpoint}

/-- A receiver that has accepted nothing stays so as long as it is sent no DATA. -/
theorem ReceiverState.Fresh.receive {params : NegotiatedParameters} {r : ReceiverState}
    (hfresh : r.Fresh params) (hskip : sc.quirks.acceptOutOfSequenceData = false)
    (hwindow : params.windowSize ≤ 65535) {status : ReceiveStatus}
    (hdata : ∀ packet, status = .gotPacket packet → packet.opcode ≠ .data) :
    (receiverReceive params sc r status).1.Fresh params ∧
      r.lastInSequence ≤ (receiverReceive params sc r status).1.lastInSequence ∧
      ∀ a ∈ (receiverReceive params sc r status).2,
        a = (receiverReceive params sc r status).1.lastInSequence := by
  have hwin : receiverWindow params ≤ 65535 := max_le hwindow (by decide)
  have hlis := hfresh.lastInSequence
  rcases receiverReceive_cases hskip (by omega) hfresh.blocksSinceAck rfl with
    ⟨hsame, hsink, hfinal, hphase, hacks⟩ | ⟨packet, hstatus, -, hop, -⟩
  · refine ⟨⟨hsame.trans hlis, hsink.trans hfresh.sink, hfinal.trans hfresh.gotFinal,
      fun hp => (hphase hp).2⟩, le_of_eq hsame.symm, ?_⟩
    intro a ha
    rw [hacks a ha, hsame]
  · exact absurd hop (hdata packet hstatus)

variable (call payload sc client) in
/-- What a reaction of a handler keeps; `P` is what its receiver is to satisfy. -/
structure WriterStep (P : ReceiverState → Prop) (h h' : Handler) (r r' : ReceiverState)
    (sends : List (Endpoint × Bytes)) : Prop where
  writer : Writer call payload sc client h' r'
  params_eq : h'.params = h.params
  oack_eq : h'.oackOptions = h.oackOptions
  keeps : P r'
  lastInSequence_le : r.lastInSequence ≤ r'.lastInSequence
  sends : ∀ send ∈ sends, send.1 = client ∧ WriterSends call payload sc client h' send.2

/-- **A reaction of a handler** that hears only from its client is a reaction of its receiver. -/
theorem writer_receive {P : ReceiverState → Prop} {h : Handler} {r : ReceiverState}
    (hw : Writer call payload sc client h r) (hP : P r) {event : SocketEvent}
    (hsource : ∀ sender bytes, event = .datagram sender bytes → sender = client)
    (hreact : ∀ status, (∀ packet, status = .gotPacket packet →
        ∃ bytes, event = .datagram client bytes ∧ parseDatagram bytes = .ok packet) →
      P (receiverReceive h.params sc r status).1 ∧
        r.lastInSequence ≤ (receiverReceive h.params sc r status).1.lastInSequence ∧
        ∀ a ∈ (receiverReceive h.params sc r status).2,
          a = (receiverReceive h.params sc r status).1.lastInSequence) (shared : Files) :
    ∃ r', (handlerReceive sc shared h event).1 = storeUpload h shared r r' ∧
      WriterStep call payload sc client P h (handlerReceive sc shared h event).2.1 r r'
        (handlerReceive sc shared h event).2.2 := by
  obtain rfl := hw.client_eq
  have hwriter : ∀ r', Writer call payload sc h.clientEndpoint
      { h with phase := .receiving r' } r' :=
    fun r' => ⟨rfl, hw.netascii_eq, hw.negotiated_eq, rfl⟩
  simp only [handlerReceive, hw.phase_eq]
  refine ⟨_, rfl, ?_⟩
  rcases (dataReceiver h.params sc).onEvent_cases h.clientEndpoint r event with
    ⟨hstill, hsends⟩ | ⟨status, -, hevent, hpeer⟩
  · rw [hstill]
    refine ⟨hwriter r, rfl, rfl, hP, le_refl _, fun send hsend => ?_⟩
    obtain ⟨hne, -, bytes, hstray⟩ := hsends send hsend
    exact absurd (hsource _ _ hstray) hne
  · obtain ⟨hP', hle, hacks⟩ := hreact status hpeer
    rw [hevent]
    refine ⟨hwriter _, rfl, rfl, hP', hle, fun send hsend => ?_⟩
    obtain ⟨a, ha, rfl⟩ := List.mem_map.1 hsend
    exact ⟨rfl, Or.inr ⟨_, hwriter _, Or.inr ⟨a, le_of_eq (hacks a ha), rfl⟩⟩⟩

/-- What a handler has once sent it may have sent at any later time. -/
theorem WriterStep.sends_mono {P : ReceiverState → Prop} {h h' : Handler} {r r' : ReceiverState}
    {sends : List (Endpoint × Bytes)}
    (hstep : WriterStep call payload sc client P h h' r r' sends)
    (hw : Writer call payload sc client h r) {bytes : Bytes}
    (hsent : WriterSends call payload sc client h bytes) :
    WriterSends call payload sc client h' bytes := by
  rcases hsent with herr | ⟨q, hq, ⟨hne, hbytes⟩ | ⟨a, ha, hbytes⟩⟩
  · exact Or.inl herr
  · refine Or.inr ⟨r', hstep.writer, Or.inl ⟨?_, ?_⟩⟩
    · rw [hstep.oack_eq]
      exact hne
    · rw [hstep.oack_eq]
      exact hbytes
  · cases hw.unique hq
    exact Or.inr ⟨r', hstep.writer, Or.inr ⟨a, le_trans ha hstep.lastInSequence_le, hbytes⟩⟩

/-- A completed upload is the only thing that is written. -/
theorem storeUpload_cases (h : Handler) (files : Files) (r r' : ReceiverState) (path : Bytes) :
    storeUpload h files r r' path = files path ∨
      r'.gotFinal = true ∧
        storeUpload h files r r' path = some (decodeForMode h.netascii r'.sink) := by
  unfold storeUpload
  split
  · next hdone =>
      by_cases hpath : path = h.path
      · right
        subst hpath
        refine ⟨?_, Function.update_self _ _ _⟩
        simp only [ReceiverState.gotFinal, hdone.2.1]
        exact hdone.2.2
      · exact Or.inl (Function.update_of_ne hpath _ _)
  · exact Or.inl rfl

/-- A handler that negotiates the WRQ has accepted nothing, and sends its OACK or ACK 0. -/
theorem writer_start {h : Handler} (hnetascii : h.netascii = modeIsNetascii call.mode)
    (hparams : h.params = defaultParameters sc) :
    ∃ r, Writer call payload sc h.clientEndpoint
        (handleWriteRequest sc h (writeRequestPacket call payload)).1 r ∧
      r.Fresh (handleWriteRequest sc h (writeRequestPacket call payload)).1.params ∧
      ∀ send ∈ (handleWriteRequest sc h (writeRequestPacket call payload)).2,
        send.1 = h.clientEndpoint ∧ WriterSends call payload sc h.clientEndpoint
          (handleWriteRequest sc h (writeRequestPacket call payload)).1 send.2 := by
  have hw : Writer call payload sc h.clientEndpoint
      (handleWriteRequest sc h (writeRequestPacket call payload)).1
      (receiverStart (writeNegotiated call payload sc).2 sc [] 1 none).1 := by
    refine ⟨rfl, hnetascii, ?_, ?_⟩
    · simp only [handleWriteRequest, hparams, writeNegotiated]
    · simp only [handleWriteRequest, hparams, writeNegotiated]
  refine ⟨_, hw, fresh_receiverStart _ _ _, fun send hsend => ?_⟩
  rcases List.mem_cons.1 hsend with rfl | hsend
  · refine ⟨rfl, Or.inr ⟨_, hw, ?_⟩⟩
    by_cases hoack : (handleWriteRequest sc h (writeRequestPacket call payload)).1.oackOptions = []
    · exact Or.inr ⟨0, Nat.zero_le _, if_pos hoack⟩
    · exact Or.inl ⟨hoack, if_neg hoack⟩
  · exact absurd hsend List.not_mem_nil

theorem parse_writeRequestDatagram (hname : (0 : UInt8) ∉ call.remoteFilename)
    (hmode : (0 : UInt8) ∉ call.mode) :
    parseDatagram (writeRequestDatagram call payload) = .ok (writeRequestPacket call payload) :=
  parse_serializeWriteRequest hname hmode
    fun o ho => (requested_writeRequestPacket call payload o ho).clean

variable (call sc client) in
/-- The handler of an upload that is not refused, before it negotiates. -/
def openedWriter (path : Bytes) : Handler where
  clientEndpoint := client
  path := path
  netascii := modeIsNetascii call.mode
  params := defaultParameters sc
  phase := .returned

/-- The WRQ of a file that may be written opens its handler. -/
theorem acceptRequest_writeRequest {served : ServedDirectory} {files : Files}
    (hname : (0 : UInt8) ∉ call.remoteFilename) (hmode : (0 : UInt8) ∉ call.mode) {path : Bytes}
    (hpath : resolveServedPath served call.remoteFilename = some path)
    (hallowed : ¬ (sc.rejectOverwriteOnWriteRequest = true ∧ (files path).isSome = true)) :
    acceptRequest sc served files client (writeRequestDatagram call payload) =
      some (handleWriteRequest sc (openedWriter call sc client path)
        (writeRequestPacket call payload)) := by
  have hne : writeRequestDatagram call payload ≠ [] := by
    simp [writeRequestDatagram, serializeWriteRequest, bytesOfU16]
  have hop : (writeRequestPacket call payload).opcode = .writeRequest := rfl
  have hpath' : resolveServedPath served (writeRequestPacket call payload).filename = some path :=
    hpath
  simp only [acceptRequest, hne, if_false, parse_writeRequestDatagram hname hmode, hop, ne_eq,
    not_true_eq_false, and_false, handleRequest, hpath', reduceCtorEq, hallowed]
  rfl

/-- The WRQ opens a handler that refuses it, or one that receives the upload. -/
theorem writer_accept {served : ServedDirectory} {files : Files}
    (hname : (0 : UInt8) ∉ call.remoteFilename) (hmode : (0 : UInt8) ∉ call.mode)
    {h : Handler} {sends : List (Endpoint × Bytes)}
    (haccept : acceptRequest sc served files client (writeRequestDatagram call payload) =
      some (h, sends)) :
    (h.phase = .returned ∧ ∀ send ∈ sends, send.1 = client ∧ ErrorDatagram send.2) ∨
      (∃ r, Writer call payload sc client h r ∧ r.Fresh h.params ∧
        ∀ send ∈ sends, send.1 = client ∧ WriterSends call payload sc client h send.2) := by
  have hne : writeRequestDatagram call payload ≠ [] := by
    simp [writeRequestDatagram, serializeWriteRequest, bytesOfU16]
  have hop : (writeRequestPacket call payload).opcode = .writeRequest := rfl
  obtain ⟨hrefuse₁, -, hrefuse₃⟩ := errorDatagram_refusal
  have hopened := haccept
  simp only [acceptRequest, hne, if_false, parse_writeRequestDatagram hname hmode, hop, ne_eq,
    not_true_eq_false, and_false] at haccept
  have heq := Option.some.inj haccept
  unfold handleRequest at heq
  simp only [hop, reduceCtorEq, if_false] at heq
  split at heq
  · left
    cases heq
    exact ⟨rfl, by simpa [refuseRequest] using hrefuse₁⟩
  next path hpath =>
  split at heq
  · left
    cases heq
    exact ⟨rfl, by simpa [refuseRequest] using hrefuse₃⟩
  next hallowed =>
  right
  have hstart := @writer_start call payload sc (openedWriter call sc client path) rfl rfl
  rw [Option.some.inj ((acceptRequest_writeRequest hname hmode hpath hallowed).symm.trans hopened)]
    at hstart
  exact hstart

end Handler

/-! ### The whole system -/

section System

variable (call : ClientCall) (payload : Bytes) (sc : EngineConfig) (files : Files)
  (addresses : Service.Addresses Endpoint)

/-- What may be in transit: copies of the request, what the client has sent to a handler, and what a
handler has sent to the client. -/
abbrev UploadTraffic (c : ClientPhase SenderState) (sessions : List Handler) :
    Service.Datagram Endpoint Bytes → Prop :=
  Service.Traffic addresses (fun bytes => bytes = writeRequestDatagram call payload)
    (fun k bytes => WriteClientSends payload c (addresses.session k) bytes)
    (fun k bytes => ∃ h, sessions[k]? = some h ∧
      WriterSends call payload sc addresses.client h bytes)

/-- **The invariant of an upload.** -/
structure UploadInv
    (st : Service.State Endpoint Bytes (ClientPhase SenderState) Handler Files) : Prop where
  agreement : UploadAgreement call payload sc addresses.client addresses.session st.client
    st.sessions
  handlers : ∀ (k : ℕ) h, st.sessions[k]? = some h →
    (∃ r, Writer call payload sc addresses.client h r) ∨ h.phase = .returned
  network : ∀ d ∈ st.network, UploadTraffic call payload sc addresses st.client st.sessions d
  shared : ∀ path, st.shared path = files path ∨
    st.shared path = some (decodeForMode (modeIsNetascii call.mode) payload)
  reported : ∀ outcome, st.client.outcome = some outcome →
    outcome.completedSuccessfully = true → ∃ peer params s,
      st.client.locked = some (peer, params, s) ∧ s.outcome.completedSuccessfully = true

end System

section Run

variable {call : ClientCall} {payload : Bytes} {sc : EngineConfig} {served : ServedDirectory}
  {files : Files} {addresses : Service.Addresses Endpoint}

/-- What the client has sent it may have sent at any later time. -/
theorem WriteClientSends.mono {c c' : ClientPhase SenderState} {peer : Endpoint} {bytes : Bytes}
    (hsent : WriteClientSends payload c peer bytes)
    (hmoves : ∀ params s, c.locked = some (peer, params, s) →
      ∃ s', c'.locked = some (peer, params, s') ∧ s.highestSent ≤ s'.highestSent) :
    WriteClientSends payload c' peer bytes := by
  rcases hsent with herr | ⟨params, s, i, hlocked, hi, hle, hbytes⟩
  · exact Or.inl herr
  · obtain ⟨s', hlocked', hle'⟩ := hmoves params s hlocked
    exact Or.inr ⟨params, s', i, hlocked', hi, le_trans hle hle', hbytes⟩

/-- **A receiver past its loop holds the whole payload**, whoever the client is locked onto. -/
theorem UploadAgreement.whole {client : Endpoint} {address : ℕ → Endpoint}
    (homit : call.config.quirks.omitTerminatingEmptyBlock = false)
    {c : ClientPhase SenderState} {sessions : List Handler}
    (hagree : UploadAgreement call payload sc client address c sessions) {k : ℕ} {h : Handler}
    {r : ReceiverState} (hk : sessions[k]? = some h) (hw : Writer call payload sc client h r)
    (hfinal : r.gotFinal = true) : r.sink = payload := by
  by_cases hlocked : ∃ params s, c.locked = some (address k, params, s)
  · obtain ⟨params, s, hlocked⟩ := hlocked
    obtain ⟨hf, -, hsafe⟩ := (hagree.partnered k h r hk hw).locked params s hlocked
    exact hsafe.final_whole hf homit hfinal
  · have hfresh := (hagree.partnered k h r hk hw).unlocked fun params s heq =>
      hlocked ⟨params, s, heq⟩
    exact absurd (hfresh.gotFinal.symm.trans hfinal) (by decide)

/-- The success a client reports is that of its data plane. -/
theorem writeFile_reported {c : ClientPhase SenderState}
    (hreported : ∀ outcome, c.outcome = some outcome → outcome.completedSuccessfully = true →
      ∃ peer params s, c.locked = some (peer, params, s) ∧
        s.outcome.completedSuccessfully = true) (event : SocketEvent) :
    ∀ outcome, (writeFileReceive call payload c event).1.outcome = some outcome →
      outcome.completedSuccessfully = true → ∃ peer params s,
        (writeFileReceive call payload c event).1.locked = some (peer, params, s) ∧
          s.outcome.completedSuccessfully = true := by
  have hfinish : ∀ peer params s outcome,
      (writeFileFinish peer params s).outcome = some outcome →
      outcome.completedSuccessfully = true → ∃ p q s',
        (writeFileFinish peer params s).locked = some (p, q, s') ∧
          s'.outcome.completedSuccessfully = true := by
    intro peer params s outcome houtcome hcompleted
    refine ⟨peer, params, s, locked_writeFileFinish peer params s, ?_⟩
    unfold writeFileFinish at houtcome
    split at houtcome
    · cases houtcome
      exact hcompleted
    · simp [ClientPhase.outcome] at houtcome
  have hrefused : ∀ refusal outcome : TransferOutcome,
      refusal.completedSuccessfully = false →
      (ClientPhase.refused refusal : ClientPhase SenderState).outcome = some outcome →
      outcome.completedSuccessfully ≠ true := by
    intro refusal outcome hnot houtcome
    cases houtcome
    simp [hnot]
  intro outcome houtcome hcompleted
  cases c with
  | handshake attempt =>
      simp only [writeFileReceive] at houtcome ⊢
      split at houtcome
      · simp only [writeFileAttempt, attemptRequest] at houtcome
        split at houtcome
        · simp [ClientPhase.outcome] at houtcome
        · exact absurd hcompleted (hrefused _ outcome rfl houtcome)
      · next sender packet hfirst =>
          simp only [writeFileReply] at houtcome ⊢
          split at houtcome
          · exact absurd hcompleted (hrefused _ outcome rfl houtcome)
          · split at houtcome
            · simp [ClientPhase.outcome] at houtcome
            · exact absurd hcompleted (hrefused _ outcome rfl houtcome)
            · exact hfinish sender _ _ outcome houtcome hcompleted
          · split at houtcome
            · next hzero =>
                rw [if_pos hzero]
                exact hfinish sender _ _ outcome houtcome hcompleted
            · exact absurd hcompleted (hrefused _ outcome rfl houtcome)
          · exact absurd hcompleted (hrefused _ outcome rfl houtcome)
  | transfer lockedPeer params s =>
      exact hfinish lockedPeer params _ outcome houtcome hcompleted
  | finished lockedPeer params s o => exact hreported outcome houtcome hcompleted
  | refused o => exact hreported outcome houtcome hcompleted
  | threw => exact hreported outcome houtcome hcompleted

variable {st : Service.State Endpoint Bytes (ClientPhase SenderState) Handler Files}
  (hinv : UploadInv call payload sc files addresses st)

include hinv

/-- What is in transit may be lost or repeated. -/
theorem uploadInv_network {network : List (Service.Datagram Endpoint Bytes)}
    (hsub : ∀ d ∈ network, d ∈ st.network) :
    UploadInv call payload sc files addresses { st with network := network } :=
  ⟨hinv.agreement, hinv.handlers, fun d hd => hinv.network d (hsub d hd), hinv.shared,
    hinv.reported⟩

omit hinv in
/-- **The reactions of a handler's receiver keep it partnered** with the client. -/
theorem Partnered.receive (homit : call.config.quirks.omitTerminatingEmptyBlock = false)
    (hskip : sc.quirks.acceptOutOfSequenceData = false) {c : ClientPhase SenderState}
    {peer : Endpoint} {h : Handler} {r : ReceiverState} (hp : Partnered call payload c peer h r)
    (hwindow : h.params.windowSize ≤ 65535) {status : ReceiveStatus}
    (hheard : ∀ packet, status = .gotPacket packet → packet.opcode = .data → ∃ bytes,
      WriteClientSends payload c peer bytes ∧ parseDatagram bytes = .ok packet) :
    Partnered call payload c peer h (receiverReceive h.params sc r status).1 ∧
      r.lastInSequence ≤ (receiverReceive h.params sc r status).1.lastInSequence ∧
      ∀ a ∈ (receiverReceive h.params sc r status).2,
        a = (receiverReceive h.params sc r status).1.lastInSequence := by
  by_cases hlocked : ∃ params s, c.locked = some (peer, params, s)
  · obtain ⟨params, s, hlocked⟩ := hlocked
    obtain ⟨hf, hsmall, hsafe⟩ := hp.locked params s hlocked
    obtain ⟨hsafe', hrest⟩ := hsafe.receiver hf homit hskip (by
      intro packet hgot hop hnext
      obtain ⟨bytes, hsent, hparse⟩ := hheard packet hgot hop
      rcases hsent with ⟨-, packet', hparse', herr⟩ | ⟨p, s', i, hlocked', hi, hle, rfl⟩
      · cases Except.ok.inj (hparse.symm.trans hparse')
        exact absurd (herr.symm.trans hop) (by simp)
      · cases Option.some.inj (hlocked.symm.trans hlocked')
        cases Except.ok.inj (hparse.symm.trans (parse_dataDatagram payload params i))
        have hsent_le := hsafe.sender.sent_le
        have htotal := hf.total_eq homit
        have hlis := hsafe.received_le
        have heq : i = r.lastInSequence + 1 := eq_of_u16_eq hnext (by omega) (by omega)
        rw [← heq]
        exact ⟨hle, rfl⟩)
    refine ⟨⟨fun p s' heq => ?_, fun hnot => absurd hlocked (hnot params s)⟩, hrest⟩
    cases Option.some.inj (hlocked.symm.trans heq)
    exact ⟨hf, hsmall, hsafe'⟩
  · have hnot : ∀ params s, c.locked ≠ some (peer, params, s) := fun params s heq =>
      hlocked ⟨params, s, heq⟩
    obtain ⟨hfresh, hrest⟩ := (hp.unlocked hnot).receive hskip hwindow (by
      intro packet hgot hop
      obtain ⟨bytes, hsent, hparse⟩ := hheard packet hgot hop
      rcases hsent with ⟨-, packet', hparse', herr⟩ | ⟨p, s, i, hlocked', -⟩
      · cases Except.ok.inj (hparse.symm.trans hparse')
        exact absurd (herr.symm.trans hop) (by simp)
      · exact hnot p s hlocked')
    exact ⟨⟨fun p s heq => absurd heq (hnot p s), fun _ => hfresh⟩, hrest⟩

/-- The invariant after a reaction of a handler. -/
theorem uploadInv_session (homit : call.config.quirks.omitTerminatingEmptyBlock = false)
    (hskip : sc.quirks.acceptOutOfSequenceData = false)
    {network : List (Service.Datagram Endpoint Bytes)} (hsub : ∀ d ∈ network, d ∈ st.network)
    {k : ℕ} {h : Handler} (hk : st.sessions[k]? = some h)
    {event : Option (Endpoint × Bytes)}
    (hevent : event = none ∨ ∃ d ∈ st.network, d.target = addresses.session k ∧
      event = some (d.source, d.message)) :
    UploadInv call payload sc files addresses
      (Service.reactSession (writeRoles call payload sc served) addresses st network k h
        event) := by
  rcases hinv.handlers k h hk with ⟨r, hw⟩ | hphase
  · -- a handler that receives the upload hears its client only
    have hsource : ∀ sender bytes, eventOf event = .datagram sender bytes →
        sender = addresses.client ∧
          WriteClientSends payload st.client (addresses.session k) bytes := by
      intro sender bytes heq
      rcases hevent with rfl | ⟨d, hd, htarget, rfl⟩
      · exact absurd heq (by simp [eventOf])
      · cases heq
        exact (hinv.network d hd).to_session htarget
    obtain ⟨r', hstore, hstep⟩ := @writer_receive call payload sc addresses.client
      (Partnered call payload st.client (addresses.session k) h) h r hw
      (hinv.agreement.partnered k h r hk hw) (eventOf event)
      (fun sender bytes heq => (hsource sender bytes heq).1)
      (fun status hpeer => (hinv.agreement.partnered k h r hk hw).receive homit hskip hw.window_le
        fun packet hgot _ => by
          obtain ⟨bytes, hdatagram, hparse⟩ := hpeer packet hgot
          exact ⟨bytes, (hsource _ _ hdatagram).2, hparse⟩) st.shared
    generalize hreact : handlerReceive sc st.shared h (eventOf event) = reacted at hstore hstep
    have heq : Service.reactSession (writeRoles call payload sc served) addresses st network k h
        event =
        { st with
          sessions := st.sessions.set k reacted.2.1
          shared := reacted.1
          network := network ++ Service.sendsFrom (addresses.session k) reacted.2.2 } := by
      rw [← hreact]
      rfl
    rw [heq]
    have hself : (st.sessions.set k reacted.2.1)[k]? = some reacted.2.1 :=
      List.getElem?_set_self (List.getElem?_eq_some_iff.1 hk).1
    have hagree : UploadAgreement call payload sc addresses.client addresses.session st.client
        (st.sessions.set k reacted.2.1) := by
      refine ⟨?_, ?_⟩
      · intro j g q hj hq
        rcases Service.getElem?_set_cases hk hj with ⟨rfl, rfl⟩ | ⟨-, hj⟩
        · cases hstep.writer.unique hq
          have hkeeps := hstep.keeps
          refine ⟨?_, ?_⟩
          · rw [hstep.params_eq]
            exact hkeeps.locked
          · rw [hstep.params_eq]
            exact hkeeps.unlocked
        · exact hinv.agreement.partnered j g q hj hq
      · intro peer params s hlocked
        obtain ⟨j, g, q, hj, hq, hpeer⟩ := hinv.agreement.peer peer params s hlocked
        have hstays : ∃ g', (st.sessions.set k reacted.2.1)[j]? = some g' ∧
            ∃ q', Writer call payload sc addresses.client g' q' :=
          Service.exists_getElem?_set hk hj (fun _ => ⟨r', hstep.writer⟩) fun _ => ⟨q, hq⟩
        obtain ⟨g', hj', q', hq'⟩ := hstays
        exact ⟨j, g', q', hj', hq', hpeer⟩
    refine ⟨hagree, ?_, ?_, ?_, hinv.reported⟩
    · intro j g hj
      rcases Service.getElem?_set_cases hk hj with ⟨rfl, rfl⟩ | ⟨-, hj⟩
      · exact Or.inl ⟨r', hstep.writer⟩
      · exact hinv.handlers j g hj
    · -- the new handler explains what was in transit and what it sends itself
      intro d hd
      rcases List.mem_append.1 hd with hd | hd
      · refine (hinv.network d (hsub d hd)).mono (fun _ _ => id) fun j bytes hsent => ?_
        obtain ⟨g, hj, hsent⟩ := hsent
        refine Service.exists_getElem?_set hk hj (fun hjk => ?_) fun _ => hsent
        subst hjk
        cases Option.some.inj (hk.symm.trans hj)
        exact hstep.sends_mono hw hsent
      · obtain ⟨hsource', hmem⟩ := Service.mem_sendsFrom.1 hd
        obtain ⟨htarget, hsent⟩ := hstep.sends _ hmem
        exact .toClient k hsource' htarget ⟨_, hself, hsent⟩
    · -- a file that is written is the whole payload
      intro path
      simp only [hstore]
      rcases storeUpload_cases h st.shared r r' path with hsame | ⟨hfinal, hwritten⟩
      · rw [hsame]
        exact hinv.shared path
      · right
        rw [hwritten, hw.netascii_eq,
          hagree.whole homit hself hstep.writer hfinal]
  · -- a handler that has returned
    have hstill : (writeRoles call payload sc served).session st.shared h event =
        (st.shared, h, []) := by
      simp only [writeRoles, serviceRoles, handlerReceive, hphase]
    rw [Service.reactSession_still hk hstill]
    exact uploadInv_network hinv hsub

/-- The invariant after the listener has opened a handler. -/
theorem uploadInv_open (hname : (0 : UInt8) ∉ call.remoteFilename)
    (hmode : (0 : UInt8) ∉ call.mode) {network : List (Service.Datagram Endpoint Bytes)}
    (hsub : ∀ d ∈ network, d ∈ st.network) {d : Service.Datagram Endpoint Bytes}
    (hd : d ∈ st.network) (htarget : d.target = addresses.listener) {h : Handler}
    {sends : List (Endpoint × Bytes)}
    (haccept : (writeRoles call payload sc served).accept st.shared d.source d.message =
      some (h, sends)) :
    UploadInv call payload sc files addresses
      (Service.openSession addresses st network h sends) := by
  obtain ⟨hsource, hmessage⟩ := (hinv.network d hd).to_listener htarget
  have hrequest : acceptRequest sc served st.shared d.source d.message = some (h, sends) := haccept
  rw [hsource, hmessage] at hrequest
  have hopened := writer_accept hname hmode hrequest
  -- the client is not locked onto an address nobody has had
  have hunlocked : ∀ params s,
      st.client.locked ≠ some (addresses.session st.sessions.length, params, s) := by
    intro params s hlocked
    obtain ⟨j, g, q, hj, -, hpeer⟩ := hinv.agreement.peer _ _ _ hlocked
    have hlt := (List.getElem?_eq_some_iff.1 hj).1
    have := addresses.session_injective _ _ hpeer
    omega
  refine ⟨⟨?_, ?_⟩, ?_, ?_, hinv.shared, hinv.reported⟩
  · intro j g q hj hq
    rcases Service.getElem?_open_cases hj with ⟨rfl, rfl⟩ | hj
    · rcases hopened with ⟨hphase, -⟩ | ⟨r, hw, hfresh, -⟩
      · exact absurd (hphase.symm.trans hq.phase_eq) (by simp)
      · cases hw.unique hq
        exact ⟨fun p s heq => absurd heq (hunlocked p s), fun _ => hfresh⟩
    · exact hinv.agreement.partnered j g q hj hq
  · intro peer params s hlocked
    obtain ⟨j, g, q, hj, hrest⟩ := hinv.agreement.peer peer params s hlocked
    exact ⟨j, g, q, Service.getElem?_open hj, hrest⟩
  · intro j g hj
    rcases Service.getElem?_open_cases hj with ⟨rfl, rfl⟩ | hj
    · rcases hopened with ⟨hphase, -⟩ | ⟨r, hw, -⟩
      · exact Or.inr hphase
      · exact Or.inl ⟨r, hw⟩
    · exact hinv.handlers j g hj
  · intro e he
    rcases List.mem_append.1 he with he | he
    · exact (hinv.network e (hsub e he)).mono (fun _ _ => id)
        fun j bytes ⟨g, hj, hsent⟩ => ⟨g, Service.getElem?_open hj, hsent⟩
    · obtain ⟨hsource', hmem⟩ := Service.mem_sendsFrom.1 he
      have hnew : (st.sessions ++ [h])[st.sessions.length]? = some h := List.getElem?_concat_length
      rcases hopened with ⟨-, hsends⟩ | ⟨-, -, -, hsends⟩
      · exact .toClient _ hsource' (hsends _ hmem).1 ⟨h, hnew, Or.inl (hsends _ hmem).2⟩
      · exact .toClient _ hsource' (hsends _ hmem).1 ⟨h, hnew, (hsends _ hmem).2⟩

section Client

variable (hb : 1 ≤ sc.defaultBlockSize)
  (hdefault : call.config.defaultBlockSize = sc.defaultBlockSize)
  (homit : call.config.quirks.omitTerminatingEmptyBlock = false)
  (hdup : call.config.quirks.retransmitOnDuplicateAck = false)
  (hfits : UploadFits call payload sc) (hlistener : addresses.listener = call.serverEndpoint)

include hb hdefault homit hdup hfits hlistener

/-- The invariant after a reaction of the client. -/
theorem uploadInv_client {l : Service.Label} (hacks : AcksFit call payload addresses st l)
    {network : List (Service.Datagram Endpoint Bytes)} (hsub : ∀ d ∈ network, d ∈ st.network)
    {event : Option (Endpoint × Bytes)}
    (hevent : event = none ∨ ∃ i d, l = .deliver i ∧ st.network[i]? = some d ∧
      d.target = addresses.client ∧ event = some (d.source, d.message)) :
    UploadInv call payload sc files addresses
      (Service.reactClient (writeRoles call payload sc served) addresses st network event) := by
  have hstep := @writeFileReceive_step call payload sc addresses.client addresses.session
    st.client st.sessions addresses.session_injective homit hinv.agreement hb hdefault hdup hfits
    (eventOf event) (by
      intro sender bytes heq
      rcases hevent with rfl | ⟨i, d, -, hd, htarget, rfl⟩
      · exact absurd heq (by simp [eventOf])
      · cases heq
        obtain ⟨k, hsource, h, hk, hsent⟩ :=
          (hinv.network d (List.mem_of_getElem? hd)).to_client htarget
        exact ⟨k, h, hsource, hk, hsent⟩) (by
      intro attempt packet k h bytes hphase heq hparse hop hzero hk
      rcases hevent with rfl | ⟨i, d, hl, hd, htarget, rfl⟩
      · exact absurd heq (by simp [eventOf])
      · obtain ⟨hsource, hmessage⟩ := SocketEvent.datagram.inj heq
        rw [← hmessage] at hparse
        exact hacks i d attempt packet hl hd htarget hphase hparse hop hzero k h hsource hk)
  refine ⟨hstep.agreement, hinv.handlers, ?_, hinv.shared,
    writeFile_reported hinv.reported (eventOf event)⟩
  intro d hd
  rcases List.mem_append.1 hd with hd | hd
  · exact (hinv.network d (hsub d hd)).mono
      (fun k bytes hsent => hsent.mono fun params s => hstep.moves _ params s) fun _ _ => id
  · obtain ⟨hsource, hmem⟩ := Service.mem_sendsFrom.1 hd
    rcases hstep.sends _ hmem with hrequest | ⟨k, htarget, hsent⟩
    · obtain ⟨htarget, hmessage⟩ := Prod.mk.inj hrequest
      exact .request hsource (htarget.trans hlistener.symm) hmessage
    · exact .toSession k hsource htarget hsent

/-- **Every event that does not lead the client astray preserves the invariant.** -/
theorem uploadInv_step (hskip : sc.quirks.acceptOutOfSequenceData = false)
    (hname : (0 : UInt8) ∉ call.remoteFilename) (hmode : (0 : UInt8) ∉ call.mode)
    {l : Service.Label} (hacks : AcksFit call payload addresses st l)
    {st' : Service.State Endpoint Bytes (ClientPhase SenderState) Handler Files}
    (hstep : Service.step (writeRoles call payload sc served) addresses st l = some st') :
    UploadInv call payload sc files addresses st' := by
  rcases Service.step_cases hstep with
    ⟨network, event, hsub, hevent, rfl⟩ | ⟨network, k, h, event, hsub, hk, hevent, rfl⟩ |
    ⟨network, d, h, sends, hsub, hd, htarget, haccept, rfl⟩ | ⟨network, hsub, rfl⟩
  · exact uploadInv_client hinv hb hdefault homit hdup hfits hlistener hacks hsub hevent
  · exact uploadInv_session hinv homit hskip hsub hk hevent
  · exact uploadInv_open hinv hname hmode hsub hd htarget haccept
  · exact uploadInv_network hinv hsub

end Client

omit hinv in
/-- The invariant before the first event. -/
theorem uploadInv_start (hlistener : addresses.listener = call.serverEndpoint) :
    UploadInv call payload sc files addresses (uploadStart call payload files addresses) := by
  have hunlocked : (writeFileStart call payload).1.locked = none := by
    simp only [writeFileStart, writeFileAttempt, attemptRequest]
    split <;> rfl
  have hunfinished : ∀ outcome, (writeFileStart call payload).1.outcome = some outcome →
      outcome.completedSuccessfully = false := by
    simp only [writeFileStart, writeFileAttempt, attemptRequest]
    split <;> simp [ClientPhase.outcome]
  refine ⟨⟨?_, ?_⟩, ?_, ?_, fun path => Or.inl rfl, ?_⟩
  · intro k h r hk
    exact absurd hk (by simp [uploadStart])
  · intro peer params s hlocked
    exact absurd (hunlocked.symm.trans hlocked) (by simp)
  · intro k h hk
    exact absurd hk (by simp [uploadStart])
  · intro d hd
    obtain ⟨hsource, hmem⟩ := Service.mem_sendsFrom.1 hd
    have hrequest : (d.target, d.message) =
        (call.serverEndpoint, writeRequestDatagram call payload) := by
      simp only [writeFileStart, writeFileAttempt, attemptRequest] at hmem
      split at hmem
      · exact List.mem_singleton.1 hmem
      · exact absurd hmem List.not_mem_nil
    obtain ⟨htarget, hmessage⟩ := Prod.mk.inj hrequest
    exact .request hsource (htarget.trans hlistener.symm) hmessage
  · intro outcome houtcome hcompleted
    exact absurd ((hunfinished outcome houtcome).symm.trans hcompleted) (by decide)

end Run

/-- **Safety of an upload, handshake included.**  In every state that an upload to the server
reaches by events that do not lead the client astray, over a network that drops, duplicates, delays
and reorders: when the client has reported success, the handler it is locked onto has accepted the
final block and holds the whole payload; no handler accepts a final block without holding the whole
payload; and nothing else is written to the served directory. -/
theorem upload_safety {call : ClientCall} {payload : Bytes} {sc : EngineConfig}
    {served : ServedDirectory} {files : Files} {addresses : Service.Addresses Endpoint}
    (hcq : call.config.quirks = {}) (hsq : sc.quirks = {})
    (hdefault : call.config.defaultBlockSize = sc.defaultBlockSize)
    (hb : 1 ≤ sc.defaultBlockSize) (hname : (0 : UInt8) ∉ call.remoteFilename)
    (hmode : (0 : UInt8) ∉ call.mode) (hlistener : addresses.listener = call.serverEndpoint)
    (hfits : UploadFits call payload sc) {schedule : List Service.Label}
    {st : Service.State Endpoint Bytes (ClientPhase SenderState) Handler Files}
    (hacks : Service.StepsMeet (writeRoles call payload sc served) addresses
      (AcksFit call payload addresses) (uploadStart call payload files addresses) schedule)
    (h : Service.run (writeRoles call payload sc served) addresses
      (uploadStart call payload files addresses) schedule = some st) :
    (∀ outcome, st.client.outcome = some outcome → outcome.completedSuccessfully = true →
      ∃ k params s h r, st.client.locked = some (addresses.session k, params, s) ∧
        st.sessions[k]? = some h ∧ h.phase = .receiving r ∧ r.gotFinal = true ∧
        r.sink = payload) ∧
    (∀ (k : ℕ) h r, st.sessions[k]? = some h → h.phase = .receiving r → r.gotFinal = true →
      r.sink = payload) ∧
    (∀ path, st.shared path = files path ∨
      st.shared path = some (decodeForMode (modeIsNetascii call.mode) payload)) := by
  have homit : call.config.quirks.omitTerminatingEmptyBlock = false := by rw [hcq]
  have hinv : UploadInv call payload sc files addresses st :=
    Service.run_invariant (fun _ _ _ hfit hinv hstep =>
      uploadInv_step hinv hb hdefault homit (by rw [hcq]) hfits hlistener (by rw [hsq]) hname hmode
        hfit hstep) hacks (uploadInv_start hlistener) h
  refine ⟨?_, ?_, hinv.shared⟩
  · intro outcome houtcome hcompleted
    obtain ⟨peer, params, s, hlocked, hdone⟩ := hinv.reported outcome houtcome hcompleted
    obtain ⟨k, g, r, hk, hw, rfl⟩ := hinv.agreement.peer peer params s hlocked
    obtain ⟨hf, -, hsafe⟩ := (hinv.agreement.partnered k g r hk hw).locked params s hlocked
    exact ⟨k, params, s, g, r, hlocked, hk, hw.phase_eq, (hsafe.sender_done hdone).2,
      hsafe.sender_success hf homit hdone⟩
  · intro k g r hk hphase hfinal
    rcases hinv.handlers k g hk with ⟨q, hw⟩ | hreturned
    · cases HandlerPhase.receiving.inj (hphase.symm.trans hw.phase_eq)
      exact hinv.agreement.whole homit hk hw hfinal
    · exact absurd (hphase.symm.trans hreturned) (by simp)

/-- **Where the negotiated block size frames the payload as the default one does**, no event leads
the client astray. -/
theorem acksFit_of_alike {call : ClientCall} {payload : Bytes} {sc : EngineConfig}
    {files : Files} {addresses : Service.Addresses Endpoint}
    {st : Service.State Endpoint Bytes (ClientPhase SenderState) Handler Files}
    (halike : FramesAlike payload.length call.config.defaultBlockSize
      (writeNegotiated call payload sc).2.blockSize)
    (hinv : UploadInv call payload sc files addresses st) (l : Service.Label) :
    AcksFit call payload addresses st l := by
  intro i d attempt packet _ hd htarget _ hparse hop _ k h hsource hk
  obtain ⟨j, hsource', g, hj, hsent⟩ :=
    (hinv.network d (List.mem_of_getElem? hd)).to_client htarget
  cases addresses.session_injective k j (hsource.symm.trans hsource')
  cases Option.some.inj (hk.symm.trans hj)
  obtain ⟨packet', hparse', hcases⟩ := hsent.parse
  cases Except.ok.inj (hparse.symm.trans hparse')
  rcases hcases with herr | ⟨r, hw, -⟩
  · exact absurd (herr.symm.trans hop) (by simp)
  · rw [hw.negotiated_eq] at halike
    exact halike

/-- A call that stores a file as `f` and asks for blocks of eight bytes. -/
def smallBlocksWrite : ClientCall where
  serverEndpoint := addressesByPort.listener
  remoteFilename := text "f"
  mode := text "octet"
  options := { blockSize := some 8 }
  config := {}

/-- A handler has accepted a final block. -/
def Handler.gotFinal (h : Handler) : Bool :=
  match h.phase with
  | .receiving r => r.gotFinal
  | _ => false

/-- The OACK is lost.  The client takes the handler's next ACK 0 for a refusal of its options,
sends ten bytes as one short block and reports success; its handler expects blocks of eight bytes,
waits for more, and gives up without storing anything. -/
theorem upload_reported_but_lost :
    ∃ st, Service.run
        (writeRoles smallBlocksWrite [1, 2, 3, 4, 5, 6, 7, 8, 9, 10] {} plainDirectory)
        addressesByPort
        (uploadStart smallBlocksWrite [1, 2, 3, 4, 5, 6, 7, 8, 9, 10] (fun _ => none)
          addressesByPort)
        ([.deliver 0, .drop 0, .timeoutSession 0, .deliver 0, .deliver 0, .deliver 0] ++
          List.replicate 7 (.timeoutSession 0)) = some st ∧
      st.client.outcome.map (·.completedSuccessfully) = some true ∧
      (∀ h ∈ st.sessions, h.gotFinal = false) ∧ st.shared (text "f") = none :=
  ⟨_, rfl, by decide, by decide, rfl⟩

/-- Seven bytes are a single short block under either block size. -/
theorem upload_safety_seven_bytes :
    ∃ st, Service.run (writeRoles smallBlocksWrite [1, 2, 3, 4, 5, 6, 7] {} plainDirectory)
        addressesByPort
        (uploadStart smallBlocksWrite [1, 2, 3, 4, 5, 6, 7] (fun _ => none) addressesByPort)
        [.deliver 0, .drop 0, .timeoutSession 0, .deliver 0, .deliver 0, .deliver 0] = some st ∧
      st.client.outcome.map (·.completedSuccessfully) = some true ∧
      ∃ (k : ℕ) (h : Handler) (r : ReceiverState), st.sessions[k]? = some h ∧
        h.phase = .receiving r ∧ r.gotFinal = true ∧ r.sink = [1, 2, 3, 4, 5, 6, 7] := by
  refine ⟨_, rfl, by decide, ?_⟩
  have hfits : UploadFits smallBlocksWrite [1, 2, 3, 4, 5, 6, 7] {} := by
    constructor <;> decide
  have halike : FramesAlike 7 512
      (writeNegotiated smallBlocksWrite [1, 2, 3, 4, 5, 6, 7] {}).2.blockSize := by decide
  have hsafe := (@upload_safety smallBlocksWrite [1, 2, 3, 4, 5, 6, 7] {} plainDirectory
    (fun _ => none) addressesByPort rfl rfl rfl (by decide) (by decide) (by decide) rfl hfits
    [.deliver 0, .drop 0, .timeoutSession 0, .deliver 0, .deliver 0, .deliver 0] _
    (Service.stepsMeet_of_invariant (fun st l hinv => acksFit_of_alike halike hinv l)
      (fun _ _ _ hfit hinv hstep => uploadInv_step hinv (by decide) rfl rfl rfl hfits rfl rfl
        (by decide) (by decide) hfit hstep) _ (uploadInv_start rfl)) rfl).1 _ rfl (by decide)
  obtain ⟨k, params, s, h, r, -, hk, hphase, hfinal, hsink⟩ := hsafe
  exact ⟨k, h, r, hk, hphase, hfinal, hsink⟩

end TftpHarness
