/-
**Safety of the data plane over an unreliable network.**

A sender and a receiver locked to each other exchange DATA and ACK datagrams over links that may
drop, duplicate, delay and reorder.  A stale datagram can only say something that was true once, and
the joint invariant `TftpHarness.Safe` is true of both ends at any time; what remains is that a wire
number is resolved to the index it was sent for, which needs the two to lie within 65536 blocks of
each other.  With at most 65535 blocks they always do.

The two ends need not agree on their parameters: `TftpHarness.Framed` states what their block sizes
have to have in common, and equal block sizes always have it.  The reactions of the two ends
preserve the invariant one at a time (`TftpHarness.Safe.receiver`,
`TftpHarness.Safe.sender_receive`), whatever carries the datagrams; the duplex system of this
module is one such carrier.

Main definitions:

* `TftpHarness.Framed` — the receiver cuts the transfer off exactly where the payload ends;
* `TftpHarness.Safe` — the joint invariant of the two ends;
* `TftpHarness.ReceiverState.Fresh` — a receiver that has accepted nothing yet;
* `TftpHarness.dataPlaneStart`, `TftpHarness.DataPlaneInv` — the joint system and its invariant.

Main results:

* `TftpHarness.dataPlaneInv_step` — one event preserves the joint invariant as long as it delivers
  nothing from too far away;
* `TftpHarness.dataPlaneInv_run` — the invariant holds in every reachable state;
* `TftpHarness.data_plane_safety` — **the receiver's file is always a prefix of the payload, and it
  is the whole payload as soon as either end reports success**.
-/

import TftpHarness.Sender
import TftpHarness.Receiver

set_option relaxedAutoImplicit false
set_option autoImplicit false

namespace TftpHarness

variable {payload : Bytes} {sp rp : NegotiatedParameters} {sc rc : EngineConfig}

/-! ### Two ends with compatible framing -/

/-- A payload sent in blocks of one size to a receiver that expects blocks of another, without a
32-bit index wrapping around: the receiver takes a block for the final one only when it ends the
payload, and takes the last block for the final one. -/
structure Framed (payload : Bytes) (sp rp : NegotiatedParameters) : Prop where
  blockSize_pos : 0 < sp.blockSize
  sender_lt : payload.length / sp.blockSize + 1 + senderWindow sp < 4294967296
  receiver_lt : payload.length / sp.blockSize + 1 + receiverWindow rp < 4294967296
  short_ends : ∀ i, 1 ≤ i → i ≤ payload.length / sp.blockSize + 1 →
    (blockPayload payload i sp.blockSize).length < rp.blockSize →
      payload.length ≤ i * sp.blockSize
  last_short : (blockPayload payload (payload.length / sp.blockSize + 1) sp.blockSize).length <
    rp.blockSize

/-- Equal block sizes frame every payload alike. -/
theorem Framed.of_eq (hb : 0 < sp.blockSize) (heq : rp.blockSize = sp.blockSize)
    (hs : payload.length / sp.blockSize + 1 + senderWindow sp < 4294967296)
    (hr : payload.length / sp.blockSize + 1 + receiverWindow rp < 4294967296) :
    Framed payload sp rp := by
  refine ⟨hb, hs, hr, ?_, ?_⟩
  · intro i hi hle hshort
    rw [heq] at hshort
    have hlast := (length_blockPayload_lt_iff hb hi hle (by omega)).1 hshort
    have htotal : payload.take ((payload.length / sp.blockSize + 1) * sp.blockSize) = payload :=
      take_total hb
    rw [← hlast] at htotal
    have hlen := congrArg List.length htotal
    rw [List.length_take] at hlen
    omega
  · rw [heq]
    exact (length_blockPayload_lt_iff hb (Nat.succ_pos _) (le_refl _) (by omega)).2 rfl

/-- Two ends that agree on both parameters. -/
theorem Framed.of_agreed (hb : 0 < sp.blockSize) (hblock : rp.blockSize = sp.blockSize)
    (hwindow : rp.windowSize = sp.windowSize)
    (hbound : payload.length / sp.blockSize + 1 + max sp.windowSize 1 < 4294967296) :
    Framed payload sp rp := by
  refine Framed.of_eq hb hblock hbound ?_
  rw [receiverWindow, hwindow]
  exact hbound

theorem Framed.total_eq (h : Framed payload sp rp)
    (hq : sc.quirks.omitTerminatingEmptyBlock = false) :
    senderTotalBlocks payload sp sc = payload.length / sp.blockSize + 1 :=
  senderTotalBlocks_eq hq (by have := h.sender_lt; omega)

theorem Framed.sender_bound (h : Framed payload sp rp)
    (hq : sc.quirks.omitTerminatingEmptyBlock = false) :
    senderTotalBlocks payload sp sc + senderWindow sp < 4294967296 := by
  rw [h.total_eq hq]
  exact h.sender_lt

/-- The first blocks up to one the receiver takes for final are the whole payload. -/
theorem Framed.take_eq (h : Framed payload sp rp) {i : ℕ} (hi : 1 ≤ i)
    (hle : i ≤ payload.length / sp.blockSize + 1)
    (hshort : (blockPayload payload i sp.blockSize).length < rp.blockSize) :
    payload.take (i * sp.blockSize) = payload :=
  List.take_of_length_le (h.short_ends i hi hle hshort)

/-! ### The joint invariant -/

variable (payload sp rp sc) in
/-- **What holds of the two ends together**, at any time. -/
structure Safe (s : SenderState) (r : ReceiverState) : Prop where
  sender : SenderInv payload sp sc s
  acked_le : s.lastAcked ≤ r.lastInSequence
  received_le : r.lastInSequence ≤ s.highestSent
  sink_eq : r.sink = payload.take (r.lastInSequence * sp.blockSize)
  /-- A receiver in its loop has not seen the last block. -/
  receiving : r.phase = .receiving → r.lastInSequence < senderTotalBlocks payload sp sc ∧
    r.blocksSinceAck < receiverWindow rp ∧ r.gotFinal = false
  /-- A receiver past its loop has accepted a short block. -/
  final_short : r.gotFinal = true → 1 ≤ r.lastInSequence ∧
    (blockPayload payload r.lastInSequence sp.blockSize).length < rp.blockSize
  last_final : r.lastInSequence = senderTotalBlocks payload sp sc → r.gotFinal = true

/-- A receiver past its loop holds the whole payload. -/
theorem Safe.final_whole (hf : Framed payload sp rp)
    (hsq : sc.quirks.omitTerminatingEmptyBlock = false) {s : SenderState} {r : ReceiverState}
    (h : Safe payload sp rp sc s r) (hfinal : r.gotFinal = true) : r.sink = payload := by
  obtain ⟨hpos, hshort⟩ := h.final_short hfinal
  have htotal := hf.total_eq hsq
  have hsent := h.sender.sent_le
  have hlis := h.received_le
  rw [h.sink_eq]
  exact hf.take_eq hpos (by omega) hshort

/-- With equal block sizes a receiver past its loop stands at the last block. -/
theorem Safe.final_total (hf : Framed payload sp rp) (hblock : rp.blockSize = sp.blockSize)
    (hsq : sc.quirks.omitTerminatingEmptyBlock = false) {s : SenderState} {r : ReceiverState}
    (h : Safe payload sp rp sc s r) (hfinal : r.gotFinal = true) :
    r.lastInSequence = senderTotalBlocks payload sp sc := by
  obtain ⟨hpos, hshort⟩ := h.final_short hfinal
  have htotal := hf.total_eq hsq
  have hsent := h.sender.sent_le
  have hlis := h.received_le
  have hlt := hf.sender_lt
  rw [hblock] at hshort
  rw [htotal]
  exact (length_blockPayload_lt_iff hf.blockSize_pos hpos (by omega) (by omega)).1 hshort

/-- A receiver that reports success holds the whole payload. -/
theorem Safe.receiver_success (hf : Framed payload sp rp)
    (hsq : sc.quirks.omitTerminatingEmptyBlock = false) {s : SenderState} {r : ReceiverState}
    (h : Safe payload sp rp sc s r) (hcomp : r.outcome.completedSuccessfully = true) :
    r.sink = payload := by
  refine h.final_whole hf hsq ?_
  unfold ReceiverState.gotFinal
  split
  · rfl
  · exact hcomp

/-- When the sender reports success the receiver has accepted the last block. -/
theorem Safe.sender_done {s : SenderState} {r : ReceiverState} (h : Safe payload sp rp sc s r)
    (hcomp : s.outcome.completedSuccessfully = true) :
    r.lastInSequence = senderTotalBlocks payload sp sc ∧ r.gotFinal = true := by
  have hacked := h.sender.completed hcomp
  have hsent := h.sender.sent_le
  have hle := h.acked_le
  have hlis := h.received_le
  have hlast : r.lastInSequence = senderTotalBlocks payload sp sc := by omega
  exact ⟨hlast, h.last_final hlast⟩

/-- When the sender reports success the receiver holds the whole payload. -/
theorem Safe.sender_success (hf : Framed payload sp rp)
    (hsq : sc.quirks.omitTerminatingEmptyBlock = false) {s : SenderState} {r : ReceiverState}
    (h : Safe payload sp rp sc s r) (hcomp : s.outcome.completedSuccessfully = true) :
    r.sink = payload :=
  h.final_whole hf hsq (h.sender_done hcomp).2

/-- No 32-bit index of the receiver can wrap around. -/
theorem Safe.receiver_bound (hf : Framed payload sp rp)
    (hsq : sc.quirks.omitTerminatingEmptyBlock = false) {s : SenderState} {r : ReceiverState}
    (h : Safe payload sp rp sc s r) : r.lastInSequence + receiverWindow rp < 4294967296 := by
  have htotal := hf.total_eq hsq
  have hblocks := hf.receiver_lt
  have hsent := h.sender.sent_le
  have hlis := h.received_le
  omega

/-- **The receiver's reaction** preserves the invariant when what passes for the next block is the
next block, and it acknowledges the last block it holds. -/
theorem Safe.receiver (hf : Framed payload sp rp)
    (hsq : sc.quirks.omitTerminatingEmptyBlock = false)
    (hrq : rc.quirks.acceptOutOfSequenceData = false) {s : SenderState} {r : ReceiverState}
    (h : Safe payload sp rp sc s r) {status : ReceiveStatus}
    (hdata : ∀ packet, status = .gotPacket packet → packet.opcode = .data →
      packet.blockNumber = wireBlockNumber (r.lastInSequence + 1) →
      r.lastInSequence + 1 ≤ s.highestSent ∧
        packet.data = blockPayload payload (r.lastInSequence + 1) sp.blockSize) :
    Safe payload sp rp sc s (receiverReceive rp rc r status).1 ∧
      r.lastInSequence ≤ (receiverReceive rp rc r status).1.lastInSequence ∧
      ∀ a ∈ (receiverReceive rp rc r status).2,
        a = (receiverReceive rp rc r status).1.lastInSequence := by
  have htotal := hf.total_eq hsq
  have hblocks := hf.receiver_lt
  have hsent := h.sender.sent_le
  have hlis := h.received_le
  rcases receiverReceive_cases hrq (h.receiver_bound hf hsq)
    (fun hp => (h.receiving hp).2.1) rfl with
    ⟨hsame, hsink, hfinal, hphase, hacks⟩ | ⟨packet, hstatus, hphase, hop, hnext, hr⟩
  · -- the receiver stands still
    refine ⟨⟨h.sender, ?_, ?_, ?_, ?_, ?_, ?_⟩, ?_, ?_⟩
    · rw [hsame]
      exact h.acked_le
    · rw [hsame]
      exact h.received_le
    · rw [hsame, hsink]
      exact h.sink_eq
    · intro hp
      obtain ⟨hp', hsince⟩ := hphase hp
      rw [hsame, hfinal]
      exact ⟨(h.receiving hp').1, hsince, (h.receiving hp').2.2⟩
    · rw [hfinal, hsame]
      exact h.final_short
    · rw [hsame, hfinal]
      exact h.last_final
    · rw [hsame]
    · intro a ha
      rw [hacks a ha, hsame]
  · -- it takes the next block, whose bytes are those the payload has there
    obtain ⟨hle, hpayload⟩ := hdata packet hstatus hop hnext
    obtain ⟨hlt, hsince, hnotfinal⟩ := h.receiving hphase
    rw [hr]
    obtain ⟨hlis', hsink', hcomp', hphase', hacks'⟩ := acceptNext_spec rp r packet.data
    have hwhole : (acceptNext rp r packet.data).1.sink =
        payload.take ((r.lastInSequence + 1) * sp.blockSize) := by
      rw [hsink', h.sink_eq, hpayload, take_append_blockPayload (by omega)]
    have hfinal' : (acceptNext rp r packet.data).1.gotFinal =
        decide (packet.data.length < rp.blockSize) := by
      have hcomp : r.outcome.completedSuccessfully = false := by
        simpa [ReceiverState.gotFinal, hphase] using hnotfinal
      by_cases hshort : packet.data.length < rp.blockSize
      · simp [ReceiverState.gotFinal, hphase', hshort]
      · simp [ReceiverState.gotFinal, hphase', hshort, hphase, hcomp', hcomp]
    have hlast : r.lastInSequence + 1 = senderTotalBlocks payload sp sc →
        packet.data.length < rp.blockSize := by
      intro hl
      rw [hpayload, hl, htotal]
      exact hf.last_short
    refine ⟨⟨h.sender, ?_, ?_, ?_, ?_, ?_, ?_⟩, ?_, ?_⟩
    · have := h.acked_le
      omega
    · omega
    · rw [hlis', hwhole]
    · intro hp
      have hlong : ¬ packet.data.length < rp.blockSize := by
        intro hshort
        rw [hphase', if_pos hshort] at hp
        exact ReceiverPhase.noConfusion hp
      refine ⟨?_, acceptNext_blocksSinceAck r packet.data hlong, ?_⟩
      · have hne : r.lastInSequence + 1 ≠ senderTotalBlocks payload sp sc :=
          fun hl => hlong (hlast hl)
        omega
      · simp [hfinal', hlong]
    · intro hfin
      rw [hfinal', decide_eq_true_eq, hpayload] at hfin
      rw [hlis']
      exact ⟨by omega, hfin⟩
    · intro hl
      rw [hfinal', decide_eq_true_eq]
      exact hlast (by omega)
    · omega
    · intro a ha
      rw [hacks' a ha, hlis']

/-- **The sender's reaction** preserves the invariant when an ACK resolves to a block the receiver
holds, and it sends only blocks of its window, in order. -/
theorem Safe.sender_receive (hf : Framed payload sp rp)
    (hsq : sc.quirks.omitTerminatingEmptyBlock = false)
    (hdup : sc.quirks.retransmitOnDuplicateAck = false) {s : SenderState} {r : ReceiverState}
    (h : Safe payload sp rp sc s r) (hrun : s.returned = false) {status : ReceiveStatus}
    (hack : ∀ packet, status = .gotPacket packet → packet.opcode = .acknowledgement →
      resolveAckToAbsolute packet.blockNumber s.lastAcked s.highestSent ≤ r.lastInSequence) :
    Safe payload sp rp sc (senderReceive payload sp sc s status).1 r ∧
      s.lastAcked ≤ (senderReceive payload sp sc s status).1.lastAcked ∧
      s.highestSent ≤ (senderReceive payload sp sc s status).1.highestSent ∧
      (senderReceive payload sp sc s status).2.Pairwise (· < ·) ∧
      ∀ i ∈ (senderReceive payload sp sc s status).2,
        (senderReceive payload sp sc s status).1.lastAcked < i ∧
          i ≤ (senderReceive payload sp sc s status).1.highestSent := by
  have hbound := hf.sender_bound hsq
  have hsent := h.sender.sent_le
  have hlis := h.received_le
  have hsender := senderInv_receive h.sender hbound hdup hrun status
  obtain ⟨hlt, hfull, -⟩ := h.sender.waiting hrun
  rcases senderReceive_cases h.sender hbound hdup hrun rfl with
    ⟨ha, hs, -, hout⟩ | ⟨packet, hstatus, hop, hnew, hle, hadv⟩
  · refine ⟨⟨hsender, ?_, ?_, h.sink_eq, h.receiving, h.final_short, h.last_final⟩, ?_, ?_, ?_⟩
    · rw [ha]
      exact h.acked_le
    · rw [hs]
      exact h.received_le
    · rw [ha]
    · rw [hs]
    · rw [ha, hs]
      rcases hout with hout | ⟨-, hout⟩
      · simp [hout]
      · rw [hout]
        refine ⟨pairwise_indexRange _ _, fun i hi => ?_⟩
        rw [mem_indexRange] at hi
        omega
  · have hacked := hack packet hstatus hop
    have hla := hadv.lastAcked
    have hhs := hadv.highestSent
    refine ⟨⟨hsender, ?_, ?_, h.sink_eq, h.receiving, h.final_short, h.last_final⟩, ?_, ?_, ?_, ?_⟩
    · omega
    · omega
    · omega
    · omega
    · rw [hadv.sent]
      exact pairwise_indexRange _ _
    · intro i hi
      rw [hadv.sent, mem_indexRange] at hi
      omega

/-! ### The joint system -/

variable (payload sp rp sc rc) in
/-- The two functions at their first receive, after the sender's first window. -/
def dataPlaneStart (startingDataPacketsSent : ℕ) :
    Duplex.State SenderState ReceiverState PeerLoop.Tagged PeerLoop.Tagged where
  left := (senderStart payload sp sc startingDataPacketsSent).1
  right := (receiverStart rp rc [] 1 none).1
  toRight :=
    (dataSender payload sp sc).tagged (senderStart payload sp sc startingDataPacketsSent).2
  toLeft := (dataReceiver rp rc).tagged (receiverStart rp rc [] 1 none).2

variable (payload sp rp sc rc) in
/-- The invariant of the joint system: DATA in transit was sent, and ACKs in transit acknowledge
what the receiver holds. -/
structure DataPlaneInv
    (st : Duplex.State SenderState ReceiverState PeerLoop.Tagged PeerLoop.Tagged) : Prop where
  safe : Safe payload sp rp sc st.left st.right
  data : ∀ m ∈ st.toRight, 1 ≤ m.absolute ∧ m.absolute ≤ st.left.highestSent ∧
    m.bytes = dataDatagram payload sp m.absolute
  acks : ∀ m ∈ st.toLeft, m.absolute ≤ st.right.lastInSequence ∧
    m.bytes = ackDatagram m.absolute

theorem ackDatagram_ne_nil (i : ℕ) : ackDatagram i ≠ [] :=
  serializeAcknowledgement_ne_nil _

theorem parse_ackDatagram (i : ℕ) :
    parseDatagram (ackDatagram i) =
      .ok { opcode := .acknowledgement, blockNumber := wireBlockNumber i } :=
  parse_serializeAcknowledgement (wireBlockNumber_lt i)

/-- A DATA datagram reaches the receiver as its packet. -/
theorem dataReceiver_receive {r : ReceiverState} {peer : Endpoint} {m : PeerLoop.Tagged}
    (hm : m.bytes = dataDatagram payload sp m.absolute) :
    ((dataReceiver rp rc).party peer).receive r m =
      ((receiverReceive rp rc r (.gotPacket
          { opcode := .data, blockNumber := wireBlockNumber m.absolute,
            data := blockPayload payload m.absolute sp.blockSize })).1,
        (dataReceiver rp rc).tagged (receiverReceive rp rc r (.gotPacket
          { opcode := .data, blockNumber := wireBlockNumber m.absolute,
            data := blockPayload payload m.absolute sp.blockSize })).2) := by
  cases hret : (dataReceiver rp rc).returned r with
  | true =>
      have hphase : r.phase = .returned := of_decide_eq_true hret
      rw [PeerLoop.party_receive_returned hret, receiverReceive_returned hphase]
      rfl
  | false =>
      exact PeerLoop.party_receive hret
        (by rw [hm]; exact dataDatagram_ne_nil payload sp m.absolute)
        (by rw [hm]; exact parse_dataDatagram payload sp m.absolute)

theorem dataReceiver_timeout {r : ReceiverState} {peer : Endpoint} :
    ((dataReceiver rp rc).party peer).timeout r = ((receiverReceive rp rc r .timedOut).1,
      (dataReceiver rp rc).tagged (receiverReceive rp rc r .timedOut).2) := by
  cases hret : (dataReceiver rp rc).returned r with
  | true =>
      have hphase : r.phase = .returned := of_decide_eq_true hret
      rw [PeerLoop.party_timeout_returned hret, receiverReceive_returned hphase]
      rfl
  | false => exact PeerLoop.party_timeout hret

/-- An ACK reaches a sender that has not returned as its packet. -/
theorem dataSender_receive {s : SenderState} {peer : Endpoint} {m : PeerLoop.Tagged}
    (hrun : s.returned = false) (hm : m.bytes = ackDatagram m.absolute) :
    ((dataSender payload sp sc).party peer).receive s m =
      ((senderReceive payload sp sc s (.gotPacket
          { opcode := .acknowledgement, blockNumber := wireBlockNumber m.absolute })).1,
        (dataSender payload sp sc).tagged (senderReceive payload sp sc s (.gotPacket
          { opcode := .acknowledgement, blockNumber := wireBlockNumber m.absolute })).2) :=
  PeerLoop.party_receive hrun (by rw [hm]; exact ackDatagram_ne_nil m.absolute)
    (by rw [hm]; exact parse_ackDatagram m.absolute)

/-- A receiver that has accepted nothing yet. -/
structure ReceiverState.Fresh (params : NegotiatedParameters) (r : ReceiverState) : Prop where
  lastInSequence : r.lastInSequence = 0
  sink : r.sink = []
  gotFinal : r.gotFinal = false
  blocksSinceAck : r.phase = .receiving → r.blocksSinceAck < receiverWindow params

theorem fresh_receiverStart (params params' : NegotiatedParameters) (config : EngineConfig) :
    (receiverStart params' config [] 1 none).1.Fresh params :=
  ⟨rfl, rfl, rfl, fun _ => receiverWindow_pos params⟩

/-- **A receiver that has accepted nothing is safe with a sender that has had nothing
acknowledged.** -/
theorem safe_fresh {s : SenderState} {r : ReceiverState}
    (htotal : 0 < senderTotalBlocks payload sp sc)
    (hs : SenderInv payload sp sc s) (hla : s.lastAcked = 0) (hr : r.Fresh rp) :
    Safe payload sp rp sc s r := by
  have hlis := hr.lastInSequence
  refine ⟨hs, ?_, ?_, ?_, ?_, ?_, ?_⟩
  · omega
  · omega
  · rw [hr.sink, hlis, Nat.zero_mul, List.take_zero]
  · intro hphase
    exact ⟨by omega, hr.blocksSinceAck hphase, hr.gotFinal⟩
  · intro hfinal
    exact absurd (hr.gotFinal.symm.trans hfinal) (by decide)
  · intro hlast
    omega

/-- The two ends start out safe. -/
theorem safe_start (rc : EngineConfig) (hf : Framed payload sp rp)
    (hsq : sc.quirks.omitTerminatingEmptyBlock = false) (startingDataPacketsSent : ℕ) :
    Safe payload sp rp sc (senderStart payload sp sc startingDataPacketsSent).1
      (receiverStart rp rc [] 1 none).1 := by
  have hbound := hf.sender_bound hsq
  have htotal : 0 < senderTotalBlocks payload sp sc := by
    rw [hf.total_eq hsq]
    exact Nat.succ_pos _
  exact safe_fresh htotal (senderInv_start startingDataPacketsSent hbound)
    (advanced_senderStart startingDataPacketsSent hbound).lastAcked (fresh_receiverStart rp rp rc)

section Run

variable (hf : Framed payload sp rp) (hsq : sc.quirks.omitTerminatingEmptyBlock = false)

include hf hsq

theorem dataPlaneInv_start (startingDataPacketsSent : ℕ) :
    DataPlaneInv payload sp rp sc (dataPlaneStart payload sp rp sc rc startingDataPacketsSent) := by
  have hadv := advanced_senderStart startingDataPacketsSent (hf.sender_bound hsq)
  refine ⟨safe_start rc hf hsq startingDataPacketsSent, ?_, ?_⟩
  · intro m hm
    obtain ⟨hi, hb⟩ := PeerLoop.mem_tagged.1 hm
    rw [hadv.sent, mem_indexRange] at hi
    exact ⟨by omega, hi.2, hb⟩
  · intro m hm
    exact absurd hm List.not_mem_nil

/-- The joint invariant after a reaction of the receiver. -/
theorem dataPlaneInv_receiver (hrq : rc.quirks.acceptOutOfSequenceData = false)
    {st : Duplex.State SenderState ReceiverState PeerLoop.Tagged PeerLoop.Tagged}
    (h : DataPlaneInv payload sp rp sc st) {status : ReceiveStatus}
    (hdata : ∀ packet, status = .gotPacket packet → packet.opcode = .data →
      packet.blockNumber = wireBlockNumber (st.right.lastInSequence + 1) →
      st.right.lastInSequence + 1 ≤ st.left.highestSent ∧
        packet.data = blockPayload payload (st.right.lastInSequence + 1) sp.blockSize)
    {toRight : List PeerLoop.Tagged} (hsub : ∀ m ∈ toRight, m ∈ st.toRight) :
    DataPlaneInv payload sp rp sc
      { st with
        right := (receiverReceive rp rc st.right status).1
        toRight := toRight
        toLeft := st.toLeft ++
          (dataReceiver rp rc).tagged (receiverReceive rp rc st.right status).2 } := by
  obtain ⟨hsafe, hmono, hacks⟩ := h.safe.receiver hf hsq hrq hdata
  refine ⟨hsafe, fun m hm => h.data m (hsub m hm), ?_⟩
  intro m hm
  rcases List.mem_append.1 hm with hm | hm
  · exact ⟨le_trans (h.acks m hm).1 hmono, (h.acks m hm).2⟩
  · obtain ⟨ha, hb⟩ := PeerLoop.mem_tagged.1 hm
    exact ⟨le_of_eq (hacks _ ha), hb⟩

/-- The joint invariant after a reaction of the sender. -/
theorem dataPlaneInv_sender (hdup : sc.quirks.retransmitOnDuplicateAck = false)
    {st : Duplex.State SenderState ReceiverState PeerLoop.Tagged PeerLoop.Tagged}
    (h : DataPlaneInv payload sp rp sc st) (hrun : st.left.returned = false)
    {status : ReceiveStatus}
    (hack : ∀ packet, status = .gotPacket packet → packet.opcode = .acknowledgement →
      resolveAckToAbsolute packet.blockNumber st.left.lastAcked st.left.highestSent ≤
        st.right.lastInSequence)
    {toLeft : List PeerLoop.Tagged} (hsub : ∀ m ∈ toLeft, m ∈ st.toLeft) :
    DataPlaneInv payload sp rp sc
      { st with
        left := (senderReceive payload sp sc st.left status).1
        toLeft := toLeft
        toRight := st.toRight ++
          (dataSender payload sp sc).tagged (senderReceive payload sp sc st.left status).2 } := by
  obtain ⟨hsafe, -, hmono, -, hdata⟩ := h.safe.sender_receive hf hsq hdup hrun hack
  refine ⟨hsafe, ?_, fun m hm => h.acks m (hsub m hm)⟩
  intro m hm
  rcases List.mem_append.1 hm with hm | hm
  · exact ⟨(h.data m hm).1, le_trans (h.data m hm).2.1 hmono, (h.data m hm).2.2⟩
  · obtain ⟨hi, hb⟩ := PeerLoop.mem_tagged.1 hm
    obtain ⟨hlo, hhi⟩ := hdata _ hi
    exact ⟨by omega, hhi, hb⟩

variable (hdup : sc.quirks.retransmitOnDuplicateAck = false)
  (hrq : rc.quirks.acceptOutOfSequenceData = false)

include hdup hrq

/-- **One event preserves the joint invariant** as long as what it delivers lies within 65536 blocks
of the end that reads it. -/
theorem dataPlaneInv_step (hw : sp.windowSize ≤ 65535) {senderPeer receiverPeer : Endpoint}
    {st : Duplex.State SenderState ReceiverState PeerLoop.Tagged PeerLoop.Tagged}
    {l : Duplex.Label}
    {st' : Duplex.State SenderState ReceiverState PeerLoop.Tagged PeerLoop.Tagged}
    (h : DataPlaneInv payload sp rp sc st)
    (hdata : ∀ i m, l = .receiveRight i → st.toRight[i]? = some m →
      st.right.lastInSequence + 1 < m.absolute + 65536)
    (hacks : ∀ i m, l = .receiveLeft i → st.toLeft[i]? = some m →
      st.left.highestSent < m.absolute + 65536)
    (hstep : Duplex.step ((dataSender payload sp sc).party senderPeer)
      ((dataReceiver rp rc).party receiverPeer) st l = some st') :
    DataPlaneInv payload sp rp sc st' := by
  have hsent := h.safe.sender.sent_le
  have hacked := h.safe.acked_le
  have hlis := h.safe.received_le
  have hwin : senderWindow sp ≤ 65535 := max_le hw (by decide)
  rcases Duplex.step_cases hstep with
    ⟨i, m, hl, hm, rfl⟩ | ⟨i, m, hl, hm, rfl⟩ | ⟨q, q', hq, hq', rfl⟩ | ⟨-, rfl⟩ | ⟨-, rfl⟩
  · -- a block arrives: its wire number tells the index it was sent for
    obtain ⟨h₁, h₂, hb⟩ := h.data m (List.mem_of_getElem? hm)
    have hnear := hdata i m hl hm
    rw [dataReceiver_receive hb]
    refine dataPlaneInv_receiver hf hsq hrq h ?_ fun _ => List.mem_of_mem_eraseIdx
    intro packet hp _ hnext
    cases hp
    have heq : m.absolute = st.right.lastInSequence + 1 :=
      eq_of_u16_eq hnext (by omega) (by omega)
    rw [← heq]
    exact ⟨h₂, rfl⟩
  · -- an ACK arrives, and acknowledges no more than the receiver has got
    obtain ⟨h₁, hb⟩ := h.acks m (List.mem_of_getElem? hm)
    have hnear := hacks i m hl hm
    cases hret : st.left.returned with
    | true =>
        rw [PeerLoop.party_receive_returned hret, List.append_nil]
        exact ⟨h.safe, h.data, fun m hm => h.acks m (List.mem_of_mem_eraseIdx hm)⟩
    | false =>
        rw [dataSender_receive hret hb]
        refine dataPlaneInv_sender hf hsq hdup h hret ?_ fun _ => List.mem_of_mem_eraseIdx
        intro packet hp _
        cases hp
        rw [resolveAckToAbsolute_exact hnear (by omega)]
        split
        · exact h₁
        · exact hacked
  · -- the network drops or repeats something
    exact ⟨h.safe, fun m hm => h.data m (hq.mem hm), fun m hm => h.acks m (hq'.mem hm)⟩
  · -- the receiver times out
    rw [dataReceiver_timeout]
    exact dataPlaneInv_receiver hf hsq hrq h (fun _ hp => ReceiveStatus.noConfusion hp) fun _ => id
  · -- the sender times out
    cases hret : st.left.returned with
    | true =>
        rw [PeerLoop.party_timeout_returned hret, List.append_nil]
        exact h
    | false =>
        rw [PeerLoop.party_timeout hret]
        exact dataPlaneInv_sender hf hsq hdup h hret (fun _ hp => ReceiveStatus.noConfusion hp)
          fun _ => id

/-- **With at most 65535 blocks the joint invariant holds in every reachable state**: no two blocks
of the transfer share a wire number. -/
theorem dataPlaneInv_run (hw : sp.windowSize ≤ 65535)
    (hblocks : payload.length / sp.blockSize + 1 ≤ 65535) {senderPeer receiverPeer : Endpoint}
    {startingDataPacketsSent : ℕ} {schedule : List Duplex.Label}
    {st : Duplex.State SenderState ReceiverState PeerLoop.Tagged PeerLoop.Tagged}
    (h : Duplex.run ((dataSender payload sp sc).party senderPeer)
      ((dataReceiver rp rc).party receiverPeer)
      (dataPlaneStart payload sp rp sc rc startingDataPacketsSent) schedule = some st) :
    DataPlaneInv payload sp rp sc st := by
  refine Duplex.run_invariant_any ?_ (dataPlaneInv_start hf hsq startingDataPacketsSent) h
  intro st l st' hinv hstep
  have hsent := hinv.safe.sender.sent_le
  have hlis := hinv.safe.received_le
  have htotal := hf.total_eq hsq
  refine dataPlaneInv_step hf hsq hdup hrq hw hinv ?_ ?_ hstep
  · intro i m _ hm
    have hpos := (hinv.data m (List.mem_of_getElem? hm)).1
    omega
  · intro i m _ _
    omega

end Run

/-! ### Equal parameters -/

/-- **Safety of the data plane.**  In every state that a correct sender and a correct receiver with
the same block size and window reach over links that drop, duplicate, delay and reorder: the indices
of the two ends are ordered and within a window of each other, the receiver holds a prefix of the
payload, and it holds the whole payload as soon as either end reports success. -/
theorem data_plane_safety (hsq : sc.quirks = {}) (hrq : rc.quirks = {})
    (hb : 1 ≤ sp.blockSize) (hw : 1 ≤ sp.windowSize) (hw' : sp.windowSize ≤ 65535)
    (hblock : rp.blockSize = sp.blockSize) (hwindow : rp.windowSize = sp.windowSize)
    (hblocks : payload.length / sp.blockSize + 1 ≤ 65535) {senderPeer receiverPeer : Endpoint}
    {startingDataPacketsSent : ℕ} {schedule : List Duplex.Label}
    {st : Duplex.State SenderState ReceiverState PeerLoop.Tagged PeerLoop.Tagged}
    (h : Duplex.run ((dataSender payload sp sc).party senderPeer)
      ((dataReceiver rp rc).party receiverPeer)
      (dataPlaneStart payload sp rp sc rc startingDataPacketsSent) schedule = some st) :
    st.left.lastAcked ≤ st.right.lastInSequence ∧
      st.right.lastInSequence ≤ st.left.highestSent ∧
      st.left.highestSent ≤ min (st.left.lastAcked + sp.windowSize)
        (totalBlockCount payload.length sp.blockSize) ∧
      st.right.sink =
        payload.take (min (st.right.lastInSequence * sp.blockSize) payload.length) ∧
      (st.right.outcome.completedSuccessfully = true → st.right.sink = payload) ∧
      (st.left.outcome.completedSuccessfully = true →
        st.right.lastInSequence = totalBlockCount payload.length sp.blockSize ∧
          st.right.gotFinal = true ∧ st.right.sink = payload) := by
  have hf : Framed payload sp rp := Framed.of_agreed hb hblock hwindow (by omega)
  have homit : sc.quirks.omitTerminatingEmptyBlock = false := by rw [hsq]
  have hsafe := (dataPlaneInv_run hf homit (by rw [hsq]) (by rw [hrq]) hw' hblocks h).safe
  have htotal : senderTotalBlocks payload sp sc = totalBlockCount payload.length sp.blockSize := by
    rw [hf.total_eq homit, totalBlockCount_eq (by omega)]
  have hwin : senderWindow sp = sp.windowSize := max_eq_left hw
  have hsent := hsafe.sender.sent_le
  rw [htotal, hwin] at hsent
  refine ⟨hsafe.acked_le, hsafe.received_le, hsent, ?_, hsafe.receiver_success hf homit, ?_⟩
  · rw [hsafe.sink_eq, List.take_eq_take_iff]
    omega
  · intro hcomp
    obtain ⟨hlast, hfinal⟩ := hsafe.sender_done hcomp
    exact ⟨by rw [hlast, htotal], hfinal, hsafe.final_whole hf homit hfinal⟩

/-- A transfer of two blocks whose first DATA packet is duplicated, the copy arriving last. -/
theorem data_plane_safety_two_blocks :
    ∃ st, Duplex.run ((dataSender [1, 2, 3] { blockSize := 2 } {}).party ⟨false, [], 2⟩)
        ((dataReceiver { blockSize := 2 } {}).party ⟨false, [], 1⟩)
        (dataPlaneStart [1, 2, 3] { blockSize := 2 } { blockSize := 2 } {} {} 0)
        [.duplicateRight 0, .receiveRight 0, .receiveLeft 0, .receiveRight 1, .receiveRight 0,
          .receiveLeft 0] = some st ∧
      st.left.outcome.completedSuccessfully = true ∧ st.right.sink = [1, 2, 3] := by
  refine ⟨_, rfl, by decide, ?_⟩
  have hsafe := @data_plane_safety [1, 2, 3] { blockSize := 2 } { blockSize := 2 } {} {} rfl rfl
    (by decide) (by decide) (by decide) rfl rfl (by decide) ⟨false, [], 2⟩ ⟨false, [], 1⟩ 0
    [.duplicateRight 0, .receiveRight 0, .receiveLeft 0, .receiveRight 1, .receiveRight 0,
      .receiveLeft 0] _ rfl
  exact (hsafe.2.2.2.2.2 (by decide)).2.2

end TftpHarness
