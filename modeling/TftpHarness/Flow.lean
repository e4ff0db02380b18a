/-
**The data plane without loss.**

When every datagram arrives, once and in the order of sending, the two ends take turns: the blocks
of one window go to the receiver, which acknowledges the last of them, and the ACK lets the sender
send the next window.  The two ends agree on when a window is over because they count with the same
window from the same block, so nobody waits for a datagram that is not on its way.  Every delivery
uses up some of a stock that is fixed by the number of blocks; when the stock is used up both ends
have returned.

Main definitions:

* `TftpHarness.Turn` — which end the datagrams in transit go to;
* `TftpHarness.Flow` — the invariant of the two ends and of what is in transit between them;
* `TftpHarness.stepsLeft` — the stock of deliveries, and of timeouts of the closing dally.

Main results:

* `TftpHarness.flow_start` — the invariant holds when the first window has been sent;
* `TftpHarness.Flow.data`, `TftpHarness.Flow.ack`, `TftpHarness.Flow.dally` — a delivery of a block
  or of an ACK and the end of the dally preserve it and use up some of the stock;
* `TftpHarness.Flow.complete` — **with nothing in transit and the dally over both ends have
  completed the transfer, and no block has been sent twice**.
-/

import TftpHarness.DataPlane

set_option relaxedAutoImplicit false
set_option autoImplicit false

namespace TftpHarness

variable {payload : Bytes} {sp rp : NegotiatedParameters} {sc rc : EngineConfig}

/-! ### The invariant -/

/-- A receiver that has accepted the last block: it dallies without having been disturbed, or it has
completed. -/
def ReceiverState.Closing (r : ReceiverState) : Prop :=
  r.phase = .dallying 0 ∨ r.phase = .returned ∧ r.outcome.completedSuccessfully = true

/-- **Whose turn it is**, with the ACKs in transit. -/
inductive Turn (s : SenderState) (r : ReceiverState) : List ℕ → Prop
  /-- Blocks of the window are on their way, and the receiver has counted those before them. -/
  | receiver (running : s.returned = false) (receiving : r.phase = .receiving)
      (counted : s.lastAcked + r.blocksSinceAck = r.lastInSequence)
      (inFlight : r.lastInSequence < s.highestSent) : Turn s r []
  /-- The window has arrived, and its ACK is on its way. -/
  | sender (running : s.returned = false) (arrived : r.lastInSequence = s.highestSent)
      (news : s.lastAcked < r.lastInSequence)
      (waits : r.phase = .receiving ∧ r.blocksSinceAck = 0 ∨ r.Closing) :
      Turn s r [r.lastInSequence]
  | ended (completed : s.outcome.completedSuccessfully = true) (closing : r.Closing) : Turn s r []

variable (sp rp) in
/-- What the outcomes of the two ends say so far: every block counted once, nothing sent again. -/
structure Tally (s : SenderState) (r : ReceiverState) : Prop where
  sent : s.outcome.dataPacketsSent = s.highestSent
  received : r.outcome.dataPacketsReceived = r.lastInSequence
  sender_retransmissions : s.outcome.retransmissions = 0
  receiver_retransmissions : r.outcome.retransmissions = 0
  sender_negotiated : s.outcome.negotiated = sp
  receiver_negotiated : r.outcome.negotiated = rp

variable (payload sp rp sc) in
/-- **The invariant of a transfer that loses nothing**, with the blocks and the ACKs in transit: the
blocks are those the receiver has not got of those that have been sent. -/
structure Flow (s : SenderState) (r : ReceiverState) (data acks : List ℕ) : Prop where
  safe : Safe payload sp rp sc s r
  data_eq : data = indexRange (r.lastInSequence + 1) s.highestSent
  turn : Turn s r acks
  tally : Tally sp rp s r

/-- The stock that deliveries and the end of the dally use up. -/
def stepsLeft (total : ℕ) (r : ReceiverState) (acks : List ℕ) : ℕ :=
  3 * (total - r.lastInSequence) + acks.length + if r.phase = .returned then 0 else 1

theorem stepsLeft_start (total : ℕ) (params : NegotiatedParameters) (config : EngineConfig) :
    stepsLeft total (receiverStart params config [] 1 none).1 [] = 3 * total + 1 := rfl

/-! ### What the reactions report -/

/-- The loop counts the new blocks it sends and reports nothing else of them. -/
theorem senderLoop_outcome {s : SenderState} (haction : s.action = .sendNew)
    (hbound : s.outcome.dataPacketsSent + (senderLoop payload sp sc s).2.length < 4294967296) :
    (senderLoop payload sp sc s).1.outcome.dataPacketsSent =
        s.outcome.dataPacketsSent + (senderLoop payload sp sc s).2.length ∧
      (senderLoop payload sp sc s).1.outcome.retransmissions = s.outcome.retransmissions ∧
      (senderLoop payload sp sc s).1.outcome.negotiated = s.outcome.negotiated := by
  by_cases hlt : s.lastAcked < senderTotalBlocks payload sp sc
  · simp only [senderLoop, hlt, if_true, haction] at hbound ⊢
    exact ⟨u32_of_lt hbound, trivial, trivial⟩
  · simp [senderLoop, hlt]

/-- The next block is counted, and nothing else of the outcome changes. -/
theorem acceptNext_outcome (r : ReceiverState) (data : Bytes) :
    (acceptNext rp r data).1.outcome =
      { r.outcome with dataPacketsReceived := u32 (r.outcome.dataPacketsReceived + 1) } := by
  unfold acceptNext
  split
  · rfl
  split <;> rfl

/-! ### The next block -/

section NextBlock

variable {s : SenderState} {r : ReceiverState} {data : Bytes}

/-- The next block is counted once. -/
theorem Tally.next_block (h : Tally sp rp s r) (hsmall : r.lastInSequence + 1 < 4294967296)
    (data : Bytes) : Tally sp rp s (acceptNext rp r data).1 := by
  have hcount := h.received
  refine ⟨h.sent, ?_, h.sender_retransmissions, ?_, h.sender_negotiated, ?_⟩
  · rw [acceptNext_outcome, (acceptNext_spec rp r data).1, ← hcount]
    exact u32_of_lt (by omega)
  · rw [acceptNext_outcome]
    exact h.receiver_retransmissions
  · rw [acceptNext_outcome]
    exact h.receiver_negotiated

/-- The blocks of the next window are counted once. -/
theorem Tally.next_window (h : Tally sp rp s r) {acked : ℕ} {t : SenderState × List ℕ}
    (ht : t = senderLoop payload sp sc
      { s with lastAcked := acked, consecutiveTimeouts := 0, action := .sendNew })
    (hsent : t.1.highestSent = s.highestSent + t.2.length) (hbound : t.1.highestSent < 4294967296) :
    Tally sp rp t.1 r := by
  have hcount := h.sent
  have houtcome := @senderLoop_outcome payload sp sc
    { s with lastAcked := acked, consecutiveTimeouts := 0, action := .sendNew } rfl
  rw [← ht] at houtcome
  dsimp only at houtcome
  obtain ⟨hsentcount, hretransmissions, hnegotiated⟩ := houtcome (by omega)
  exact ⟨by omega, h.received, hretransmissions.trans h.sender_retransmissions,
    h.receiver_retransmissions, hnegotiated.trans h.sender_negotiated, h.receiver_negotiated⟩

/-- **The next block ends the transfer, or the window, or neither.**  The turn goes to the sender
unless more blocks of the window are on their way. -/
theorem Turn.next_block {total : ℕ} (running : s.returned = false)
    (receiving : r.phase = .receiving)
    (counted : s.lastAcked + r.blocksSinceAck = r.lastInSequence)
    (inFlight : r.lastInSequence < s.highestSent)
    (hedge : s.highestSent = min (s.lastAcked + receiverWindow rp) total)
    (hlast : data.length < rp.blockSize ↔ r.lastInSequence + 1 = total) :
    Turn s (acceptNext rp r data).1 (acceptNext rp r data).2 := by
  by_cases hshort : data.length < rp.blockSize
  · have hend := hlast.1 hshort
    rw [acceptNext, if_pos hshort]
    exact .sender running (by simp only [acceptBlock]; omega) (by simp only [acceptBlock]; omega)
      (Or.inr (Or.inl rfl))
  have hmore : r.lastInSequence + 1 ≠ total := fun heq => hshort (hlast.2 heq)
  by_cases hfull : receiverWindow rp ≤ r.blocksSinceAck + 1
  · rw [acceptNext, if_neg hshort, if_pos hfull]
    exact .sender running (by simp only [acceptBlock]; omega) (by simp only [acceptBlock]; omega)
      (Or.inl ⟨receiving, rfl⟩)
  · rw [acceptNext, if_neg hshort, if_neg hfull]
    exact .receiver running receiving (by simp only [acceptBlock]; omega)
      (by simp only [acceptBlock]; omega)

/-- The next block goes on with the transfer or starts the dally. -/
theorem acceptNext_not_returned (receiving : r.phase = .receiving) :
    (acceptNext rp r data).1.phase ≠ .returned := by
  rw [(acceptNext_spec rp r data).2.2.2.1]
  split <;> simp [receiving]

/-- The next block uses up more of the stock than its ACK puts back. -/
theorem stepsLeft_next_block {total : ℕ} (receiving : r.phase = .receiving)
    (hlt : r.lastInSequence < total) :
    stepsLeft total (acceptNext rp r data).1 (acceptNext rp r data).2 < stepsLeft total r [] := by
  have hone : (acceptNext rp r data).2.length ≤ 1 := by
    unfold acceptNext
    split
    · exact le_refl _
    split <;> simp
  have hreceiving : r.phase ≠ .returned := by simp [receiving]
  simp only [stepsLeft, (acceptNext_spec rp r data).1, if_neg hreceiving,
    if_neg (acceptNext_not_returned receiving), List.length_nil]
  omega

end NextBlock

/-! ### One delivery -/

section Flow

variable (hf : Framed payload sp rp) (hblock : rp.blockSize = sp.blockSize)
  (hsq : sc.quirks.omitTerminatingEmptyBlock = false)

include hf hsq

/-- **The invariant holds when the first window has been sent.** -/
theorem flow_start (rc : EngineConfig) :
    Flow payload sp rp sc (senderStart payload sp sc 0).1 (receiverStart rp rc [] 1 none).1
      (senderStart payload sp sc 0).2 [] := by
  have hbound := hf.sender_bound hsq
  have hadv := advanced_senderStart 0 hbound
  have hsent := hadv.highestSent
  have hpos := senderWindow_pos sp
  have htotal : 0 < senderTotalBlocks payload sp sc := by
    rw [hf.total_eq hsq]
    exact Nat.succ_pos _
  have hlis : (receiverStart rp rc [] 1 none).1.lastInSequence = 0 := rfl
  have hblocks : (senderStart payload sp sc 0).2 =
      indexRange 1 (senderStart payload sp sc 0).1.highestSent := hadv.sent
  have hlength := congrArg List.length hblocks
  rw [length_indexRange, Nat.add_sub_cancel] at hlength
  have houtcome := @senderLoop_outcome payload sp sc { outcome := { negotiated := sp } } rfl
  rw [Nat.zero_add] at houtcome
  obtain ⟨hcount, hretransmissions, hnegotiated⟩ := houtcome (by
    show (senderStart payload sp sc 0).2.length < 4294967296
    omega)
  refine ⟨safe_start rc hf hsq 0, hadv.sent, .receiver (hadv.running htotal) rfl ?_ ?_, ?_⟩
  · rw [hadv.lastAcked, hlis]
    rfl
  · rw [hlis]
    omega
  · exact ⟨hcount.trans hlength, rfl, hretransmissions, rfl, hnegotiated, rfl⟩

include hblock

/-- A receiver that is closing stands at the last block. -/
theorem Flow.closing_total {s : SenderState} {r : ReceiverState}
    (h : Safe payload sp rp sc s r) (hclosing : r.Closing) :
    r.lastInSequence = senderTotalBlocks payload sp sc := by
  refine h.final_total hf hblock hsq ?_
  rcases hclosing with hphase | ⟨hphase, hcompleted⟩
  · simp [ReceiverState.gotFinal, hphase]
  · simp [ReceiverState.gotFinal, hphase, hcompleted]

/-- **The delivery of a block**, the next one the receiver waits for. -/
theorem Flow.data (hrq : rc.quirks.acceptOutOfSequenceData = false)
    (hwindow : rp.windowSize = sp.windowSize) {s : SenderState} {r : ReceiverState} {i : ℕ}
    {data acks : List ℕ} (h : Flow payload sp rp sc s r (i :: data) acks)
    {packet : TftpPacket} (hpacket : packet =
      { opcode := .data, blockNumber := wireBlockNumber i,
        data := blockPayload payload i sp.blockSize }) :
    r.phase = .receiving ∧ (receiverReceive rp rc r (.gotPacket packet)).1.phase ≠ .returned ∧
    Flow payload sp rp sc s (receiverReceive rp rc r (.gotPacket packet)).1 data
      (acks ++ (receiverReceive rp rc r (.gotPacket packet)).2) ∧
    stepsLeft (senderTotalBlocks payload sp sc) (receiverReceive rp rc r (.gotPacket packet)).1
        (acks ++ (receiverReceive rp rc r (.gotPacket packet)).2) <
      stepsLeft (senderTotalBlocks payload sp sc) r acks := by
  have htotal := hf.total_eq hsq
  have hsent := h.safe.sender.sent_le
  have hwin : receiverWindow rp = senderWindow sp := by rw [receiverWindow, senderWindow, hwindow]
  have hlt : r.lastInSequence < s.highestSent := by
    by_contra hge
    have hnone := h.data_eq
    rw [indexRange_eq_nil (by omega)] at hnone
    exact List.cons_ne_nil _ _ hnone
  have hdata := h.data_eq
  rw [indexRange_eq_cons (by omega)] at hdata
  obtain ⟨rfl, hrest⟩ := List.cons.inj hdata
  have hop : packet.opcode = .data := by rw [hpacket]
  have hnumber : packet.blockNumber = wireBlockNumber (r.lastInSequence + 1) := by rw [hpacket]
  have hbytes : packet.data = blockPayload payload (r.lastInSequence + 1) sp.blockSize := by
    rw [hpacket]
  cases h.turn with
  | sender running arrived news waits => exact absurd arrived (by omega)
  | ended completed closing =>
      have := Flow.closing_total hf hblock hsq h.safe closing
      omega
  | receiver running receiving counted inFlight =>
      obtain ⟨-, hsince, -⟩ := h.safe.receiving receiving
      have hreact : receiverReceive rp rc r (.gotPacket packet) = acceptNext rp r packet.data := by
        rw [receiverReceive_gotPacket receiving]
        exact receiverPacket_next hop hnumber (h.safe.receiver_bound hf hsq) hsince
      obtain ⟨hsafe, -, -⟩ := @Safe.receiver _ _ _ _ rc hf hsq hrq _ _ h.safe
        (.gotPacket packet) (by
        intro packet' heq _ _
        cases heq
        exact ⟨hlt, hbytes⟩)
      have hlast : packet.data.length < rp.blockSize ↔
          r.lastInSequence + 1 = senderTotalBlocks payload sp sc := by
        rw [hbytes, hblock, htotal]
        have := hf.sender_lt
        exact length_blockPayload_lt_iff hf.blockSize_pos (by omega) (by omega) (by omega)
      obtain ⟨-, hedge, -⟩ := h.safe.sender.waiting running
      rw [← hwin] at hedge
      rw [hreact] at hsafe ⊢
      rw [List.nil_append]
      refine ⟨receiving, acceptNext_not_returned receiving, ⟨hsafe, ?_, ?_, ?_⟩, ?_⟩
      · rw [(acceptNext_spec rp r packet.data).1]
        exact hrest
      · exact .next_block running receiving counted inFlight hedge hlast
      · have := hf.sender_lt
        exact h.tally.next_block (by omega) packet.data
      · exact stepsLeft_next_block receiving (by omega)

omit hf hblock hsq in
/-- An ACK in transit is the only datagram in transit, and acknowledges the whole window. -/
theorem Flow.sender_turn {s : SenderState} {r : ReceiverState} {a : ℕ} {data acks : List ℕ}
    (h : Flow payload sp rp sc s r data (a :: acks)) :
    a = r.lastInSequence ∧ acks = [] ∧ data = [] ∧ s.returned = false ∧
      r.lastInSequence = s.highestSent ∧ s.lastAcked < r.lastInSequence ∧
      (r.phase = .receiving ∧ r.blocksSinceAck = 0 ∨ r.Closing) := by
  cases h.turn with
  | sender running arrived news waits =>
      exact ⟨rfl, rfl, h.data_eq.trans (indexRange_eq_nil (by omega)), running, arrived, news,
        waits⟩

/-- **The delivery of an ACK**, which opens the next window or ends the transfer. -/
theorem Flow.ack (hdup : sc.quirks.retransmitOnDuplicateAck = false)
    (hw : sp.windowSize ≤ 65535) {s : SenderState} {r : ReceiverState} {a : ℕ}
    {data acks : List ℕ} (h : Flow payload sp rp sc s r data (a :: acks))
    {packet : TftpPacket}
    (hpacket : packet = { opcode := .acknowledgement, blockNumber := wireBlockNumber a }) :
    Flow payload sp rp sc (senderReceive payload sp sc s (.gotPacket packet)).1 r
      (senderReceive payload sp sc s (.gotPacket packet)).2 acks ∧
    stepsLeft (senderTotalBlocks payload sp sc) r acks <
      stepsLeft (senderTotalBlocks payload sp sc) r (a :: acks) := by
  have hbound := hf.sender_bound hsq
  have hsent := h.safe.sender.sent_le
  have hwin : senderWindow sp ≤ 65535 := max_le hw (by decide)
  have hpos := senderWindow_pos sp
  obtain ⟨rfl, rfl, -, running, arrived, news, waits⟩ := h.sender_turn
  have hop : packet.opcode = .acknowledgement := by rw [hpacket]
  have hresolved : resolveAckToAbsolute packet.blockNumber s.lastAcked s.highestSent =
      r.lastInSequence := by
    rw [hpacket, resolveAckToAbsolute_exact (by omega) (by omega), if_pos ⟨news, by omega⟩]
  obtain ⟨-, -, hcompleted⟩ := h.safe.sender.waiting running
  have hreact : senderReceive payload sp sc s (.gotPacket packet) =
      senderLoop payload sp sc
        { s with lastAcked := r.lastInSequence, consecutiveTimeouts := 0, action := .sendNew } := by
    simp [senderReceive, hop, hresolved, news]
  have hadv : Advanced payload sp sc s r.lastInSequence
      (senderReceive payload sp sc s (.gotPacket packet)) := by
    rw [hreact]
    exact advanced_senderLoop hbound (by omega) (by omega) running hcompleted
  obtain ⟨hsafe, -, -, -, -⟩ := @Safe.sender_receive _ _ _ _ hf hsq hdup _ _ h.safe running
    (.gotPacket packet) (by
      intro packet' heq _
      cases heq
      exact le_of_eq hresolved)
  have hacked := hadv.lastAcked
  have hedge := hadv.highestSent
  have hblocks : (senderReceive payload sp sc s (.gotPacket packet)).2 =
      indexRange (r.lastInSequence + 1)
        (senderReceive payload sp sc s (.gotPacket packet)).1.highestSent := by
    rw [arrived]
    exact hadv.sent
  have hlength := congrArg List.length hblocks
  rw [length_indexRange] at hlength
  have htally : Tally sp rp (senderReceive payload sp sc s (.gotPacket packet)).1 r :=
    h.tally.next_window hreact (by omega) (by omega)
  refine ⟨⟨hsafe, hblocks, ?_, htally⟩, by simp [stepsLeft]⟩
  rcases waits with ⟨receiving, hzero⟩ | closing
  · -- blocks are left, and the next window goes out
    obtain ⟨hless, -, -⟩ := h.safe.receiving receiving
    exact .receiver (hadv.running (by omega)) receiving (by omega) (by omega)
  · have hall := Flow.closing_total hf hblock hsq h.safe closing
    exact .ended (hadv.completed.trans (hadv.returned.2 hall)) closing

end Flow

/-- **The end of the closing dally.** -/
theorem Flow.dally {s : SenderState} {r : ReceiverState} {data acks : List ℕ} {dally : ℕ}
    (h : Flow payload sp rp sc s r data acks) (hphase : r.phase = .dallying dally) :
    Flow payload sp rp sc s (receiverFinish r) data acks ∧
      stepsLeft (senderTotalBlocks payload sp sc) (receiverFinish r) acks <
        stepsLeft (senderTotalBlocks payload sp sc) r acks := by
  have hfinal : r.gotFinal = true := by simp [ReceiverState.gotFinal, hphase]
  have hsafe : Safe payload sp rp sc s (receiverFinish r) := by
    refine ⟨h.safe.sender, h.safe.acked_le, h.safe.received_le, h.safe.sink_eq, ?_, ?_, ?_⟩
    · simp [receiverFinish]
    · exact fun _ => h.safe.final_short hfinal
    · simp [receiverFinish, ReceiverState.gotFinal]
  have hclosing : (receiverFinish r).Closing := Or.inr ⟨rfl, rfl⟩
  refine ⟨⟨hsafe, h.data_eq, ?_, h.tally.sent, h.tally.received, h.tally.sender_retransmissions,
    h.tally.receiver_retransmissions, h.tally.sender_negotiated, h.tally.receiver_negotiated⟩, ?_⟩
  · cases h.turn with
    | receiver running receiving counted inFlight =>
        exact absurd (hphase.symm.trans receiving) (by simp)
    | sender running arrived news waits => exact .sender running arrived news (Or.inr hclosing)
    | ended completed closing => exact .ended completed hclosing
  · simp [stepsLeft, receiverFinish, hphase]

/-- The datagrams in transit all go to the end whose turn it is. -/
theorem Flow.oneWay {s : SenderState} {r : ReceiverState} {data acks : List ℕ}
    (h : Flow payload sp rp sc s r data acks) : data = [] ∨ acks = [] := by
  cases h.turn with
  | receiver running receiving counted inFlight => exact Or.inr rfl
  | sender running arrived news waits =>
      exact Or.inl (h.data_eq.trans (indexRange_eq_nil (by omega)))
  | ended completed closing => exact Or.inr rfl

/-- **With nothing in transit and the dally over both ends have completed the transfer**, and no
block has been sent twice. -/
theorem Flow.complete (hf : Framed payload sp rp) (hblock : rp.blockSize = sp.blockSize)
    (hsq : sc.quirks.omitTerminatingEmptyBlock = false) {s : SenderState} {r : ReceiverState}
    (h : Flow payload sp rp sc s r [] []) (hdally : ∀ dally, r.phase ≠ .dallying dally) :
    s.returned = true ∧ s.outcome.completedSuccessfully = true ∧
      s.highestSent = senderTotalBlocks payload sp sc ∧
      r.phase = .returned ∧ r.outcome.completedSuccessfully = true ∧
      r.lastInSequence = senderTotalBlocks payload sp sc ∧ r.sink = payload := by
  cases h.turn with
  | receiver running receiving counted inFlight =>
      have hnone := h.data_eq
      rw [indexRange_eq_cons (by omega)] at hnone
      exact absurd hnone.symm (List.cons_ne_nil _ _)
  | ended completed closing =>
      have hlast := Flow.closing_total hf hblock hsq h.safe closing
      have hreceived := h.safe.received_le
      have hsent := h.safe.sender.sent_le
      obtain ⟨hphase, hcompleted⟩ := closing.resolve_left (hdally 0)
      have hreturned : s.returned = true := by
        by_contra hrun
        obtain ⟨-, -, hnot⟩ := h.safe.sender.waiting (by simpa using hrun)
        exact absurd (hnot.symm.trans completed) (by decide)
      exact ⟨hreturned, completed, by omega, hphase, hcompleted, hlast,
        h.safe.receiver_success hf hsq hcompleted⟩

end TftpHarness
