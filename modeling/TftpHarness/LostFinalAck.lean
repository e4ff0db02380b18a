/-
**A lost final ACK.**

After its last ACK the receiver dallies, "so a lost final ACK does not hang the sender": it answers
a retransmitted final block once more.  It dallies for 150 milliseconds.  The sender retransmits
when its own timeout, a parameter of the engine, has passed, so the dally helps exactly those
senders whose timeout is not longer.  The engine's default is 800 milliseconds and the reference
adapter's 400.

Until the final block has been accepted nothing is lost and no time passes: the two ends take turns
as long as the window of the sender moves.  So the dally and the last wait of the sender begin at
one moment.  A transfer whose block count or window edge wraps around at `2 ^ 32` never gets to the
final block.

Main definitions:

* `TftpHarness.LostAckNext`, `TftpHarness.LostAckReachable` — the runs that lose the first ACK of
  the final block and nothing else;
* `TftpHarness.BeforeLoss`, `TftpHarness.FinalAckLost` — the states up to the loss, and after it;
* `TftpHarness.Answering`, `TftpHarness.LeftAlone` — the states from which the sender succeeds, and
  those from which it does not.

Main results:

* `TftpHarness.BeforeLoss.next` — one event before the loss;
* `TftpHarness.FinalAckLost.next_of_le`, `TftpHarness.FinalAckLost.next_of_lt` — who times out first
  after it;
* `TftpHarness.lostFinalAck_iff` — **a sender survives a lost final ACK exactly if its
  retransmission timeout is within the dally**.
-/

import TftpHarness.Lossless
import TftpHarness.TimedDataPlane

set_option relaxedAutoImplicit false
set_option autoImplicit false

namespace TftpHarness

/-! ### The loss -/

abbrev TimedState := VirtualTime.State SenderState ReceiverState ℕ ℕ

section System

variable (payload : Bytes) (params : NegotiatedParameters) (config : EngineConfig)
  (retransmissionTimeout : ℕ) (senderPeer receiverPeer : Endpoint)

/-- The receiver accepts the final block: what it sends then is its first ACK of that block. -/
def acceptsFinal (r r' : ReceiverState) : Bool := !r.gotFinal && r'.gotFinal

/-- One event of a transfer that loses the first ACK of the final block and nothing else. -/
def LostAckNext : TimedState → TimedState → Prop :=
  VirtualTime.Next (timedSender payload params config retransmissionTimeout senderPeer)
    (timedReceiver payload params config retransmissionTimeout receiverPeer) acceptsFinal

/-- The two functions at their first receive, after the sender's first window. -/
def lostAckStart (startingDataPacketsSent : ℕ) : TimedState where
  left := (senderStart payload params config startingDataPacketsSent).1
  right := (receiverStart params config [] 1 none).1
  toRight := (senderStart payload params config startingDataPacketsSent).2
  toLeft := (receiverStart params config [] 1 none).2
  clock := 0
  leftDeadline := retransmissionTimeout
  rightDeadline := retransmissionTimeout
  lost := false

end System

variable {payload : Bytes} {params : NegotiatedParameters} {config : EngineConfig}
  {retransmissionTimeout : ℕ} {senderPeer receiverPeer : Endpoint}

/-- The final block is the short one. -/
theorem acceptsFinal_acceptNext {r : ReceiverState} (hphase : r.phase = .receiving)
    (hunfinished : r.outcome.completedSuccessfully = false) (data : Bytes) :
    acceptsFinal r (acceptNext params r data).1 = decide (data.length < params.blockSize) := by
  obtain ⟨-, -, hcompleted, hnext, -⟩ := acceptNext_spec params r data
  by_cases hshort : data.length < params.blockSize
  · simp [acceptsFinal, ReceiverState.gotFinal, hphase, hunfinished, hnext, hshort]
  · simp [acceptsFinal, ReceiverState.gotFinal, hphase, hunfinished, hnext, hcompleted, hshort]

theorem acceptsFinal_dallying {r : ReceiverState} {dally : ℕ} (h : r.phase = .dallying dally)
    (r' : ReceiverState) : acceptsFinal r r' = false := by
  simp [acceptsFinal, ReceiverState.gotFinal, h]

/-! ### Before the loss -/

section Before

variable (payload params config retransmissionTimeout)

/-- A sender that has sent its window and not timed out since. -/
structure Waiting (s : SenderState) : Prop where
  running : s.returned = false
  unfinished : s.outcome.completedSuccessfully = false
  noTimeouts : s.consecutiveTimeouts = 0
  behind : s.lastAcked < senderTotalBlocks payload params config
  window : s.highestSent = min (s.lastAcked + senderWindow params)
    (senderTotalBlocks payload params config)

/-- No receive has timed out, and nothing has been lost. -/
structure Undisturbed (st : TimedState) : Prop where
  sender : Waiting payload params config st.left
  counts : senderTotalBlocks payload params config = blockCount payload params
  receiving : st.right.phase = .receiving
  unfinished : st.right.outcome.completedSuccessfully = false
  lost : st.lost = false

/-- The rest of a window is on its way. -/
structure BlocksComing (st : TimedState) : Prop extends Undisturbed payload params config st where
  counted : st.left.lastAcked + st.right.blocksSinceAck = st.right.lastInSequence
  inFlight : st.right.lastInSequence < st.left.highestSent
  toRight : st.toRight = indexRange (st.right.lastInSequence + 1) st.left.highestSent
  toLeft : st.toLeft = []
  deadline : st.leftDeadline = st.clock + retransmissionTimeout

/-- The ACK of a window that is not the last one is on its way. -/
structure AckComing (st : TimedState) : Prop extends Undisturbed payload params config st where
  counted : st.right.blocksSinceAck = 0
  arrived : st.right.lastInSequence = st.left.highestSent
  more : st.left.highestSent < senderTotalBlocks payload params config
  toRight : st.toRight = []
  toLeft : st.toLeft = [st.left.highestSent]

/-- The final block will never come. -/
structure NeverComing (st : TimedState) : Prop where
  sender : NeverFinal payload params config st.left
  full : FullBlocks payload params st.toRight
  notFinal : st.right.gotFinal = false
  lost : st.lost = false

/-- **The states before the final block has been accepted.** -/
inductive BeforeLoss (st : TimedState) : Prop
  | blocks (h : BlocksComing payload params config retransmissionTimeout st)
  | ack (h : AckComing payload params config st)
  | never (h : NeverComing payload params config st)

variable {payload params config retransmissionTimeout}

theorem BeforeLoss.lost_eq {st : TimedState}
    (h : BeforeLoss payload params config retransmissionTimeout st) : st.lost = false := by
  cases h with
  | blocks h => exact h.lost
  | ack h => exact h.lost
  | never h => exact h.lost

/-- A sender that waits for an ACK of its window is not far behind it. -/
theorem Waiting.near (hw : params.windowSize ≤ 65535) {s : SenderState}
    (h : Waiting payload params config s) :
    s.lastAcked < s.highestSent ∧ s.highestSent ≤ s.lastAcked + 65535 ∧
      s.highestSent ≤ senderTotalBlocks payload params config := by
  have hpos := senderWindow_pos params
  have hwin : senderWindow params ≤ 65535 := max_le hw (by decide)
  have hbehind := h.behind
  have hwindow := h.window
  omega

end Before

section System

variable (hq : config.quirks = {}) (hb : 1 ≤ params.blockSize) (hw : params.windowSize ≤ 65535)
  (htotal : senderTotalBlocks payload params config + 1 < 4294967296)

/-- **Everything one event can do.** -/
theorem lostAckNext_cases {st t : TimedState}
    (h : LostAckNext payload params config retransmissionTimeout senderPeer receiverPeer st t) :
    (∃ a rest, st.left.returned = false ∧ st.toLeft = a :: rest ∧
      t = VirtualTime.reactLeft
        (timedSender payload params config retransmissionTimeout senderPeer) st st.clock rest
        (senderReceive payload params config st.left (.gotPacket (ackPacket a)))) ∨
    (∃ i rest, st.right.phase ≠ .returned ∧ st.toRight = i :: rest ∧
      t = VirtualTime.reactRight
        (timedReceiver payload params config retransmissionTimeout receiverPeer) acceptsFinal
        st st.clock rest
        (receiverReceive params config st.right (.gotPacket (blockPacket payload params i)))) ∨
    (VirtualTime.LeftTimesOut
        (timedSender payload params config retransmissionTimeout senderPeer)
        (timedReceiver payload params config retransmissionTimeout receiverPeer) st ∧
      t = VirtualTime.reactLeft
        (timedSender payload params config retransmissionTimeout senderPeer) st st.leftDeadline
        st.toLeft (senderReceive payload params config st.left .timedOut)) ∨
    (VirtualTime.RightTimesOut
        (timedSender payload params config retransmissionTimeout senderPeer)
        (timedReceiver payload params config retransmissionTimeout receiverPeer) st ∧
      t = VirtualTime.reactRight
        (timedReceiver payload params config retransmissionTimeout receiverPeer) acceptsFinal
        st st.rightDeadline st.toRight (receiverReceive params config st.right .timedOut)) := by
  cases h with
  | receiveLeft running waiting =>
      exact Or.inl ⟨_, _, running, waiting, by rw [timedSender_receive running]⟩
  | receiveRight running waiting =>
      have hrun : st.right.phase ≠ .returned := of_decide_eq_false running
      exact Or.inr (Or.inl ⟨_, _, hrun, waiting, by rw [timedReceiver_receive hrun]⟩)
  | timeoutLeft late =>
      exact Or.inr (Or.inr (Or.inl ⟨late, by rw [timedSender_timeout late.1]⟩))
  | timeoutRight late =>
      have hrun : st.right.phase ≠ .returned := of_decide_eq_false late.1
      exact Or.inr (Or.inr (Or.inr ⟨late, by rw [timedReceiver_timeout hrun]⟩))

variable (payload params config retransmissionTimeout) in
/-- **The first ACK of the final block has just been lost.**  Nothing is on its way; the sender
waits for the retransmission timeout, the receiver for that of its dally. -/
structure FinalAckLost (st : TimedState) : Prop where
  sender : Waiting payload params config st.left
  last : st.left.highestSent = senderTotalBlocks payload params config
  arrived : st.right.lastInSequence = senderTotalBlocks payload params config
  dallying : st.right.phase = .dallying 0
  toRight : st.toRight = []
  toLeft : st.toLeft = []
  leftDeadline : st.leftDeadline = st.clock + retransmissionTimeout
  rightDeadline : st.rightDeadline = st.clock + dallyTimeout

include hb hw htotal in
/-- The next block arrives: it ends the transfer, or the window, or neither. -/
theorem BlocksComing.next_block {st t : TimedState}
    (h : BlocksComing payload params config retransmissionTimeout st)
    (ht : t = VirtualTime.reactRight
      (timedReceiver payload params config retransmissionTimeout receiverPeer) acceptsFinal
      st st.clock (indexRange (st.right.lastInSequence + 1 + 1) st.left.highestSent)
      (acceptNext params st.right
        (blockPayload payload (st.right.lastInSequence + 1) params.blockSize))) :
    BeforeLoss payload params config retransmissionTimeout t ∨
      FinalAckLost payload params config retransmissionTimeout t := by
  obtain ⟨hlt, hnear, hle⟩ := h.sender.near hw
  have hwindow := h.sender.window
  have hcounted := h.counted
  have hinFlight := h.inFlight
  have hsame : receiverWindow params = senderWindow params := rfl
  have hshort_iff : (blockPayload payload (st.right.lastInSequence + 1) params.blockSize).length <
      params.blockSize ↔ st.right.lastInSequence + 1 = senderTotalBlocks payload params config := by
    rw [h.counts]
    rw [h.counts, blockCount] at htotal hle
    exact length_blockPayload_lt_iff hb (Nat.succ_pos _) (by omega) (by omega)
  have hloses := @acceptsFinal_acceptNext params st.right h.receiving h.unfinished
    (blockPayload payload (st.right.lastInSequence + 1) params.blockSize)
  simp only [VirtualTime.reactRight, hloses, h.toLeft, h.lost, List.nil_append, Bool.false_or] at ht
  by_cases hshort : (blockPayload payload (st.right.lastInSequence + 1) params.blockSize).length <
      params.blockSize
  · -- the final block, whose ACK is lost
    have hlast := hshort_iff.1 hshort
    simp only [acceptNext, hshort, decide_true, if_true] at ht
    subst ht
    refine Or.inr ⟨h.sender, ?_, hlast, rfl, indexRange_eq_nil (by omega), rfl, h.deadline, rfl⟩
    show st.left.highestSent = _
    omega
  have hmore : st.right.lastInSequence + 1 ≠ senderTotalBlocks payload params config :=
    fun heq => hshort (hshort_iff.2 heq)
  by_cases hfull : receiverWindow params ≤ st.right.blocksSinceAck + 1
  · -- the last block of a window, whose ACK is sent
    have harrived : st.right.lastInSequence + 1 = st.left.highestSent := by omega
    simp only [acceptNext, hshort, decide_false, if_false, hfull, if_true, Bool.false_eq_true] at ht
    subst ht
    refine Or.inl (.ack ⟨⟨h.sender, h.counts, h.receiving, h.unfinished, rfl⟩, rfl, harrived, ?_,
      indexRange_eq_nil (by omega), by rw [harrived]⟩)
    show st.left.highestSent < _
    omega
  · simp only [acceptNext, hshort, decide_false, if_false, hfull, Bool.false_eq_true] at ht
    subst ht
    refine Or.inl (.blocks ⟨⟨h.sender, h.counts, h.receiving, h.unfinished, rfl⟩, ?_, ?_, rfl, rfl,
      h.deadline⟩)
    · show st.left.lastAcked + (st.right.blocksSinceAck + 1) = st.right.lastInSequence + 1
      omega
    · show st.right.lastInSequence + 1 < st.left.highestSent
      omega

include hb hw htotal in
/-- One event while blocks are on their way. -/
theorem BlocksComing.next {st t : TimedState}
    (h : BlocksComing payload params config retransmissionTimeout st)
    (hnext : LostAckNext payload params config retransmissionTimeout senderPeer receiverPeer st t) :
    BeforeLoss payload params config retransmissionTimeout t ∨
      FinalAckLost payload params config retransmissionTimeout t := by
  obtain ⟨hlt, hnear, hle⟩ := h.sender.near hw
  have hcounted := h.counted
  have hinFlight := h.inFlight
  have hbusy : ¬ VirtualTime.Quiet
      (timedSender payload params config retransmissionTimeout senderPeer)
      (timedReceiver payload params config retransmissionTimeout receiverPeer) st := by
    refine VirtualTime.not_quiet_of_toRight ?_ ?_
    · exact decide_eq_false (by simp [h.receiving])
    · rw [h.toRight, indexRange_eq_cons (by omega)]
      exact List.cons_ne_nil _ _
  rcases lostAckNext_cases hnext with ⟨a, rest, -, hwaiting, -⟩ |
    ⟨i, rest, -, hwaiting, ht⟩ | ⟨hlate, -⟩ | ⟨hlate, -⟩
  · exact absurd (h.toLeft.symm.trans hwaiting) (by simp)
  · rw [h.toRight, indexRange_eq_cons (by omega)] at hwaiting
    obtain ⟨rfl, rfl⟩ := List.cons.inj hwaiting
    rw [receiverReceive_next h.receiving (by omega) (by omega)] at ht
    exact h.next_block hb hw htotal ht
  · exact absurd hlate.2.1 hbusy
  · exact absurd hlate.2.1 hbusy

include hw htotal in
/-- The ACK of a window arrives: the next window goes out, or the sender is stuck. -/
theorem AckComing.next_window {st : TimedState} (h : AckComing payload params config st) :
    BeforeLoss payload params config retransmissionTimeout (VirtualTime.reactLeft
      (timedSender payload params config retransmissionTimeout senderPeer) st st.clock []
      (senderReceive payload params config st.left
        (.gotPacket (ackPacket st.left.highestSent)))) := by
  obtain ⟨hlt, hnear, -⟩ := h.sender.near hw
  have hpos := senderWindow_pos params
  have hmore := h.more
  obtain ⟨hreturned, htimeouts, hcompleted, hacked, hwindow⟩ :=
    @senderLoop_nextWindow payload params config
      { st.left with
        lastAcked := st.left.highestSent, consecutiveTimeouts := 0, action := .sendNew }
      htotal hw rfl rfl hmore
  rw [senderReceive_highest hlt hnear]
  rcases hwindow with ⟨hedge, hsends⟩ | ⟨hsame, hsends⟩
  · have hwaiting : Waiting payload params config (senderLoop payload params config
        { st.left with
          lastAcked := st.left.highestSent, consecutiveTimeouts := 0, action := .sendNew }).1 :=
      ⟨hreturned.trans h.sender.running, hcompleted.trans h.sender.unfinished, htimeouts,
        hacked.symm ▸ hmore, by rw [hacked, hedge]⟩
    refine .blocks ⟨⟨hwaiting, h.counts, h.receiving, h.unfinished, h.lost⟩, ?_, ?_, ?_, rfl, rfl⟩
    · simp only [VirtualTime.reactLeft, hacked, h.counted, h.arrived, Nat.add_zero]
    · simp only [VirtualTime.reactLeft, hedge, h.arrived]
      omega
    · simp only [VirtualTime.reactLeft, h.toRight, hsends, h.arrived, List.nil_append]
  · refine .never ⟨.stuck ?_ ?_, ?_, ?_, h.lost⟩
    · exact hacked.trans hsame.symm
    · simp only [VirtualTime.reactLeft, hacked]
      omega
    · simp only [VirtualTime.reactLeft, h.toRight, hsends, List.nil_append]
      exact fullBlocks_nil
    · simpa [VirtualTime.reactLeft, ReceiverState.gotFinal, h.receiving] using h.unfinished

include hw htotal in
/-- One event while the ACK of a window is on its way. -/
theorem AckComing.next {st t : TimedState} (h : AckComing payload params config st)
    (hnext : LostAckNext payload params config retransmissionTimeout senderPeer receiverPeer st t) :
    BeforeLoss payload params config retransmissionTimeout t := by
  have hbusy : ¬ VirtualTime.Quiet
      (timedSender payload params config retransmissionTimeout senderPeer)
      (timedReceiver payload params config retransmissionTimeout receiverPeer) st := by
    refine VirtualTime.not_quiet_of_toLeft h.sender.running ?_
    rw [h.toLeft]
    exact List.cons_ne_nil _ _
  rcases lostAckNext_cases hnext with ⟨a, rest, -, hwaiting, rfl⟩ |
    ⟨i, rest, -, hwaiting, -⟩ | ⟨hlate, -⟩ | ⟨hlate, -⟩
  · obtain ⟨rfl, rfl⟩ := List.cons.inj (h.toLeft.symm.trans hwaiting)
    exact h.next_window hw htotal
  · exact absurd (h.toRight.symm.trans hwaiting) (by simp)
  · exact absurd hlate.2.1 hbusy
  · exact absurd hlate.2.1 hbusy

include hq hb htotal in
/-- The sender reacts, and the final block does not come. -/
theorem NeverComing.reactLeft {st : TimedState} (h : NeverComing payload params config st)
    (hrun : st.left.returned = false) {status : ReceiveStatus}
    (hstatus : status = .timedOut ∨ ∃ a, status = .gotPacket (ackPacket a)) (clock : ℕ)
    (toLeft : List ℕ) :
    NeverComing payload params config (VirtualTime.reactLeft
      (timedSender payload params config retransmissionTimeout senderPeer) st clock toLeft
      (senderReceive payload params config st.left status)) := by
  obtain ⟨hnever, hsends⟩ := h.sender.receive hq hb htotal hrun hstatus
  refine ⟨hnever, fun i hi => ?_, h.notFinal, h.lost⟩
  rcases List.mem_append.1 hi with hi | hi
  · exact h.full i hi
  · exact hsends i hi

/-- The receiver reacts, and not to the final block. -/
theorem NeverComing.reactRight {st : TimedState} (h : NeverComing payload params config st)
    (clock : ℕ) {toRight : List ℕ} (hfull : FullBlocks payload params toRight)
    {reaction : ReceiverState × List ℕ} (hreaction : reaction.1.gotFinal = false) :
    NeverComing payload params config (VirtualTime.reactRight
      (timedReceiver payload params config retransmissionTimeout receiverPeer) acceptsFinal
      st clock toRight reaction) := by
  refine ⟨h.sender, hfull, hreaction, ?_⟩
  simp only [VirtualTime.reactRight, h.lost, acceptsFinal, hreaction, Bool.and_false, Bool.or_self]

include hq hb htotal in
/-- One event while the final block does not come. -/
theorem NeverComing.next {st t : TimedState} (h : NeverComing payload params config st)
    (hnext : LostAckNext payload params config retransmissionTimeout senderPeer receiverPeer st t) :
    NeverComing payload params config t := by
  rcases lostAckNext_cases hnext with ⟨a, rest, hrun, -, rfl⟩ |
    ⟨i, rest, hrun, hwaiting, rfl⟩ | ⟨hlate, rfl⟩ | ⟨hlate, rfl⟩
  · exact h.reactLeft hq hb htotal hrun (Or.inr ⟨a, rfl⟩) _ _
  · have hfull := hwaiting ▸ h.full
    exact h.reactRight _ (fun j hj => hfull j (List.mem_cons_of_mem _ hj))
      (receiverReceive_full h.notFinal (hfull i List.mem_cons_self))
  · exact h.reactLeft hq hb htotal hlate.1 (Or.inl rfl) _ _
  · exact h.reactRight _ h.full (receiverReceive_timedOut_gotFinal h.notFinal)

include hq hb hw htotal in
/-- **One event before the loss** leads to a state before it, or is the loss. -/
theorem BeforeLoss.next {st t : TimedState}
    (h : BeforeLoss payload params config retransmissionTimeout st)
    (hnext : LostAckNext payload params config retransmissionTimeout senderPeer receiverPeer st t) :
    BeforeLoss payload params config retransmissionTimeout t ∨
      FinalAckLost payload params config retransmissionTimeout t := by
  cases h with
  | blocks h => exact h.next hb hw htotal hnext
  | ack h => exact Or.inl (h.next hw htotal hnext)
  | never h => exact Or.inl (.never (h.next hq hb htotal hnext))

include hq hb hw htotal in
/-- **The transfer starts before the loss.** -/
theorem beforeLoss_start (startingDataPacketsSent : ℕ) :
    BeforeLoss payload params config retransmissionTimeout
      (lostAckStart payload params config retransmissionTimeout startingDataPacketsSent) := by
  have hpos := senderWindow_pos params
  by_cases hcount : blockCount payload params < 4294967296
  · have counts : senderTotalBlocks payload params config = blockCount payload params :=
      senderTotalBlocks_eq (by rw [hq]) hcount
    have hmore : 0 < senderTotalBlocks payload params config := by
      rw [counts]
      exact Nat.succ_pos _
    obtain ⟨hreturned, htimeouts, hcompleted, hacked, ⟨hedge, hsends⟩ | ⟨hsame, hsends⟩⟩ :=
      @senderLoop_nextWindow payload params config
        { outcome := { negotiated := params, dataPacketsSent := startingDataPacketsSent } }
        htotal hw rfl rfl hmore
    · refine .blocks ⟨⟨⟨hreturned, hcompleted, htimeouts, ?_, ?_⟩, counts, rfl, rfl, rfl⟩, hacked,
        ?_, hsends, rfl, (Nat.zero_add _).symm⟩
      · exact hacked.symm ▸ hmore
      · exact hedge.trans (by rw [← hacked]; rfl)
      · show 0 < (senderStart payload params config startingDataPacketsSent).1.highestSent
        rw [senderStart, hedge]
        omega
    · have hzero : (lostAckStart payload params config retransmissionTimeout
          startingDataPacketsSent).left.lastAcked = 0 := hacked
      have hnone : (lostAckStart payload params config retransmissionTimeout
          startingDataPacketsSent).toRight = [] := hsends
      exact .never ⟨.stuck (hacked.trans hsame.symm) (by omega), hnone ▸ fullBlocks_nil, rfl, rfl⟩
  · obtain ⟨hsent, hblocks⟩ := @senderLoop_wrapped payload params config
      { outcome := { negotiated := params, dataPacketsSent := startingDataPacketsSent } }
      htotal (Nat.zero_le _)
    exact .never ⟨.wrapped (by omega) hsent, fullBlocks_of_lt hb (by omega) hblocks, rfl, rfl⟩

/-! ### After the loss -/

variable (payload params config) in
/-- The sender has sent its last window again, and the dallying receiver has answered or will. -/
structure Resent (st : TimedState) : Prop where
  running : st.left.returned = false
  inFlight : st.left.lastAcked < st.left.highestSent
  near : st.left.highestSent ≤ st.left.lastAcked + 65535
  last : st.left.highestSent = senderTotalBlocks payload params config
  arrived : st.right.lastInSequence = senderTotalBlocks payload params config
  closing : st.right.phase ≠ .receiving
  acks : ∀ a ∈ st.toLeft, a = senderTotalBlocks payload params config
  coming : st.toLeft ≠ [] ∨ st.toRight ≠ [] ∧ st.right.phase ≠ .returned

/-- The sender has returned with success. -/
def SenderSucceeded (st : TimedState) : Prop :=
  st.left.returned = true ∧ st.left.outcome.completedSuccessfully = true

variable (payload params config) in
/-- The receiver has returned, and nobody will tell the sender of its last block. -/
structure Abandoned (st : TimedState) : Prop where
  returned : st.right.phase = .returned
  toLeft : st.toLeft = []
  unfinished : st.left.outcome.completedSuccessfully = false
  behind : st.left.lastAcked < senderTotalBlocks payload params config

include hw in
/-- **With a retransmission timeout within the dally** the sender times out first, and sends its
last window again while the receiver dallies. -/
theorem FinalAckLost.next_of_le (hmax : 1 ≤ config.maximumRetransmissions)
    (htimeout : retransmissionTimeout ≤ dallyTimeout)
    (htotal : senderTotalBlocks payload params config + 1 < 4294967296) {st t : TimedState}
    (h : FinalAckLost payload params config retransmissionTimeout st)
    (hnext : LostAckNext payload params config retransmissionTimeout senderPeer receiverPeer st t) :
    Resent payload params config t := by
  obtain ⟨hlt, hnear, hle⟩ := h.sender.near hw
  have hbudget : st.left.consecutiveTimeouts + 1 ≤ config.maximumRetransmissions := by
    rw [h.sender.noTimeouts]
    omega
  obtain ⟨hsends, hreturned, hacked, hsent⟩ :=
    senderReceive_resends hbudget h.sender.behind (by omega)
  have hagain : (senderReceive payload params config st.left .timedOut).2 ≠ [] := by
    rw [hsends, indexRange_eq_cons (by omega)]
    exact List.cons_ne_nil _ _
  have hdallying : st.right.phase ≠ .returned := by simp [h.dallying]
  rcases lostAckNext_cases hnext with ⟨a, rest, -, hwaiting, -⟩ |
    ⟨i, rest, -, hwaiting, -⟩ | ⟨hlate, rfl⟩ | ⟨hlate, -⟩
  · exact absurd (h.toLeft.symm.trans hwaiting) (by simp)
  · exact absurd (h.toRight.symm.trans hwaiting) (by simp)
  · refine ⟨hreturned.trans h.sender.running, ?_, ?_, hsent.trans h.last, h.arrived, ?_, ?_, ?_⟩
    · show (senderReceive payload params config st.left .timedOut).1.lastAcked < _
      rw [hacked]
      exact hlt.trans_eq hsent.symm
    · show (senderReceive payload params config st.left .timedOut).1.highestSent ≤ _
      rw [hsent]
      exact hnear.trans_eq (by rw [← hacked]; rfl)
    · show st.right.phase ≠ .receiving
      simp [h.dallying]
    · intro a ha
      rw [VirtualTime.reactLeft, h.toLeft] at ha
      exact absurd ha List.not_mem_nil
    · exact Or.inr ⟨by simpa [VirtualTime.reactLeft] using fun _ => hagain, hdallying⟩
  · -- the receiver would have to give up first, or to send something when it does
    exfalso
    have hleft := h.leftDeadline
    have hright := h.rightDeadline
    rcases hlate.2.2 with hreturned | hlt | ⟨-, hsends | hnone⟩
    · exact absurd (h.sender.running.symm.trans hreturned) (by decide)
    · omega
    · rw [timedReceiver_timeout hdallying] at hsends
      exact hsends (by simp [receiverReceive, h.dallying])
    · rw [timedSender_timeout h.sender.running] at hnone
      exact hagain hnone

/-- **With a longer retransmission timeout** the receiver gives up first. -/
theorem FinalAckLost.next_of_lt (htimeout : dallyTimeout < retransmissionTimeout)
    {st t : TimedState} (h : FinalAckLost payload params config retransmissionTimeout st)
    (hnext : LostAckNext payload params config retransmissionTimeout senderPeer receiverPeer st t) :
    Abandoned payload params config t := by
  have hleft := h.leftDeadline
  have hright := h.rightDeadline
  have hdallying : st.right.phase ≠ .returned := by simp [h.dallying]
  rcases lostAckNext_cases hnext with ⟨a, rest, -, hwaiting, -⟩ |
    ⟨i, rest, -, hwaiting, -⟩ | ⟨hlate, -⟩ | ⟨-, rfl⟩
  · exact absurd (h.toLeft.symm.trans hwaiting) (by simp)
  · exact absurd (h.toRight.symm.trans hwaiting) (by simp)
  · exfalso
    rcases hlate.2.2 with hreturned | hlt | ⟨heq, -⟩
    · exact hdallying (of_decide_eq_true hreturned)
    · omega
    · omega
  · refine ⟨?_, ?_, h.sender.unfinished, h.sender.behind⟩
    · simp [VirtualTime.reactRight, receiverReceive, h.dallying, receiverFinish]
    · simp [VirtualTime.reactRight, receiverReceive, h.dallying, h.toLeft]

/-- **The retransmitted window** brings an ACK back, and the ACK ends the transfer. -/
theorem Resent.next {st t : TimedState} (h : Resent payload params config st)
    (hnext : LostAckNext payload params config retransmissionTimeout senderPeer receiverPeer st t) :
    Resent payload params config t ∧ receivesLeft t.right < receivesLeft st.right ∨
      SenderSucceeded t ∧ t.right = st.right := by
  have hbusy : ¬ VirtualTime.Quiet
      (timedSender payload params config retransmissionTimeout senderPeer)
      (timedReceiver payload params config retransmissionTimeout receiverPeer) st := by
    rcases h.coming with hacks | ⟨hblocks, hrun⟩
    · exact VirtualTime.not_quiet_of_toLeft h.running hacks
    · exact VirtualTime.not_quiet_of_toRight (decide_eq_false hrun) hblocks
  rcases lostAckNext_cases hnext with ⟨a, rest, -, hwaiting, rfl⟩ |
    ⟨i, rest, hrun, hwaiting, rfl⟩ | ⟨hlate, -⟩ | ⟨hlate, -⟩
  · right
    have ha : a = st.left.highestSent :=
      (h.acks a (hwaiting ▸ List.mem_cons_self)).trans h.last.symm
    rw [ha]
    exact ⟨senderReceive_last h.inFlight h.near h.last, rfl⟩
  · left
    cases hphase : st.right.phase with
    | receiving => exact absurd hphase h.closing
    | returned => exact absurd hphase hrun
    | dallying dally =>
        obtain ⟨hsends, hlast, hclosing, hless⟩ := @receiverReceive_dallying payload params config
          st.right dally hphase i
        have hcarried : (VirtualTime.reactRight
            (timedReceiver payload params config retransmissionTimeout receiverPeer) acceptsFinal
            st st.clock rest (receiverReceive params config st.right
              (.gotPacket (blockPacket payload params i)))).toLeft =
              st.toLeft ++ [st.right.lastInSequence] := by
          simp [VirtualTime.reactRight, acceptsFinal_dallying hphase, hsends]
        refine ⟨⟨h.running, h.inFlight, h.near, h.last, hlast.trans h.arrived, hclosing, ?_, ?_⟩,
          hless⟩
        · rw [hcarried]
          intro a ha
          rcases List.mem_append.1 ha with ha | ha
          · exact h.acks a ha
          · exact (List.mem_singleton.1 ha).trans h.arrived
        · rw [hcarried]
          exact Or.inl (by simp)
  · exact absurd hlate.2.1 hbusy
  · exact absurd hlate.2.1 hbusy

/-- **After the success of the sender** the receiver dallies to its end. -/
theorem SenderSucceeded.next {st t : TimedState} (h : SenderSucceeded st)
    (hclosing : st.right.phase ≠ .receiving)
    (hnext : LostAckNext payload params config retransmissionTimeout senderPeer receiverPeer st t) :
    SenderSucceeded t ∧ t.right.phase ≠ .receiving ∧
      receivesLeft t.right < receivesLeft st.right := by
  rcases lostAckNext_cases hnext with ⟨a, rest, hrun, -, -⟩ |
    ⟨i, rest, hrun, -, rfl⟩ | ⟨hlate, -⟩ | ⟨hlate, rfl⟩
  · exact absurd (hrun.symm.trans h.1) (by decide)
  · cases hphase : st.right.phase with
    | receiving => exact absurd hphase hclosing
    | returned => exact absurd hphase hrun
    | dallying dally =>
        obtain ⟨-, -, hclosing', hless⟩ := @receiverReceive_dallying payload params config
          st.right dally hphase i
        exact ⟨h, hclosing', hless⟩
  · exact absurd (hlate.1.symm.trans h.1) (by decide)
  · have hrun : st.right.phase ≠ .returned := of_decide_eq_false hlate.1
    cases hphase : st.right.phase with
    | receiving => exact absurd hphase hclosing
    | returned => exact absurd hphase hrun
    | dallying dally =>
        refine ⟨h, ?_, ?_⟩
        · simp [VirtualTime.reactRight, receiverReceive, hphase, receiverFinish]
        · simp [VirtualTime.reactRight, receiverReceive, hphase, receiverFinish, receivesLeft]

/-- **An abandoned sender** is not told anything any more. -/
theorem Abandoned.next {st t : TimedState} (h : Abandoned payload params config st)
    (hnext : LostAckNext payload params config retransmissionTimeout senderPeer receiverPeer st t) :
    Abandoned payload params config t := by
  rcases lostAckNext_cases hnext with ⟨a, rest, -, hwaiting, -⟩ |
    ⟨i, rest, hrun, -, -⟩ | ⟨-, rfl⟩ | ⟨hlate, -⟩
  · exact absurd (h.toLeft.symm.trans hwaiting) (by simp)
  · exact absurd h.returned hrun
  · obtain ⟨hacked, hcompleted⟩ :=
      @senderReceive_timedOut_unfinished payload params config st.left h.behind
    exact ⟨h.returned, h.toLeft, hcompleted.trans h.unfinished, by
      simpa [VirtualTime.reactLeft, hacked] using h.behind⟩
  · exact absurd h.returned (of_decide_eq_false hlate.1)

/-! ### Runs -/

variable (payload params config retransmissionTimeout) in
/-- The states after the loss from which the sender succeeds, with what is left to do. -/
inductive Answering : ℕ → TimedState → Prop
  | lost {st : TimedState} (h : FinalAckLost payload params config retransmissionTimeout st) :
      Answering 12 st
  | resent {st : TimedState} (h : Resent payload params config st) :
      Answering (6 + receivesLeft st.right) st
  | succeeded {st : TimedState} (h : SenderSucceeded st) (closing : st.right.phase ≠ .receiving) :
      Answering (receivesLeft st.right) st

include hw htotal in
/-- Every event after the loss leaves less to do. -/
theorem Answering.next (hmax : 1 ≤ config.maximumRetransmissions)
    (htimeout : retransmissionTimeout ≤ dallyTimeout) {n : ℕ} {st t : TimedState}
    (h : Answering payload params config retransmissionTimeout n st)
    (hnext : LostAckNext payload params config retransmissionTimeout senderPeer receiverPeer st t) :
    ∃ m, m < n ∧ Answering payload params config retransmissionTimeout m t := by
  cases h with
  | lost h =>
      have hle := receivesLeft_le t.right
      exact ⟨_, by omega, .resent (h.next_of_le hw hmax htimeout htotal hnext)⟩
  | resent h =>
      rcases h.next hnext with ⟨hresent, hless⟩ | ⟨hsucceeded, hright⟩
      · exact ⟨_, by omega, .resent hresent⟩
      · refine ⟨_, ?_, .succeeded hsucceeded ?_⟩
        · rw [hright]
          omega
        · rw [hright]
          exact h.closing
  | succeeded h closing =>
      obtain ⟨hsucceeded, hclosing, hless⟩ := h.next closing hnext
      exact ⟨_, hless, .succeeded hsucceeded hclosing⟩

/-- Where nothing more can happen the sender has succeeded. -/
theorem Answering.ended {n : ℕ} {st : TimedState}
    (h : Answering payload params config retransmissionTimeout n st)
    (hended : ∀ t, ¬ LostAckNext payload params config retransmissionTimeout senderPeer receiverPeer
      st t) : SenderSucceeded st := by
  have hstops : st.left.returned = true := by
    by_contra hrun
    obtain ⟨t, ht⟩ := @VirtualTime.exists_next _ _ _ _
      (timedSender payload params config retransmissionTimeout senderPeer)
      (timedReceiver payload params config retransmissionTimeout receiverPeer) acceptsFinal st
      (Or.inl (eq_false_of_ne_true hrun))
    exact hended t ht
  cases h with
  | lost h => exact absurd (h.sender.running.symm.trans hstops) (by decide)
  | resent h => exact absurd (h.running.symm.trans hstops) (by decide)
  | succeeded h => exact h

variable (payload params config retransmissionTimeout senderPeer receiverPeer) in
/-- The states of all runs of a transfer that loses the first ACK of the final block. -/
def LostAckReachable (startingDataPacketsSent : ℕ) (st : TimedState) : Prop :=
  VirtualTime.Reachable (timedSender payload params config retransmissionTimeout senderPeer)
    (timedReceiver payload params config retransmissionTimeout receiverPeer) acceptsFinal
    (lostAckStart payload params config retransmissionTimeout startingDataPacketsSent) st

section Reached

variable {startingDataPacketsSent : ℕ} {st : TimedState}
  (h : LostAckReachable payload params config retransmissionTimeout senderPeer receiverPeer
    startingDataPacketsSent st)

include hq hb hw htotal h in
/-- The run rule for what comes after the loss. -/
theorem invariant_after_loss {I : TimedState → Prop}
    (hlost : ∀ s, FinalAckLost payload params config retransmissionTimeout s → I s)
    (hstep : ∀ s t, I s → LostAckNext payload params config retransmissionTimeout senderPeer
      receiverPeer s t → I t) (hloss : st.lost = true) : I st := by
  have hinv : BeforeLoss payload params config retransmissionTimeout st ∨ I st := by
    refine VirtualTime.invariant_of_reachable (I := fun s =>
      BeforeLoss payload params config retransmissionTimeout s ∨ I s)
      (Or.inl (beforeLoss_start hq hb hw htotal startingDataPacketsSent)) ?_ h
    rintro s t (hs | hs) hnext
    · exact (hs.next hq hb hw htotal hnext).imp_right (hlost t)
    · exact Or.inr (hstep s t hs hnext)
  exact hinv.resolve_left fun hbefore => absurd (hloss.symm.trans hbefore.lost_eq) (by decide)

include hq hb hw htotal h in
/-- **Within the dally the sender succeeds**, in every run. -/
theorem inevitable_of_le (hmax : 1 ≤ config.maximumRetransmissions)
    (htimeout : retransmissionTimeout ≤ dallyTimeout) (hloss : st.lost = true) :
    Service.Inevitable (LostAckNext payload params config retransmissionTimeout senderPeer
      receiverPeer) SenderSucceeded st := by
  have hrecovering : ∃ n, Answering payload params config retransmissionTimeout n st := by
    refine invariant_after_loss
      (I := fun s => ∃ n, Answering payload params config retransmissionTimeout n s)
      hq hb hw htotal h (fun s hs => ⟨_, .lost hs⟩) ?_ hloss
    rintro s t ⟨n, hs⟩ hnext
    obtain ⟨m, -, ht⟩ := hs.next hw htotal hmax htimeout hnext
    exact ⟨m, ht⟩
  obtain ⟨n, hn⟩ := hrecovering
  exact Service.inevitable_of_rank
    (fun _ _ _ hs hnext => hs.next hw htotal hmax htimeout hnext)
    (fun _ _ hs hended => hs.ended hended) hn

/-- The states of a sender that is left alone. -/
def LeftAlone (payload : Bytes) (params : NegotiatedParameters) (config : EngineConfig)
    (retransmissionTimeout : ℕ) (st : TimedState) : Prop :=
  FinalAckLost payload params config retransmissionTimeout st ∨ Abandoned payload params config st

theorem LeftAlone.next (htimeout : dallyTimeout < retransmissionTimeout) {s t : TimedState}
    (hs : LeftAlone payload params config retransmissionTimeout s)
    (hnext : LostAckNext payload params config retransmissionTimeout senderPeer receiverPeer s t) :
    LeftAlone payload params config retransmissionTimeout t := by
  rcases hs with hs | hs
  · exact Or.inr (hs.next_of_lt htimeout hnext)
  · exact Or.inr (hs.next hnext)

theorem LeftAlone.not_succeeded {s : TimedState}
    (hs : LeftAlone payload params config retransmissionTimeout s) : ¬ SenderSucceeded s := by
  rintro ⟨-, hcompleted⟩
  rcases hs with hs | hs
  · exact absurd (hs.sender.unfinished.symm.trans hcompleted) (by decide)
  · exact absurd (hs.unfinished.symm.trans hcompleted) (by decide)

theorem LeftAlone.not_inevitable (htimeout : dallyTimeout < retransmissionTimeout)
    {s : TimedState} (hs : LeftAlone payload params config retransmissionTimeout s) :
    ¬ Service.Inevitable (LostAckNext payload params config retransmissionTimeout senderPeer
      receiverPeer) SenderSucceeded s :=
  Service.not_inevitable (I := LeftAlone payload params config retransmissionTimeout)
    (fun _ _ hs hnext => hs.next htimeout hnext)
    (fun _ hs => hs.not_succeeded) hs

include hq hb hw htotal h in
/-- **Past the dally the sender fails**, in every run. -/
theorem leftAlone_of_lt (htimeout : dallyTimeout < retransmissionTimeout) (hloss : st.lost = true) :
    LeftAlone payload params config retransmissionTimeout st :=
  invariant_after_loss hq hb hw htotal h (fun _ hs => Or.inl hs)
    (fun _ _ hs hnext => hs.next htimeout hnext) hloss

end Reached

end System

/-- **A lost final ACK**: in every run in which it is lost the sender succeeds if its retransmission
timeout is within the dally of the receiver, and never does if it is longer.  With `2 ^ 32 - 1`
blocks the loops over 32-bit indices do not end. -/
theorem lostFinalAck_iff (hq : config.quirks = {}) (hb : 1 ≤ params.blockSize)
    (hw : params.windowSize ≤ 65535) (hmax : 1 ≤ config.maximumRetransmissions)
    (htotal : senderTotalBlocks payload params config + 1 < 4294967296)
    {startingDataPacketsSent : ℕ} {st : TimedState}
    (h : LostAckReachable payload params config retransmissionTimeout senderPeer receiverPeer
      startingDataPacketsSent st) (hloss : st.lost = true) :
    (Service.Inevitable (LostAckNext payload params config retransmissionTimeout senderPeer
      receiverPeer) SenderSucceeded st ↔ retransmissionTimeout ≤ dallyTimeout) ∧
    (dallyTimeout < retransmissionTimeout → ¬ SenderSucceeded st) := by
  refine ⟨⟨fun hinevitable => ?_, fun hle => ?_⟩, fun hlt => ?_⟩
  · by_contra hlong
    have hlt := Nat.lt_of_not_le hlong
    exact (leftAlone_of_lt hq hb hw htotal h hlt hloss).not_inevitable hlt hinevitable
  · exact inevitable_of_le hq hb hw htotal h hmax hle hloss
  · exact (leftAlone_of_lt hq hb hw htotal h hlt hloss).not_succeeded

/-- A transfer of one block with a retransmission timeout of 100 milliseconds. -/
theorem lostFinalAck_one_block :
    ∃ st, LostAckReachable [1] {} {} 100 ⟨false, [], 1⟩ ⟨false, [], 2⟩ 0 st ∧ st.lost = true ∧
      Service.Inevitable (LostAckNext [1] {} {} 100 ⟨false, [], 1⟩ ⟨false, [], 2⟩)
        SenderSucceeded st := by
  have hreach : LostAckReachable [1] {} {} 100 ⟨false, [], 1⟩ ⟨false, [], 2⟩ 0 _ :=
    .single (.receiveRight rfl rfl)
  refine ⟨_, hreach, rfl, ?_⟩
  exact (lostFinalAck_iff rfl (by decide) (by decide) (by decide) (by decide) hreach rfl).1.2
    (by decide)

/-- **The configuration of the reference adapter** does not survive the loss. -/
theorem lostFinalAck_reference :
    ∃ st, LostAckReachable [1] {} { maximumRetransmissions := 8 } 400
        ⟨false, [], 1⟩ ⟨false, [], 2⟩ 0 st ∧ st.lost = true ∧
      ¬ Service.Inevitable (LostAckNext [1] {} { maximumRetransmissions := 8 } 400
        ⟨false, [], 1⟩ ⟨false, [], 2⟩) SenderSucceeded st := by
  have hreach : LostAckReachable [1] {} { maximumRetransmissions := 8 } 400
      ⟨false, [], 1⟩ ⟨false, [], 2⟩ 0 _ := .single (.receiveRight rfl rfl)
  have hlong : dallyTimeout < 400 := by decide
  refine ⟨_, hreach, rfl, ?_⟩
  exact (leftAlone_of_lt rfl (by decide) (by decide) (by decide) hreach hlong rfl).not_inevitable
    hlong

end TftpHarness
