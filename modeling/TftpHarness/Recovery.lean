/-
**Recovery after loss.**

From any state the two ends can get themselves into, one timeout of the sender repairs the transfer,
provided that from then on nothing is lost.  The timeout puts the window in flight back on the link.
Whatever part of it the receiver already holds makes it acknowledge its position, and from there on
it counts the blocks it has not acknowledged exactly; so it acknowledges something new before the
sender's window is used up, and the sender never waits in vain.  The receiver's own timeouts repeat
its ACK without resetting that count, which is why the count may be wrong before.

Main definitions:

* `TftpHarness.Recovering` — what holds while nothing is lost, with the number of the last block
  delivered since the timeout.

Main results:

* `TftpHarness.recovering_timeout` — the sender's timeout starts a recovery;
* `TftpHarness.recovering_run` — a delivery continues it and uses up a finite stock;
* `TftpHarness.recovery_after_timeout` — **after the timeout every loss-free run ends, and it ends
  with the transfer complete on both sides**.
-/

import TftpHarness.DataPlane

set_option relaxedAutoImplicit false
set_option autoImplicit false

namespace TftpHarness

variable {payload : Bytes} {sp rp : NegotiatedParameters} {sc rc : EngineConfig}

/-- The last ACK the receiver has sent, as far as the sender can still learn of it. -/
def lastAckSent (lastAcked : ℕ) (toLeft : List PeerLoop.Tagged) : ℕ :=
  (toLeft.map PeerLoop.Tagged.absolute).getLastD lastAcked

/-- By how many blocks the receiver may be ahead of its last ACK. -/
def ReceiverState.unacknowledged (r : ReceiverState) : ℕ :=
  if r.gotFinal then 0 else r.blocksSinceAck

variable (payload sp rp sc) in
/-- **The invariant of a loss-free run after a timeout.**  The blocks after `delivered` are on
their way to the receiver, and once it has seen one it holds already, it is never further ahead of
its last ACK than it counts. -/
structure Recovering (delivered : ℕ)
    (st : Duplex.State SenderState ReceiverState PeerLoop.Tagged PeerLoop.Tagged) : Prop where
  inv : DataPlaneInv payload sp rp sc st
  data_eq : st.toRight.map PeerLoop.Tagged.absolute =
    indexRange (delivered + 1) st.left.highestSent
  delivered_le : delivered ≤ st.right.lastInSequence
  acks_recent : ∀ m ∈ st.toLeft, st.left.lastAcked ≤ m.absolute
  acks_order : st.toLeft.Pairwise fun m m' => m.absolute ≤ m'.absolute
  sender_done : st.left.returned = true → st.left.outcome.completedSuccessfully = true
  receiver_done : st.right.phase = .returned → st.right.gotFinal = true
  counted : (delivered < st.right.lastInSequence ∧ st.right.phase ≠ .returned) ∨
    st.right.lastInSequence ≤
      lastAckSent st.left.lastAcked st.toLeft + st.right.unacknowledged

/-- The stock a loss-free run uses up: two for each block still to be delivered, one for each ACK.
-/
def remaining (total delivered : ℕ) (toLeft : List PeerLoop.Tagged) : ℕ :=
  2 * (total - delivered) + toLeft.length

/-! ### Exact reactions -/

/-- What one DATA packet does to a correct receiver, case by case. -/
theorem receiverReceive_data {r : ReceiverState} {packet : TftpPacket}
    (hrq : rc.quirks.acceptOutOfSequenceData = false)
    (hbound : r.lastInSequence + receiverWindow rp < 4294967296)
    (hsince : r.phase = .receiving → r.blocksSinceAck < receiverWindow rp)
    (hop : packet.opcode = .data) :
    (r.phase = .receiving ∧ packet.blockNumber = wireBlockNumber (r.lastInSequence + 1) ∧
      receiverReceive rp rc r (.gotPacket packet) = acceptNext rp r packet.data) ∨
    (r.phase = .receiving ∧ packet.blockNumber ≠ wireBlockNumber (r.lastInSequence + 1) ∧
      receiverReceive rp rc r (.gotPacket packet) = refuse r) ∨
    (r.gotFinal = true ∧ (receiverReceive rp rc r (.gotPacket packet)).1.gotFinal = true ∧
      (receiverReceive rp rc r (.gotPacket packet)).1.lastInSequence = r.lastInSequence ∧
      (receiverReceive rp rc r (.gotPacket packet)).2 = [r.lastInSequence]) ∨
    (r.phase = .returned ∧ receiverReceive rp rc r (.gotPacket packet) = (r, [])) := by
  cases hphase : r.phase with
  | receiving =>
      rw [receiverReceive_gotPacket hphase]
      by_cases hnext : packet.blockNumber = wireBlockNumber (r.lastInSequence + 1)
      · exact Or.inl ⟨rfl, hnext, receiverPacket_next hop hnext hbound (hsince hphase)⟩
      · exact Or.inr (Or.inl ⟨rfl, hnext, receiverPacket_other hrq hop hnext hbound⟩)
  | dallying dally =>
      right; right; left
      by_cases hcount : dally + 1 < 4
      · simp [receiverReceive, hphase, hop, hcount, ReceiverState.gotFinal]
      · simp [receiverReceive, hphase, hop, hcount, ReceiverState.gotFinal, receiverFinish]
  | returned => exact Or.inr (Or.inr (Or.inr ⟨rfl, receiverReceive_returned hphase _⟩))

/-- The next block is acknowledged, or it is not the final one and counted. -/
theorem acceptNext_ack (r : ReceiverState) (data : Bytes) (hphase : r.phase = .receiving) :
    (acceptNext rp r data).2 = [r.lastInSequence + 1] ∨
      ((acceptNext rp r data).2 = [] ∧ (acceptNext rp r data).1.phase = .receiving ∧
        (acceptNext rp r data).1.blocksSinceAck = r.blocksSinceAck + 1) := by
  unfold acceptNext
  split
  · exact Or.inl rfl
  · split
    · exact Or.inl rfl
    · exact Or.inr ⟨rfl, hphase, rfl⟩

/-- An ACK that resolves to the block it was sent for moves the sender there, and the blocks that
enter the window go out. -/
theorem senderReceive_resolved {s : SenderState} {a : ℕ} (hinv : SenderInv payload sp sc s)
    (hbound : senderTotalBlocks payload sp sc + senderWindow sp < 4294967296)
    (hdup : sc.quirks.retransmitOnDuplicateAck = false) (hrun : s.returned = false)
    (ha : resolveAckToAbsolute (wireBlockNumber a) s.lastAcked s.highestSent = a)
    {r : SenderState × List ℕ} (hr : r = senderReceive payload sp sc s
      (.gotPacket { opcode := .acknowledgement, blockNumber := wireBlockNumber a })) :
    r.1.lastAcked = a ∧ s.highestSent ≤ r.1.highestSent ∧
      r.2 = indexRange (s.highestSent + 1) r.1.highestSent ∧
      (r.1.returned = true → r.1.outcome.completedSuccessfully = true) := by
  have hack := @senderReceive_ack payload sp sc s
    { opcode := .acknowledgement, blockNumber := wireBlockNumber a } hinv hbound hdup hrun rfl
  simp only [ha, ← hr] at hack
  rcases hack with ⟨heq, h⟩ | ⟨hlt, hle, hadv⟩
  · rw [h]
    refine ⟨heq.symm, le_refl _, (indexRange_eq_nil (Nat.lt_succ_self _)).symm, ?_⟩
    intro hret
    exact absurd (hret.symm.trans hrun) (by decide)
  · have hhs := hadv.highestSent
    obtain ⟨-, hfull, -⟩ := hinv.waiting hrun
    exact ⟨hadv.lastAcked, by omega, hadv.sent, fun hret => hadv.completed.trans hret⟩

/-- **The receiver's count holds from the first repeated block on.**  Block `delivered + 1` reaches
a receiver that holds every block up to `delivered`: it acknowledges its position, or it is no
further ahead of the last ACK than it counts. -/
theorem counted_data {r : ReceiverState} {packet : TftpPacket} {delivered lastAck : ℕ}
    (hrq : rc.quirks.acceptOutOfSequenceData = false)
    (hbound : r.lastInSequence + receiverWindow rp < 4294967296)
    (hsince : r.phase = .receiving → r.blocksSinceAck < receiverWindow rp ∧ r.gotFinal = false)
    (hop : packet.opcode = .data)
    (hblock : packet.blockNumber = wireBlockNumber (delivered + 1))
    (hdelivered : delivered ≤ r.lastInSequence) (hnear : r.lastInSequence < delivered + 65536)
    (hfinal : r.gotFinal = true → delivered + 1 ≤ r.lastInSequence)
    (hreturned : r.phase = .returned → r.gotFinal = true)
    (hcounted : (delivered < r.lastInSequence ∧ r.phase ≠ .returned) ∨
      r.lastInSequence ≤ lastAck + r.unacknowledged)
    {r' : ReceiverState × List ℕ}
    (hr : r' = receiverReceive rp rc r (.gotPacket packet)) :
    delivered + 1 ≤ r'.1.lastInSequence ∧ (r'.1.phase = .returned → r'.1.gotFinal = true) ∧
      (r'.2 = [r'.1.lastInSequence] ∨
        r'.2 = [] ∧ r'.1.lastInSequence ≤ lastAck + r'.1.unacknowledged) := by
  rcases receiverReceive_data hrq hbound (fun hp => (hsince hp).1) hop with
    ⟨hphase, hnext, h⟩ | ⟨hphase, hother, h⟩ | ⟨hfin, hfin', hlis, hout⟩ | ⟨hphase, h⟩
  · obtain ⟨hlis, -, hcomp, hphase', -⟩ := acceptNext_spec rp r packet.data
    rw [← hr] at h
    rw [← h] at hlis hcomp hphase'
    refine ⟨by omega, ?_, ?_⟩
    · intro hret
      rw [hphase', hphase] at hret
      split at hret <;> exact ReceiverPhase.noConfusion hret
    · rcases acceptNext_ack r packet.data hphase with hout | ⟨hout, hrec, hcount⟩
      · left
        rw [← h] at hout
        rw [hout, hlis]
      · right
        rw [← h] at hout hrec hcount
        refine ⟨hout, ?_⟩
        have heq : delivered + 1 = r.lastInSequence + 1 :=
          eq_of_u16_eq (hblock.symm.trans hnext) (by omega) (by omega)
        have hnotfinal := (hsince hphase).2
        have hnotfinal' : r'.1.gotFinal = false := by
          simpa [ReceiverState.gotFinal, hphase, hrec, hcomp] using hnotfinal
        simp only [ReceiverState.unacknowledged, hnotfinal, hnotfinal', hcount, Bool.false_eq_true,
          if_false] at hcounted ⊢
        omega
  · have hne : delivered ≠ r.lastInSequence := by
      rintro rfl
      exact hother hblock
    rw [hr, h]
    refine ⟨?_, ?_, Or.inl rfl⟩
    · simp only [refuse]
      omega
    · intro hret
      exact absurd (hphase.symm.trans hret) (by decide)
  · exact ⟨by rw [hr, hlis]; exact hfinal hfin, fun _ => by rw [hr]; exact hfin',
      Or.inl (by rw [hr, hout, hlis])⟩
  · rw [hr, h]
    refine ⟨hfinal (hreturned hphase), hreturned, Or.inr ⟨rfl, ?_⟩⟩
    rcases hcounted with ⟨-, hnot⟩ | hle
    · exact absurd hphase hnot
    · exact hle

/-! ### One delivery -/

theorem lastAckSent_append {lastAcked : ℕ} {toLeft : List PeerLoop.Tagged} (m : PeerLoop.Tagged) :
    lastAckSent lastAcked (toLeft ++ [m]) = m.absolute := by
  simp [lastAckSent]

theorem lastAckSent_cons {lastAcked : ℕ} {toLeft : List PeerLoop.Tagged} (m : PeerLoop.Tagged) :
    lastAckSent lastAcked (m :: toLeft) = lastAckSent m.absolute toLeft := by
  rw [lastAckSent, lastAckSent, List.map_cons, List.getLastD_cons]

section Run

variable (hf : Framed payload sp rp) (hsq : sc.quirks.omitTerminatingEmptyBlock = false)
  (hdup : sc.quirks.retransmitOnDuplicateAck = false)
  (hrq : rc.quirks.acceptOutOfSequenceData = false) (hw : sp.windowSize ≤ 65535)
  (hblocks : payload.length / sp.blockSize + 1 ≤ 65535)

include hf hsq hdup hrq hw hblocks

/-- A step of the recovery keeps the invariant of the data plane. -/
theorem recovering_inv {senderPeer receiverPeer : Endpoint} {delivered : ℕ} {l : Duplex.Label}
    {st st' : Duplex.State SenderState ReceiverState PeerLoop.Tagged PeerLoop.Tagged}
    (h : Recovering payload sp rp sc delivered st)
    (hstep : Duplex.step ((dataSender payload sp sc).party senderPeer)
      ((dataReceiver rp rc).party receiverPeer) st l = some st') :
    DataPlaneInv payload sp rp sc st' := by
  have htotal := hf.total_eq hsq
  have hsent := h.inv.safe.sender.sent_le
  have hlis := h.inv.safe.received_le
  refine dataPlaneInv_step hf hsq hdup hrq hw h.inv ?_ ?_ hstep
  · intro i m _ hm
    have hpos := (h.inv.data m (List.mem_of_getElem? hm)).1
    omega
  · intro i m _ _
    omega

/-- **The delivery of an ACK continues the recovery.** -/
theorem recovering_ack {senderPeer receiverPeer : Endpoint} {delivered : ℕ}
    {st : Duplex.State SenderState ReceiverState PeerLoop.Tagged PeerLoop.Tagged}
    (h : Recovering payload sp rp sc delivered st)
    {st' : Duplex.State SenderState ReceiverState PeerLoop.Tagged PeerLoop.Tagged}
    (hstep : Duplex.step ((dataSender payload sp sc).party senderPeer)
      ((dataReceiver rp rc).party receiverPeer) st (.receiveLeft 0) = some st') :
    Recovering payload sp rp sc delivered st' ∧
      remaining (senderTotalBlocks payload sp sc) delivered st'.toLeft <
        remaining (senderTotalBlocks payload sp sc) delivered st.toLeft := by
  have htotal := hf.total_eq hsq
  have hsent := h.inv.safe.sender.sent_le
  have hlis := h.inv.safe.received_le
  have hdelivered := h.delivered_le
  have hinv' := recovering_inv hf hsq hdup hrq hw hblocks h hstep
  obtain ⟨m, hm, rfl⟩ := Option.map_eq_some_iff.1 hstep
  obtain ⟨rest, hrest⟩ := Duplex.exists_cons_of_getElem?_zero hm
  have hmem : m ∈ st.toLeft := List.mem_of_getElem? hm
  have hrecent := h.acks_recent m hmem
  have hheld := (h.inv.acks m hmem).1
  have horder := h.acks_order
  rw [hrest, List.pairwise_cons] at horder
  have hrest₁ : st.toLeft.eraseIdx 0 = rest := by rw [hrest, List.eraseIdx_cons_zero]
  have hlast : lastAckSent m.absolute rest = lastAckSent st.left.lastAcked st.toLeft := by
    rw [hrest, lastAckSent_cons]
  have hless : remaining (senderTotalBlocks payload sp sc) delivered rest <
      remaining (senderTotalBlocks payload sp sc) delivered st.toLeft := by
    rw [hrest]
    simp only [remaining, List.length_cons]
    omega
  cases hret : st.left.returned with
  | true =>
      rw [PeerLoop.party_receive_returned hret, List.append_nil, hrest₁] at hinv' ⊢
      -- a sender that has returned has every block acknowledged already
      have hdone := h.inv.safe.sender.completed (h.sender_done hret)
      have heq : m.absolute = st.left.lastAcked := by omega
      rw [heq] at hlast horder
      refine ⟨⟨hinv', h.data_eq, h.delivered_le, horder.1, horder.2, h.sender_done,
        h.receiver_done, ?_⟩, hless⟩
      rw [hlast]
      exact h.counted
  | false =>
      have hresolved : resolveAckToAbsolute (wireBlockNumber m.absolute) st.left.lastAcked
          st.left.highestSent = m.absolute := by
        rw [resolveAckToAbsolute_exact (by omega) (by omega)]
        split <;> omega
      obtain ⟨S, hS⟩ : ∃ S, S = senderReceive payload sp sc st.left (.gotPacket
          { opcode := .acknowledgement, blockNumber := wireBlockNumber m.absolute }) := ⟨_, rfl⟩
      obtain ⟨hla, hhs, hout, hdone⟩ := senderReceive_resolved h.inv.safe.sender
        (hf.sender_bound hsq) hdup hret hresolved hS
      rw [dataSender_receive hret (h.inv.acks m hmem).2, ← hS, hrest₁] at hinv' ⊢
      refine ⟨⟨hinv', ?_, h.delivered_le, ?_, horder.2, hdone, h.receiver_done, ?_⟩, hless⟩
      · have htags : ((dataSender payload sp sc).tagged S.2).map PeerLoop.Tagged.absolute =
            S.2 := by
          simp [PeerLoop.tagged, Function.comp_def]
        rw [List.map_append, h.data_eq, htags, hout]
        exact indexRange_append (by omega) hhs
      · rw [hla]
        exact horder.1
      · rw [hla, hlast]
        exact h.counted

variable (hblock : rp.blockSize = sp.blockSize)

include hblock

/-- **The delivery of a DATA packet continues the recovery.** -/
theorem recovering_data {senderPeer receiverPeer : Endpoint} {delivered : ℕ}
    {st : Duplex.State SenderState ReceiverState PeerLoop.Tagged PeerLoop.Tagged}
    (h : Recovering payload sp rp sc delivered st)
    {st' : Duplex.State SenderState ReceiverState PeerLoop.Tagged PeerLoop.Tagged}
    (hstep : Duplex.step ((dataSender payload sp sc).party senderPeer)
      ((dataReceiver rp rc).party receiverPeer) st (.receiveRight 0) = some st') :
    Recovering payload sp rp sc (delivered + 1) st' ∧
      remaining (senderTotalBlocks payload sp sc) (delivered + 1) st'.toLeft <
        remaining (senderTotalBlocks payload sp sc) delivered st.toLeft := by
  have htotal := hf.total_eq hsq
  have hsent := h.inv.safe.sender.sent_le
  have hlis := h.inv.safe.received_le
  have hdelivered := h.delivered_le
  have hinv' := recovering_inv hf hsq hdup hrq hw hblocks h hstep
  obtain ⟨m, hm, rfl⟩ := Option.map_eq_some_iff.1 hstep
  obtain ⟨rest, hrest⟩ := Duplex.exists_cons_of_getElem?_zero hm
  have hmem : m ∈ st.toRight := List.mem_of_getElem? hm
  -- the packet delivered is the block after `delivered`
  have hdata := h.data_eq
  have hlt : delivered + 1 ≤ st.left.highestSent := by
    by_contra hgt
    rw [indexRange_eq_nil (by omega), hrest] at hdata
    exact List.cons_ne_nil _ _ hdata
  rw [hrest, List.map_cons, indexRange_eq_cons hlt] at hdata
  obtain ⟨hm₁, hrest₁⟩ := List.cons.inj hdata
  rw [dataReceiver_receive (h.inv.data m hmem).2.2, hm₁] at hinv' ⊢
  obtain ⟨R, hR⟩ : ∃ R, R = receiverReceive rp rc st.right (.gotPacket
      { opcode := .data, blockNumber := wireBlockNumber (delivered + 1),
        data := blockPayload payload (delivered + 1) sp.blockSize }) := ⟨_, rfl⟩
  obtain ⟨hreached, hdone, hack⟩ := counted_data hrq (h.inv.safe.receiver_bound hf hsq)
    (fun hp => (h.inv.safe.receiving hp).2) rfl rfl hdelivered (by omega)
    (fun hfin => by rw [h.inv.safe.final_total hf hblock hsq hfin]; omega) h.receiver_done
    h.counted hR
  rw [← hR] at hinv' ⊢
  have hheld := hinv'.safe.acked_le
  have htail : (st.toRight.eraseIdx 0).map PeerLoop.Tagged.absolute =
      indexRange (delivered + 1 + 1) st.left.highestSent := by
    rw [hrest, List.eraseIdx_cons_zero, hrest₁]
  -- the receiver acknowledges its position, or counts one more block
  rcases hack with hout | ⟨hout, hcount⟩
  · rw [hout] at hinv' ⊢
    refine ⟨⟨hinv', htail, hreached, ?_, ?_, h.sender_done, hdone, Or.inr ?_⟩, ?_⟩
    · intro m' hm'
      rcases List.mem_append.1 hm' with hm' | hm'
      · exact h.acks_recent m' hm'
      · rw [List.mem_singleton.1 hm']
        exact hheld
    · refine List.pairwise_append.2 ⟨h.acks_order, List.pairwise_singleton _ _, ?_⟩
      intro a ha b hb
      rw [List.mem_singleton.1 hb]
      exact (hinv'.acks a (List.mem_append_left _ ha)).1
    · simp only [PeerLoop.tagged, List.map_cons, List.map_nil, lastAckSent_append]
      omega
    · simp only [remaining, PeerLoop.tagged, List.map_cons, List.map_nil, List.length_append,
        List.length_singleton]
      omega
  · rw [hout] at hinv' ⊢
    simp only [PeerLoop.tagged, List.map_nil, List.append_nil] at hinv' ⊢
    refine ⟨⟨hinv', htail, hreached, h.acks_recent, h.acks_order, h.sender_done, hdone,
      Or.inr hcount⟩, ?_⟩
    simp only [remaining]
    omega

/-- **A loss-free run continues the recovery**, and every delivery uses up some of the stock. -/
theorem recovering_run {senderPeer receiverPeer : Endpoint} {schedule : List Duplex.Label}
    (hall : ∀ l ∈ schedule, l.Lossless) :
    ∀ {delivered : ℕ}
      {st st' : Duplex.State SenderState ReceiverState PeerLoop.Tagged PeerLoop.Tagged},
      Recovering payload sp rp sc delivered st →
      Duplex.run ((dataSender payload sp sc).party senderPeer)
        ((dataReceiver rp rc).party receiverPeer) st schedule = some st' →
      ∃ delivered', Recovering payload sp rp sc delivered' st' ∧
        schedule.length + remaining (senderTotalBlocks payload sp sc) delivered' st'.toLeft ≤
          remaining (senderTotalBlocks payload sp sc) delivered st.toLeft := by
  induction schedule with
  | nil =>
      intro delivered st st' h hrun
      cases Option.some.inj hrun
      exact ⟨delivered, h, by simp⟩
  | cons l schedule ih =>
      intro delivered st st' h hrun
      obtain ⟨t, ht, hrest⟩ := Option.bind_eq_some_iff.1 hrun
      have hl := hall l (by simp)
      have hall' : ∀ l' ∈ schedule, l'.Lossless := fun l' hl' =>
        hall l' (List.mem_cons_of_mem _ hl')
      have hone : ∃ delivered', Recovering payload sp rp sc delivered' t ∧
          remaining (senderTotalBlocks payload sp sc) delivered' t.toLeft <
            remaining (senderTotalBlocks payload sp sc) delivered st.toLeft := by
        cases l with
        | receiveRight i =>
            cases hl
            exact ⟨_, recovering_data hf hsq hdup hrq hw hblocks hblock h ht⟩
        | receiveLeft i =>
            cases hl
            exact ⟨_, recovering_ack hf hsq hdup hrq hw hblocks h ht⟩
        | _ => exact absurd hl id
      obtain ⟨d, hd, hless⟩ := hone
      obtain ⟨d', hd', hle⟩ := ih hall' hd hrest
      refine ⟨d', hd', ?_⟩
      rw [List.length_cons]
      omega

end Run

/-! ### From the timeout to the end -/

/-- **The sender's timeout starts a recovery** when nothing is in transit. -/
theorem recovering_timeout (hf : Framed payload sp rp)
    (hsq : sc.quirks.omitTerminatingEmptyBlock = false)
    (hdup : sc.quirks.retransmitOnDuplicateAck = false) (senderPeer : Endpoint)
    {st : Duplex.State SenderState ReceiverState PeerLoop.Tagged PeerLoop.Tagged}
    (h : DataPlaneInv payload sp rp sc st) (hright : st.toRight = []) (hleft : st.toLeft = [])
    (hrun : st.left.returned = false) (hrecv : st.right.phase ≠ .returned)
    (hbudget : st.left.consecutiveTimeouts < sc.maximumRetransmissions) :
    Recovering payload sp rp sc st.left.lastAcked
      { st with
        left := (((dataSender payload sp sc).party senderPeer).timeout st.left).1
        toRight := st.toRight ++
          (((dataSender payload sp sc).party senderPeer).timeout st.left).2 } := by
  obtain ⟨hout, hstate⟩ := senderReceive_timedOut h.safe.sender (hf.sender_bound hsq) hrun hbudget
  have hack : ∀ packet, ReceiveStatus.timedOut = .gotPacket packet →
      packet.opcode = .acknowledgement → resolveAckToAbsolute packet.blockNumber
        st.left.lastAcked st.left.highestSent ≤ st.right.lastInSequence :=
    fun _ hp => ReceiveStatus.noConfusion hp
  have hinv := dataPlaneInv_sender hf hsq hdup h hrun hack (fun _ hm => hm)
  have htags : ((dataSender payload sp sc).tagged
      (senderReceive payload sp sc st.left .timedOut).2).map PeerLoop.Tagged.absolute =
        indexRange (st.left.lastAcked + 1) st.left.highestSent := by
    rw [hout]
    simp [PeerLoop.tagged, Function.comp_def]
  have hacked := h.safe.acked_le
  rw [PeerLoop.party_timeout hrun]
  refine ⟨hinv, ?_, hacked, ?_, ?_, ?_, fun hret => absurd hret hrecv, ?_⟩
  · rw [hright, List.nil_append]
    refine htags.trans ?_
    exact congrArg (indexRange _) (congrArg SenderState.highestSent hstate).symm
  · simp [hleft]
  · simp [hleft]
  · intro hret
    have hret' : st.left.returned = true := (congrArg SenderState.returned hstate).symm.trans hret
    exact absurd (hret'.symm.trans hrun) (by decide)
  · have hla : (senderReceive payload sp sc st.left .timedOut).1.lastAcked = st.left.lastAcked := by
      rw [hstate]
    rcases Nat.lt_or_ge st.left.lastAcked st.right.lastInSequence with hlt | hge
    · exact Or.inl ⟨hlt, hrecv⟩
    · right
      simp only [hleft]
      show _ ≤ lastAckSent (senderReceive payload sp sc st.left .timedOut).1.lastAcked [] + _
      rw [hla]
      exact le_trans hge (Nat.le_add_right _ _)

/-- **A recovery ends complete**: when nothing is left in transit both sides have the whole
transfer. -/
theorem Recovering.complete (hf : Framed payload sp rp) (hblock : rp.blockSize = sp.blockSize)
    (hsq : sc.quirks.omitTerminatingEmptyBlock = false) (hwindow : rp.windowSize = sp.windowSize)
    {delivered : ℕ} {st : Duplex.State SenderState ReceiverState PeerLoop.Tagged PeerLoop.Tagged}
    (h : Recovering payload sp rp sc delivered st) (hright : st.toRight = [])
    (hleft : st.toLeft = []) :
    st.left.outcome.completedSuccessfully = true ∧ st.right.gotFinal = true ∧
      st.right.sink = payload := by
  have hsent := h.inv.safe.sender.sent_le
  have hacked := h.inv.safe.acked_le
  have hlis := h.inv.safe.received_le
  -- every block sent has been delivered
  have hall : st.left.highestSent ≤ delivered := by
    have hdata := congrArg List.length h.data_eq
    rw [hright] at hdata
    simp only [List.map_nil, List.length_nil, length_indexRange] at hdata
    omega
  have hdelivered := h.delivered_le
  have hcount : st.right.lastInSequence ≤ st.left.lastAcked + st.right.unacknowledged := by
    have hcounted := h.counted
    rw [hleft] at hcounted
    rcases hcounted with ⟨hlt, -⟩ | hle
    · omega
    · exact hle
  have hfinal : st.right.gotFinal = true := by
    by_contra hnot
    have hnotfinal : st.right.gotFinal = false := by simpa using hnot
    have hphase : st.right.phase = .receiving := by
      cases hp : st.right.phase with
      | receiving => rfl
      | dallying dally => simp [ReceiverState.gotFinal, hp] at hnotfinal
      | returned => exact absurd (h.receiver_done hp) hnot
    obtain ⟨hlt, hsince, -⟩ := h.inv.safe.receiving hphase
    simp only [ReceiverState.unacknowledged, hnotfinal, Bool.false_eq_true, if_false] at hcount
    -- a sender with blocks left would have a full window beyond its last ACK
    cases hret : st.left.returned with
    | true =>
        have hdone := h.inv.safe.sender.completed (h.sender_done hret)
        omega
    | false =>
        obtain ⟨-, hfull, -⟩ := h.inv.safe.sender.waiting hret
        have hwin : receiverWindow rp = senderWindow sp := by
          rw [receiverWindow, senderWindow, hwindow]
        omega
  have hlast := h.inv.safe.final_total hf hblock hsq hfinal
  simp only [ReceiverState.unacknowledged, hfinal, if_true] at hcount
  have hret : st.left.returned = true := by
    by_contra hnot
    obtain ⟨hlt, -⟩ := h.inv.safe.sender.waiting (by simpa using hnot)
    omega
  exact ⟨h.sender_done hret, hfinal, h.inv.safe.final_whole hf hsq hfinal⟩

/-- **One timeout recovers from any loss.**  Take any state that a correct sender and a correct
receiver with the same block size and window reach over lossy, repeating and reordering links, with
both still running, nothing in transit and the sender's retry budget not exhausted.  After one
timeout of the sender, a run in which every datagram is delivered once and in order, and nobody
times out, has a bounded length; it can go on as long as the transfer is not complete, and where it
cannot, the sender has completed and the receiver has accepted the final block of the whole
payload. -/
theorem recovery_after_timeout (hsq : sc.quirks = {}) (hrq : rc.quirks = {})
    (hb : 1 ≤ sp.blockSize) (hw' : sp.windowSize ≤ 65535)
    (hblock : rp.blockSize = sp.blockSize) (hwindow : rp.windowSize = sp.windowSize)
    (hblocks : payload.length / sp.blockSize + 1 ≤ 65535) {senderPeer receiverPeer : Endpoint}
    {startingDataPacketsSent : ℕ} {schedule : List Duplex.Label}
    {st : Duplex.State SenderState ReceiverState PeerLoop.Tagged PeerLoop.Tagged}
    (h : Duplex.run ((dataSender payload sp sc).party senderPeer)
      ((dataReceiver rp rc).party receiverPeer)
      (dataPlaneStart payload sp rp sc rc startingDataPacketsSent) schedule = some st)
    (hright : st.toRight = []) (hleft : st.toLeft = []) (hrun : st.left.returned = false)
    (hrecv : st.right.phase ≠ .returned)
    (hbudget : st.left.consecutiveTimeouts < sc.maximumRetransmissions) :
    ∃ st₁, Duplex.step ((dataSender payload sp sc).party senderPeer)
        ((dataReceiver rp rc).party receiverPeer) st .timeoutLeft = some st₁ ∧
      ∀ lossless st₂, (∀ l ∈ lossless, l.Lossless) →
        Duplex.run ((dataSender payload sp sc).party senderPeer)
          ((dataReceiver rp rc).party receiverPeer) st₁ lossless = some st₂ →
        lossless.length ≤
            2 * (totalBlockCount payload.length sp.blockSize - st.left.lastAcked) ∧
          ((∃ l, l.Lossless ∧ (Duplex.step ((dataSender payload sp sc).party senderPeer)
              ((dataReceiver rp rc).party receiverPeer) st₂ l).isSome = true) ∨
            st₂.left.outcome.completedSuccessfully = true ∧ st₂.right.gotFinal = true ∧
              st₂.right.sink = payload) := by
  have hf : Framed payload sp rp := Framed.of_agreed hb hblock hwindow (by omega)
  have homit : sc.quirks.omitTerminatingEmptyBlock = false := by rw [hsq]
  have hdup : sc.quirks.retransmitOnDuplicateAck = false := by rw [hsq]
  have hout : rc.quirks.acceptOutOfSequenceData = false := by rw [hrq]
  have htotal : senderTotalBlocks payload sp sc = totalBlockCount payload.length sp.blockSize := by
    rw [hf.total_eq homit, totalBlockCount_eq (by omega)]
  have hinv := dataPlaneInv_run hf homit hdup hout hw' hblocks h
  have hstart := recovering_timeout hf homit hdup senderPeer hinv hright hleft hrun hrecv hbudget
  refine ⟨_, rfl, ?_⟩
  intro lossless st₂ hall hrun₂
  obtain ⟨delivered, hrec, hlen⟩ :=
    recovering_run hf homit hdup hout hw' hblocks hblock hall hstart hrun₂
  refine ⟨?_, ?_⟩
  · rw [htotal] at hlen
    simp only [remaining, hleft, List.length_nil] at hlen
    omega
  · cases hdata : st₂.toRight with
    | cons m rest =>
        exact Or.inl ⟨.receiveRight 0, rfl, by simp [Duplex.step, hdata]⟩
    | nil =>
        cases hacks : st₂.toLeft with
        | cons m rest =>
            exact Or.inl ⟨.receiveLeft 0, rfl, by simp [Duplex.step, hacks]⟩
        | nil => exact Or.inr (hrec.complete hf hblock homit hwindow hdata hacks)

/-- The ACK of the only block of a transfer is lost: two deliveries after the timeout are enough. -/
theorem recovery_after_timeout_one_block :
    ∃ st, Duplex.run ((dataSender [7] { blockSize := 2 } {}).party ⟨false, [], 2⟩)
        ((dataReceiver { blockSize := 2 } {}).party ⟨false, [], 1⟩)
        (dataPlaneStart [7] { blockSize := 2 } { blockSize := 2 } {} {} 0)
        [.receiveRight 0, .dropLeft 0] = some st ∧
      ∃ st₁, Duplex.step ((dataSender [7] { blockSize := 2 } {}).party ⟨false, [], 2⟩)
          ((dataReceiver { blockSize := 2 } {}).party ⟨false, [], 1⟩) st .timeoutLeft = some st₁ ∧
        ∀ lossless st₂, (∀ l ∈ lossless, l.Lossless) →
          Duplex.run ((dataSender [7] { blockSize := 2 } {}).party ⟨false, [], 2⟩)
            ((dataReceiver { blockSize := 2 } {}).party ⟨false, [], 1⟩) st₁ lossless = some st₂ →
          lossless.length ≤ 2 := by
  refine ⟨_, rfl, ?_⟩
  obtain ⟨st₁, hst₁, hrec⟩ :=
    @recovery_after_timeout [7] { blockSize := 2 } { blockSize := 2 } {} {}
    rfl rfl (by decide) (by decide) rfl rfl (by decide) ⟨false, [], 2⟩ ⟨false, [], 1⟩ 0
    [.receiveRight 0, .dropLeft 0] _ rfl rfl rfl rfl (by decide) (by decide)
  exact ⟨st₁, hst₁, fun lossless st₂ hall hrun => (hrec lossless st₂ hall hrun).1⟩

end TftpHarness
