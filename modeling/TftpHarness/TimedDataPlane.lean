/-
**The data plane in virtual time.**

`run_data_sender` and `run_data_receiver` wait on sockets whose receive timeout is the engine's
retransmission timeout; the receiver shortens it for its closing dally.  Their reactions are those
of the untimed model.  What is added here is what the two do when nothing wraps around, when a
count wraps around at `2 ^ 32`, and when a receive times out, for payloads of any length.

Main definitions:

* `TftpHarness.PeerLoop.timed` — a loop around the locked receive as a party in virtual time;
* `TftpHarness.timedSender`, `TftpHarness.timedReceiver` — **the two functions on their sockets**;
* `TftpHarness.NeverFinal` — a sender that will not send the final block;
* `TftpHarness.receivesLeft` — how long a closing receiver goes on.

Main results:

* `TftpHarness.senderLoop_nextWindow` — the next window, or nothing when its edge wraps around;
* `TftpHarness.NeverFinal.receive` — a sender that never gets to the final block never does;
* `TftpHarness.receiverReceive_dallying` — a dallying receiver repeats its last ACK.
-/

import TftpHarness.DataPlane
import TftpHarness.VirtualTime

set_option relaxedAutoImplicit false
set_option autoImplicit false

namespace TftpHarness

/-! ### The two functions in virtual time -/

namespace PeerLoop

variable {σ : Type*} (loop : PeerLoop σ ℕ) (peer : Endpoint) (datagram : ℕ → Bytes)
  (patience : σ → ℕ)

/-- The loop as a party in virtual time.  A datagram is named by the index it was sent for; what is
read of it are its bytes. -/
def timed : VirtualTime.Party σ ℕ ℕ where
  receive s i := Prod.map id (List.map Tagged.absolute)
    ((loop.party peer).receive s ⟨i, datagram i⟩)
  timeout s := Prod.map id (List.map Tagged.absolute) ((loop.party peer).timeout s)
  returned := loop.returned
  patience := patience

theorem map_absolute_tagged (sends : List ℕ) :
    (loop.tagged sends).map Tagged.absolute = sends := by
  simp [tagged, List.map_map, Function.comp_def]

variable {loop peer datagram patience} {s : σ}

/-- A well-formed datagram reaches the loop as its packet. -/
theorem timed_receive {i : ℕ} {packet : TftpPacket} (hrun : loop.returned s = false)
    (hne : datagram i ≠ []) (hp : parseDatagram (datagram i) = .ok packet) :
    (loop.timed peer datagram patience).receive s i = loop.receive s (.gotPacket packet) := by
  have hreceive := @party_receive σ loop peer s ⟨i, datagram i⟩ packet hrun hne hp
  simp only [timed, hreceive, Prod.map, id_eq, map_absolute_tagged]

theorem timed_timeout (hrun : loop.returned s = false) :
    (loop.timed peer datagram patience).timeout s = loop.receive s .timedOut := by
  simp only [timed, party_timeout hrun, Prod.map, id_eq, map_absolute_tagged]

end PeerLoop

/-- The receive timeout of the closing dally, in milliseconds. -/
def dallyTimeout : ℕ := 150

section System

variable (payload : Bytes) (params : NegotiatedParameters) (config : EngineConfig)
  (retransmissionTimeout : ℕ) (senderPeer receiverPeer : Endpoint)

/-- `run_data_sender` on a socket with the retransmission timeout. -/
def timedSender : VirtualTime.Party SenderState ℕ ℕ :=
  (dataSender payload params config).timed senderPeer ackDatagram fun _ => retransmissionTimeout

/-- `run_data_receiver` on a socket with the retransmission timeout, until it dallies. -/
def timedReceiver : VirtualTime.Party ReceiverState ℕ ℕ :=
  (dataReceiver params config).timed receiverPeer (dataDatagram payload params) fun r =>
    match r.phase with
    | .dallying _ => dallyTimeout
    | _ => retransmissionTimeout

/-- The packet of a DATA datagram. -/
def blockPacket (i : ℕ) : TftpPacket :=
  { opcode := .data, blockNumber := wireBlockNumber i
    data := blockPayload payload i params.blockSize }

/-- The packet of an ACK datagram. -/
def ackPacket (i : ℕ) : TftpPacket :=
  { opcode := .acknowledgement, blockNumber := wireBlockNumber i }

end System

variable {payload : Bytes} {params : NegotiatedParameters} {config : EngineConfig}
  {retransmissionTimeout : ℕ} {senderPeer receiverPeer : Endpoint}

theorem timedSender_receive {s : SenderState} (hrun : s.returned = false) (a : ℕ) :
    (timedSender payload params config retransmissionTimeout senderPeer).receive s a =
      senderReceive payload params config s (.gotPacket (ackPacket a)) :=
  PeerLoop.timed_receive hrun (ackDatagram_ne_nil a) (parse_ackDatagram a)

theorem timedReceiver_receive {r : ReceiverState} (hrun : r.phase ≠ .returned) (i : ℕ) :
    (timedReceiver payload params config retransmissionTimeout receiverPeer).receive r i =
      receiverReceive params config r (.gotPacket (blockPacket payload params i)) :=
  PeerLoop.timed_receive (decide_eq_false hrun) (dataDatagram_ne_nil payload params i)
    (parse_dataDatagram payload params i)

theorem timedSender_timeout {s : SenderState} (hrun : s.returned = false) :
    (timedSender payload params config retransmissionTimeout senderPeer).timeout s =
      senderReceive payload params config s .timedOut :=
  PeerLoop.timed_timeout hrun

theorem timedReceiver_timeout {r : ReceiverState} (hrun : r.phase ≠ .returned) :
    (timedReceiver payload params config retransmissionTimeout receiverPeer).timeout r =
      receiverReceive params config r .timedOut :=
  PeerLoop.timed_timeout (decide_eq_false hrun)

/-! ### What the sender does -/

section Sender

variable {s : SenderState}

/-- The number of blocks of a payload, however large. -/
def blockCount (payload : Bytes) (params : NegotiatedParameters) : ℕ :=
  payload.length / params.blockSize + 1

/-- The loop of a sender whose blocks have all been acknowledged sends the next window, unless its
edge does not fit 32 bits: then it sends nothing. -/
theorem senderLoop_nextWindow (htotal : senderTotalBlocks payload params config + 1 < 4294967296)
    (hw : params.windowSize ≤ 65535) (haction : s.action = .sendNew)
    (hall : s.lastAcked = s.highestSent)
    (hlt : s.lastAcked < senderTotalBlocks payload params config) :
    (senderLoop payload params config s).1.returned = s.returned ∧
      (senderLoop payload params config s).1.consecutiveTimeouts = s.consecutiveTimeouts ∧
      (senderLoop payload params config s).1.outcome.completedSuccessfully =
        s.outcome.completedSuccessfully ∧
      (senderLoop payload params config s).1.lastAcked = s.lastAcked ∧
      ((senderLoop payload params config s).1.highestSent =
          min (s.lastAcked + senderWindow params) (senderTotalBlocks payload params config) ∧
        (senderLoop payload params config s).2 =
          indexRange (s.lastAcked + 1) (senderLoop payload params config s).1.highestSent ∨
      (senderLoop payload params config s).1.highestSent = s.lastAcked ∧
        (senderLoop payload params config s).2 = []) := by
  have hpos := senderWindow_pos params
  have hwin : senderWindow params ≤ 65535 := max_le hw (by decide)
  have hnext : u32 (s.lastAcked + 1) = s.lastAcked + 1 := u32_of_lt (by omega)
  simp only [senderLoop, hlt, if_true, haction, ← hall, hnext, true_and]
  by_cases hfits : s.lastAcked + senderWindow params < 4294967296
  · left
    rw [u32_of_lt hfits, max_eq_right (by omega)]
    exact ⟨rfl, rfl⟩
  · right
    have hedge : u32 (s.lastAcked + senderWindow params) =
        s.lastAcked + senderWindow params - 4294967296 := by
      unfold u32
      omega
    rw [hedge]
    exact ⟨max_eq_left (by omega), indexRange_eq_nil (by omega)⟩

/-- The ACK of the highest block moves the window to it. -/
theorem senderReceive_highest (hlt : s.lastAcked < s.highestSent)
    (hnear : s.highestSent ≤ s.lastAcked + 65535) :
    senderReceive payload params config s (.gotPacket (ackPacket s.highestSent)) =
      senderLoop payload params config
        { s with lastAcked := s.highestSent, consecutiveTimeouts := 0, action := .sendNew } := by
  have hresolve : resolveAckToAbsolute (wireBlockNumber s.highestSent) s.lastAcked s.highestSent =
      s.highestSent := by
    rw [resolveAckToAbsolute_exact (by omega) (by omega), if_pos ⟨hlt, le_refl _⟩]
  simp [senderReceive, ackPacket, hresolve, hlt]

/-- The ACK of the last block ends the transfer. -/
theorem senderReceive_last (hlt : s.lastAcked < s.highestSent)
    (hnear : s.highestSent ≤ s.lastAcked + 65535)
    (hlast : s.highestSent = senderTotalBlocks payload params config) :
    (senderReceive payload params config s (.gotPacket (ackPacket s.highestSent))).1.returned =
        true ∧
      (senderReceive payload params config s
        (.gotPacket (ackPacket s.highestSent))).1.outcome.completedSuccessfully = true := by
  rw [senderReceive_highest hlt hnear]
  simp [senderLoop, hlast]

/-- A timeout within the retry budget sends the blocks in flight again. -/
theorem senderReceive_resends
    (hbudget : s.consecutiveTimeouts + 1 ≤ config.maximumRetransmissions)
    (hlt : s.lastAcked < senderTotalBlocks payload params config)
    (hbound : s.lastAcked + 1 < 4294967296) :
    (senderReceive payload params config s .timedOut).2 =
        indexRange (s.lastAcked + 1) s.highestSent ∧
      (senderReceive payload params config s .timedOut).1.returned = s.returned ∧
      (senderReceive payload params config s .timedOut).1.lastAcked = s.lastAcked ∧
      (senderReceive payload params config s .timedOut).1.highestSent = s.highestSent := by
  have hwithin : ¬ config.maximumRetransmissions < s.consecutiveTimeouts + 1 := by omega
  simp [senderReceive, hwithin, senderLoop, hlt, u32_of_lt hbound]

/-- A timeout never completes a transfer with blocks left. -/
theorem senderReceive_timedOut_unfinished
    (hlt : s.lastAcked < senderTotalBlocks payload params config) :
    (senderReceive payload params config s .timedOut).1.lastAcked = s.lastAcked ∧
      (senderReceive payload params config s .timedOut).1.outcome.completedSuccessfully =
        s.outcome.completedSuccessfully := by
  by_cases hgive : config.maximumRetransmissions < s.consecutiveTimeouts + 1
  · simp [senderReceive, hgive]
  · simp [senderReceive, hgive, senderLoop, hlt]

end Sender

/-! ### Senders that never get to the final block -/

section NeverFinal

variable (payload params) in
/-- Blocks that are as long as a block can be. -/
def FullBlocks (blocks : List ℕ) : Prop :=
  ∀ i ∈ blocks, params.blockSize ≤ (blockPayload payload i params.blockSize).length

variable (payload params config) in
/-- A sender that will not send the final block: it has returned, its window cannot move on in 32
bits, or it counts the blocks of the payload modulo `2 ^ 32`. -/
inductive NeverFinal (s : SenderState) : Prop
  | returned (h : s.returned = true) : NeverFinal s
  | stuck (same : s.lastAcked = s.highestSent) (small : s.lastAcked + 1 < 4294967296) : NeverFinal s
  | wrapped (many : 4294967296 ≤ blockCount payload params)
      (sent : s.highestSent ≤ senderTotalBlocks payload params config) : NeverFinal s

theorem fullBlocks_nil : FullBlocks payload params [] := fun _ h => absurd h List.not_mem_nil

/-- Of `2 ^ 32` blocks or more, those with an index below are full. -/
theorem fullBlocks_of_lt (hb : 1 ≤ params.blockSize)
    (hmany : 4294967296 ≤ blockCount payload params) {blocks : List ℕ}
    (hblocks : ∀ i ∈ blocks, 1 ≤ i ∧ i < 4294967296) : FullBlocks payload params blocks := by
  intro i hi
  obtain ⟨hpos, hlt⟩ := hblocks i hi
  rw [blockCount] at hmany
  by_contra hshort
  have hlast := (@length_blockPayload_lt_iff payload _ _ hb hpos (by omega) hlt).1 (by omega)
  omega

variable {s : SenderState}

/-- A sender that is stuck sends nothing as long as its window does not move. -/
theorem senderLoop_stuck (hsame : s.lastAcked = s.highestSent)
    (hsmall : s.lastAcked + 1 < 4294967296) (haction : s.action ≠ .sendNew) :
    NeverFinal payload params config (senderLoop payload params config s).1 ∧
      (senderLoop payload params config s).2 = [] := by
  by_cases hlt : s.lastAcked < senderTotalBlocks payload params config
  · cases hact : s.action with
    | sendNew => exact absurd hact haction
    | rollback =>
        simp only [senderLoop, hlt, if_true, hact, u32_of_lt hsmall]
        exact ⟨.stuck hsame hsmall, indexRange_eq_nil (by omega)⟩
    | waitOnly =>
        simp only [senderLoop, hlt, if_true, hact]
        exact ⟨.stuck hsame hsmall, trivial⟩
  · simp only [senderLoop, hlt, if_false]
    exact ⟨.returned rfl, trivial⟩

/-- A sender that counts modulo `2 ^ 32` sends blocks up to its count. -/
theorem senderLoop_wrapped (htotal : senderTotalBlocks payload params config + 1 < 4294967296)
    (hsent : s.highestSent ≤ senderTotalBlocks payload params config) :
    (senderLoop payload params config s).1.highestSent ≤ senderTotalBlocks payload params config ∧
      ∀ i ∈ (senderLoop payload params config s).2, 1 ≤ i ∧ i < 4294967296 := by
  by_cases hlt : s.lastAcked < senderTotalBlocks payload params config
  · cases hact : s.action with
    | sendNew =>
        simp only [senderLoop, hlt, if_true, hact,
          u32_of_lt (by omega : s.highestSent + 1 < 4294967296)]
        refine ⟨by omega, fun i hi => ?_⟩
        rw [mem_indexRange] at hi
        omega
    | rollback =>
        simp only [senderLoop, hlt, if_true, hact,
          u32_of_lt (by omega : s.lastAcked + 1 < 4294967296)]
        refine ⟨hsent, fun i hi => ?_⟩
        rw [mem_indexRange] at hi
        omega
    | waitOnly =>
        simp only [senderLoop, hlt, if_true, hact]
        exact ⟨hsent, fun i hi => absurd hi List.not_mem_nil⟩
  · simp only [senderLoop, hlt, if_false]
    exact ⟨hsent, fun i hi => absurd hi List.not_mem_nil⟩

/-- After a timeout or an ACK a correct sender has given up, or goes on: with new blocks only after
an ACK of blocks it has sent and that were not acknowledged yet. -/
theorem senderReceive_goesOn (hq : config.quirks = {}) {status : ReceiveStatus}
    (hstatus : status = .timedOut ∨ ∃ a, status = .gotPacket (ackPacket a)) :
    (senderReceive payload params config s status).1.returned = true ∧
        (senderReceive payload params config s status).2 = [] ∨
      ∃ s' : SenderState,
        senderReceive payload params config s status = senderLoop payload params config s' ∧
          s'.highestSent = s.highestSent ∧
          (s'.lastAcked = s.lastAcked ∧ s'.action ≠ .sendNew ∨
            s.lastAcked < s'.lastAcked ∧ s'.lastAcked ≤ s.highestSent) := by
  rcases hstatus with rfl | ⟨a, rfl⟩
  · by_cases hgive : config.maximumRetransmissions < s.consecutiveTimeouts + 1
    · rw [senderReceive, if_pos hgive]
      exact Or.inl ⟨rfl, rfl⟩
    · rw [senderReceive, if_neg hgive]
      exact Or.inr ⟨_, rfl, rfl, Or.inl ⟨rfl, Action.noConfusion⟩⟩
  · simp only [senderReceive, ackPacket, hq, reduceCtorEq, if_false, ne_eq, not_true_eq_false]
    rcases resolveAckToAbsolute_spec (wireBlockNumber a) s.lastAcked s.highestSent with
      hstale | ⟨hnew, hsent, -⟩
    · rw [hstale]
      simp only [Nat.lt_irrefl, if_false]
      exact Or.inr ⟨_, rfl, rfl, Or.inl ⟨rfl, Action.noConfusion⟩⟩
    · simp only [hnew, if_true]
      exact Or.inr ⟨_, rfl, rfl, Or.inr ⟨hnew, hsent⟩⟩

/-- **A sender that never gets to the final block** sends full blocks only, and never gets there
later. -/
theorem NeverFinal.receive (hq : config.quirks = {}) (hb : 1 ≤ params.blockSize)
    (htotal : senderTotalBlocks payload params config + 1 < 4294967296)
    (h : NeverFinal payload params config s) (hrun : s.returned = false) {status : ReceiveStatus}
    (hstatus : status = .timedOut ∨ ∃ a, status = .gotPacket (ackPacket a)) :
    NeverFinal payload params config (senderReceive payload params config s status).1 ∧
      FullBlocks payload params (senderReceive payload params config s status).2 := by
  rcases senderReceive_goesOn hq hstatus with ⟨hret, hnone⟩ | ⟨s', heq, hsame', hacked⟩
  · exact ⟨.returned hret, hnone ▸ fullBlocks_nil⟩
  rw [heq]
  cases h with
  | returned hret => exact absurd (hrun.symm.trans hret) (by decide)
  | stuck hsame hsmall =>
      -- every block it has sent is acknowledged already
      obtain ⟨hstill, haction⟩ := hacked.resolve_right (by omega)
      obtain ⟨hnever, hnone⟩ :=
        @senderLoop_stuck payload params config s' (by omega) (by omega) haction
      exact ⟨hnever, hnone ▸ fullBlocks_nil⟩
  | wrapped hmany hsent =>
      obtain ⟨hle, hblocks⟩ := @senderLoop_wrapped payload params config s' htotal (by omega)
      exact ⟨.wrapped hmany hle, fullBlocks_of_lt hb hmany hblocks⟩

end NeverFinal

/-! ### What the receiver does -/

section Receiver

variable {r : ReceiverState}

/-- The next block is accepted. -/
theorem receiverReceive_next (hphase : r.phase = .receiving)
    (hbound : r.lastInSequence + 1 < 4294967296) (hsince : r.blocksSinceAck + 1 < 4294967296) :
    receiverReceive params config r
        (.gotPacket (blockPacket payload params (r.lastInSequence + 1))) =
      acceptNext params r (blockPayload payload (r.lastInSequence + 1) params.blockSize) := by
  rw [receiverReceive_gotPacket hphase]
  exact receiverPacket_accept rfl rfl hbound hsince

/-- Before the final block only a receiver that is still receiving can come to it. -/
theorem receiverReceive_gotFinal (hfinal : r.gotFinal = false) {status : ReceiveStatus}
    (hreceiving : r.phase = .receiving → r.outcome.completedSuccessfully = false →
      (receiverReceive params config r status).1.gotFinal = false) :
    (receiverReceive params config r status).1.gotFinal = false := by
  cases hphase : r.phase with
  | dallying dally => simp [ReceiverState.gotFinal, hphase] at hfinal
  | returned =>
      rw [receiverReceive_returned hphase]
      exact hfinal
  | receiving =>
      exact hreceiving hphase (by simpa [ReceiverState.gotFinal, hphase] using hfinal)

/-- A full block does not end the transfer. -/
theorem receiverReceive_full (hfinal : r.gotFinal = false) {i : ℕ}
    (hfull : params.blockSize ≤ (blockPayload payload i params.blockSize).length) :
    (receiverReceive params config r
      (.gotPacket (blockPacket payload params i))).1.gotFinal = false := by
  have hlong : ¬ (blockPayload payload i params.blockSize).length < params.blockSize := by omega
  refine receiverReceive_gotFinal hfinal fun hphase hcompleted => ?_
  rw [receiverReceive_gotPacket hphase]
  simp only [receiverPacket, blockPacket, reduceCtorEq, if_false, ne_eq, not_true_eq_false,
    hlong, acceptBlock]
  split
  · split <;> simp [ReceiverState.gotFinal, hphase, hcompleted]
  split
  · simp [ReceiverState.gotFinal, hphase, hcompleted]
  split <;> simp [ReceiverState.gotFinal, hphase, hcompleted]

/-- A timeout does not end the transfer before the final block. -/
theorem receiverReceive_timedOut_gotFinal (hfinal : r.gotFinal = false) :
    (receiverReceive params config r .timedOut).1.gotFinal = false := by
  refine receiverReceive_gotFinal hfinal fun hphase hcompleted => ?_
  simp only [receiverReceive, hphase]
  split
  · simpa [ReceiverState.gotFinal] using hcompleted
  · simpa [ReceiverState.gotFinal, hphase] using hcompleted

/-- How many receives a receiver that closes has left. -/
def receivesLeft (r : ReceiverState) : ℕ :=
  match r.phase with
  | .dallying dally => 4 - dally + 1
  | _ => 0

/-- A dallying receiver repeats its last ACK, and dallies on or returns. -/
theorem receiverReceive_dallying {r : ReceiverState} {dally : ℕ} (h : r.phase = .dallying dally)
    (i : ℕ) :
    (receiverReceive params config r (.gotPacket (blockPacket payload params i))).2 =
        [r.lastInSequence] ∧
      (receiverReceive params config r
        (.gotPacket (blockPacket payload params i))).1.lastInSequence = r.lastInSequence ∧
      (receiverReceive params config r (.gotPacket (blockPacket payload params i))).1.phase ≠
        .receiving ∧
      receivesLeft (receiverReceive params config r
        (.gotPacket (blockPacket payload params i))).1 < receivesLeft r := by
  simp only [receiverReceive, h, blockPacket, if_true, true_and]
  split
  · refine ⟨rfl, by simp, ?_⟩
    simp only [receivesLeft, h]
    omega
  · refine ⟨rfl, by simp [receiverFinish], ?_⟩
    simp [receivesLeft, receiverFinish, h]

theorem receivesLeft_le (r : ReceiverState) : receivesLeft r ≤ 5 := by
  unfold receivesLeft
  split <;> omega

end Receiver

end TftpHarness
