/-
**The sender's window against any peer.**

`run_data_sender` takes the number of an ACK from the wire and looks for it among the blocks in
flight.  Whatever numbers a peer sends, partial and stale acknowledgements and rollbacks included,
the window only ever covers blocks that have been sent, and only they go out again.

Main definitions:

* `TftpHarness.SenderHistory`, `TftpHarness.sentBlocks` — histories of the sender, and the blocks a
  history has sent.

Main results:

* `TftpHarness.senderRun_of_history` — a history is a run, burst by burst;
* `TftpHarness.sender_window_discipline` — **the window discipline holds against any peer**.
-/

import TftpHarness.History
import TftpHarness.Retransmission

set_option relaxedAutoImplicit false
set_option autoImplicit false

namespace TftpHarness

/-- A reaction of the sender. -/
abbrev SenderReaction := PeerLoop.Reaction SenderState ℕ

section Histories

variable (payload : Bytes) (params : NegotiatedParameters) (config : EngineConfig)
variable (startingDataPacketsSent : ℕ)

/-- The histories of `run_data_sender` after its first window. -/
abbrev SenderHistory : List SenderReaction → SenderState → Prop :=
  (dataSender payload params config).History
    (senderStart payload params config startingDataPacketsSent).1

/-- The blocks sent in the first window and in a history, in order. -/
def sentBlocks (log : List SenderReaction) : List ℕ :=
  (senderStart payload params config startingDataPacketsSent).2 ++ log.flatMap (·.sent)

/-- The bursts of a history. -/
def burstsOf (log : List SenderReaction) : List Burst :=
  ⟨none, (senderStart payload params config startingDataPacketsSent).2⟩ ::
    log.map fun r => ⟨some r.cause, r.sent⟩

end Histories

section Window

variable {payload : Bytes} {params : NegotiatedParameters} {config : EngineConfig}
  {startingDataPacketsSent : ℕ} {log : List SenderReaction} {s : SenderState}

theorem blocksOf_burstsOf (log : List SenderReaction) :
    blocksOf (burstsOf payload params config startingDataPacketsSent log) =
      sentBlocks payload params config startingDataPacketsSent log := by
  simp [blocksOf, burstsOf, sentBlocks, List.flatMap_map]

/-- **A history is a run.** -/
theorem senderRun_of_history
    (history : SenderHistory payload params config startingDataPacketsSent log s) :
    SenderRun payload params config startingDataPacketsSent
      (burstsOf payload params config startingDataPacketsSent log) s := by
  induction history with
  | start => exact .start
  | @receive log s history hrun status ih =>
      have hrec := ih.receive hrun status
      simpa [burstsOf, PeerLoop.react, dataSender] using hrec

/-- The bytes of a block are a slice of the payload. -/
theorem dataDatagram_eq {i : ℕ} (hi : 1 ≤ i) (hi' : i < 4294967296) :
    dataDatagram payload params i = serializeData (i % 65536)
      ((payload.take (i * params.blockSize)).drop ((i - 1) * params.blockSize)) := by
  obtain ⟨j, rfl⟩ : ∃ j, i = j + 1 := ⟨i - 1, by omega⟩
  rw [dataDatagram, blockPayload_eq hi hi', Nat.add_sub_cancel, List.drop_take, Nat.succ_mul,
    Nat.add_sub_cancel_left]
  rfl

/-- The blocks a receive makes the sender send lie in the window at that moment. -/
theorem sent_mem_window (hinv : SenderInv payload params config s)
    (hbound : senderTotalBlocks payload params config + senderWindow params < 4294967296)
    (hq : config.quirks.retransmitOnDuplicateAck = false) (hrun : s.returned = false)
    {r : SenderState × List ℕ} {status : ReceiveStatus}
    (hr : r = senderReceive payload params config s status) {i : ℕ} (hi : i ∈ r.2) :
    r.1.lastAcked < i ∧
      i ≤ min (r.1.lastAcked + senderWindow params) (senderTotalBlocks payload params config) := by
  have hle := hinv.acked_le
  have hsent := hinv.sent_le
  rcases senderReceive_cases hinv hbound hq hrun hr with
    ⟨hacked, -, -, hnone | ⟨-, hresent⟩⟩ | ⟨packet, -, -, -, hacked, hadv⟩
  · rw [hnone] at hi
    exact absurd hi List.not_mem_nil
  · -- the window in flight once more
    rw [hresent, mem_indexRange] at hi
    omega
  · -- the new blocks of a window that has moved
    have hhighest := hadv.highestSent
    rw [hadv.sent, mem_indexRange] at hi
    rw [hadv.lastAcked]
    omega

/-- A receive never moves the window back, and moves it to a block in flight. -/
theorem lastAcked_receive (hinv : SenderInv payload params config s)
    (hbound : senderTotalBlocks payload params config + senderWindow params < 4294967296)
    (hq : config.quirks.retransmitOnDuplicateAck = false) (hrun : s.returned = false)
    {r : SenderState × List ℕ} {status : ReceiveStatus}
    (hr : r = senderReceive payload params config s status) :
    r.1.lastAcked = s.lastAcked ∨ s.lastAcked < r.1.lastAcked ∧ r.1.lastAcked ≤ s.highestSent := by
  rcases senderReceive_cases hinv hbound hq hrun hr with
    ⟨hacked, -, -, -⟩ | ⟨packet, -, -, hlt, hle, hadv⟩
  · exact Or.inl hacked
  · rw [hadv.lastAcked]
    exact Or.inr ⟨hlt, hle⟩

/-- An ACK for no block in flight changes nothing and triggers nothing. -/
theorem stale_ack_ignored (hinv : SenderInv payload params config s)
    (hbound : senderTotalBlocks payload params config + senderWindow params < 4294967296)
    (hq : config.quirks.retransmitOnDuplicateAck = false) (hrun : s.returned = false)
    {packet : TftpPacket} (hack : packet.opcode = .acknowledgement)
    (hstale : ∀ i, s.lastAcked < i → i ≤ s.highestSent → packet.blockNumber ≠ i % 65536) :
    senderReceive payload params config s (.gotPacket packet) =
      ({ s with action := .waitOnly }, []) := by
  rcases senderReceive_ack hinv hbound hq hrun hack with ⟨-, h⟩ | ⟨hlt, hle, -⟩
  · exact h
  · rcases resolveAckToAbsolute_spec packet.blockNumber s.lastAcked s.highestSent with
      hsame | ⟨-, -, hwire⟩
    · omega
    · exact absurd hwire.symm (hstale _ hlt hle)

/-- **The window discipline of the sender.**  Whatever the peer sends: each DATA datagram is a block
of the window at that moment, with its number and its slice of the payload; a sender that waits has
a full window in flight; the last acknowledged block never decreases and is one that was sent; an
ACK for no block in flight changes nothing and triggers nothing; and success is reported only when
every block is acknowledged.  This holds in every history, and every run on socket events has
one. -/
theorem sender_window_discipline
    (hquirks : config.quirks = {}) (hstarting : startingDataPacketsSent < 4294967296)
    (hwindow : 1 ≤ params.windowSize)
    (hbound : senderTotalBlocks payload params config + params.windowSize < 4294967296) :
    (∀ log s, SenderHistory payload params config startingDataPacketsSent log s →
      (∀ i ∈ (senderStart payload params config startingDataPacketsSent).2,
          0 < i ∧ i ≤ min params.windowSize (senderTotalBlocks payload params config)) ∧
        (∀ r ∈ log, ∀ i ∈ r.sent, r.after.lastAcked < i ∧
          i ≤ min (r.after.lastAcked + params.windowSize)
            (senderTotalBlocks payload params config)) ∧
        (∀ i ∈ sentBlocks payload params config startingDataPacketsSent log,
          (dataSender payload params config).encode i = serializeData (i % 65536)
            ((payload.take (i * params.blockSize)).drop ((i - 1) * params.blockSize))) ∧
        (s.returned = false → s.highestSent =
          min (s.lastAcked + params.windowSize) (senderTotalBlocks payload params config)) ∧
        (∀ before r after, log = before ++ r :: after →
          r.before.lastAcked ≤ r.after.lastAcked ∧ (r.after.lastAcked ≠ r.before.lastAcked →
            r.after.lastAcked ∈
              sentBlocks payload params config startingDataPacketsSent before)) ∧
        (∀ before r after packet, log = before ++ r :: after → r.cause = .gotPacket packet →
          packet.opcode = .acknowledgement →
          (∀ i ∈ sentBlocks payload params config startingDataPacketsSent before,
            r.before.lastAcked < i → packet.blockNumber ≠ i % 65536) →
          r.after = { r.before with action := .waitOnly } ∧ r.sent = []) ∧
        (s.outcome.completedSuccessfully = true →
          s.lastAcked = senderTotalBlocks payload params config)) ∧
      ∀ peer events, ∃ log, (dataSender payload params config).Tells peer
        (senderStart payload params config startingDataPacketsSent) events log := by
  refine ⟨fun log s history => ?_, fun peer events => PeerLoop.exists_history _ peer _ events⟩
  have hw : senderWindow params = params.windowSize := max_eq_left hwindow
  have hq : config.quirks.retransmitOnDuplicateAck = false := by rw [hquirks]
  rw [← hw] at hbound ⊢
  have hledger := senderLedger (senderRun_of_history history) hq hstarting hbound
  have hbefore : ∀ before r after, log = before ++ r :: after →
      SenderLedger payload params config startingDataPacketsSent
        (burstsOf payload params config startingDataPacketsSent before) r.before ∧
      r.before.returned = false ∧ (r.after, r.sent) = senderReceive payload params config r.before
        r.cause := by
    intro before r after hlog
    obtain ⟨hthen, hrun, hr⟩ := history.step hlog
    refine ⟨senderLedger (senderRun_of_history hthen) hq hstarting hbound, hrun, ?_⟩
    rw [hr]
    rfl
  have hmem : ∀ before r after, log = before ++ r :: after → ∀ i,
      i ∈ sentBlocks payload params config startingDataPacketsSent before ↔
        1 ≤ i ∧ i ≤ r.before.highestSent := by
    intro before r after hlog i
    rw [← blocksOf_burstsOf]
    exact (hbefore before r after hlog).1.mem_iff i
  refine ⟨?_, ?_, ?_, fun hrun => (hledger.window.waiting hrun).2.1, ?_, ?_,
    hledger.window.completed⟩
  · -- the first window
    intro i hi
    have hstart := advanced_senderStart startingDataPacketsSent hbound
    have hhighest := hstart.highestSent
    rw [hstart.sent, mem_indexRange] at hi
    simp only [Nat.zero_add] at hi hhighest
    omega
  · intro r hr i hi
    obtain ⟨before, after, hlog⟩ := List.append_of_mem hr
    obtain ⟨hthen, hrun, hreceive⟩ := hbefore before r after hlog
    exact sent_mem_window hthen.window hbound hq hrun hreceive hi
  · intro i hi
    rw [← blocksOf_burstsOf] at hi
    have hrange := (hledger.mem_iff i).1 hi
    have hsent := hledger.window.sent_le
    exact dataDatagram_eq hrange.1 (by omega)
  · intro before r after hlog
    obtain ⟨hthen, hrun, hreceive⟩ := hbefore before r after hlog
    rcases lastAcked_receive hthen.window hbound hq hrun hreceive with hsame | ⟨hlt, hle⟩
    · exact ⟨ge_of_eq hsame, fun hne => absurd hsame hne⟩
    · exact ⟨hlt.le, fun _ =>
        (hmem before r after hlog _).2 ⟨Nat.one_le_of_lt hlt, hle⟩⟩
  · intro before r after packet hlog hcause hack hstale
    obtain ⟨hthen, hrun, hreceive⟩ := hbefore before r after hlog
    have hignored := stale_ack_ignored hthen.window hbound hq hrun hack fun i hlt hle =>
      hstale i ((hmem before r after hlog i).2 ⟨by omega, hle⟩) hlt
    rw [hcause, hignored] at hreceive
    exact Prod.mk.inj hreceive

/-- Three bytes in blocks of two: the ACK of block 1 sends block 2, of which only the third byte is
left, and the same ACK once more sends nothing. -/
theorem sender_window_discipline_three_bytes :
    let ack : ReceiveStatus := .gotPacket { opcode := .acknowledgement, blockNumber := 1 }
    let sender := dataSender [7, 8, 9] { blockSize := 2 } {}
    let first := senderStart [7, 8, 9] { blockSize := 2 } {} 0
    let moved := sender.receive first.1 ack
    let stale := sender.receive moved.1 ack
    sentBlocks [7, 8, 9] { blockSize := 2 } {} 0
        [sender.react first.1 ack, sender.react moved.1 ack] = [1, 2] ∧
      sender.encode 2 = serializeData 2 [9] ∧ stale.1.lastAcked = 1 ∧
      stale.1.highestSent = min (1 + 1) 2 ∧ stale.2 = [] := by
  intro ack sender first moved stale
  have history : SenderHistory [7, 8, 9] { blockSize := 2 } {} 0
      [sender.react first.1 ack, sender.react moved.1 ack] stale.1 :=
    .receive (.receive .start (by decide) ack) (by decide) ack
  obtain ⟨-, -, hencode, hwaiting, -, hstale, -⟩ :=
    (sender_window_discipline rfl (by decide) (by decide) (by decide)).1 _ _ history
  have hnone := hstale [sender.react first.1 ack] (sender.react moved.1 ack) []
    { opcode := .acknowledgement, blockNumber := 1 } rfl rfl rfl (by decide)
  have hsent : sentBlocks [7, 8, 9] { blockSize := 2 } {} 0
      [sender.react first.1 ack, sender.react moved.1 ack] = [1, 2] := by decide +kernel
  have hslice := hencode 2 (by decide +kernel)
  have hone : stale.1.lastAcked = 1 := by decide +kernel
  have hfull := hwaiting (by decide +kernel)
  refine ⟨hsent, ?_, hone, ?_, ?_⟩
  · rw [hslice]
    rfl
  · rw [hfull, hone]
    rfl
  · simpa only [PeerLoop.react] using hnone.2

end Window

end TftpHarness
