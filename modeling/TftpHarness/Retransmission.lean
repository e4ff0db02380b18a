/-
**Retransmissions: the sender's own and the observer's count.**

A run of `run_data_sender` is a list of bursts: the blocks it sends between two receives, together
with the receive it answers.  The first burst answers none.  Of a correct sender each burst is one
of three things: nothing, the blocks that follow the highest one sent, or, after a timeout, the
blocks in flight once more.  Everything below is read off that case analysis, burst by burst.

The observer sees the same run through the numbers on the wire, and those have 16 bits.  It keeps a
set of them, so from block 65537 on a first transmission looks like a repetition.

Main definitions:

* `TftpHarness.Burst`, `TftpHarness.SenderRun` — the bursts of a run;
* `TftpHarness.SenderLedger` — the invariant of a run: what has been sent and what was counted;
* `TftpHarness.ObserverAgrees` — the observer's counts are the sender's.

Main results:

* `TftpHarness.senderLedger` — the invariant holds in every run;
* `TftpHarness.no_sorcerers_apprentice` — **a block is repeated only in answer to a timeout, and the
  timeouts and the repetitions are bounded**;
* `TftpHarness.observer_agrees_iff` — **the observer agrees with the sender as long as no more than
  65536 blocks are sent**.
-/

import TftpHarness.Sender
import TftpHarness.Trace
import Mathlib.Data.List.Nodup
import Mathlib.Order.Interval.Finset.Nat

set_option relaxedAutoImplicit false
set_option autoImplicit false

namespace TftpHarness

/-! ### Runs as lists of bursts -/

/-- The blocks sent between two receives, and the receive they answer. -/
structure Burst where
  cause : Option ReceiveStatus
  blocks : List ℕ

/-- All blocks sent, in order. -/
def blocksOf (bursts : List Burst) : List ℕ := bursts.flatMap Burst.blocks

/-- The number of timeouts the sender has processed. -/
def timeoutsOf (bursts : List Burst) : ℕ :=
  bursts.countP fun burst => burst.cause = some .timedOut

section Runs

variable (payload : Bytes) (params : NegotiatedParameters) (config : EngineConfig)
variable (startingDataPacketsSent : ℕ)

/-- The runs of `run_data_sender`: after every receive that leaves it waiting, any packet or timeout
may be next. -/
inductive SenderRun : List Burst → SenderState → Prop
  | start : SenderRun [⟨none, (senderStart payload params config startingDataPacketsSent).2⟩]
      (senderStart payload params config startingDataPacketsSent).1
  | receive {bursts : List Burst} {s : SenderState} (run : SenderRun bursts s)
      (hrun : s.returned = false) (status : ReceiveStatus) :
      SenderRun (bursts ++ [⟨some status, (senderReceive payload params config s status).2⟩])
        (senderReceive payload params config s status).1

end Runs

@[simp] theorem blocksOf_append (bursts : List Burst) (burst : Burst) :
    blocksOf (bursts ++ [burst]) = blocksOf bursts ++ burst.blocks := by
  simp [blocksOf]

theorem timeoutsOf_append (bursts : List Burst) (burst : Burst) :
    timeoutsOf (bursts ++ [burst]) =
      timeoutsOf bursts + if burst.cause = some .timedOut then 1 else 0 := by
  simp [timeoutsOf, List.countP_append, List.countP_singleton]

theorem timeoutsOf_eq_zero {bursts : List Burst} :
    timeoutsOf bursts = 0 ↔ ∀ burst ∈ bursts, burst.cause ≠ some .timedOut := by
  simp [timeoutsOf, List.countP_eq_zero]

/-! ### The ledger of a run -/

section Ledger

variable {payload : Bytes} {params : NegotiatedParameters} {config : EngineConfig}
variable {startingDataPacketsSent : ℕ}

variable (config) in
/-- What one receive does to the counters of a correct sender and what it sends. -/
inductive SenderMove (s : SenderState) : ReceiveStatus → SenderState × List ℕ → Prop
  | quiet {status : ReceiveStatus} {s' : SenderState} (hacked : s'.lastAcked = s.lastAcked)
      (hsent : s'.highestSent = s.highestSent)
      (hpackets : s'.outcome.dataPacketsSent = s.outcome.dataPacketsSent)
      (hresent : s'.outcome.retransmissions = s.outcome.retransmissions)
      (hcause : s'.returned = true ∨
        status ≠ .timedOut ∧ s'.consecutiveTimeouts = s.consecutiveTimeouts) :
      SenderMove s status (s', [])
  | rollback {s' : SenderState} (hacked : s'.lastAcked = s.lastAcked)
      (hsent : s'.highestSent = s.highestSent)
      (hpackets : s'.outcome.dataPacketsSent = s.outcome.dataPacketsSent)
      (hresent : s'.outcome.retransmissions =
        u32 (s.outcome.retransmissions + (s.highestSent - s.lastAcked)))
      (htimeouts : s'.consecutiveTimeouts = s.consecutiveTimeouts + 1)
      (hbudget : s'.consecutiveTimeouts ≤ config.maximumRetransmissions) :
      SenderMove s .timedOut (s', indexRange (s.lastAcked + 1) s.highestSent)
  | advance {status : ReceiveStatus} {s' : SenderState} (hstatus : status ≠ .timedOut)
      (hacked : s.lastAcked < s'.lastAcked) (hsent : s.highestSent ≤ s'.highestSent)
      (hpackets : s'.outcome.dataPacketsSent =
        u32 (s.outcome.dataPacketsSent + (s'.highestSent - s.highestSent)))
      (hresent : s'.outcome.retransmissions = s.outcome.retransmissions)
      (htimeouts : s'.consecutiveTimeouts = 0) :
      SenderMove s status (s', indexRange (s.highestSent + 1) s'.highestSent)

/-- The loop with `sendNew` counts what it sends, and repeats nothing. -/
theorem senderLoop_sendNew (s : SenderState) (haction : s.action = .sendNew)
    (hpackets : s.outcome.dataPacketsSent < 4294967296) :
    (senderLoop payload params config s).1.outcome.dataPacketsSent =
        u32 (s.outcome.dataPacketsSent + (senderLoop payload params config s).2.length) ∧
      (senderLoop payload params config s).1.outcome.retransmissions =
        s.outcome.retransmissions := by
  unfold senderLoop
  split
  · simp [haction]
  · exact ⟨(u32_of_lt hpackets).symm, rfl⟩

/-- **Every receive of a correct sender is one of the moves.** -/
theorem senderMove_receive {s : SenderState} (hinv : SenderInv payload params config s)
    (hbound : senderTotalBlocks payload params config + senderWindow params < 4294967296)
    (hq : config.quirks.retransmitOnDuplicateAck = false) (hrun : s.returned = false)
    (hpackets : s.outcome.dataPacketsSent < 4294967296) (status : ReceiveStatus) :
    SenderMove config s status (senderReceive payload params config s status) := by
  obtain ⟨hlt, hfull, hcomp⟩ := hinv.waiting hrun
  have hle := hinv.acked_le
  cases status with
  | socketError => exact .quiet rfl rfl rfl rfl (Or.inl rfl)
  | timedOut =>
      by_cases hbudget : s.consecutiveTimeouts < config.maximumRetransmissions
      · obtain ⟨hout, hstate⟩ := senderReceive_timedOut hinv hbound hrun hbudget
        have hpair : senderReceive payload params config s .timedOut =
            ((senderReceive payload params config s .timedOut).1,
              indexRange (s.lastAcked + 1) s.highestSent) := by rw [← hout]
        rw [hpair]
        refine .rollback (by rw [hstate]) (by rw [hstate]) (by rw [hstate]) ?_ (by rw [hstate]) ?_
        · rw [hstate]
          simp only [length_indexRange]
          congr 2
          omega
        · rw [hstate]
          exact hbudget
      · have hgive : config.maximumRetransmissions < s.consecutiveTimeouts + 1 := by omega
        simp only [senderReceive, hgive, if_true]
        exact .quiet rfl rfl rfl rfl (Or.inl rfl)
  | gotPacket packet =>
      -- an ERROR ends the transfer, an ACK may move the window, anything else is ignored
      by_cases herr : packet.opcode = .error
      · simp only [senderReceive, herr, if_true]
        exact .quiet rfl rfl rfl rfl (Or.inl rfl)
      by_cases hack : packet.opcode = .acknowledgement
      · rcases senderReceive_ack hinv hbound hq hrun hack with ⟨-, h⟩ | ⟨h, hacked, hadv⟩
        · rw [h]
          exact .quiet rfl rfl rfl rfl (Or.inr ⟨by simp, rfl⟩)
        · set acked := resolveAckToAbsolute packet.blockNumber s.lastAcked s.highestSent with hdef
          have hloop : senderReceive payload params config s (.gotPacket packet) =
              senderLoop payload params config
                { s with lastAcked := acked, consecutiveTimeouts := 0, action := .sendNew } := by
            simp [senderReceive, hack, ← hdef, h]
          have hcount := @senderLoop_sendNew payload params config
            { s with lastAcked := acked, consecutiveTimeouts := 0, action := .sendNew } rfl hpackets
          rw [← hloop] at hcount
          have hhighest := hadv.highestSent
          have hpair : senderReceive payload params config s (.gotPacket packet) =
              ((senderReceive payload params config s (.gotPacket packet)).1,
                indexRange (s.highestSent + 1)
                  (senderReceive payload params config s (.gotPacket packet)).1.highestSent) := by
            rw [← hadv.sent]
          have hlen : (senderReceive payload params config s (.gotPacket packet)).2.length =
              (senderReceive payload params config s (.gotPacket packet)).1.highestSent -
                s.highestSent := by
            rw [hadv.sent, length_indexRange]
            omega
          rw [hlen] at hcount
          rw [hpair]
          exact .advance (by simp) (by rw [hadv.lastAcked]; exact h) (by omega) hcount.1 hcount.2
            hadv.consecutiveTimeouts
      · simp only [senderReceive, herr, hack, ne_eq, not_false_eq_true, if_true, if_false,
          senderLoop, hlt]
        exact .quiet rfl rfl rfl rfl (Or.inr ⟨by simp, rfl⟩)

variable (payload params config startingDataPacketsSent) in
/-- **The ledger of a run**: what was sent so far, and what the counters say of it. -/
structure SenderLedger (bursts : List Burst) (s : SenderState) : Prop where
  window : SenderInv payload params config s
  /-- The blocks sent are exactly those up to the highest one. -/
  mem_iff : ∀ i, i ∈ blocksOf bursts ↔ 1 ≤ i ∧ i ≤ s.highestSent
  nodup : ∀ burst ∈ bursts, burst.blocks.Nodup
  /-- Only a timeout repeats blocks of earlier bursts. -/
  fresh : bursts.Pairwise fun earlier later =>
    later.cause ≠ some .timedOut → earlier.blocks.Disjoint later.blocks
  in_order : timeoutsOf bursts = 0 → blocksOf bursts = indexRange 1 s.highestSent
  packets : s.outcome.dataPacketsSent = u32 (startingDataPacketsSent + s.highestSent)
  /-- The blocks sent again, counted without the wrap of the counter. -/
  resent : ∃ resent, (blocksOf bursts).length = s.highestSent + resent ∧
    s.outcome.retransmissions = u32 resent ∧ resent ≤ senderWindow params * timeoutsOf bursts

variable (payload params config) in
/-- The retry budget of a run: each acknowledged block allows for as many timeouts as the budget of
consecutive ones, and the last timeout of all ends the run. -/
structure RetryBudget (bursts : List Burst) (s : SenderState) : Prop where
  running : s.returned = false → 0 ≤ s.consecutiveTimeouts ∧
    s.consecutiveTimeouts ≤ config.maximumRetransmissions ∧
    (timeoutsOf bursts : ℤ) ≤ config.maximumRetransmissions * s.lastAcked + s.consecutiveTimeouts
  timeouts_le : (timeoutsOf bursts : ℤ) ≤
    config.maximumRetransmissions * senderTotalBlocks payload params config + 1

theorem nodup_indexRange (lo hi : ℕ) : (indexRange lo hi).Nodup :=
  (pairwise_indexRange lo hi).imp fun hlt => Nat.ne_of_lt hlt

/-- **One move keeps the ledger.** -/
theorem SenderLedger.receive {bursts : List Burst} {s s' : SenderState} {blocks : List ℕ}
    {status : ReceiveStatus}
    (h : SenderLedger payload params config startingDataPacketsSent bursts s)
    (hrun : s.returned = false) (hwindow : SenderInv payload params config s')
    (hmove : SenderMove config s status (s', blocks)) :
    SenderLedger payload params config startingDataPacketsSent (bursts ++ [⟨some status, blocks⟩])
      s' := by
  obtain ⟨hlt, hfull, -⟩ := h.window.waiting hrun
  obtain ⟨resent, hlength, hresentEq, hresentLe⟩ := h.resent
  have hle := h.window.acked_le
  cases hmove with
  | quiet hacked hsent hpackets hresent hcause =>
      -- nothing is sent, and at most a timeout is counted
      have hcount : timeoutsOf bursts ≤ timeoutsOf (bursts ++ [⟨some status, []⟩]) := by
        rw [timeoutsOf_append]
        exact Nat.le_add_right _ _
      refine ⟨hwindow, ?_, ?_, ?_, ?_, by rw [hpackets, hsent, h.packets], ?_⟩
      · intro i
        simp [h.mem_iff i, hsent]
      · exact List.forall_mem_append.2 ⟨h.nodup, by simp⟩
      · simpa [List.pairwise_append] using h.fresh
      · intro hzero
        rw [blocksOf_append, List.append_nil, hsent]
        exact h.in_order (by omega)
      · refine ⟨resent, by simp [hlength, hsent], by rw [hresent, hresentEq], ?_⟩
        exact le_trans hresentLe (Nat.mul_le_mul_left _ hcount)
  | rollback hacked hsent hpackets hresent htimeouts hbudget =>
      -- the timeout pays for the blocks that are sent again
      have hcount : timeoutsOf (bursts ++
          [⟨some .timedOut, indexRange (s.lastAcked + 1) s.highestSent⟩]) =
          timeoutsOf bursts + 1 := by
        simp [timeoutsOf_append]
      refine ⟨hwindow, ?_, ?_, ?_, ?_, by rw [hpackets, hsent, h.packets], ?_⟩
      · intro i
        simp only [blocksOf_append, List.mem_append, h.mem_iff i, mem_indexRange, hsent]
        omega
      · exact List.forall_mem_append.2 ⟨h.nodup, by simp [nodup_indexRange]⟩
      · rw [List.pairwise_append]
        refine ⟨h.fresh, List.pairwise_singleton _ _, ?_⟩
        intro earlier _ later hlater hcause
        obtain rfl := List.mem_singleton.mp hlater
        exact absurd rfl hcause
      · intro hzero
        rw [hcount] at hzero
        omega
      · refine ⟨resent + (s.highestSent - s.lastAcked), ?_, ?_, ?_⟩
        · simp only [blocksOf_append, List.length_append, hlength, length_indexRange, hsent]
          omega
        · rw [hresent, hresentEq]
          simp only [u32]
          omega
        · have hone : s.highestSent - s.lastAcked ≤ senderWindow params := by omega
          rw [hcount, Nat.mul_succ]
          omega
  | advance hstatus hacked hsent hpackets hresent htimeouts =>
      -- the new blocks have not been sent before
      have hcount : timeoutsOf (bursts ++
          [⟨some status, indexRange (s.highestSent + 1) s'.highestSent⟩]) =
          timeoutsOf bursts := by
        simp [timeoutsOf_append, hstatus]
      refine ⟨hwindow, ?_, ?_, ?_, ?_, ?_, ?_⟩
      · intro i
        simp only [blocksOf_append, List.mem_append, h.mem_iff i, mem_indexRange]
        omega
      · exact List.forall_mem_append.2 ⟨h.nodup, by simp [nodup_indexRange]⟩
      · rw [List.pairwise_append]
        refine ⟨h.fresh, List.pairwise_singleton _ _, ?_⟩
        intro earlier hearlier later hlater _ i hi hi'
        obtain rfl := List.mem_singleton.mp hlater
        have hold := (h.mem_iff i).1 (List.mem_flatMap.2 ⟨earlier, hearlier, hi⟩)
        rw [mem_indexRange] at hi'
        omega
      · intro hzero
        rw [hcount] at hzero
        rw [blocksOf_append, h.in_order hzero]
        exact indexRange_append (by omega) hsent
      · rw [hpackets, h.packets]
        simp only [u32]
        omega
      · refine ⟨resent, ?_, by rw [hresent, hresentEq], by rw [hcount]; exact hresentLe⟩
        simp only [blocksOf_append, List.length_append, hlength, length_indexRange]
        omega

/-- **One move keeps the retry budget**: a timeout spends it, a new acknowledgement renews it. -/
theorem RetryBudget.receive {bursts : List Burst} {s s' : SenderState} {blocks : List ℕ}
    {status : ReceiveStatus} (h : RetryBudget payload params config bursts s)
    (hmax : 0 ≤ config.maximumRetransmissions) (hrun : s.returned = false)
    (hlt : s.lastAcked < senderTotalBlocks payload params config)
    (hmove : SenderMove config s status (s', blocks)) :
    RetryBudget payload params config (bursts ++ [⟨some status, blocks⟩]) s' := by
  obtain ⟨hct, hctMax, hbudget⟩ := h.running hrun
  have hmul : config.maximumRetransmissions * ((s.lastAcked : ℤ) + 1) ≤
      config.maximumRetransmissions * senderTotalBlocks payload params config :=
    mul_le_mul_of_nonneg_left (by omega) hmax
  rw [mul_add, mul_one] at hmul
  cases hmove with
  | quiet hacked hsent hpackets hresent hcause =>
      -- a timeout without a retry ends the transfer
      have hcount : timeoutsOf (bursts ++ [⟨some status, []⟩]) =
          timeoutsOf bursts + if status = .timedOut then 1 else 0 := by
        simp [timeoutsOf_append]
      constructor
      · intro hstill
        rcases hcause with hret | ⟨hstatus, heq⟩
        · rw [hret] at hstill
          exact Bool.noConfusion hstill
        · rw [if_neg hstatus] at hcount
          rw [hcount, heq, hacked]
          exact ⟨hct, hctMax, hbudget⟩
      · have hone : timeoutsOf (bursts ++ [⟨some status, []⟩]) ≤ timeoutsOf bursts + 1 := by
          rw [hcount]
          split <;> omega
        omega
  | rollback hacked hsent hpackets hresent htimeouts hbudget' =>
      -- a timeout uses up one retry of the position
      have hcount : timeoutsOf (bursts ++
          [⟨some .timedOut, indexRange (s.lastAcked + 1) s.highestSent⟩]) =
          timeoutsOf bursts + 1 := by
        simp [timeoutsOf_append]
      constructor
      · intro _
        rw [hcount, hacked, htimeouts]
        push_cast
        omega
      · rw [hcount]
        push_cast
        omega
  | advance hstatus hacked hsent hpackets hresent htimeouts =>
      -- a new position brings its own retries
      have hcount : timeoutsOf (bursts ++
          [⟨some status, indexRange (s.highestSent + 1) s'.highestSent⟩]) =
          timeoutsOf bursts := by
        simp [timeoutsOf_append, hstatus]
      have hstep : config.maximumRetransmissions * ((s.lastAcked : ℤ) + 1) ≤
          config.maximumRetransmissions * s'.lastAcked :=
        mul_le_mul_of_nonneg_left (by omega) hmax
      rw [mul_add, mul_one] at hstep
      constructor
      · intro _
        rw [hcount, htimeouts]
        omega
      · rw [hcount]
        exact h.timeouts_le

/-- The bursts of the first window are its blocks. -/
theorem blocksOf_start
    (hbound : senderTotalBlocks payload params config + senderWindow params < 4294967296) :
    (senderStart payload params config startingDataPacketsSent).2 =
      indexRange 1 (senderStart payload params config startingDataPacketsSent).1.highestSent :=
  (@advanced_senderStart payload params config startingDataPacketsSent hbound).sent

/-- The first window opens the ledger. -/
theorem senderLedger_start (hstarting : startingDataPacketsSent < 4294967296)
    (hbound : senderTotalBlocks payload params config + senderWindow params < 4294967296) :
    SenderLedger payload params config startingDataPacketsSent
      [⟨none, (senderStart payload params config startingDataPacketsSent).2⟩]
      (senderStart payload params config startingDataPacketsSent).1 := by
  have hsent := @blocksOf_start payload params config startingDataPacketsSent hbound
  have hcount := @senderLoop_sendNew payload params config
    { outcome := { negotiated := params, dataPacketsSent := startingDataPacketsSent } } rfl
    hstarting
  have hpackets : (senderStart payload params config
      startingDataPacketsSent).1.outcome.dataPacketsSent = u32 (startingDataPacketsSent +
        (senderStart payload params config startingDataPacketsSent).2.length) := hcount.1
  have hblocks : blocksOf [⟨none, (senderStart payload params config startingDataPacketsSent).2⟩] =
      indexRange 1 (senderStart payload params config startingDataPacketsSent).1.highestSent := by
    simp [blocksOf, hsent]
  refine ⟨senderInv_start startingDataPacketsSent hbound, ?_, ?_, List.pairwise_singleton _ _, ?_,
    ?_, ⟨0, ?_, hcount.2, Nat.zero_le _⟩⟩
  · intro i
    rw [hblocks, mem_indexRange]
  · intro burst hmem
    obtain rfl := List.mem_singleton.mp hmem
    rw [hsent]
    exact nodup_indexRange _ _
  · intro _
    exact hblocks
  · rw [hpackets, hsent, length_indexRange, Nat.add_sub_cancel]
  · rw [hblocks, length_indexRange, Nat.add_sub_cancel, Nat.add_zero]

/-- **The ledger holds in every run.** -/
theorem senderLedger {bursts : List Burst} {s : SenderState}
    (run : SenderRun payload params config startingDataPacketsSent bursts s)
    (hq : config.quirks.retransmitOnDuplicateAck = false)
    (hstarting : startingDataPacketsSent < 4294967296)
    (hbound : senderTotalBlocks payload params config + senderWindow params < 4294967296) :
    SenderLedger payload params config startingDataPacketsSent bursts s := by
  induction run with
  | start => exact senderLedger_start hstarting hbound
  | @receive bursts s run hrun status ih =>
      have hwindow := senderInv_receive ih.window hbound hq hrun status
      have hpackets : s.outcome.dataPacketsSent < 4294967296 := by
        rw [ih.packets]
        exact Nat.mod_lt _ (by decide)
      have hmove := senderMove_receive ih.window hbound hq hrun hpackets status
      exact ih.receive hrun hwindow hmove

/-- **The retry budget holds in every run.** -/
theorem retryBudget {bursts : List Burst} {s : SenderState}
    (run : SenderRun payload params config startingDataPacketsSent bursts s)
    (hq : config.quirks.retransmitOnDuplicateAck = false)
    (hmax : 0 ≤ config.maximumRetransmissions) (hstarting : startingDataPacketsSent < 4294967296)
    (hbound : senderTotalBlocks payload params config + senderWindow params < 4294967296) :
    RetryBudget payload params config bursts s := by
  induction run with
  | start =>
      have hadv := @advanced_senderStart payload params config startingDataPacketsSent hbound
      have hnonneg : 0 ≤ config.maximumRetransmissions *
          (senderTotalBlocks payload params config : ℤ) := mul_nonneg hmax (by omega)
      have htimeouts : timeoutsOf
          [⟨none, (senderStart payload params config startingDataPacketsSent).2⟩] = 0 := by
        simp [timeoutsOf]
      constructor
      · intro _
        rw [hadv.consecutiveTimeouts, hadv.lastAcked, htimeouts]
        simp [hmax]
      · rw [htimeouts]
        push_cast
        omega
  | @receive bursts s run hrun status ih =>
      have hledger := senderLedger run hq hstarting hbound
      have hpackets : s.outcome.dataPacketsSent < 4294967296 := by
        rw [hledger.packets]
        exact Nat.mod_lt _ (by decide)
      have hmove := senderMove_receive hledger.window hbound hq hrun hpackets status
      exact ih.receive hmax hrun (hledger.window.waiting hrun).1 hmove

end Ledger

/-! ### No Sorcerer's Apprentice -/

section Claims

variable {payload : Bytes} {params : NegotiatedParameters} {config : EngineConfig}

/-- Consecutive bursts of which only the first may answer a timeout repeat no block. -/
theorem SenderLedger.nodup_during {startingDataPacketsSent : ℕ}
    {before during after : List Burst} {s : SenderState}
    (h : SenderLedger payload params config startingDataPacketsSent (before ++ during ++ after) s)
    (hcause : ∀ burst ∈ during.tail, burst.cause ≠ some .timedOut) :
    (blocksOf during).Nodup := by
  have hfresh := (List.pairwise_append.1 (List.pairwise_append.1 h.fresh).1).2.1
  rw [blocksOf, List.nodup_flatMap]
  refine ⟨fun burst hmem => h.nodup burst (by simp [hmem]), ?_⟩
  cases during with
  | nil => exact List.Pairwise.nil
  | cons first rest =>
      rw [List.pairwise_cons] at hfresh ⊢
      refine ⟨fun later hlater => hfresh.1 later hlater (hcause later hlater), ?_⟩
      have hrest := hfresh.2
      rw [List.pairwise_iff_forall_sublist] at hrest ⊢
      intro earlier later hsub
      have hmem : later ∈ rest := hsub.subset (by simp)
      exact hrest hsub (hcause later hmem)

/-- **No Sorcerer's Apprentice, and bounded retries.**  In every run of a correct sender a burst
that answers no timeout repeats no block sent before; from one timeout to the next no block goes
out twice; without a timeout the blocks go out once each, in order; and the timeouts and the
repetitions are bounded. -/
theorem no_sorcerers_apprentice {startingDataPacketsSent : ℕ} {bursts : List Burst}
    {s : SenderState} (run : SenderRun payload params config startingDataPacketsSent bursts s)
    (hquirks : config.quirks = {}) (hmax : 0 ≤ config.maximumRetransmissions)
    (hwindow : 1 ≤ params.windowSize) (hstarting : startingDataPacketsSent < 4294967296)
    (hbound : senderTotalBlocks payload params config + params.windowSize < 4294967296) :
    (∀ before burst after, bursts = before ++ burst :: after → burst.cause ≠ some .timedOut →
        (blocksOf before).Disjoint burst.blocks) ∧
      (∀ before during after, bursts = before ++ during ++ after →
        (∀ burst ∈ during.tail, burst.cause ≠ some .timedOut) → (blocksOf during).Nodup) ∧
      ((∀ burst ∈ bursts, burst.cause ≠ some .timedOut) →
        blocksOf bursts = indexRange 1 s.highestSent) ∧
      (timeoutsOf bursts : ℤ) ≤
        config.maximumRetransmissions * senderTotalBlocks payload params config + 1 ∧
      s.outcome.retransmissions ≤ params.windowSize * timeoutsOf bursts := by
  have hw : senderWindow params = params.windowSize := max_eq_left hwindow
  have hq : config.quirks.retransmitOnDuplicateAck = false := by rw [hquirks]
  have hledger := senderLedger run hq hstarting (by omega)
  have hbudget := retryBudget run hq hmax hstarting (by omega)
  refine ⟨?_, ?_, ?_, hbudget.timeouts_le, ?_⟩
  · rintro before burst after rfl hcause
    have hfresh := (List.pairwise_append.1 hledger.fresh).2.2
    intro i hi hi'
    obtain ⟨earlier, hearlier, hi⟩ := List.mem_flatMap.1 hi
    exact hfresh earlier hearlier burst (by simp) hcause hi hi'
  · rintro before during after rfl hcause
    exact hledger.nodup_during hcause
  · intro hcause
    exact hledger.in_order (timeoutsOf_eq_zero.2 hcause)
  · obtain ⟨resent, -, heq, hle⟩ := hledger.resent
    rw [hw] at hle
    rw [heq]
    exact le_trans (Nat.mod_le _ _) hle

/-- A timeout, after the first of two blocks went out in lock-step, sends it once more. -/
theorem no_sorcerers_apprentice_timeout :
    ((timeoutsOf [⟨none, [1]⟩, ⟨some .timedOut, [1]⟩] : ℕ) : ℤ) ≤ 6 * 2 + 1 :=
  (@no_sorcerers_apprentice [1] { blockSize := 1 } {} 0 _ _
    (.receive (.start) (by decide +kernel) .timedOut) rfl (by decide) (by decide) (by decide)
    (by decide +kernel)).2.2.2.1

/-! ### The observer's count -/

variable (payload params) in
/-- The trace shows the DATA datagrams of the run, in order, as the peer sends of the data
direction; what else it records is open. -/
def RecordedIn (context : ObserverContext) (bursts : List Burst) (trace : PacketTrace) : Prop :=
  (dataPackets context trace.records).map Except.ok =
    (blocksOf bursts).map fun index => parseDatagram (dataDatagram payload params index)

/-- The observer's counts are the sender's, in the 32-bit arithmetic of both. -/
structure ObserverAgrees (report : ObserverReport) (outcome : TransferOutcome) : Prop where
  sent : report.dataPacketsSent = u32 (outcome.dataPacketsSent + outcome.retransmissions)
  distinct : report.distinctDataBlocks = outcome.dataPacketsSent
  retransmitted : report.retransmittedDataPackets = outcome.retransmissions

/-- The trace of a run shows the wire numbers of its blocks. -/
theorem RecordedIn.numbers {context : ObserverContext} {bursts : List Burst} {trace : PacketTrace}
    (h : RecordedIn payload params context bursts trace) :
    (dataPackets context trace.records).map (·.blockNumber) =
      (blocksOf bursts).map wireBlockNumber := by
  have hmap := congrArg (List.map fun parsed : Except Bytes TftpPacket =>
    (parsed.toOption.map (·.blockNumber)).getD 0) h
  simpa [List.map_map, Function.comp_def, parse_dataDatagram, Except.toOption] using hmap

/-- The numbers on the wire of the blocks up to `n`, without repetitions. -/
theorem card_wireNumbers {blocks : List ℕ} {n : ℕ} (h : ∀ i, i ∈ blocks ↔ 1 ≤ i ∧ i ≤ n) :
    (blocks.map wireBlockNumber).toFinset.card = min n 65536 := by
  rcases Nat.lt_or_ge n 65536 with hlt | hge
  · have heq : (blocks.map wireBlockNumber).toFinset = Finset.Icc 1 n := by
      ext w
      simp only [List.mem_toFinset, List.mem_map, h, Finset.mem_Icc]
      constructor
      · rintro ⟨i, hi, rfl⟩
        rwa [wireBlockNumber_of_lt (by omega)]
      · intro hw
        exact ⟨w, hw, wireBlockNumber_of_lt (by omega)⟩
    rw [heq, Nat.card_Icc]
    omega
  · -- any 65536 consecutive blocks carry every number
    have heq : (blocks.map wireBlockNumber).toFinset = Finset.range 65536 := by
      ext w
      simp only [List.mem_toFinset, List.mem_map, h, Finset.mem_range]
      constructor
      · rintro ⟨i, -, rfl⟩
        exact wireBlockNumber_lt i
      · intro hw
        rcases Nat.eq_zero_or_pos w with rfl | hpos
        · exact ⟨65536, by omega, rfl⟩
        · exact ⟨w, by omega, wireBlockNumber_of_lt hw⟩
    rw [heq, Finset.card_range]
    omega

/-- **In one run**, the observer agrees with the sender exactly when no block past 65536 is sent. -/
theorem observerAgrees_iff {context : ObserverContext} {bursts : List Burst} {s : SenderState}
    {trace : PacketTrace} (run : SenderRun payload params config 0 bursts s)
    (hq : config.quirks.retransmitOnDuplicateAck = false)
    (hbound : senderTotalBlocks payload params config + senderWindow params < 4294967296)
    (hrec : RecordedIn payload params context bursts trace) :
    ObserverAgrees (observe trace context) s.outcome ↔ s.highestSent ≤ 65536 := by
  have hledger := senderLedger run hq (by decide) hbound
  obtain ⟨resent, hlength, hresent, -⟩ := hledger.resent
  obtain ⟨hsent, hdistinct, hdiff⟩ := observe_counts context trace
  have hlen : (dataPackets context trace.records).length = s.highestSent + resent := by
    have hcong := congrArg List.length hrec.numbers
    simpa [hlength] using hcong
  have hhighest : s.highestSent < 4294967296 := by
    have hle := hledger.window.sent_le
    omega
  have hpackets : s.outcome.dataPacketsSent = s.highestSent := by
    rw [hledger.packets, Nat.zero_add, u32_of_lt hhighest]
  rw [hrec.numbers, card_wireNumbers hledger.mem_iff, u32_of_lt (by omega)] at hdistinct
  rw [hlen] at hsent
  constructor
  · intro hagrees
    have heq := hagrees.distinct
    omega
  · intro hle
    refine ⟨?_, by omega, ?_⟩
    · rw [hsent, hpackets, hresent]
      simp only [u32]
      omega
    · rw [hdiff, hsent, hdistinct, hresent]
      simp only [u32]
      omega

/-- The search for an ACK starts at the highest block sent. -/
theorem resolveAckToAbsolute_highest {lastAcked highestSent : ℕ} (h : lastAcked < highestSent) :
    resolveAckToAbsolute (wireBlockNumber highestSent) lastAcked highestSent = highestSent := by
  have hsplit : indexRange (lastAcked + 1) highestSent =
      indexRange (lastAcked + 1) (highestSent - 1) ++ [highestSent] := by
    have happend := @indexRange_append (lastAcked + 1) (highestSent - 1) highestSent (by omega)
      (by omega)
    have hnext : highestSent - 1 + 1 = highestSent := by omega
    rw [hnext, indexRange_eq_cons (le_refl _), indexRange_eq_nil (Nat.lt_succ_self _)] at happend
    exact happend.symm
  simp [resolveAckToAbsolute, hsplit]

/-- A run in which the highest block is acknowledged at once, whenever one is outstanding, goes
through to the last block. -/
theorem exists_complete_run (hq : config.quirks.retransmitOnDuplicateAck = false)
    (hbound : senderTotalBlocks payload params config + senderWindow params < 4294967296) :
    ∃ bursts s, SenderRun payload params config 0 bursts s ∧ timeoutsOf bursts = 0 ∧
      s.highestSent = senderTotalBlocks payload params config := by
  -- the number of blocks left is what each acknowledgement lowers
  have hmain : ∀ (left : ℕ) (bursts : List Burst) (s : SenderState),
      SenderRun payload params config 0 bursts s → timeoutsOf bursts = 0 →
      (s.returned = true → s.lastAcked = senderTotalBlocks payload params config) →
      senderTotalBlocks payload params config - s.highestSent ≤ left →
      ∃ bursts s, SenderRun payload params config 0 bursts s ∧ timeoutsOf bursts = 0 ∧
        s.highestSent = senderTotalBlocks payload params config := by
    intro left
    induction left with
    | zero =>
        intro bursts s run hzero _ hleft
        have hle := (senderLedger run hq (by decide) hbound).window.sent_le
        exact ⟨bursts, s, run, hzero, by omega⟩
    | succ left ih =>
        intro bursts s run hzero hret hleft
        have hinv := (senderLedger run hq (by decide) hbound).window
        have hle := hinv.sent_le
        have hacked := hinv.acked_le
        have hpos := senderWindow_pos params
        rcases Nat.eq_or_lt_of_le (le_trans hle (min_le_right _ _)) with heq | hlt
        · exact ⟨bursts, s, run, hzero, heq⟩
        · have hrun : s.returned = false := by
            rw [← Bool.not_eq_true]
            intro hdone
            have := hret hdone
            omega
          obtain ⟨-, hfull, -⟩ := hinv.waiting hrun
          have hflight : s.lastAcked < s.highestSent := by omega
          let ack : TftpPacket :=
            { opcode := .acknowledgement, blockNumber := wireBlockNumber s.highestSent }
          have hresolve : resolveAckToAbsolute ack.blockNumber s.lastAcked s.highestSent =
              s.highestSent := resolveAckToAbsolute_highest hflight
          rcases @senderReceive_ack payload params config s ack hinv hbound hq hrun rfl with
            ⟨hstale, -⟩ | ⟨-, -, hadv⟩
          · omega
          · rw [hresolve] at hadv
            have hsent := hadv.highestSent
            refine ih _ _ (.receive run hrun (.gotPacket ack)) ?_ ?_ (by omega)
            · rw [timeoutsOf_append, hzero]
              simp
            · intro hdone
              rw [hadv.lastAcked, hadv.returned.1 hdone]
  have hadv := @advanced_senderStart payload params config 0 hbound
  refine hmain _ _ _ .start (by simp [timeoutsOf]) ?_ (le_refl _)
  intro hdone
  rw [hadv.lastAcked, hadv.returned.1 hdone]

variable (payload params) in
/-- The trace that records the DATA datagrams of a run and nothing else. -/
def traceOf (context : ObserverContext) (bursts : List Burst) : PacketTrace where
  records := (blocksOf bursts).map fun index =>
    { direction := dataDirection context.direction
      datagramLength := (dataDatagram payload params index).length
      parsed := parseDatagram (dataDatagram payload params index) }

theorem recordedIn_traceOf (context : ObserverContext) (bursts : List Burst) :
    RecordedIn payload params context bursts (traceOf payload params context bursts) := by
  simp [RecordedIn, traceOf, dataPackets, List.filterMap_map, Function.comp_def,
    TraceRecord.dataPacket, TraceRecord.isPeerSend, TraceRecord.packetOf, parse_dataDatagram]

/-- **The observer's retransmission count is the sender's up to 65536 blocks, and no further**: in a
run it is exactly when no block past 65536 is sent, and it is in every run exactly when the transfer
has no such block. -/
theorem observer_agrees_iff (hquirks : config.quirks = {}) (hwindow : 1 ≤ params.windowSize)
    (hbound : senderTotalBlocks payload params config + params.windowSize < 4294967296)
    (context : ObserverContext) :
    (∀ bursts s trace, SenderRun payload params config 0 bursts s →
        RecordedIn payload params context bursts trace →
        (ObserverAgrees (observe trace context) s.outcome ↔ ∀ i ∈ blocksOf bursts, i ≤ 65536)) ∧
      ((∀ bursts s trace, SenderRun payload params config 0 bursts s →
          RecordedIn payload params context bursts trace →
          ObserverAgrees (observe trace context) s.outcome) ↔
        senderTotalBlocks payload params config ≤ 65536) := by
  have hw : senderWindow params = params.windowSize := max_eq_left hwindow
  have hq : config.quirks.retransmitOnDuplicateAck = false := by rw [hquirks]
  rw [← hw] at hbound
  refine ⟨?_, ?_, ?_⟩
  · intro bursts s trace run hrec
    rw [observerAgrees_iff run hq hbound hrec]
    have hmem := (senderLedger run hq (by decide) hbound).mem_iff
    constructor
    · intro hle i hi
      exact le_trans ((hmem i).1 hi).2 hle
    · intro hall
      rcases Nat.eq_zero_or_pos s.highestSent with hzero | hpos
      · omega
      · exact hall _ ((hmem _).2 ⟨hpos, le_refl _⟩)
  · intro hall
    obtain ⟨bursts, s, run, -, hsent⟩ := exists_complete_run hq hbound
    have hrec := @recordedIn_traceOf payload params context bursts
    rw [← hsent]
    exact (observerAgrees_iff run hq hbound hrec).1 (hall bursts s _ run hrec)
  · intro hle bursts s trace run hrec
    have hsent := (senderLedger run hq (by decide) hbound).window.sent_le
    exact (observerAgrees_iff run hq hbound hrec).2 (by omega)

/-- A one-block transfer is measured right. -/
theorem observer_agrees_iff_one_block :
    (∀ bursts s trace, SenderRun [7] {} {} 0 bursts s → RecordedIn [7] {} {} bursts trace →
        (ObserverAgrees (observe trace {}) s.outcome ↔ ∀ i ∈ blocksOf bursts, i ≤ 65536)) ∧
      ((∀ bursts s trace, SenderRun [7] {} {} 0 bursts s → RecordedIn [7] {} {} bursts trace →
          ObserverAgrees (observe trace {}) s.outcome) ↔ senderTotalBlocks [7] {} {} ≤ 65536) :=
  @observer_agrees_iff [7] {} {} rfl (by decide) (by decide +kernel) {}

/-- **The fixture of 65539 blocks** that the matrix puts in scope: every block is sent exactly once,
and the observer reports three retransmissions. -/
theorem observer_counts_wrapped_blocks :
    ∃ bursts s trace,
      SenderRun (List.replicate (65536 * 512 + 1024) 0) {} {} 0 bursts s ∧
        RecordedIn (List.replicate (65536 * 512 + 1024) 0) {} {} bursts trace ∧
        (∀ burst ∈ bursts, burst.cause ≠ some .timedOut) ∧ s.outcome.retransmissions = 0 ∧
        (observe trace {}).retransmittedDataPackets = 3 := by
  have hlength : (List.replicate (65536 * 512 + 1024) (0 : UInt8)).length = 33555456 :=
    List.length_replicate
  have htotal : senderTotalBlocks (List.replicate (65536 * 512 + 1024) 0) {} {} = 65539 := by
    rw [senderTotalBlocks_eq rfl (by rw [hlength]; decide), hlength]
    rfl
  have hbound : senderTotalBlocks (List.replicate (65536 * 512 + 1024) 0) {} {} +
      senderWindow {} < 4294967296 := by
    rw [htotal]
    decide
  obtain ⟨bursts, s, run, hzero, hsent⟩ := exists_complete_run rfl hbound
  rw [htotal] at hsent
  have hrec := @recordedIn_traceOf (List.replicate (65536 * 512 + 1024) 0) {} {} bursts
  have hledger := senderLedger run rfl (by decide) hbound
  obtain ⟨resent, hlen, hresent, hle⟩ := hledger.resent
  rw [hzero, Nat.mul_zero] at hle
  obtain rfl : resent = 0 := by omega
  refine ⟨bursts, s, _, run, hrec, timeoutsOf_eq_zero.1 hzero, hresent, ?_⟩
  obtain ⟨hcount, hdistinct, hdiff⟩ := observe_counts {}
    (traceOf (List.replicate (65536 * 512 + 1024) 0) {} {} bursts)
  have hnumbers := congrArg List.length hrec.numbers
  rw [List.length_map, List.length_map, hlen, hsent] at hnumbers
  rw [hrec.numbers, card_wireNumbers hledger.mem_iff, hsent] at hdistinct
  rw [hdiff, hcount, hdistinct, hnumbers]
  decide

end Claims

end TftpHarness
