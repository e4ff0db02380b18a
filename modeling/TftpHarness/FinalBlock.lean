/-
**The final-block check.**

A transfer whose length is a multiple of the block size ends with an empty block.  An engine that
leaves it out never sends a block shorter than the block size, and that is what the observer looks
for.  Both halves are read off one invariant: whatever the peer does, and whichever quirks are on,
the blocks sent are those up to the highest one, none of them past the number of blocks the sender
counts.

That number has 32 bits.  A payload of 2^32 - 1 full blocks has 2^32 blocks in all, counted as none:
the sender returns at once, successfully, without having sent the short block.  With a count of
2^32 - 1 the index of the source's send loop never passes the window edge.  It wraps around and goes
on at 0, and the block before the first is empty for a payload of 2^32 - 1 full blocks: the engine
that leaves out the final block sends a short one after all.

Main definitions:

* `TftpHarness.SentUpTo` — the invariant of a run;
* `TftpHarness.CountedRun` — the runs with an index of 32 bits, some of which never end;
* `TftpHarness.omitsFinalBlock` — whether the quirk leaves out the final block of a payload;
* `TftpHarness.FinalBlockChecked` — the check flags exactly the defect.

Main results:

* `TftpHarness.sentUpTo` — the invariant holds in every run, under any quirks;
* `TftpHarness.exists_successful_run` — every transfer can succeed;
* `TftpHarness.finalBlockChecked_iff` — **the check flags exactly the defect**, unless the count
  of the blocks or their index wraps around;
* `TftpHarness.final_block_missed_at_wrap` — past it, a transfer succeeds without its final block.
-/

import TftpHarness.Retransmission

set_option relaxedAutoImplicit false
set_option autoImplicit false

namespace TftpHarness

section Blocks

variable {payload : Bytes} {params : NegotiatedParameters} {config : EngineConfig}
variable {startingDataPacketsSent : ℕ}

variable (payload params config) in
/-- What a sender in state `s` can do up to its next receive. -/
structure SendStep (s : SenderState) (r : SenderState × List ℕ) : Prop where
  acked_le : r.1.lastAcked ≤ r.1.highestSent
  grows : s.highestSent ≤ r.1.highestSent
  sent_le : r.1.highestSent ≤ senderTotalBlocks payload params config
  sent : ∀ i ∈ r.2, 1 ≤ i ∧ i ≤ r.1.highestSent
  /-- No block is skipped. -/
  fresh : ∀ i, s.highestSent < i → i ≤ r.1.highestSent → i ∈ r.2
  completed : r.1.outcome.completedSuccessfully = true →
    r.1.returned = true ∧ r.1.lastAcked = senderTotalBlocks payload params config

/-- The loop sends blocks up to the count. -/
theorem sendStep_senderLoop {s : SenderState}
    (hfits : senderTotalBlocks payload params config + 1 < 4294967296)
    (hacked : s.lastAcked ≤ s.highestSent)
    (hsent : s.highestSent ≤ senderTotalBlocks payload params config)
    (hcomp : s.outcome.completedSuccessfully = false) :
    SendStep payload params config s (senderLoop payload params config s) := by
  have hnext : u32 (s.highestSent + 1) = s.highestSent + 1 := u32_of_lt (by omega)
  have hback : u32 (s.lastAcked + 1) = s.lastAcked + 1 := u32_of_lt (by omega)
  have hnever : ∀ {P : Prop}, s.outcome.completedSuccessfully = true → P := by
    intro P htrue
    rw [hcomp] at htrue
    cases htrue
  unfold senderLoop
  split
  · cases s.action with
    | sendNew =>
        -- the window may end below what was sent, when its edge wraps around
        simp only [hnext]
        refine ⟨by simp only; omega, by simp only; omega, by simp only; omega, ?_, ?_, hnever⟩
        · intro i hi
          simp only [mem_indexRange] at hi ⊢
          omega
        · intro i hlt hle
          simp only [mem_indexRange] at hle ⊢
          omega
    | rollback =>
        simp only [hback]
        refine ⟨hacked, le_refl _, hsent, ?_, ?_, hnever⟩
        · intro i hi
          simp only [mem_indexRange] at hi ⊢
          omega
        · intro i hlt hle
          exact absurd hle (by simp only; omega)
    | waitOnly =>
        refine ⟨hacked, le_refl _, hsent, fun i hi => absurd hi List.not_mem_nil, ?_, hnever⟩
        intro i hlt hle
        exact absurd hle (by simp only; omega)
  · next hdone =>
      refine ⟨hacked, le_refl _, hsent, fun i hi => absurd hi List.not_mem_nil, ?_, ?_⟩
      · intro i hlt hle
        exact absurd hle (by simp only; omega)
      · intro _
        exact ⟨rfl, by simp only; omega⟩

variable (payload params config) in
/-- **The blocks sent are those up to the highest one**, and success means all are acknowledged. -/
structure SentUpTo (bursts : List Burst) (s : SenderState) : Prop where
  acked_le : s.lastAcked ≤ s.highestSent
  sent_le : s.highestSent ≤ senderTotalBlocks payload params config
  mem_iff : ∀ i, i ∈ blocksOf bursts ↔ 1 ≤ i ∧ i ≤ s.highestSent
  completed : s.outcome.completedSuccessfully = true →
    s.returned = true ∧ s.lastAcked = senderTotalBlocks payload params config

/-- A receive that returns without success sends nothing and moves nothing. -/
theorem sendStep_gaveUp {bursts : List Burst} {s s' : SenderState}
    (h : SentUpTo payload params config bursts s) (hacked : s'.lastAcked = s.lastAcked)
    (hsent : s'.highestSent = s.highestSent)
    (hcomp : s'.outcome.completedSuccessfully = false) :
    SendStep payload params config s (s', []) := by
  refine ⟨?_, hsent.ge, hsent.le.trans h.sent_le, fun i hi => absurd hi List.not_mem_nil, ?_, ?_⟩
  · rw [hacked, hsent]
    exact h.acked_le
  · intro i hlt hle
    exact absurd hle (by simp only [hsent]; omega)
  · intro htrue
    rw [hcomp] at htrue
    cases htrue

/-- What a receive comes to: the sender gives up, or goes through its loop again. -/
theorem senderReceive_loop {s : SenderState} (hacked : s.lastAcked ≤ s.highestSent)
    (status : ReceiveStatus) :
    (∃ s', senderReceive payload params config s status = (s', []) ∧
      s'.lastAcked = s.lastAcked ∧ s'.highestSent = s.highestSent ∧
      s'.outcome.completedSuccessfully = s.outcome.completedSuccessfully) ∨
    ∃ s', senderReceive payload params config s status = senderLoop payload params config s' ∧
      s'.lastAcked ≤ s.highestSent ∧ s'.highestSent = s.highestSent ∧ s'.outcome = s.outcome := by
  cases status with
  | socketError => exact Or.inl ⟨_, rfl, rfl, rfl, rfl⟩
  | timedOut =>
      simp only [senderReceive]
      split
      · exact Or.inl ⟨_, rfl, rfl, rfl, rfl⟩
      · exact Or.inr ⟨_, rfl, hacked, rfl, rfl⟩
  | gotPacket packet =>
      simp only [senderReceive]
      split
      · exact Or.inl ⟨_, rfl, rfl, rfl, rfl⟩
      split
      · exact Or.inr ⟨_, rfl, hacked, rfl, rfl⟩
      split
      · refine Or.inr ⟨_, rfl, ?_, rfl, rfl⟩
        rcases resolveAckToAbsolute_spec packet.blockNumber s.lastAcked s.highestSent with
          hsame | ⟨-, hle, -⟩
        · exact hsame.le.trans hacked
        · exact hle
      · exact Or.inr ⟨_, rfl, hacked, rfl, rfl⟩

/-- **One receive**, whatever it comes back with. -/
theorem sendStep_senderReceive {bursts : List Burst} {s : SenderState}
    (hfits : senderTotalBlocks payload params config + 1 < 4294967296)
    (h : SentUpTo payload params config bursts s) (hrun : s.returned = false)
    (status : ReceiveStatus) :
    SendStep payload params config s (senderReceive payload params config s status) := by
  have hcomp : s.outcome.completedSuccessfully = false := by
    rw [← Bool.not_eq_true]
    intro htrue
    have hret := (h.completed htrue).1
    rw [hrun] at hret
    cases hret
  rcases senderReceive_loop h.acked_le status with
    ⟨s', heq, hacked, hsent, hsame⟩ | ⟨s', heq, hacked, hsent, hout⟩
  · rw [heq]
    exact sendStep_gaveUp h hacked hsent (hsame.trans hcomp)
  · rw [heq]
    have hstep : SendStep payload params config s' (senderLoop payload params config s') :=
      sendStep_senderLoop hfits (by rw [hsent]; exact hacked) (by rw [hsent]; exact h.sent_le)
        (by rw [hout]; exact hcomp)
    exact ⟨hstep.acked_le, hsent ▸ hstep.grows, hstep.sent_le, hstep.sent, hsent ▸ hstep.fresh,
      hstep.completed⟩

/-- **The invariant holds in every run.** -/
theorem sentUpTo {bursts : List Burst} {s : SenderState}
    (hfits : senderTotalBlocks payload params config + 1 < 4294967296)
    (run : SenderRun payload params config startingDataPacketsSent bursts s) :
    SentUpTo payload params config bursts s := by
  induction run with
  | start =>
      have hstep := sendStep_senderLoop hfits (s :=
        { outcome := { negotiated := params, dataPacketsSent := startingDataPacketsSent } })
        (le_refl _) (Nat.zero_le _) rfl
      refine ⟨hstep.acked_le, hstep.sent_le, ?_, hstep.completed⟩
      intro i
      simp only [blocksOf, List.flatMap_cons, List.flatMap_nil, List.append_nil]
      exact ⟨hstep.sent i, fun hi => hstep.fresh i hi.1 hi.2⟩
  | @receive bursts s run hrun status ih =>
      have hstep := sendStep_senderReceive hfits ih hrun status
      refine ⟨hstep.acked_le, hstep.sent_le, ?_, hstep.completed⟩
      intro i
      have hgrows := hstep.grows
      simp only [blocksOf_append, List.mem_append, ih.mem_iff i]
      constructor
      · rintro (⟨hpos, hle⟩ | hnew)
        · exact ⟨hpos, hle.trans hgrows⟩
        · exact hstep.sent i hnew
      · rintro ⟨hpos, hle⟩
        rcases Nat.lt_or_ge s.highestSent i with hlt | hge
        · exact Or.inr (hstep.fresh i hlt hle)
        · exact Or.inl ⟨hpos, hge⟩

/-! ### An index of 32 bits -/

/-- The last index of 32 bits. -/
def lastIndex : ℕ := 4294967295

/-- What a send loop has sent when its index has wrapped around and counted up `n` times more. -/
def Burst.endless (burst : Burst) (n : ℕ) : Burst :=
  { burst with blocks := burst.blocks ++ (List.range n).map u32 }

variable (payload params config startingDataPacketsSent) in
/-- **The runs of a sender with an index of 32 bits.**  A send loop whose window edge is the last
index does not end, and the run comes to no further receive. -/
inductive CountedRun : List Burst → Option SenderState → Prop
  | waiting {bursts : List Burst} {s : SenderState}
      (run : SenderRun payload params config startingDataPacketsSent bursts s)
      (hends : lastIndex ∉ blocksOf bursts) : CountedRun bursts (some s)
  | endless {bursts : List Burst} {burst : Burst} {s : SenderState}
      (run : SenderRun payload params config startingDataPacketsSent (bursts ++ [burst]) s)
      (hends : lastIndex ∉ blocksOf bursts) (hedge : lastIndex ∈ burst.blocks) (n : ℕ) :
      CountedRun (bursts ++ [burst.endless n]) none

/-- A sender that counts fewer blocks sends the last index never. -/
theorem CountedRun.ends {bursts : List Burst} {s : Option SenderState}
    (hfits : senderTotalBlocks payload params config + 1 < 4294967296)
    (run : CountedRun payload params config startingDataPacketsSent bursts s) :
    ∃ state, s = some state ∧
      SenderRun payload params config startingDataPacketsSent bursts state := by
  cases run with
  | waiting run hends => exact ⟨_, rfl, run⟩
  | @endless bursts burst s run hends hedge n =>
      have hsent := sentUpTo hfits run
      have hle := hsent.sent_le
      have hmem : lastIndex ∈ blocksOf (bursts ++ [burst]) := by
        rw [blocksOf_append]
        exact List.mem_append_right _ hedge
      have hlast := ((hsent.mem_iff _).1 hmem).2
      unfold lastIndex at hlast
      omega

/-- A send loop of a sender that counts `2 ^ 32 - 1` blocks ends below the last index. -/
theorem senderLoop_ends {s : SenderState}
    (htotal : senderTotalBlocks payload params config = lastIndex)
    (hacked : s.lastAcked ≤ s.highestSent) (hsent : s.highestSent < lastIndex)
    (hcomp : s.outcome.completedSuccessfully = false)
    (hends : lastIndex ∉ (senderLoop payload params config s).2) :
    (senderLoop payload params config s).1.lastAcked ≤
        (senderLoop payload params config s).1.highestSent ∧
      (senderLoop payload params config s).1.highestSent < lastIndex ∧
      (senderLoop payload params config s).1.outcome.completedSuccessfully = false := by
  unfold senderLoop at hends ⊢
  rw [htotal] at hends ⊢
  rw [if_pos (by omega)] at hends ⊢
  cases haction : s.action with
  | sendNew =>
      have hnext : u32 (s.highestSent + 1) = s.highestSent + 1 := by
        refine u32_of_lt ?_
        unfold lastIndex at hsent
        omega
      rw [haction] at hends
      simp only [mem_indexRange, hnext] at hends
      refine ⟨by simp only; omega, ?_, hcomp⟩
      simp only
      omega
  | rollback => exact ⟨hacked, hsent, hcomp⟩
  | waitOnly => exact ⟨hacked, hsent, hcomp⟩

/-- **While the loops end, a sender that counts `2 ^ 32 - 1` blocks does not come to the last.** -/
theorem not_completed_of_ends {bursts : List Burst} {s : SenderState}
    (htotal : senderTotalBlocks payload params config = lastIndex)
    (run : SenderRun payload params config startingDataPacketsSent bursts s)
    (hends : lastIndex ∉ blocksOf bursts) :
    s.lastAcked ≤ s.highestSent ∧ s.highestSent < lastIndex ∧
      s.outcome.completedSuccessfully = false := by
  induction run with
  | start =>
      refine senderLoop_ends htotal (le_refl _) (Nat.succ_pos _) rfl ?_
      simpa [blocksOf, senderStart] using hends
  | @receive bursts s run hrun status ih =>
      rw [blocksOf_append, List.mem_append, not_or] at hends
      obtain ⟨hacked, hsent, hcomp⟩ := ih hends.1
      have hmem := hends.2
      rcases @senderReceive_loop payload params config s hacked status with
        ⟨s', heq, hacked', hsent', hsame⟩ | ⟨s', heq, hacked', hsent', hout⟩
      · rw [heq]
        exact ⟨by simp only; omega, by simp only; omega, hsame.trans hcomp⟩
      · simp only [heq] at hmem ⊢
        exact senderLoop_ends htotal (by omega) (by omega) (by rw [hout]; exact hcomp) hmem

end Blocks

/-! ### The check -/

section Check

variable {payload : Bytes} {params : NegotiatedParameters} {config : EngineConfig}

variable (payload params config) in
/-- The quirk leaves out the final block of a nonempty payload of full blocks. -/
def omitsFinalBlock : Prop :=
  config.quirks.omitTerminatingEmptyBlock = true ∧ payload ≠ [] ∧
    payload.length % params.blockSize = 0

variable (payload params config) in
/-- **The final-block check flags exactly the final-block defect**, in every run of the sender and
every trace that records it: with the defect no short block is ever seen, and without it a success
shows one, the last block. -/
def FinalBlockChecked : Prop :=
  ∀ (startingDataPacketsSent : ℕ) (bursts : List Burst) (s : Option SenderState)
    (context : ObserverContext) (trace : PacketTrace),
    CountedRun payload params config startingDataPacketsSent bursts s →
    context.blockSize = params.blockSize → RecordedIn payload params context bursts trace →
    (omitsFinalBlock payload params config →
      (observe trace context).terminatingShortBlockPresent = false) ∧
    (¬ omitsFinalBlock payload params config →
      (∃ state, s = some state ∧ state.outcome.completedSuccessfully = true) →
      (observe trace context).terminatingShortBlockPresent = true ∧
      ∃ last ∈ blocksOf bursts, (∀ i ∈ blocksOf bursts, i ≤ last) ∧ ∀ i ∈ blocksOf bursts,
        (blockPayload payload i params.blockSize).length < params.blockSize ↔ i = last)

/-- A sender with the defect counts the full blocks, unless the count wraps around. -/
theorem senderTotalBlocks_omit (h : omitsFinalBlock payload params config) :
    senderTotalBlocks payload params config = u32 (payload.length / params.blockSize) := by
  unfold omitsFinalBlock at h
  rw [senderTotalBlocks, if_pos h, totalBlockCount]
  generalize payload.length / params.blockSize = full
  unfold u32
  omega

/-- Without the defect the final block is counted as well, unless the count wraps around. -/
theorem senderTotalBlocks_keep (h : ¬ omitsFinalBlock payload params config) :
    senderTotalBlocks payload params config = u32 (payload.length / params.blockSize + 1) := by
  unfold omitsFinalBlock at h
  rw [senderTotalBlocks, if_neg h, totalBlockCount]
  generalize payload.length / params.blockSize = full
  unfold u32
  omega

/-- The observer's flag, in terms of the blocks a run has sent. -/
theorem RecordedIn.short_iff {context : ObserverContext} {bursts : List Burst} {trace : PacketTrace}
    (h : RecordedIn payload params context bursts trace)
    (hcontext : context.blockSize = params.blockSize) :
    (observe trace context).terminatingShortBlockPresent = true ↔
      ∃ i ∈ blocksOf bursts,
        (blockPayload payload i params.blockSize).length < params.blockSize := by
  have hdata : (dataPackets context trace.records).map (·.data) =
      (blocksOf bursts).map fun i => blockPayload payload i params.blockSize := by
    have hmap := congrArg (List.map fun parsed : Except Bytes TftpPacket =>
      (parsed.toOption.map (·.data)).getD []) h
    simpa [List.map_map, Function.comp_def, parse_dataDatagram, Except.toOption] using hmap
  rw [observe_terminatingShortBlock, hcontext]
  constructor
  · rintro ⟨packet, hpacket, hshort⟩
    have hmem := List.mem_map_of_mem (f := (·.data)) hpacket
    rw [hdata] at hmem
    obtain ⟨i, hi, heq⟩ := List.mem_map.1 hmem
    exact ⟨i, hi, by rw [heq]; exact hshort⟩
  · rintro ⟨i, hi, hshort⟩
    have hmem := List.mem_map_of_mem (f := fun i => blockPayload payload i params.blockSize) hi
    rw [← hdata] at hmem
    obtain ⟨packet, hpacket, heq⟩ := List.mem_map.1 hmem
    exact ⟨packet, hpacket, by rw [heq]; exact hshort⟩

/-- Blocks that all lie before the final one are full. -/
theorem RecordedIn.short_eq_false {context : ObserverContext} {bursts : List Burst}
    {trace : PacketTrace} (h : RecordedIn payload params context bursts trace)
    (hcontext : context.blockSize = params.blockSize) (hb : 1 ≤ params.blockSize)
    (hblocks : ∀ i ∈ blocksOf bursts,
      1 ≤ i ∧ i ≤ payload.length / params.blockSize ∧ i < 4294967296) :
    (observe trace context).terminatingShortBlockPresent = false := by
  rw [← Bool.not_eq_true, h.short_iff hcontext]
  rintro ⟨i, hi, hshort⟩
  obtain ⟨hpos, hfull, hlt⟩ := hblocks i hi
  have hlast := (length_blockPayload_lt_iff hb hpos (by omega) hlt).1 hshort
  omega

/-- The ACK of the oldest block in flight brings one block more, as long as there is one. -/
theorem senderReceive_next (hwindow : params.windowSize < 65536) {s : SenderState} {k : ℕ}
    (hacked : s.lastAcked = k) (hsent : s.highestSent = k + senderWindow params)
    (hk : k + senderWindow params < senderTotalBlocks payload params config)
    (htotal : senderTotalBlocks payload params config < 4294967296)
    {r : SenderState × List ℕ}
    (hr : r = senderReceive payload params config s (.gotPacket
      { opcode := .acknowledgement, blockNumber := wireBlockNumber (k + 1) })) :
    r.1.returned = s.returned ∧ r.1.lastAcked = k + 1 ∧
      r.1.highestSent = k + 1 + senderWindow params ∧ r.2 = [k + 1 + senderWindow params] := by
  have hpos := senderWindow_pos params
  have hwide : senderWindow params < 65536 := by
    unfold senderWindow
    omega
  have hresolve : resolveAckToAbsolute (wireBlockNumber (k + 1)) s.lastAcked s.highestSent =
      k + 1 := by
    rw [resolveAckToAbsolute_exact (by omega) (by omega), if_pos (by omega)]
  have hedge : u32 (k + 1 + senderWindow params) = k + 1 + senderWindow params :=
    u32_of_lt (by omega)
  have hnext : u32 (s.highestSent + 1) = k + 1 + senderWindow params := by
    rw [hsent, u32_of_lt (by omega)]
    omega
  subst hr
  simp only [senderReceive, hresolve]
  rw [if_neg (by decide), if_neg (by simp), if_pos (by omega), senderLoop,
    if_pos (by simp only; omega)]
  simp only [hedge, hnext]
  refine ⟨trivial, trivial, by omega, ?_⟩
  rw [Nat.min_eq_left (by omega), indexRange, Nat.add_sub_cancel_left]
  rfl

/-- A sender whose blocks are acknowledged one by one waits at each position on its way. -/
theorem exists_waiting_run (hwindow : params.windowSize < 65536)
    (htotal : senderTotalBlocks payload params config < 4294967296) (k : ℕ)
    (hk : k + senderWindow params ≤ senderTotalBlocks payload params config) :
    ∃ bursts s, SenderRun payload params config 0 bursts s ∧ s.returned = false ∧
      s.lastAcked = k ∧ s.highestSent = k + senderWindow params ∧
      ∀ i ∈ blocksOf bursts, i ≤ k + senderWindow params := by
  have hpos := senderWindow_pos params
  induction k with
  | zero =>
      have hedge : u32 (0 + senderWindow params) = senderWindow params := by
        rw [Nat.zero_add, u32_of_lt (by omega)]
      refine ⟨_, _, .start, ?_⟩
      simp only [senderStart, senderLoop, hedge]
      rw [if_pos (by omega)]
      refine ⟨rfl, rfl, by simp only; omega, fun i hi => ?_⟩
      simp only [blocksOf, List.flatMap_cons, List.flatMap_nil, List.append_nil,
        mem_indexRange] at hi
      omega
  | succ k ih =>
      obtain ⟨bursts, s, run, hrun, hacked, hsent, hblocks⟩ := ih (by omega)
      obtain ⟨hret, hacked', hsent', hnew⟩ :=
        senderReceive_next hwindow hacked hsent (by omega) htotal rfl
      refine ⟨_, _, .receive run hrun _, hret.trans hrun, hacked', hsent', fun i hi => ?_⟩
      rw [blocksOf_append, hnew, List.mem_append, List.mem_singleton] at hi
      rcases hi with hi | rfl
      · have hle := hblocks i hi
        omega
      · exact le_refl _

/-- **A sender that counts `2 ^ 32 - 1` blocks can come to send the block before the first.** -/
theorem exists_endless_run (hwindow : params.windowSize < 65536)
    (htotal : senderTotalBlocks payload params config = lastIndex) :
    ∃ bursts, CountedRun payload params config 0 bursts none ∧ 0 ∈ blocksOf bursts := by
  have hwide : senderWindow params < 65536 := by
    unfold senderWindow
    omega
  have hlt : senderTotalBlocks payload params config < 4294967296 := by
    rw [htotal]
    decide
  unfold lastIndex at htotal
  obtain ⟨bursts, s, run, hrun, hacked, hsent, hblocks⟩ :=
    exists_waiting_run hwindow hlt (4294967294 - senderWindow params) (by omega)
  obtain ⟨-, -, -, hnew⟩ := senderReceive_next hwindow hacked hsent (by omega) hlt rfl
  have hedge : 4294967294 - senderWindow params + 1 + senderWindow params = lastIndex := by
    unfold lastIndex
    omega
  rw [hedge] at hnew
  refine ⟨_, .endless (.receive run hrun (.gotPacket
    { opcode := .acknowledgement
      blockNumber := wireBlockNumber (4294967294 - senderWindow params + 1) }))
    (fun hmem => ?_) ?_ 1, ?_⟩
  · have hle := hblocks _ hmem
    unfold lastIndex at hle
    omega
  · simp only [hnew]
    exact List.mem_singleton_self _
  · rw [blocksOf_append]
    refine List.mem_append_right _ (List.mem_append_right _ ?_)
    decide

/-- A sender can wait for nothing but the ACK of its last block. -/
theorem exists_last_wait (hwindow : params.windowSize < 65536)
    (hindex : senderTotalBlocks payload params config + 1 < 4294967296)
    (hsome : 0 < senderTotalBlocks payload params config) :
    ∃ bursts s, SenderRun payload params config 0 bursts s ∧ s.returned = false ∧
      s.lastAcked < senderTotalBlocks payload params config ∧
      s.highestSent = senderTotalBlocks payload params config := by
  have hpos := senderWindow_pos params
  rcases Nat.lt_or_ge (senderTotalBlocks payload params config) (senderWindow params) with
    hlt | hge
  · -- the first window holds all blocks
    have hedge : u32 (0 + senderWindow params) = senderWindow params := by
      rw [Nat.zero_add, u32_of_lt]
      unfold senderWindow
      omega
    refine ⟨_, _, .start, ?_⟩
    simp only [senderStart, senderLoop, hedge]
    rw [if_pos hsome]
    exact ⟨rfl, hsome, by simp only; omega⟩
  · have htotal : senderTotalBlocks payload params config < 4294967296 := by omega
    obtain ⟨bursts, s, run, hrun, hacked, hsent, -⟩ := exists_waiting_run hwindow htotal
      (senderTotalBlocks payload params config - senderWindow params) (by omega)
    exact ⟨bursts, s, run, hrun, by omega, by omega⟩

/-- **Every transfer can succeed**, also one whose count of blocks has wrapped around. -/
theorem exists_successful_run (hwindow : params.windowSize < 65536)
    (hindex : senderTotalBlocks payload params config + 1 < 4294967296) :
    ∃ bursts s, SenderRun payload params config 0 bursts s ∧
      s.outcome.completedSuccessfully = true := by
  rcases Nat.eq_zero_or_pos (senderTotalBlocks payload params config) with hzero | hsome
  · refine ⟨_, _, .start, ?_⟩
    rw [senderStart, senderLoop, hzero, if_neg (Nat.lt_irrefl 0)]
  · obtain ⟨bursts, s, run, hrun, hacked, hsent⟩ := exists_last_wait hwindow hindex hsome
    have hresolve := resolveAckToAbsolute_highest (hsent ▸ hacked)
    refine ⟨_, _, .receive run hrun (.gotPacket
      { opcode := .acknowledgement, blockNumber := wireBlockNumber s.highestSent }), ?_⟩
    simp only [senderReceive, hresolve]
    rw [if_neg (by decide), if_neg (by simp), if_pos (by omega), senderLoop,
      if_neg (by simp only; omega)]

/-- The defect is flagged in every run. -/
theorem finalBlockChecked_of_omits (hb : 1 ≤ params.blockSize)
    (homit : omitsFinalBlock payload params config)
    (hindex : senderTotalBlocks payload params config + 1 < 4294967296) :
    FinalBlockChecked payload params config := by
  intro startingDataPacketsSent bursts s context trace run hcontext hrec
  obtain ⟨state, -, run⟩ := run.ends hindex
  refine ⟨fun _ => ?_, fun hkeep => absurd homit hkeep⟩
  have hsent := sentUpTo hindex run
  have hle := hsent.sent_le
  have htotal : senderTotalBlocks payload params config ≤ payload.length / params.blockSize := by
    rw [senderTotalBlocks_omit homit]
    exact Nat.mod_le _ _
  refine hrec.short_eq_false hcontext hb fun i hi => ?_
  obtain ⟨hpos, hhighest⟩ := (hsent.mem_iff i).1 hi
  exact ⟨hpos, by omega, by omega⟩

/-- Without the defect a success shows the final block, when the number of blocks fits 32 bits. -/
theorem finalBlockChecked_of_fits (hb : 1 ≤ params.blockSize)
    (hkeep : ¬ omitsFinalBlock payload params config)
    (hfits : payload.length / params.blockSize + 1 < 4294967296)
    (hindex : senderTotalBlocks payload params config + 1 < 4294967296) :
    FinalBlockChecked payload params config := by
  intro startingDataPacketsSent bursts s context trace run hcontext hrec
  refine ⟨fun homit => absurd homit hkeep, fun _ hcomp => ?_⟩
  obtain ⟨state, rfl, hrun⟩ := run.ends hindex
  obtain ⟨_, heq, hcomp⟩ := hcomp
  obtain rfl := Option.some.inj heq
  have htotal := senderTotalBlocks_keep hkeep
  rw [u32_of_lt hfits] at htotal
  have hsent := sentUpTo hindex hrun
  have hle := hsent.sent_le
  have hacked := hsent.acked_le
  have hall := (hsent.completed hcomp).2
  have hshort : ∀ i ∈ blocksOf bursts,
      (blockPayload payload i params.blockSize).length < params.blockSize ↔
        i = state.highestSent := by
    intro i hi
    obtain ⟨hpos, hhighest⟩ := (hsent.mem_iff i).1 hi
    rw [length_blockPayload_lt_iff hb hpos (by omega) (by omega)]
    omega
  have hsome : 1 ≤ senderTotalBlocks payload params config := by
    rw [htotal]
    exact Nat.le_add_left 1 _
  have hlast : state.highestSent ∈ blocksOf bursts :=
    (hsent.mem_iff state.highestSent).2 ⟨by omega, le_refl _⟩
  refine ⟨?_, state.highestSent, hlast, fun i hi => ((hsent.mem_iff i).1 hi).2, hshort⟩
  exact (hrec.short_iff hcontext).2 ⟨state.highestSent, hlast, (hshort _ hlast).2 rfl⟩

/-- When it does not, a transfer succeeds on full blocks alone. -/
theorem not_finalBlockChecked_of_wrap (hb : 1 ≤ params.blockSize)
    (hwindow : params.windowSize < 65536) (hkeep : ¬ omitsFinalBlock payload params config)
    (hwrap : 4294967296 ≤ payload.length / params.blockSize + 1)
    (hindex : senderTotalBlocks payload params config + 1 < 4294967296) :
    ¬ FinalBlockChecked payload params config := by
  intro hchecked
  obtain ⟨bursts, s, run, hcomp⟩ := exists_successful_run hwindow hindex
  have htotal := senderTotalBlocks_keep hkeep
  have hless : senderTotalBlocks payload params config ≤ payload.length / params.blockSize := by
    rw [htotal, u32]
    omega
  have hsent := sentUpTo hindex run
  have hle := hsent.sent_le
  have hends : lastIndex ∉ blocksOf bursts := by
    intro hmem
    have hlast := ((hsent.mem_iff _).1 hmem).2
    unfold lastIndex at hlast
    omega
  have hrec := @recordedIn_traceOf payload params { blockSize := params.blockSize } bursts
  have hflag := ((hchecked 0 bursts _ _ _ (.waiting run hends) rfl hrec).2 hkeep
    ⟨s, rfl, hcomp⟩).1
  rw [hrec.short_eq_false rfl hb fun i hi => ?_] at hflag
  · cases hflag
  · obtain ⟨hpos, hhighest⟩ := (hsent.mem_iff i).1 hi
    exact ⟨hpos, by omega, by omega⟩

/-- A sender without the defect that counts `2 ^ 32 - 1` blocks never succeeds. -/
theorem finalBlockChecked_of_endless (hkeep : ¬ omitsFinalBlock payload params config)
    (htotal : senderTotalBlocks payload params config = lastIndex) :
    FinalBlockChecked payload params config := by
  intro startingDataPacketsSent bursts s context trace run hcontext hrec
  refine ⟨fun homit => absurd homit hkeep, ?_⟩
  rintro - ⟨state, rfl, hcomp⟩
  cases run with
  | waiting run hends =>
      rw [(not_completed_of_ends htotal run hends).2.2] at hcomp
      cases hcomp

/-- A payload of more full blocks than there are indices has no short one among them. -/
theorem le_length_blockPayload (hlarge : 4294967296 ≤ payload.length / params.blockSize) (i : ℕ) :
    params.blockSize ≤ (blockPayload payload i params.blockSize).length := by
  have hindex : u32 (i + 4294967295) < 4294967296 := Nat.mod_lt _ (by decide)
  have hsize : 0 < params.blockSize := by
    by_contra hzero
    rw [Nat.eq_zero_of_not_pos hzero, Nat.div_zero] at hlarge
    omega
  have hend : (u32 (i + 4294967295) + 1) * params.blockSize ≤ payload.length :=
    (Nat.le_div_iff_mul_le hsize).1 (by omega)
  rw [Nat.succ_mul] at hend
  unfold blockPayload
  simp only
  rw [if_neg (by omega), List.length_take, List.length_drop]
  omega

/-- With it, all its blocks are full if the payload has more than `2 ^ 32 - 1` of them. -/
theorem finalBlockChecked_of_large (homit : omitsFinalBlock payload params config)
    (hlarge : 4294967296 ≤ payload.length / params.blockSize) :
    FinalBlockChecked payload params config := by
  intro startingDataPacketsSent bursts s context trace run hcontext hrec
  refine ⟨fun _ => ?_, fun hkeep => absurd homit hkeep⟩
  rw [← Bool.not_eq_true, hrec.short_iff hcontext]
  rintro ⟨i, -, hshort⟩
  have hfull := le_length_blockPayload hlarge i
  omega

/-- **A sender with the defect that counts `2 ^ 32 - 1` full blocks sends an empty one.** -/
theorem not_finalBlockChecked_of_endless (hb : 1 ≤ params.blockSize)
    (hwindow : params.windowSize < 65536) (homit : omitsFinalBlock payload params config)
    (hfull : payload.length / params.blockSize = lastIndex) :
    ¬ FinalBlockChecked payload params config := by
  intro hchecked
  have htotal : senderTotalBlocks payload params config = lastIndex := by
    rw [senderTotalBlocks_omit homit, hfull]
    decide
  obtain ⟨bursts, run, hzero⟩ := exists_endless_run hwindow htotal
  have hrec := @recordedIn_traceOf payload params { blockSize := params.blockSize } bursts
  have hflag := (hchecked 0 bursts _ _ _ run rfl hrec).1 homit
  have hlength : payload.length = lastIndex * params.blockSize := by
    have hdiv := Nat.div_add_mod payload.length params.blockSize
    rw [hfull, homit.2.2, Nat.mul_comm] at hdiv
    exact hdiv.symm
  have hempty : blockPayload payload 0 params.blockSize = [] := if_pos hlength.le
  have hshort := (hrec.short_iff rfl).2 ⟨0, hzero, by rw [hempty]; exact hb⟩
  rw [hflag] at hshort
  cases hshort

/-- **The final-block check flags exactly the defect**, unless the sender is with it and the index
of its blocks wraps around to an empty one, or without it and succeeds on a count that has wrapped
around. -/
theorem finalBlockChecked_iff (hb : 1 ≤ params.blockSize) (hwindow : params.windowSize < 65536) :
    FinalBlockChecked payload params config ↔
      (omitsFinalBlock payload params config → payload.length / params.blockSize ≠ lastIndex) ∧
        (¬ omitsFinalBlock payload params config →
          payload.length / params.blockSize + 1 < 4294967296 ∨
            u32 (payload.length / params.blockSize + 1) = lastIndex) := by
  by_cases homit : omitsFinalBlock payload params config
  · have htotal := senderTotalBlocks_omit homit
    simp only [homit, forall_const, not_true, false_implies, and_true]
    constructor
    · exact fun hchecked hfull => not_finalBlockChecked_of_endless hb hwindow homit hfull hchecked
    · intro hne
      unfold lastIndex at hne
      rcases Nat.lt_or_ge (payload.length / params.blockSize) 4294967296 with hlt | hlarge
      · rw [u32_of_lt hlt] at htotal
        exact finalBlockChecked_of_omits hb homit (by omega)
      · exact finalBlockChecked_of_large homit hlarge
  · have htotal := senderTotalBlocks_keep homit
    simp only [homit, false_implies, not_false_eq_true, forall_const, true_and]
    by_cases hlast : u32 (payload.length / params.blockSize + 1) = lastIndex
    · exact iff_of_true (finalBlockChecked_of_endless homit (htotal.trans hlast)) (Or.inr hlast)
    · have hindex : senderTotalBlocks payload params config + 1 < 4294967296 := by
        have hlt : u32 (payload.length / params.blockSize + 1) < 4294967296 :=
          Nat.mod_lt _ (by decide)
        unfold lastIndex at hlast
        omega
      rw [or_iff_left hlast]
      constructor
      · intro hchecked
        by_contra hwrap
        exact not_finalBlockChecked_of_wrap hb hwindow homit (not_lt.1 hwrap) hindex hchecked
      · exact fun hfits => finalBlockChecked_of_fits hb homit hfits hindex

/-- Two full blocks, sent by an engine with the defect. -/
theorem finalBlockChecked_iff_two_blocks :
    FinalBlockChecked [7, 8] { blockSize := 1 }
        { quirks := { omitTerminatingEmptyBlock := true } } ↔
      (omitsFinalBlock [7, 8] { blockSize := 1 }
          { quirks := { omitTerminatingEmptyBlock := true } } → 2 / 1 ≠ lastIndex) ∧
        (¬ omitsFinalBlock [7, 8] { blockSize := 1 }
          { quirks := { omitTerminatingEmptyBlock := true } } →
            2 / 1 + 1 < 4294967296 ∨ u32 (2 / 1 + 1) = lastIndex) :=
  finalBlockChecked_iff (by decide) (by decide)

/-- **2^32 - 1 full blocks**: the count of the blocks wraps around to zero, and the transfer
succeeds without its final block. -/
theorem final_block_missed_at_wrap :
    ¬ FinalBlockChecked (List.replicate (4294967295 * 8) 0) { blockSize := 8 } {} := by
  have hmissed : ∀ payload : Bytes, payload.length / 8 = 4294967295 →
      ¬ FinalBlockChecked payload { blockSize := 8 } {} := by
    intro payload hfull
    have hkeep : ¬ omitsFinalBlock payload { blockSize := 8 } {} := fun h => Bool.noConfusion h.1
    have hzero : senderTotalBlocks payload { blockSize := 8 } {} = 0 := by
      rw [senderTotalBlocks_keep hkeep, hfull]
      decide
    exact not_finalBlockChecked_of_wrap (by decide) (by decide) hkeep (by simp only; omega)
      (by omega)
  exact hmissed _ (by rw [List.length_replicate])

end Check

end TftpHarness
