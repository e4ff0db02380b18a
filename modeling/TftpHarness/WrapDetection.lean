/-
**Wraparound of the block number, as the observer sees it.**

The sender numbers its blocks from 1 and puts the low 16 bits on the wire.  The observer reports a
wraparound when a number below 100 follows 65535.  Block 65536 does follow 65535, whatever happens
between the two: the last block sent is always the highest one.  But a rollback also puts a low
number behind the highest one, and when the highest block is 65535 and the window is almost as large
as the numbers, the observer takes the rollback for a wraparound.

Main definitions:

* `TftpHarness.NoCrossing` — two adjacent numbers that the observer passes over;
* `TftpHarness.WrapLedger` — the invariant of a run: the last block, and what crosses;
* `TftpHarness.Burst.EarlyRollback` — a timeout that leads from 65535 to a number below 100.

Main results:

* `TftpHarness.observe_blockNumberWrapped` — the flag, on every trace;
* `TftpHarness.wrapLedger` — the invariant holds in every run;
* `TftpHarness.blockNumberWrapped_exact_iff` — **the flag is right unless the sender goes back from
  65535 to a block below 100 and then sends no block past 65535**.
-/

import TftpHarness.Retransmission
import Mathlib.Data.List.Chain

set_option relaxedAutoImplicit false
set_option autoImplicit false

namespace TftpHarness

/-! ### What the observer flags -/

/-- Two adjacent block numbers between which the observer sees no wraparound. -/
def NoCrossing (previous next : ℕ) : Prop := ¬ (previous = 65535 ∧ next < 100)

section Observer

variable (context : ObserverContext)

/-- The part of the observer that watches for a wraparound. -/
def ObserverState.wrapWatch (s : ObserverState) : Bool × Bool × ℕ :=
  (s.report.blockNumberWrapped, s.havePreviousBlock, s.previousBlockForWrap)

/-- One record moves the watch by the number of the DATA packet it shows, if any. -/
theorem observeRecord_wrapWatch (s : ObserverState) (record : TraceRecord) :
    (observeRecord context s record).wrapWatch =
      match record.dataPacket context with
      | some packet =>
          (s.report.blockNumberWrapped || (s.havePreviousBlock && s.previousBlockForWrap == 65535 &&
            decide (packet.blockNumber < 100)), true, packet.blockNumber)
      | none => s.wrapWatch := by
  have hnotes := notes_frame s record
  have hflag := hnotes.blockNumberWrapped
  have hhave := hnotes.havePreviousBlock
  have hprevious := hnotes.previousBlockForWrap
  unfold observeRecord
  cases record.dataPacket context with
  | none =>
      cases record.ackPacket context with
      | none => simp only [ObserverState.wrapWatch, hflag, hhave, hprevious]
      | some ack =>
          simp only [ObserverState.countAckPacket, ObserverState.wrapWatch, hflag, hhave, hprevious]
  | some packet =>
      cases record.ackPacket context with
      | none =>
          simp [ObserverState.countDataPacket, ObserverState.wrapWatch, hflag, hhave, hprevious]
      | some ack =>
          simp [ObserverState.countDataPacket, ObserverState.countAckPacket,
            ObserverState.wrapWatch, hflag, hhave, hprevious]

/-- After any records the watch knows the last number, and it is silent as long as no two adjacent
numbers cross. -/
theorem foldl_observeRecord_wrapWatch (start : ObserverState)
    (hstart : start.wrapWatch = (false, false, 0)) (records : List TraceRecord) :
    let numbers := (dataPackets context records).map (·.blockNumber)
    let s := records.foldl (observeRecord context) start
    (s.report.blockNumberWrapped = false ↔ numbers.IsChain NoCrossing) ∧
      numbers.getLast? = if s.havePreviousBlock then some s.previousBlockForWrap else none := by
  induction records using List.reverseRecOn with
  | nil =>
      obtain ⟨hflag, hrest⟩ := Prod.mk.inj hstart
      obtain ⟨hhave, -⟩ := Prod.mk.inj hrest
      simp [dataPackets, hflag, hhave]
  | append_singleton records record ih =>
      obtain ⟨hchain, hlast⟩ := ih
      have hwatch := observeRecord_wrapWatch context (records.foldl (observeRecord context) start)
        record
      cases hpacket : record.dataPacket context with
      | none =>
          have hskip : dataPackets context (records ++ [record]) = dataPackets context records := by
            simp [dataPackets, hpacket]
          rw [hpacket] at hwatch
          obtain ⟨hflag, hrest⟩ := Prod.mk.inj hwatch
          obtain ⟨hhave, hprevious⟩ := Prod.mk.inj hrest
          simp only [List.foldl_append, List.foldl_cons, List.foldl_nil, hskip, hflag, hhave,
            hprevious]
          exact ⟨hchain, hlast⟩
      | some packet =>
          have hsnoc : dataPackets context (records ++ [record]) =
              dataPackets context records ++ [packet] := by
            simp [dataPackets, hpacket]
          rw [hpacket] at hwatch
          obtain ⟨hflag, hrest⟩ := Prod.mk.inj hwatch
          obtain ⟨hhave, hprevious⟩ := Prod.mk.inj hrest
          simp only [List.foldl_append, List.foldl_cons, List.foldl_nil, hsnoc, hflag, hhave,
            hprevious, List.map_append, List.map_cons, List.map_nil, List.isChain_append, hlast,
            ← hchain, Bool.or_eq_false_iff]
          refine ⟨and_congr_right fun _ => ?_, by simp⟩
          cases (records.foldl (observeRecord context) start).havePreviousBlock with
          | false => simp
          | true => simp [NoCrossing]

/-- **The flag**: it stays down exactly when no two adjacent block numbers of the data direction
cross. -/
theorem observe_blockNumberWrapped (trace : PacketTrace) :
    (observe trace context).blockNumberWrapped = false ↔
      ((dataPackets context trace.records).map (·.blockNumber)).IsChain NoCrossing :=
  (foldl_observeRecord_wrapWatch context
    { report := { totalRecords := u32 trace.records.length } } rfl trace.records).1

end Observer

/-! ### Runs of the sender -/

/-- The sender answers a timeout by going back from block 65535 to one below 100. -/
structure Burst.EarlyRollback (burst : Burst) : Prop where
  timedOut : burst.cause = some .timedOut
  first : ∃ i ∈ burst.blocks.head?, i < 100
  last : burst.blocks.getLast? = some 65535

/-- **The invariant of a run**: the last block sent is the highest one, and the numbers on the wire
do not cross before block 65536, except in an early rollback. -/
structure WrapLedger (bursts : List Burst) (s : SenderState) : Prop where
  last : ∀ i ∈ (blocksOf bursts).getLast?, i = s.highestSent
  chain : ((blocksOf bursts).map wireBlockNumber).IsChain NoCrossing ↔
    s.highestSent ≤ 65535 ∧ ∀ burst ∈ bursts, ¬ burst.EarlyRollback

theorem head?_indexRange {lo hi : ℕ} (h : lo ≤ hi) : (indexRange lo hi).head? = some lo := by
  rw [indexRange_eq_cons h]
  rfl

theorem getLast?_indexRange {lo hi : ℕ} (h : lo ≤ hi) : (indexRange lo hi).getLast? = some hi := by
  have hsplit := @indexRange_append lo (hi - 1) hi (by omega) (by omega)
  have hlast : indexRange (hi - 1 + 1) hi = [hi] ∨ hi = 0 := by
    rcases Nat.eq_zero_or_pos hi with hzero | hpos
    · exact Or.inr hzero
    · refine Or.inl ?_
      rw [Nat.sub_add_cancel hpos, indexRange_eq_cons (le_refl _),
        indexRange_eq_nil (Nat.lt_succ_self _)]
  rcases hlast with hlast | rfl
  · rw [← hsplit, hlast, List.getLast?_concat]
  · obtain rfl : lo = 0 := by omega
    rfl

theorem noCrossing_of_lt {i j : ℕ} (hlt : i < j) (hle : j ≤ 65535) :
    NoCrossing (wireBlockNumber i) (wireBlockNumber j) := by
  rintro ⟨hwire, -⟩
  rw [wireBlockNumber_of_lt (by omega)] at hwire
  omega

/-- Consecutive blocks cross exactly at block 65536. -/
theorem isChain_indexRange {lo hi : ℕ} (hlo : lo ≤ 65535) :
    ((indexRange lo hi).map wireBlockNumber).IsChain NoCrossing ↔ hi ≤ 65535 := by
  constructor
  · intro hchain
    by_contra hhi
    have hsplit := @indexRange_append lo 65535 hi (by omega) (by omega)
    rw [← hsplit, List.map_append, List.isChain_append] at hchain
    refine hchain.2.2 65535 ?_ 0 ?_ ⟨rfl, by decide⟩
    · rw [List.getLast?_map, getLast?_indexRange hlo]
      rfl
    · rw [List.head?_map, head?_indexRange (by omega)]
      rfl
  · intro hhi
    refine List.Pairwise.isChain (List.pairwise_map.2 ?_)
    refine (pairwise_indexRange lo hi).imp_of_mem fun _ hj hlt => noCrossing_of_lt hlt ?_
    exact le_trans (mem_indexRange.1 hj).2 hhi

section Runs

variable {payload : Bytes} {params : NegotiatedParameters} {config : EngineConfig}
variable {startingDataPacketsSent : ℕ}

/-- A burst that answers anything but a timeout is no early rollback. -/
theorem Burst.not_earlyRollback {burst : Burst} (h : burst.cause ≠ some .timedOut) :
    ¬ burst.EarlyRollback :=
  fun hearly => h hearly.timedOut

/-- A burst without blocks changes nothing. -/
theorem WrapLedger.quiet {bursts : List Burst} {s s' : SenderState} (h : WrapLedger bursts s)
    (hsent : s'.highestSent = s.highestSent) (cause : Option ReceiveStatus) :
    WrapLedger (bursts ++ [⟨cause, []⟩]) s' := by
  have hquiet : ¬ Burst.EarlyRollback ⟨cause, []⟩ := fun hearly => by
    simpa using hearly.last
  refine ⟨?_, ?_⟩
  · rw [blocksOf_append, List.append_nil, hsent]
    exact h.last
  · rw [blocksOf_append, List.append_nil, h.chain, hsent, List.forall_mem_append,
      List.forall_mem_singleton, and_iff_left hquiet]

/-- What crosses after a burst: what crossed before, what crosses in the burst, and the step into
it. -/
theorem WrapLedger.isChain_append {bursts : List Burst} {s : SenderState} (h : WrapLedger bursts s)
    (hlast : (blocksOf bursts).getLast? = some s.highestSent) (burst : Burst) :
    ((blocksOf (bursts ++ [burst])).map wireBlockNumber).IsChain NoCrossing ↔
      (s.highestSent ≤ 65535 ∧ ∀ burst ∈ bursts, ¬ burst.EarlyRollback) ∧
        (burst.blocks.map wireBlockNumber).IsChain NoCrossing ∧
        ∀ j ∈ burst.blocks.head?,
          NoCrossing (wireBlockNumber s.highestSent) (wireBlockNumber j) := by
  rw [blocksOf_append, List.map_append, List.isChain_append, h.chain, List.getLast?_map, hlast,
    List.head?_map]
  simp

/-- A rollback is early if it goes back from 65535 to a block below 100. -/
theorem earlyRollback_indexRange {lo hi : ℕ} (h : lo ≤ hi) :
    Burst.EarlyRollback ⟨some .timedOut, indexRange lo hi⟩ ↔ lo < 100 ∧ hi = 65535 := by
  have hhead := head?_indexRange h
  have hend := getLast?_indexRange h
  constructor
  · rintro ⟨-, ⟨i, hi, hlt⟩, hsent⟩
    rw [hhead] at hi
    rw [hend] at hsent
    obtain rfl := Option.some.inj hi
    exact ⟨hlt, Option.some.inj hsent⟩
  · rintro ⟨hlt, heq⟩
    exact ⟨rfl, ⟨_, hhead, hlt⟩, by rw [hend, heq]⟩

/-- A rollback ends at the highest block sent. -/
theorem WrapLedger.rollback {bursts : List Burst} {s s' : SenderState} (h : WrapLedger bursts s)
    (hlast : (blocksOf bursts).getLast? = some s.highestSent) {lo : ℕ} (hlo : lo ≤ s.highestSent)
    (hsent : s'.highestSent = s.highestSent) :
    WrapLedger (bursts ++ [⟨some .timedOut, indexRange lo s.highestSent⟩]) s' := by
  refine ⟨?_, ?_⟩
  · rw [blocksOf_append, List.getLast?_append, getLast?_indexRange hlo, hsent]
    simp
  · rw [h.isChain_append hlast, hsent, List.forall_mem_append, List.forall_mem_singleton,
      earlyRollback_indexRange hlo, head?_indexRange hlo]
    simp only [Option.mem_some_iff, forall_eq']
    constructor
    · rintro ⟨⟨hle, hbursts⟩, -, hcross⟩
      refine ⟨hle, hbursts, fun ⟨hlt, heq⟩ => hcross ⟨?_, ?_⟩⟩
      · rw [heq]
        rfl
      · rw [wireBlockNumber_of_lt (by omega)]
        exact hlt
    · rintro ⟨hle, hbursts, hnot⟩
      refine ⟨⟨hle, hbursts⟩, (isChain_indexRange (by omega)).2 hle, fun ⟨hwire, hlt⟩ => ?_⟩
      rw [wireBlockNumber_of_lt (by omega)] at hwire hlt
      exact hnot ⟨hlt, hwire⟩

/-- New blocks follow the highest one. -/
theorem WrapLedger.advance {bursts : List Burst} {s s' : SenderState} (h : WrapLedger bursts s)
    (hlast : (blocksOf bursts).getLast? = some s.highestSent)
    (hlt : s.highestSent < s'.highestSent) {cause : Option ReceiveStatus}
    (hcause : cause ≠ some .timedOut) :
    WrapLedger (bursts ++ [⟨cause, indexRange (s.highestSent + 1) s'.highestSent⟩]) s' := by
  have hle : s.highestSent + 1 ≤ s'.highestSent := hlt
  have hfresh : ¬ Burst.EarlyRollback
      ⟨cause, indexRange (s.highestSent + 1) s'.highestSent⟩ := Burst.not_earlyRollback hcause
  refine ⟨?_, ?_⟩
  · rw [blocksOf_append, List.getLast?_append, getLast?_indexRange hle]
    simp
  · rw [h.isChain_append hlast, List.forall_mem_append, List.forall_mem_singleton,
      head?_indexRange hle]
    simp only [Option.mem_some_iff, forall_eq']
    constructor
    · rintro ⟨⟨hle, hbursts⟩, hchain, hcross⟩
      refine ⟨?_, hbursts, hfresh⟩
      rcases Nat.eq_or_lt_of_le hle with htop | hbelow
      · -- block 65536 would follow 65535
        rw [htop] at hcross
        exact absurd ⟨rfl, by decide⟩ hcross
      · exact (isChain_indexRange (by omega)).1 hchain
    · rintro ⟨hle, hbursts, -⟩
      exact ⟨⟨by omega, hbursts⟩, (isChain_indexRange (by omega)).2 hle,
        noCrossing_of_lt (Nat.lt_succ_self _) (by omega)⟩

/-- **One move keeps the invariant**: new blocks follow the highest one, and a rollback crosses when
it is early. -/
theorem WrapLedger.receive {bursts : List Burst} {s s' : SenderState} {blocks : List ℕ}
    {status : ReceiveStatus} (h : WrapLedger bursts s)
    (hmem : ∀ i, i ∈ blocksOf bursts ↔ 1 ≤ i ∧ i ≤ s.highestSent)
    (hflight : s.lastAcked < s.highestSent) (hmove : SenderMove config s status (s', blocks)) :
    WrapLedger (bursts ++ [⟨some status, blocks⟩]) s' := by
  have hlast : (blocksOf bursts).getLast? = some s.highestSent := by
    have hne : blocksOf bursts ≠ [] :=
      List.ne_nil_of_mem ((hmem s.highestSent).2 ⟨by omega, le_refl _⟩)
    rw [List.getLast?_eq_some_getLast hne]
    exact congrArg some (h.last _ (List.getLast?_eq_some_getLast hne))
  cases hmove with
  | quiet hacked hsent hpackets hresent hcause => exact h.quiet hsent _
  | rollback hacked hsent hpackets hresent htimeouts hbudget =>
      exact h.rollback hlast hflight hsent
  | advance hstatus hacked hsent hpackets hresent htimeouts =>
      rcases Nat.eq_or_lt_of_le hsent with heq | hlt
      · -- the window was already full
        have hnil : indexRange (s.highestSent + 1) s'.highestSent = [] :=
          indexRange_eq_nil (by omega)
        rw [hnil]
        exact h.quiet heq.symm _
      · exact h.advance hlast hlt (by simpa using hstatus)

/-- **The invariant holds in every run.** -/
theorem wrapLedger {bursts : List Burst} {s : SenderState}
    (run : SenderRun payload params config startingDataPacketsSent bursts s)
    (hq : config.quirks.retransmitOnDuplicateAck = false)
    (hstarting : startingDataPacketsSent < 4294967296)
    (hbound : senderTotalBlocks payload params config + senderWindow params < 4294967296) :
    WrapLedger bursts s := by
  induction run with
  | start =>
      have hsent := @blocksOf_start payload params config startingDataPacketsSent hbound
      have hfresh : ¬ Burst.EarlyRollback
          ⟨none, (senderStart payload params config startingDataPacketsSent).2⟩ :=
        Burst.not_earlyRollback (by simp)
      have hblocks :
          blocksOf [⟨none, (senderStart payload params config startingDataPacketsSent).2⟩] =
            indexRange 1 (senderStart payload params config
              startingDataPacketsSent).1.highestSent := by
        rw [← hsent]
        simp [blocksOf]
      refine ⟨?_, ?_⟩
      · rw [hblocks]
        intro i hi
        have hmem := mem_indexRange.1 (List.mem_of_getLast? hi)
        rw [getLast?_indexRange (le_trans hmem.1 hmem.2)] at hi
        exact (Option.some.inj hi).symm
      · rw [hblocks, isChain_indexRange (by decide), List.forall_mem_singleton,
          and_iff_left hfresh]
  | @receive bursts s run hrun status ih =>
      have hledger := senderLedger run hq hstarting hbound
      have hpackets : s.outcome.dataPacketsSent < 4294967296 := by
        rw [hledger.packets]
        exact Nat.mod_lt _ (by decide)
      obtain ⟨hlt, hfull, -⟩ := hledger.window.waiting hrun
      have hflight : s.lastAcked < s.highestSent := by
        have hpos := senderWindow_pos params
        omega
      exact ih.receive hledger.mem_iff hflight
        (senderMove_receive hledger.window hbound hq hrun hpackets status)

/-- A rollback that is early goes over a window of 65437 blocks at least. -/
theorem not_earlyRollback_of_window {bursts : List Burst} {s : SenderState}
    (run : SenderRun payload params config startingDataPacketsSent bursts s)
    (hq : config.quirks.retransmitOnDuplicateAck = false)
    (hstarting : startingDataPacketsSent < 4294967296)
    (hbound : senderTotalBlocks payload params config + senderWindow params < 4294967296)
    (hsmall : senderWindow params ≤ 65436) : ∀ burst ∈ bursts, ¬ burst.EarlyRollback := by
  induction run with
  | start =>
      rw [List.forall_mem_singleton]
      exact Burst.not_earlyRollback (by simp)
  | @receive bursts s run hrun status ih =>
      have hledger := senderLedger run hq hstarting hbound
      have hpackets : s.outcome.dataPacketsSent < 4294967296 := by
        rw [hledger.packets]
        exact Nat.mod_lt _ (by decide)
      obtain ⟨hlt, hfull, -⟩ := hledger.window.waiting hrun
      have hflight : s.lastAcked + 1 ≤ s.highestSent := by
        have hpos := senderWindow_pos params
        omega
      rw [List.forall_mem_append, List.forall_mem_singleton]
      refine ⟨ih, fun hearly => ?_⟩
      have hstatus : status = .timedOut := Option.some.inj hearly.timedOut
      obtain ⟨i, hi, hlow⟩ := hearly.first
      have hlast := hearly.last
      have hmove := senderMove_receive hledger.window hbound hq hrun hpackets status
      generalize senderReceive payload params config s status = next at hmove hi hlast
      cases hmove with
      | quiet => simp at hi
      | advance hne => exact hne hstatus
      | rollback =>
          rw [head?_indexRange hflight] at hi
          rw [getLast?_indexRange hflight] at hlast
          obtain rfl := Option.some.inj hi
          have htop := Option.some.inj hlast
          omega

end Runs

/-! ### Exactness -/

section Claims

variable {payload : Bytes} {params : NegotiatedParameters} {config : EngineConfig}

/-- **When the flag is right**: it says that block 65536 or one beyond it was sent, unless the
sender goes back from 65535 to a block below 100 and never gets past 65535.  With a window of up to
65436 blocks it does not. -/
theorem blockNumberWrapped_exact_iff {startingDataPacketsSent : ℕ} {bursts : List Burst}
    {s : SenderState} {trace : PacketTrace} {context : ObserverContext}
    (run : SenderRun payload params config startingDataPacketsSent bursts s)
    (hquirks : config.quirks = {}) (hwindow : 1 ≤ params.windowSize)
    (hstarting : startingDataPacketsSent < 4294967296)
    (hbound : senderTotalBlocks payload params config + params.windowSize < 4294967296)
    (hrec : RecordedIn payload params context bursts trace) :
    (((observe trace context).blockNumberWrapped = true ↔ ∃ i ∈ blocksOf bursts, 65536 ≤ i) ↔
        ((∃ i ∈ blocksOf bursts, 65536 ≤ i) ∨ ∀ burst ∈ bursts, ¬ burst.EarlyRollback)) ∧
      (params.windowSize ≤ 65436 →
        ((observe trace context).blockNumberWrapped = true ↔
          ∃ i ∈ blocksOf bursts, 65536 ≤ i)) := by
  have hw : senderWindow params = params.windowSize := max_eq_left hwindow
  have hq : config.quirks.retransmitOnDuplicateAck = false := by rw [hquirks]
  rw [← hw] at hbound ⊢
  have hledger := senderLedger run hq hstarting hbound
  have hflag : (observe trace context).blockNumberWrapped = false ↔
      s.highestSent ≤ 65535 ∧ ∀ burst ∈ bursts, ¬ burst.EarlyRollback := by
    rw [observe_blockNumberWrapped, hrec.numbers]
    exact (wrapLedger run hq hstarting hbound).chain
  have hpast : (∃ i ∈ blocksOf bursts, 65536 ≤ i) ↔ ¬ s.highestSent ≤ 65535 := by
    constructor
    · rintro ⟨i, hi, hge⟩
      have hle := ((hledger.mem_iff i).1 hi).2
      omega
    · intro hnot
      exact ⟨s.highestSent, (hledger.mem_iff _).2 ⟨by omega, le_refl _⟩, by omega⟩
  have hiff : ((observe trace context).blockNumberWrapped = true ↔
      ∃ i ∈ blocksOf bursts, 65536 ≤ i) ↔
      ((∃ i ∈ blocksOf bursts, 65536 ≤ i) ∨ ∀ burst ∈ bursts, ¬ burst.EarlyRollback) := by
    rw [← Bool.not_eq_false, hflag, hpast]
    by_cases hle : s.highestSent ≤ 65535 <;> simp [hle]
  exact ⟨hiff, fun hsmall => hiff.2 (Or.inr
    (not_earlyRollback_of_window run hq hstarting hbound hsmall))⟩

/-- A window of 65436 blocks, and an ACK for block 200 that lets the sender pass block 65535. -/
theorem blockNumberWrapped_exact_second_window :
    ∃ bursts s trace,
      SenderRun (List.replicate 70000 0) { blockSize := 1, windowSize := 65436 } {} 0 bursts s ∧
        RecordedIn (List.replicate 70000 0) { blockSize := 1, windowSize := 65436 } {}
          bursts trace ∧
        65636 ∈ blocksOf bursts ∧ (observe trace {}).blockNumberWrapped = true := by
  have hlength : (List.replicate 70000 (0 : UInt8)).length = 70000 := List.length_replicate
  generalize List.replicate 70000 (0 : UInt8) = payload at hlength ⊢
  set params : NegotiatedParameters := { blockSize := 1, windowSize := 65436 }
  have htotal : senderTotalBlocks payload params {} = 70001 := by
    rw [senderTotalBlocks_eq rfl (by rw [hlength]; decide), hlength]
    decide +kernel
  have hwindow : senderWindow params = 65436 := by decide
  have hbound : senderTotalBlocks payload params {} + senderWindow params < 4294967296 := by
    omega
  have hadv := @advanced_senderStart payload params {} 0 hbound
  have hrun : (senderStart payload params {} 0).1.returned = false :=
    hadv.running (by omega)
  have hhighest : (senderStart payload params {} 0).1.highestSent = 65436 := by
    rw [hadv.highestSent, htotal, hwindow]
    omega
  have hacked := hadv.lastAcked
  generalize hstatus : ReceiveStatus.gotPacket
    { opcode := .acknowledgement, blockNumber := wireBlockNumber 200 } = status
  have run := SenderRun.receive (@SenderRun.start payload params {} 0) hrun status
  -- the ACK opens the window up to block 200 + 65436
  have hresolved : resolveAckToAbsolute (wireBlockNumber 200)
      (senderStart payload params {} 0).1.lastAcked
      (senderStart payload params {} 0).1.highestSent = 200 := by
    rw [hacked, hhighest, resolveAckToAbsolute_exact (by decide) (by decide)]
    exact if_pos (by decide)
  have hsent : (senderReceive payload params {} (senderStart payload params {} 0).1
      status).1.highestSent = 65636 := by
    rcases @senderReceive_ack payload params {} (senderStart payload params {} 0).1
      { opcode := .acknowledgement, blockNumber := wireBlockNumber 200 }
      (senderInv_start 0 hbound) hbound rfl hrun rfl with ⟨hsame, -⟩ | ⟨-, -, hnext⟩
    · rw [hresolved, hacked] at hsame
      exact absurd hsame (by decide)
    · rw [← hstatus, hnext.highestSent, hresolved, htotal, hwindow]
      omega
  have hrec := @recordedIn_traceOf payload params {}
    ([⟨none, (senderStart payload params {} 0).2⟩] ++
      [⟨some status,
        (senderReceive payload params {} (senderStart payload params {} 0).1 status).2⟩])
  have hmem := ((senderLedger run rfl (by decide) hbound).mem_iff 65636).2
    ⟨by decide, by rw [hsent]⟩
  refine ⟨_, _, _, run, hrec, hmem, ?_⟩
  obtain ⟨-, hflag⟩ := blockNumberWrapped_exact_iff run rfl (by decide) (by decide) hbound hrec
  exact (hflag (le_refl _)).2 ⟨65636, hmem, by decide⟩

/-- A timeout within the budget does not move the highest block sent. -/
theorem highestSent_timedOut {s : SenderState} (hinv : SenderInv payload params config s)
    (hbound : senderTotalBlocks payload params config + senderWindow params < 4294967296)
    (hrun : s.returned = false) (hbudget : s.consecutiveTimeouts < config.maximumRetransmissions) :
    (senderReceive payload params config s .timedOut).1.highestSent = s.highestSent := by
  rw [(senderReceive_timedOut hinv hbound hrun hbudget).2]

/-- **A window of 65535 blocks, lost once**: the sender repeats blocks 1 to 65535, has no other
block to send, and the observer reports a wraparound. -/
theorem earlyRollback_flagged :
    ∃ bursts s trace,
      SenderRun (List.replicate (65534 * 8) 0) { blockSize := 8, windowSize := 65535 } {} 0
          bursts s ∧
        RecordedIn (List.replicate (65534 * 8) 0) { blockSize := 8, windowSize := 65535 } {}
          bursts trace ∧
        (observe trace {}).blockNumberWrapped = true ∧ ∀ i ∈ blocksOf bursts, i ≤ 65535 := by
  have hlength : (List.replicate (65534 * 8) (0 : UInt8)).length = 524272 := List.length_replicate
  generalize List.replicate (65534 * 8) (0 : UInt8) = payload at hlength ⊢
  set params : NegotiatedParameters := { blockSize := 8, windowSize := 65535 }
  have htotal : senderTotalBlocks payload params {} = 65535 := by
    rw [senderTotalBlocks_eq rfl (by rw [hlength]; decide), hlength]
    decide +kernel
  have hbound : senderTotalBlocks payload params {} + senderWindow params < 4294967296 := by
    rw [htotal]
    decide
  have hadv := @advanced_senderStart payload params {} 0 hbound
  have hrun : (senderStart payload params {} 0).1.returned = false :=
    hadv.running (by rw [htotal]; decide)
  have hhighest : (senderStart payload params {} 0).1.highestSent = 65535 := by
    rw [hadv.highestSent, htotal, Nat.zero_add]
    exact min_eq_right (le_max_left _ _)
  have run := SenderRun.receive (@SenderRun.start payload params {} 0) hrun .timedOut
  -- nothing is acknowledged, so everything goes out again
  have hbudget : (senderStart payload params {} 0).1.consecutiveTimeouts <
      ({} : EngineConfig).maximumRetransmissions := by
    rw [hadv.consecutiveTimeouts]
    decide
  have hblocks := (senderReceive_timedOut (senderInv_start 0 hbound) hbound hrun hbudget).1
  rw [hadv.lastAcked, hhighest] at hblocks
  have hsent : (senderReceive payload params {} (senderStart payload params {} 0).1
      .timedOut).1.highestSent = 65535 :=
    (highestSent_timedOut (senderInv_start 0 hbound) hbound hrun hbudget).trans hhighest
  have hearly : Burst.EarlyRollback ⟨some .timedOut,
      (senderReceive payload params {} (senderStart payload params {} 0).1 .timedOut).2⟩ :=
    ⟨rfl, ⟨1, by rw [hblocks]; exact head?_indexRange (by decide), by decide⟩,
      by rw [hblocks]; exact getLast?_indexRange (by decide)⟩
  have hrec := @recordedIn_traceOf payload params {}
    ([⟨none, (senderStart payload params {} 0).2⟩] ++
      [⟨some .timedOut,
        (senderReceive payload params {} (senderStart payload params {} 0).1 .timedOut).2⟩])
  refine ⟨_, _, _, run, hrec, ?_, fun i hi => ?_⟩
  · rw [← Bool.not_eq_false, observe_blockNumberWrapped, hrec.numbers,
      (wrapLedger run rfl (by decide) hbound).chain]
    exact fun h => h.2 _ (by simp) hearly
  · rw [← hsent]
    exact (((senderLedger run rfl (by decide) hbound).mem_iff i).1 hi).2

end Claims

end TftpHarness
