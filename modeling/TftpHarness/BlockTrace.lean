/-
**A trace of blocks.**

What the observer counts it counts by the numbers on the wire, sixteen bits of which are all it has.
As long as a payload has no more blocks than that, and the trace shows no DATA packet but its
blocks, the numbers are as good as the blocks: the observer has counted them all exactly when the
trace shows them all, and has seen a short one exactly when it shows the last one.

Main definitions:

* `TftpHarness.dataBlock`, `TftpHarness.payloadBlocks` — the blocks of a payload;
* `TftpHarness.OnlyBlocks`, `TftpHarness.AllBlocks` — a trace with no other DATA packets, and one
  with all of them.

Main results:

* `TftpHarness.OnlyBlocks.shows` — a datagram with the number of a block shows the block;
* `TftpHarness.OnlyBlocks.counts`, `TftpHarness.OnlyBlocks.shortBlock` — **what the observer makes
  of such a trace**.
-/

import TftpHarness.BenchTrace
import TftpHarness.Reception
import Mathlib.Order.Interval.Finset.Nat

set_option relaxedAutoImplicit false
set_option autoImplicit false

namespace TftpHarness

/-- The DATA packet of a block. -/
def dataBlock (payload : Bytes) (blockSize i : ℕ) : TftpPacket :=
  { opcode := .data, blockNumber := wireBlockNumber i, data := blockPayload payload i blockSize }

/-- The number of blocks, the short one at the end included. -/
def payloadBlocks (payload : Bytes) (blockSize : ℕ) : ℕ := payload.length / blockSize + 1

section Blocks

variable (context : ObserverContext) (payload : Bytes) (records : List TraceRecord)

/-- The trace shows no DATA packet but blocks of the payload. -/
def OnlyBlocks : Prop :=
  ∀ packet ∈ dataPackets context records, ∃ i, 1 ≤ i ∧
    i ≤ payloadBlocks payload context.blockSize ∧ packet = dataBlock payload context.blockSize i

/-- The trace shows every block of the payload. -/
def AllBlocks : Prop :=
  ∀ i, 1 ≤ i → i ≤ payloadBlocks payload context.blockSize →
    dataBlock payload context.blockSize i ∈ dataPackets context records

end Blocks

section Observer

variable {context : ObserverContext} {payload : Bytes} {records : List TraceRecord}
  {trace : PacketTrace}

theorem dataPacket_eq_some {record : TraceRecord} {packet : TftpPacket} :
    record.dataPacket context = some packet ↔ (record.direction = dataDirection context.direction ∧
      record.isPeerSend = true) ∧ record.parsed = .ok packet ∧ packet.opcode = .data := by
  simp only [TraceRecord.dataPacket, Option.ite_none_right_eq_some]
  refine and_congr_right fun _ => ?_
  unfold TraceRecord.packetOf
  cases record.parsed with
  | error reason => simp
  | ok parsed =>
      simp only [Option.ite_none_right_eq_some, Option.some.injEq, Except.ok.injEq]
      constructor
      · rintro ⟨hdata, rfl⟩
        exact ⟨rfl, hdata⟩
      · rintro ⟨rfl, hdata⟩
        exact ⟨hdata, rfl⟩

/-- A trace whose datagrams are all blocks, as far as they are DATA packets. -/
theorem onlyBlocks_of_parsed (h : ∀ record ∈ records,
      record.direction = dataDirection context.direction → ∃ bytes packet,
        record.parsed = parseDatagram bytes ∧ parseDatagram bytes = .ok packet ∧
          (packet.opcode = .data → ∃ i, 1 ≤ i ∧ i ≤ payloadBlocks payload context.blockSize ∧
            packet = dataBlock payload context.blockSize i)) :
    OnlyBlocks context payload records := by
  intro packet hmem
  obtain ⟨record, hrecord, hdata⟩ := List.mem_filterMap.1 hmem
  obtain ⟨⟨hdirection, -⟩, hparsed, hop⟩ := dataPacket_eq_some.1 hdata
  obtain ⟨bytes, said, hbytes, hsaid, hblock⟩ := h record hrecord hdirection
  cases Except.ok.inj (hparsed.symm.trans (hbytes.trans hsaid))
  exact hblock hop

variable (hfit : payloadBlocks payload context.blockSize ≤ 65535)

include hfit

/-- The number of a block on the wire is its own. -/
theorem dataBlock_blockNumber {i : ℕ} (hle : i ≤ payloadBlocks payload context.blockSize) :
    (dataBlock payload context.blockSize i).blockNumber = i :=
  u16_of_lt (by omega)

variable (honly : OnlyBlocks context payload records)

include honly

/-- **A datagram with the number of a block shows the block.** -/
theorem OnlyBlocks.shows {i : ℕ} (hle : i ≤ payloadBlocks payload context.blockSize) {bytes : Bytes}
    (hshows : Shows records (dataDirection context.direction) bytes) {packet : TftpPacket}
    (hparse : parseDatagram bytes = .ok packet) (hop : packet.opcode = .data)
    (hnumber : packet.blockNumber = wireBlockNumber i) :
    dataBlock payload context.blockSize i ∈ dataPackets context records := by
  obtain ⟨record, hrecord, hdirection, hpeer, hparsed⟩ := hshows
  have hmem : packet ∈ dataPackets context records := List.mem_filterMap.2
    ⟨record, hrecord, dataPacket_eq_some.2 ⟨⟨hdirection, hpeer⟩, hparsed.trans hparse, hop⟩⟩
  obtain ⟨j, hj, hjlast, rfl⟩ := honly packet hmem
  -- the two blocks have the same number on the wire, which is their own
  have hnumber' : (dataBlock payload context.blockSize j).blockNumber =
      (dataBlock payload context.blockSize i).blockNumber := hnumber
  rw [dataBlock_blockNumber hfit hjlast, dataBlock_blockNumber hfit hle] at hnumber'
  subst hnumber'
  exact hmem

omit honly in
/-- **The observer has seen a short block exactly when the trace shows the last one.** -/
theorem OnlyBlocks.shortBlock (honly : OnlyBlocks context payload trace.records)
    (hpositive : 1 ≤ context.blockSize) :
    (observe trace context).terminatingShortBlockPresent = true ↔
      dataBlock payload context.blockSize (payloadBlocks payload context.blockSize) ∈
        dataPackets context trace.records := by
  have hshort : ∀ i, 1 ≤ i → i ≤ payloadBlocks payload context.blockSize →
      ((dataBlock payload context.blockSize i).data.length < context.blockSize ↔
        i = payloadBlocks payload context.blockSize) := by
    intro i hi hle
    exact length_blockPayload_lt_iff hpositive hi hle (by omega)
  rw [observe_terminatingShortBlock]
  constructor
  · rintro ⟨packet, hmem, hlt⟩
    obtain ⟨i, hi, hle, rfl⟩ := honly packet hmem
    cases (hshort i hi hle).1 hlt
    exact hmem
  · intro hmem
    exact ⟨_, hmem, (hshort _ (Nat.succ_pos _) (le_refl _)).2 rfl⟩

omit honly in
/-- **A trace with all blocks of the payload has as many distinct ones, and no higher one.** -/
theorem OnlyBlocks.counts (honly : OnlyBlocks context payload trace.records)
    (hall : AllBlocks context payload trace.records) :
    (observe trace context).distinctDataBlocks = payloadBlocks payload context.blockSize ∧
      (observe trace context).highestBlockNumber = payloadBlocks payload context.blockSize := by
  have hpos : 1 ≤ payloadBlocks payload context.blockSize := Nat.succ_pos _
  have hnumbers : ((dataPackets context trace.records).map (·.blockNumber)).toFinset =
      Finset.Icc 1 (payloadBlocks payload context.blockSize) := by
    ext n
    simp only [List.mem_toFinset, List.mem_map, Finset.mem_Icc]
    constructor
    · rintro ⟨packet, hmem, rfl⟩
      obtain ⟨i, hi, hle, rfl⟩ := honly packet hmem
      rw [dataBlock_blockNumber hfit hle]
      exact ⟨hi, hle⟩
    · rintro ⟨hn, hle⟩
      exact ⟨_, hall n hn hle, dataBlock_blockNumber hfit hle⟩
  refine ⟨?_, le_antisymm ?_ ?_⟩
  · rw [(observe_counts _ trace).2.1, hnumbers, Nat.card_Icc, u32_of_lt (by omega)]
    omega
  · refine (observe_highestBlockNumber_le _ _ _).2 fun packet hmem => ?_
    obtain ⟨i, -, hle, rfl⟩ := honly packet hmem
    rw [dataBlock_blockNumber hfit hle]
    exact hle
  · have hlast := (observe_highestBlockNumber_le _ trace _).1
      (le_refl (observe trace context).highestBlockNumber) _ (hall _ hpos (le_refl _))
    rw [dataBlock_blockNumber hfit (le_refl _)] at hlast
    exact hlast

end Observer

end TftpHarness
