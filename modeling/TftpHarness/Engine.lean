/-
**The reference engine: configuration and block arithmetic.**

`adapters/reference/tftp_reference_engine.cpp` counts blocks in 32 bits and puts their low 16 bits
on the wire.  This module holds the engine's parameters and the arithmetic both data planes share:
how many blocks a payload has, which bytes a block carries, and how a 16-bit number from the wire is
resolved to an absolute index.

Main definitions:

* `TftpHarness.EngineConfig`, `TftpHarness.NegotiatedParameters`, `TftpHarness.TransferOutcome` —
  the parameters and the result of a transfer;
* `TftpHarness.wireBlockNumber`, `TftpHarness.totalBlockCount`, `TftpHarness.blockPayload` — blocks;
* `TftpHarness.resolveAckToAbsolute`, `TftpHarness.resolveDataToAbsolute` — from the wire back to
  absolute indices.

Main results:

* `TftpHarness.take_append_blockPayload` — the blocks cut the payload without loss or overlap;
* `TftpHarness.resolveAckToAbsolute_spec`, `TftpHarness.resolveAckToAbsolute_exact` — an ACK
  resolves to a block in flight or to nothing, and to the block it was meant for when that lies
  within a 65536-block horizon;
* `TftpHarness.resolveDataToAbsolute_eq_succ_iff` — a DATA packet is classified as the next block
  exactly when it carries the next block's wire number.
-/

import TftpHarness.Packet
import Mathlib.Data.List.TakeDrop

set_option relaxedAutoImplicit false
set_option autoImplicit false

namespace TftpHarness

/-! ### Configuration, parameters and outcome -/

/-- Named defects of the engine; all are off in the correct engine. -/
structure EngineQuirks where
  retransmitOnDuplicateAck : Bool := false
  omitTerminatingEmptyBlock : Bool := false
  acceptOutOfSequenceData : Bool := false
  deriving DecidableEq, Repr

/-- Engine configuration, shared by client and server. -/
structure EngineConfig where
  defaultBlockSize : ℕ := 512
  maximumRetransmissions : ℤ := 6
  rejectOverwriteOnWriteRequest : Bool := true
  supportOptionNegotiation : Bool := true
  supportBlockSizeOption : Bool := true
  supportTimeoutOption : Bool := true
  supportTransferSizeOption : Bool := true
  supportWindowSizeOption : Bool := true
  supportNetascii : Bool := true
  quirks : EngineQuirks := {}
  deriving DecidableEq, Repr

/-- The parameters in force for one transfer, after any OACK. -/
structure NegotiatedParameters where
  blockSize : ℕ := 512
  windowSize : ℕ := 1
  timeoutSeconds : Option ℕ := none
  transferSize : Option ℕ := none
  deriving DecidableEq, Repr

/-- The outcome of a transfer from the engine's own point of view. -/
structure TransferOutcome where
  completedSuccessfully : Bool := false
  errorCode : Option TftpErrorCode := none
  errorMessage : Bytes := []
  negotiated : NegotiatedParameters := {}
  bytesTransferred : ℕ := 0
  dataPacketsSent : ℕ := 0
  dataPacketsReceived : ℕ := 0
  retransmissions : ℕ := 0
  timedOut : Bool := false
  deriving DecidableEq, Repr

/-! ### Blocks -/

/-- The 16-bit number an absolute block index has on the wire. -/
def wireBlockNumber (absoluteIndex : ℕ) : ℕ := u16 absoluteIndex

/-- The number of DATA blocks of a payload, the terminating short or empty one included. -/
def totalBlockCount (payloadSize blockSize : ℕ) : ℕ := u32 (u32 (payloadSize / blockSize) + 1)

/-- The bytes carried by a block, counted from one.  A block at or past the end is empty. -/
def blockPayload (payload : Bytes) (absoluteIndex blockSize : ℕ) : Bytes :=
  let start := u32 (absoluteIndex + 4294967295) * blockSize
  if payload.length ≤ start then []
  else (payload.drop start).take (min blockSize (payload.length - start))

theorem wireBlockNumber_lt (i : ℕ) : wireBlockNumber i < 65536 := u16_lt i

theorem wireBlockNumber_of_lt {i : ℕ} (h : i < 65536) : wireBlockNumber i = i := u16_of_lt h

/-- Below 2^32 blocks the count is the mathematical one. -/
theorem totalBlockCount_eq {n b : ℕ} (h : n / b + 1 < 4294967296) :
    totalBlockCount n b = n / b + 1 := by
  rw [totalBlockCount, u32_of_lt (by omega : n / b < 4294967296), u32_of_lt h]

/-- The bytes of a block, without the 32-bit detour. -/
theorem blockPayload_eq {payload : Bytes} {i b : ℕ} (hi : 1 ≤ i) (hi' : i < 4294967296) :
    blockPayload payload i b = (payload.drop ((i - 1) * b)).take b := by
  have hstart : u32 (i + 4294967295) = i - 1 := by
    unfold u32
    omega
  simp only [blockPayload, hstart]
  split
  · next h => rw [List.drop_eq_nil_of_le h, List.take_nil]
  · rw [← List.length_drop, List.take_eq_take_iff]
    omega

/-- **The blocks cut the payload**: what precedes a block, followed by the block. -/
theorem take_append_blockPayload {payload : Bytes} {i b : ℕ} (hi : i + 1 < 4294967296) :
    payload.take (i * b) ++ blockPayload payload (i + 1) b = payload.take ((i + 1) * b) := by
  rw [blockPayload_eq (by omega) hi, Nat.add_sub_cancel, Nat.succ_mul, List.take_add]

theorem length_blockPayload {payload : Bytes} {i b : ℕ} (hi : 1 ≤ i) (hi' : i < 4294967296) :
    (blockPayload payload i b).length = min b (payload.length - (i - 1) * b) := by
  rw [blockPayload_eq hi hi', List.length_take, List.length_drop]

/-- Only the last block is short. -/
theorem length_blockPayload_lt_iff {payload : Bytes} {i b : ℕ} (hb : 1 ≤ b) (hi : 1 ≤ i)
    (hle : i ≤ payload.length / b + 1) (hi' : i < 4294967296) :
    (blockPayload payload i b).length < b ↔ i = payload.length / b + 1 := by
  rw [length_blockPayload hi hi']
  obtain ⟨j, rfl⟩ : ∃ j, i = j + 1 := ⟨i - 1, by omega⟩
  have hdiv : j * b ≤ payload.length := (Nat.le_div_iff_mul_le (by omega)).1 (by omega)
  have hlast : j + 1 ≤ payload.length / b ↔ (j + 1) * b ≤ payload.length :=
    Nat.le_div_iff_mul_le (by omega)
  rw [Nat.succ_mul] at hlast
  rw [Nat.add_sub_cancel]
  omega

/-- The last block ends the payload. -/
theorem take_total {payload : Bytes} {b : ℕ} (hb : 1 ≤ b) :
    payload.take ((payload.length / b + 1) * b) = payload := by
  refine List.take_of_length_le ?_
  have h := Nat.div_add_mod payload.length b
  have hlt := Nat.mod_lt payload.length (by omega : 0 < b)
  rw [Nat.succ_mul, Nat.mul_comm]
  omega

/-! ### From the wire back to absolute indices -/

/-- The block an ACK acknowledges: the highest block in flight with that wire number, or
`lastAcked` when there is none. -/
def resolveAckToAbsolute (wireAck lastAcked highestSent : ℕ) : ℕ :=
  ((indexRange (lastAcked + 1) highestSent).reverse.find? fun candidate =>
    wireBlockNumber candidate == wireAck).getD lastAcked

/-- The candidates of the forward search of `resolve_data_to_absolute`. -/
def forwardCandidates (lastInSequence window : ℕ) : List ℕ :=
  (indexRange 1 (max window 1)).map fun offset => u32 (lastInSequence + offset)

/-- The candidates of the backward search, for duplicates. -/
def backwardCandidates (lastInSequence window : ℕ) : List ℕ :=
  (indexRange 0 (min lastInSequence (max window 1))).map fun offset => lastInSequence - offset

/-- The block a DATA packet carries, judged from the receiver's position; 0 when it cannot be
placed. -/
def resolveDataToAbsolute (wireBlock lastInSequence window : ℕ) : ℕ :=
  ((forwardCandidates lastInSequence window ++ backwardCandidates lastInSequence window).find?
    fun candidate => wireBlockNumber candidate == wireBlock).getD 0

/-- An ACK resolves to a block in flight with its wire number, or to nothing new. -/
theorem resolveAckToAbsolute_spec (wireAck lastAcked highestSent : ℕ) :
    resolveAckToAbsolute wireAck lastAcked highestSent = lastAcked ∨
      (lastAcked < resolveAckToAbsolute wireAck lastAcked highestSent ∧
        resolveAckToAbsolute wireAck lastAcked highestSent ≤ highestSent ∧
        wireBlockNumber (resolveAckToAbsolute wireAck lastAcked highestSent) = wireAck) := by
  unfold resolveAckToAbsolute
  cases hf : (indexRange (lastAcked + 1) highestSent).reverse.find? fun candidate =>
      wireBlockNumber candidate == wireAck with
  | none => exact Or.inl rfl
  | some c =>
      right
      have hmem := List.mem_of_find?_eq_some hf
      have hwire := List.find?_some hf
      rw [List.mem_reverse, mem_indexRange] at hmem
      simp only [Option.getD_some]
      exact ⟨by omega, hmem.2, by simpa using hwire⟩

/-- **An ACK resolves to the block it was meant for** when no other block in flight is a multiple
of 65536 away from it. -/
theorem resolveAckToAbsolute_exact {a lastAcked highestSent : ℕ} (h₁ : highestSent < a + 65536)
    (h₂ : a ≤ lastAcked + 65536) :
    resolveAckToAbsolute (wireBlockNumber a) lastAcked highestSent =
      if lastAcked < a ∧ a ≤ highestSent then a else lastAcked := by
  rcases resolveAckToAbsolute_spec (wireBlockNumber a) lastAcked highestSent with h | ⟨hl, hh, hw⟩
  · split
    · next hin =>
        -- the search cannot come back empty-handed: `a` itself is a candidate
        exfalso
        have hmem : a ∈ (indexRange (lastAcked + 1) highestSent).reverse := by
          rw [List.mem_reverse, mem_indexRange]
          omega
        unfold resolveAckToAbsolute at h
        cases hf : (indexRange (lastAcked + 1) highestSent).reverse.find? fun candidate =>
            wireBlockNumber candidate == wireBlockNumber a with
        | none => simpa using List.find?_eq_none.1 hf a hmem
        | some c =>
            have hc := List.mem_of_find?_eq_some hf
            rw [List.mem_reverse, mem_indexRange] at hc
            rw [hf, Option.getD_some] at h
            omega
    · exact h
  · have heq := eq_of_u16_eq hw (by omega) (by omega)
    rw [heq] at hl hh ⊢
    rw [if_pos ⟨hl, hh⟩]

/-- The next block's wire number is classified as the next block, which is the first candidate. -/
theorem resolveDataToAbsolute_succ {lastInSequence : ℕ} (window : ℕ)
    (h : lastInSequence + 1 < 4294967296) :
    resolveDataToAbsolute (wireBlockNumber (lastInSequence + 1)) lastInSequence window =
      u32 (lastInSequence + 1) := by
  have hnext : u32 (lastInSequence + 1) = lastInSequence + 1 := u32_of_lt h
  have hcons : forwardCandidates lastInSequence window =
      (lastInSequence + 1) :: (indexRange 2 (max window 1)).map fun offset =>
        u32 (lastInSequence + offset) := by
    rw [forwardCandidates, indexRange_eq_cons (by omega), List.map_cons, hnext]
  have hfirst : (wireBlockNumber (lastInSequence + 1) ==
      wireBlockNumber (lastInSequence + 1)) = true := beq_self_eq_true _
  rw [resolveDataToAbsolute, hcons, List.cons_append, List.find?_cons, hfirst, Option.getD_some,
    hnext]

/-- **A DATA packet is classified as the next block exactly when it carries the next block's wire
number**: the next block is the first candidate, and no other candidate has its index. -/
theorem resolveDataToAbsolute_eq_succ_iff {wireBlock lastInSequence window : ℕ}
    (h : lastInSequence + max window 1 < 4294967296) :
    resolveDataToAbsolute wireBlock lastInSequence window = u32 (lastInSequence + 1) ↔
      wireBlock = wireBlockNumber (lastInSequence + 1) := by
  have hnext : u32 (lastInSequence + 1) = lastInSequence + 1 := u32_of_lt (by omega)
  rw [hnext]
  constructor
  · intro hr
    unfold resolveDataToAbsolute at hr
    cases hf : (forwardCandidates lastInSequence window ++
        backwardCandidates lastInSequence window).find? fun candidate =>
          wireBlockNumber candidate == wireBlock with
    | none =>
        rw [hf, Option.getD_none] at hr
        omega
    | some c =>
        rw [hf, Option.getD_some] at hr
        have hwire : (wireBlockNumber c == wireBlock) = true :=
          List.find?_some (p := fun candidate => wireBlockNumber candidate == wireBlock) hf
        rw [← hr]
        exact (beq_iff_eq.1 hwire).symm
  · rintro rfl
    rw [resolveDataToAbsolute_succ window (by omega), hnext]

end TftpHarness
