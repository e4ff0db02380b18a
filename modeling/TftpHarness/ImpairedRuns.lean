/-
**The impairment pipeline over whole runs.**

A pipeline serves one session: it is built from a configuration and a seed, and every datagram of
either direction goes through `process`.  Whatever the stages drew and remembered before, a
datagram is dropped without a delivery, or delivered once, or delivered twice with the second copy
one millisecond behind; and what is delivered has the length of the datagram and at most one
flipped bit, in the part that the configuration names.

The blackout counts the DATA packets that survive the loss stages.  The counter has 32 bits and
never wraps, because at the threshold everything is dropped.

Main definitions:

* `TftpHarness.ProcessCall`, `TftpHarness.processAll` — a run of the pipeline;
* `TftpHarness.CorruptionTarget.Covers`, `TftpHarness.OneBitFlipped` — one flipped bit, in the
  part of the datagram that is targeted;
* `TftpHarness.ImpairedResult` — what the pipeline may make of one datagram;
* `TftpHarness.survivingData` — the DATA packets of a run that survived.

Main results:

* `TftpHarness.process_cases` — what one call does to the blackout counter;
* `TftpHarness.survivingData_le`, `TftpHarness.blackout_after` — **the blackout**;
* `TftpHarness.processAll_impaired` — every run, datagram by datagram and as a whole.
-/

import TftpHarness.Impairments

set_option relaxedAutoImplicit false
set_option autoImplicit false

namespace TftpHarness

/-! ### Runs -/

/-- The arguments of one call of `process`. -/
structure ProcessCall where
  direction : Direction
  datagram : Bytes
  isDataPacket : Bool
  now : ℤ

/-- The pipeline as it is constructed. -/
def PipelineState.initial (seed : UInt64) (start : ℤ) : PipelineState :=
  { prng := seed, lastRefill := start }

/-- The results of a sequence of calls. -/
def processAll (config : ImpairmentConfig) : List ProcessCall → PipelineState → List PipelineResult
  | [], _ => []
  | call :: calls, s =>
      let (result, s) :=
        process config call.direction call.datagram call.isDataPacket call.now s
      result :: processAll config calls s

/-- The result of the blackout stage. -/
def blackoutResult : PipelineResult :=
  { dropped := true, dropReason := text "blackout after N data packets" }

/-! ### One flipped bit -/

/-- One bit of a datagram. -/
def bitAt (bytes : Bytes) (index bit : ℕ) : Bool := (bytes.getD index 0).toNat.testBit bit

/-- The bytes that a corruption may hit in a datagram of some length. -/
def CorruptionTarget.Covers (length index : ℕ) : CorruptionTarget → Prop
  | .anyByte => True
  | .opcodeField => index ≤ 1
  | .blockNumber => 2 ≤ index ∧ index ≤ 3
  | .dataPayload => 4 < length → 4 ≤ index

/-- The bytes differ from the datagram in one bit, which lies in the targeted part. -/
def OneBitFlipped (target : CorruptionTarget) (datagram bytes : Bytes) : Prop :=
  ∃ index bit, index < datagram.length ∧ bit < 8 ∧ target.Covers datagram.length index ∧
    ∀ i b, b < 8 → (bitAt bytes i b ≠ bitAt datagram i b ↔ i = index ∧ b = bit)

/-- A draw from the numbers up to a bound is at most the bound. -/
theorem drawInRange_le (s : PipelineState) (high : ℕ) : (s.drawInRange 0 high).1 ≤ high := by
  have hle : (uniformInRange (UInt64.ofNat 0) (UInt64.ofNat high) s.prng).1 ≤ UInt64.ofNat high :=
    (uniformInRange_le UInt64.zero_le s.prng).2
  rw [UInt64.le_iff_toNat_le, UInt64.toNat_ofNat'] at hle
  exact hle.trans (Nat.mod_le _ _)

/-- Flipping one bit of a byte changes that bit and no other. -/
theorem testBit_xor_bit (value : UInt8) {bit : ℕ} (hbit : bit < 8) (b : ℕ) :
    (value ^^^ UInt8.ofNat (2 ^ bit)).toNat.testBit b ≠ value.toNat.testBit b ↔ b = bit := by
  have hpow : (UInt8.ofNat (2 ^ bit)).toNat = 2 ^ bit :=
    UInt8.toNat_ofNat_of_lt' (Nat.pow_lt_pow_right (by decide) hbit)
  rw [UInt8.toNat_xor, hpow, Nat.testBit_xor, Nat.testBit_two_pow]
  by_cases h : bit = b
  · simp [h]
  · simp [h, Ne.symm h]

/-- A flip that reports a corruption has changed one bit, at its index. -/
theorem oneBitFlipped_flipAt {target : CorruptionTarget} (bytes : Bytes) (s : PipelineState)
    {index : ℕ} (hcovers : index < bytes.length → target.Covers bytes.length index)
    (h : (flipAt bytes s index).1.2 = true) :
    OneBitFlipped target bytes (flipAt bytes s index).1.1 := by
  unfold flipAt at h ⊢
  split at h
  · next hlt =>
      rw [if_pos hlt]
      refine ⟨index, _, hlt, drawInRange_lt s, hcovers hlt, fun i b _ => ?_⟩
      simp only [bitAt, List.getD_eq_getElem?_getD]
      by_cases hi : i = index
      · subst hi
        rw [List.getElem?_modify_eq, List.getElem?_eq_getElem hlt]
        simpa using testBit_xor_bit bytes[i] (drawInRange_lt s) b
      · rw [List.getElem?_modify_ne _ _ (Ne.symm hi)]
        simp [hi]
  · cases h

variable (config : ImpairmentConfig)

/-- A corrupted datagram has one bit flipped, in the part that is targeted. -/
theorem oneBitFlipped_maybeCorrupt (datagram : Bytes) (s : PipelineState)
    (h : (maybeCorrupt config datagram s).1.2 = true) :
    OneBitFlipped config.corruptionTarget datagram (maybeCorrupt config datagram s).1.1 := by
  unfold maybeCorrupt at h ⊢
  split at h
  · cases h
  next hne =>
  rw [if_neg hne]
  simp only at h ⊢
  split at h
  · cases h
  next hfires =>
  rw [if_neg hfires]
  cases htarget : config.corruptionTarget with
  | anyByte =>
      rw [htarget] at h
      exact oneBitFlipped_flipAt _ _ (fun _ => trivial) h
  | opcodeField =>
      rw [htarget] at h
      exact oneBitFlipped_flipAt _ _ (fun _ => drawInRange_le _ 1) h
  | blockNumber =>
      rw [htarget] at h
      refine oneBitFlipped_flipAt _ _ (fun _ => ⟨Nat.le_add_right _ _, ?_⟩) h
      exact Nat.add_le_add_left (drawInRange_le _ 1) 2
  | dataPayload =>
      rw [htarget] at h
      simp only at h ⊢
      split at h
      · next hlong =>
          rw [if_pos hlong]
          exact oneBitFlipped_flipAt _ _ (fun _ _ => Nat.le_add_right _ _) h
      · next hshort =>
          rw [if_neg hshort]
          exact oneBitFlipped_flipAt _ _ (fun _ hlong => absurd hlong hshort) h

/-! ### One datagram -/

/-- What may be delivered for a datagram: as many bytes, the same ones unless it is marked as
corrupted, and then all but one bit the same. -/
structure ImpairedDelivery (target : CorruptionTarget) (datagram : Bytes)
    (delivery : DeliveryAction) : Prop where
  length_eq : delivery.bytes.length = datagram.length
  corrupted_iff : delivery.corrupted = true ↔ delivery.bytes ≠ datagram
  flipped : delivery.corrupted = true → OneBitFlipped target datagram delivery.bytes

/-- What the pipeline may make of a datagram: nothing, or one delivery, or one delivery and its
copy a millisecond behind. -/
structure ImpairedResult (target : CorruptionTarget) (datagram : Bytes) (result : PipelineResult) :
    Prop where
  dropped : result.dropped = true → result.deliveries = []
  survived : result.dropped = false → ∃ primary : DeliveryAction, primary.isDuplicate = false ∧
    (result.deliveries = [primary] ∨ result.deliveries =
      [primary, { primary with delay := primary.delay + 1, isDuplicate := true }])
  deliveries : ∀ delivery ∈ result.deliveries, ImpairedDelivery target datagram delivery

/-- What is dropped has no deliveries. -/
theorem impairedResult_dropped (target : CorruptionTarget) (datagram dropReason : Bytes) :
    ImpairedResult target datagram { dropped := true, dropReason } :=
  ⟨fun _ => rfl, fun h => Bool.noConfusion h, fun _ h => absurd h List.not_mem_nil⟩

/-- The delivery of a datagram that survived the loss stages. -/
theorem impairedResult_deliver (datagram : Bytes) (now : ℤ) (s : PipelineState) :
    ImpairedResult config.corruptionTarget datagram (deliver config datagram now s).1 := by
  obtain ⟨hlength, hbytes⟩ := maybeCorrupt_spec config datagram s
  have hflipped := oneBitFlipped_maybeCorrupt config datagram s
  simp only [deliver]
  split
  · refine ⟨fun h => Bool.noConfusion h, fun _ => ⟨_, rfl, Or.inr rfl⟩, fun delivery h => ?_⟩
    rcases List.mem_pair.1 h with rfl | rfl
    · exact ⟨hlength, hbytes, hflipped⟩
    · exact ⟨hlength, hbytes, hflipped⟩
  · refine ⟨fun h => Bool.noConfusion h, fun _ => ⟨_, rfl, Or.inl rfl⟩, fun delivery h => ?_⟩
    obtain rfl := List.mem_singleton.1 h
    exact ⟨hlength, hbytes, hflipped⟩

/-- **One call**, from any state of the pipeline. -/
theorem impairedResult_process (call : ProcessCall) (s : PipelineState) :
    ImpairedResult config.corruptionTarget call.datagram
      (process config call.direction call.datagram call.isDataPacket call.now s).1 := by
  unfold process
  split
  · exact impairedResult_dropped _ _ _
  · split
    · exact impairedResult_dropped _ _ _
    · exact impairedResult_deliver config _ _ _

/-! ### The blackout -/

/-- The DATA packets of a run that survived. -/
def survivingData (calls : List ProcessCall) (results : List PipelineResult) : ℕ :=
  (calls.zip results).countP fun served => served.1.isDataPacket && !served.2.dropped

/-! No stage but the count itself touches the counter. -/

@[simp] theorem draw_deliveredDataPackets (s : PipelineState) (probability : Double) :
    (s.draw probability).2.deliveredDataPackets = s.deliveredDataPackets := rfl

@[simp] theorem drawInRange_deliveredDataPackets (s : PipelineState) (low high : ℕ) :
    (s.drawInRange low high).2.deliveredDataPackets = s.deliveredDataPackets := rfl

@[simp] theorem setChannelBad_deliveredDataPackets (s : PipelineState) (direction : Direction)
    (bad : Bool) :
    (s.setChannelBad direction bad).deliveredDataPackets = s.deliveredDataPackets := by
  cases direction <;> rfl

@[simp] theorem advanceChannel_deliveredDataPackets (s : PipelineState) (direction : Direction) :
    (advanceChannel config s direction).deliveredDataPackets = s.deliveredDataPackets := by
  unfold advanceChannel
  split
  · simp only
    split <;> simp
  · simp only
    split <;> simp

@[simp] theorem decideLoss_deliveredDataPackets (s : PipelineState) (direction : Direction) :
    (decideLoss config s direction).2.deliveredDataPackets = s.deliveredDataPackets := by
  unfold decideLoss
  simp only
  split
  · rfl
  split
  · split <;> split
    all_goals rw [draw_deliveredDataPackets, advanceChannel_deliveredDataPackets,
      draw_deliveredDataPackets]
  · rfl

@[simp] theorem flipAt_deliveredDataPackets (bytes : Bytes) (s : PipelineState) (index : ℕ) :
    (flipAt bytes s index).2.deliveredDataPackets = s.deliveredDataPackets := by
  unfold flipAt
  split
  · have hdraw := drawInRange_deliveredDataPackets s 0 7
    generalize s.drawInRange 0 7 = drawn at hdraw ⊢
    exact hdraw
  · rfl

@[simp] theorem maybeCorrupt_deliveredDataPackets (datagram : Bytes) (s : PipelineState) :
    (maybeCorrupt config datagram s).2.deliveredDataPackets = s.deliveredDataPackets := by
  unfold maybeCorrupt
  split
  · rfl
  simp only
  split
  · simp
  cases config.corruptionTarget with
  | dataPayload =>
      simp only
      split
      · rw [flipAt_deliveredDataPackets, drawInRange_deliveredDataPackets,
          draw_deliveredDataPackets]
      · rw [flipAt_deliveredDataPackets, draw_deliveredDataPackets]
  | anyByte =>
      rw [flipAt_deliveredDataPackets, drawInRange_deliveredDataPackets,
        draw_deliveredDataPackets]
  | opcodeField =>
      rw [flipAt_deliveredDataPackets, drawInRange_deliveredDataPackets,
        draw_deliveredDataPackets]
  | blockNumber =>
      rw [flipAt_deliveredDataPackets, drawInRange_deliveredDataPackets,
        draw_deliveredDataPackets]

@[simp] theorem throttleDelay_deliveredDataPackets (datagramSize : ℕ) (now : ℤ)
    (s : PipelineState) :
    (throttleDelay config datagramSize now s).2.deliveredDataPackets = s.deliveredDataPackets := by
  unfold throttleDelay
  split
  · rfl
  simp only
  split <;> split <;> rfl

@[simp] theorem deliveryDelay_deliveredDataPackets (datagramSize : ℕ) (now : ℤ)
    (s : PipelineState) :
    (deliveryDelay config datagramSize now s).2.deliveredDataPackets = s.deliveredDataPackets := by
  unfold deliveryDelay
  simp only [draw_deliveredDataPackets, throttleDelay_deliveredDataPackets]
  split
  · exact drawInRange_deliveredDataPackets s 0 _
  · rfl

@[simp] theorem deliver_deliveredDataPackets (datagram : Bytes) (now : ℤ) (s : PipelineState) :
    (deliver config datagram now s).2.deliveredDataPackets = s.deliveredDataPackets := by
  have hcorrupt := maybeCorrupt_deliveredDataPackets config datagram s
  rw [deliver]
  generalize maybeCorrupt config datagram s = corruption at hcorrupt ⊢
  have hdelay := deliveryDelay_deliveredDataPackets config corruption.1.1.length now corruption.2
  simp only
  generalize deliveryDelay config corruption.1.1.length now corruption.2 = delayed at hdelay ⊢
  split
  · rw [draw_deliveredDataPackets]
    exact hdelay.trans hcorrupt
  · rw [draw_deliveredDataPackets]
    exact hdelay.trans hcorrupt

/-- What one call does to the count of the DATA packets that survived. -/
inductive CountedCall (call : ProcessCall) (s : PipelineState) :
    PipelineResult × PipelineState → Prop
  | blackout (henabled : config.blackoutEnabled = true)
      (hreached : config.blackoutAfterDataPackets ≤ s.deliveredDataPackets) :
      CountedCall call s (blackoutResult, s)
  | lost {dropReason : Bytes} {s' : PipelineState}
      (hbefore : config.blackoutEnabled = true →
        s.deliveredDataPackets < config.blackoutAfterDataPackets)
      (hcount : s'.deliveredDataPackets = s.deliveredDataPackets) :
      CountedCall call s ({ dropped := true, dropReason }, s')
  | survived {result : PipelineResult} {s' : PipelineState} (hresult : result.dropped = false)
      (hbefore : config.blackoutEnabled = true →
        s.deliveredDataPackets < config.blackoutAfterDataPackets)
      (hcount : s'.deliveredDataPackets = if call.isDataPacket then u32 (s.deliveredDataPackets + 1)
        else s.deliveredDataPackets) :
      CountedCall call s (result, s')

/-- A datagram that survived the loss stages is not dropped. -/
theorem deliver_dropped (datagram : Bytes) (now : ℤ) (s : PipelineState) :
    (deliver config datagram now s).1.dropped = false := by
  unfold deliver
  simp only
  split <;> rfl

/-- **One call and the counter**: at the threshold the blackout drops the datagram; before it, a
lost datagram leaves the counter and one that survives is counted if it is a DATA packet. -/
theorem process_cases (call : ProcessCall) (s : PipelineState) :
    CountedCall config call s
      (process config call.direction call.datagram call.isDataPacket call.now s) := by
  unfold process
  split
  · next hblackout =>
      simp only [Bool.and_eq_true, decide_eq_true_eq] at hblackout
      exact .blackout hblackout.1 hblackout.2
  next hblackout =>
  have hbefore : config.blackoutEnabled = true →
      s.deliveredDataPackets < config.blackoutAfterDataPackets := by
    simpa using hblackout
  have hloss := decideLoss_deliveredDataPackets config s call.direction
  split
  · next lossReason s' heq =>
      rw [heq] at hloss
      exact .lost hbefore hloss
  · next s' heq =>
      rw [heq] at hloss
      simp only
      generalize hcounted : (if call.isDataPacket = true then
        { s' with deliveredDataPackets := u32 (s'.deliveredDataPackets + 1) } else s') = counted
      have hdropped := deliver_dropped config call.datagram call.now counted
      have hcount := deliver_deliveredDataPackets config call.datagram call.now counted
      generalize deliver config call.datagram call.now counted = delivered at hdropped hcount ⊢
      refine .survived hdropped hbefore ?_
      rw [hcount, ← hcounted, ← hloss]
      split <;> rfl

/-- One more call. -/
theorem survivingData_cons (call : ProcessCall) (calls : List ProcessCall) (result : PipelineResult)
    (results : List PipelineResult) :
    survivingData (call :: calls) (result :: results) =
      survivingData calls results + if call.isDataPacket && !result.dropped then 1 else 0 := by
  rw [survivingData, List.zip_cons_cons, List.countP_cons]
  rfl

section Blackout

variable {config} (henabled : config.blackoutEnabled = true)
  (hrange : config.blackoutAfterDataPackets < 2 ^ 32)
include henabled hrange

/-- One call with the blackout enabled: it is dropped for the blackout, or the counter goes up by
the DATA packet that survived and stays within the threshold. -/
theorem process_blackout (call : ProcessCall) (s : PipelineState) :
    (config.blackoutAfterDataPackets ≤ s.deliveredDataPackets ∧
      process config call.direction call.datagram call.isDataPacket call.now s =
        (blackoutResult, s)) ∨
    (s.deliveredDataPackets < config.blackoutAfterDataPackets ∧
      (process config call.direction call.datagram call.isDataPacket call.now
        s).2.deliveredDataPackets = s.deliveredDataPackets +
          if call.isDataPacket && !(process config call.direction call.datagram call.isDataPacket
            call.now s).1.dropped then 1 else 0) := by
  have hcases := process_cases config call s
  generalize process config call.direction call.datagram call.isDataPacket call.now s = served
    at hcases ⊢
  cases hcases with
  | blackout _ hreached => exact Or.inl ⟨hreached, rfl⟩
  | lost hbefore hcount => exact Or.inr ⟨hbefore henabled, by simpa using hcount⟩
  | survived hresult hbefore hcount =>
      have hlt := hbefore henabled
      refine Or.inr ⟨hlt, ?_⟩
      rw [hcount, hresult, u32_of_lt (by omega)]
      cases call.isDataPacket <;> rfl

/-- **At most as many DATA packets survive as the threshold allows.** -/
theorem survivingData_le (calls : List ProcessCall) (s : PipelineState)
    (hs : s.deliveredDataPackets ≤ config.blackoutAfterDataPackets) :
    s.deliveredDataPackets + survivingData calls (processAll config calls s) ≤
      config.blackoutAfterDataPackets := by
  induction calls generalizing s with
  | nil => exact hs
  | cons call calls ih =>
      rw [processAll, survivingData_cons]
      rcases process_blackout henabled hrange call s with ⟨hreached, hserved⟩ | ⟨hlt, hcount⟩
      · have hrest := ih s hs
        rw [hserved]
        simpa [blackoutResult] using hrest
      · have hrest := ih _ (by rw [hcount]; split <;> omega)
        omega

/-- **Once the threshold is reached everything is dropped**, whichever way it goes. -/
theorem blackout_after (calls : List ProcessCall) (s : PipelineState) (i : ℕ)
    (hi : i < calls.length)
    (hreached : config.blackoutAfterDataPackets ≤ s.deliveredDataPackets +
      survivingData (calls.take i) ((processAll config calls s).take i)) :
    (processAll config calls s)[i]? = some blackoutResult := by
  induction calls generalizing s i with
  | nil => cases hi
  | cons call calls ih =>
      rw [processAll] at hreached ⊢
      cases i with
      | zero =>
          rcases process_blackout henabled hrange call s with ⟨-, hserved⟩ | ⟨hlt, -⟩
          · rw [hserved]
            rfl
          · exact absurd (show config.blackoutAfterDataPackets ≤ s.deliveredDataPackets from
              hreached) (not_le.2 hlt)
      | succ i =>
          rw [List.take_succ_cons, List.take_succ_cons, survivingData_cons] at hreached
          rw [List.getElem?_cons_succ]
          refine ih _ i (Nat.lt_of_succ_lt_succ hi) ?_
          rcases process_blackout henabled hrange call s with ⟨hle, hserved⟩ | ⟨hlt, hcount⟩
          · rw [hserved]
            exact hle.trans (Nat.le_add_right _ _)
          · omega

end Blackout

/-- **Every run of the pipeline.**  Each datagram is served as `ImpairedResult` says; and with the
blackout enabled at a threshold, at most that many DATA packets survive, and once they have, every
later datagram is dropped with the reason of the blackout. -/
theorem processAll_impaired (seed : UInt64) (start : ℤ) (calls : List ProcessCall)
    (hrange : config.blackoutAfterDataPackets < 2 ^ 32) :
    List.Forall₂ (fun call result =>
        ImpairedResult config.corruptionTarget call.datagram result) calls
      (processAll config calls (.initial seed start)) ∧
    (config.blackoutEnabled = true →
      survivingData calls (processAll config calls (.initial seed start)) ≤
        config.blackoutAfterDataPackets ∧
      ∀ i < calls.length, survivingData (calls.take i)
          ((processAll config calls (.initial seed start)).take i) =
            config.blackoutAfterDataPackets →
        (processAll config calls (.initial seed start))[i]? = some blackoutResult) := by
  refine ⟨?_, fun henabled => ⟨?_, fun i hi hreached => ?_⟩⟩
  · generalize PipelineState.initial seed start = s
    induction calls generalizing s with
    | nil => exact .nil
    | cons call calls ih => exact .cons (impairedResult_process config call s) (ih _)
  · simpa [PipelineState.initial] using
      survivingData_le henabled hrange calls (.initial seed start) (Nat.zero_le _)
  · exact blackout_after henabled hrange calls _ i hi (by
      rw [hreached]
      exact Nat.le_add_left _ _)

/-- A blackout after one DATA packet, with every datagram corrupted. -/
def blackoutConfig : ImpairmentConfig :=
  { corruptionProbability := Double.ofInt 1, blackoutEnabled := true,
    blackoutAfterDataPackets := 1 }

/-- A DATA packet from each side. -/
def blackoutCalls : List ProcessCall :=
  [⟨.serverToClient, [0, 3, 0, 1], true, 0⟩, ⟨.clientToServer, [0, 3, 0, 1], true, 5⟩]

/-- The first survives, the second is dropped. -/
theorem blackoutCalls_impaired :
    survivingData blackoutCalls (processAll blackoutConfig blackoutCalls (.initial 7 0)) ≤ 1 ∧
      (processAll blackoutConfig blackoutCalls (.initial 7 0))[1]? = some blackoutResult := by
  have hrun := (processAll_impaired blackoutConfig 7 0 blackoutCalls (by decide)).2 rfl
  refine ⟨hrun.1, hrun.2 1 (by decide) ?_⟩
  decide +kernel

end TftpHarness
