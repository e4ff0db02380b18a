/-
**The impairment pipeline.**

`src/net/impairments.cpp` decides what becomes of a datagram that reaches the proxy: it is lost, or
it is delivered once or twice, after a delay and possibly with one bit flipped.  All stages draw
from one generator, in a fixed order, and keep their own state.  The functions below take the state
of the pipeline and return the new one next to their result.

Times are in nanoseconds, the unit of the clock, delays in milliseconds.

Main definitions:

* `TftpHarness.ImpairmentConfig`, `TftpHarness.PipelineState` — what is configured and what the
  stages remember;
* `TftpHarness.process` — **the pipeline**.

Main results:

* `TftpHarness.maybeCorrupt_spec` — a corrupted datagram has its length and not its bytes;
* `TftpHarness.process_spec` — **what the pipeline can do to a datagram**;
* `TftpHarness.process_default` — the default configuration delivers every datagram once, unchanged
  and at once.
-/

import TftpHarness.Prng
import TftpHarness.Trace

set_option relaxedAutoImplicit false
set_option autoImplicit false

namespace TftpHarness

/-! ### Configuration and state -/

/-- Which part of a datagram the corruption stage mutates. -/
inductive CorruptionTarget
  | anyByte
  | opcodeField
  | blockNumber
  | dataPayload
  deriving DecidableEq, Repr

structure ImpairmentConfig where
  uniformLossProbability : Double := Double.ofInt 0
  gilbertElliottEnabled : Bool := false
  goodToBadProbability : Double := Double.ofRat (5 / 100)
  badToGoodProbability : Double := Double.ofRat (30 / 100)
  lossInGoodState : Double := Double.ofInt 0
  lossInBadState : Double := Double.ofInt 1
  duplicationProbability : Double := Double.ofInt 0
  reorderProbability : Double := Double.ofInt 0
  reorderExtraDelay : ℤ := 60
  fixedDelay : ℤ := 0
  jitter : ℤ := 0
  corruptionProbability : Double := Double.ofInt 0
  corruptionTarget : CorruptionTarget := .dataPayload
  throttleEnabled : Bool := false
  throttleBytesPerSecond : Double := Double.ofInt 0
  blackoutEnabled : Bool := false
  blackoutAfterDataPackets : ℕ := 0
  deriving DecidableEq

/-- One scheduled delivery. -/
structure DeliveryAction where
  bytes : Bytes
  delay : ℤ := 0
  corrupted : Bool := false
  isDuplicate : Bool := false
  deriving DecidableEq

structure PipelineResult where
  dropped : Bool := false
  deliveries : List DeliveryAction := []
  dropReason : Bytes := []
  deriving DecidableEq

/-- What the stages remember from one datagram to the next. -/
structure PipelineState where
  prng : UInt64
  clientToServerBad : Bool := false
  serverToClientBad : Bool := false
  deliveredDataPackets : ℕ := 0
  tokenBucketBytes : Double := Double.ofInt 0
  lastRefill : ℤ
  deriving DecidableEq

namespace PipelineState

/-- A draw of the generator with the given probability. -/
def draw (s : PipelineState) (probability : Double) : Bool × PipelineState :=
  ((bernoulli probability s.prng).1, { s with prng := (bernoulli probability s.prng).2 })

/-- A draw of the generator from a range. -/
def drawInRange (s : PipelineState) (low high : ℕ) : ℕ × PipelineState :=
  let drawn := uniformInRange (UInt64.ofNat low) (UInt64.ofNat high) s.prng
  (drawn.1.toNat, { s with prng := drawn.2 })

/-- `channel_for`: whether the channel of a direction is in its bad state. -/
def channelBad (s : PipelineState) : Direction → Bool
  | .clientToServer => s.clientToServerBad
  | .serverToClient => s.serverToClientBad

def setChannelBad (s : PipelineState) (direction : Direction) (bad : Bool) : PipelineState :=
  match direction with
  | .clientToServer => { s with clientToServerBad := bad }
  | .serverToClient => { s with serverToClientBad := bad }

end PipelineState

section Stages

variable (config : ImpairmentConfig)

/-- The step of the Gilbert-Elliott channel. -/
def advanceChannel (s : PipelineState) (direction : Direction) : PipelineState :=
  if s.channelBad direction then
    let (flip, s) := s.draw config.badToGoodProbability
    if flip then s.setChannelBad direction false else s
  else
    let (flip, s) := s.draw config.goodToBadProbability
    if flip then s.setChannelBad direction true else s

/-- The loss stages; the reason of a loss, if there is one. -/
def decideLoss (s : PipelineState) (direction : Direction) : Option Bytes × PipelineState :=
  let (lost, s) := s.draw config.uniformLossProbability
  if lost then (some (text "uniform loss"), s)
  else if config.gilbertElliottEnabled then
    let s := advanceChannel config s direction
    let bad := s.channelBad direction
    let (lost, s) := s.draw (if bad then config.lossInBadState else config.lossInGoodState)
    if lost then
      (some (if bad then text "Gilbert-Elliott burst loss (bad)"
        else text "Gilbert-Elliott loss (good)"), s)
    else (none, s)
  else (none, s)

/-- Flip one random bit of a byte, if the datagram has the byte. -/
def flipAt (bytes : Bytes) (s : PipelineState) (index : ℕ) : (Bytes × Bool) × PipelineState :=
  if index < bytes.length then
    let (r, s) := s.drawInRange 0 7
    ((bytes.modify index (· ^^^ UInt8.ofNat (2 ^ r)), true), s)
  else ((bytes, false), s)

/-- The corruption stage: the bytes to deliver, and whether they were corrupted. -/
def maybeCorrupt (datagram : Bytes) (s : PipelineState) : (Bytes × Bool) × PipelineState :=
  if datagram = [] then ((datagram, false), s)
  else
    let (fires, s) := s.draw config.corruptionProbability
    if !fires then ((datagram, false), s)
    else
      match config.corruptionTarget with
      | .opcodeField =>
          let (index, s) := s.drawInRange 0 1
          flipAt datagram s index
      | .blockNumber =>
          let (offset, s) := s.drawInRange 0 1
          flipAt datagram s (2 + offset)
      | .dataPayload =>
          if 4 < datagram.length then
            let (offset, s) := s.drawInRange 0 (datagram.length - 5)
            flipAt datagram s (4 + offset)
          else flipAt datagram s (datagram.length - 1)
      | .anyByte =>
          let (index, s) := s.drawInRange 0 (datagram.length - 1)
          flipAt datagram s index

/-- The token bucket: the delay it imposes, in milliseconds. -/
def throttleDelay (datagramSize : ℕ) (now : ℤ) (s : PipelineState) : ℤ × PipelineState :=
  if !config.throttleEnabled || config.throttleBytesPerSecond.le (Double.ofInt 0) then (0, s)
  else
    let elapsedSeconds := (Double.ofInt (now - s.lastRefill)).div (Double.ofInt 1000000000)
    let refilled := s.tokenBucketBytes.add (elapsedSeconds.mul config.throttleBytesPerSecond)
    let capped := if config.throttleBytesPerSecond.lt refilled then config.throttleBytesPerSecond
      else refilled
    let charged := capped.sub (Double.ofInt datagramSize)
    let s := { s with lastRefill := now, tokenBucketBytes := charged }
    if (Double.ofInt 0).le charged then (0, s)
    else
      let secondsNeeded := charged.neg.div config.throttleBytesPerSecond
      ((secondsNeeded.mul (Double.ofInt 1000)).toInt64, s)

/-- The fixed delay, the jitter, the throttle and the hold-back of a reordered datagram. -/
def deliveryDelay (datagramSize : ℕ) (now : ℤ) (s : PipelineState) : ℤ × PipelineState :=
  let (jitter, s) := if 0 < config.jitter then s.drawInRange 0 config.jitter.toNat else (0, s)
  let (throttle, s) := throttleDelay config datagramSize now s
  let (reorder, s) := s.draw config.reorderProbability
  (config.fixedDelay + jitter + throttle + if reorder then config.reorderExtraDelay else 0, s)

/-- The delivery of a datagram that survived the loss stages. -/
def deliver (datagram : Bytes) (now : ℤ) (s : PipelineState) : PipelineResult × PipelineState :=
  let ((bytes, corrupted), s) := maybeCorrupt config datagram s
  let (delay, s) := deliveryDelay config bytes.length now s
  let primary : DeliveryAction := { bytes, delay, corrupted }
  let (duplicate, s) := s.draw config.duplicationProbability
  if duplicate then
    ({ deliveries := [primary, { bytes, delay := delay + 1, corrupted, isDuplicate := true }] }, s)
  else ({ deliveries := [primary] }, s)

/-- **The pipeline**: what becomes of one datagram. -/
def process (direction : Direction) (datagram : Bytes) (isDataPacket : Bool) (now : ℤ)
    (s : PipelineState) : PipelineResult × PipelineState :=
  if config.blackoutEnabled && config.blackoutAfterDataPackets ≤ s.deliveredDataPackets then
    ({ dropped := true, dropReason := text "blackout after N data packets" }, s)
  else
    match decideLoss config s direction with
    | (some lossReason, s) => ({ dropped := true, dropReason := lossReason }, s)
    | (none, s) =>
      let s := if isDataPacket then
          { s with deliveredDataPackets := u32 (s.deliveredDataPackets + 1) }
        else s
      deliver config datagram now s

/-! ### What the pipeline can do -/

/-- A flipped bit changes a byte. -/
theorem xor_bit_ne (b : UInt8) {r : ℕ} (hr : r < 8) : b ^^^ UInt8.ofNat (2 ^ r) ≠ b := by
  intro h
  have hzero : UInt8.ofNat (2 ^ r) = 0 := by
    rw [← UInt8.xor_right_inj b, h, UInt8.xor_zero]
  interval_cases r <;> exact absurd hzero (by decide)

theorem drawInRange_lt (s : PipelineState) : (s.drawInRange 0 7).1 < 8 := by
  have hle := (@uniformInRange_le 0 7 (by decide) s.prng).2
  rw [UInt64.le_iff_toNat_le] at hle
  have hseven : (7 : UInt64).toNat = 7 := rfl
  exact Nat.lt_succ_of_le (hseven ▸ hle)

/-- A flip keeps the length, and changes the bytes exactly when it reports so. -/
theorem flipAt_spec (bytes : Bytes) (s : PipelineState) (index : ℕ) :
    (flipAt bytes s index).1.1.length = bytes.length ∧
      ((flipAt bytes s index).1.2 = true ↔ (flipAt bytes s index).1.1 ≠ bytes) := by
  unfold flipAt
  split
  · rename_i hlt
    refine ⟨by simp, ?_⟩
    simp only [true_iff]
    intro heq
    have hget := congrArg (fun l => l[index]?) heq
    simp only [List.getElem?_modify_eq, List.getElem?_eq_getElem hlt] at hget
    exact xor_bit_ne _ (drawInRange_lt s) (Option.some.inj hget)
  · simp

/-- **A corrupted datagram has its length and not its bytes.** -/
theorem maybeCorrupt_spec (datagram : Bytes) (s : PipelineState) :
    (maybeCorrupt config datagram s).1.1.length = datagram.length ∧
      ((maybeCorrupt config datagram s).1.2 = true ↔
        (maybeCorrupt config datagram s).1.1 ≠ datagram) := by
  unfold maybeCorrupt
  split
  · simp
  · simp only
    split
    · simp
    · cases config.corruptionTarget with
      | opcodeField => exact flipAt_spec _ _ _
      | blockNumber => exact flipAt_spec _ _ _
      | anyByte => exact flipAt_spec _ _ _
      | dataPayload =>
          simp only
          split
          · exact flipAt_spec _ _ _
          · exact flipAt_spec _ _ _

/-- What a pipeline result says of the datagram it was computed for. -/
inductive PipelineResult.Of (datagram : Bytes) : PipelineResult → Prop
  | dropped (dropReason : Bytes) : PipelineResult.Of datagram { dropped := true, dropReason }
  | delivered {bytes : Bytes} {corrupted : Bool} (delay : ℤ)
      (hlength : bytes.length = datagram.length) (hbytes : corrupted = true ↔ bytes ≠ datagram) :
      PipelineResult.Of datagram { deliveries := [{ bytes, delay, corrupted }] }
  | duplicated {bytes : Bytes} {corrupted : Bool} (delay : ℤ)
      (hlength : bytes.length = datagram.length) (hbytes : corrupted = true ↔ bytes ≠ datagram) :
      PipelineResult.Of datagram { deliveries := [{ bytes, delay, corrupted },
        { bytes, delay := delay + 1, corrupted, isDuplicate := true }] }

theorem deliver_spec (datagram : Bytes) (now : ℤ) (s : PipelineState) :
    PipelineResult.Of datagram (deliver config datagram now s).1 := by
  obtain ⟨hlength, hbytes⟩ := maybeCorrupt_spec config datagram s
  simp only [deliver]
  split
  · exact .duplicated _ hlength hbytes
  · exact .delivered _ hlength hbytes

/-- **What the pipeline can do to a datagram**: drop it, or deliver it once or twice, with its own
bytes or corrupted to others of the same length. -/
theorem process_spec (direction : Direction) (datagram : Bytes) (isDataPacket : Bool) (now : ℤ)
    (s : PipelineState) :
    PipelineResult.Of datagram (process config direction datagram isDataPacket now s).1 := by
  unfold process
  split
  · exact .dropped _
  · split
    · exact .dropped _
    · exact deliver_spec config datagram now _

end Stages

/-! ### No impairment -/

/-- A decision with probability zero leaves the pipeline as it is. -/
theorem draw_zero (s : PipelineState) : s.draw (Double.ofInt 0) = (false, s) := by
  simp [PipelineState.draw, bernoulli_zero]

/-- **The default configuration** delivers every datagram once, unchanged and at once. -/
theorem process_default (direction : Direction) (datagram : Bytes) (isDataPacket : Bool) (now : ℤ)
    (s : PipelineState) :
    (process {} direction datagram isDataPacket now s).1 =
      { deliveries := [{ bytes := datagram }] } := by
  have hcorrupt : ∀ t : PipelineState, maybeCorrupt {} datagram t = ((datagram, false), t) := by
    intro t
    simp [maybeCorrupt, draw_zero]
  simp [process, decideLoss, draw_zero, deliver, hcorrupt, deliveryDelay,
    throttleDelay]

end TftpHarness
