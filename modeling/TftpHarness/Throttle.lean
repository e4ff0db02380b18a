/-
**The throttle of the impairment pipeline.**

`throttle_delay` is a token bucket in `double`s: it refills at the configured rate, holds at most
one second of traffic, charges the datagram and delays it until the debt has been paid back, in
whole milliseconds.  The function is written here once, over any arithmetic; over the doubles it is
what the pipeline does, over the rationals it is the bucket the source means.  What the bucket lets
through in a window is then the bound of the library, with a millisecond more for the truncation.

Main definitions:

* `TftpHarness.Arithmetic`, `TftpHarness.doubles`, `TftpHarness.rationals` — the numbers;
* `TftpHarness.throttleStep`, `TftpHarness.throttleDelays` — the throttle and its runs;
* `TftpHarness.departedWithin` — the bytes that depart within a window.

Main results:

* `TftpHarness.processAll_throttle` — with only the throttle enabled, the pipeline delivers each
  datagram once, unchanged, with the delay of the throttle;
* `TftpHarness.departedWithin_le` — **the rate bound**.
-/

import Mathlib.Data.Rat.Floor
import TftpHarness.ImpairedRuns
import TftpHarness.TokenBucket

set_option relaxedAutoImplicit false
set_option autoImplicit false

namespace TftpHarness

/-! ### The throttle over any arithmetic -/

/-- The operations on numbers that the throttle uses. -/
structure Arithmetic (α : Type) where
  ofInt : ℤ → α
  add : α → α → α
  sub : α → α → α
  mul : α → α → α
  div : α → α → α
  neg : α → α
  lt : α → α → Bool
  le : α → α → Bool
  /-- The conversion to `long long`. -/
  truncate : α → ℤ

/-- The arithmetic of `double`. -/
def doubles : Arithmetic Double where
  ofInt := Double.ofInt
  add := Double.add
  sub := Double.sub
  mul := Double.mul
  div := Double.div
  neg := Double.neg
  lt := Double.lt
  le := Double.le
  truncate := Double.toInt64

/-- Exact arithmetic, with conversions that drop the fraction. -/
def rationals : Arithmetic ℚ where
  ofInt n := n
  add := (· + ·)
  sub := (· - ·)
  mul := (· * ·)
  div := (· / ·)
  neg := Neg.neg
  lt x y := decide (x < y)
  le x y := decide (x ≤ y)
  truncate x := if x < 0 then ⌈x⌉ else ⌊x⌋

/-- What the throttle remembers. -/
structure ThrottleState (α : Type) where
  tokenBucketBytes : α
  lastRefill : ℤ
  deriving DecidableEq

section Step

variable {α : Type} (ops : Arithmetic α) (bytesPerSecond : α)

/-- The level of the bucket after a refill and the charge for a datagram. -/
def chargedLevel (datagramSize : ℕ) (now : ℤ) (s : ThrottleState α) : α :=
  let elapsedSeconds := ops.div (ops.ofInt (now - s.lastRefill)) (ops.ofInt 1000000000)
  let refilled := ops.add s.tokenBucketBytes (ops.mul elapsedSeconds bytesPerSecond)
  let capped := if ops.lt bytesPerSecond refilled then bytesPerSecond else refilled
  ops.sub capped (ops.ofInt datagramSize)

/-- `throttle_delay`, when it is enabled. -/
def throttleStep (datagramSize : ℕ) (now : ℤ) (s : ThrottleState α) : ℤ × ThrottleState α :=
  if ops.le bytesPerSecond (ops.ofInt 0) then (0, s)
  else
    let charged := chargedLevel ops bytesPerSecond datagramSize now s
    if ops.le (ops.ofInt 0) charged then (0, ⟨charged, now⟩)
    else
      let secondsNeeded := ops.div (ops.neg charged) bytesPerSecond
      (ops.truncate (ops.mul secondsNeeded (ops.ofInt 1000)), ⟨charged, now⟩)

variable {ops bytesPerSecond} {datagramSize : ℕ} {now : ℤ} {s : ThrottleState α}

/-- A rate that is not positive throttles nothing. -/
theorem throttleStep_off (hrate : ops.le bytesPerSecond (ops.ofInt 0) = true) :
    throttleStep ops bytesPerSecond datagramSize now s = (0, s) := if_pos hrate

/-- A datagram that the bucket pays for is not delayed. -/
theorem throttleStep_paid (hrate : ¬ ops.le bytesPerSecond (ops.ofInt 0) = true)
    (hcharged : ops.le (ops.ofInt 0) (chargedLevel ops bytesPerSecond datagramSize now s) = true) :
    throttleStep ops bytesPerSecond datagramSize now s =
      (0, ⟨chargedLevel ops bytesPerSecond datagramSize now s, now⟩) :=
  (if_neg hrate).trans (if_pos hcharged)

/-- A debt delays the datagram until it has been paid back. -/
theorem throttleStep_debt (hrate : ¬ ops.le bytesPerSecond (ops.ofInt 0) = true)
    (hcharged :
      ¬ ops.le (ops.ofInt 0) (chargedLevel ops bytesPerSecond datagramSize now s) = true) :
    throttleStep ops bytesPerSecond datagramSize now s =
      (ops.truncate (ops.mul (ops.div (ops.neg (chargedLevel ops bytesPerSecond datagramSize now s))
        bytesPerSecond) (ops.ofInt 1000)),
        ⟨chargedLevel ops bytesPerSecond datagramSize now s, now⟩) :=
  (if_neg hrate).trans (if_neg hcharged)

variable (ops bytesPerSecond)

/-- The delays of a sequence of datagrams. -/
def throttleDelays : List ProcessCall → ThrottleState α → List ℤ
  | [], _ => []
  | call :: calls, s =>
      let (delay, s) := throttleStep ops bytesPerSecond call.datagram.length call.now s
      delay :: throttleDelays calls s

theorem throttleDelays_cons (call : ProcessCall) (calls : List ProcessCall) (s : ThrottleState α) :
    throttleDelays ops bytesPerSecond (call :: calls) s =
      (throttleStep ops bytesPerSecond call.datagram.length call.now s).1 ::
        throttleDelays ops bytesPerSecond calls
          (throttleStep ops bytesPerSecond call.datagram.length call.now s).2 := rfl

end Step

/-! ### The pipeline with only the throttle enabled -/

/-- What the throttle finds in the state of the pipeline. -/
def PipelineState.throttle (s : PipelineState) : ThrottleState Double :=
  ⟨s.tokenBucketBytes, s.lastRefill⟩

/-- A configuration with the throttle and nothing else. -/
def throttleOnly (bytesPerSecond : Double) : ImpairmentConfig :=
  { throttleEnabled := true, throttleBytesPerSecond := bytesPerSecond }

/-- `throttleStep` is the throttle of the pipeline. -/
theorem throttleDelay_throttleOnly (bytesPerSecond : Double) (datagramSize : ℕ) (now : ℤ)
    (s : PipelineState) :
    throttleDelay (throttleOnly bytesPerSecond) datagramSize now s =
      let step := throttleStep doubles bytesPerSecond datagramSize now s.throttle
      (step.1, { s with tokenBucketBytes := step.2.tokenBucketBytes,
                        lastRefill := step.2.lastRefill }) := by
  by_cases hrate : doubles.le bytesPerSecond (doubles.ofInt 0) = true
  · rw [throttleStep_off hrate]
    exact if_pos hrate
  by_cases hcharged : doubles.le (doubles.ofInt 0)
      (chargedLevel doubles bytesPerSecond datagramSize now s.throttle) = true
  · rw [throttleStep_paid hrate hcharged]
    exact (if_neg hrate).trans (if_pos hcharged)
  · rw [throttleStep_debt hrate hcharged]
    exact (if_neg hrate).trans (if_neg hcharged)

/-- The result of delivering a datagram once, unchanged, after a delay. -/
def deliveredAfter (call : ProcessCall) (delay : ℤ) : PipelineResult :=
  { deliveries := [{ bytes := call.datagram, delay }] }

/-- **One datagram** under a throttle: delivered once, unchanged, with the delay of the throttle. -/
theorem process_throttle (bytesPerSecond : Double) (call : ProcessCall) (s : PipelineState) :
    (process (throttleOnly bytesPerSecond) call.direction call.datagram call.isDataPacket call.now
        s).1 =
      deliveredAfter call
        (throttleStep doubles bytesPerSecond call.datagram.length call.now s.throttle).1 ∧
    (process (throttleOnly bytesPerSecond) call.direction call.datagram call.isDataPacket call.now
        s).2.throttle =
      (throttleStep doubles bytesPerSecond call.datagram.length call.now s.throttle).2 := by
  have hcorrupt (t : PipelineState) : maybeCorrupt (throttleOnly bytesPerSecond) call.datagram t =
      ((call.datagram, false), t) := by
    simp [maybeCorrupt, throttleOnly, draw_zero]
  have hdelay (t : PipelineState) : deliveryDelay (throttleOnly bytesPerSecond)
      call.datagram.length call.now t =
        throttleDelay (throttleOnly bytesPerSecond) call.datagram.length call.now t := by
    simp [deliveryDelay, throttleOnly, draw_zero]
  have hloss (t : PipelineState) (direction : Direction) :
      decideLoss (throttleOnly bytesPerSecond) t direction = (none, t) := by
    simp [decideLoss, throttleOnly, draw_zero]
  have hduplicate (t : PipelineState) :
      t.draw (throttleOnly bytesPerSecond).duplicationProbability = (false, t) := draw_zero t
  have hblackout : (throttleOnly bytesPerSecond).blackoutEnabled = false := rfl
  cases hdata : call.isDataPacket <;>
    simp [process, deliver, hblackout, hloss, hcorrupt, hdelay, hduplicate,
      throttleDelay_throttleOnly, deliveredAfter, PipelineState.throttle]

/-- **A run** of the pipeline with only the throttle enabled. -/
theorem processAll_throttle (bytesPerSecond : Double) (calls : List ProcessCall)
    (s : PipelineState) :
    processAll (throttleOnly bytesPerSecond) calls s =
      List.zipWith deliveredAfter calls
        (throttleDelays doubles bytesPerSecond calls s.throttle) := by
  induction calls generalizing s with
  | nil => rfl
  | cons call calls ih =>
      obtain ⟨hresult, hstate⟩ := process_throttle bytesPerSecond call s
      rw [processAll, throttleDelays_cons, List.zipWith_cons_cons, ← hstate, ← ih, ← hresult]

/-! ### The throttle in exact numbers -/

section Exact

variable (bytesPerSecond : ℚ)

/-- The throttle as the pipeline is constructed at a time: an empty bucket. -/
def ThrottleState.initial (start : ℤ) : ThrottleState ℚ := ⟨0, start⟩

/-- When a datagram departs, in seconds: its arrival and its delay. -/
def departure (call : ProcessCall) (delay : ℤ) : ℚ := call.now / 1000000000 + delay / 1000

/-- The bytes of the datagrams that depart within a window. -/
def departedWithin (calls : List ProcessCall) (delays : List ℤ) (s t : ℚ) : ℚ :=
  (((calls.zip delays).filter fun served =>
    s ≤ departure served.1 served.2 ∧ departure served.1 served.2 ≤ t).map
      fun served => (served.1.datagram.length : ℚ)).sum

/-- The size of the largest datagram. -/
def largestSize (calls : List ProcessCall) : ℕ := (calls.map (·.datagram.length)).foldr max 0

/-- The bucket behind the throttle, its times in seconds. -/
def ThrottleState.bucket (s : ThrottleState ℚ) : TokenBucket.Bucket ℚ :=
  ⟨s.tokenBucketBytes, s.lastRefill / 1000000000⟩

/-- A datagram as a packet for the bucket. -/
def ProcessCall.packet (call : ProcessCall) : TokenBucket.Packet ℚ :=
  ⟨call.now / 1000000000, call.datagram.length⟩

/-- The delay that a level of the bucket imposes. -/
def delayOf (level : ℚ) : ℤ := ⌊max 0 (-level) / bytesPerSecond * 1000⌋

variable {bytesPerSecond}

/-- **Truncation** moves a departure forward by less than a millisecond. -/
theorem departure_truncated (b : TokenBucket.Bucket ℚ) :
    b.time + (delayOf bytesPerSecond b.level : ℚ) / 1000 ≤ b.departure bytesPerSecond ∧
      b.departure bytesPerSecond ≤
        b.time + (delayOf bytesPerSecond b.level : ℚ) / 1000 + 1 / 1000 := by
  have hfloor := Int.floor_le (max 0 (-b.level) / bytesPerSecond * 1000)
  have hlt := Int.lt_floor_add_one (max 0 (-b.level) / bytesPerSecond * 1000)
  unfold TokenBucket.Bucket.departure delayOf
  constructor <;> linarith

/-- One more datagram. -/
theorem departedWithin_cons (call : ProcessCall) (calls : List ProcessCall) (delay : ℤ)
    (delays : List ℤ) (s t : ℚ) :
    departedWithin (call :: calls) (delay :: delays) s t =
      (if s ≤ departure call delay ∧ departure call delay ≤ t then (call.datagram.length : ℚ)
        else 0) + departedWithin calls delays s t := by
  unfold departedWithin
  rw [List.zip_cons_cons, List.filter_cons]
  simp only [decide_eq_true_eq]
  split
  · rw [List.map_cons, List.sum_cons]
  · rw [zero_add]

/-- No datagram is larger than the largest. -/
theorem length_le_largestSize {calls : List ProcessCall} {call : ProcessCall} (h : call ∈ calls) :
    call.datagram.length ≤ largestSize calls := by
  induction calls with
  | nil => exact absurd h List.not_mem_nil
  | cons first calls ih =>
      rcases List.mem_cons.1 h with rfl | h
      · exact le_max_left _ _
      · exact (ih h).trans (le_max_right _ _)

variable (hrate : 0 < bytesPerSecond)
include hrate

/-- **The throttle is a token bucket** with a burst of one second, and delays by the debt in whole
milliseconds. -/
theorem throttleStep_rationals (call : ProcessCall) (s : ThrottleState ℚ) :
    (throttleStep rationals bytesPerSecond call.datagram.length call.now s).2.bucket =
        TokenBucket.serve bytesPerSecond bytesPerSecond s.bucket call.packet ∧
      (throttleStep rationals bytesPerSecond call.datagram.length call.now s).1 =
        delayOf bytesPerSecond
          (TokenBucket.serve bytesPerSecond bytesPerSecond s.bucket call.packet).level := by
  have hon : ¬ rationals.le bytesPerSecond (rationals.ofInt 0) = true := by
    simpa [rationals] using hrate
  have hlevel : chargedLevel rationals bytesPerSecond call.datagram.length call.now s =
      (TokenBucket.serve bytesPerSecond bytesPerSecond s.bucket call.packet).level := by
    have helapsed : ((call.now - s.lastRefill : ℤ) : ℚ) / 1000000000 =
        call.now / 1000000000 - s.lastRefill / 1000000000 := by
      push_cast
      ring
    simp only [chargedLevel, rationals, TokenBucket.serve, ThrottleState.bucket,
      ProcessCall.packet, decide_eq_true_eq, ← helapsed, Int.cast_natCast, Int.cast_ofNat]
    rw [min_comm, min_def_lt]
  by_cases hcharged : rationals.le (rationals.ofInt 0)
      (chargedLevel rationals bytesPerSecond call.datagram.length call.now s) = true
  · have hpaid : 0 ≤ chargedLevel rationals bytesPerSecond call.datagram.length call.now s := by
      simpa [rationals] using hcharged
    rw [throttleStep_paid hon hcharged, ← hlevel]
    refine ⟨by rw [ThrottleState.bucket, hlevel]; rfl, ?_⟩
    rw [delayOf, max_eq_left (by linarith), zero_div, zero_mul, Int.floor_zero]
  · have hdebt : chargedLevel rationals bytesPerSecond call.datagram.length call.now s < 0 := by
      simpa [rationals] using hcharged
    rw [throttleStep_debt hon hcharged, ← hlevel]
    refine ⟨by rw [ThrottleState.bucket, hlevel]; rfl, ?_⟩
    have hpos : 0 ≤ -chargedLevel rationals bytesPerSecond call.datagram.length call.now s /
        bytesPerSecond * 1000 :=
      mul_nonneg (div_nonneg (by linarith) hrate.le) (by norm_num)
    rw [delayOf, max_eq_right (by linarith)]
    exact if_neg (not_lt.2 hpos)

/-- No delay is negative. -/
theorem delayOf_nonneg (level : ℚ) : 0 ≤ delayOf bytesPerSecond level :=
  Int.floor_nonneg.2 (mul_nonneg (div_nonneg (le_max_left _ _) hrate.le) (by norm_num))

/-- The bytes that depart within a window are counted by the bucket. -/
theorem departedWithin_eq_counted (calls : List ProcessCall) (st : ThrottleState ℚ) (s t : ℚ) :
    departedWithin calls (throttleDelays rationals bytesPerSecond calls st) s t =
      TokenBucket.counted (fun _ b => s ≤ b.time + (delayOf bytesPerSecond b.level : ℚ) / 1000 ∧
        b.time + (delayOf bytesPerSecond b.level : ℚ) / 1000 ≤ t)
        bytesPerSecond bytesPerSecond st.bucket (calls.map ProcessCall.packet) := by
  induction calls generalizing st with
  | nil => rfl
  | cons call calls ih =>
      obtain ⟨hbucket, hdelay⟩ := throttleStep_rationals hrate call st
      have htime : call.now / 1000000000 =
          (TokenBucket.serve bytesPerSecond bytesPerSecond st.bucket call.packet).time := rfl
      rw [List.map_cons, TokenBucket.counted, throttleDelays_cons, departedWithin_cons, departure,
        hdelay, htime, ih, hbucket]
      rfl

/-- **The rate bound of the throttle.**  Whatever arrives when, the bytes that depart within a
window are at most its length and a millisecond at full rate, and one second of traffic or the
largest datagram, whichever is more; and no delay is negative. -/
theorem departedWithin_le (calls : List ProcessCall) (start : ℤ) :
    (∀ s t : ℚ, s ≤ t →
      departedWithin calls (throttleDelays rationals bytesPerSecond calls (.initial start)) s t ≤
        bytesPerSecond * (t - s + 1 / 1000) + max (bytesPerSecond * 1) (largestSize calls)) ∧
    ∀ delay ∈ throttleDelays rationals bytesPerSecond calls (.initial start), 0 ≤ delay := by
  refine ⟨fun s t hst => ?_, ?_⟩
  · rw [departedWithin_eq_counted hrate]
    have hsizes : ∀ p ∈ calls.map ProcessCall.packet,
        0 ≤ p.size ∧ p.size ≤ (largestSize calls : ℚ) := by
      intro p hp
      obtain ⟨call, hcall, rfl⟩ := List.mem_map.1 hp
      exact ⟨Nat.cast_nonneg _, Nat.cast_le.2 (length_le_largestSize hcall)⟩
    calc _ ≤ bytesPerSecond * (t + 1 / 1000 - s) + max bytesPerSecond (largestSize calls) :=
          TokenBucket.counted_le hrate (by linarith) (fun p b (hdeparts : _ ∧ _) => by
            obtain ⟨hearly, hlate⟩ := @departure_truncated bytesPerSecond b
            exact ⟨hdeparts.1.trans hearly, hlate.trans (by linarith [hdeparts.2])⟩)
            hrate.le _ hsizes _
      _ = bytesPerSecond * (t - s + 1 / 1000) + max (bytesPerSecond * 1) (largestSize calls) := by
          rw [mul_one, sub_add_eq_add_sub]
  · generalize ThrottleState.initial start = st
    induction calls generalizing st with
    | nil => exact fun delay h => absurd h List.not_mem_nil
    | cons call calls ih =>
        intro delay h
        rw [throttleDelays_cons] at h
        rcases List.mem_cons.1 h with rfl | h
        · rw [(throttleStep_rationals hrate call st).2]
          exact delayOf_nonneg hrate _
        · exact ih _ delay h

end Exact

/-- Two datagrams of three bytes that arrive together. -/
def burstCalls : List ProcessCall :=
  [⟨.serverToClient, [0, 3, 1], true, 0⟩, ⟨.serverToClient, [0, 3, 2], true, 0⟩]

/-- At two bytes per second the second one waits behind the debt of the first. -/
theorem burstCalls_throttled :
    throttleDelays rationals 2 burstCalls (.initial 0) = [1500, 3000] ∧
      departedWithin burstCalls (throttleDelays rationals 2 burstCalls (.initial 0)) 1 3 ≤
        2 * (3 - 1 + 1 / 1000) + max (2 * 1) (largestSize burstCalls : ℚ) :=
  ⟨by decide +kernel,
    (departedWithin_le (show (0 : ℚ) < 2 by decide) burstCalls 0).1 1 3 (by norm_num)⟩

end TftpHarness
