/-
**A token bucket, and what it lets through in a window.**

A bucket is refilled at a rate and holds at most a burst.  A packet takes its size out of it, even
if that leaves a debt, and departs when the debt has been paid back.  Later packets queue behind
the debt, which has no bound.

The bound on a window comes from one potential, the *work* of a bucket: the rate times the time of
its last packet, less what it holds.  A packet raises the work by at least its size, the work never
exceeds the rate times the departure, and at the first departure in a window it is at most a burst
or one packet behind the rate times the beginning of the window.  No order of the arrivals is
needed.

Nothing here is about a particular program.

Main definitions:

* `TokenBucket.Bucket`, `TokenBucket.serve` — the bucket and what a packet makes of it;
* `TokenBucket.Bucket.departure` — when the last packet departs;
* `TokenBucket.Bucket.work` — the potential;
* `TokenBucket.counted` — the sizes of the packets of a run that are counted.

Main results:

* `TokenBucket.work_serve` — how a packet raises the work;
* `TokenBucket.size_le_of_departure` — how far the work may be behind a departure;
* `TokenBucket.counted_le` — **the bound on a window**.
-/

import Mathlib.Algebra.Order.Field.Basic
import Mathlib.Tactic.Linarith
import Mathlib.Tactic.Ring

set_option relaxedAutoImplicit false
set_option autoImplicit false

namespace TokenBucket

variable {α : Type*}

/-- A bucket: what it holds, which is negative for a debt, and the time of its last packet. -/
structure Bucket (α : Type*) where
  level : α
  time : α

/-- A packet: when it arrives, and what it takes out of the bucket. -/
structure Packet (α : Type*) where
  arrival : α
  size : α

variable [Field α] [LinearOrder α] [IsStrictOrderedRing α]

/-- The bucket after a packet: refilled up to the burst, then charged. -/
def serve (rate burst : α) (b : Bucket α) (p : Packet α) : Bucket α where
  level := min (b.level + (p.arrival - b.time) * rate) burst - p.size
  time := p.arrival

namespace Bucket

/-- When the last packet departs: on its arrival, or when the debt has been paid back. -/
def departure (rate : α) (b : Bucket α) : α := b.time + max 0 (-b.level) / rate

/-- The potential: the traffic up to now at full rate, less what the bucket holds. -/
def work (rate : α) (b : Bucket α) : α := rate * b.time - b.level

end Bucket

section Window

variable {rate burst : α}

/-- **A packet raises the work** to the rate times its arrival less the burst, if it was below, and
then by its size. -/
theorem work_serve (b : Bucket α) (p : Packet α) :
    (serve rate burst b p).work rate =
      max (b.work rate) (rate * p.arrival - burst) + p.size := by
  have hrefill : (p.arrival - b.time) * rate = rate * p.arrival - rate * b.time := by ring
  simp only [Bucket.work, serve, hrefill]
  rcases le_total (b.level + (rate * p.arrival - rate * b.time)) burst with h | h
  · rw [min_eq_left h, max_eq_left (by linarith)]
    ring
  · rw [min_eq_right h, max_eq_right (by linarith)]
    ring

/-- The departure at full rate is the arrival or the work, whichever is later. -/
theorem rate_mul_departure (hrate : 0 < rate) (b : Bucket α) :
    rate * b.departure rate = max (rate * b.time) (b.work rate) := by
  have hdebt : rate * (max 0 (-b.level) / rate) = max 0 (-b.level) :=
    mul_div_cancel₀ _ hrate.ne'
  rw [Bucket.departure, mul_add, hdebt, Bucket.work]
  rcases le_total 0 (-b.level) with h | h
  · rw [max_eq_right h, max_eq_right (by linarith), sub_eq_add_neg]
  · rw [max_eq_left h, max_eq_left (by linarith), add_zero]

/-- The work is at most the traffic up to the departure at full rate. -/
theorem work_le (hrate : 0 < rate) (b : Bucket α) : b.work rate ≤ rate * b.departure rate := by
  rw [rate_mul_departure hrate]
  exact le_max_right _ _

/-- **The first departure after a moment** leaves the work at most a burst or its own size behind
the traffic up to that moment. -/
theorem size_le_of_departure (hrate : 0 < rate) (b : Bucket α) (p : Packet α) {s : α}
    (hs : s ≤ (serve rate burst b p).departure rate) :
    p.size ≤ (serve rate burst b p).work rate - rate * s + max burst p.size := by
  have htraffic : rate * s ≤ rate * (serve rate burst b p).departure rate :=
    mul_le_mul_of_nonneg_left hs hrate.le
  rw [rate_mul_departure hrate] at htraffic
  rcases le_max_iff.1 htraffic with harrival | hwork
  · -- it departs on its arrival, and the bucket holds no more than the burst
    have hfull : rate * p.arrival - burst ≤ max (b.work rate) (rate * p.arrival - burst) :=
      le_max_right _ _
    have htime : (serve rate burst b p).time = p.arrival := rfl
    rw [htime] at harrival
    rw [work_serve]
    linarith [le_max_left burst p.size]
  · -- it departs when its debt has been paid back
    linarith [le_max_right burst p.size]

/-- The sizes of the packets that are counted, each with the bucket after it. -/
def counted (departs : Packet α → Bucket α → Prop) [∀ p b, Decidable (departs p b)]
    (rate burst : α) : Bucket α → List (Packet α) → α
  | _, [] => 0
  | b, p :: ps =>
      (if departs p (serve rate burst b p) then p.size else 0) +
        counted departs rate burst (serve rate burst b p) ps

variable {departs : Packet α → Bucket α → Prop} [∀ p b, Decidable (departs p b)]

/-- What has been counted so far is at most a burst or a packet ahead of the work and of the
traffic in the window; so it stays. -/
theorem counted_le_of_ahead (hrate : 0 < rate) {s u most : α}
    (hwindow : ∀ p b, departs p b → s ≤ b.departure rate ∧ b.departure rate ≤ u)
    (hburst : burst ≤ most) (hmost : 0 ≤ rate * (u - s) + most) (ps : List (Packet α))
    (hsizes : ∀ p ∈ ps, 0 ≤ p.size ∧ p.size ≤ most) (b : Bucket α) {c : α}
    (hc : c = 0 ∨ c ≤ b.work rate - rate * s + most ∧ c ≤ rate * (u - s) + most) :
    c + counted departs rate burst b ps ≤ rate * (u - s) + most := by
  induction ps generalizing b c with
  | nil =>
      rw [counted, add_zero]
      rcases hc with rfl | ⟨-, hle⟩
      · exact hmost
      · exact hle
  | cons p ps ih =>
      have hrest := fun c' => @ih (fun q hq => hsizes q (List.mem_cons_of_mem _ hq))
        (serve rate burst b p) c'
      obtain ⟨hpos, hlargest⟩ := hsizes p List.mem_cons_self
      have hraise : b.work rate + p.size ≤ (serve rate burst b p).work rate := by
        rw [work_serve]
        linarith [le_max_left (b.work rate) (rate * p.arrival - burst)]
      rw [counted, ← add_assoc]
      refine hrest _ ?_
      split
      · next hdeparts =>
          obtain ⟨hs, hu⟩ := hwindow _ _ hdeparts
          have hahead : c + p.size ≤ (serve rate burst b p).work rate - rate * s + most := by
            rcases hc with rfl | ⟨hwork, -⟩
            · have hfirst := size_le_of_departure hrate b p hs
              have hmax : max burst p.size ≤ most := max_le hburst hlargest
              linarith
            · linarith
          have htraffic : (serve rate burst b p).work rate ≤ rate * u :=
            (work_le hrate _).trans (mul_le_mul_of_nonneg_left hu hrate.le)
          exact Or.inr ⟨hahead, by linarith [mul_sub rate u s]⟩
      · rw [add_zero]
        rcases hc with hzero | ⟨hwork, hle⟩
        · exact Or.inl hzero
        · exact Or.inr ⟨by linarith, hle⟩

/-- **The bound on a window**: the packets that depart within it add up to at most its length at
full rate and a burst, or the largest packet if that is more. -/
theorem counted_le (hrate : 0 < rate) {s u largest : α} (hsu : s ≤ u)
    (hwindow : ∀ p b, departs p b → s ≤ b.departure rate ∧ b.departure rate ≤ u)
    (hburst : 0 ≤ burst) (ps : List (Packet α)) (hsizes : ∀ p ∈ ps, 0 ≤ p.size ∧ p.size ≤ largest)
    (b : Bucket α) :
    counted departs rate burst b ps ≤ rate * (u - s) + max burst largest := by
  have hmost : 0 ≤ rate * (u - s) + max burst largest :=
    add_nonneg (mul_nonneg hrate.le (sub_nonneg.2 hsu)) (hburst.trans (le_max_left _ _))
  have hcounted := counted_le_of_ahead hrate hwindow (le_max_left burst largest) hmost ps
    (fun p hp => ⟨(hsizes p hp).1, (hsizes p hp).2.trans (le_max_right _ _)⟩) b (Or.inl rfl)
  rwa [zero_add] at hcounted

end Window

end TokenBucket
