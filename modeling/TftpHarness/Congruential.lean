/-
**Linear congruential generators.**

A generator goes from `x` to `a * x + c` modulo a power of two.  With an odd increment and a
multiplier of one more than a multiple of four it runs through all states before it repeats one.

It is usual to use the highest bits of a state only.  Two states with the same highest bits differ
by little, and their successors by the powers of the multiplier as much, so if some consecutive
states have the same highest bits then a combination of their differences that vanishes modulo the
modulus is too small not to vanish altogether.  Enough independent combinations with small
coefficients leave no difference.

Main definitions:

* `Congruential.step` — the generator before reduction;
* `Congruential.combine`, `Congruential.eval`, `Congruential.weight` — a combination of differences,
  its value at the powers of the multiplier, and the size of its coefficients.

Main results:

* `Congruential.iterate_modEq_iff` — **the period is the modulus**;
* `Congruential.combine_eq_zero` — **small combinations of small differences vanish**.
-/

import Mathlib.Algebra.Order.Ring.Abs
import Mathlib.Algebra.Ring.GeomSum
import Mathlib.Data.Int.ModEq
import Mathlib.NumberTheory.Multiplicity
import Mathlib.Tactic.Ring

set_option relaxedAutoImplicit false
set_option autoImplicit false

namespace Congruential

/-! ### The period -/

/-- The generator, without reduction. -/
def step (a c x : ℤ) : ℤ := a * x + c

variable {a c : ℤ}

/-- What `n` steps add to a state. -/
theorem iterate_sub (n : ℕ) (x : ℤ) :
    (step a c)^[n] x - x = (∑ i ∈ Finset.range n, a ^ i) * ((a - 1) * x + c) := by
  induction n with
  | zero => simp
  | succ n ih =>
      rw [Function.iterate_succ_apply', step, geom_sum_succ]
      have hstep : a * (step a c)^[n] x + c - x =
          a * ((step a c)^[n] x - x) + ((a - 1) * x + c) := by
        ring
      rw [hstep, ih]
      ring

/-- The powers of two in a geometric sum are those of its length. -/
theorem two_pow_dvd_geomSum (ha : 4 ∣ a - 1) (k n : ℕ) :
    (2 : ℤ) ^ k ∣ ∑ i ∈ Finset.range n, a ^ i ↔ 2 ^ k ∣ n := by
  have hcast : (2 : ℤ) ^ k ∣ (n : ℤ) ↔ 2 ^ k ∣ n := by
    rw [← Int.natCast_dvd_natCast, Nat.cast_pow, Nat.cast_ofNat]
  rw [← hcast]
  by_cases hone : a = 1
  · simp [hone]
  have hodd : ¬ (2 : ℤ) ∣ a := by omega
  have hlift := Int.two_pow_sub_pow' n ha hodd
  rw [one_pow, ← geom_sum_mul, emultiplicity_mul Int.prime_two, add_comm] at hlift
  have hfinite : emultiplicity 2 (a - 1) ≠ ⊤ := by
    rw [ne_eq, emultiplicity_eq_top, not_not]
    exact Int.finiteMultiplicity_iff.2 ⟨by decide, sub_ne_zero.2 hone⟩
  have hsame := ENat.add_right_injective_of_ne_top hfinite hlift
  rw [pow_dvd_iff_le_emultiplicity, pow_dvd_iff_le_emultiplicity, hsame]

/-- **The period is the modulus.** -/
theorem iterate_modEq_iff (ha : 4 ∣ a - 1) (hc : ¬ 2 ∣ c) (k i j : ℕ) (x : ℤ) :
    (step a c)^[i] x ≡ (step a c)^[j] x [ZMOD 2 ^ k] ↔ i ≡ j [MOD 2 ^ k] := by
  wlog hij : i ≤ j generalizing i j with hwlog
  · rw [Int.modEq_comm, Nat.ModEq.comm]
    exact hwlog j i (by omega)
  obtain ⟨n, rfl⟩ := Nat.exists_eq_add_of_le hij
  have hodd : ¬ (2 : ℤ) ∣ (a - 1) * (step a c)^[i] x + c := by
    intro hdvd
    have heven : (2 : ℤ) ∣ (a - 1) * (step a c)^[i] x :=
      Dvd.dvd.mul_right (dvd_trans (by decide) ha) _
    exact hc ((Int.dvd_add_right heven).1 hdvd)
  rw [add_comm i n, Function.iterate_add_apply, Int.modEq_iff_dvd, iterate_sub,
    Nat.modEq_iff_dvd' (by omega), Nat.add_sub_cancel, ← two_pow_dvd_geomSum ha]
  exact ⟨Int.prime_two.pow_dvd_of_dvd_mul_right k hodd, fun h => h.mul_right _⟩

/-! ### Small differences -/

/-- A combination of the terms of a sequence. -/
def combine : List ℤ → (ℕ → ℤ) → ℤ
  | [], _ => 0
  | k :: ks, d => k * d 0 + combine ks fun n => d (n + 1)

/-- The combination of the powers of `a`. -/
def eval (a : ℤ) : List ℤ → ℤ
  | [] => 0
  | k :: ks => k + a * eval a ks

/-- The sum of the absolute values of the coefficients. -/
def weight : List ℤ → ℤ
  | [] => 0
  | k :: ks => |k| + weight ks

theorem combine_modEq {m : ℤ} (ks : List ℤ) :
    ∀ {d : ℕ → ℤ}, (∀ n, n + 1 < ks.length → d (n + 1) ≡ a * d n [ZMOD m]) →
      combine ks d ≡ eval a ks * d 0 [ZMOD m] := by
  induction ks with
  | nil =>
      intro d _
      simp [combine, eval]
  | cons k ks ih =>
      intro d hd
      cases ks with
      | nil => simp [combine, eval]
      | cons l ls =>
          have hrest := @ih (fun n => d (n + 1)) fun n hn =>
            hd (n + 1) (by simpa using hn)
          have hfirst := hd 0 (by simp)
          calc combine (k :: l :: ls) d
              = k * d 0 + combine (l :: ls) fun n => d (n + 1) := rfl
            _ ≡ k * d 0 + eval a (l :: ls) * (a * d 0) [ZMOD m] :=
                (hrest.trans (hfirst.mul_left _)).add_left _
            _ = eval a (k :: l :: ls) * d 0 := by
                simp only [eval]
                ring

theorem abs_combine_le {bound : ℤ} (ks : List ℤ) :
    ∀ {d : ℕ → ℤ}, (∀ n < ks.length, |d n| ≤ bound) → |combine ks d| ≤ weight ks * bound := by
  induction ks with
  | nil =>
      intro d _
      simp [combine, weight]
  | cons k ks ih =>
      intro d hd
      have hrest := @ih (fun n => d (n + 1)) fun n hn => hd (n + 1) (by simpa using hn)
      have hfirst : |k * d 0| ≤ |k| * bound := by
        rw [abs_mul]
        exact mul_le_mul_of_nonneg_left (hd 0 (by simp)) (abs_nonneg k)
      calc |combine (k :: ks) d|
          ≤ |k * d 0| + |combine ks fun n => d (n + 1)| := abs_add_le _ _
        _ ≤ |k| * bound + weight ks * bound := add_le_add hfirst hrest
        _ = weight (k :: ks) * bound := by
            simp only [weight]
            ring

/-- **Small combinations of small differences vanish.** -/
theorem combine_eq_zero {m bound : ℤ} {ks : List ℤ} {d : ℕ → ℤ}
    (hd : ∀ n, n + 1 < ks.length → d (n + 1) ≡ a * d n [ZMOD m])
    (hbound : ∀ n < ks.length, |d n| ≤ bound) (hzero : m ∣ eval a ks)
    (hsmall : weight ks * bound < m) : combine ks d = 0 := by
  have hdvd : m ∣ combine ks d :=
    (combine_modEq ks hd).dvd_iff.2 (hzero.mul_right (d 0))
  exact Int.eq_zero_of_abs_lt_dvd hdvd (lt_of_le_of_lt (abs_combine_le ks hbound) hsmall)

end Congruential
