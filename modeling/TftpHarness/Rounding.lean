/-
**Rounding to a number of significant digits.**

A binary floating-point format and a printed decimal both keep a number's leading digits: the
nearest multiple of a power of the base, ties going to the even multiple.  This module rounds
rationals in any base, to a multiple of a given power or to a given number of significant digits.

Nothing here is about a particular format.

Main definitions:

* `Rounding.roundHalfEven` — the nearest integer, ties to even;
* `Rounding.roundAt` — the nearest multiple of a power of the base;
* `Rounding.ulp` — the exponent of the last of the significant digits.

Main results:

* `Rounding.roundAt_of_multiple` — **a multiple of the power is its own rounding**;
* `Rounding.le_roundAt`, `Rounding.roundAt_le` — **rounding does not cross a multiple**;
* `Rounding.roundAt_of_near` — a number less than half a place from a multiple is rounded to it;
* `Rounding.ulp_le` — a number with few digits has its last digit in range.
-/

import Mathlib.Data.Int.Log
import Mathlib.Data.Rat.Floor
import Mathlib.Tactic.FieldSimp
import Mathlib.Tactic.Linarith
import Mathlib.Tactic.Positivity
import Mathlib.Tactic.NormNum
import Mathlib.Tactic.Push

set_option relaxedAutoImplicit false
set_option autoImplicit false

namespace Rounding

/-! ### The nearest integer -/

/-- The nearest integer, ties to even. -/
def roundHalfEven (x : ℚ) : ℤ :=
  if 2 * (x - ⌊x⌋) < 1 then ⌊x⌋
  else if 1 < 2 * (x - ⌊x⌋) then ⌊x⌋ + 1
  else if ⌊x⌋ % 2 = 0 then ⌊x⌋
  else ⌊x⌋ + 1

/-- The nearest integer is the floor or the integer above it. -/
theorem roundHalfEven_cases (x : ℚ) :
    roundHalfEven x = ⌊x⌋ ∧ 2 * (x - ⌊x⌋) ≤ 1 ∨
      roundHalfEven x = ⌊x⌋ + 1 ∧ 1 ≤ 2 * (x - ⌊x⌋) := by
  unfold roundHalfEven
  split
  · next h => exact Or.inl ⟨rfl, le_of_lt h⟩
  split
  · next h => exact Or.inr ⟨rfl, le_of_lt h⟩
  · next h₁ h₂ =>
      split
      · exact Or.inl ⟨rfl, not_lt.1 h₂⟩
      · exact Or.inr ⟨rfl, not_lt.1 h₁⟩

theorem le_roundHalfEven {x : ℚ} {n : ℤ} (h : (n : ℚ) ≤ x) : n ≤ roundHalfEven x := by
  have hfloor : n ≤ ⌊x⌋ := Int.le_floor.2 h
  rcases roundHalfEven_cases x with ⟨heq, -⟩ | ⟨heq, -⟩ <;> omega

/-- A number less than half above an integer is not rounded past it. -/
theorem roundHalfEven_le {x : ℚ} {n : ℤ} (h : 2 * x < 2 * n + 1) : roundHalfEven x ≤ n := by
  have hfloor : (⌊x⌋ : ℚ) ≤ x := Int.floor_le x
  rcases roundHalfEven_cases x with ⟨heq, -⟩ | ⟨heq, hup⟩
  · have hlt : ⌊x⌋ < n + 1 := Int.floor_lt.2 (by push_cast; linarith)
    omega
  · have hlt : (⌊x⌋ : ℚ) < n := by linarith
    have := Int.cast_lt.1 hlt
    omega

/-- The nearest integer is no further than half away. -/
theorem abs_roundHalfEven_sub_le (x : ℚ) : 2 * |(roundHalfEven x : ℚ) - x| ≤ 1 := by
  have hfloor : (⌊x⌋ : ℚ) ≤ x := Int.floor_le x
  have hceil : x < ⌊x⌋ + 1 := Int.lt_floor_add_one x
  rcases roundHalfEven_cases x with ⟨heq, hdown⟩ | ⟨heq, hup⟩
  · rw [heq, abs_of_nonpos (by linarith)]
    linarith
  · rw [heq, abs_of_nonneg (by push_cast; linarith)]
    push_cast
    linarith

@[simp] theorem roundHalfEven_intCast (n : ℤ) : roundHalfEven n = n := by
  refine le_antisymm (roundHalfEven_le ?_) (le_roundHalfEven (le_refl _))
  linarith

/-! ### Multiples of a power -/

section RoundAt

variable {b : ℕ}

/-- The nearest multiple of `b ^ e`. -/
def roundAt (b : ℕ) (e : ℤ) (q : ℚ) : ℚ := roundHalfEven (q / (b : ℚ) ^ e) * (b : ℚ) ^ e

theorem zpow_pos_of_one_lt (hb : 1 < b) (e : ℤ) : (0 : ℚ) < (b : ℚ) ^ e :=
  zpow_pos (by exact_mod_cast (by omega : 0 < b)) e

/-- A multiple of a higher power is a multiple of a lower one. -/
theorem exists_multiple (hb : 1 < b) {e f : ℤ} (hef : e ≤ f) (n : ℤ) :
    ∃ k : ℤ, (n : ℚ) * (b : ℚ) ^ f = k * (b : ℚ) ^ e := by
  have hne : (b : ℚ) ≠ 0 := by exact_mod_cast (by omega : b ≠ 0)
  refine ⟨n * b ^ (f - e).toNat, ?_⟩
  have hsplit : (b : ℚ) ^ f = (b : ℚ) ^ (f - e).toNat * (b : ℚ) ^ e := by
    rw [← zpow_natCast, Int.toNat_of_nonneg (by omega), ← zpow_add₀ hne, Int.sub_add_cancel]
  rw [hsplit]
  push_cast
  ring

/-- **A multiple of the power is its own rounding.** -/
theorem roundAt_of_multiple (hb : 1 < b) {e f : ℤ} (hef : e ≤ f) (n : ℤ) :
    roundAt b e (n * (b : ℚ) ^ f) = n * (b : ℚ) ^ f := by
  have hpos := zpow_pos_of_one_lt hb e
  obtain ⟨k, hk⟩ := exists_multiple hb hef n
  rw [roundAt, hk, mul_div_cancel_right₀ _ (ne_of_gt hpos), roundHalfEven_intCast]

/-- **Rounding does not cross a multiple** from above. -/
theorem le_roundAt (hb : 1 < b) {e f : ℤ} (hef : e ≤ f) {n : ℤ} {q : ℚ}
    (h : (n : ℚ) * (b : ℚ) ^ f ≤ q) : (n : ℚ) * (b : ℚ) ^ f ≤ roundAt b e q := by
  have hpos := zpow_pos_of_one_lt hb e
  obtain ⟨k, hk⟩ := exists_multiple hb hef n
  rw [hk] at h ⊢
  have hle : k ≤ roundHalfEven (q / (b : ℚ) ^ e) := le_roundHalfEven ((le_div_iff₀ hpos).2 h)
  exact mul_le_mul_of_nonneg_right (by exact_mod_cast hle) (le_of_lt hpos)

/-- A number less than half a power above a multiple of it is not rounded past the multiple. -/
theorem roundAt_le_of_lt_half (hb : 1 < b) {e : ℤ} {n : ℤ} {q : ℚ}
    (h : 2 * q < (2 * n + 1) * (b : ℚ) ^ e) : roundAt b e q ≤ n * (b : ℚ) ^ e := by
  have hpos := zpow_pos_of_one_lt hb e
  have hle : roundHalfEven (q / (b : ℚ) ^ e) ≤ n := by
    refine roundHalfEven_le ?_
    rw [← mul_div_assoc, div_lt_iff₀ hpos]
    exact h
  exact mul_le_mul_of_nonneg_right (by exact_mod_cast hle) (le_of_lt hpos)

/-- **Rounding does not cross a multiple** from below. -/
theorem roundAt_le (hb : 1 < b) {e f : ℤ} (hef : e ≤ f) {n : ℤ} {q : ℚ}
    (h : q ≤ (n : ℚ) * (b : ℚ) ^ f) : roundAt b e q ≤ (n : ℚ) * (b : ℚ) ^ f := by
  have hpos := zpow_pos_of_one_lt hb e
  obtain ⟨k, hk⟩ := exists_multiple hb hef n
  rw [hk] at h ⊢
  refine roundAt_le_of_lt_half hb ?_
  linarith

/-- Rounding moves a number by half a place at most. -/
theorem abs_roundAt_sub_le (hb : 1 < b) (e : ℤ) (q : ℚ) :
    2 * |roundAt b e q - q| ≤ (b : ℚ) ^ e := by
  have hpos := zpow_pos_of_one_lt hb e
  have hscale : roundAt b e q - q =
      (roundHalfEven (q / (b : ℚ) ^ e) - q / (b : ℚ) ^ e) * (b : ℚ) ^ e := by
    rw [roundAt, sub_mul, div_mul_cancel₀ _ (ne_of_gt hpos)]
  rw [hscale, abs_mul, abs_of_pos hpos, ← mul_assoc]
  exact mul_le_of_le_one_left (le_of_lt hpos) (abs_roundHalfEven_sub_le _)

end RoundAt

/-! ### Significant digits -/

section Ulp

variable {b : ℕ}

/-- The exponent of the last of `p` significant digits. -/
def ulp (b p : ℕ) (q : ℚ) : ℤ := Int.log b |q| - (p - 1)

/-- **A number of at most `p` digits has its last digit in range.** -/
theorem ulp_le (hb : 1 < b) {p : ℕ} {q : ℚ} (hq : q ≠ 0) {f : ℤ}
    (h : |q| < (b : ℚ) ^ (f + p)) : ulp b p q ≤ f := by
  have hlog : Int.log b |q| < f + p := (Int.lt_zpow_iff_log_lt hb (abs_pos.2 hq)).1 h
  unfold ulp
  omega

/-- The leading digit of a number is not zero. -/
theorem zpow_ulp_le (hb : 1 < b) {p : ℕ} (hp : 1 ≤ p) {q : ℚ} (hq : q ≠ 0) :
    (b : ℚ) ^ (p - 1) * (b : ℚ) ^ ulp b p q ≤ |q| := by
  have hne : (b : ℚ) ≠ 0 := by exact_mod_cast (by omega : b ≠ 0)
  have hlog := Int.zpow_log_le_self hb (abs_pos.2 hq)
  have hsum : ((p - 1 : ℕ) : ℤ) + ulp b p q = Int.log b |q| := by
    unfold ulp
    omega
  rw [← zpow_natCast, ← zpow_add₀ hne, hsum]
  exact hlog

/-- A number has no more than `p` digits above the exponent of its last one. -/
theorem lt_zpow_ulp (hb : 1 < b) (p : ℕ) (q : ℚ) :
    |q| < (b : ℚ) ^ p * (b : ℚ) ^ ulp b p q := by
  have hne : (b : ℚ) ≠ 0 := by exact_mod_cast (by omega : b ≠ 0)
  have hlog := Int.lt_zpow_succ_log_self hb |q|
  have hsum : (p : ℤ) + ulp b p q = Int.log b |q| + 1 := by
    unfold ulp
    omega
  rw [← zpow_natCast, ← zpow_add₀ hne, hsum]
  exact hlog

/-- A number less than half a last place above a multiple, in the digits of the multiple, is not
rounded past it. -/
theorem roundAt_ulp_le (hb : 1 < b) {p : ℕ} (hp : 1 ≤ p) {q : ℚ} {n : ℕ} {f : ℤ}
    (hulp : ulp b p q ≤ f) (hn : b ^ (p - 1) ≤ n) (h : 2 * |q| < (2 * n + 1) * (b : ℚ) ^ f) :
    roundAt b (ulp b p q) |q| ≤ n * (b : ℚ) ^ f := by
  have hbq : (b : ℚ) ≠ 0 := by exact_mod_cast (by omega : b ≠ 0)
  have hone : (1 : ℚ) ≤ b := by exact_mod_cast (by omega : 1 ≤ b)
  rcases eq_or_lt_of_le hulp with heq | hlt
  · rw [heq]
    exact_mod_cast roundAt_le_of_lt_half hb (n := n) (by exact_mod_cast h)
  · have hdigits : |q| ≤ n * (b : ℚ) ^ f := by
      calc |q| ≤ (b : ℚ) ^ p * (b : ℚ) ^ ulp b p q := le_of_lt (lt_zpow_ulp hb p q)
        _ ≤ (b : ℚ) ^ p * (b : ℚ) ^ (f - 1) := by
            refine mul_le_mul_of_nonneg_left (zpow_le_zpow_right₀ hone (by omega)) ?_
            positivity
        _ = (b : ℚ) ^ (p - 1) * (b : ℚ) ^ f := by
            rw [zpow_sub_one₀ hbq, ← pow_sub_one_mul (by omega : p ≠ 0)]
            field_simp
        _ ≤ n * (b : ℚ) ^ f := by
            exact mul_le_mul_of_nonneg_right (by exact_mod_cast hn)
              (le_of_lt (zpow_pos_of_one_lt hb f))
    exact_mod_cast roundAt_le hb hulp (n := n) (by exact_mod_cast hdigits)

end Ulp

end Rounding
