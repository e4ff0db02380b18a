/-
**The deterministic generator.**

Every random decision of the proxy is drawn from SplitMix64, seeded per test, so that a recorded
seed reproduces a run.  A draw advances the state; the functions below return the value drawn
together with the new state.

`uniform_in_range` rejects draws below a threshold and tries again.  The state moves by an odd
constant, so it passes through all 64-bit words before it repeats, and the output function is a
bijection; hence some draw among the next `2 ^ 64` is accepted, and the loop is given that many
tries.

Main definitions:

* `TftpHarness.nextU64`, `TftpHarness.bernoulli`, `TftpHarness.uniformInRange` — the draws.

Main results:

* `TftpHarness.mix_injective` — the output function of SplitMix64 is injective;
* `TftpHarness.exists_rejectBelow` — **the rejection loop ends**;
* `TftpHarness.uniformInRange_le` — a draw is within its range;
* `TftpHarness.bernoulli_zero` — a decision with probability zero is negative and draws nothing.
-/

import TftpHarness.Double
import Mathlib.Data.Fintype.EquivFin

set_option relaxedAutoImplicit false
set_option autoImplicit false

namespace TftpHarness

/-! ### Draws -/

/-- The increment of the state. -/
def gamma : UInt64 := 0x9E3779B97F4A7C15

/-- The output function of SplitMix64. -/
def mix (state : UInt64) : UInt64 :=
  let z := (state ^^^ (state >>> 30)) * 0xBF58476D1CE4E5B9
  let z := (z ^^^ (z >>> 27)) * 0x94D049BB133111EB
  z ^^^ (z >>> 31)

/-- The next 64 random bits, and the state after them. -/
def nextU64 (state : UInt64) : UInt64 × UInt64 := (mix (state + gamma), state + gamma)

/-- A number in `[0, 1)`, with 53 random bits. -/
def nextUnitDouble (state : UInt64) : Double × UInt64 :=
  let (value, state) := nextU64 state
  ((Double.ofInt (value >>> 11).toNat).mul
    ((Double.ofInt 1).div (Double.ofInt 9007199254740992)), state)

/-- True with the given probability. -/
def bernoulli (probability : Double) (state : UInt64) : Bool × UInt64 :=
  if probability.le (Double.ofInt 0) then (false, state)
  else if (Double.ofInt 1).le probability then (true, state)
  else
    let (value, state) := nextUnitDouble state
    (value.lt probability, state)

/-- Draw until a value is at least `threshold`; `none` when no try is left. -/
def rejectBelow (threshold : UInt64) : ℕ → UInt64 → Option (UInt64 × UInt64)
  | 0, _ => none
  | fuel + 1, state =>
      let (value, state) := nextU64 state
      if threshold ≤ value then some (value, state) else rejectBelow threshold fuel state

/-- A number between `low` and `high`, both included. -/
def uniformInRange (low high : UInt64) (state : UInt64) : UInt64 × UInt64 :=
  if high ≤ low then (low, state)
  else
    let span := high - low
    if span = 18446744073709551615 then nextU64 state
    else
      let limit := span + 1
      let threshold := (18446744073709551615 - limit + 1) % limit
      match rejectBelow threshold (2 ^ 64) state with
      | some (value, state) => (low + value % limit, state)
      | none => (low, state)

/-! ### The rejection loop ends -/

/-- A word is determined by its exclusive or with its own shift to the right. -/
theorem xorShift_injective {k : UInt64} (hpos : 0 < k.toNat) (hk : k.toNat < 64) {x y : UInt64}
    (h : x ^^^ (x >>> k) = y ^^^ (y >>> k)) : x = y := by
  -- the difference of the two is its own shift, so it is zero
  have hdiff : (x ^^^ y) ^^^ ((x ^^^ y) >>> k) = 0 := by
    have hsplit : (x ^^^ y) ^^^ ((x ^^^ y) >>> k) = (x ^^^ (x >>> k)) ^^^ (y ^^^ (y >>> k)) := by
      rw [UInt64.shiftRight_xor]
      ac_rfl
    rw [hsplit, h, UInt64.xor_self]
  rw [UInt64.xor_eq_zero_iff] at hdiff
  have hnat := congrArg UInt64.toNat hdiff
  rw [UInt64.toNat_shiftRight, Nat.mod_eq_of_lt hk, Nat.shiftRight_eq_div_pow] at hnat
  have hzero : (x ^^^ y).toNat = 0 := by
    by_contra hne
    have hlt := Nat.div_lt_self (Nat.pos_of_ne_zero hne)
      (Nat.one_lt_two_pow (Nat.pos_iff_ne_zero.1 hpos))
    omega
  rw [← UInt64.xor_eq_zero_iff]
  exact UInt64.toNat_inj.1 hzero

/-- An invertible factor can be cancelled. -/
theorem mul_right_injective_of_inverse {a b : UInt64} (hab : a * b = 1) {x y : UInt64}
    (h : x * a = y * a) : x = y := by
  have hmul := congrArg (· * b) h
  simpa [UInt64.mul_assoc, hab] using hmul

/-- **The output function of SplitMix64 is injective.** -/
theorem mix_injective : Function.Injective mix := by
  intro x y h
  have h₁ := xorShift_injective (k := 31) (by decide) (by decide) h
  have h₂ := mul_right_injective_of_inverse
    (b := 0x319642B2D24D8EC3) (by decide +kernel) h₁
  have h₃ := xorShift_injective (k := 27) (by decide) (by decide) h₂
  have h₄ := mul_right_injective_of_inverse
    (b := 0x96DE1B173F119089) (by decide +kernel) h₃
  exact xorShift_injective (k := 30) (by decide) (by decide) h₄

/-- The state moves by the same step at every draw. -/
theorem step_succ (state : UInt64) (n : ℕ) :
    state + UInt64.ofNat (n + 1 + 1) * gamma = state + gamma + UInt64.ofNat (n + 1) * gamma := by
  have hsucc : UInt64.ofNat (n + 1 + 1) = 1 + UInt64.ofNat (n + 1) := by
    rw [UInt64.ofNat_add, UInt64.add_comm]
    rfl
  rw [hsucc, UInt64.add_mul, UInt64.one_mul, UInt64.add_assoc]

theorem step_one (state : UInt64) : state + UInt64.ofNat (0 + 1) * gamma = state + gamma :=
  congrArg (state + ·) (UInt64.one_mul gamma)

/-- A draw above the threshold ends the loop. -/
theorem rejectBelow_isSome {threshold : UInt64} (fuel : ℕ) :
    ∀ (state : UInt64) (n : ℕ), n < fuel →
      threshold ≤ mix (state + UInt64.ofNat (n + 1) * gamma) →
      (rejectBelow threshold fuel state).isSome := by
  induction fuel with
  | zero =>
      intro state n hn
      omega
  | succ fuel ih =>
      intro state n hn hle
      by_cases hnow : threshold ≤ mix (state + gamma)
      · simp [rejectBelow, nextU64, hnow]
      · simp only [rejectBelow, nextU64, hnow, if_false]
        cases n with
        | zero =>
            rw [step_one] at hle
            exact absurd hle hnow
        | succ n =>
            rw [step_succ] at hle
            exact ih (state + gamma) n (by omega) hle

instance finiteUInt64 : Finite UInt64 :=
  Finite.of_injective UInt64.toFin fun _ _ h => UInt64.toFin_inj.1 h

/-- Among the next `2 ^ 64` draws every word occurs. -/
theorem exists_draw (state word : UInt64) :
    ∃ n < 2 ^ 64, mix (state + UInt64.ofNat (n + 1) * gamma) = word := by
  have hsurjective := Finite.surjective_of_injective mix_injective
  obtain ⟨z, hz⟩ := hsurjective word
  -- the step that reaches `z`; its number is a word, and the word zero stands for `2 ^ 64`
  let step : UInt64 := (z - state) * 0xF1DE83E19937733D
  have hreach : state + step * gamma = z := by
    have hinverse : (0xF1DE83E19937733D : UInt64) * gamma = 1 := by decide +kernel
    rw [UInt64.mul_assoc, hinverse, UInt64.mul_one, UInt64.add_comm, UInt64.sub_add_cancel]
  have hlt := step.toNat_lt
  rcases Nat.eq_zero_or_pos step.toNat with hzero | hpos
  · have hwrap : UInt64.ofNat (2 ^ 64 - 1 + 1) = step := by
      rw [← UInt64.toNat_inj, hzero]
      rfl
    exact ⟨2 ^ 64 - 1, by decide, by rw [hwrap, hreach, hz]⟩
  · have hback : UInt64.ofNat (step.toNat - 1 + 1) = step := by
      rw [Nat.sub_add_cancel hpos, UInt64.ofNat_toNat]
    exact ⟨step.toNat - 1, by omega, by rw [hback, hreach, hz]⟩

/-- **The rejection loop ends**: among the next `2 ^ 64` draws is also the largest word. -/
theorem exists_rejectBelow (threshold state : UInt64) :
    ∃ value state', rejectBelow threshold (2 ^ 64) state = some (value, state') := by
  obtain ⟨n, hn, hvalue⟩ := exists_draw state 18446744073709551615
  have htop : threshold ≤ mix (state + UInt64.ofNat (n + 1) * gamma) := by
    rw [hvalue, UInt64.le_iff_toNat_le]
    have hlt := threshold.toNat_lt
    have hmax : (18446744073709551615 : UInt64).toNat = 2 ^ 64 - 1 := by decide
    omega
  obtain ⟨⟨value, state'⟩, h⟩ :=
    Option.isSome_iff_exists.1 (rejectBelow_isSome (2 ^ 64) state n hn htop)
  exact ⟨value, state', h⟩

/-! ### What a draw can be -/

/-- **A draw is within its range.** -/
theorem uniformInRange_le {low high : UInt64} (h : low ≤ high) (state : UInt64) :
    low ≤ (uniformInRange low high state).1 ∧ (uniformInRange low high state).1 ≤ high := by
  rw [UInt64.le_iff_toNat_le] at h
  unfold uniformInRange
  split
  · exact ⟨UInt64.le_refl _, by rwa [UInt64.le_iff_toNat_le]⟩
  · rename_i hlt
    have hspan : (high - low).toNat = high.toNat - low.toNat :=
      UInt64.toNat_sub_of_le _ _ (by rwa [UInt64.le_iff_toNat_le])
    have hhigh := high.toNat_lt
    have hlow := low.toNat_lt
    simp only
    split
    · -- the whole range of words
      rename_i hall
      have hfull : high.toNat - low.toNat = 2 ^ 64 - 1 := by
        rw [← hspan, hall]
        rfl
      have hvalue := (nextU64 state).1.toNat_lt
      simp only [UInt64.le_iff_toNat_le]
      omega
    · rename_i hall
      have hne : (high - low).toNat ≠ 2 ^ 64 - 1 := by
        intro heq
        refine hall (UInt64.toNat_inj.1 ?_)
        rw [heq]
        rfl
      have hlimit : (high - low + 1).toNat = high.toNat - low.toNat + 1 := by
        rw [UInt64.toNat_add, hspan]
        have hone : (1 : UInt64).toNat = 1 := rfl
        omega
      cases rejectBelow ((18446744073709551615 - (high - low + 1) + 1) % (high - low + 1))
          (2 ^ 64) state with
      | none => exact ⟨UInt64.le_refl _, by rwa [UInt64.le_iff_toNat_le]⟩
      | some draw =>
          obtain ⟨value, state'⟩ := draw
          have hmod : value.toNat % (high - low + 1).toNat < (high - low + 1).toNat :=
            Nat.mod_lt _ (by omega)
          have hsum : (low + value % (high - low + 1)).toNat =
              low.toNat + value.toNat % (high - low + 1).toNat := by
            rw [UInt64.toNat_add, UInt64.toNat_mod]
            omega
          simp only [UInt64.le_iff_toNat_le, hsum]
          omega

/-- **A decision with probability zero** is negative and draws nothing. -/
theorem bernoulli_zero (state : UInt64) : bernoulli (Double.ofInt 0) state = (false, state) := by
  have hle : (Double.ofInt 0).le (Double.ofInt 0) = true := by decide +kernel
  rw [bernoulli, if_pos hle]

end TftpHarness
