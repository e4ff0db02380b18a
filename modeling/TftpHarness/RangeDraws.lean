/-
**Draws from a range.**

`uniform_in_range` draws words until one is at least a threshold, and takes the remainder by the
size of the range.  Three things make this sound.  The loop ends, because `2 ^ 64` draws in a row
pass through all words, each once.  The words from the threshold on are a whole number of periods
of the remainder, so no remainder is favoured.  And the arithmetic never leaves 64 bits.

Main definitions:

* `TftpHarness.draws` — the values of so many draws in a row;
* `TftpHarness.rejectThreshold` — the least word that the loop accepts;
* `TftpHarness.FairRange` — what a range draw guarantees.

Main results:

* `TftpHarness.count_draws` — **`2 ^ 64` draws in a row return every word exactly once**;
* `TftpHarness.ncard_accepted` — **every remainder has the same number of accepted words**;
* `TftpHarness.uniformInRange_fair` — **a range draw ends, is in its range, and favours nothing**.
-/

import TftpHarness.Prng
import Mathlib.Data.Nat.Periodic
import Mathlib.Data.Set.Card

set_option relaxedAutoImplicit false
set_option autoImplicit false

namespace TftpHarness

/-! ### A whole period -/

/-- The values of `n` calls of `next_u64` in a row. -/
def draws : ℕ → UInt64 → List UInt64
  | 0, _ => []
  | n + 1, state => (nextU64 state).1 :: draws n (nextU64 state).2

/-- Each value is read off the state that its number of steps leads to. -/
theorem draws_eq (n : ℕ) : ∀ state, draws n state =
    (List.range n).map fun i => mix (state + UInt64.ofNat (i + 1) * gamma) := by
  induction n with
  | zero => intro state; rfl
  | succ n ih =>
      intro state
      rw [draws, ih, List.range_succ_eq_map, List.map_cons, List.map_map, step_one]
      refine congrArg (List.cons _) (List.map_congr_left fun i _ => ?_)
      exact congrArg mix (step_succ state i).symm

/-- The multiples of the step are distinct for as long as their numbers fit a word. -/
theorem step_injective {state : UInt64} {i j : ℕ} (hi : i < 2 ^ 64) (hj : j < 2 ^ 64)
    (h : state + UInt64.ofNat (i + 1) * gamma = state + UInt64.ofNat (j + 1) * gamma) : i = j := by
  have hmul : UInt64.ofNat (i + 1) * gamma = UInt64.ofNat (j + 1) * gamma :=
    UInt64.add_right_inj state |>.1 h
  have hword := mul_right_injective_of_inverse (b := 0xF1DE83E19937733D) (by decide +kernel) hmul
  have hnat := congrArg UInt64.toNat hword
  rw [UInt64.toNat_ofNat', UInt64.toNat_ofNat'] at hnat
  omega

/-- **A period of draws returns every word exactly once.** -/
theorem count_draws {n : ℕ} (hn : n = 2 ^ 64) (state word : UInt64) :
    (draws n state).count word = 1 := by
  rw [draws_eq]
  have hnodup : ((List.range n).map fun i => mix (state + UInt64.ofNat (i + 1) * gamma)).Nodup := by
    refine List.Nodup.map_on (fun i hi j hj h => ?_) List.nodup_range
    rw [List.mem_range, hn] at hi hj
    exact step_injective hi hj (mix_injective h)
  refine List.count_eq_one_of_mem hnodup (List.mem_map.2 ?_)
  obtain ⟨i, hi, hvalue⟩ := exists_draw state word
  exact ⟨i, List.mem_range.2 (hn ▸ hi), hvalue⟩

/-! ### Even remainders -/

/-- The least word that the loop accepts, for a range of `limit` numbers. -/
def rejectThreshold (limit : UInt64) : UInt64 := (18446744073709551615 - limit + 1) % limit

/-- The numbers of so many whole periods are spread evenly over the remainders. -/
theorem card_filter_mod {m r : ℕ} (hr : r < m) (a k : ℕ) :
    ((Finset.Ico a (a + k * m)).filter fun v => v % m = r).card = k := by
  induction k with
  | zero => simp
  | succ k ih =>
      have hperiod : Function.Periodic (fun v => v % m = r) m := fun v => by
        simp only [Nat.add_mod_right]
      have hlast :
          ((Finset.Ico (a + k * m) (a + k * m + m)).filter fun v => v % m = r).card = 1 := by
        rw [Nat.filter_Ico_card_eq_of_periodic _ _ _ hperiod, Nat.count_eq_card_filter_range]
        have hone : (Finset.range m).filter (fun v => v % m = r) = {r} := by
          ext v
          simp only [Finset.mem_filter, Finset.mem_range, Finset.mem_singleton]
          constructor
          · rintro ⟨hlt, hmod⟩
            rwa [Nat.mod_eq_of_lt hlt] at hmod
          · rintro rfl
            exact ⟨hr, Nat.mod_eq_of_lt hr⟩
        rw [hone, Finset.card_singleton]
      have hsplit : Finset.Ico a (a + (k + 1) * m) =
          Finset.Ico a (a + k * m) ∪ Finset.Ico (a + k * m) (a + k * m + m) := by
        rw [Finset.Ico_union_Ico_eq_Ico (by omega) (by omega), Nat.succ_mul, Nat.add_assoc]
      have hdisjoint := Finset.Ico_disjoint_Ico_consecutive a (a + k * m) (a + k * m + m)
      rw [hsplit, Finset.filter_union,
        Finset.card_union_of_disjoint (Finset.disjoint_filter_filter hdisjoint), ih, hlast]

/-- The threshold is what is left of the words after as many whole periods as fit. -/
theorem toNat_rejectThreshold {limit : UInt64} (hpos : 0 < limit.toNat) :
    (rejectThreshold limit).toNat = 2 ^ 64 % limit.toNat := by
  have hlt := limit.toNat_lt
  have hmax : (18446744073709551615 : UInt64).toNat = 2 ^ 64 - 1 := by decide
  have hone : (1 : UInt64).toNat = 1 := rfl
  have hle : limit ≤ 18446744073709551615 := by
    rw [UInt64.le_iff_toNat_le]
    omega
  have hsub : (18446744073709551615 - limit + 1).toNat = 2 ^ 64 - limit.toNat := by
    rw [UInt64.toNat_add, UInt64.toNat_sub_of_le _ _ hle]
    omega
  rw [rejectThreshold, UInt64.toNat_mod, hsub]
  exact (Nat.mod_eq_sub_mod hlt.le).symm

/-- **Every remainder has the same number of accepted words.** -/
theorem ncard_accepted {limit residue : UInt64} (h : residue < limit) :
    {value : UInt64 | rejectThreshold limit ≤ value ∧ value % limit = residue}.ncard =
      2 ^ 64 / limit.toNat := by
  rw [UInt64.lt_iff_toNat_lt] at h
  have hthreshold := @toNat_rejectThreshold limit (by omega)
  have hinjective : Function.Injective UInt64.toNat := fun _ _ => UInt64.toNat_inj.1
  have hwhole : 2 ^ 64 % limit.toNat + 2 ^ 64 / limit.toNat * limit.toNat = 2 ^ 64 := by
    rw [Nat.mul_comm]
    exact Nat.mod_add_div _ _
  have himage : UInt64.toNat ''
      {value : UInt64 | rejectThreshold limit ≤ value ∧ value % limit = residue} =
      ((Finset.Ico (2 ^ 64 % limit.toNat)
        (2 ^ 64 % limit.toNat + 2 ^ 64 / limit.toNat * limit.toNat)).filter
          fun v => v % limit.toNat = residue.toNat : Finset ℕ) := by
    ext v
    simp only [Set.mem_image, Set.mem_ofPred_eq, Finset.coe_filter, Finset.mem_Ico, hwhole,
      UInt64.le_iff_toNat_le, hthreshold, ← UInt64.toNat_inj, UInt64.toNat_mod]
    constructor
    · rintro ⟨value, ⟨hle, hmod⟩, rfl⟩
      exact ⟨⟨hle, value.toNat_lt⟩, hmod⟩
    · rintro ⟨⟨hle, hlt⟩, hmod⟩
      have hback : (UInt64.ofNat v).toNat = v := by
        rw [UInt64.toNat_ofNat', Nat.mod_eq_of_lt hlt]
      exact ⟨UInt64.ofNat v, by rw [hback]; exact ⟨hle, hmod⟩, hback⟩
  rw [← Set.ncard_image_of_injective _ hinjective, himage, Set.ncard_coe_finset, card_filter_mod h]

/-! ### Range draws -/

/-- With more tries the loop returns the same. -/
theorem rejectBelow_mono {threshold : UInt64} {draw : UInt64 × UInt64} (fuel : ℕ) :
    ∀ (state : UInt64) (more : ℕ), rejectBelow threshold fuel state = some draw →
      rejectBelow threshold (fuel + more) state = some draw := by
  induction fuel with
  | zero =>
      intro state more h
      exact absurd h (by simp [rejectBelow])
  | succ fuel ih =>
      intro state more h
      rw [Nat.succ_add]
      simp only [rejectBelow] at h ⊢
      split
      · next hle => rwa [if_pos hle] at h
      · next hgt =>
          rw [if_neg hgt] at h
          exact ih _ more h

variable (low high state : UInt64) in
/-- **What a range draw guarantees.**  Only the whole range of words has no size in 64 bits, and
there a draw is a word. -/
structure FairRange : Prop where
  /-- The result is in the range. -/
  inRange : low ≤ (uniformInRange low high state).1 ∧ (uniformInRange low high state).1 ≤ high
  /-- The loop ends, whatever the number of tries beyond a period, and yields the result. -/
  ends : high - low ≠ 18446744073709551615 → ∃ value state',
    (∀ more, rejectBelow (rejectThreshold (high - low + 1)) (2 ^ 64 + more) state =
      some (value, state')) ∧
    uniformInRange low high state = (low + value % (high - low + 1), state')
  /-- No operation leaves 64 bits. -/
  noOverflow : (high - low).toNat = high.toNat - low.toNat ∧
    (high - low ≠ 18446744073709551615 →
      (high - low + 1).toNat = high.toNat - low.toNat + 1 ∧
      (rejectThreshold (high - low + 1)).toNat =
        (2 ^ 64 - 1 - (high - low + 1).toNat + 1) % (high - low + 1).toNat ∧
      ∀ value : UInt64, (low + value % (high - low + 1)).toNat =
        low.toNat + value.toNat % (high - low + 1).toNat)
  /-- A period of draws returns every word once. -/
  period : ∀ word, (draws (2 ^ 64) state).count word = 1
  /-- Every result comes from the same number of accepted words. -/
  even : high - low ≠ 18446744073709551615 → ∀ result, low ≤ result → result ≤ high →
    {value | rejectThreshold (high - low + 1) ≤ value ∧
      low + value % (high - low + 1) = result}.ncard = 2 ^ 64 / (high - low + 1).toNat

/-- The size of a range that is not the whole range of words. -/
theorem toNat_limit {low high : UInt64} (h : low ≤ high)
    (hspan : high - low ≠ 18446744073709551615) :
    (high - low + 1).toNat = high.toNat - low.toNat + 1 := by
  have hsub := UInt64.toNat_sub_of_le _ _ h
  have hne : (high - low).toNat ≠ 2 ^ 64 - 1 := fun heq => hspan (UInt64.toNat_inj.1 heq)
  have hlt := (high - low).toNat_lt
  have hone : (1 : UInt64).toNat = 1 := rfl
  rw [UInt64.toNat_add, hsub]
  omega

/-- **Range draws are fair**: for every state and every proper range the loop ends and the result is
in the range, computed without overflow; `2 ^ 64` draws in a row return every word exactly once; and
for every size of a range each remainder has the same number of accepted words. -/
theorem uniformInRange_fair {low high : UInt64} (h : low < high) (state : UInt64) :
    FairRange low high state ∧
      ∀ limit residue : UInt64, residue < limit →
        {value | rejectThreshold limit ≤ value ∧ value % limit = residue}.ncard =
          2 ^ 64 / limit.toNat := by
  have hle : low ≤ high := UInt64.le_of_lt h
  have hsub := UInt64.toNat_sub_of_le _ _ hle
  have hnat := UInt64.le_iff_toNat_le.1 hle
  have hhigh := high.toNat_lt
  refine ⟨⟨uniformInRange_le hle state, fun hspan => ?_, ⟨hsub, fun hspan => ?_⟩,
    fun word => count_draws rfl state word, fun hspan result hlow hresult => ?_⟩,
    fun limit residue => ncard_accepted⟩
  · obtain ⟨value, state', hdraw⟩ :=
      exists_rejectBelow (rejectThreshold (high - low + 1)) state
    have hnot : ¬ high ≤ low := UInt64.not_le.2 h
    have hmatch := hdraw
    rw [rejectThreshold] at hmatch
    refine ⟨value, state', fun more => rejectBelow_mono _ _ more hdraw, ?_⟩
    simp only [uniformInRange, hnot, hspan, if_false, hmatch]
  · have hlimit := toNat_limit hle hspan
    have hpos : 0 < (high - low + 1).toNat := by omega
    refine ⟨hlimit, ?_, fun value => ?_⟩
    · have hlt := (high - low + 1).toNat_lt
      rw [toNat_rejectThreshold hpos, Nat.mod_eq_sub_mod hlt.le]
      congr 1
      omega
    · have hmod := Nat.mod_lt value.toNat hpos
      rw [UInt64.toNat_add, UInt64.toNat_mod]
      exact Nat.mod_eq_of_lt (by omega)
  · have hlimit := toNat_limit hle hspan
    have hlt : result - low < high - low + 1 := by
      rw [UInt64.lt_iff_toNat_lt, hlimit, UInt64.toNat_sub_of_le _ _ hlow]
      rw [UInt64.le_iff_toNat_le] at hresult
      omega
    have hset : {value | rejectThreshold (high - low + 1) ≤ value ∧
        low + value % (high - low + 1) = result} =
        {value | rejectThreshold (high - low + 1) ≤ value ∧
          value % (high - low + 1) = result - low} := by
      ext value
      simp only [Set.mem_ofPred_eq]
      refine and_congr_right fun _ => ⟨fun heq => ?_, fun heq => ?_⟩
      · rw [← heq, UInt64.add_comm low, UInt64.add_sub_cancel]
      · rw [heq, UInt64.add_comm, UInt64.sub_add_cancel]
    rw [hset, ncard_accepted hlt]

/-- A die. -/
theorem uniformInRange_fair_die :
    FairRange 1 6 42 ∧
      ∀ limit residue : UInt64, residue < limit →
        {value | rejectThreshold limit ≤ value ∧ value % limit = residue}.ncard =
          2 ^ 64 / limit.toNat :=
  uniformInRange_fair (by decide) 42

end TftpHarness
