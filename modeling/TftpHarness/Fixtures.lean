/-
**The fixtures.**

The binary files that the tests transfer are the high bytes of a linear congruential generator,
`src/fixtures/fixture_generator.cpp`.  They have to show it when a transfer has put the right blocks
in the wrong places.

They do.  Six consecutive bytes determine the state they come from: the differences of two states
with the same six bytes are small, and six combinations of small differences vanish.  And no state
comes twice within a fixture, which is shorter than the period.  So no six bytes occur twice, and
the blocks of a fixture give the fixture in one order only.

Main definitions:

* `TftpHarness.nextState`, `TftpHarness.stateByte` — the states behind
  `TftpHarness.deterministicBinary`.

Main results:

* `TftpHarness.iterate_nextState_eq_iff` — the states do not repeat before the period;
* `TftpHarness.window_eq_iff` — six bytes determine the state;
* `TftpHarness.deterministicBinary_seed` — two seeds show in the first six bytes;
* `TftpHarness.deterministicBinary_reassembled` — **the blocks of a fixture give it in one order
  only**.
-/

import Mathlib.Tactic.IntervalCases
import Mathlib.Tactic.LinearCombination
import TftpHarness.Congruential
import TftpHarness.MerkleDamgard
import TftpHarness.Runner

set_option relaxedAutoImplicit false
set_option autoImplicit false

namespace TftpHarness

open MerkleDamgard

/-! ### The generator -/

/-- The state after another one. -/
def nextState (state : UInt32) : UInt32 := state * 1664525 + 1013904223

/-- The state a seed starts from. -/
def firstState (seed : UInt32) : UInt32 := seed * 2654435761 + 1013904223

/-- The byte that is taken from a state. -/
def stateByte (state : UInt32) : UInt8 := (state >>> 24).toUInt8

theorem lcgBytes_succ (n : ℕ) (state : UInt32) :
    lcgBytes (n + 1) state = stateByte (nextState state) :: lcgBytes n (nextState state) := rfl

theorem length_lcgBytes (n : ℕ) : ∀ state : UInt32, (lcgBytes n state).length = n := by
  induction n with
  | zero => intro state; rfl
  | succ n ih => intro state; rw [lcgBytes_succ, List.length_cons, ih]

theorem drop_lcgBytes (i : ℕ) :
    ∀ (n : ℕ) (state : UInt32), (lcgBytes n state).drop i =
      lcgBytes (n - i) (nextState^[i] state) := by
  induction i with
  | zero => intro n state; rfl
  | succ i ih =>
      intro n state
      cases n with
      | zero => rw [Nat.zero_sub]; rfl
      | succ n =>
          rw [lcgBytes_succ, List.drop_succ_cons, ih, Function.iterate_succ_apply,
            Nat.add_sub_add_right]

theorem take_lcgBytes (k : ℕ) :
    ∀ (n : ℕ) (state : UInt32), k ≤ n → (lcgBytes n state).take k = lcgBytes k state := by
  induction k with
  | zero => intro n state _; rfl
  | succ k ih =>
      intro n state h
      cases n with
      | zero => omega
      | succ n => rw [lcgBytes_succ, List.take_succ_cons, ih n _ (by omega), lcgBytes_succ]

/-! ### The period -/

/-- The generator on machine integers is the generator modulo `2 ^ 32`. -/
theorem nextState_modEq (state : UInt32) :
    ((nextState state).toNat : ℤ) ≡ Congruential.step 1664525 1013904223 state.toNat
      [ZMOD 2 ^ 32] := by
  have hstate : (nextState state).toNat = (state.toNat * 1664525 + 1013904223) % 2 ^ 32 := by
    simp [nextState, UInt32.toNat_add, UInt32.toNat_mul]
  rw [hstate, Congruential.step, Int.natCast_mod]
  push_cast
  rw [mul_comm]
  exact Int.mod_modEq _ _

theorem iterate_nextState_modEq (n : ℕ) (state : UInt32) :
    ((nextState^[n] state).toNat : ℤ) ≡
      (Congruential.step 1664525 1013904223)^[n] state.toNat [ZMOD 2 ^ 32] := by
  induction n with
  | zero => rfl
  | succ n ih =>
      rw [Function.iterate_succ_apply', Function.iterate_succ_apply']
      exact (nextState_modEq _).trans ((ih.mul_left _).add_right _)

theorem toNat_eq_of_modEq {s t : UInt32} (h : (s.toNat : ℤ) ≡ t.toNat [ZMOD 2 ^ 32]) : s = t := by
  have hs := s.toNat_lt
  have ht := t.toNat_lt
  have heq : (s.toNat : ℤ) = t.toNat := by
    rw [Int.ModEq, Int.emod_eq_of_lt (by omega) (by omega),
      Int.emod_eq_of_lt (by omega) (by omega)] at h
    exact h
  exact UInt32.toNat_inj.1 (by omega)

/-- **The states do not repeat before the period**, which is `2 ^ 32`. -/
theorem iterate_nextState_eq_iff (i j : ℕ) (state : UInt32) :
    nextState^[i] state = nextState^[j] state ↔ i ≡ j [MOD 2 ^ 32] := by
  have hperiod := Congruential.iterate_modEq_iff (by decide : (4 : ℤ) ∣ 1664525 - 1)
    (by decide : ¬ (2 : ℤ) ∣ 1013904223) 32 i j state.toNat
  rw [← hperiod]
  have hi := iterate_nextState_modEq i state
  have hj := iterate_nextState_modEq j state
  constructor
  · intro h
    rw [h] at hi
    exact hi.symm.trans hj
  · exact fun h => toNat_eq_of_modEq ((hi.trans h).trans hj.symm)

theorem nextState_injective : Function.Injective nextState := by
  intro s t h
  obtain ⟨m, hm⟩ : ∃ m, m + 1 ≡ 0 [MOD 2 ^ 32] := ⟨2 ^ 32 - 1, by decide⟩
  -- the rest of the period leads back
  have hback : ∀ state, nextState^[m] (nextState state) = state := by
    intro state
    rw [← Function.iterate_succ_apply]
    exact (iterate_nextState_eq_iff (m + 1) 0 state).2 hm
  rw [← hback s, h, hback t]

/-! ### Six bytes -/

/-- Combinations of six successive differences that vanish modulo `2 ^ 32`. -/
def smallRelations : List (List ℤ) :=
  [[-2, -4, 3, 28, -12, -9], [13, -20, 15, 9, 13, -18], [-15, -1, 0, 10, 22, -28],
    [-17, -17, 12, 6, -14, 26], [-1, 2, -26, 22, 17, 10], [-4, -56, -42, -18, -41, -35]]

/-- They are relations of the generator, with small coefficients. -/
theorem smallRelations_small : ∀ ks ∈ smallRelations, ks.length = 6 ∧
    (2 ^ 32 : ℤ) ∣ Congruential.eval 1664525 ks ∧
      Congruential.weight ks * (2 ^ 24 - 1) < 2 ^ 32 := by
  decide +kernel

/-- They are independent. -/
theorem eq_zero_of_smallRelations {d : ℕ → ℤ}
    (h : ∀ ks ∈ smallRelations, Congruential.combine ks d = 0) : d 0 = 0 := by
  simp only [smallRelations, List.forall_mem_cons, Congruential.combine, List.not_mem_nil,
    false_implies, implies_true, and_true, Nat.zero_add, add_zero, Nat.reduceAdd] at h
  obtain ⟨h₁, h₂, h₃, h₄, h₅, h₆⟩ := h
  have hdet : 2 ^ 32 * d 0 = 0 := by
    linear_combination 12514464 * h₁ + 87095260 * h₂ - 121366803 * h₃ - 80636873 * h₄ +
      21860250 * h₅ - 4572302 * h₆
  exact (mul_eq_zero.1 hdet).resolve_left (by decide)

/-- States with one highest byte differ by little. -/
theorem abs_sub_lt_of_stateByte_eq {s t : UInt32} (h : stateByte s = stateByte t) :
    |(s.toNat : ℤ) - t.toNat| ≤ 2 ^ 24 - 1 := by
  have hs := s.toNat_lt
  have ht := t.toNat_lt
  have hbytes := congrArg UInt8.toNat h
  simp only [stateByte, UInt32.toNat_toUInt8, UInt32.toNat_shiftRight] at hbytes
  have hshift : ∀ n : ℕ, n < 2 ^ 32 → n >>> 24 % 256 = n / 2 ^ 24 := by
    intro n hn
    rw [Nat.shiftRight_eq_div_pow]
    omega
  have hhigh : s.toNat / 2 ^ 24 = t.toNat / 2 ^ 24 := by
    rw [← hshift _ hs, ← hshift _ ht]
    exact hbytes
  rw [abs_le]
  omega

/-- **Six bytes determine the state** they come from. -/
theorem eq_of_lcgBytes_eq {s t : UInt32} (h : lcgBytes 6 s = lcgBytes 6 t) : s = t := by
  refine nextState_injective ?_
  have hbytes : ∀ n < 6, stateByte (nextState^[n + 1] s) = stateByte (nextState^[n + 1] t) := by
    intro n hn
    simp only [lcgBytes_succ, List.cons.injEq] at h
    obtain ⟨h₁, h₂, h₃, h₄, h₅, h₆, -⟩ := h
    interval_cases n
    · exact h₁
    · exact h₂
    · exact h₃
    · exact h₄
    · exact h₅
    · exact h₆
  have hzero := @eq_zero_of_smallRelations
    (fun n => ((nextState^[n + 1] s).toNat : ℤ) - (nextState^[n + 1] t).toNat) (by
      intro ks hks
      obtain ⟨hlength, hdvd, hweight⟩ := smallRelations_small ks hks
      refine Congruential.combine_eq_zero (fun n _ => ?_) (fun n hn => ?_) hdvd hweight
      · have hstep := (nextState_modEq (nextState^[n + 1] s)).sub
          (nextState_modEq (nextState^[n + 1] t))
        have hsame : Congruential.step 1664525 1013904223 (nextState^[n + 1] s).toNat -
            Congruential.step 1664525 1013904223 (nextState^[n + 1] t).toNat =
              1664525 * (((nextState^[n + 1] s).toNat : ℤ) - (nextState^[n + 1] t).toNat) := by
          simp only [Congruential.step]
          ring
        rw [hsame, ← Function.iterate_succ_apply' nextState,
          ← Function.iterate_succ_apply' nextState] at hstep
        exact hstep
      · exact abs_sub_lt_of_stateByte_eq (hbytes n (by omega)))
  exact UInt32.toNat_inj.1 (Int.natCast_inj.1 (sub_eq_zero.1 hzero))

/-- Six bytes of one fixture are six bytes of another exactly when they come from one state. -/
theorem window_eq_iff {m n i j : ℕ} {s t : UInt32} (hi : i + 6 ≤ m) (hj : j + 6 ≤ n) :
    ((lcgBytes m s).drop i).take 6 = ((lcgBytes n t).drop j).take 6 ↔
      nextState^[i] s = nextState^[j] t := by
  rw [drop_lcgBytes, drop_lcgBytes, take_lcgBytes 6 _ _ (by omega),
    take_lcgBytes 6 _ _ (by omega)]
  exact ⟨eq_of_lcgBytes_eq, fun h => by rw [h]⟩

/-- Two fixtures with different seeds differ in their first six bytes. -/
theorem deterministicBinary_seed {m n : ℕ} {s t : UInt32} (hm : 6 ≤ m) (hn : 6 ≤ n)
    (h : (deterministicBinary m s).take 6 = (deterministicBinary n t).take 6) : s = t := by
  have hstate : firstState s = firstState t :=
    (@window_eq_iff m n 0 0 (firstState s) (firstState t) (by omega) (by omega)).1 h
  -- the multiplier of the seed has an inverse
  have hinverse : ∀ seed : UInt32, (firstState seed - 1013904223) * 244002641 = seed := by
    intro seed
    rw [firstState, UInt32.add_sub_cancel, UInt32.mul_assoc]
    exact UInt32.mul_one seed
  rw [← hinverse s, hstate, hinverse t]

/-! ### The blocks of a fixture -/

section Blocks

variable {size b : ℕ} {seed : UInt32}

/-- **No six bytes occur twice** in a fixture shorter than the period. -/
theorem deterministicBinary_window_injOn (hsize : size ≤ 2 ^ 32) {i j : ℕ} (hi : i + 6 ≤ size)
    (hj : j + 6 ≤ size)
    (h : ((deterministicBinary size seed).drop i).take 6 =
      ((deterministicBinary size seed).drop j).take 6) : i = j := by
  have hmod := (iterate_nextState_eq_iff i j (firstState seed)).1 ((window_eq_iff hi hj).1 h)
  rwa [Nat.ModEq, Nat.mod_eq_of_lt (by omega), Nat.mod_eq_of_lt (by omega)] at hmod

/-- **The blocks of a fixture give it in one order only.**  A receiver that puts the full blocks
together in any order, drops some or repeats some, and adds the last short block, has the fixture
exactly when it has put every block in its place.  No six bytes occur twice in the fixture. -/
theorem deterministicBinary_reassembled (hsize : size ≤ 2 ^ 32) (hb : 6 ≤ b) :
    (∀ order : List ℕ, (∀ k ∈ order, k < size / b) →
      ((order.map (blockAt b (deterministicBinary size seed))).flatten ++
          rest b (deterministicBinary size seed) = deterministicBinary size seed ↔
        order = List.range (size / b))) ∧
      ∀ i j, i + 6 ≤ size → j + 6 ≤ size →
        ((deterministicBinary size seed).drop i).take 6 =
          ((deterministicBinary size seed).drop j).take 6 → i = j := by
  refine ⟨fun order horder => ?_, fun i j hi hj => deterministicBinary_window_injOn hsize hi hj⟩
  have hlength : (deterministicBinary size seed).length = size := length_lcgBytes size _
  have hwhole := flatten_blocks_append_rest (by omega : 0 < b) (deterministicBinary size seed)
  have hinRange : ∀ k < size / b, k * b + b ≤ size := by
    intro k hk
    have hle := Nat.mul_le_mul_right b (Nat.succ_le_of_lt hk)
    rw [Nat.succ_mul] at hle
    exact le_trans hle (Nat.div_mul_le_self size b)
  have hblocks := blocks_eq_map (by omega : 0 < b) (deterministicBinary size seed)
  rw [hlength] at hblocks
  constructor
  · intro h
    have hsame : order.map (blockAt b (deterministicBinary size seed)) =
        (List.range (size / b)).map (blockAt b (deterministicBinary size seed)) := by
      rw [← hblocks]
      refine flatten_inj (by omega : 0 < b) ?_ (fun c hc => blocks_length_eq hc)
        (List.append_cancel_right (h.trans hwhole.symm))
      intro c hc
      obtain ⟨k, hk, rfl⟩ := List.mem_map.1 hc
      have hle := hinRange k (horder k hk)
      rw [blockAt, List.length_take, List.length_drop, hlength]
      omega
    have hcount : order.length = size / b := by simpa using congrArg List.length hsame
    refine List.ext_getElem (by rw [hcount, List.length_range]) fun p hp hp' => ?_
    have hblock : blockAt b (deterministicBinary size seed) order[p] =
        blockAt b (deterministicBinary size seed) p := by
      have hget := List.getElem_of_eq hsame (by rwa [List.length_map])
      simpa using hget
    have hwindow := congrArg (List.take 6) hblock
    rw [blockAt, blockAt, List.take_take, List.take_take, Nat.min_eq_left hb] at hwindow
    have hleft := hinRange _ (horder _ (List.getElem_mem hp))
    have hright := hinRange p (hcount ▸ hp)
    have hpos := deterministicBinary_window_injOn hsize (by omega) (by omega) hwindow
    rw [List.getElem_range]
    exact Nat.eq_of_mul_eq_mul_right (by omega) hpos
  · rintro rfl
    rw [← hblocks, hwhole]

/-- Two of the blocks swapped. -/
theorem deterministicBinary_reassembled_swapped :
    ¬ ([1, 0].map (blockAt 8 (deterministicBinary 20 1))).flatten ++
        rest 8 (deterministicBinary 20 1) = deterministicBinary 20 1 := by
  rw [(deterministicBinary_reassembled (by decide) (by decide)).1 [1, 0] (by decide)]
  decide

end Blocks

end TftpHarness
