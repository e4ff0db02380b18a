/-
**Iterated hashing.**

A message is cut into blocks of one size, and the blocks are taken up one after the other by a
compression function.  A hasher that is given a message in pieces keeps what does not fill a block;
what it keeps, and the blocks it has taken up, depend on the bytes alone.

If the block lists of two messages have one digest and neither ends with the other, then walking the
two lists from their ends, in step, leads to two inputs of the compression function with one value.

Main definitions:

* `MerkleDamgard.blocks`, `MerkleDamgard.rest` — the full blocks of a list, and what is left;
* `MerkleDamgard.chain` — the compression function iterated;
* `MerkleDamgard.collide` — the walk from the ends.

Main results:

* `MerkleDamgard.blocks_concat`, `MerkleDamgard.rest_concat` — one more element;
* `MerkleDamgard.flatten_blocks` — blocks without a rest are the whole list;
* `MerkleDamgard.collide_of_chain_eq` — **equal digests of different lists contain a collision**.
-/

import Mathlib.Data.List.Basic
import Mathlib.Tactic.Common

set_option relaxedAutoImplicit false
set_option autoImplicit false

namespace MerkleDamgard

/-! ### Blocks -/

section Blocks

variable {α : Type*} {n : ℕ}

/-- The full blocks of `n` elements. -/
def blocks (n : ℕ) (xs : List α) : List (List α) :=
  if _h : 0 < n ∧ n ≤ xs.length then xs.take n :: blocks n (xs.drop n) else []
termination_by xs.length
decreasing_by
  rw [List.length_drop]
  omega

/-- What does not fill a block. -/
def rest (n : ℕ) (xs : List α) : List α := xs.drop (n * (xs.length / n))

theorem blocks_short {xs : List α} (h : xs.length < n) : blocks n xs = [] := by
  rw [blocks, dif_neg (by omega)]

theorem rest_short {xs : List α} (h : xs.length < n) : rest n xs = xs := by
  rw [rest, Nat.div_eq_of_lt h, Nat.mul_zero, List.drop_zero]

theorem rest_length (n : ℕ) (xs : List α) : (rest n xs).length = xs.length % n := by
  rw [rest, List.length_drop]
  have := Nat.div_add_mod xs.length n
  omega

theorem blocks_cons (hn : 0 < n) {b : List α} (hb : b.length = n) (xs : List α) :
    blocks n (b ++ xs) = b :: blocks n xs := by
  rw [blocks, dif_pos ⟨hn, by rw [List.length_append]; omega⟩, ← hb, List.take_left,
    List.drop_left]

theorem rest_cons (hn : 0 < n) {b : List α} (hb : b.length = n) (xs : List α) :
    rest n (b ++ xs) = rest n xs := by
  have hlength : n * ((b ++ xs).length / n) = b.length + n * (xs.length / n) := by
    rw [List.length_append, hb, Nat.add_div_left _ hn, Nat.mul_succ, Nat.add_comm]
  rw [rest, hlength, ← List.drop_drop, List.drop_left, rest]

/-- A list is short, or begins with a block. -/
theorem block_cases (n : ℕ) (xs : List α) :
    xs.length < n ∨ ∃ b ys, b.length = n ∧ xs = b ++ ys := by
  rcases Nat.lt_or_ge xs.length n with h | h
  · exact Or.inl h
  · exact Or.inr ⟨xs.take n, xs.drop n, by rw [List.length_take]; omega,
      (List.take_append_drop n xs).symm⟩

/-- **Induction over the blocks of a list.** -/
theorem block_induction (hn : 0 < n) {P : List α → Prop} (hshort : ∀ xs, xs.length < n → P xs)
    (hblock : ∀ b xs, b.length = n → P xs → P (b ++ xs)) (xs : List α) : P xs := by
  rcases block_cases n xs with h | ⟨b, ys, hb, hxs⟩
  · exact hshort xs h
  · rw [hxs]
    exact hblock b ys hb (block_induction hn hshort hblock ys)
termination_by xs.length
decreasing_by
  rw [hxs, List.length_append]
  omega

theorem blocks_length_eq {xs b : List α} (h : b ∈ blocks n xs) : b.length = n := by
  induction xs using blocks.induct n with
  | case1 xs hfull ih =>
      rw [blocks, dif_pos hfull] at h
      rcases List.mem_cons.1 h with rfl | h
      · rw [List.length_take]
        omega
      · exact ih h
  | case2 xs hshort =>
      rw [blocks, dif_neg hshort] at h
      exact absurd h List.not_mem_nil

/-- The blocks and the rest are the list. -/
theorem flatten_blocks_append_rest (hn : 0 < n) (xs : List α) :
    (blocks n xs).flatten ++ rest n xs = xs := by
  induction xs using block_induction hn with
  | hshort xs h => rw [blocks_short h, rest_short h, List.flatten_nil, List.nil_append]
  | hblock b xs hb ih =>
      rw [blocks_cons hn hb, rest_cons hn hb, List.flatten_cons, List.append_assoc, ih]

/-- Blocks without a rest are the whole list. -/
theorem flatten_blocks (hn : 0 < n) {xs : List α} (h : n ∣ xs.length) :
    (blocks n xs).flatten = xs := by
  have hrest : rest n xs = [] := by
    rw [← List.length_eq_zero_iff, rest_length, Nat.mod_eq_zero_of_dvd h]
  have heq := flatten_blocks_append_rest hn xs
  rwa [hrest, List.append_nil] at heq

/-- One more element fills the last block, or does not. -/
theorem blocks_concat (hn : 0 < n) (xs : List α) (x : α) :
    blocks n (xs ++ [x]) =
      if (rest n xs).length + 1 < n then blocks n xs
      else blocks n xs ++ [rest n xs ++ [x]] := by
  induction xs using block_induction hn with
  | hshort xs h =>
      rw [rest_short h, blocks_short h]
      split
      · next hlt => exact blocks_short (by rwa [List.length_append, List.length_singleton])
      · next hge =>
          have hfull : (xs ++ [x]).length = n := by
            rw [List.length_append, List.length_singleton]
            omega
          have heq : blocks n (xs ++ [x] ++ []) = (xs ++ [x]) :: blocks n [] :=
            blocks_cons hn hfull []
          rwa [List.append_nil, @blocks_short α n [] hn] at heq
  | hblock b xs hb ih =>
      rw [List.append_assoc, blocks_cons hn hb, ih, rest_cons hn hb, blocks_cons hn hb]
      split
      · rfl
      · rw [List.cons_append]

theorem rest_concat (hn : 0 < n) (xs : List α) (x : α) :
    rest n (xs ++ [x]) =
      if (rest n xs).length + 1 < n then rest n xs ++ [x] else [] := by
  induction xs using block_induction hn with
  | hshort xs h =>
      rw [rest_short h]
      split
      · next hlt => exact rest_short (by rwa [List.length_append, List.length_singleton])
      · next hge =>
          rw [← List.length_eq_zero_iff, rest_length, List.length_append, List.length_singleton,
            show xs.length + 1 = n by omega, Nat.mod_self]
  | hblock b xs hb ih => rw [List.append_assoc, rest_cons hn hb, ih, rest_cons hn hb]

/-- The block at a position. -/
def blockAt (n : ℕ) (xs : List α) (k : ℕ) : List α := (xs.drop (k * n)).take n

theorem blocks_eq_map (hn : 0 < n) (xs : List α) :
    blocks n xs = (List.range (xs.length / n)).map (blockAt n xs) := by
  induction xs using block_induction hn with
  | hshort xs h => rw [blocks_short h, Nat.div_eq_of_lt h, List.range_zero, List.map_nil]
  | hblock b xs hb ih =>
      have hlength : (b ++ xs).length / n = xs.length / n + 1 := by
        rw [List.length_append, hb, Nat.add_div_left _ hn]
      rw [blocks_cons hn hb, ih, hlength, List.range_succ_eq_map, List.map_cons, List.map_map]
      congr 1
      · rw [blockAt, Nat.zero_mul, List.drop_zero, ← hb, List.take_left]
      · refine List.map_congr_left fun k _ => ?_
        rw [Function.comp_apply, blockAt, blockAt, Nat.succ_mul, Nat.add_comm, ← List.drop_drop,
          ← hb, List.drop_left]

/-- Blocks of one length one after the other. -/
theorem flatten_inj {bs cs : List (List α)} (hn : 0 < n) (hbs : ∀ b ∈ bs, b.length = n)
    (hcs : ∀ c ∈ cs, c.length = n) (h : bs.flatten = cs.flatten) : bs = cs := by
  induction bs generalizing cs with
  | nil =>
      cases cs with
      | nil => rfl
      | cons c cs =>
          have hzero := congrArg List.length h
          have hc := hcs c List.mem_cons_self
          simp only [List.flatten_nil, List.flatten_cons, List.length_nil, List.length_append]
            at hzero
          omega
  | cons b bs ih =>
      have hb := hbs b List.mem_cons_self
      cases cs with
      | nil =>
          have hzero := congrArg List.length h
          simp only [List.flatten_nil, List.flatten_cons, List.length_nil, List.length_append]
            at hzero
          omega
      | cons c cs =>
          have hc := hcs c List.mem_cons_self
          rw [List.flatten_cons, List.flatten_cons] at h
          obtain ⟨hhead, htail⟩ := List.append_inj h (by rw [hb, hc])
          rw [hhead, ih (fun b hmem => hbs b (List.mem_cons_of_mem _ hmem))
            (fun c hmem => hcs c (List.mem_cons_of_mem _ hmem)) htail]

/-- Lists of one length one after the other. -/
theorem flatMap_injective {β : Type*} {f : α → List β} (hn : 0 < n)
    (hlength : ∀ a, (f a).length = n) (hf : Function.Injective f) :
    Function.Injective fun xs : List α => xs.flatMap f := by
  intro xs ys h
  simp only [List.flatMap_def] at h
  refine List.map_injective_iff.2 hf (flatten_inj hn ?_ ?_ h)
  · intro b hb
    obtain ⟨a, -, rfl⟩ := List.mem_map.1 hb
    exact hlength a
  · intro b hb
    obtain ⟨a, -, rfl⟩ := List.mem_map.1 hb
    exact hlength a

end Blocks

/-! ### The chain -/

section Chain

variable {σ β : Type*} (compress : σ → β → σ) (start : σ)

/-- The chaining value after some blocks. -/
def chain (bs : List β) : σ := bs.foldl compress start

theorem chain_concat (bs : List β) (b : β) :
    chain compress start (bs ++ [b]) = compress (chain compress start bs) b := by
  rw [chain, List.foldl_append]
  rfl

variable [DecidableEq σ] [DecidableEq β]

/-- The walk from the ends of two lists, which are given last block first: the first place where
the inputs of the compression function differ. -/
def collide : List β → List β → Option ((σ × β) × (σ × β))
  | x :: xs, y :: ys =>
      let left := (chain compress start xs.reverse, x)
      let right := (chain compress start ys.reverse, y)
      if left = right then collide xs ys else some (left, right)
  | _, _ => none

variable {compress start}

/-- **Equal digests of different lists contain a collision**, and the walk finds it. -/
theorem collide_of_chain_eq {xs ys : List β} (hxs : ¬ xs <+: ys) (hys : ¬ ys <+: xs)
    (h : chain compress start xs.reverse = chain compress start ys.reverse) :
    ∃ p q, collide compress start xs ys = some (p, q) ∧ p ≠ q ∧ p.2 ∈ xs ∧ q.2 ∈ ys ∧
      compress p.1 p.2 = compress q.1 q.2 := by
  induction xs generalizing ys with
  | nil => exact absurd List.nil_prefix hxs
  | cons x xs ih =>
      cases ys with
      | nil => exact absurd List.nil_prefix hys
      | cons y ys =>
          rw [List.reverse_cons, List.reverse_cons, chain_concat, chain_concat] at h
          rw [collide]
          split
          · next heq =>
              -- one input: the lists differ further to the front
              obtain ⟨hchain, rfl⟩ := Prod.mk.inj heq
              have hxs' : ¬ xs <+: ys := fun hle => hxs (List.prefix_cons_inj x |>.2 hle)
              have hys' : ¬ ys <+: xs := fun hle => hys (List.prefix_cons_inj x |>.2 hle)
              obtain ⟨p, q, hfound, hne, hp, hq, hpq⟩ := ih hxs' hys' hchain
              exact ⟨p, q, hfound, hne, List.mem_cons_of_mem x hp, List.mem_cons_of_mem x hq,
                hpq⟩
          · next hne =>
              exact ⟨_, _, rfl, hne, List.mem_cons_self, List.mem_cons_self, h⟩

end Chain

end MerkleDamgard
