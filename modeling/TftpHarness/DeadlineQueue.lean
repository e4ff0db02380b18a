/-
**Queues with deadlines.**

A queue holds items that are to be released when the clock has reached their deadline.  A sweep at a
time `now` releases the items that are due and keeps the others, both in their order.  Nothing is
assumed of the items but that they have deadlines in a linear order.

Main definitions:

* `DeadlineQueue.due`, `DeadlineQueue.remaining` — what a sweep releases and what it keeps;
* `DeadlineQueue.Sorted` — the deadlines stand in order.

Main results:

* `DeadlineQueue.perm_sweep` — **a sweep loses nothing and doubles nothing**;
* `DeadlineQueue.due_append_remaining` — **of a sorted queue a sweep releases a front part**, so
  that items leave in the order in which they came;
* `DeadlineQueue.sweep_all` — a sweep past every deadline empties the queue.
-/

import Mathlib.Order.Lattice
import Mathlib.Data.List.Perm.Basic
import Mathlib.Data.List.Basic

set_option relaxedAutoImplicit false
set_option autoImplicit false

namespace DeadlineQueue

variable {τ α : Type} [LinearOrder τ] (deadline : α → τ)

/-- The items that a sweep releases. -/
def due (now : τ) (queue : List α) : List α := queue.filter fun x => deadline x ≤ now

/-- The items that a sweep keeps. -/
def remaining (now : τ) (queue : List α) : List α := queue.filter fun x => now < deadline x

/-- The deadlines stand in order. -/
def Sorted (queue : List α) : Prop := queue.Pairwise fun x y => deadline x ≤ deadline y

variable {deadline}

theorem deadline_le_of_mem_due {now : τ} {queue : List α} {x : α}
    (h : x ∈ due deadline now queue) : deadline x ≤ now := by
  simpa using (List.mem_filter.1 h).2

theorem mem_of_mem_remaining {now : τ} {queue : List α} {x : α}
    (h : x ∈ remaining deadline now queue) : x ∈ queue := (List.mem_filter.1 h).1

/-- **A sweep loses nothing and doubles nothing.** -/
theorem perm_sweep (now : τ) (queue : List α) :
    (due deadline now queue ++ remaining deadline now queue).Perm queue := by
  have h := List.filter_append_perm (fun x => decide (deadline x ≤ now)) queue
  simpa only [due, remaining, ← decide_not, not_le] using h

/-- A sweep past every deadline empties the queue. -/
theorem sweep_all {now : τ} {queue : List α} (h : ∀ x ∈ queue, deadline x ≤ now) :
    due deadline now queue = queue ∧ remaining deadline now queue = [] := by
  constructor
  · exact List.filter_eq_self.2 fun x hx => by simpa using h x hx
  · exact List.filter_eq_nil_iff.2 fun x hx => by simpa using h x hx

/-- **Of a sorted queue a sweep releases a front part.** -/
theorem due_append_remaining {now : τ} {queue : List α} (h : Sorted deadline queue) :
    due deadline now queue ++ remaining deadline now queue = queue := by
  induction queue with
  | nil => rfl
  | cons x rest ih =>
      rw [Sorted, List.pairwise_cons] at h
      have hrest := ih h.2
      by_cases hx : deadline x ≤ now
      · simpa [due, remaining, hx] using hrest
      · -- everything behind `x` is later still
        have hlate : ∀ y ∈ rest, ¬ deadline y ≤ now := by
          intro y hy hle
          exact hx (le_trans (h.1 y hy) hle)
        have hdue : due deadline now rest = [] :=
          List.filter_eq_nil_iff.2 fun y hy => by simpa using hlate y hy
        rw [hdue, List.nil_append] at hrest
        have hnone : due deadline now (x :: rest) = [] := by
          simpa [due, hx] using hdue
        have hall : remaining deadline now (x :: rest) = x :: rest := by
          have hcons : remaining deadline now (x :: rest) = x :: remaining deadline now rest := by
            simp [remaining, not_le.1 hx]
          rw [hcons, hrest]
        rw [hnone, hall, List.nil_append]

/-- A sweep keeps a queue sorted. -/
theorem Sorted.remaining {now : τ} {queue : List α} (h : Sorted deadline queue) :
    Sorted deadline (remaining deadline now queue) := List.Pairwise.filter _ h

/-- Items with a common deadline that is not before any other may queue at the end. -/
theorem Sorted.append {queue new : List α} {now : τ} (h : Sorted deadline queue)
    (hold : ∀ x ∈ queue, deadline x ≤ now) (hnew : ∀ x ∈ new, deadline x = now) :
    Sorted deadline (queue ++ new) := by
  refine List.pairwise_append.2 ⟨h, ?_, ?_⟩
  · refine List.pairwise_of_forall_mem_list fun x hx y hy => ?_
    rw [hnew x hx, hnew y hy]
  · intro x hx y hy
    rw [hnew y hy]
    exact hold x hx

end DeadlineQueue
