/-
**Averages of finitely many values.**

An average lies between values that it is taken of.  That is all that is used of one here, so it is
the definition: some value is not above it, and some value is not below it.  Averages of averages
are averages again.

The second average is the normalized area under a broken line, by the trapezoidal rule.  Over
points in order each trapezoid has a width that is not negative, so bounds of the heights bound the
sum in units of the whole width.

Nothing here is about a particular program.

Main definitions:

* `Averages.Between` — a number between some of the values;
* `Averages.trapezoids` — the trapezoids under the broken line through points.

Main results:

* `Averages.between_of_bounds` — what every bound of the values bounds is between them;
* `Averages.Between.trans` — averages of averages;
* `Averages.between_mean`, `Averages.between_trapezoids` — **the mean and the normalized area**.
-/

import Mathlib.Algebra.Order.BigOperators.Group.List
import Mathlib.Algebra.Order.Field.Basic
import Mathlib.Data.List.MinMax
import Mathlib.Data.List.Pairwise
import Mathlib.Tactic.Linarith
import Mathlib.Tactic.Ring

set_option relaxedAutoImplicit false
set_option autoImplicit false

namespace Averages

/-! ### Between values -/

section Order

variable {α : Type*} [LinearOrder α] {values : List α} {x : α}

/-- Some of the values is not above the number, and some is not below it. -/
def Between (values : List α) (x : α) : Prop := (∃ v ∈ values, v ≤ x) ∧ ∃ v ∈ values, x ≤ v

/-- A value is between the values. -/
theorem between_of_mem (h : x ∈ values) : Between values x := ⟨⟨x, h, le_rfl⟩, x, h, le_rfl⟩

/-- Only whether a value occurs matters. -/
theorem Between.mono {values' : List α} (h : Between values x) (hsub : values ⊆ values') :
    Between values' x := by
  obtain ⟨⟨v, hv, hvx⟩, w, hw, hxw⟩ := h
  exact ⟨⟨v, hsub hv, hvx⟩, w, hsub hw, hxw⟩

/-- An average of averages is an average of the values. -/
theorem Between.trans {averages : List α} (h : Between averages x)
    (haverages : ∀ a ∈ averages, Between values a) : Between values x := by
  obtain ⟨⟨a, ha, hax⟩, b, hb, hxb⟩ := h
  obtain ⟨⟨v, hv, hva⟩, -⟩ := haverages a ha
  obtain ⟨-, w, hw, hbw⟩ := haverages b hb
  exact ⟨⟨v, hv, hva.trans hax⟩, w, hw, hxb.trans hbw⟩

/-- **What every bound of the values bounds** is between them. -/
theorem between_of_bounds (hne : values ≠ []) (hlower : ∀ lo, (∀ v ∈ values, lo ≤ v) → lo ≤ x)
    (hupper : ∀ hi, (∀ v ∈ values, v ≤ hi) → x ≤ hi) : Between values x := by
  have hpos : 0 < values.length := List.length_pos_iff.2 hne
  exact ⟨⟨_, List.minimum_of_length_pos_mem hpos,
      hlower _ fun v hv => List.minimum_of_length_pos_le_of_mem hv hpos⟩,
    _, List.maximum_of_length_pos_mem hpos,
    hupper _ fun v hv => List.le_maximum_of_length_pos_of_mem hv hpos⟩

/-- A number is between the values unless all of them are above it or all are below it. -/
theorem between_iff : Between values x ↔ ¬ ((∀ v ∈ values, x < v) ∨ ∀ v ∈ values, v < x) := by
  simp only [Between, not_or, not_forall, not_lt, exists_prop]

/-- Between equal values there is only that value. -/
theorem Between.eq_of_forall_eq {v : α} (h : Between values x) (hvalues : ∀ w ∈ values, w = v) :
    x = v := by
  obtain ⟨⟨a, ha, hax⟩, b, hb, hxb⟩ := h
  rw [hvalues a ha] at hax
  rw [hvalues b hb] at hxb
  exact le_antisymm hxb hax

end Order

/-! ### Points in order -/

section Points

variable {α β : Type*} [LinearOrder α] {x : β → α} {p : β} {points : List β}

/-- The last of a point and those after it. -/
def lastPoint (p : β) (points : List β) : β := (p :: points).getLast (List.cons_ne_nil _ _)

/-- In order, the last point is not before any. -/
theorem le_lastPoint (hsorted : (p :: points).Pairwise fun a b => x a ≤ x b) :
    ∀ q ∈ p :: points, x q ≤ x (lastPoint p points) := by
  have hrefl : Std.Refl fun a b => x a ≤ x b := ⟨fun _ => le_rfl⟩
  exact fun q hq => hsorted.rel_getLast hq

/-- Without a width, all points have one place. -/
theorem eq_of_lastPoint_le (hsorted : (p :: points).Pairwise fun a b => x a ≤ x b)
    (hspan : x (lastPoint p points) ≤ x p) : ∀ q ∈ p :: points, x q = x p := by
  intro q hq
  refine le_antisymm ((le_lastPoint hsorted q hq).trans hspan) ?_
  rcases List.mem_cons.1 hq with rfl | hq
  · exact le_rfl
  · exact List.rel_of_pairwise_cons hsorted hq

end Points

section Field

variable {α : Type*} [Field α] [LinearOrder α] [IsStrictOrderedRing α]

/-- **The mean** is between the values. -/
theorem between_mean {values : List α} (hne : values ≠ []) :
    Between values (values.sum / values.length) := by
  have hpos : (0 : α) < values.length := Nat.cast_pos.2 (List.length_pos_iff.2 hne)
  refine between_of_bounds hne (fun lo hlo => ?_) fun hi hhi => ?_
  · have hsum := values.card_nsmul_le_sum lo hlo
    rw [nsmul_eq_mul] at hsum
    rw [le_div_iff₀ hpos, mul_comm]
    exact hsum
  · have hsum := values.sum_le_card_nsmul hi hhi
    rw [nsmul_eq_mul] at hsum
    rw [div_le_iff₀ hpos, mul_comm]
    exact hsum

/-! ### The trapezoidal rule -/

variable {β : Type*} (x y : β → α)

/-- The trapezoids between a point and those after it, added up. -/
def trapezoids (p : β) : List β → α
  | [] => 0
  | q :: points => (x q - x p) * ((y q + y p) / 2) + trapezoids q points

variable {x y} {p : β} {points : List β}

/-- A lower bound of the heights, in units of the width. -/
theorem mul_le_trapezoids (hsorted : (p :: points).Pairwise fun a b => x a ≤ x b) {lo : α}
    (hlo : ∀ q ∈ p :: points, lo ≤ y q) :
    lo * (x (lastPoint p points) - x p) ≤ trapezoids x y p points := by
  induction points generalizing p with
  | nil => simp [lastPoint, trapezoids]
  | cons q points ih =>
      have hwidth : 0 ≤ x q - x p :=
        sub_nonneg.2 (List.rel_of_pairwise_cons hsorted List.mem_cons_self)
      have hheight : lo ≤ (y q + y p) / 2 := by
        linarith [hlo p List.mem_cons_self, hlo q (List.mem_cons_of_mem _ List.mem_cons_self)]
      have hrest := ih hsorted.of_cons fun r hr => hlo r (List.mem_cons_of_mem _ hr)
      calc lo * (x (lastPoint q points) - x p)
          = (x q - x p) * lo + lo * (x (lastPoint q points) - x q) := by ring
        _ ≤ (x q - x p) * ((y q + y p) / 2) + trapezoids x y q points :=
            add_le_add (mul_le_mul_of_nonneg_left hheight hwidth) hrest

/-- The trapezoids of the heights turned upside down. -/
theorem trapezoids_neg (p : β) (points : List β) :
    trapezoids x (fun q => -y q) p points = -trapezoids x y p points := by
  induction points generalizing p with
  | nil => simp [trapezoids]
  | cons q points ih =>
      simp only [trapezoids, ih]
      ring

/-- An upper bound of the heights, in units of the width. -/
theorem trapezoids_le_mul (hsorted : (p :: points).Pairwise fun a b => x a ≤ x b) {hi : α}
    (hhi : ∀ q ∈ p :: points, y q ≤ hi) :
    trapezoids x y p points ≤ hi * (x (lastPoint p points) - x p) := by
  have h := mul_le_trapezoids (y := fun q => -y q) hsorted fun q hq => neg_le_neg (hhi q hq)
  rw [trapezoids_neg] at h
  linarith

/-- **The normalized area** is between the heights. -/
theorem between_trapezoids (hsorted : (p :: points).Pairwise fun a b => x a ≤ x b)
    (hspan : x p < x (lastPoint p points)) :
    Between ((p :: points).map y)
      (trapezoids x y p points / (x (lastPoint p points) - x p)) := by
  have hpos : 0 < x (lastPoint p points) - x p := sub_pos.2 hspan
  refine between_of_bounds (List.cons_ne_nil _ _) (fun lo hlo => ?_) fun hi hhi => ?_
  · rw [le_div_iff₀ hpos]
    exact mul_le_trapezoids hsorted fun q hq => hlo _ (List.mem_map_of_mem hq)
  · rw [div_le_iff₀ hpos]
    exact trapezoids_le_mul hsorted fun q hq => hhi _ (List.mem_map_of_mem hq)

end Field

end Averages
