/-
**Preferences decided axis by axis.**

One object is preferred to another on an axis, or the two are tied there.  A lexicographic
preference asks a second axis when the first one ties.  It is a preference again: nothing is
preferred both ways.  Whether it is transitive depends on the ties of the first axis.  Where two
things are tied if a quantity is equal, ties are transitive, and so is the lexicographic preference.
Where they are tied if the quantity differs by at most a tolerance, they need not be: two near ties
can add up to a difference that counts.

Main definitions:

* `Preference.Tied`, `Preference.Lexicographic` — ties, and asking a second axis;
* `Preference.TiesClose` — the ties among three objects are transitive;
* `Preference.Exceeds` — preference by more than a tolerance.

Main results:

* `Preference.Lexicographic.asymm` — nothing is preferred both ways;
* `Preference.Lexicographic.trans` — **the preference is transitive on three objects whose ties
  are**;
* `Preference.tiesClose_of_lt` — without a tolerance ties are transitive.
-/

import Mathlib.Order.Lattice
import Mathlib.Algebra.Order.Group.Abs

set_option relaxedAutoImplicit false
set_option autoImplicit false

namespace Preference

variable {γ : Type} {R S : γ → γ → Prop} {x y z : γ}

/-- Neither is preferred. -/
def Tied (R : γ → γ → Prop) (x y : γ) : Prop := ¬ R x y ∧ ¬ R y x

theorem Tied.symm (h : Tied R x y) : Tied R y x := ⟨h.2, h.1⟩

/-- Preferred on the first axis, or tied there and preferred on the second. -/
def Lexicographic (R S : γ → γ → Prop) (x y : γ) : Prop := R x y ∨ Tied R x y ∧ S x y

/-- **Nothing is preferred both ways.** -/
theorem Lexicographic.asymm (hR : R x y → ¬ R y x) (hS : S x y → ¬ S y x)
    (h : Lexicographic R S x y) : ¬ Lexicographic R S y x := by
  rcases h with hxy | ⟨htied, hxy⟩
  · rintro (hyx | ⟨htied, -⟩)
    · exact hR hxy hyx
    · exact htied.2 hxy
  · rintro (hyx | ⟨-, hyx⟩)
    · exact htied.2 hyx
    · exact hS hxy hyx

/-- Two ties among three objects make a third. -/
structure TiesClose (T : γ → γ → Prop) (x y z : γ) : Prop where
  outer : T x y → T y z → T x z
  right : T x y → T x z → T y z
  left : T x z → T y z → T x y

/-- **The preference is transitive on three objects whose ties are.**  The second axis is asked only
where all three are tied on the first. -/
theorem Lexicographic.trans (hR : ∀ {x y z}, R x y → R y z → R x z)
    (hclose : TiesClose (Tied R) x y z)
    (hS : Tied R x y → Tied R y z → S x y → S y z → S x z) (hxy : Lexicographic R S x y)
    (hyz : Lexicographic R S y z) : Lexicographic R S x z := by
  rcases hxy with hxy | ⟨htied, hxy⟩
  · rcases hyz with hyz | ⟨htied', -⟩
    · exact Or.inl (hR hxy hyz)
    · -- `x` is not tied with `z`, or it were with `y`; nor is `z` preferred to it
      refine Or.inl (by_contra fun hxz => ?_)
      have hzx : ¬ R z x := fun hzx => htied'.2 (hR hzx hxy)
      exact (hclose.left ⟨hxz, hzx⟩ htied').1 hxy
  · rcases hyz with hyz | ⟨htied', hyz⟩
    · refine Or.inl (by_contra fun hxz => ?_)
      have hzx : ¬ R z x := fun hzx => htied.2 (hR hyz hzx)
      exact (hclose.right htied ⟨hxz, hzx⟩).1 hyz
    · exact Or.inr ⟨hclose.outer htied htied', hS htied htied' hxy hyz⟩

/-! ### Quantities -/

section Order

variable {α : Type} [LinearOrder α] {f : γ → α}

theorem tied_lt_iff : Tied (fun x y => f x < f y) x y ↔ f x = f y := by
  simp only [Tied, not_lt]
  exact ⟨fun h => le_antisymm h.2 h.1, fun h => ⟨h.ge, h.le⟩⟩

/-- Where the smaller quantity is preferred, ties are transitive. -/
theorem tiesClose_of_lt : TiesClose (Tied fun x y => f x < f y) x y z := by
  refine ⟨?_, ?_, ?_⟩ <;> simp only [tied_lt_iff]
  · exact fun h h' => h.trans h'
  · exact fun h h' => h.symm.trans h'
  · exact fun h h' => h.trans h'.symm

end Order

section Tolerance

variable {α : Type} [AddCommGroup α] [LinearOrder α] {tolerance : α} {f : γ → α}

/-- The quantity is larger by more than the tolerance. -/
def Exceeds (tolerance : α) (f : γ → α) (x y : γ) : Prop := tolerance < f x - f y

/-- Two quantities are tied if they differ by at most the tolerance. -/
theorem tied_exceeds_iff : Tied (Exceeds tolerance f) x y ↔ |f x - f y| ≤ tolerance := by
  simp only [Tied, Exceeds, not_lt]
  rw [abs_le', neg_sub]

variable [IsOrderedAddMonoid α]

theorem Exceeds.asymm (htolerance : 0 ≤ tolerance) (h : Exceeds tolerance f x y) :
    ¬ Exceeds tolerance f y x := by
  unfold Exceeds at h ⊢
  have hpos : 0 < f x - f y := lt_of_le_of_lt htolerance h
  have hneg : f y - f x < 0 := by rwa [← neg_sub, neg_lt_zero]
  exact not_lt.2 (hneg.le.trans htolerance)

theorem Exceeds.trans (htolerance : 0 ≤ tolerance) (hxy : Exceeds tolerance f x y)
    (hyz : Exceeds tolerance f y z) : Exceeds tolerance f x z := by
  unfold Exceeds at hxy hyz ⊢
  calc tolerance < f x - f y := hxy
    _ ≤ f x - f y + (f y - f z) := le_add_of_nonneg_right (htolerance.trans hyz.le)
    _ = f x - f z := sub_add_sub_cancel _ _ _

end Tolerance

end Preference
