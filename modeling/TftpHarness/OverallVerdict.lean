/-
**The verdict of the comparison.**

`overall_verdict` compares two scorecards on four axes in turn: fewer integrity violations, fewer
MUST failures, a higher conformance score, a higher resilience index.  The counts are compared
exactly, the scores up to a tolerance, and the first axis on which the two differ names the winner.

The verdict is symmetric, so at most one of two implementations beats the other.  It is not an
ordering: near ties in conformance are not transitive, and three implementations a step of less than
the tolerance apart can each beat the next one, two of them by resilience and the last one by
conformance.  Where two near ties among three implementations make a third, beating is transitive.

Main definitions:

* `TftpHarness.overallVerdict` — **the verdict**, in words;
* `TftpHarness.Beats` — the verdict names the first implementation;
* `TftpHarness.Preferred` — the preference behind the verdict.

Main results:

* `TftpHarness.htmlEscape_injective` — escaped names are told apart;
* `TftpHarness.overallVerdict_cases` — **the verdict speaks for the preference**;
* `TftpHarness.verdict_orders` — symmetry, and transitivity where near ties are transitive;
* `TftpHarness.verdict_cycle` — three implementations that beat each other in a circle.
-/

import TftpHarness.Comparison
import TftpHarness.Resilience
import TftpHarness.Preference

set_option relaxedAutoImplicit false
set_option autoImplicit false

namespace TftpHarness

open Preference

/-! ### The verdict -/

/-- The axes of the verdict. -/
inductive VerdictAxis
  | integrity
  | mustFailures
  | conformance
  | resilience
  deriving DecidableEq, Repr

/-- The sentence that an axis decides for the implementation of that name. -/
def superiority : VerdictAxis → Bytes → Bytes
  | .integrity, name =>
      text "On the most damning axis — data integrity — " ++ name ++
        text " is superior (fewer transfers reported success while delivering corrupted bytes)."
  | .mustFailures, name => name ++ text " has fewer MUST-level (CRITICAL) conformance failures."
  | .conformance, name => name ++ text " has the higher weighted conformance score."
  | .resilience, name => name ++ text " is more resilient to adversarial network conditions."

/-- The sentence that no axis decides. -/
def evenlyMatched : Bytes :=
  text "The two implementations are evenly matched across the scored axes."

section Verdict

variable {α : Type} [Zero α] [Sub α] [Neg α] [LT α] [DecidableLT α] (read : Double → α)

/-- `std::abs`. -/
def stdAbs (x : α) : α := if x < 0 then -x else x

/-- The difference in conformance that counts. -/
def conformanceTolerance : α := read (Double.ofRat (5 / 100))

/-- The difference in resilience that counts. -/
def resilienceTolerance : α := read (Double.ofRat (1 / 1000))

/-- **`overall_verdict`.** -/
def overallVerdict (a b : Scorecard α) : Bytes :=
  if a.integrityViolations.length ≠ b.integrityViolations.length then
    let aWin := a.integrityViolations.length < b.integrityViolations.length
    superiority .integrity (htmlEscape (if aWin then a else b).implementationName)
  else if a.mustFailureIds.length ≠ b.mustFailureIds.length then
    let aWin := a.mustFailureIds.length < b.mustFailureIds.length
    superiority .mustFailures (htmlEscape (if aWin then a else b).implementationName)
  else if conformanceTolerance read < stdAbs (a.conformanceScore - b.conformanceScore) then
    let aWin := b.conformanceScore < a.conformanceScore
    superiority .conformance (htmlEscape (if aWin then a else b).implementationName)
  else if resilienceTolerance read < stdAbs (a.resilienceIndex - b.resilienceIndex) then
    let aWin := b.resilienceIndex < a.resilienceIndex
    superiority .resilience (htmlEscape (if aWin then a else b).implementationName)
  else evenlyMatched

end Verdict

/-! ### Escaped names -/

/-- Texts are kept apart by codes none of which is the beginning of another one. -/
theorem flatMap_injective_of_code {β γ : Type} {code : β → List γ} (hne : ∀ b, code b ≠ [])
    (hcode : ∀ b b', code b <+: code b' → b = b') :
    Function.Injective fun l : List β => l.flatMap code := by
  intro l l' h
  dsimp only at h
  induction l generalizing l' with
  | nil =>
      cases l' with
      | nil => rfl
      | cons b' l' => exact absurd (List.append_eq_nil_iff.1 h.symm).1 (hne b')
  | cons b l ih =>
      cases l' with
      | nil => exact absurd (List.append_eq_nil_iff.1 h).1 (hne b)
      | cons b' l' =>
          rw [List.flatMap_cons, List.flatMap_cons] at h
          have hb : b = b' := by
            rcases List.prefix_or_prefix_of_prefix (h ▸ List.prefix_append _ _)
              (List.prefix_append _ _) with hle | hle
            · exact hcode _ _ hle
            · exact (hcode _ _ hle).symm
          subst hb
          rw [ih (List.append_cancel_left h)]

/-- The bytes of markup and their entities. -/
def htmlEntities : List (UInt8 × Bytes) :=
  [(38, text "&amp;"), (60, text "&lt;"), (62, text "&gt;"), (34, text "&quot;"),
    (39, text "&#39;")]

/-- What `html_escape` makes of one byte: its entity, or the byte itself. -/
def htmlCode (c : UInt8) : Bytes :=
  match htmlEntities.find? fun entity => entity.1 = c with
  | some entity => entity.2
  | none => [c]

theorem htmlEscape_eq (raw : Bytes) : htmlEscape raw = raw.flatMap htmlCode := by
  refine List.flatMap_congr fun c _ => ?_
  simp only [htmlCode, htmlEntities, List.find?_cons, List.find?_nil, eq_comm]
  split_ifs with h₁ h₂ h₃ h₄ h₅ <;> simp [*]

/-- The code of a byte is its entity, which begins with an ampersand, or the byte itself. -/
theorem htmlCode_cases (c : UInt8) :
    (c, htmlCode c) ∈ htmlEntities ∨ c ∉ htmlEntities.map Prod.fst ∧ htmlCode c = [c] := by
  unfold htmlCode
  cases hfind : htmlEntities.find? fun entity => entity.1 = c with
  | some entity =>
      have hkey : entity.1 = c := by simpa using List.find?_some hfind
      subst hkey
      exact Or.inl (List.mem_of_find?_eq_some hfind)
  | none =>
      refine Or.inr ⟨fun hmem => ?_, rfl⟩
      obtain ⟨entity, hentity, heq⟩ := List.mem_map.1 hmem
      exact List.find?_eq_none.1 hfind entity hentity (decide_eq_true heq)

/-- **Escaping keeps texts apart.** -/
theorem htmlEscape_injective : Function.Injective htmlEscape := by
  have hlong : ∀ entity ∈ htmlEntities, 2 ≤ entity.2.length ∧ entity.2.head? = some 38 := by
    decide
  have hfree : ∀ entity ∈ htmlEntities, ∀ entity' ∈ htmlEntities,
      entity.2 <+: entity'.2 → entity = entity' := by decide
  have hne : ∀ c, htmlCode c ≠ [] := by
    intro c hnil
    rcases htmlCode_cases c with hc | ⟨-, hc⟩
    · simpa [hnil] using (hlong _ hc).1
    · rw [hc] at hnil
      cases hnil
  rw [show htmlEscape = _ from funext htmlEscape_eq]
  refine flatMap_injective_of_code hne fun c d hle => ?_
  rcases htmlCode_cases c with hc | ⟨hplain, hc⟩
  · rcases htmlCode_cases d with hd | ⟨-, hd⟩
    · exact (Prod.mk.inj (hfree _ hc _ hd hle)).1
    · have hshort := hle.length_le
      rw [hd, List.length_singleton] at hshort
      exact absurd hshort (Nat.not_le.2 (hlong _ hc).1)
  · rcases htmlCode_cases d with hd | ⟨-, hd⟩
    · -- only an ampersand begins an entity, and it does not stand for itself
      obtain ⟨rest, hrest⟩ := hle
      have hfirst := (hlong _ hd).2
      rw [← hrest, hc, List.singleton_append, List.head?_cons, Option.some.injEq] at hfirst
      exact absurd (by rw [hfirst]; decide) hplain
    · rw [hc, hd] at hle
      simpa using hle

/-! ### Sentences -/

/-- What follows the name in a sentence. -/
def VerdictAxis.ending : VerdictAxis → Bytes
  | .integrity =>
      text " is superior (fewer transfers reported success while delivering corrupted bytes)."
  | .mustFailures => text " has fewer MUST-level (CRITICAL) conformance failures."
  | .conformance => text " has the higher weighted conformance score."
  | .resilience => text " is more resilient to adversarial network conditions."

theorem ending_suffix (axis : VerdictAxis) (name : Bytes) :
    axis.ending <:+ superiority axis name := by
  cases axis <;> exact List.suffix_append _ _

/-- A sentence tells its axis and the name in it. -/
theorem superiority_inj {axis axis' : VerdictAxis} {name name' : Bytes}
    (h : superiority axis name = superiority axis' name') : axis = axis' ∧ name = name' := by
  have hdistinct : ∀ x y : VerdictAxis, x.ending <:+ y.ending → x = y := by
    intro x y
    cases x <;> cases y <;> decide
  have haxis : axis = axis' := by
    rcases List.suffix_or_suffix_of_suffix (h ▸ ending_suffix axis name)
      (ending_suffix axis' name') with hle | hle
    · exact hdistinct _ _ hle
    · exact (hdistinct _ _ hle).symm
  subst haxis
  refine ⟨rfl, ?_⟩
  cases axis with
  | integrity => exact List.append_cancel_left (List.append_cancel_right h)
  | mustFailures => exact List.append_cancel_right h
  | conformance => exact List.append_cancel_right h
  | resilience => exact List.append_cancel_right h

/-- The sentence without a winner is none of those with one. -/
theorem superiority_ne_evenlyMatched (axis : VerdictAxis) (name : Bytes) :
    superiority axis name ≠ evenlyMatched := by
  intro h
  have hnone : ∀ x : VerdictAxis, ¬ x.ending <:+ evenlyMatched := by
    intro x
    cases x <;> decide
  exact hnone axis (h ▸ ending_suffix axis name)

/-! ### The preference behind the verdict -/

section Ordering

theorem stdAbs_eq (x : ℚ) : stdAbs x = |x| := by
  unfold stdAbs
  split
  · next h => exact (abs_of_neg h).symm
  · next h => exact (abs_of_nonneg (not_lt.1 h)).symm

/-- Fewer integrity violations. -/
def FewerViolations (a b : Scorecard ℚ) : Prop :=
  a.integrityViolations.length < b.integrityViolations.length

/-- Fewer MUST failures. -/
def FewerMustFailures (a b : Scorecard ℚ) : Prop :=
  a.mustFailureIds.length < b.mustFailureIds.length

instance (a b : Scorecard ℚ) : Decidable (FewerViolations a b) :=
  inferInstanceAs (Decidable (_ < _))

instance (a b : Scorecard ℚ) : Decidable (FewerMustFailures a b) :=
  inferInstanceAs (Decidable (_ < _))

/-- A higher conformance score, by more than the tolerance. -/
def MoreConformant (a b : Scorecard ℚ) : Prop :=
  Exceeds (conformanceTolerance rationalOf) Scorecard.conformanceScore a b

/-- A higher resilience index, by more than the tolerance. -/
def MoreResilient (a b : Scorecard ℚ) : Prop :=
  Exceeds (resilienceTolerance rationalOf) Scorecard.resilienceIndex a b

/-- Preferred on the first axis that is not tied. -/
def Preferred : Scorecard ℚ → Scorecard ℚ → Prop :=
  Lexicographic FewerViolations
    (Lexicographic FewerMustFailures (Lexicographic MoreConformant MoreResilient))

theorem conformanceTolerance_nonneg : (0 : ℚ) ≤ conformanceTolerance rationalOf := by
  decide +kernel

theorem resilienceTolerance_nonneg : (0 : ℚ) ≤ resilienceTolerance rationalOf := by
  decide +kernel

theorem MoreConformant.asymm {a b : Scorecard ℚ} (h : MoreConformant a b) :
    ¬ MoreConformant b a := Exceeds.asymm conformanceTolerance_nonneg h

theorem MoreResilient.asymm {a b : Scorecard ℚ} (h : MoreResilient a b) : ¬ MoreResilient b a :=
  Exceeds.asymm resilienceTolerance_nonneg h

/-- **Nothing is preferred both ways.** -/
theorem Preferred.asymm {a b : Scorecard ℚ} (h : Preferred a b) : ¬ Preferred b a :=
  Lexicographic.asymm (fun h => not_lt.2 (Nat.le_of_lt h))
    (Lexicographic.asymm (fun h => not_lt.2 (Nat.le_of_lt h))
      (Lexicographic.asymm MoreConformant.asymm MoreResilient.asymm)) h

/-- Two scorecards with as many integrity violations and as many MUST failures. -/
def SameCounts (a b : Scorecard ℚ) : Prop :=
  a.integrityViolations.length = b.integrityViolations.length ∧
    a.mustFailureIds.length = b.mustFailureIds.length

/-- A near tie in conformance. -/
def NearTie (a b : Scorecard ℚ) : Prop :=
  |a.conformanceScore - b.conformanceScore| ≤ conformanceTolerance rationalOf

instance (a b : Scorecard ℚ) : Decidable (NearTie a b) := inferInstanceAs (Decidable (_ ≤ _))

theorem tied_moreConformant : Tied MoreConformant = NearTie := by
  funext a b
  exact propext tied_exceeds_iff

/-- **The preference is transitive** on three scorecards with the same counts if near ties in
conformance are, and on all others. -/
theorem Preferred.trans {a b c : Scorecard ℚ}
    (hclose : SameCounts a b → SameCounts b c → TiesClose NearTie a b c)
    (hab : Preferred a b) (hbc : Preferred b c) : Preferred a c := by
  refine Lexicographic.trans Nat.lt_trans tiesClose_of_lt (fun hviolations hviolations' => ?_) hab
    hbc
  refine Lexicographic.trans Nat.lt_trans tiesClose_of_lt fun hmust hmust' => ?_
  refine Lexicographic.trans (Exceeds.trans conformanceTolerance_nonneg)
    (tied_moreConformant ▸ hclose ?_ ?_) fun _ _ => Exceeds.trans resilienceTolerance_nonneg
  · exact ⟨tied_lt_iff.1 hviolations, tied_lt_iff.1 hmust⟩
  · exact ⟨tied_lt_iff.1 hviolations', tied_lt_iff.1 hmust'⟩

/-! ### What the verdict says -/

/-- A verdict on two scorecards that speaks for a preference. -/
def SpeaksFor (P : Scorecard ℚ → Scorecard ℚ → Prop) (a b : Scorecard ℚ) (verdict : Bytes) :
    Prop :=
  (P a b ∧ ∃ axis, verdict = superiority axis (htmlEscape a.implementationName)) ∨
    (P b a ∧ ∃ axis, verdict = superiority axis (htmlEscape b.implementationName)) ∨
    (Tied P a b ∧ verdict = evenlyMatched)

section SpeaksFor

variable {R S : Scorecard ℚ → Scorecard ℚ → Prop} {a b : Scorecard ℚ} {verdict : Bytes}
  {differ aWin : Prop} [Decidable aWin]

/-- An axis on which two scorecards differ names the winner. -/
theorem winner_cases (hdiffer : differ ↔ R a b ∨ R b a) (hwin : differ → (aWin ↔ R a b))
    (axis : VerdictAxis) (h : differ) :
    (R a b ∧ superiority axis (htmlEscape (if aWin then a else b).implementationName) =
        superiority axis (htmlEscape a.implementationName)) ∨
      (R b a ∧ superiority axis (htmlEscape (if aWin then a else b).implementationName) =
        superiority axis (htmlEscape b.implementationName)) := by
  by_cases hab : R a b
  · rw [if_pos ((hwin h).2 hab)]
    exact Or.inl ⟨hab, rfl⟩
  · rw [if_neg fun hwins => hab ((hwin h).1 hwins)]
    exact Or.inr ⟨(hdiffer.1 h).resolve_left hab, rfl⟩

variable [Decidable differ]

/-- The last axis speaks for itself. -/
theorem speaksFor_last (hdiffer : differ ↔ R a b ∨ R b a) (hwin : differ → (aWin ↔ R a b))
    (axis : VerdictAxis) :
    SpeaksFor R a b (if differ then
      superiority axis (htmlEscape (if aWin then a else b).implementationName)
      else evenlyMatched) := by
  split
  · next h =>
      rcases winner_cases hdiffer hwin axis h with ⟨hab, heq⟩ | ⟨hba, heq⟩
      · exact Or.inl ⟨hab, axis, heq⟩
      · exact Or.inr (Or.inl ⟨hba, axis, heq⟩)
  · next h => exact Or.inr (Or.inr ⟨not_or.1 fun hor => h (hdiffer.2 hor), rfl⟩)

/-- **An axis asked before the others** speaks for the lexicographic preference. -/
theorem SpeaksFor.lexicographic (hdiffer : differ ↔ R a b ∨ R b a)
    (hwin : differ → (aWin ↔ R a b)) (axis : VerdictAxis) (h : SpeaksFor S a b verdict) :
    SpeaksFor (Lexicographic R S) a b (if differ then
      superiority axis (htmlEscape (if aWin then a else b).implementationName)
      else verdict) := by
  split
  · next hdiff =>
      rcases winner_cases hdiffer hwin axis hdiff with ⟨hab, heq⟩ | ⟨hba, heq⟩
      · exact Or.inl ⟨Or.inl hab, axis, heq⟩
      · exact Or.inr (Or.inl ⟨Or.inl hba, axis, heq⟩)
  · next hsame =>
      have htied : Tied R a b := not_or.1 fun hor => hsame (hdiffer.2 hor)
      rcases h with ⟨hab, hverdict⟩ | ⟨hba, hverdict⟩ | ⟨hnone, hverdict⟩
      · exact Or.inl ⟨Or.inr ⟨htied, hab⟩, hverdict⟩
      · exact Or.inr (Or.inl ⟨Or.inr ⟨htied.symm, hba⟩, hverdict⟩)
      · refine Or.inr (Or.inr ⟨⟨?_, ?_⟩, hverdict⟩)
        · rintro (hab | ⟨-, hab⟩)
          · exact htied.1 hab
          · exact hnone.1 hab
        · rintro (hba | ⟨-, hba⟩)
          · exact htied.2 hba
          · exact hnone.2 hba

end SpeaksFor

/-- A score that differs by more than the tolerance is larger for the one preferred. -/
theorem lt_stdAbs_iff {tolerance : ℚ} (htolerance : 0 ≤ tolerance) (f : Scorecard ℚ → ℚ)
    (a b : Scorecard ℚ) :
    (tolerance < stdAbs (f a - f b) ↔ Exceeds tolerance f a b ∨ Exceeds tolerance f b a) ∧
      (tolerance < stdAbs (f a - f b) → (f b < f a ↔ Exceeds tolerance f a b)) := by
  have hiff : tolerance < stdAbs (f a - f b) ↔
      Exceeds tolerance f a b ∨ Exceeds tolerance f b a := by
    rw [stdAbs_eq, lt_abs, neg_sub]
    rfl
  refine ⟨hiff, fun h => ⟨fun hlt => (hiff.1 h).resolve_right fun hba => ?_, fun hab => ?_⟩⟩
  · exact absurd (lt_of_le_of_lt htolerance hba) (not_lt.2 (sub_nonpos.2 hlt.le))
  · exact sub_pos.1 (lt_of_le_of_lt htolerance hab)

/-- **The verdict speaks for the preference.** -/
theorem overallVerdict_cases (a b : Scorecard ℚ) :
    SpeaksFor Preferred a b (overallVerdict rationalOf a b) := by
  obtain ⟨hconf, hconfWin⟩ := lt_stdAbs_iff conformanceTolerance_nonneg
    Scorecard.conformanceScore a b
  obtain ⟨hres, hresWin⟩ := lt_stdAbs_iff resilienceTolerance_nonneg
    Scorecard.resilienceIndex a b
  have hscores := (speaksFor_last hres hresWin .resilience).lexicographic hconf hconfWin
    .conformance
  have hmust := hscores.lexicographic (R := FewerMustFailures) lt_or_lt_iff_ne.symm
    (fun _ => Iff.rfl) .mustFailures
  exact hmust.lexicographic (R := FewerViolations) lt_or_lt_iff_ne.symm (fun _ => Iff.rfl)
    .integrity

/-- The verdict names the first implementation as superior. -/
def Beats (a b : Scorecard ℚ) : Prop :=
  ∃ axis, overallVerdict rationalOf a b = superiority axis (htmlEscape a.implementationName)

/-- One implementation beats another one of another name if it is preferred to it. -/
theorem beats_iff {a b : Scorecard ℚ} (hname : a.implementationName ≠ b.implementationName) :
    Beats a b ↔ Preferred a b := by
  rcases overallVerdict_cases a b with ⟨hab, hverdict⟩ | ⟨hba, axis', hverdict⟩ | ⟨hnone, hverdict⟩
  · exact iff_of_true hverdict hab
  · refine iff_of_false ?_ fun hab => hab.asymm hba
    rintro ⟨axis, hbeats⟩
    have hsame := (superiority_inj (hbeats.symm.trans hverdict)).2
    exact hname (htmlEscape_injective hsame)
  · refine iff_of_false ?_ hnone.1
    rintro ⟨axis, hbeats⟩
    exact superiority_ne_evenlyMatched axis _ (hbeats.symm.trans hverdict)

/-- **The verdict does not depend on the order of the two.** -/
theorem overallVerdict_comm (a b : Scorecard ℚ) :
    overallVerdict rationalOf a b = overallVerdict rationalOf b a := by
  have hpick {β : Type} [LinearOrder β] {x y : β} (h : x ≠ y) (card card' : Scorecard ℚ) :
      (if x < y then card else card') = if y < x then card' else card := by
    rcases lt_or_gt_of_ne h with hlt | hlt
    · rw [if_pos hlt, if_neg (not_lt.2 hlt.le)]
    · rw [if_neg (not_lt.2 hlt.le), if_pos hlt]
  have habs (x y : ℚ) : stdAbs (x - y) = stdAbs (y - x) := by
    rw [stdAbs_eq, stdAbs_eq, abs_sub_comm]
  have hne {tolerance x y : ℚ} (htolerance : 0 ≤ tolerance)
      (h : tolerance < stdAbs (y - x)) : x ≠ y := by
    rintro rfl
    rw [sub_self, stdAbs_eq, abs_zero] at h
    exact not_lt.2 htolerance h
  unfold overallVerdict
  split
  · next hviolations =>
      rw [if_pos hviolations.symm]
      simp only [hpick hviolations]
  next hviolations =>
  rw [if_neg fun h => hviolations (Ne.symm h)]
  split
  · next hmust =>
      rw [if_pos hmust.symm]
      simp only [hpick hmust]
  next hmust =>
  rw [if_neg fun h => hmust (Ne.symm h), habs b.conformanceScore, habs b.resilienceIndex]
  split
  · next hconf => simp only [hpick (hne conformanceTolerance_nonneg hconf)]
  next hconf =>
  split
  · next hres => simp only [hpick (hne resilienceTolerance_nonneg hres)]
  · rfl

/-- **What the verdict orders.**  It is symmetric, so that at most one of two implementations beats
the other; and beating is transitive among three implementations, unless their counts are the same
and two near ties in conformance among them leave the third pair apart. -/
theorem verdict_orders :
    (∀ a b, overallVerdict rationalOf a b = overallVerdict rationalOf b a) ∧
      (∀ a b : Scorecard ℚ, a.implementationName ≠ b.implementationName → Beats a b →
        ¬ Beats b a) ∧
      ∀ a b c : Scorecard ℚ, a.implementationName ≠ b.implementationName →
        b.implementationName ≠ c.implementationName →
        a.implementationName ≠ c.implementationName →
        (SameCounts a b → SameCounts b c → TiesClose NearTie a b c) →
        Beats a b → Beats b c → Beats a c ∧ ¬ Beats c a := by
  have hasymm (a b : Scorecard ℚ) (hname : a.implementationName ≠ b.implementationName)
      (hab : Beats a b) : ¬ Beats b a := by
    intro hba
    exact ((beats_iff hname).1 hab).asymm ((beats_iff hname.symm).1 hba)
  refine ⟨overallVerdict_comm, hasymm, fun a b c hname hname' hname'' hclose hab hbc => ?_⟩
  have hac : Beats a c := (beats_iff hname'').2
    (((beats_iff hname).1 hab).trans hclose ((beats_iff hname').1 hbc))
  exact ⟨hac, hasymm a c hname'' hac⟩

end Ordering

/-- A scorecard with two scores, no failures and no records. -/
def scoredCard (name : Bytes) (conformanceScore resilienceIndex : ℚ) : Scorecard ℚ :=
  { plainScorecard [] with implementationName := name, conformanceScore, resilienceIndex }

/-- The first of three implementations beats the second by conformance and the second the third by
resilience. -/
theorem verdict_orders_scored :
    Beats (scoredCard (text "A") 90 0) (scoredCard (text "C") 80 0) ∧
      ¬ Beats (scoredCard (text "C") 80 0) (scoredCard (text "A") 90 0) := by
  refine verdict_orders.2.2 (scoredCard (text "A") 90 0) (scoredCard (text "B") 80 1)
    (scoredCard (text "C") 80 0) (by decide) (by decide) (by decide) (fun _ _ => ⟨?_, ?_, ?_⟩)
    ⟨.conformance, by decide +kernel⟩ ⟨.resilience, by decide +kernel⟩
  · exact fun h => absurd h (by decide +kernel)
  · exact fun h => absurd h (by decide +kernel)
  · exact fun h => absurd h (by decide +kernel)

/-- **Three implementations that beat each other in a circle**, two by resilience and the last one
by the conformance that two near ties add up to. -/
theorem verdict_cycle :
    Beats (scoredCard (text "A") 0 1) (scoredCard (text "B") (1 / 25) (1 / 2)) ∧
      Beats (scoredCard (text "B") (1 / 25) (1 / 2)) (scoredCard (text "C") (2 / 25) 0) ∧
      Beats (scoredCard (text "C") (2 / 25) 0) (scoredCard (text "A") 0 1) ∧
      ¬ Beats (scoredCard (text "A") 0 1) (scoredCard (text "C") (2 / 25) 0) := by
  refine ⟨⟨.resilience, by decide +kernel⟩, ⟨.resilience, by decide +kernel⟩,
    ⟨.conformance, by decide +kernel⟩, ?_⟩
  rintro ⟨axis, h⟩
  cases axis <;> exact absurd h (by decide +kernel)

end TftpHarness
