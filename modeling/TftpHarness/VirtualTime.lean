/-
**Two parties in virtual time.**

Two reactive parties are joined by links that carry a message in no time, and a reaction takes no
time either.  So time passes only while every running party waits in a receive without a message,
and it passes up to the moment when the patience of one of them ends.  A receive times out exactly
when no message arrives within its patience: a message that arrives at the last moment is still
received.  When the patience of both parties ends at one moment, the party whose timeout makes it
send is therefore the one that times out, and the other receives what it sends; only if both would
send, or none, it is open who is first.

One message can be lost: what the right party sends in a reaction that a given predicate picks out.
The state remembers whether that has happened.

Nothing here is about a particular protocol.

Main definitions:

* `VirtualTime.Party` — a reactive party with the patience of its receives;
* `VirtualTime.State`, `VirtualTime.Next` — the joint system, and one event of it;
* `VirtualTime.Reachable` — the states of all runs.

Main results:

* `VirtualTime.exists_next` — time does not stand still while a party runs;
* `VirtualTime.invariant_of_reachable` — **the run rule**.
-/

import Mathlib.Logic.Relation
import TftpHarness.Duplex

set_option relaxedAutoImplicit false
set_option autoImplicit false

namespace VirtualTime

variable {α β μ ν : Type*}

/-- A reactive party that may return, and how long its next receive waits. -/
structure Party (σ μ ν : Type*) extends Duplex.Party σ μ ν where
  returned : σ → Bool
  patience : σ → ℕ

/-- The two parties, the messages between them, the time, and until when the two receives wait. -/
structure State (α β μ ν : Type*) extends Duplex.State α β μ ν where
  clock : ℕ
  leftDeadline : ℕ
  rightDeadline : ℕ
  lost : Bool

variable (A : Party α ν μ) (B : Party β μ ν) (loses : β → β → Bool)

/-- The left party reacts, and calls its next receive. -/
def reactLeft (st : State α β μ ν) (clock : ℕ) (toLeft : List ν) (reaction : α × List μ) :
    State α β μ ν :=
  { st with
    left := reaction.1
    toLeft := toLeft
    toRight := st.toRight ++ reaction.2
    clock := clock
    leftDeadline := clock + A.patience reaction.1 }

/-- The right party reacts, and calls its next receive.  What it sends may be lost. -/
def reactRight (st : State α β μ ν) (clock : ℕ) (toRight : List μ) (reaction : β × List ν) :
    State α β μ ν :=
  { st with
    right := reaction.1
    toRight := toRight
    toLeft := st.toLeft ++ if loses st.right reaction.1 then [] else reaction.2
    clock := clock
    rightDeadline := clock + B.patience reaction.1
    lost := st.lost || loses st.right reaction.1 }

/-- No running party has a message to receive. -/
def Quiet (st : State α β μ ν) : Prop :=
  (A.returned st.left = true ∨ st.toLeft = []) ∧ (B.returned st.right = true ∨ st.toRight = [])

/-- The patience of the left party ends first, or with that of the right party, which is not sent
anything only to send something itself. -/
def LeftTimesOut (st : State α β μ ν) : Prop :=
  A.returned st.left = false ∧ Quiet A B st ∧
    (B.returned st.right = true ∨ st.leftDeadline < st.rightDeadline ∨
      st.leftDeadline = st.rightDeadline ∧
        ((A.timeout st.left).2 ≠ [] ∨ (B.timeout st.right).2 = []))

/-- The patience of the right party ends first, or with that of the left party. -/
def RightTimesOut (st : State α β μ ν) : Prop :=
  B.returned st.right = false ∧ Quiet A B st ∧
    (A.returned st.left = true ∨ st.rightDeadline < st.leftDeadline ∨
      st.rightDeadline = st.leftDeadline ∧
        ((B.timeout st.right).2 ≠ [] ∨ (A.timeout st.left).2 = []))

/-- **One event**: a running party receives the oldest message for it, or times out. -/
inductive Next (st : State α β μ ν) : State α β μ ν → Prop
  | receiveLeft {m : ν} {rest : List ν} (running : A.returned st.left = false)
      (waiting : st.toLeft = m :: rest) :
      Next st (reactLeft A st st.clock rest (A.receive st.left m))
  | receiveRight {m : μ} {rest : List μ} (running : B.returned st.right = false)
      (waiting : st.toRight = m :: rest) :
      Next st (reactRight B loses st st.clock rest (B.receive st.right m))
  | timeoutLeft (late : LeftTimesOut A B st) :
      Next st (reactLeft A st st.leftDeadline st.toLeft (A.timeout st.left))
  | timeoutRight (late : RightTimesOut A B st) :
      Next st (reactRight B loses st st.rightDeadline st.toRight (B.timeout st.right))

/-- The states of all runs from a start. -/
def Reachable (start st : State α β μ ν) : Prop :=
  Relation.ReflTransGen (Next A B loses) start st

variable {A B loses} {st : State α β μ ν}

/-- **Time does not stand still while a party runs.** -/
theorem exists_next (h : A.returned st.left = false ∨ B.returned st.right = false) :
    ∃ t, Next A B loses st t := by
  by_cases hquiet : Quiet A B st
  · cases hleft : A.returned st.left with
    | true =>
        have hright := h.resolve_left (by simp [hleft])
        exact ⟨_, .timeoutRight ⟨hright, hquiet, Or.inl hleft⟩⟩
    | false =>
        cases hright : B.returned st.right with
        | true => exact ⟨_, .timeoutLeft ⟨hleft, hquiet, Or.inl hright⟩⟩
        | false =>
            rcases Nat.lt_trichotomy st.leftDeadline st.rightDeadline with hlt | heq | hgt
            · exact ⟨_, .timeoutLeft ⟨hleft, hquiet, Or.inr (Or.inl hlt)⟩⟩
            · -- whoever sends something is the one that times out
              by_cases hsends : (A.timeout st.left).2 = []
              · exact ⟨_, .timeoutRight
                  ⟨hright, hquiet, Or.inr (Or.inr ⟨heq.symm, Or.inr hsends⟩)⟩⟩
              · exact ⟨_, .timeoutLeft
                  ⟨hleft, hquiet, Or.inr (Or.inr ⟨heq, Or.inl hsends⟩)⟩⟩
            · exact ⟨_, .timeoutRight ⟨hright, hquiet, Or.inr (Or.inl hgt)⟩⟩
  · rw [Quiet, not_and_or, not_or, not_or] at hquiet
    rcases hquiet with ⟨hrunning, hwaiting⟩ | ⟨hrunning, hwaiting⟩
    · obtain ⟨m, rest, hrest⟩ := List.exists_cons_of_ne_nil hwaiting
      exact ⟨_, .receiveLeft (eq_false_of_ne_true hrunning) hrest⟩
    · obtain ⟨m, rest, hrest⟩ := List.exists_cons_of_ne_nil hwaiting
      exact ⟨_, .receiveRight (eq_false_of_ne_true hrunning) hrest⟩

/-- A running left party with a message does not let time pass. -/
theorem not_quiet_of_toLeft (hrunning : A.returned st.left = false) (hwaiting : st.toLeft ≠ []) :
    ¬ Quiet A B st := by
  rintro ⟨hreturned | hnil, -⟩
  · exact absurd (hrunning.symm.trans hreturned) (by decide)
  · exact hwaiting hnil

/-- A running right party with a message does not let time pass. -/
theorem not_quiet_of_toRight (hrunning : B.returned st.right = false)
    (hwaiting : st.toRight ≠ []) : ¬ Quiet A B st := by
  rintro ⟨-, hreturned | hnil⟩
  · exact absurd (hrunning.symm.trans hreturned) (by decide)
  · exact hwaiting hnil

/-- **The run rule**: what holds at the start and is preserved by every event holds in every
reachable state. -/
theorem invariant_of_reachable {start : State α β μ ν} {I : State α β μ ν → Prop}
    (hstart : I start) (hstep : ∀ s t, I s → Next A B loses s t → I t)
    (h : Reachable A B loses start st) : I st := by
  induction h with
  | refl => exact hstart
  | tail _ hnext ih => exact hstep _ _ ih hnext

end VirtualTime
