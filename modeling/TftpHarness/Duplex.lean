/-
**Two reactive parties joined by unreliable links.**

A protocol engine between two of its receives is a function: it takes a message, or the news that
none came in time, to a new state and the messages it sends.  This module joins two such parties by
one link in each direction and lets a *schedule* — a list of labels — decide everything else: which
message in transit is delivered next, which are lost or repeated, and when a party's receive times
out.  The system is executable, so a schedule is also a test, and the disciplines a link may obey
are predicates on labels: a link that delivers in order only ever delivers its first message.

A party's sends of one reaction enter the link together.  This loses no interleaving: a message may
wait in transit for as long as the schedule likes, so delivering it only after a later event is the
same as sending it only then.

Nothing here is about a particular protocol.

Main definitions:

* `Duplex.Party` — a reactive party;
* `Duplex.State`, `Duplex.Label`, `Duplex.step`, `Duplex.run` — the joint system and its runs;
* `Duplex.Label.InOrder`, `Duplex.Label.Lossless` — first-in first-out links, and links that also
  lose nothing and let nobody time out;
* `Duplex.duplicateIdx`, `Duplex.Disturbed` — repeating a message in place, and everything a link
  may do to what it carries.

Main results:

* `Duplex.step_cases` — everything one step can do;
* `Duplex.run_invariant` — **the run rule**: what every allowed step preserves holds along every
  allowed run.
-/

import Mathlib.Data.Nat.Notation
import Mathlib.Data.List.Basic

set_option relaxedAutoImplicit false
set_option autoImplicit false

namespace Duplex

variable {α β μ ν : Type*}

/-! ### Losing and repeating messages -/

/-- Repeat the message at position `i`, next to the original. -/
def duplicateIdx (q : List μ) (i : ℕ) : List μ :=
  match q, i with
  | [], _ => []
  | m :: q, 0 => m :: m :: q
  | m :: q, i + 1 => m :: duplicateIdx q i

@[simp] theorem mem_duplicateIdx {q : List μ} {i : ℕ} {m : μ} :
    m ∈ duplicateIdx q i ↔ m ∈ q := by
  induction q generalizing i with
  | nil => simp [duplicateIdx]
  | cons a q ih =>
      cases i with
      | zero => simp [duplicateIdx]
      | succ i => simp [duplicateIdx, ih]

/-- A relation between earlier and later messages survives a repetition when it relates every
message to itself. -/
theorem pairwise_duplicateIdx {R : μ → μ → Prop} {q : List μ} (i : ℕ) (h : q.Pairwise R)
    (hr : ∀ m ∈ q, R m m) : (duplicateIdx q i).Pairwise R := by
  induction q generalizing i with
  | nil => simp [duplicateIdx]
  | cons a q ih =>
      rw [List.pairwise_cons] at h
      cases i with
      | zero =>
          simp only [duplicateIdx, List.pairwise_cons, List.mem_cons, forall_eq_or_imp]
          exact ⟨⟨hr a (by simp), h.1⟩, h.1, h.2⟩
      | succ i =>
          simp only [duplicateIdx, List.pairwise_cons, mem_duplicateIdx]
          exact ⟨h.1, ih i h.2 fun m hm => hr m (List.mem_cons_of_mem _ hm)⟩

/-- The message that is delivered in order is the oldest in transit. -/
theorem exists_cons_of_getElem?_zero {q : List μ} {m : μ} (h : q[0]? = some m) :
    ∃ rest, q = m :: rest := by
  cases q with
  | nil => exact absurd h (by simp)
  | cons a rest => exact ⟨rest, by rw [Option.some.inj h]⟩

/-- What a link may do to the messages it carries, delivery apart: nothing, lose one, or repeat
one. -/
def Disturbed (q q' : List μ) : Prop :=
  q' = q ∨ (∃ i, q' = q.eraseIdx i) ∨ ∃ i, q' = duplicateIdx q i

/-- A link invents no message. -/
theorem Disturbed.mem {q q' : List μ} (h : Disturbed q q') {m : μ} (hm : m ∈ q') : m ∈ q := by
  rcases h with rfl | ⟨i, rfl⟩ | ⟨i, rfl⟩
  · exact hm
  · exact List.mem_of_mem_eraseIdx hm
  · exact mem_duplicateIdx.1 hm

/-- A link does not reorder what it carries. -/
theorem Disturbed.pairwise {R : μ → μ → Prop} {q q' : List μ} (h : Disturbed q q')
    (hq : q.Pairwise R) (hr : ∀ m ∈ q, R m m) : q'.Pairwise R := by
  rcases h with rfl | ⟨i, rfl⟩ | ⟨i, rfl⟩
  · exact hq
  · exact hq.sublist (List.eraseIdx_sublist q i)
  · exact pairwise_duplicateIdx i hq hr

/-! ### The joint system -/

/-- A reactive party with states `σ` that receives messages `μ` and sends messages `ν`. -/
structure Party (σ μ ν : Type*) where
  /-- Reaction to a message. -/
  receive : σ → μ → σ × List ν
  /-- Reaction to a receive that timed out. -/
  timeout : σ → σ × List ν

/-- The two parties and the messages in transit each way, oldest first. -/
structure State (α β μ ν : Type*) where
  left : α
  right : β
  toRight : List μ
  toLeft : List ν

/-- One event of a schedule.  A position counts from the oldest message in transit. -/
inductive Label
  | receiveRight (i : ℕ)
  | receiveLeft (i : ℕ)
  | dropRight (i : ℕ)
  | dropLeft (i : ℕ)
  | duplicateRight (i : ℕ)
  | duplicateLeft (i : ℕ)
  | timeoutRight
  | timeoutLeft
  deriving DecidableEq, Repr

/-- Delivery in the order of sending.  Losses and repetitions in place remain possible. -/
def Label.InOrder : Label → Prop
  | .receiveRight i => i = 0
  | .receiveLeft i => i = 0
  | _ => True

/-- Delivery exactly once, in order, and before any timeout. -/
def Label.Lossless : Label → Prop
  | .receiveRight i => i = 0
  | .receiveLeft i => i = 0
  | _ => False

variable (A : Party α ν μ) (B : Party β μ ν)

/-- The effect of one event; `none` when there is no message at the position it names. -/
def step (s : State α β μ ν) : Label → Option (State α β μ ν)
  | .receiveRight i => s.toRight[i]?.map fun m =>
      { s with right := (B.receive s.right m).1, toRight := s.toRight.eraseIdx i,
               toLeft := s.toLeft ++ (B.receive s.right m).2 }
  | .receiveLeft i => s.toLeft[i]?.map fun m =>
      { s with left := (A.receive s.left m).1, toLeft := s.toLeft.eraseIdx i,
               toRight := s.toRight ++ (A.receive s.left m).2 }
  | .dropRight i => some { s with toRight := s.toRight.eraseIdx i }
  | .dropLeft i => some { s with toLeft := s.toLeft.eraseIdx i }
  | .duplicateRight i => some { s with toRight := duplicateIdx s.toRight i }
  | .duplicateLeft i => some { s with toLeft := duplicateIdx s.toLeft i }
  | .timeoutRight =>
      some { s with right := (B.timeout s.right).1,
                    toLeft := s.toLeft ++ (B.timeout s.right).2 }
  | .timeoutLeft =>
      some { s with left := (A.timeout s.left).1,
                    toRight := s.toRight ++ (A.timeout s.left).2 }

/-- The state a schedule leads to. -/
def run (s : State α β μ ν) : List Label → Option (State α β μ ν)
  | [] => some s
  | l :: ls => (step A B s l).bind fun s' => run s' ls

variable {A B}

/-- **Everything one step can do.** -/
theorem step_cases {s s' : State α β μ ν} {l : Label} (h : step A B s l = some s') :
    (∃ i m, l = .receiveRight i ∧ s.toRight[i]? = some m ∧
      s' = { s with right := (B.receive s.right m).1, toRight := s.toRight.eraseIdx i,
                    toLeft := s.toLeft ++ (B.receive s.right m).2 }) ∨
    (∃ i m, l = .receiveLeft i ∧ s.toLeft[i]? = some m ∧
      s' = { s with left := (A.receive s.left m).1, toLeft := s.toLeft.eraseIdx i,
                    toRight := s.toRight ++ (A.receive s.left m).2 }) ∨
    (∃ q q', Disturbed s.toRight q ∧ Disturbed s.toLeft q' ∧
      s' = { s with toRight := q, toLeft := q' }) ∨
    (l = .timeoutRight ∧ s' = { s with right := (B.timeout s.right).1,
                                       toLeft := s.toLeft ++ (B.timeout s.right).2 }) ∨
    (l = .timeoutLeft ∧ s' = { s with left := (A.timeout s.left).1,
                                      toRight := s.toRight ++ (A.timeout s.left).2 }) := by
  cases l with
  | receiveRight i =>
      obtain ⟨m, hm, rfl⟩ := Option.map_eq_some_iff.1 h
      exact Or.inl ⟨i, m, rfl, hm, rfl⟩
  | receiveLeft i =>
      obtain ⟨m, hm, rfl⟩ := Option.map_eq_some_iff.1 h
      exact Or.inr (Or.inl ⟨i, m, rfl, hm, rfl⟩)
  | dropRight i =>
      cases Option.some.inj h
      exact Or.inr (Or.inr (Or.inl ⟨_, _, Or.inr (Or.inl ⟨i, rfl⟩), Or.inl rfl, rfl⟩))
  | dropLeft i =>
      cases Option.some.inj h
      exact Or.inr (Or.inr (Or.inl ⟨_, _, Or.inl rfl, Or.inr (Or.inl ⟨i, rfl⟩), rfl⟩))
  | duplicateRight i =>
      cases Option.some.inj h
      exact Or.inr (Or.inr (Or.inl ⟨_, _, Or.inr (Or.inr ⟨i, rfl⟩), Or.inl rfl, rfl⟩))
  | duplicateLeft i =>
      cases Option.some.inj h
      exact Or.inr (Or.inr (Or.inl ⟨_, _, Or.inl rfl, Or.inr (Or.inr ⟨i, rfl⟩), rfl⟩))
  | timeoutRight => exact Or.inr (Or.inr (Or.inr (Or.inl ⟨rfl, (Option.some.inj h).symm⟩)))
  | timeoutLeft => exact Or.inr (Or.inr (Or.inr (Or.inr ⟨rfl, (Option.some.inj h).symm⟩)))

/-- The oldest message to the right-hand party is delivered. -/
theorem step_receiveRight {s : State α β μ ν} {m : μ} {rest : List μ} (h : s.toRight = m :: rest) :
    step A B s (.receiveRight 0) =
      some { s with right := (B.receive s.right m).1, toRight := rest,
                    toLeft := s.toLeft ++ (B.receive s.right m).2 } := by
  simp only [step, h, List.getElem?_cons_zero, Option.map_some, List.eraseIdx_cons_zero]

/-- The oldest message to the left-hand party is delivered. -/
theorem step_receiveLeft {s : State α β μ ν} {m : ν} {rest : List ν} (h : s.toLeft = m :: rest) :
    step A B s (.receiveLeft 0) =
      some { s with left := (A.receive s.left m).1, toLeft := rest,
                    toRight := s.toRight ++ (A.receive s.left m).2 } := by
  simp only [step, h, List.getElem?_cons_zero, Option.map_some, List.eraseIdx_cons_zero]

/-- **The run rule**: what every allowed step preserves holds along every allowed run. -/
theorem run_invariant {allowed : Label → Prop} {I : State α β μ ν → Prop}
    (hstep : ∀ s l s', allowed l → I s → step A B s l = some s' → I s') :
    ∀ {ls : List Label} {s s' : State α β μ ν}, (∀ l ∈ ls, allowed l) → I s →
      run A B s ls = some s' → I s' := by
  intro ls
  induction ls with
  | nil =>
      intro s s' _ hs h
      cases Option.some.inj h
      exact hs
  | cons l ls ih =>
      intro s s' hall hs h
      obtain ⟨t, ht, hrest⟩ := Option.bind_eq_some_iff.1 h
      have hl : allowed l := hall l (by simp)
      exact ih (fun l' hl' => hall l' (List.mem_cons_of_mem _ hl')) (hstep s l t hl hs ht) hrest

/-- The run rule for schedules without restrictions. -/
theorem run_invariant_any {I : State α β μ ν → Prop}
    (hstep : ∀ s l s', I s → step A B s l = some s' → I s') {ls : List Label}
    {s s' : State α β μ ν} (hs : I s) (h : run A B s ls = some s') : I s' :=
  run_invariant (fun s l s' (_ : True) => hstep s l s') (fun _ _ => trivial) hs h

end Duplex
