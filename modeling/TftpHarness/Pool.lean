/-
**A pool of tasks that share data.**

A server that handles every request in a thread of its own is a growing list of tasks over shared
data.  Any task may take its next step at any time.  A schedule, a list of labels, decides who does,
and the system is executable, so a schedule is also a test.

Nothing here is about a particular server.

Main definitions:

* `Pool.Tasks`, `Pool.State`, `Pool.Label` — how tasks start and act, the system and its events;
* `Pool.step`, `Pool.run`, `Pool.StepsMeet` — the runs, and a condition on every step of one.

Main results:

* `Pool.step_cases` — everything one step can do;
* `Pool.run_append` — a run goes on from where its first part has led;
* `Pool.run_invariant` — **the run rule**.
-/

import Mathlib.Data.List.Basic

set_option relaxedAutoImplicit false
set_option autoImplicit false

namespace Pool

/-- How a task starts, from what it is given, and how it acts on the shared data; `none` when it
cannot act so.  Both say what is sent. -/
structure Tasks (ς τ ι ε ω : Type*) where
  start : ι → τ × List ω
  act : ς → τ → ε → Option (ς × τ × List ω)

/-- The shared data, the tasks in the order of their start, and everything sent. -/
structure State (ς τ ω : Type*) where
  shared : ς
  tasks : List τ := []
  sent : List ω := []

/-- One event of a schedule. -/
inductive Label (ι ε : Type*)
  | start (given : ι)
  | act (k : ℕ) (action : ε)

variable {ς τ ι ε ω : Type*} (P : Tasks ς τ ι ε ω)

/-- The effect of one event; `none` when there is no such task, or it cannot act so. -/
def step (st : State ς τ ω) : Label ι ε → Option (State ς τ ω)
  | .start given => some { st with
      tasks := st.tasks ++ [(P.start given).1]
      sent := st.sent ++ (P.start given).2 }
  | .act k action =>
      st.tasks[k]?.bind fun task => (P.act st.shared task action).map fun r =>
        ⟨r.1, st.tasks.set k r.2.1, st.sent ++ r.2.2⟩

/-- The state a schedule leads to. -/
def run (st : State ς τ ω) : List (Label ι ε) → Option (State ς τ ω)
  | [] => some st
  | l :: ls => (step P st l).bind fun st' => run st' ls

/-- Every step of a run meets a condition on its label and the state before it. -/
def StepsMeet (C : State ς τ ω → Label ι ε → Prop) (st : State ς τ ω) : List (Label ι ε) → Prop
  | [] => True
  | l :: ls => C st l ∧ ∀ st', step P st l = some st' → StepsMeet C st' ls

instance decidableStepsMeet (C : State ς τ ω → Label ι ε → Prop) [∀ st l, Decidable (C st l)] :
    ∀ (ls : List (Label ι ε)) (st : State ς τ ω), Decidable (StepsMeet P C st ls)
  | [], _ => isTrue trivial
  | l :: ls, st =>
      match h : step P st l with
      | none => decidable_of_iff (C st l)
          ⟨fun hc => ⟨hc, fun st' hst' => by rw [h] at hst'; cases hst'⟩, And.left⟩
      | some st' =>
          have := decidableStepsMeet C ls st'
          decidable_of_iff (C st l ∧ StepsMeet P C st' ls)
            ⟨fun hc => ⟨hc.1, fun next hnext => by
                cases Option.some.inj (h.symm.trans hnext)
                exact hc.2⟩,
              fun hc => ⟨hc.1, hc.2 st' h⟩⟩

variable {P}

/-- **Everything one step can do**: a task starts, or a task acts. -/
theorem step_cases {st st' : State ς τ ω} {l : Label ι ε} (h : step P st l = some st') :
    (∃ given, l = .start given ∧ st'.shared = st.shared ∧
      st'.tasks = st.tasks ++ [(P.start given).1]) ∨
    (∃ k action task task' sends, l = .act k action ∧ st.tasks[k]? = some task ∧
      P.act st.shared task action = some (st'.shared, task', sends) ∧
      st'.tasks = st.tasks.set k task') := by
  cases l with
  | start given =>
      cases Option.some.inj h
      exact Or.inl ⟨given, rfl, rfl, rfl⟩
  | act k action =>
      obtain ⟨task, htask, hact⟩ := Option.bind_eq_some_iff.1 h
      obtain ⟨⟨shared, task', sends⟩, hr, rfl⟩ := Option.map_eq_some_iff.1 hact
      exact Or.inr ⟨k, action, task, task', sends, rfl, htask, hr, rfl⟩

/-- A run goes on from where its first part has led. -/
theorem run_append (st : State ς τ ω) (before after : List (Label ι ε)) :
    run P st (before ++ after) = (run P st before).bind fun st' => run P st' after := by
  induction before generalizing st with
  | nil => rfl
  | cons l before ih =>
      simp only [List.cons_append, run]
      cases step P st l with
      | none => rfl
      | some st' => exact ih st'

/-- The steps after the first part of a run meet what all its steps meet. -/
theorem StepsMeet.append {C : State ς τ ω → Label ι ε → Prop} {st st' : State ς τ ω}
    {before after : List (Label ι ε)} (h : StepsMeet P C st (before ++ after))
    (hrun : run P st before = some st') :
    StepsMeet P C st before ∧ StepsMeet P C st' after := by
  induction before generalizing st with
  | nil =>
      cases Option.some.inj hrun
      exact ⟨trivial, h⟩
  | cons l before ih =>
      obtain ⟨mid, hmid, hrest⟩ := Option.bind_eq_some_iff.1 hrun
      refine ⟨⟨h.1, fun next hnext => ?_⟩, (ih (h.2 mid hmid) hrest).2⟩
      cases Option.some.inj (hmid.symm.trans hnext)
      exact (ih (h.2 mid hmid) hrest).1

/-- **The run rule.** -/
theorem run_invariant {C : State ς τ ω → Label ι ε → Prop} {I : State ς τ ω → Prop}
    (hstep : ∀ st l st', C st l → I st → step P st l = some st' → I st')
    {ls : List (Label ι ε)} {st st' : State ς τ ω} (hmeet : StepsMeet P C st ls) (hst : I st)
    (h : run P st ls = some st') : I st' := by
  induction ls generalizing st with
  | nil =>
      cases Option.some.inj h
      exact hst
  | cons l ls ih =>
      obtain ⟨mid, hmid, hrest⟩ := Option.bind_eq_some_iff.1 h
      exact ih (hmeet.2 mid hmid) (hstep st l mid hmeet.1 hst hmid) hrest

/-- A task that can no longer act stays as it is. -/
theorem run_task {ls : List (Label ι ε)} {st st' : State ς τ ω} {k : ℕ} {task : τ}
    (hdone : ∀ shared action, P.act shared task action = none) (hk : st.tasks[k]? = some task)
    (h : run P st ls = some st') : st'.tasks[k]? = some task := by
  induction ls generalizing st with
  | nil =>
      cases Option.some.inj h
      exact hk
  | cons l ls ih =>
      obtain ⟨mid, hmid, hrest⟩ := Option.bind_eq_some_iff.1 h
      refine ih ?_ hrest
      rcases step_cases hmid with ⟨given, -, -, htasks⟩ | ⟨j, action, other, other', sends, -, hj,
        hact, htasks⟩
      · rw [htasks, List.getElem?_append_left (List.getElem?_eq_some_iff.1 hk).1]
        exact hk
      · by_cases hjk : j = k
        · subst hjk
          cases Option.some.inj (hj.symm.trans hk)
          rw [hdone] at hact
          cases hact
        · rw [htasks, List.getElem?_set_ne hjk]
          exact hk

end Pool
