/-
**Dialogues.**

A dialogue is a computation that asks queries and goes on with the answers, until it is done.  It
can be fed with a list of answers, or handled by whoever can answer a query and has a state of its
own. What a handler makes of a dialogue is what feeding the handler's answers makes of it, so that
a fact about all answers is a fact about every handler.

Main definitions:

* `Dialogue` — dialogues, a monad;
* `Dialogue.feed`, `Dialogue.handle` — feeding answers, and handling.

Main results:

* `Dialogue.feed_bind` — feeding a sequence of two dialogues;
* `Dialogue.feed_handle` — **a handler feeds its answers**.
-/

import Mathlib.Data.Nat.Notation

set_option relaxedAutoImplicit false
set_option autoImplicit false

/-- **A dialogue**: done with a value, or a query and how it goes on. -/
inductive Dialogue (Query Answer α : Type)
  | done (value : α)
  | ask (query : Query) (next : Answer → Dialogue Query Answer α)

namespace Dialogue

variable {Query Answer α β σ : Type}

/-- One dialogue after the other. -/
def bind : Dialogue Query Answer α → (α → Dialogue Query Answer β) → Dialogue Query Answer β
  | done value, f => f value
  | ask query next, f => ask query fun answer => (next answer).bind f

instance : Monad (Dialogue Query Answer) where
  pure := done
  bind := bind

/-! ### Feeding -/

/-- The value of a dialogue fed with answers, with the answers left over; `none` when it asks for
more. -/
def feed : Dialogue Query Answer α → List Answer → Option (α × List Answer)
  | done value, answers => some (value, answers)
  | ask _ _, [] => none
  | ask _ next, answer :: answers => (next answer).feed answers

@[simp] theorem feed_pure (value : α) (answers : List Answer) :
    (pure value : Dialogue Query Answer α).feed answers = some (value, answers) := by
  cases answers <;> rfl

/-- **Feeding a sequence**: the first dialogue takes what it asks for, the second the rest. -/
theorem feed_bind (d : Dialogue Query Answer α) (f : α → Dialogue Query Answer β) :
    ∀ answers, (d >>= f).feed answers =
      (d.feed answers).bind fun fed => (f fed.1).feed fed.2 := by
  induction d with
  | done value =>
      intro answers
      cases answers <;> rfl
  | ask query next ih =>
      intro answers
      cases answers with
      | nil => rfl
      | cons answer answers => exact ih answer answers

/-! ### Handling -/

variable (handler : Query → σ → Answer × σ)

/-- The dialogue with a handler: its value, the answers given, and the handler's state after it. -/
def handle : Dialogue Query Answer α → σ → (α × List Answer) × σ
  | done value, s => ((value, []), s)
  | ask query next, s =>
      let (answer, s) := handler query s
      let ((value, answers), s) := (next answer).handle s
      ((value, answer :: answers), s)

/-- **A handler feeds its answers.** -/
theorem feed_handle (d : Dialogue Query Answer α) :
    ∀ s, d.feed (d.handle handler s).1.2 = some ((d.handle handler s).1.1, []) := by
  induction d with
  | done value => intro s; rfl
  | ask query next ih => intro s; exact ih (handler query s).1 (handler query s).2

end Dialogue
