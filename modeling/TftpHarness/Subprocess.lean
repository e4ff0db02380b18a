/-
**Running an external client.**

`run_subprocess` forks a command-line client and reads its output from a pipe while it waits for the
client to end, `adapters/subprocess_client_adapter.cpp`.  The client, and whatever it has started,
goes on by itself: it writes, closes its output and ends when it likes.  A schedule decides who is
next.

The parent looks for the end of the client, then reads until the end of the output, then looks at
the clock.  A read from the pipe blocks while somebody can still write to it.  So nothing that is
written gets lost, and no child is left behind; but the clock is looked at only once the output has
been closed, and a client that hangs with its output open hangs the call.

Main definitions:

* `TftpHarness.ChildState`, `TftpHarness.ParentState`, `TftpHarness.SubprocessState` — the two
  sides;
* `TftpHarness.SubprocessState.step`, `TftpHarness.SubprocessState.run` — the call, one event after
  the other;
* `TftpHarness.clientResult` — what the adapter makes of a call;
* `TftpHarness.SubprocessState.Consistent` — the invariant.

Main results:

* `TftpHarness.run_subprocess_returned` — **what a call returns**;
* `TftpHarness.run_subprocess_ends_iff` — **the timeout is enforced only when the output is
  closed**.
-/

import TftpHarness.Driver

set_option relaxedAutoImplicit false
set_option autoImplicit false

namespace TftpHarness

/-! ### The child and the parent -/

/-- How a process has ended. -/
inductive WaitStatus
  | exited (code : UInt8)
  | signalled
  deriving DecidableEq, Repr

/-- `WIFEXITED(status) ? WEXITSTATUS(status) : -1`. -/
def WaitStatus.exitCode : WaitStatus → ℤ
  | .exited code => code.toNat
  | .signalled => -1

structure SubprocessResult where
  exitCode : ℤ := -1
  timedOut : Bool := false
  launchFailed : Bool := false
  capturedOutput : Bytes := []
  duration : ℤ := 0
  deriving DecidableEq, Repr

/-- The child, and the pipe it shares with the processes it has started.  `written` is all that was
ever written to the pipe, `pipe` what has not been read yet. -/
structure ChildState where
  ended : Option WaitStatus := none
  reaped : Bool := false
  outputOpen : Bool := true
  pipe : Bytes := []
  written : Bytes := []
  deriving DecidableEq, Repr

/-- The parent: about to call `waitpid`, in the inner loop of reads, behind it, out of the loop, or
back.  Out of the loop without a status it has killed the child. -/
inductive ParentState
  | polling
  | draining (finished : Option WaitStatus)
  | checking (finished : Option WaitStatus)
  | closing (status : Option WaitStatus)
  | returned (result : SubprocessResult)
  deriving DecidableEq, Repr

structure SubprocessState where
  child : ChildState := {}
  parent : ParentState := .polling
  captured : Bytes := []
  deriving DecidableEq, Repr

/-- What can happen: the child or one of its processes writes, the last of them closes the output,
the child ends, or the parent takes a step at some time since the start. -/
inductive SubprocessEvent
  | write (bytes : Bytes)
  | closeOutput
  | exit (status : WaitStatus)
  | parent (clock : ℤ)
  deriving DecidableEq, Repr

/-- `run_subprocess` up to the fork: a call that cannot be launched, or the two processes. -/
def launchSubprocess (argv : List Bytes) (pipeOpened forked : Bool) :
    Except SubprocessResult SubprocessState :=
  if argv = [] then .error { launchFailed := true }
  else if ¬ pipeOpened then .error { launchFailed := true }
  else if ¬ forked then .error { launchFailed := true }
  else .ok {}

namespace SubprocessState

/-- The size of the buffer. -/
def bufferSize : ℕ := 1024

/-- One step of the parent. -/
def parentStep (timeout clock : ℤ) (s : SubprocessState) : SubprocessState :=
  match s.parent with
  | .polling =>
      match s.child.ended with
      | some status =>
          { s with child := { s.child with reaped := true }, parent := .draining (some status) }
      | none => { s with parent := .draining none }
  | .draining finished =>
      if s.child.pipe = [] then
        -- the read returns at the end of the output, and blocks before it
        if s.child.outputOpen then s else { s with parent := .checking finished }
      else
        { s with
          child := { s.child with pipe := s.child.pipe.drop bufferSize }
          captured := s.captured ++ s.child.pipe.take bufferSize }
  | .checking (some status) => { s with parent := .closing (some status) }
  | .checking none =>
      if timeout < clock then
        { s with
          child := { s.child with
            ended := some (s.child.ended.getD .signalled)
            reaped := true }
          parent := .closing none }
      else { s with parent := .polling }
  | .closing status =>
      { s with
        parent := .returned
          { exitCode := (status.map WaitStatus.exitCode).getD (-1)
            timedOut := status.isNone
            capturedOutput := s.captured
            duration := clock } }
  | .returned _ => s

/-- The effect of one event. -/
def step (timeout : ℤ) (s : SubprocessState) : SubprocessEvent → SubprocessState
  | .write bytes =>
      if s.child.outputOpen then
        { s with child := { s.child with
            pipe := s.child.pipe ++ bytes
            written := s.child.written ++ bytes } }
      else s
  | .closeOutput => { s with child := { s.child with outputOpen := false } }
  | .exit status =>
      { s with child := { s.child with ended := some (s.child.ended.getD status) } }
  | .parent clock => s.parentStep timeout clock

/-- The state a schedule leads to. -/
def run (timeout : ℤ) (s : SubprocessState) (schedule : List SubprocessEvent) :
    SubprocessState :=
  schedule.foldl (step timeout) s

end SubprocessState

/-- What `perform_read_request` and `perform_write_request` make of a call. -/
def clientResult (run : SubprocessResult) : TransferResult where
  processExitCode := some run.exitCode
  wallClockDuration := run.duration
  reportedErrorMessage := run.capturedOutput
  completedSuccessfully := !run.timedOut && !run.launchFailed && run.exitCode = 0

/-! ### The invariant -/

namespace SubprocessState

variable {timeout : ℤ} {s : SubprocessState} {late : Prop}

/-- Nobody can write any more, and all has been read. -/
structure Drained (child : ChildState) : Prop where
  closed : child.outputOpen = false
  empty : child.pipe = []

/-- The child has been waited for. -/
def Reaped (child : ChildState) (status : Option WaitStatus) : Prop :=
  child.reaped = true ∧ child.ended.isSome ∧ ∀ st, status = some st → child.ended = some st

/-- What the parent knows of the child, between `waitpid` and the end of the loop. -/
def Polled (child : ChildState) : Option WaitStatus → Prop
  | none => child.reaped = false
  | some status => Reaped child (some status)

/-- **The invariant.**  `late` is whether the clock may have passed the timeout. -/
structure Consistent (late : Prop) (s : SubprocessState) : Prop where
  output : s.child.written = s.captured ++ s.child.pipe
  polling : s.parent = .polling → s.child.reaped = false
  draining : ∀ finished, s.parent = .draining finished → Polled s.child finished
  checking : ∀ finished, s.parent = .checking finished →
    Drained s.child ∧ Polled s.child finished
  closing : ∀ status, s.parent = .closing status →
    Drained s.child ∧ Reaped s.child status ∧ (status = none → late)
  returned : ∀ result, s.parent = .returned result →
    Drained s.child ∧ s.child.reaped = true ∧ result.launchFailed = false ∧
      result.capturedOutput = s.captured ∧
      (result.timedOut = true → result.exitCode = -1 ∧ s.child.ended.isSome ∧ late) ∧
      (result.timedOut = false → ∃ status, s.child.ended = some status ∧
        result.exitCode = status.exitCode)

theorem consistent_start (late : Prop) : Consistent late {} := by
  refine ⟨rfl, fun _ => rfl, ?_, ?_, ?_, ?_⟩ <;> intro _ h <;> exact absurd h (by simp)

/-- The events of the child leave the parent where it is; they add to the output only what is in the
pipe, only while it is open, and do not end a child twice. -/
structure ChildMoves (child child' : ChildState) : Prop where
  output : ∀ captured, child.written = captured ++ child.pipe →
    child'.written = captured ++ child'.pipe
  reaped : child'.reaped = child.reaped
  closed : child.outputOpen = false → child'.outputOpen = false ∧ child'.pipe = child.pipe
  ended : ∀ status, child.ended = some status → child'.ended = some status

theorem ChildMoves.drained {child child' : ChildState} (h : ChildMoves child child')
    (hd : Drained child) : Drained child' :=
  ⟨(h.closed hd.closed).1, (h.closed hd.closed).2.trans hd.empty⟩

theorem ChildMoves.isSome {child child' : ChildState} (h : ChildMoves child child')
    (hs : child.ended.isSome) : child'.ended.isSome := by
  obtain ⟨status, hstatus⟩ := Option.isSome_iff_exists.1 hs
  rw [h.ended status hstatus]
  rfl

theorem ChildMoves.reapedAs {child child' : ChildState} (h : ChildMoves child child')
    {status : Option WaitStatus} (hr : Reaped child status) : Reaped child' status :=
  ⟨h.reaped.trans hr.1, h.isSome hr.2.1, fun st heq => h.ended st (hr.2.2 st heq)⟩

theorem ChildMoves.polled {child child' : ChildState} (h : ChildMoves child child')
    {finished : Option WaitStatus} (hp : Polled child finished) : Polled child' finished := by
  cases finished with
  | none => exact h.reaped.trans hp
  | some status => exact h.reapedAs hp

/-- What the child does keeps the invariant. -/
theorem Consistent.childMoves (hs : s.Consistent late) {child : ChildState}
    (h : ChildMoves s.child child) : Consistent late { s with child := child } := by
  refine ⟨h.output _ hs.output, fun hp => h.reaped.trans (hs.polling hp),
    fun f hp => h.polled (hs.draining f hp), fun f hp => ?_, fun st hp => ?_, fun r hp => ?_⟩
  · exact ⟨h.drained (hs.checking f hp).1, h.polled (hs.checking f hp).2⟩
  · obtain ⟨hd, hr, hlate⟩ := hs.closing st hp
    exact ⟨h.drained hd, h.reapedAs hr, hlate⟩
  · obtain ⟨hd, hr, hlaunched, hcaptured, htimed, hdone⟩ := hs.returned r hp
    refine ⟨h.drained hd, h.reaped.trans hr, hlaunched, hcaptured, fun ht => ?_, fun ht => ?_⟩
    · obtain ⟨hcode, hended, hlate⟩ := htimed ht
      exact ⟨hcode, h.isSome hended, hlate⟩
    · obtain ⟨status, hended, hcode⟩ := hdone ht
      exact ⟨status, h.ended status hended, hcode⟩

/-- **A step of the parent keeps the invariant.** -/
theorem Consistent.parentStep (hs : s.Consistent late) {clock : ℤ}
    (hclock : timeout < clock → late) : Consistent late (s.parentStep timeout clock) := by
  unfold SubprocessState.parentStep
  cases hparent : s.parent with
  | polling =>
      have hreaped := hs.polling hparent
      cases hended : s.child.ended with
      | none =>
          refine ⟨hs.output, ?_, ?_, ?_, ?_, ?_⟩ <;> simp [Polled, hreaped]
      | some status =>
          refine ⟨hs.output, ?_, ?_, ?_, ?_, ?_⟩ <;> simp [Polled, Reaped, hended]
  | draining finished =>
      have hpolled := hs.draining finished hparent
      dsimp only
      split
      · next hempty =>
          split
          · exact hs
          · next hclosed =>
              have hdrained : Drained s.child := ⟨by simpa using hclosed, hempty⟩
              refine ⟨hs.output, ?_, ?_, ?_, ?_, ?_⟩ <;> simp [hdrained, hpolled]
      · refine ⟨?_, ?_, ?_, ?_, ?_, ?_⟩
        · rw [hs.output, List.append_assoc, List.take_append_drop]
        · simp
        · intro f hf
          cases hf
          cases finished with
          | none => exact hpolled
          | some status => exact hpolled
        · simp
        · simp
        · simp
  | checking finished =>
      obtain ⟨hdrained, hpolled⟩ := hs.checking finished hparent
      cases finished with
      | some status =>
          refine ⟨hs.output, ?_, ?_, ?_, ?_, ?_⟩ <;> simp
          exact ⟨hdrained, hpolled⟩
      | none =>
          dsimp only
          split
          · next hlate =>
              refine ⟨hs.output, ?_, ?_, ?_, ?_, ?_⟩ <;> simp
              exact ⟨⟨hdrained.closed, hdrained.empty⟩, ⟨rfl, by simp, by simp⟩, hclock hlate⟩
          · refine ⟨hs.output, fun _ => hpolled, ?_, ?_, ?_, ?_⟩ <;> simp
  | closing status =>
      obtain ⟨hdrained, hreaped, hlate⟩ := hs.closing status hparent
      refine ⟨hs.output, ?_, ?_, ?_, ?_, ?_⟩
      · simp
      · simp
      · simp
      · simp
      · intro result hresult
        cases hresult
        refine ⟨hdrained, hreaped.1, rfl, rfl, fun htimed => ?_, fun hdone => ?_⟩
        · cases status with
          | none => exact ⟨rfl, hreaped.2.1, hlate rfl⟩
          | some status => exact absurd htimed (by simp)
        · cases status with
          | none => exact absurd hdone (by simp)
          | some status => exact ⟨status, hreaped.2.2 status rfl, rfl⟩
  | returned result => exact hs

/-- **Every event keeps the invariant.** -/
theorem Consistent.step (hs : s.Consistent late) {event : SubprocessEvent}
    (hclock : ∀ clock, event = .parent clock → timeout < clock → late) :
    Consistent late (s.step timeout event) := by
  cases event with
  | write bytes =>
      unfold SubprocessState.step
      dsimp only
      split
      · next hopen =>
          refine hs.childMoves ⟨fun captured h => ?_, rfl, fun hclosed => ?_, fun _ => id⟩
          · rw [h, List.append_assoc]
          · rw [hopen] at hclosed
            exact absurd hclosed (by simp)
      · exact hs
  | closeOutput => exact hs.childMoves ⟨fun _ => id, rfl, fun _ => ⟨rfl, rfl⟩, fun _ => id⟩
  | exit status =>
      refine hs.childMoves ⟨fun _ => id, rfl, fun h => ⟨h, rfl⟩, fun st hst => ?_⟩
      rw [hst, Option.getD_some]
  | parent clock => exact hs.parentStep (hclock clock rfl)

/-- **Every run keeps the invariant.** -/
theorem Consistent.run (schedule : List SubprocessEvent) :
    ∀ {s : SubprocessState}, s.Consistent late →
      (∀ clock, .parent clock ∈ schedule → timeout < clock → late) →
        Consistent late (s.run timeout schedule) := by
  induction schedule with
  | nil => exact fun hs _ => hs
  | cons event schedule ih =>
      intro s hs hclock
      have hstep : Consistent late (s.step timeout event) := hs.step fun clock heq =>
        hclock clock (heq ▸ List.mem_cons_self)
      exact ih hstep fun clock hmem => hclock clock (List.mem_cons_of_mem _ hmem)

/-! ### When a call ends -/

/-- How many steps the parent has left at most, with the clock past the timeout and the output
closed. -/
def remaining (s : SubprocessState) : ℕ :=
  match s.parent with
  | .polling => s.child.pipe.length + 4
  | .draining _ => s.child.pipe.length + 3
  | .checking _ => 2
  | .closing _ => 1
  | .returned _ => 0

/-- The steps of the parent in a schedule. -/
def parentSteps (schedule : List SubprocessEvent) : ℕ :=
  schedule.countP fun
    | .parent _ => true
    | _ => false

/-- Only the event that closes the output closes it. -/
theorem step_outputOpen (s : SubprocessState) {event : SubprocessEvent}
    (h : event ≠ .closeOutput) :
    (s.step timeout event).child.outputOpen = s.child.outputOpen := by
  cases event with
  | write bytes =>
      unfold step
      dsimp only
      split <;> rfl
  | closeOutput => exact absurd rfl h
  | exit status => rfl
  | parent clock =>
      unfold step parentStep
      dsimp only
      split
      · split <;> rfl
      · split
        · split <;> rfl
        · rfl
      · rfl
      · split <;> rfl
      · rfl
      · rfl

/-- A closed output stays closed. -/
theorem step_closed {event : SubprocessEvent} (h : s.child.outputOpen = false) :
    (s.step timeout event).child.outputOpen = false := by
  by_cases hevent : event = .closeOutput
  · rw [hevent]
    rfl
  · rw [step_outputOpen s hevent, h]

/-- The child cannot make work for the parent once its output is closed. -/
theorem remaining_step {event : SubprocessEvent} (h : s.child.outputOpen = false)
    (hevent : ∀ clock, event ≠ .parent clock) :
    (s.step timeout event).remaining = s.remaining := by
  cases event with
  | write bytes => rw [step, h, if_neg (by simp)]
  | closeOutput => rfl
  | exit status => rfl
  | parent clock => exact absurd rfl (hevent clock)

/-- **A step of the parent past the timeout leaves fewer.** -/
theorem remaining_parentStep {clock : ℤ} (h : s.child.outputOpen = false)
    (hclock : timeout < clock) : (s.parentStep timeout clock).remaining ≤ s.remaining - 1 := by
  unfold parentStep remaining
  cases hparent : s.parent with
  | polling =>
      dsimp only
      cases s.child.ended <;> exact le_refl _
  | draining finished =>
      by_cases hempty : s.child.pipe = []
      · simp only [if_pos hempty, h, Bool.false_eq_true, if_false]
        omega
      · have hpos := List.length_pos_iff.2 hempty
        simp only [if_neg hempty, List.length_drop, bufferSize]
        omega
  | checking finished =>
      cases finished with
      | none =>
          simp only [if_pos hclock]
          exact le_refl _
      | some status => exact le_refl _
  | closing status => exact Nat.le_refl _
  | returned result => simp only [hparent, Nat.le_refl]

/-- Past the timeout, with the output closed, the parent ends. -/
theorem remaining_run (schedule : List SubprocessEvent) :
    ∀ {s : SubprocessState}, s.child.outputOpen = false →
      (∀ clock, .parent clock ∈ schedule → timeout < clock) →
        (s.run timeout schedule).remaining ≤ s.remaining - parentSteps schedule := by
  induction schedule with
  | nil => exact fun _ _ => Nat.le_refl _
  | cons event schedule ih =>
      intro s h hclock
      have hclosed : (s.step timeout event).child.outputOpen = false := step_closed h
      have hrest := ih hclosed fun clock hmem => hclock clock (List.mem_cons_of_mem event hmem)
      by_cases hparent : ∃ clock, event = .parent clock
      · obtain ⟨clock, rfl⟩ := hparent
        have hstep := remaining_parentStep h (hclock clock List.mem_cons_self)
        have hcount : parentSteps (.parent clock :: schedule) = parentSteps schedule + 1 := by
          simp [parentSteps]
        rw [hcount]
        refine le_trans hrest ?_
        have hle : (s.step timeout (.parent clock)).remaining ≤ s.remaining - 1 := hstep
        omega
      · have hother : ∀ clock, event ≠ .parent clock := fun clock heq => hparent ⟨clock, heq⟩
        have hcount : parentSteps (event :: schedule) = parentSteps schedule := by
          cases event with
          | parent clock => exact absurd rfl (hother clock)
          | _ => simp [parentSteps]
        rw [hcount, ← remaining_step h hother]
        exact hrest

theorem returned_of_remaining (h : s.remaining = 0) : ∃ result, s.parent = .returned result := by
  unfold remaining at h
  split at h
  · omega
  · omega
  · omega
  · omega
  · next result hresult => exact ⟨result, hresult⟩

/-- Without the event that closes it, an open output stays open. -/
theorem run_outputOpen (schedule : List SubprocessEvent) (hclose : .closeOutput ∉ schedule) :
    ∀ s : SubprocessState, (s.run timeout schedule).child.outputOpen = s.child.outputOpen := by
  induction schedule with
  | nil => exact fun _ => rfl
  | cons event schedule ih =>
      intro s
      obtain ⟨hevent, hrest⟩ := not_or.1 (fun h => hclose (List.mem_cons.2 h))
      exact (ih hrest (s.step timeout event)).trans (step_outputOpen s (Ne.symm hevent))

end SubprocessState

/-! ### What a call returns, and when -/

/-- **What a call returns.**  However the child, its processes and the parent take turns: when the
call returns, the child has ended and has been waited for, the output has been closed, and what was
captured is all that was ever written.  The call has timed out only if the clock has passed the
timeout, and has the status of the child otherwise; and the adapter reports success exactly if the
child has ended by itself, with status zero, in time. -/
theorem run_subprocess_returned {timeout : ℤ} {argv : List Bytes} {pipeOpened forked : Bool}
    {start : SubprocessState} (hstart : launchSubprocess argv pipeOpened forked = .ok start)
    {schedule : List SubprocessEvent} {result : SubprocessResult}
    (hreturned : (start.run timeout schedule).parent = .returned result) :
    (start.run timeout schedule).child.ended.isSome ∧
      (start.run timeout schedule).child.reaped = true ∧
      (start.run timeout schedule).child.outputOpen = false ∧
      result.capturedOutput = (start.run timeout schedule).child.written ∧
      (result.timedOut = true → result.exitCode = -1 ∧
        ∃ clock, .parent clock ∈ schedule ∧ timeout < clock) ∧
      (result.timedOut = false → ∃ status,
        (start.run timeout schedule).child.ended = some status ∧
          result.exitCode = status.exitCode) ∧
      ((clientResult result).completedSuccessfully = true ↔ result.timedOut = false ∧
        (start.run timeout schedule).child.ended = some (.exited 0)) := by
  have hconsistent : (start.run timeout schedule).Consistent
      (∃ clock, .parent clock ∈ schedule ∧ timeout < clock) := by
    unfold launchSubprocess at hstart
    split at hstart
    · exact absurd hstart (by simp)
    split at hstart
    · exact absurd hstart (by simp)
    split at hstart
    · exact absurd hstart (by simp)
    cases hstart
    exact (SubprocessState.consistent_start _).run schedule fun clock hmem hlt =>
      ⟨clock, hmem, hlt⟩
  obtain ⟨hdrained, hreaped, hlaunched, hcaptured, htimed, hdone⟩ :=
    hconsistent.returned result hreturned
  refine ⟨?_, hreaped, hdrained.closed, ?_, fun ht => ⟨(htimed ht).1, (htimed ht).2.2⟩, hdone,
    ?_⟩
  · cases ht : result.timedOut with
    | true => exact (htimed ht).2.1
    | false =>
        obtain ⟨status, hended, -⟩ := hdone ht
        rw [hended]
        rfl
  · rw [hcaptured, hconsistent.output, hdrained.empty, List.append_nil]
  · cases ht : result.timedOut with
    | true => simp [clientResult, ht]
    | false =>
        obtain ⟨status, hended, hcode⟩ := hdone ht
        rw [hended]
        simp only [clientResult, ht, hlaunched, hcode, Bool.not_false, Bool.and_self,
          Bool.true_and, decide_eq_true_eq, true_and, Option.some.injEq]
        cases status with
        | signalled => simp [WaitStatus.exitCode]
        | exited code =>
            simp only [WaitStatus.exitCode, WaitStatus.exited.injEq]
            rw [← UInt8.toNat_inj]
            exact Int.natCast_eq_zero

/-- A client that says something, closes its output, and ends some time later. -/
def quickClient : List SubprocessEvent :=
  [.write (text "ok"), .parent 5, .parent 5, .closeOutput, .parent 6, .parent 6,
    .exit (.exited 0), .parent 7, .parent 8, .parent 8, .parent 9]

theorem run_subprocess_returned_quick :
    ∃ result, (SubprocessState.run 20000 {} quickClient).parent = .returned result ∧
      (clientResult result).completedSuccessfully = true ∧
      result.capturedOutput = (SubprocessState.run 20000 {} quickClient).child.written := by
  refine ⟨_, rfl, ?_⟩
  obtain ⟨-, -, -, hcaptured, -, -, hsuccess⟩ := @run_subprocess_returned 20000 [text "tftp"] true
    true {} rfl quickClient _ rfl
  exact ⟨hsuccess.2 ⟨rfl, rfl⟩, hcaptured⟩

/-- **The timeout is enforced only when the output is closed.**  At any moment of a call: past the
timeout, and unless somebody closes the output, the call returns within some number of its own steps
exactly if the output is closed already.  While the child, or a process it has started, keeps the
output open, the call does not return at all. -/
theorem run_subprocess_ends_iff (timeout : ℤ) (before : List SubprocessEvent) :
    (∃ n, ∀ schedule : List SubprocessEvent, .closeOutput ∉ schedule →
      (∀ clock, .parent clock ∈ schedule → timeout < clock) →
      n ≤ SubprocessState.parentSteps schedule →
        ∃ result, (SubprocessState.run timeout {} (before ++ schedule)).parent =
          .returned result) ↔
      (SubprocessState.run timeout {} before).child.outputOpen = false := by
  have happend : ∀ schedule, SubprocessState.run timeout {} (before ++ schedule) =
      (SubprocessState.run timeout {} before).run timeout schedule := fun schedule =>
    List.foldl_append
  constructor
  · rintro ⟨n, hn⟩
    obtain ⟨result, hresult⟩ := hn (List.replicate n (.parent (timeout + 1)))
      (by simp [List.mem_replicate]) (by
        intro clock hmem
        cases (List.mem_replicate.1 hmem).2
        omega) (by simp [SubprocessState.parentSteps, List.countP_replicate])
    have hconsistent : SubprocessState.Consistent True (SubprocessState.run timeout {}
        (before ++ List.replicate n (.parent (timeout + 1)))) :=
      (SubprocessState.consistent_start True).run _ fun _ _ _ => trivial
    have hclosed := (hconsistent.returned result hresult).1.closed
    rwa [happend, SubprocessState.run_outputOpen _ (by simp [List.mem_replicate])] at hclosed
  · intro hclosed
    refine ⟨(SubprocessState.run timeout {} before).remaining, fun schedule _ hclock hcount => ?_⟩
    rw [happend]
    refine SubprocessState.returned_of_remaining ?_
    have hle := SubprocessState.remaining_run schedule hclosed hclock
    omega

end TftpHarness
