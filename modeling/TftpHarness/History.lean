/-
**Histories of a loop.**

What a function of the engine has done between its start and a state is a list of reactions: the
state before a receive, what the receive came back with, the state after it and what was sent.  A
history puts no restriction on the receives, so a fact about all histories is a fact about every
sequence of datagrams and timeouts.

Main definitions:

* `TftpHarness.PeerLoop.Reaction`, `TftpHarness.PeerLoop.History` — reactions, and the lists of them
  that lead from a state to another;
* `TftpHarness.PeerLoop.Tells` — the history of a run on socket events.

Main results:

* `TftpHarness.PeerLoop.History.step` — a reaction of a history starts from a state the history
  before it has reached, in which the function had not returned;
* `TftpHarness.PeerLoop.exists_history` — **every run on a sequence of socket events has a
  history**.
-/

import TftpHarness.StrayTid

set_option relaxedAutoImplicit false
set_option autoImplicit false

namespace TftpHarness.PeerLoop

variable {σ ν : Type*}

/-- One receive, with the states around it and what was sent. -/
structure Reaction (σ ν : Type*) where
  before : σ
  cause : ReceiveStatus
  after : σ
  sent : List ν

/-- The reaction of a loop to a receive. -/
def react (loop : PeerLoop σ ν) (s : σ) (status : ReceiveStatus) : Reaction σ ν where
  before := s
  cause := status
  after := (loop.receive s status).1
  sent := (loop.receive s status).2

/-- The reactions from a first receive on. -/
inductive History (loop : PeerLoop σ ν) (start : σ) : List (Reaction σ ν) → σ → Prop
  | start : History loop start [] start
  | receive {log : List (Reaction σ ν)} {s : σ} (history : History loop start log s)
      (hrun : loop.returned s = false) (status : ReceiveStatus) :
      History loop start (log ++ [loop.react s status]) (loop.receive s status).1

variable {loop : PeerLoop σ ν} {start s : σ} {log : List (Reaction σ ν)}

/-- **A reaction of a history** starts where the history before it has led. -/
theorem History.step (h : loop.History start log s) {before after : List (Reaction σ ν)}
    {r : Reaction σ ν} (hlog : log = before ++ r :: after) :
    loop.History start before r.before ∧ loop.returned r.before = false ∧
      r = loop.react r.before r.cause := by
  induction h generalizing after with
  | start => exact absurd hlog (by simp)
  | @receive log s history hrun status ih =>
      rcases List.eq_nil_or_concat after with rfl | ⟨after', last, rfl⟩
      · obtain ⟨rfl, hr⟩ := List.append_inj' hlog rfl
        obtain rfl := (List.cons.inj hr).1
        exact ⟨history, hrun, rfl⟩
      · rw [List.concat_eq_append, ← List.cons_append, ← List.append_assoc] at hlog
        exact ih (List.append_inj' hlog rfl).1

/-- A member of a history is one of its reactions. -/
theorem History.mem (h : loop.History start log s) {r : Reaction σ ν} (hr : r ∈ log) :
    ∃ before, loop.History start before r.before ∧ loop.returned r.before = false ∧
      r = loop.react r.before r.cause := by
  obtain ⟨before, after, rfl⟩ := List.append_of_mem hr
  exact ⟨before, h.step rfl⟩

/-- A run goes on from the state a history has reached. -/
theorem exists_history_append (peer : Endpoint) (events : List SocketEvent)
    (h : loop.History start log s) :
    ∃ more, loop.History start (log ++ more) (loop.run peer s events).final ∧
      sendsTo peer (loop.run peer s events).sends =
        more.flatMap fun r => r.sent.map fun v => (peer, loop.encode v) := by
  induction events generalizing log s with
  | nil => exact ⟨[], by rw [List.append_nil]; exact h, rfl⟩
  | cons event events ih =>
      cases hret : loop.returned s with
      | true =>
          rw [run_of_returned hret]
          exact ⟨[], by simpa using h, rfl⟩
      | false =>
          rw [run_cons hret]
          rcases loop.onEvent_cases peer s event with ⟨hstill, hsends⟩ | ⟨status, -, hevent, -⟩
          · -- nothing for the loop: at most a stray source is answered
            obtain ⟨more, hmore, heq⟩ := ih h
            have hnone : sendsTo peer (loop.onEvent peer s event).2 = [] := by
              refine List.filter_eq_nil_iff.2 fun send hsend => ?_
              simpa using (hsends send hsend).1
            refine ⟨more, by rw [hstill]; exact hmore, ?_⟩
            rw [hstill]
            simp only [sendsTo] at hnone heq ⊢
            rw [List.filter_append, hnone, heq, List.nil_append]
          · obtain ⟨more, hmore, heq⟩ := ih (h.receive hret status)
            refine ⟨loop.react s status :: more, ?_, ?_⟩
            · rw [hevent]
              simpa using hmore
            · rw [hevent]
              have hall : sendsTo peer ((loop.receive s status).2.map fun v =>
                  (peer, loop.encode v)) = (loop.receive s status).2.map fun v =>
                    (peer, loop.encode v) := by
                refine List.filter_eq_self.2 fun send hsend => ?_
                obtain ⟨v, -, rfl⟩ := List.mem_map.1 hsend
                simp
              simp only [sendsTo] at hall heq ⊢
              rw [List.filter_append, hall, heq, List.flatMap_cons]
              rfl

/-- `log` is the history of a run on socket events: it leads to the final state, and the peer was
sent what its reactions sent. -/
structure Tells (loop : PeerLoop σ ν) (peer : Endpoint) (start : σ × List ν)
    (events : List SocketEvent) (log : List (Reaction σ ν)) : Prop where
  history : loop.History start.1 log (loop.runFrom peer start events).final
  sends : sendsTo peer (loop.runFrom peer start events).sends =
    (start.2 ++ log.flatMap (·.sent)).map fun v => (peer, loop.encode v)

/-- **Every run on a sequence of socket events has a history.** -/
theorem exists_history (loop : PeerLoop σ ν) (peer : Endpoint) (start : σ × List ν)
    (events : List SocketEvent) : ∃ log, loop.Tells peer start events log := by
  obtain ⟨log, hlog, hsends⟩ := exists_history_append peer events
    (.start : loop.History start.1 [] start.1)
  refine ⟨log, hlog, ?_⟩
  have hall : sendsTo peer (start.2.map fun v => (peer, loop.encode v)) =
      start.2.map fun v => (peer, loop.encode v) := by
    refine List.filter_eq_self.2 fun send hsend => ?_
    obtain ⟨v, -, rfl⟩ := List.mem_map.1 hsend
    simp
  simp only [runFrom, sendsTo] at hall hsends ⊢
  rw [List.filter_append, hall, hsends, List.map_append, List.map_flatMap]

end TftpHarness.PeerLoop
