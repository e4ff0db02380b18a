/-
**Parties on an unreliable network.**

`TftpHarness.Service` runs one client, one listener and its sessions.  Where something stands
between them, or where others use the same server, the parties are not fixed in advance.  Here the
parties are one state of any type, which reacts to a datagram by its target and may act by itself: a
receive times out, a queue is swept, an outsider sends something.  The network holds what is in
transit and delivers it at any time, loses it or repeats it, as a schedule decides.

Nothing here is about a particular protocol.

Main definitions:

* `Network.System`, `Network.State`, `Network.Label` — the parties, with what is in transit;
* `Network.step`, `Network.run` — the runs;
* `Network.Keeps` — a reaction keeps an invariant of the parties and of what is in transit.

Main results:

* `Network.run_invariant` — **the run rule**: if every reaction keeps an invariant then it holds
  along every run.
-/

import TftpHarness.Service

set_option relaxedAutoImplicit false
set_option autoImplicit false

namespace Network

variable {σ A M τ : Type*}

/-- Parties that react to datagrams and to events of their own. -/
structure System (σ A M τ : Type*) where
  receive : σ → Service.Datagram A M → σ × List (Service.Datagram A M)
  act : σ → τ → σ × List (Service.Datagram A M)

/-- The parties and what is in transit. -/
structure State (σ A M : Type*) where
  parties : σ
  network : List (Service.Datagram A M)

/-- One event of a schedule. -/
inductive Label (τ : Type*)
  | deliver (i : ℕ)
  | drop (i : ℕ)
  | duplicate (i : ℕ)
  | act (event : τ)
  deriving DecidableEq, Repr

section Runs

variable (S : System σ A M τ)

/-- The parties after a reaction, whose sends join what is left in transit. -/
def State.after (network : List (Service.Datagram A M))
    (reaction : σ × List (Service.Datagram A M)) : State σ A M :=
  ⟨reaction.1, network ++ reaction.2⟩

/-- The effect of one event; `none` when there is no datagram at the position it names. -/
def step (st : State σ A M) : Label τ → Option (State σ A M)
  | .deliver i => st.network[i]?.map fun d =>
      State.after (st.network.eraseIdx i) (S.receive st.parties d)
  | .drop i => some { st with network := st.network.eraseIdx i }
  | .duplicate i => some { st with network := Duplex.duplicateIdx st.network i }
  | .act event => some (State.after st.network (S.act st.parties event))

/-- The state a schedule leads to. -/
def run (st : State σ A M) : List (Label τ) → Option (State σ A M)
  | [] => some st
  | l :: ls => (step S st l).bind fun st' => run st' ls

end Runs

/-- A reaction keeps an invariant of the parties; what was in transit may still be, and what it
sends may be. -/
structure Keeps (I : σ → Prop) (T : σ → Service.Datagram A M → Prop) (s : σ)
    (reaction : σ × List (Service.Datagram A M)) : Prop where
  invariant : I reaction.1
  transit : ∀ d, T s d → T reaction.1 d
  sends : ∀ d ∈ reaction.2, T reaction.1 d

/-- An invariant of the parties and of what is in transit. -/
structure Holds (I : σ → Prop) (T : σ → Service.Datagram A M → Prop) (st : State σ A M) :
    Prop where
  invariant : I st.parties
  transit : ∀ d ∈ st.network, T st.parties d

section Rules

variable {S : System σ A M τ} {I : σ → Prop} {T : σ → Service.Datagram A M → Prop}

/-- Parties that do not react. -/
theorem Keeps.refl {s : σ} (h : I s) : Keeps I T s (s, []) :=
  ⟨h, fun _ hd => hd, fun _ hd => absurd hd List.not_mem_nil⟩

/-- Two invariants at once. -/
theorem Keeps.and {J : σ → Prop} {U : σ → Service.Datagram A M → Prop} {s : σ}
    {reaction : σ × List (Service.Datagram A M)} (h : Keeps I T s reaction)
    (h' : Keeps J U s reaction) :
    Keeps (fun s => I s ∧ J s) (fun s d => T s d ∧ U s d) s reaction :=
  ⟨⟨h.invariant, h'.invariant⟩, fun d hd => ⟨h.transit d hd.1, h'.transit d hd.2⟩,
    fun d hd => ⟨h.sends d hd, h'.sends d hd⟩⟩

/-- The state after a reaction that keeps the invariant. -/
theorem Holds.after {st : State σ A M} (h : Holds I T st)
    {network : List (Service.Datagram A M)} (hsub : ∀ d ∈ network, d ∈ st.network)
    {reaction : σ × List (Service.Datagram A M)} (hkeeps : Keeps I T st.parties reaction) :
    Holds I T (State.after network reaction) := by
  refine ⟨hkeeps.invariant, fun d hd => ?_⟩
  rcases List.mem_append.1 hd with hold | hnew
  · exact hkeeps.transit d (h.transit d (hsub d hold))
  · exact hkeeps.sends d hnew

/-- One event keeps the invariant. -/
theorem Holds.step {allowed : τ → Prop} {st st' : State σ A M} (h : Holds I T st)
    (hreceive : ∀ s d, I s → T s d → Keeps I T s (S.receive s d))
    (hact : ∀ s event, allowed event → I s → Keeps I T s (S.act s event)) {l : Label τ}
    (hl : ∀ event, l = .act event → allowed event) (hstep : Network.step S st l = some st') :
    Holds I T st' := by
  cases l with
  | deliver i =>
      obtain ⟨d, hd, rfl⟩ := Option.map_eq_some_iff.1 hstep
      exact h.after (fun _ => List.mem_of_mem_eraseIdx)
        (hreceive _ d h.invariant (h.transit d (List.mem_of_getElem? hd)))
  | drop i =>
      cases Option.some.inj hstep
      exact ⟨h.invariant, fun d hd => h.transit d (List.mem_of_mem_eraseIdx hd)⟩
  | duplicate i =>
      cases Option.some.inj hstep
      exact ⟨h.invariant, fun d hd => h.transit d (Duplex.mem_duplicateIdx.1 hd)⟩
  | act event =>
      cases Option.some.inj hstep
      exact h.after (fun _ => id) (hact _ event (hl event rfl) h.invariant)

/-- **The run rule.** -/
theorem run_invariant {allowed : τ → Prop}
    (hreceive : ∀ s d, I s → T s d → Keeps I T s (S.receive s d))
    (hact : ∀ s event, allowed event → I s → Keeps I T s (S.act s event)) :
    ∀ {ls : List (Label τ)} {st st' : State σ A M},
      (∀ event, .act event ∈ ls → allowed event) → Holds I T st → run S st ls = some st' →
        Holds I T st' := by
  intro ls
  induction ls with
  | nil =>
      intro st st' _ hst hrun
      cases Option.some.inj hrun
      exact hst
  | cons l ls ih =>
      intro st st' hall hst hrun
      obtain ⟨t, ht, hrest⟩ := Option.bind_eq_some_iff.1 hrun
      have hl : ∀ event, l = .act event → allowed event := fun event heq =>
        hall event (heq ▸ List.mem_cons_self)
      exact ih (fun event hmem => hall event (List.mem_cons_of_mem _ hmem))
        (hst.step hreceive hact hl ht) hrest

/-- The run rule for schedules without restrictions. -/
theorem run_invariant_any (hreceive : ∀ s d, I s → T s d → Keeps I T s (S.receive s d))
    (hact : ∀ s event, I s → Keeps I T s (S.act s event)) {ls : List (Label τ)}
    {st st' : State σ A M} (hst : Holds I T st) (hrun : run S st ls = some st') :
    Holds I T st' :=
  run_invariant hreceive (fun s event (_ : True) => hact s event) (fun _ _ => trivial) hst hrun

end Rules

end Network
