/-
**Runs in which nothing is lost.**

A network that delivers every message exactly once, and the messages between two parties in the
order of their sending, still leaves open which link moves next and when a party that is allowed to
gives up waiting.  What such a network promises is therefore stated of all its runs at once: each
of them ends, and where it ends the goal is reached.  The definition has a state go on only where
some step is possible, so it excludes the two ways a protocol can fail without a fault of the
network, running for ever and waiting for each other.

What has been sent so far is kept beside the state of the system, for statements about all the
traffic of a run.

Nothing here is about a particular protocol.

Main definitions:

* `Service.Inevitable` — every run ends, and ends in a goal;
* `Service.Label.Lossless` — a delivery in order, or a timeout that the protocol counts on;
* `Service.LosslessNext` — one such event, with the record of what has been sent.

Main results:

* `Service.inevitable_of_rank` — **the rank rule**: an invariant whose rank every step lowers, and
  that contains the goal where no step is possible;
* `Service.not_inevitable` — the rule for failure;
* `Service.losslessNext_cases` — everything one event can do while all messages in transit are on
  one link.
-/

import TftpHarness.Service

set_option relaxedAutoImplicit false
set_option autoImplicit false

namespace Service

/-! ### Goals that every run reaches -/

section Inevitable

variable {σ : Type*}

/-- **Every run from a state ends, and ends in a goal.**  A state where no step is possible is
itself a goal; any other has a next state, and all of its next states have the property. -/
inductive Inevitable (next : σ → σ → Prop) (goal : σ → Prop) : σ → Prop
  | done {s : σ} (ended : ∀ t, ¬ next s t) (reached : goal s) : Inevitable next goal s
  | later {s : σ} (possible : ∃ t, next s t) (all : ∀ t, next s t → Inevitable next goal t) :
      Inevitable next goal s

variable {next : σ → σ → Prop} {goal : σ → Prop}

/-- **The rank rule.**  `I n` holds of the states with at most `n` steps to go. -/
theorem inevitable_of_rank {I : ℕ → σ → Prop}
    (hstep : ∀ n s t, I n s → next s t → ∃ m, m < n ∧ I m t)
    (hdone : ∀ n s, I n s → (∀ t, ¬ next s t) → goal s) :
    ∀ {n : ℕ} {s : σ}, I n s → Inevitable next goal s := by
  intro n
  induction n using Nat.strongRecOn with
  | ind n ih =>
      intro s hs
      by_cases hpossible : ∃ t, next s t
      · refine .later hpossible fun t ht => ?_
        obtain ⟨m, hm, hI⟩ := hstep n s t hs ht
        exact ih m hm hI
      · have hended : ∀ t, ¬ next s t := fun t ht => hpossible ⟨t, ht⟩
        exact .done hended (hdone n s hs hended)

/-- **The rule for failure**: an invariant that contains no goal. -/
theorem not_inevitable {I : σ → Prop} (hstep : ∀ s t, I s → next s t → I t)
    (hgoal : ∀ s, I s → ¬ goal s) {s : σ} (hs : I s) : ¬ Inevitable next goal s := by
  intro h
  induction h with
  | done _ reached => exact hgoal _ hs reached
  | later possible _ ih =>
      obtain ⟨t, ht⟩ := possible
      exact ih t ht (hstep _ t hs ht)

end Inevitable

/-! ### Events that lose nothing -/

variable {A M γ η ς : Type*}

/-- **Nothing is lost, repeated or overtaken.**  The message that is delivered is the oldest one in
transit between its two addresses, and a party times out only where `mayTimeOut` allows it. -/
def Label.Lossless (mayTimeOut : State A M γ η ς → Label → Prop) (st : State A M γ η ς) :
    Label → Prop
  | .deliver i => ∀ d, st.network[i]? = some d →
      ∀ (j : ℕ) e, j < i → st.network[j]? = some e → ¬ (e.source = d.source ∧ e.target = d.target)
  | .drop _ => False
  | .duplicate _ => False
  | .timeoutClient => mayTimeOut st .timeoutClient
  | .timeoutSession k => mayTimeOut st (.timeoutSession k)

/-- What a party has put into the network in reaction to an event that led from `st` to `st'`. -/
def sentBy (st st' : State A M γ η ς) : Label → List (Datagram A M)
  | .deliver _ => st'.network.drop (st.network.length - 1)
  | .timeoutClient => st'.network.drop st.network.length
  | .timeoutSession _ => st'.network.drop st.network.length
  | .drop _ => []
  | .duplicate _ => []

/-- A system at its start, with the record of what has been sent. -/
def recorded (st : State A M γ η ς) : State A M γ η ς × List (Datagram A M) := (st, st.network)

variable [DecidableEq A] (R : Roles A M γ η ς) (addresses : Addresses A)

/-- One event that loses nothing, on a system with the record of everything sent. -/
def LosslessNext (mayTimeOut : State A M γ η ς → Label → Prop)
    (s t : State A M γ η ς × List (Datagram A M)) : Prop :=
  ∃ l : Label, l.Lossless mayTimeOut s.1 ∧ step R addresses s.1 l = some t.1 ∧
    t.2 = s.2 ++ sentBy s.1 t.1 l

variable {R addresses} {mayTimeOut : State A M γ η ς → Label → Prop}
  {s t : State A M γ η ς × List (Datagram A M)}

theorem exists_losslessNext {st' : State A M γ η ς} {l : Label}
    (hlossless : l.Lossless mayTimeOut s.1)
    (hstep : step R addresses s.1 l = some st') : ∃ t, LosslessNext R addresses mayTimeOut s t :=
  ⟨(st', s.2 ++ sentBy s.1 st' l), l, hlossless, hstep, rfl⟩

/-- While a message is in transit the oldest one can be delivered. -/
theorem exists_losslessNext_deliver (hnetwork : s.1.network ≠ []) :
    ∃ t, LosslessNext R addresses mayTimeOut s t := by
  obtain ⟨d, rest, hrest⟩ := List.exists_cons_of_ne_nil hnetwork
  have hstep : step R addresses s.1 (.deliver 0) = some (deliver R addresses s.1 rest d) := by
    simp [step, hrest]
  refine exists_losslessNext (l := .deliver 0) ?_ hstep
  intro d _ j e hj
  exact absurd hj (Nat.not_lt_zero j)

/-- **Everything one event can do while all messages in transit are on one link**: it delivers the
oldest of them, or a party times out. -/
theorem losslessNext_cases (hnext : LosslessNext R addresses mayTimeOut s t)
    (hlink : ∀ d ∈ s.1.network, ∀ e ∈ s.1.network, e.source = d.source ∧ e.target = d.target) :
    (∃ d rest, s.1.network = d :: rest ∧ t.1 = deliver R addresses s.1 rest d ∧
      t.2 = s.2 ++ t.1.network.drop rest.length) ∨
    (mayTimeOut s.1 .timeoutClient ∧ t.1 = reactClient R addresses s.1 s.1.network none ∧
      t.2 = s.2 ++ t.1.network.drop s.1.network.length) ∨
    (∃ k h, mayTimeOut s.1 (.timeoutSession k) ∧ s.1.sessions[k]? = some h ∧
      t.1 = reactSession R addresses s.1 s.1.network k h none ∧
      t.2 = s.2 ++ t.1.network.drop s.1.network.length) := by
  obtain ⟨l, hlossless, hstep, hsent⟩ := hnext
  cases l with
  | deliver i =>
      left
      obtain ⟨d, hd, hdeliver⟩ := Option.map_eq_some_iff.1 hstep
      cases hnetwork : s.1.network with
      | nil => exact absurd (hnetwork ▸ hd) (by simp)
      | cons e rest =>
          have he : e ∈ s.1.network := by simp [hnetwork]
          have hzero : i = 0 := by
            by_contra hne
            exact hlossless d hd 0 e (Nat.pos_of_ne_zero hne) (by simp [hnetwork])
              (hlink d (List.mem_of_getElem? hd) e he)
          subst hzero
          rw [hnetwork] at hd hdeliver
          obtain rfl : e = d := Option.some.inj hd
          refine ⟨e, rest, rfl, hdeliver.symm, ?_⟩
          rw [hsent, sentBy, hnetwork, List.length_cons, Nat.add_sub_cancel]
  | drop i => exact absurd hlossless id
  | duplicate i => exact absurd hlossless id
  | timeoutClient => exact Or.inr (Or.inl ⟨hlossless, (Option.some.inj hstep).symm, hsent⟩)
  | timeoutSession k =>
      obtain ⟨h, hk, hreact⟩ := Option.map_eq_some_iff.1 hstep
      exact Or.inr (Or.inr ⟨k, h, hlossless, hk, hreact.symm, hsent⟩)

/-- Where nobody may time out and one message is in transit, it is delivered. -/
theorem losslessNext_single {d : Datagram A M} (hnetwork : s.1.network = [d])
    (hquiet : ∀ l, ¬ mayTimeOut s.1 l) (hnext : LosslessNext R addresses mayTimeOut s t) :
    t = (deliver R addresses s.1 [] d, s.2 ++ (deliver R addresses s.1 [] d).network) := by
  have hlink : ∀ e ∈ s.1.network, ∀ e' ∈ s.1.network,
      e'.source = e.source ∧ e'.target = e.target := by
    simp [hnetwork]
  rcases losslessNext_cases hnext hlink with ⟨e, rest, hrest, hstate, hsent⟩ | ⟨hmay, -⟩ |
    ⟨k, h, hmay, -⟩
  · obtain ⟨rfl, rfl⟩ : d = e ∧ rest = [] := by simpa using hnetwork.symm.trans hrest
    exact Prod.ext hstate (by rw [hsent, hstate]; rfl)
  · exact absurd hmay (hquiet _)
  · exact absurd hmay (hquiet _)

/-! ### Where a message goes -/

variable {st : State A M γ η ς} {network : List (Datagram A M)} {d : Datagram A M}

theorem deliver_client (htarget : d.target = addresses.client) :
    deliver R addresses st network d =
      reactClient R addresses st network (some (d.source, d.message)) := by
  rw [deliver, if_pos htarget]

theorem deliver_listener (htarget : d.target = addresses.listener) {opened : η × List (A × M)}
    (haccept : R.accept st.shared d.source d.message = some opened) :
    deliver R addresses st network d = openSession addresses st network opened.1 opened.2 := by
  have hne : d.target ≠ addresses.client := fun heq =>
    addresses.client_ne_listener (heq.symm.trans htarget)
  simp only [deliver, if_neg hne, if_pos htarget, haccept]

theorem deliver_session {k : ℕ} {h : η} (htarget : d.target = addresses.session k)
    (hk : st.sessions[k]? = some h) :
    deliver R addresses st network d =
      reactSession R addresses st network k h (some (d.source, d.message)) := by
  have hclient : d.target ≠ addresses.client := fun heq =>
    addresses.session_ne_client k (htarget.symm.trans heq)
  have hlistener : d.target ≠ addresses.listener := fun heq =>
    addresses.session_ne_listener k (htarget.symm.trans heq)
  have hlt : k < st.sessions.length := (List.getElem?_eq_some_iff.1 hk).1
  have hfind : ((List.range st.sessions.length).find? fun j => d.target = addresses.session j) =
      some k := by
    rw [List.find?_range_eq_some]
    refine ⟨by simpa using htarget, List.mem_range.2 hlt, fun j hj => ?_⟩
    have hne : d.target ≠ addresses.session j := fun heq => by
      have := addresses.session_injective j k (heq.symm.trans htarget)
      omega
    simpa using hne
  simp only [deliver, if_neg hclient, if_neg hlistener, hfind, hk]

end Service
