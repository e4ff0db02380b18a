/-
**One client, one listener and the sessions it spawns.**

A server that answers every request from a fresh address is a growing set of reactive parties: a
listener that turns a request into a session, and sessions that talk to the client and share the
server's data.  This module runs such a system over a network that holds messages in transit and
delivers any of them at any time, loses them and repeats them.  A schedule — a list of labels —
decides everything, and the system is executable, so a schedule is also a test.

Nothing here is about a particular protocol.

Main definitions:

* `Service.Roles`, `Service.Addresses` — the parties and where they are reached, all apart;
* `Service.State`, `Service.Label`, `Service.step`, `Service.run` — the system and its runs;
* `Service.StepsMeet` — a condition on every step of a run;
* `Service.Traffic` — messages between the client and the server, by who has sent them.

Main results:

* `Service.step_cases` — everything one step can do;
* `Service.run_invariant` — **the run rule**: what every step that meets a condition preserves holds
  along every run whose steps meet it.
-/

import TftpHarness.Duplex

set_option relaxedAutoImplicit false
set_option autoImplicit false

namespace Service

variable {A M γ η ς : Type*}

/-- A message in transit. -/
structure Datagram (A M : Type*) where
  source : A
  target : A
  message : M
  deriving DecidableEq, Repr

/-- The parties: a client, a listener and its sessions, which share data of type `ς`.  A party
reacts to a message and its source, or to a receive that timed out. -/
structure Roles (A M γ η ς : Type*) where
  client : γ → Option (A × M) → γ × List (A × M)
  /-- The session a message to the listener opens, if any, and what it sends at once. -/
  accept : ς → A → M → Option (η × List (A × M))
  session : ς → η → Option (A × M) → ς × η × List (A × M)

/-- Where the parties are reached.  No two of them share an address. -/
structure Addresses (A : Type*) where
  client : A
  listener : A
  session : ℕ → A
  client_ne_listener : client ≠ listener
  session_ne_client : ∀ k, session k ≠ client
  session_ne_listener : ∀ k, session k ≠ listener
  session_injective : ∀ j k, session j = session k → j = k

/-- The system: the client, the sessions in the order of their opening, the shared data, and the
messages in transit. -/
structure State (A M γ η ς : Type*) where
  client : γ
  sessions : List η
  shared : ς
  network : List (Datagram A M)

/-- One event of a schedule. -/
inductive Label
  | deliver (i : ℕ)
  | drop (i : ℕ)
  | duplicate (i : ℕ)
  | timeoutClient
  | timeoutSession (k : ℕ)
  deriving DecidableEq, Repr

/-- The messages a party sends from its address. -/
def sendsFrom (source : A) (sends : List (A × M)) : List (Datagram A M) :=
  sends.map fun send => ⟨source, send.1, send.2⟩

theorem mem_sendsFrom {source : A} {sends : List (A × M)} {d : Datagram A M} :
    d ∈ sendsFrom source sends ↔ d.source = source ∧ (d.target, d.message) ∈ sends := by
  simp only [sendsFrom, List.mem_map]
  constructor
  · rintro ⟨send, hsend, rfl⟩
    exact ⟨rfl, hsend⟩
  · rintro ⟨hsource, hsend⟩
    exact ⟨_, hsend, by rw [← hsource]⟩

variable [DecidableEq A] (R : Roles A M γ η ς) (addresses : Addresses A)

/-- The client reacts. -/
def reactClient (st : State A M γ η ς) (network : List (Datagram A M))
    (event : Option (A × M)) : State A M γ η ς :=
  { st with
    client := (R.client st.client event).1
    network := network ++ sendsFrom addresses.client (R.client st.client event).2 }

/-- Session `k`, which stands at `h`, reacts. -/
def reactSession (st : State A M γ η ς) (network : List (Datagram A M)) (k : ℕ) (h : η)
    (event : Option (A × M)) : State A M γ η ς :=
  { st with
    sessions := st.sessions.set k (R.session st.shared h event).2.1
    shared := (R.session st.shared h event).1
    network := network ++ sendsFrom (addresses.session k) (R.session st.shared h event).2.2 }

/-- The listener opens session `h`, which sends `sends`. -/
def openSession (st : State A M γ η ς) (network : List (Datagram A M)) (h : η)
    (sends : List (A × M)) : State A M γ η ς :=
  { st with
    sessions := st.sessions ++ [h]
    network := network ++ sendsFrom (addresses.session st.sessions.length) sends }

/-- The delivery of `d`, which leaves `network` in transit. -/
def deliver (st : State A M γ η ς) (network : List (Datagram A M)) (d : Datagram A M) :
    State A M γ η ς :=
  if d.target = addresses.client then
    reactClient R addresses st network (some (d.source, d.message))
  else if d.target = addresses.listener then
    match R.accept st.shared d.source d.message with
    | none => { st with network := network }
    | some (h, sends) => openSession addresses st network h sends
  else
    match (List.range st.sessions.length).find? fun k => d.target = addresses.session k with
    | none => { st with network := network }
    | some k =>
      match st.sessions[k]? with
      | none => { st with network := network }
      | some h => reactSession R addresses st network k h (some (d.source, d.message))

/-- The effect of one event; `none` when there is no message or session at the position it
names. -/
def step (st : State A M γ η ς) : Label → Option (State A M γ η ς)
  | .deliver i => st.network[i]?.map fun d => deliver R addresses st (st.network.eraseIdx i) d
  | .drop i => some { st with network := st.network.eraseIdx i }
  | .duplicate i => some { st with network := Duplex.duplicateIdx st.network i }
  | .timeoutClient => some (reactClient R addresses st st.network none)
  | .timeoutSession k =>
      st.sessions[k]?.map fun h => reactSession R addresses st st.network k h none

/-- The state a schedule leads to. -/
def run (st : State A M γ η ς) : List Label → Option (State A M γ η ς)
  | [] => some st
  | l :: ls => (step R addresses st l).bind fun st' => run st' ls

/-- Every step of a run meets a condition on its label and the state before it. -/
def StepsMeet (P : State A M γ η ς → Label → Prop) (st : State A M γ η ς) : List Label → Prop
  | [] => True
  | l :: ls => P st l ∧ ∀ st', step R addresses st l = some st' → StepsMeet P st' ls

variable {R addresses}

omit [DecidableEq A] in
/-- A session that does nothing leaves everything but the network as it was. -/
theorem reactSession_still {st : State A M γ η ς} {network : List (Datagram A M)} {k : ℕ} {h : η}
    {event : Option (A × M)} (hk : st.sessions[k]? = some h)
    (hstill : R.session st.shared h event = (st.shared, h, [])) :
    reactSession R addresses st network k h event = { st with network := network } := by
  obtain ⟨hlt, rfl⟩ := List.getElem?_eq_some_iff.1 hk
  simp only [reactSession, hstill, List.set_getElem_self, sendsFrom, List.map_nil, List.append_nil]

/-- **Everything one step can do**: the client reacts to a message for it or to a timeout, a session
does, the listener opens a session, or messages are lost and repeated. -/
theorem step_cases {st st' : State A M γ η ς} {l : Label}
    (h : step R addresses st l = some st') :
    (∃ network event, (∀ d ∈ network, d ∈ st.network) ∧
      (event = none ∨ ∃ i d, l = .deliver i ∧ st.network[i]? = some d ∧
        d.target = addresses.client ∧ event = some (d.source, d.message)) ∧
      st' = reactClient R addresses st network event) ∨
    (∃ network k h event, (∀ d ∈ network, d ∈ st.network) ∧ st.sessions[k]? = some h ∧
      (event = none ∨ ∃ d ∈ st.network, d.target = addresses.session k ∧
        event = some (d.source, d.message)) ∧
      st' = reactSession R addresses st network k h event) ∨
    (∃ network d h sends, (∀ d ∈ network, d ∈ st.network) ∧ d ∈ st.network ∧
      d.target = addresses.listener ∧ R.accept st.shared d.source d.message = some (h, sends) ∧
      st' = openSession addresses st network h sends) ∨
    (∃ network, (∀ d ∈ network, d ∈ st.network) ∧ st' = { st with network := network }) := by
  cases l with
  | deliver i =>
      obtain ⟨d, hd, rfl⟩ := Option.map_eq_some_iff.1 h
      have hmem : d ∈ st.network := List.mem_of_getElem? hd
      have hsub : ∀ d ∈ st.network.eraseIdx i, d ∈ st.network := fun _ =>
        List.mem_of_mem_eraseIdx
      -- to the client, to the listener, to a session, or to nobody
      unfold deliver
      split
      · next htarget =>
          exact Or.inl ⟨_, _, hsub, Or.inr ⟨i, d, rfl, hd, htarget, rfl⟩, rfl⟩
      · split
        · next htarget =>
            split
            · exact Or.inr (Or.inr (Or.inr ⟨_, hsub, rfl⟩))
            · next haccept =>
                exact Or.inr (Or.inr (Or.inl ⟨_, d, _, _, hsub, hmem, htarget, haccept, rfl⟩))
        · split
          · exact Or.inr (Or.inr (Or.inr ⟨_, hsub, rfl⟩))
          · next k hfind =>
              have htarget : d.target = addresses.session k := by
                simpa using List.find?_some hfind
              split
              · exact Or.inr (Or.inr (Or.inr ⟨_, hsub, rfl⟩))
              · next hsession =>
                  exact Or.inr (Or.inl
                    ⟨_, k, _, _, hsub, hsession, Or.inr ⟨d, hmem, htarget, rfl⟩, rfl⟩)
  | drop i =>
      cases Option.some.inj h
      exact Or.inr (Or.inr (Or.inr ⟨_, fun _ => List.mem_of_mem_eraseIdx, rfl⟩))
  | duplicate i =>
      cases Option.some.inj h
      exact Or.inr (Or.inr (Or.inr ⟨_, fun _ => Duplex.mem_duplicateIdx.1, rfl⟩))
  | timeoutClient =>
      cases Option.some.inj h
      exact Or.inl ⟨_, _, fun _ => id, Or.inl rfl, rfl⟩
  | timeoutSession k =>
      obtain ⟨session, hsession, rfl⟩ := Option.map_eq_some_iff.1 h
      exact Or.inr (Or.inl ⟨_, k, session, _, fun _ => id, hsession, Or.inl rfl, rfl⟩)

/-- **The run rule.** -/
theorem run_invariant {P : State A M γ η ς → Label → Prop} {I : State A M γ η ς → Prop}
    (hstep : ∀ st l st', P st l → I st → step R addresses st l = some st' → I st') :
    ∀ {ls : List Label} {st st' : State A M γ η ς}, StepsMeet R addresses P st ls → I st →
      run R addresses st ls = some st' → I st' := by
  intro ls
  induction ls with
  | nil =>
      intro st st' _ hst h
      cases Option.some.inj h
      exact hst
  | cons l ls ih =>
      intro st st' hmeet hst h
      obtain ⟨t, ht, hrest⟩ := Option.bind_eq_some_iff.1 h
      exact ih (hmeet.2 t ht) (hstep st l t hmeet.1 hst ht) hrest

/-- A condition that an invariant implies is met by every run. -/
theorem stepsMeet_of_invariant {P : State A M γ η ς → Label → Prop} {I : State A M γ η ς → Prop}
    (hmeet : ∀ st l, I st → P st l)
    (hstep : ∀ st l st', P st l → I st → step R addresses st l = some st' → I st') :
    ∀ (ls : List Label) {st : State A M γ η ς}, I st → StepsMeet R addresses P st ls := by
  intro ls
  induction ls with
  | nil => exact fun _ => trivial
  | cons l ls ih =>
      intro st hst
      exact ⟨hmeet st l hst, fun t ht => ih (hstep st l t (hmeet st l hst) hst ht)⟩

/-- The run rule for schedules without restrictions. -/
theorem run_invariant_any {I : State A M γ η ς → Prop}
    (hstep : ∀ st l st', I st → step R addresses st l = some st' → I st') {ls : List Label}
    {st st' : State A M γ η ς} (hst : I st) (h : run R addresses st ls = some st') : I st' := by
  induction ls generalizing st with
  | nil =>
      cases Option.some.inj h
      exact hst
  | cons l ls ih =>
      obtain ⟨t, ht, hrest⟩ := Option.bind_eq_some_iff.1 h
      exact ih (hstep st l t hst ht) hrest

/-! ### What is in transit -/

section Traffic

variable {addresses : Addresses A} {request request' : M → Prop}
  {toSession toSession' toClient toClient' : ℕ → M → Prop} {d : Datagram A M}

/-- A message the client has sent to the listener or to a session, or a session to the client. -/
inductive Traffic (addresses : Addresses A) (request : M → Prop)
    (toSession toClient : ℕ → M → Prop) (d : Datagram A M) : Prop
  | request (source : d.source = addresses.client) (target : d.target = addresses.listener)
      (message : request d.message)
  | toSession (k : ℕ) (source : d.source = addresses.client)
      (target : d.target = addresses.session k) (message : toSession k d.message)
  | toClient (k : ℕ) (source : d.source = addresses.session k)
      (target : d.target = addresses.client) (message : toClient k d.message)

omit [DecidableEq A] in
theorem Traffic.mono (hd : Traffic addresses request toSession toClient d)
    (hsession : ∀ k m, toSession k m → toSession' k m)
    (hclient : ∀ k m, toClient k m → toClient' k m) :
    Traffic addresses request toSession' toClient' d := by
  cases hd with
  | request source target message => exact .request source target message
  | toSession k source target message => exact .toSession k source target (hsession k _ message)
  | toClient k source target message => exact .toClient k source target (hclient k _ message)

omit [DecidableEq A] in
/-- A message for the client has come from a session. -/
theorem Traffic.to_client (hd : Traffic addresses request toSession toClient d)
    (htarget : d.target = addresses.client) :
    ∃ k, d.source = addresses.session k ∧ toClient k d.message := by
  cases hd with
  | request source target message =>
      exact absurd (htarget.symm.trans target) addresses.client_ne_listener
  | toSession k source target message =>
      exact absurd (target.symm.trans htarget) (addresses.session_ne_client k)
  | toClient k source target message => exact ⟨k, source, message⟩

omit [DecidableEq A] in
/-- A message for a session has come from the client. -/
theorem Traffic.to_session (hd : Traffic addresses request toSession toClient d) {k : ℕ}
    (htarget : d.target = addresses.session k) :
    d.source = addresses.client ∧ toSession k d.message := by
  cases hd with
  | request source target message =>
      exact absurd (htarget.symm.trans target) (addresses.session_ne_listener k)
  | toSession j source target message =>
      cases addresses.session_injective j k (target.symm.trans htarget)
      exact ⟨source, message⟩
  | toClient j source target message =>
      exact absurd (htarget.symm.trans target) (addresses.session_ne_client k)

omit [DecidableEq A] in
/-- A message for the listener is a request of the client. -/
theorem Traffic.to_listener (hd : Traffic addresses request toSession toClient d)
    (htarget : d.target = addresses.listener) :
    d.source = addresses.client ∧ request d.message := by
  cases hd with
  | request source target message => exact ⟨source, message⟩
  | toSession k source target message =>
      exact absurd (target.symm.trans htarget) (addresses.session_ne_listener k)
  | toClient k source target message =>
      exact absurd (target.symm.trans htarget) addresses.client_ne_listener

end Traffic

/-! ### The sessions after a step -/

/-- After a reaction a session is the one that reacted, or it is as it was. -/
theorem getElem?_set_cases {sessions : List η} {k j : ℕ} {h h' g : η}
    (hk : sessions[k]? = some h) (hj : (sessions.set k h')[j]? = some g) :
    j = k ∧ g = h' ∨ j ≠ k ∧ sessions[j]? = some g := by
  by_cases hjk : j = k
  · subst hjk
    rw [List.getElem?_set_self (List.getElem?_eq_some_iff.1 hk).1] at hj
    exact Or.inl ⟨rfl, (Option.some.inj hj).symm⟩
  · rw [List.getElem?_set_ne (Ne.symm hjk)] at hj
    exact Or.inr ⟨hjk, hj⟩

/-- A session that reacts is still there, and so are the others. -/
theorem exists_getElem?_set {sessions : List η} {k j : ℕ} {h h' g : η} {P : η → Prop}
    (hk : sessions[k]? = some h) (hj : sessions[j]? = some g) (hreact : j = k → P h')
    (hother : j ≠ k → P g) : ∃ g', (sessions.set k h')[j]? = some g' ∧ P g' := by
  by_cases hjk : j = k
  · subst hjk
    exact ⟨h', List.getElem?_set_self (List.getElem?_eq_some_iff.1 hk).1, hreact rfl⟩
  · exact ⟨g, by rw [List.getElem?_set_ne (Ne.symm hjk)]; exact hj, hother hjk⟩

/-- After an opening a session is the new one, or it is as it was. -/
theorem getElem?_open_cases {sessions : List η} {j : ℕ} {h g : η}
    (hj : (sessions ++ [h])[j]? = some g) :
    j = sessions.length ∧ g = h ∨ sessions[j]? = some g := by
  rcases Nat.lt_trichotomy j sessions.length with hlt | rfl | hgt
  · rw [List.getElem?_append_left hlt] at hj
    exact Or.inr hj
  · rw [List.getElem?_concat_length] at hj
    exact Or.inl ⟨rfl, (Option.some.inj hj).symm⟩
  · rw [List.getElem?_eq_none (by simp only [List.length_append, List.length_singleton]; omega)]
      at hj
    exact absurd hj (by simp)

/-- An opening leaves the sessions as they were. -/
theorem getElem?_open {sessions : List η} {j : ℕ} {h g : η} (hj : sessions[j]? = some g) :
    (sessions ++ [h])[j]? = some g := by
  rw [List.getElem?_append_left (List.getElem?_eq_some_iff.1 hj).1]
  exact hj

end Service
