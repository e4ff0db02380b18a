/-
**TIDs at the proxy: who sent what, and where requests go.**

A session of the proxy holds one server endpoint.  It starts as the server's well-known port and is
replaced, once, by the source of the first datagram that arrives on the session's server-facing
socket.  Two things are read off it: the source TID of the record of every server datagram, and the
destination of every client datagram.  The first is right as long as the server answers from one
endpoint.  The second is right for a request as long as no reply has come from another port than the
well-known one, and a client that repeats its request after a reply was lost is past that point.

Main definitions:

* `TftpHarness.repliers`, `TftpHarness.serverOf` — who has sent to a session's server-facing socket,
  and the address that is taken for its server;
* `TftpHarness.TidsAttributed` — the records name the port a server datagram came from, and only the
  locked endpoint's datagrams reach the client;
* `TftpHarness.RequestsToWellKnownPort` — requests are sent to the server's well-known port;
* `TftpHarness.FromLockedServer`, `TftpHarness.RequestBeforeReply` — the conditions on a step.

Main results:

* `TftpHarness.located_run` — **a session sends to the first that has replied**;
* `TftpHarness.tids_attributed` — **server datagrams are attributed to their source** in every run
  in which each session hears one server endpoint;
* `TftpHarness.requests_to_well_known_port` — **requests go to the well-known port** in every run in
  which no request comes after a first reply from another endpoint.
-/

import TftpHarness.Proxy

set_option relaxedAutoImplicit false
set_option autoImplicit false

namespace TftpHarness

/-! ### The server of a session -/

/-- The senders of the datagrams on the server-facing socket of a session, in order. -/
def repliers (session : ℕ) (events : List ProxyEvent) : List Endpoint :=
  events.filterMap fun event => match event with
    | .server index sender bytes => if index = session ∧ bytes ≠ [] then some sender else none
    | _ => none

/-- The address that is taken for the server of a session: the one of the configuration until
something arrives on the session's server-facing socket, and then the sender of that. -/
def serverOf (config : ProxyConfig) (session : ℕ) (events : List ProxyEvent) : Endpoint :=
  (repliers session events).head?.getD config.serverEndpoint

variable (config : ProxyConfig) in
/-- The session sends to the address that is taken for its server, and is locked if something has
come from there. -/
structure Located (index : ℕ) (events : List ProxyEvent) (session : Session) : Prop where
  serverDestination : session.serverDestination = serverOf config index events
  serverTidLocked : session.serverTidLocked = true ↔ repliers index events ≠ []

theorem repliers_append (session : ℕ) (events events' : List ProxyEvent) :
    repliers session (events ++ events') = repliers session events ++ repliers session events' :=
  List.filterMap_append

/-- What does not come from the server moves no session. -/
theorem Located.append {config : ProxyConfig} {index : ℕ} {events events' : List ProxyEvent}
    {session : Session} (h : Located config index events session)
    (hnone : repliers index events' = []) :
    Located config index (events ++ events') session := by
  have hsame : repliers index (events ++ events') = repliers index events := by
    rw [repliers_append, hnone, List.append_nil]
  refine ⟨?_, ?_⟩
  · rw [h.serverDestination, serverOf, serverOf, hsame]
  · rw [h.serverTidLocked, hsame]

/-- **The first reply locates the session**, and the later ones do not move it. -/
theorem Located.lock {config : ProxyConfig} {index : ℕ} {events : List ProxyEvent}
    {session : Session} (h : Located config index events session) {sender : Endpoint}
    {bytes : Bytes} (hbytes : bytes ≠ []) :
    Located config index (events ++ [.server index sender bytes])
      (lockServerTid sender session) := by
  have hreply : repliers index (events ++ [.server index sender bytes]) =
      repliers index events ++ [sender] := by
    rw [repliers_append]
    simp [repliers, hbytes]
  refine ⟨?_, ?_⟩
  · rw [serverOf, hreply]
    cases hlocked : session.serverTidLocked with
    | true =>
        obtain ⟨first, rest, hfirst⟩ := List.exists_cons_of_ne_nil (h.serverTidLocked.1 hlocked)
        rw [lockServerTid_locked hlocked, h.serverDestination, serverOf, hfirst]
        rfl
    | false =>
        have hnone : repliers index events = [] := by
          by_contra hsome
          rw [h.serverTidLocked.2 hsome] at hlocked
          cases hlocked
        rw [lockServerTid_unlocked hlocked, hnone]
        rfl
  · rw [serverTidLocked_lockServerTid, hreply]
    simp

/-- An element of a list with one more is old or the new one. -/
theorem getElem?_concat_cases {α : Type} {xs : List α} {x y : α} {i : ℕ}
    (h : (xs ++ [x])[i]? = some y) : xs[i]? = some y ∨ i = xs.length ∧ y = x := by
  rcases Nat.lt_trichotomy i xs.length with hlt | rfl | hgt
  · rw [List.getElem?_append_left hlt] at h
    exact Or.inl h
  · rw [List.getElem?_concat_length] at h
    exact Or.inr ⟨rfl, (Option.some.inj h).symm⟩
  · rw [List.getElem?_eq_none (by simp; omega)] at h
    cases h

variable (config : ProxyConfig) in
/-- Every session is located by what has been received, and sockets yet to be opened have received
nothing. -/
structure AllLocated (s : ProxyState) : Prop where
  located : ∀ index session, s.sessions[index]? = some session →
    Located config index (s.journal.map (·.event)) session
  closed : ∀ index, s.sessions.length ≤ index → repliers index (s.journal.map (·.event)) = []

section Locations

variable {config : ProxyConfig} {env : ProxyEnvironment}

/-- One step. -/
theorem AllLocated.step {s s' : ProxyState} {event : ProxyEvent} (hs : AllLocated config s)
    (hmove : RelayMove config env s event s') : AllLocated config s' := by
  -- what does not come from a server adds nothing
  have hquiet : ∀ {s s' : ProxyState} {h : Handled}, AllLocated config s →
      s'.sessions = s.sessions → s'.journal = s.journal ++ [h] →
      (∀ index, repliers index [h.event] = []) → AllLocated config s' := by
    intro s s' h hs hsessions hjournal hnone
    refine ⟨fun index session hsession => ?_, fun index hle => ?_⟩
    · rw [hsessions] at hsession
      rw [hjournal, List.map_append]
      exact (hs.located index session hsession).append (hnone index)
    · rw [hsessions] at hle
      rw [hjournal, List.map_append, repliers_append, hs.closed index hle]
      exact hnone index
  cases hmove with
  | flush => exact ⟨hs.located, hs.closed⟩
  | emptyClient sender => exact hs
  | emptyServer index sender => exact hs
  | emptyStray index sender => exact hs
  | known hbytes hsession hclient hevent hrelayed =>
      exact hquiet hs hrelayed.sessions hrelayed.journal fun index => by rw [hevent]; rfl
  | @opened sender bytes session s' h hbytes hnew hsession hevent hrelayed =>
      have hopen : AllLocated config { s with sessions := s.sessions ++ [session] } := by
        refine ⟨fun index other hother => ?_, fun index hle => hs.closed index ?_⟩
        · rcases getElem?_concat_cases hother with hother | ⟨rfl, rfl⟩
          · exact hs.located index other hother
          · have hnone := hs.closed s.sessions.length (le_refl _)
            rw [hsession]
            exact ⟨by simp [serverOf, hnone], by simp [hnone]⟩
        · rw [List.length_append] at hle
          omega
      exact hquiet hopen hrelayed.sessions hrelayed.journal fun index => by rw [hevent]; rfl
  | @server index sender bytes before session s' h hbytes hbefore hsession hevent hrelayed =>
      have hlt : index < s.sessions.length := (List.getElem?_eq_some_iff.1 hbefore).1
      refine ⟨fun j other hother => ?_, fun j hle => ?_⟩
      · rw [hrelayed.journal, List.map_append, List.map_singleton, hevent]
        rw [hrelayed.sessions] at hother
        simp only [List.getElem?_set] at hother
        split at hother
        · next heq =>
            subst heq
            obtain rfl := Option.some.inj hother
            rw [hsession]
            exact (hs.located index before hbefore).lock hbytes
        · next hne =>
            refine (hs.located j other hother).append ?_
            simp [repliers, hne]
      · rw [hrelayed.sessions] at hle
        simp only [List.length_set] at hle
        have hne : index ≠ j := by omega
        rw [hrelayed.journal, List.map_append, List.map_singleton, hevent, repliers_append,
          hs.closed j hle]
        simp [repliers, hne]
  | @stray index sender bytes hbytes =>
      simp only [handleStray, if_neg hbytes]
      exact hquiet hs rfl rfl fun _ => rfl

/-- **A session sends to the first that has replied**, in every run. -/
theorem located_run {guard : ProxyState → ProxyEvent → Prop} {events : List ProxyEvent}
    {s : ProxyState} (run : ProxyRun config env guard events s) : AllLocated config s := by
  induction run with
  | start => exact ⟨nofun, fun _ _ => rfl⟩
  | step run event harrives hguard ih => exact ih.step (relayMove_relayStep harrives)

end Locations

/-! ### Server datagrams -/

/-- Every server datagram is recorded with the port it came from, and one from another source than
the endpoint its session locked onto is not passed to the client. -/
structure TidsAttributed (s : ProxyState) : Prop where
  source : ∀ h ∈ s.journal, ∀ index sender bytes, h.event = .server index sender bytes →
    h.record.sourceTid = sender.port
  passed : ∀ h ∈ s.journal, ∀ index sender bytes, h.event = .server index sender bytes →
    ∀ session, s.sessions[index]? = some session → sender ≠ session.serverDestination →
      h.sends = []

/-- A server datagram, once its session is locked, comes from the endpoint it is locked onto. -/
def FromLockedServer (s : ProxyState) : ProxyEvent → Prop
  | .server index sender bytes => bytes ≠ [] → ∀ session, s.sessions[index]? = some session →
      session.serverTidLocked = true → sender = session.serverDestination
  | _ => True

/-- What holds of the server datagrams of a run that meets the condition. -/
def HeardOneServer (s : ProxyState) : Prop :=
  ∀ h ∈ s.journal, ∀ index sender bytes, h.event = .server index sender bytes →
    h.record.sourceTid = sender.port ∧ ∃ session, s.sessions[index]? = some session ∧
      session.serverTidLocked = true ∧ session.serverDestination = sender

section Runs

variable {config : ProxyConfig} {env : ProxyEnvironment}

/-- An entry of another kind leaves the server datagrams as they were, if the locked sessions stay.
-/
theorem HeardOneServer.extend {s s' : ProxyState} {h : Handled} (hs : HeardOneServer s)
    (hjournal : s'.journal = s.journal ++ [h])
    (hkept : ∀ (index : ℕ) (session : Session), s.sessions[index]? = some session →
      session.serverTidLocked = true → s'.sessions[index]? = some session)
    (hnew : ∀ index sender bytes, h.event = .server index sender bytes →
      h.record.sourceTid = sender.port ∧ ∃ session, s'.sessions[index]? = some session ∧
        session.serverTidLocked = true ∧ session.serverDestination = sender) :
    HeardOneServer s' := by
  intro g hg index sender bytes hevent
  rw [hjournal] at hg
  rcases List.mem_append.1 hg with hg | hg
  · obtain ⟨htid, session, hsession, hlocked, hdest⟩ := hs g hg index sender bytes hevent
    exact ⟨htid, session, hkept index session hsession hlocked, hlocked, hdest⟩
  · obtain rfl := List.mem_singleton.1 hg
    exact hnew index sender bytes hevent

/-- One step of a run that meets the condition. -/
theorem HeardOneServer.step {s s' : ProxyState} {event : ProxyEvent} (hs : HeardOneServer s)
    (hguard : FromLockedServer s event) (hmove : RelayMove config env s event s') :
    HeardOneServer s' := by
  cases hmove with
  | flush => exact hs
  | emptyClient sender => exact hs
  | emptyServer index sender => exact hs
  | emptyStray index sender => exact hs
  | known hbytes hsession hclient hevent hrelayed =>
      refine hs.extend hrelayed.journal ?_ ?_
      · intro index session hkept _
        rw [hrelayed.sessions]
        exact hkept
      · intro index sender bytes hserver
        rw [hevent] at hserver
        cases hserver
  | opened hbytes hnew hsession hevent hrelayed =>
      refine hs.extend hrelayed.journal ?_ ?_
      · intro index session hkept _
        obtain ⟨hlt, -⟩ := List.getElem?_eq_some_iff.1 hkept
        rw [hrelayed.sessions]
        simp only
        rw [List.getElem?_append_left hlt]
        exact hkept
      · intro index sender bytes hserver
        rw [hevent] at hserver
        cases hserver
  | @server index sender bytes before session s' h hbytes hbefore hsession hevent hrelayed =>
      have hlt : index < s.sessions.length := (List.getElem?_eq_some_iff.1 hbefore).1
      -- a locked session hears its server only, by the guard
      have hdest : session.serverDestination = sender := by
        rw [hsession]
        cases hlocked : before.serverTidLocked with
        | false => rw [lockServerTid_unlocked hlocked]
        | true =>
            rw [lockServerTid_locked hlocked]
            exact (hguard hbytes before hbefore hlocked).symm
      refine hs.extend hrelayed.journal ?_ ?_
      · intro index' session' hkept hlocked
        rw [hrelayed.sessions]
        simp only [List.getElem?_set]
        split
        · rename_i heq
          subst heq
          rw [hbefore] at hkept
          obtain rfl := Option.some.inj hkept
          rw [hsession, lockServerTid_locked hlocked]
        · exact hkept
      · intro index' sender' bytes' hserver
        rw [hevent] at hserver
        cases hserver
        refine ⟨?_, session, ?_, by rw [hsession, serverTidLocked_lockServerTid], hdest⟩
        · rw [hrelayed.record, recordResult_sourceTid]
          simp [observedRecord, hdest]
        · rw [hrelayed.sessions]
          simp [hlt]
  | @stray index sender bytes hbytes =>
      simp only [handleStray, if_neg hbytes]
      refine hs.extend rfl (fun _ _ hkept _ => hkept) ?_
      intro index' sender' bytes' hserver
      cases hserver

theorem heardOneServer {events : List ProxyEvent} {s : ProxyState}
    (run : ProxyRun config env FromLockedServer events s) : HeardOneServer s := by
  induction run with
  | start =>
      intro h hmem
      cases hmem
  | step run event harrives hguard ih => exact ih.step hguard (relayMove_relayStep harrives)

/-- **Server datagrams are attributed to their source**, in every run in which each session hears
one server endpoint. -/
theorem tids_attributed {events : List ProxyEvent} {s : ProxyState}
    (run : ProxyRun config env FromLockedServer events s) : TidsAttributed s := by
  have hheard := heardOneServer run
  constructor
  · intro h hmem index sender bytes hevent
    exact (hheard h hmem index sender bytes hevent).1
  · intro h hmem index sender bytes hevent session hsession hne
    obtain ⟨-, locked, hlocked, -, hdest⟩ := hheard h hmem index sender bytes hevent
    rw [hlocked] at hsession
    obtain rfl := Option.some.inj hsession
    exact absurd hdest.symm hne

end Runs

/-- A server that answers twice from one port. -/
theorem tids_attributed_one_port :
    TidsAttributed (quietRun [requestForA, firstBlockFrom 5001, firstBlockFrom 5001]) := by
  have hopen : (quietRun [requestForA]).sessions =
      [{ clientEndpoint := loopback 4000, serverDestination := loopback 69 }] := by decide +kernel
  have hlocked : (quietRun [requestForA, firstBlockFrom 5001]).sessions =
      [⟨loopback 4000, loopback 5001, true⟩] := by decide +kernel
  refine @tids_attributed quietProxy stillWorld _ _
    (.step (.step (.step .start requestForA trivial trivial) (firstBlockFrom 5001) ?_ ?_)
      (firstBlockFrom 5001) ?_ ?_)
  · decide +kernel
  · intro _ session hsession hlock
    rw [show (relayStep quietProxy stillWorld (proxyStart quietProxy stillWorld)
      requestForA).sessions = _ from hopen] at hsession
    obtain rfl := Option.some.inj hsession
    cases hlock
  · decide +kernel
  · intro _ session hsession _
    rw [show (relayStep quietProxy stillWorld (relayStep quietProxy stillWorld
      (proxyStart quietProxy stillWorld) requestForA) (firstBlockFrom 5001)).sessions = _
      from hlocked] at hsession
    obtain rfl := Option.some.inj hsession
    rfl

/-- **A server that answers from two ports**, as it does when the request reached it twice: the
second datagram is recorded, and passed on, as if it came from the first port. -/
theorem second_port_misattributed :
    ∃ events s, ProxyRun quietProxy stillWorld AnyStep events s ∧ ¬ TidsAttributed s := by
  refine ⟨_, _, .step (.step (.step .start requestForA trivial trivial) (firstBlockFrom 5001) ?_
    trivial) (firstBlockFrom 5002) ?_ trivial, ?_⟩
  · decide +kernel
  · decide +kernel
  · intro hall
    have hentry : ∃ h ∈ (quietRun [requestForA, firstBlockFrom 5001, firstBlockFrom 5002]).journal,
        h.event = firstBlockFrom 5002 ∧ h.record.sourceTid = 5001 := by decide +kernel
    obtain ⟨h, hmem, hevent, htid⟩ := hentry
    have hport := hall.source h hmem 0 (loopback 5002) _ hevent
    rw [htid] at hport
    exact absurd hport (by decide)

/-! ### Requests -/

/-- The datagram parses as a read or write request. -/
def IsRequest (bytes : Bytes) : Prop :=
  ∃ packet, parseDatagram bytes = .ok packet ∧
    (packet.opcode = .readRequest ∨ packet.opcode = .writeRequest)

/-- Whatever the proxy schedules toward the server for a request goes to the well-known port. -/
def RequestsToWellKnownPort (config : ProxyConfig) (s : ProxyState) : Prop :=
  ∀ h ∈ s.journal, ∀ sender bytes, h.event = .client sender bytes → IsRequest bytes →
    ∀ send ∈ h.sends, send.destination = config.serverEndpoint

/-- A request of a client with a session comes before any reply has been received on the session's
server-facing socket, or the first that was came from the well-known port itself. -/
def RequestBeforeReply (config : ProxyConfig) (s : ProxyState) : ProxyEvent → Prop
  | .client sender bytes => IsRequest bytes → ∀ (index : ℕ) (session : Session),
      s.sessions[index]? = some session → session.clientEndpoint = sender →
        ∀ first ∈ (repliers index (s.journal.map (·.event))).head?, first = config.serverEndpoint
  | _ => True

/-- Every send of a pipeline result goes to the given destination. -/
theorem destination_of_mem_scheduledSends {result : PipelineResult} {now : ℤ}
    {outbound : ProxySocket} {destination : Endpoint} {send : ScheduledSend}
    (h : send ∈ scheduledSends result now outbound destination) :
    send.destination = destination := by
  unfold scheduledSends at h
  split at h
  · cases h
  · obtain ⟨delivery, -, rfl⟩ := List.mem_map.1 h
    rfl

section Runs

variable {config : ProxyConfig} {env : ProxyEnvironment}

theorem RequestsToWellKnownPort.extend {s s' : ProxyState} {h : Handled}
    (hs : RequestsToWellKnownPort config s) (hjournal : s'.journal = s.journal ++ [h])
    (hnew : ∀ sender bytes, h.event = .client sender bytes → IsRequest bytes →
      ∀ send ∈ h.sends, send.destination = config.serverEndpoint) :
    RequestsToWellKnownPort config s' := by
  intro g hg
  rw [hjournal] at hg
  rcases List.mem_append.1 hg with hg | hg
  · exact hs g hg
  · obtain rfl := List.mem_singleton.1 hg
    exact hnew

/-- One step of a run that meets the condition. -/
theorem RequestsToWellKnownPort.step {s s' : ProxyState} {event : ProxyEvent}
    (hs : RequestsToWellKnownPort config s) (hlocated : AllLocated config s)
    (hguard : RequestBeforeReply config s event) (hmove : RelayMove config env s event s') :
    RequestsToWellKnownPort config s' := by
  cases hmove with
  | flush => exact hs
  | emptyClient sender => exact hs
  | emptyServer index sender => exact hs
  | emptyStray index sender => exact hs
  | @known sender bytes index session s' h hbytes hsession hclient hevent hrelayed =>
      refine hs.extend hrelayed.journal ?_
      intro sender' bytes' hsame hrequest send hsend
      rw [hevent] at hsame
      cases hsame
      rw [hrelayed.sends] at hsend
      rw [destination_of_mem_scheduledSends hsend,
        (hlocated.located index session hsession).serverDestination, serverOf]
      have hfirst := hguard hrequest index session hsession hclient
      cases hreply : (repliers index (s.journal.map (·.event))).head? with
      | none => rfl
      | some first => exact hfirst first hreply
  | @opened sender bytes session s' h hbytes hnew hsession hevent hrelayed =>
      refine hs.extend hrelayed.journal ?_
      intro sender' bytes' _ _ send hsend
      rw [hrelayed.sends] at hsend
      rw [destination_of_mem_scheduledSends hsend, hsession]
  | @server index sender bytes before session s' h hbytes hbefore hsession hevent hrelayed =>
      refine hs.extend hrelayed.journal ?_
      intro sender' bytes' hsame
      rw [hevent] at hsame
      cases hsame
  | @stray index sender bytes hbytes =>
      simp only [handleStray, if_neg hbytes]
      refine hs.extend rfl ?_
      intro sender' bytes' hsame
      cases hsame

/-- **Requests go to the well-known port**, in every run in which no request comes after a first
reply from another endpoint. -/
theorem requests_to_well_known_port {events : List ProxyEvent} {s : ProxyState}
    (run : ProxyRun config env (RequestBeforeReply config) events s) :
    RequestsToWellKnownPort config s := by
  induction run with
  | start =>
      intro h hmem
      cases hmem
  | step run event harrives hguard ih =>
      exact ih.step (located_run run) hguard (relayMove_relayStep harrives)

end Runs

/-- A client that asks twice before the server answers. -/
theorem requests_to_well_known_port_repeated :
    RequestsToWellKnownPort quietProxy (quietRun [requestForA, requestForA]) := by
  have hjournal : (quietRun [requestForA]).journal.map (·.event) = [requestForA] := by
    decide +kernel
  refine @requests_to_well_known_port quietProxy stillWorld _ _
    (.step (.step .start requestForA trivial ?_) requestForA trivial ?_)
  · intro _ index session hsession
    cases hsession
  · intro _ index session _ _ first hfirst
    rw [show (relayStep quietProxy stillWorld (proxyStart quietProxy stillWorld)
      requestForA).journal.map (·.event) = _ from hjournal] at hfirst
    cases hfirst

/-- **A client that asks again after a reply**, which may have been lost behind the proxy: its
request goes to the port the reply came from. -/
theorem repeated_request_misdirected :
    ∃ events s, ProxyRun quietProxy stillWorld AnyStep events s ∧
      ¬ RequestsToWellKnownPort quietProxy s := by
  refine ⟨_, _, .step (.step (.step .start requestForA trivial trivial) (firstBlockFrom 5001) ?_
    trivial) requestForA trivial trivial, ?_⟩
  · decide +kernel
  · intro hall
    have hentry : ∃ h ∈ (quietRun [requestForA, firstBlockFrom 5001, requestForA]).journal,
        h.event = requestForA ∧ ∃ send ∈ h.sends, send.destination = loopback 5001 := by
      decide +kernel
    obtain ⟨h, hmem, hevent, send, hsend, hdest⟩ := hentry
    have hrequest : IsRequest (serializeReadRequest (text "a") (text "octet") []) :=
      ⟨_, parse_serializeReadRequest (by decide +kernel) (by decide +kernel) (by simp), Or.inl rfl⟩
    have hport := hall h hmem (loopback 4000) _ hevent hrequest send hsend
    rw [hdest] at hport
    exact absurd hport (by decide +kernel)

end TftpHarness
