/-
**The proxy without impairments is transparent.**

With the default configuration and no script every datagram is scheduled once, at the time it is
received.  The clock does not go back, so the queue is sorted and leaves the proxy in the order in
which it was filled, however many transfers share it.  Each session therefore sends toward the
server what its client sent, and toward its client what arrived on its server-facing socket, and
nothing crosses from one session to another.  Two things can go wrong.  An empty datagram does not
pass: the socket layer reports it like a timeout, and the loop throws it away.  And the sender of
the first datagram on a session's server-facing socket is taken for its server, whoever it is: what
the client sends from then on goes there, even if that is another client.

Main definitions:

* `TftpHarness.fromClient`, `TftpHarness.onSocket` — what a run received for a session;
* `TftpHarness.serverOf`, `TftpHarness.forServer` — the address that is taken for the server of a
  session, and what the client sent with the address it was bound for;
* `TftpHarness.towardServer`, `TftpHarness.towardClient` — what was sent for a session;
* `TftpHarness.Transparent` — the sessions pass everything on and do not mix;
* `TftpHarness.PassthroughInv` — the invariant.

Main results:

* `TftpHarness.passthroughInv` — the invariant holds in every run;
* `TftpHarness.transparent_iff` — **the proxy is transparent exactly when no session is sent an
  empty datagram and no client is taken for a server**.
-/

import TftpHarness.GroundTruth
import TftpHarness.ServerTid

set_option relaxedAutoImplicit false
set_option autoImplicit false

namespace TftpHarness

/-! ### What a session receives and sends -/

/-- The datagrams that arrived from a client, in order. -/
def fromClient (clientEndpoint : Endpoint) (events : List ProxyEvent) : List Bytes :=
  events.filterMap fun event => match event with
    | .client sender bytes => if sender = clientEndpoint then some bytes else none
    | _ => none

/-- The datagrams that arrived on the server-facing socket of a session, in order. -/
def onSocket (session : ℕ) (events : List ProxyEvent) : List Bytes :=
  events.filterMap fun event => match event with
    | .server index _ bytes => if index = session then some bytes else none
    | _ => none

/-- The datagrams that arrive from a client after the given events, in order, each with the address
that is taken for the server of its session at that time. -/
def forServer (config : ProxyConfig) (session : ℕ) (clientEndpoint : Endpoint)
    (past : List ProxyEvent) : List ProxyEvent → List (Endpoint × Bytes)
  | [] => []
  | .client sender bytes :: events =>
      if sender = clientEndpoint then
        (serverOf config session past, bytes) ::
          forServer config session clientEndpoint (past ++ [.client sender bytes]) events
      else forServer config session clientEndpoint (past ++ [.client sender bytes]) events
  | event :: events => forServer config session clientEndpoint (past ++ [event]) events

/-- The datagrams sent from the server-facing socket of a session, in order, each with the address
it was sent to. -/
def towardServer (session : ℕ) (sends : List ScheduledSend) : List (Endpoint × Bytes) :=
  (sends.filter fun send => send.socket = .server session).map fun send =>
    (send.destination, send.bytes)

/-- The datagrams sent from the listen socket to a client, in order. -/
def towardClient (clientEndpoint : Endpoint) (sends : List ScheduledSend) : List Bytes :=
  (sends.filter fun send => send.socket = .listen ∧ send.destination = clientEndpoint).map (·.bytes)

/-- What has been handed to the sockets. -/
def ProxyState.wire (s : ProxyState) : List ScheduledSend := s.sent.map (·.send)

/-- The clients, in the order of their sessions. -/
def ProxyState.clients (s : ProxyState) : List Endpoint := s.sessions.map (·.clientEndpoint)

/-- **The proxy is transparent and its sessions do not mix**: one session for each client; the
datagrams sent for a session are those received for it, in order and as far as they have been sent,
and all of them after the final sweep, to the address taken for the server when they arrived and to
the client; and nothing else is sent, nor anything meant for a server to a client. -/
structure Transparent (config : ProxyConfig) (env : ProxyEnvironment) (events : List ProxyEvent)
    (s : ProxyState) : Prop where
  unique : s.clients.Nodup
  toServer : ∀ index session, s.sessions[index]? = some session →
    towardServer index s.wire <+: forServer config index session.clientEndpoint [] events
  toClient : ∀ index session, s.sessions[index]? = some session →
    towardClient session.clientEndpoint s.wire <+: onSocket index events
  allToServer : ∀ index session, s.sessions[index]? = some session →
    towardServer index (finalFlush env s).wire =
      forServer config index session.clientEndpoint [] events
  allToClient : ∀ index session, s.sessions[index]? = some session →
    towardClient session.clientEndpoint (finalFlush env s).wire = onSocket index events
  isolated : ∀ send ∈ (finalFlush env s).wire, ∃ index session,
    s.sessions[index]? = some session ∧
      (send.socket = .server index ∧ send.destination ∉ s.clients ∨
        send.socket = .listen ∧ send.destination = session.clientEndpoint)

/-! ### The invariant -/

/-- Everything scheduled so far, in order: what was sent and what is still in the queue. -/
def ProxyState.outgoing (s : ProxyState) : List ScheduledSend := s.wire ++ s.scheduled

variable (config : ProxyConfig) (env : ProxyEnvironment) in
/-- **The invariant of a run without impairments.** -/
structure PassthroughInv (events : List ProxyEvent) (s : ProxyState) : Prop where
  unique : s.clients.Nodup
  sorted : DeadlineQueue.Sorted ScheduledSend.deadline s.scheduled
  /-- Deadlines are readings the clock has given. -/
  past : ∀ send ∈ s.scheduled, ∃ k < s.clockReads, send.deadline = env.clock k
  toServer : ∀ index client, s.clients[index]? = some client →
    towardServer index s.outgoing = (forServer config index client [] events).filter (·.2 ≠ [])
  toClient : ∀ index client, s.clients[index]? = some client →
    towardClient client s.outgoing = (onSocket index events).filter (· ≠ [])
  isolated : ∀ send ∈ s.outgoing, ∃ index client, s.clients[index]? = some client ∧
    (send.socket = .server index ∨ send.socket = .listen ∧ send.destination = client)
  /-- A client without a session has sent nothing. -/
  silent : ∀ client, client ∉ s.clients → (fromClient client events).filter (· ≠ []) = []
  /-- Nothing has arrived on a socket that does not exist. -/
  closed : ∀ index, s.clients.length ≤ index → (onSocket index events).filter (· ≠ []) = []

theorem towardServer_append (session : ℕ) (sends sends' : List ScheduledSend) :
    towardServer session (sends ++ sends') =
      towardServer session sends ++ towardServer session sends' := by
  simp [towardServer]

theorem towardClient_append (client : Endpoint) (sends sends' : List ScheduledSend) :
    towardClient client (sends ++ sends') =
      towardClient client sends ++ towardClient client sends' := by
  simp [towardClient]

theorem fromClient_append (client : Endpoint) (events : List ProxyEvent) (event : ProxyEvent) :
    fromClient client (events ++ [event]) =
      fromClient client events ++ fromClient client [event] := by
  simp [fromClient]

theorem forServer_append (config : ProxyConfig) (session : ℕ) (client : Endpoint)
    (event : ProxyEvent) (events past : List ProxyEvent) :
    forServer config session client past (events ++ [event]) =
      forServer config session client past events ++
        forServer config session client (past ++ events) [event] := by
  induction events generalizing past with
  | nil => simp [forServer]
  | cons first events ih =>
      have hpast : past ++ first :: events = (past ++ [first]) ++ events := by simp
      rw [hpast]
      cases first with
      | client sender bytes =>
          simp only [List.cons_append, forServer, ih]
          split <;> rfl
      | flush => exact ih _
      | server index sender bytes => exact ih _
      | stray index sender bytes => exact ih _

/-- The datagrams for the server are those of the client. -/
theorem map_forServer (config : ProxyConfig) (session : ℕ) (client : Endpoint)
    (events past : List ProxyEvent) :
    (forServer config session client past events).map (·.2) = fromClient client events := by
  induction events generalizing past with
  | nil => rfl
  | cons event events ih =>
      have htail := ih (past ++ [event])
      cases event with
      | client sender bytes =>
          by_cases hsender : sender = client <;>
            simpa [forServer, fromClient, hsender] using htail
      | flush => exact htail
      | server index sender bytes => exact htail
      | stray index sender bytes => exact htail

/-- A client that sends nothing sends nothing for the server. -/
theorem forServer_nil {config : ProxyConfig} {session : ℕ} {client : Endpoint}
    {events past : List ProxyEvent} (h : (fromClient client events).filter (· ≠ []) = []) :
    (forServer config session client past events).filter (·.2 ≠ []) = [] := by
  rw [← map_forServer config session client events past, List.filter_map, List.map_eq_nil_iff] at h
  exact h

theorem onSocket_append (session : ℕ) (events : List ProxyEvent) (event : ProxyEvent) :
    onSocket session (events ++ [event]) = onSocket session events ++ onSocket session [event] := by
  simp [onSocket]

section Steps

variable {config : ProxyConfig} {env : ProxyEnvironment}

/-- Positions in a list without repetitions are as good as its elements. -/
theorem index_eq_iff {clients : List Endpoint} (h : clients.Nodup) {i j : ℕ} {c d : Endpoint}
    (hi : clients[i]? = some c) (hj : clients[j]? = some d) : i = j ↔ c = d := by
  constructor
  · rintro rfl
    exact Option.some.inj (hi.symm.trans hj)
  · rintro rfl
    obtain ⟨hlt, -⟩ := List.getElem?_eq_some_iff.1 hi
    exact (List.getElem?_inj hlt h).1 (hi.trans hj.symm)

/-- **Without impairments and script** a relayed datagram becomes one send, due at once. -/
theorem sends_of_relayed (himpairment : config.impairment = {})
    (hinjection : config.injection = none)
    {index : ℕ} {session : Session} {direction : Direction} {bytes : Bytes} {outbound : ProxySocket}
    {destination : Endpoint} {s s' : ProxyState} {h : Handled}
    (hrelayed : Relayed config env index session direction bytes outbound destination s s' h) :
    h.allSends =
      [{ deadline := env.clock s.clockReads, socket := outbound, destination, bytes }] := by
  have hpackets := hrelayed.packets
  have hsends := hrelayed.sends
  rw [scriptPackets, hinjection] at hpackets
  rw [himpairment, process_default] at hsends
  have hnone : h.injections = [] := List.map_eq_nil_iff.1 hpackets
  simp [Handled.allSends, hnone, hsends, scheduledSends, hrelayed.time, nanoseconds]

/-- **An event keeps the invariant** when what it schedules is, for each client and each socket,
what it brings. -/
theorem PassthroughInv.extend {events : List ProxyEvent} {event : ProxyEvent} {s s' : ProxyState}
    {sends : List ScheduledSend} (hs : PassthroughInv config env events s)
    (hclients : s'.clients = s.clients)
    (hout : s'.outgoing = s.outgoing ++ sends)
    (hqueue : DeadlineQueue.Sorted ScheduledSend.deadline s'.scheduled ∧
      ∀ send ∈ s'.scheduled, ∃ k < s'.clockReads, send.deadline = env.clock k)
    (hserver : ∀ index client, s.clients[index]? = some client →
      towardServer index sends =
        (forServer config index client events [event]).filter (·.2 ≠ []))
    (hclient : ∀ index client, s.clients[index]? = some client →
      towardClient client sends = (onSocket index [event]).filter (· ≠ []))
    (hisolated : ∀ send ∈ sends, ∃ index client, s.clients[index]? = some client ∧
      (send.socket = .server index ∨ send.socket = .listen ∧ send.destination = client))
    (hsilent : ∀ client, client ∉ s.clients → (fromClient client [event]).filter (· ≠ []) = [])
    (hclosed : ∀ index, s.clients.length ≤ index →
      (onSocket index [event]).filter (· ≠ []) = []) :
    PassthroughInv config env (events ++ [event]) s' := by
  refine ⟨by rw [hclients]; exact hs.unique, hqueue.1, hqueue.2, ?_, ?_, ?_, ?_, ?_⟩
  · intro index client hindex
    rw [hclients] at hindex
    rw [hout, towardServer_append, forServer_append, List.nil_append, List.filter_append,
      hs.toServer index client hindex, hserver index client hindex]
  · intro index client hindex
    rw [hclients] at hindex
    rw [hout, towardClient_append, onSocket_append, List.filter_append,
      hs.toClient index client hindex, hclient index client hindex]
  · intro send hmem
    rw [hclients]
    rw [hout] at hmem
    rcases List.mem_append.1 hmem with hmem | hmem
    · exact hs.isolated send hmem
    · exact hisolated send hmem
  · intro client hnone
    rw [hclients] at hnone
    rw [fromClient_append, List.filter_append, hs.silent client hnone, hsilent client hnone]
    rfl
  · intro index hle
    rw [hclients] at hle
    rw [onSocket_append, List.filter_append, hs.closed index hle, hclosed index hle]
    rfl

/-- Events that bring nothing, and a clock that moves on, keep the invariant. -/
theorem PassthroughInv.quiet {events : List ProxyEvent} {event : ProxyEvent} {s s' : ProxyState}
    (hs : PassthroughInv config env events s) (hsessions : s'.sessions = s.sessions)
    (hout : s'.outgoing = s.outgoing)
    (hsorted : DeadlineQueue.Sorted ScheduledSend.deadline s'.scheduled)
    (hpast : ∀ send ∈ s'.scheduled, ∃ k < s'.clockReads, send.deadline = env.clock k)
    (hclient : ∀ client, (fromClient client [event]).filter (· ≠ []) = [])
    (hsocket : ∀ index, (onSocket index [event]).filter (· ≠ []) = []) :
    PassthroughInv config env (events ++ [event]) s' := by
  have hclients : s'.clients = s.clients := by rw [ProxyState.clients, hsessions]; rfl
  refine @PassthroughInv.extend config env events event s s' [] hs hclients
    (by rw [hout, List.append_nil]) ⟨hsorted, hpast⟩ ?_ ?_ ?_ (fun client _ => hclient client)
    (fun index _ => hsocket index)
  · exact fun index client _ => (forServer_nil (hclient client)).symm
  · exact fun index client _ => (hsocket index).symm
  · intro send hmem
    cases hmem

/-- Nothing has been sent for a session that does not exist yet, so a new one starts clean. -/
theorem PassthroughInv.open {events : List ProxyEvent} {s : ProxyState}
    (hs : PassthroughInv config env events s) {session : Session}
    (hnew : session.clientEndpoint ∉ s.clients) :
    PassthroughInv config env events { s with sessions := s.sessions ++ [session] } := by
  have hclients : ProxyState.clients { s with sessions := s.sessions ++ [session] } =
      s.clients ++ [session.clientEndpoint] := by simp [ProxyState.clients]
  -- what was scheduled went to clients that have a session
  have hserver : towardServer s.clients.length s.outgoing = [] := by
    refine List.map_eq_nil_iff.2 (List.filter_eq_nil_iff.2 fun send hmem => ?_)
    obtain ⟨index, client, hindex, hsocket⟩ := hs.isolated send hmem
    obtain ⟨hlt, -⟩ := List.getElem?_eq_some_iff.1 hindex
    rcases hsocket with hsocket | ⟨hsocket, -⟩
    · simp [hsocket, Nat.ne_of_lt hlt]
    · simp [hsocket]
  have hclient : towardClient session.clientEndpoint s.outgoing = [] := by
    refine List.map_eq_nil_iff.2 (List.filter_eq_nil_iff.2 fun send hmem => ?_)
    obtain ⟨index, client, hindex, hsocket⟩ := hs.isolated send hmem
    rcases hsocket with hsocket | ⟨hsocket, hdest⟩
    · simp [hsocket]
    · have hne : client ≠ session.clientEndpoint := by
        rintro rfl
        exact hnew (List.mem_of_getElem? hindex)
      simp [hdest, hne]
  refine ⟨?_, hs.sorted, hs.past, ?_, ?_, ?_, ?_, ?_⟩
  · rw [hclients, List.nodup_append]
    refine ⟨hs.unique, List.nodup_singleton _, ?_⟩
    intro client hmem other hother
    obtain rfl := List.mem_singleton.1 hother
    rintro rfl
    exact hnew hmem
  · intro index client hindex
    rw [hclients] at hindex
    rcases getElem?_concat_cases hindex with hindex | ⟨rfl, rfl⟩
    · exact hs.toServer index client hindex
    · rw [forServer_nil (hs.silent _ hnew)]
      exact hserver
  · intro index client hindex
    rw [hclients] at hindex
    rcases getElem?_concat_cases hindex with hindex | ⟨rfl, rfl⟩
    · exact hs.toClient index client hindex
    · rw [hs.closed _ (le_refl _)]
      exact hclient
  · intro send hmem
    obtain ⟨index, client, hindex, hsocket⟩ := hs.isolated send hmem
    obtain ⟨hlt, -⟩ := List.getElem?_eq_some_iff.1 hindex
    refine ⟨index, client, ?_, hsocket⟩
    rw [hclients, List.getElem?_append_left hlt]
    exact hindex
  · intro client hnone
    rw [hclients] at hnone
    exact hs.silent client fun hmem => hnone (List.mem_append_left _ hmem)
  · intro index hle
    rw [hclients, List.length_append] at hle
    exact hs.closed index (by omega)

/-- What a relayed datagram does to the queue and to the clients. -/
theorem PassthroughInv.queue {events : List ProxyEvent} {s s' : ProxyState}
    (hs : PassthroughInv config env events s) (hclock : Monotone env.clock) {send : ScheduledSend}
    (hdeadline : send.deadline = env.clock s.clockReads) (hreads : s.clockReads < s'.clockReads)
    (hscheduled : s'.scheduled = s.scheduled ++ [send]) :
    DeadlineQueue.Sorted ScheduledSend.deadline s'.scheduled ∧
      ∀ send ∈ s'.scheduled, ∃ k < s'.clockReads, send.deadline = env.clock k := by
  constructor
  · rw [hscheduled]
    refine @DeadlineQueue.Sorted.append _ _ _ _ _ _ (env.clock s.clockReads) hs.sorted ?_ ?_
    · intro old hmem
      obtain ⟨k, hk, heq⟩ := hs.past old hmem
      rw [heq]
      exact hclock (Nat.le_of_lt hk)
    · intro new hmem
      obtain rfl := List.mem_singleton.1 hmem
      exact hdeadline
  · intro other hmem
    rw [hscheduled] at hmem
    rcases List.mem_append.1 hmem with hmem | hmem
    · obtain ⟨k, hk, heq⟩ := hs.past other hmem
      exact ⟨k, by omega, heq⟩
    · obtain rfl := List.mem_singleton.1 hmem
      exact ⟨s.clockReads, hreads, hdeadline⟩

/-- **A datagram of a client goes to the server** from the client's own socket. -/
theorem PassthroughInv.relayClient {events : List ProxyEvent} {s s' : ProxyState}
    (hs : PassthroughInv config env events s) (hclock : Monotone env.clock) {index : ℕ}
    {client : Endpoint} {bytes : Bytes} (hbytes : bytes ≠ [])
    (hindex : s.clients[index]? = some client) (hsessions : s'.sessions = s.sessions)
    (hreads : s.clockReads < s'.clockReads) (hsent : s'.sent = s.sent)
    (hscheduled : s'.scheduled = s.scheduled ++
      [⟨env.clock s.clockReads, .server index, serverOf config index events, bytes⟩]) :
    PassthroughInv config env (events ++ [.client client bytes]) s' := by
  have hout : s'.outgoing = s.outgoing ++
      [⟨env.clock s.clockReads, .server index, serverOf config index events, bytes⟩] := by
    simp [ProxyState.outgoing, ProxyState.wire, hsent, hscheduled]
  have hclients : s'.clients = s.clients := by rw [ProxyState.clients, hsessions]; rfl
  refine hs.extend hclients hout (hs.queue hclock rfl hreads hscheduled) ?_ ?_ ?_ ?_ fun j _ => rfl
  · intro j other hj
    have hiff := index_eq_iff hs.unique hindex hj
    by_cases heq : index = j
    · have hsame := hiff.1 heq
      simp [towardServer, forServer, heq, hsame, hbytes]
    · have hne : client ≠ other := fun hsame => heq (hiff.2 hsame)
      simp [towardServer, forServer, heq, hne]
  · exact fun j other _ => rfl
  · intro send hmem
    obtain rfl := List.mem_singleton.1 hmem
    exact ⟨index, client, hindex, Or.inl rfl⟩
  · intro other hnone
    have hne : client ≠ other := by
      rintro rfl
      exact hnone (List.mem_of_getElem? hindex)
    simp [fromClient, hne]

/-- **A datagram on a session's socket goes to the client** from the listen socket. -/
theorem PassthroughInv.relayServer {events : List ProxyEvent} {s s' : ProxyState}
    (hs : PassthroughInv config env events s) (hclock : Monotone env.clock) {index : ℕ}
    {before : Session} {sender : Endpoint} {bytes : Bytes} (hbytes : bytes ≠ [])
    (hbefore : s.sessions[index]? = some before)
    (hsessions : s'.sessions = s.sessions.set index (lockServerTid sender before))
    (hreads : s.clockReads < s'.clockReads) (hsent : s'.sent = s.sent)
    (hscheduled : s'.scheduled = s.scheduled ++
      [⟨env.clock s.clockReads, .listen, before.clientEndpoint, bytes⟩]) :
    PassthroughInv config env (events ++ [.server index sender bytes]) s' := by
  have hout : s'.outgoing = s.outgoing ++
      [⟨env.clock s.clockReads, .listen, before.clientEndpoint, bytes⟩] := by
    simp [ProxyState.outgoing, ProxyState.wire, hsent, hscheduled]
  have hindex : s.clients[index]? = some before.clientEndpoint := by
    simp [ProxyState.clients, hbefore]
  have hclients : s'.clients = s.clients := by
    rw [ProxyState.clients, hsessions, List.map_set, lockServerTid_clientEndpoint]
    obtain ⟨hlt, hget⟩ := List.getElem?_eq_some_iff.1 hindex
    conv_rhs => rw [← List.set_getElem_self hlt, hget]
    rfl
  refine hs.extend hclients hout (hs.queue hclock rfl hreads hscheduled) ?_ ?_ ?_
    (fun _ _ => rfl) ?_
  · exact fun j other _ => rfl
  · intro j other hj
    have hiff := index_eq_iff hs.unique hindex hj
    by_cases heq : index = j
    · have hsame := hiff.1 heq
      simp [towardClient, onSocket, heq, hsame, hbytes]
    · have hne : before.clientEndpoint ≠ other := fun hsame => heq (hiff.2 hsame)
      simp [towardClient, onSocket, heq, hne]
  · intro send hmem
    obtain rfl := List.mem_singleton.1 hmem
    exact ⟨index, _, hindex, Or.inr ⟨rfl, rfl⟩⟩
  · intro j hle
    obtain ⟨hlt, -⟩ := List.getElem?_eq_some_iff.1 hindex
    have hne : index ≠ j := by omega
    simp [onSocket, hne]

/-- **One event keeps the invariant.** -/
theorem PassthroughInv.step (himpairment : config.impairment = {})
    (hinjection : config.injection = none) (hclock : Monotone env.clock)
    {events : List ProxyEvent} {event : ProxyEvent} {s s' : ProxyState}
    (hs : PassthroughInv config env events s)
    (hlocated : ∀ index session, s.sessions[index]? = some session →
      session.serverDestination = serverOf config index events)
    (hclosed : serverOf config s.sessions.length events = config.serverEndpoint)
    (hmove : RelayMove config env s event s') :
    PassthroughInv config env (events ++ [event]) s' := by
  cases hmove with
  | emptyClient sender =>
      refine hs.quiet rfl rfl hs.sorted hs.past (fun client => ?_) fun index => rfl
      by_cases heq : sender = client <;> simp [fromClient, heq]
  | emptyServer index sender =>
      refine hs.quiet rfl rfl hs.sorted hs.past (fun client => rfl) fun j => ?_
      by_cases heq : index = j <;> simp [onSocket, heq]
  | emptyStray index sender =>
      exact hs.quiet rfl rfl hs.sorted hs.past (fun client => rfl) fun j => rfl
  | flush =>
      refine hs.quiet rfl ?_ hs.sorted.remaining ?_ (fun client => rfl) fun j => rfl
      · have hsweep := @DeadlineQueue.due_append_remaining _ _ _ _ (env.clock s.clockReads) _
          hs.sorted
        simp only [ProxyState.outgoing, ProxyState.wire, flushDueSends, List.map_append,
          List.map_map, Function.comp_def, List.map_id', List.append_assoc, hsweep]
      · intro send hmem
        obtain ⟨k, hk, heq⟩ := hs.past send (DeadlineQueue.mem_of_mem_remaining hmem)
        exact ⟨k, Nat.lt_succ_of_lt hk, heq⟩
  | @stray index sender bytes hbytes =>
      simp only [handleStray, if_neg hbytes]
      exact hs.quiet rfl rfl hs.sorted hs.past (fun client => rfl) fun j => rfl
  | @known sender bytes index session s' h hbytes hsession hclient hevent hrelayed =>
      have hscheduled := hrelayed.scheduled
      rw [sends_of_relayed himpairment hinjection hrelayed] at hscheduled
      rw [hlocated index session hsession] at hscheduled
      refine hs.relayClient hclock hbytes ?_ hrelayed.sessions hrelayed.clockReads.1 hrelayed.sent
        hscheduled
      simp [ProxyState.clients, hsession, hclient]
  | @opened sender bytes session s' h hbytes hnew hsession hevent hrelayed =>
      have hscheduled := hrelayed.scheduled
      rw [sends_of_relayed himpairment hinjection hrelayed] at hscheduled
      have hopen := @PassthroughInv.open config env events s hs session (by
        rw [hsession]
        intro hmem
        obtain ⟨other, hmem, heq⟩ := List.mem_map.1 hmem
        exact hnew other hmem heq)
      have hserver : session.serverDestination = serverOf config s.sessions.length events := by
        rw [hclosed, hsession]
      rw [hserver] at hscheduled
      refine hopen.relayClient hclock hbytes ?_ hrelayed.sessions hrelayed.clockReads.1
        hrelayed.sent hscheduled
      simp [ProxyState.clients, hsession]
  | @server index sender bytes before session s' h hbytes hbefore hsession hevent hrelayed =>
      have hscheduled := hrelayed.scheduled
      rw [sends_of_relayed himpairment hinjection hrelayed, hsession,
        lockServerTid_clientEndpoint] at hscheduled
      refine hs.relayServer hclock hbytes hbefore ?_ hrelayed.clockReads.1 hrelayed.sent hscheduled
      rw [hrelayed.sessions, hsession]

/-- An empty datagram is no reply. -/
theorem repliers_received (session : ℕ) (events : List ProxyEvent) :
    repliers session (events.filter ProxyEvent.isReceived) = repliers session events := by
  rw [repliers, List.filterMap_filter]
  refine List.filterMap_congr fun event _ => ?_
  cases event with
  | server index sender bytes =>
      by_cases hbytes : bytes = [] <;> simp [ProxyEvent.isReceived, hbytes]
  | flush => rfl
  | client sender bytes => simp
  | stray index sender bytes => simp

/-- **The invariant holds in every run.** -/
theorem passthroughInv (himpairment : config.impairment = {})
    (hinjection : config.injection = none) (hclock : Monotone env.clock)
    {guard : ProxyState → ProxyEvent → Prop} {events : List ProxyEvent} {s : ProxyState}
    (run : ProxyRun config env guard events s) : PassthroughInv config env events s := by
  induction run with
  | start =>
      refine ⟨List.nodup_nil, List.Pairwise.nil, ?_, ?_, ?_, ?_, fun _ _ => rfl, fun _ _ => rfl⟩
      · intro send hmem
        cases hmem
      · intro index client hindex
        cases hindex
      · intro index client hindex
        cases hindex
      · intro send hmem
        cases hmem
  | @step events s run event harrives hguard ih =>
      have hlocated := located_run run
      -- the empty datagrams, which are not in the journal, locate no session
      have hsame : ∀ index, serverOf config index (s.journal.map (·.event)) =
          serverOf config index events := by
        intro index
        rw [serverOf, serverOf, (proxyLedger run).received, repliers_received]
      refine ih.step himpairment hinjection hclock (fun index session hsession => ?_) ?_
        (relayMove_relayStep harrives)
      · rw [← hsame]
        exact (hlocated.located index session hsession).serverDestination
      · rw [← hsame, serverOf, hlocated.closed _ (le_refl _)]
        rfl

end Steps

/-! ### Transparency -/

section Claims

variable {config : ProxyConfig} {env : ProxyEnvironment}

theorem clients_of_sessions {s : ProxyState} {index : ℕ} {session : Session}
    (h : s.sessions[index]? = some session) :
    s.clients[index]? = some session.clientEndpoint := by
  simp [ProxyState.clients, h]

theorem sessions_of_clients {s : ProxyState} {index : ℕ} {client : Endpoint}
    (h : s.clients[index]? = some client) :
    ∃ session, s.sessions[index]? = some session ∧ session.clientEndpoint = client := by
  simpa [ProxyState.clients] using h

/-- The final sweep sends all that was scheduled. -/
theorem PassthroughInv.wire_finalFlush {events : List ProxyEvent} {s : ProxyState}
    (hs : PassthroughInv config env events s) (hclock : Monotone env.clock) :
    (finalFlush env s).wire = s.outgoing := by
  have hdue : ∀ send ∈ s.scheduled,
      send.deadline ≤ env.clock s.clockReads + nanoseconds 3600000 := by
    intro send hmem
    obtain ⟨k, hk, heq⟩ := hs.past send hmem
    have hmono := hclock (Nat.le_of_lt hk)
    have hhour : 0 ≤ nanoseconds 3600000 := by decide
    omega
  obtain ⟨hall, -⟩ := DeadlineQueue.sweep_all hdue
  simp [finalFlush, flushDueSends, ProxyState.wire, ProxyState.outgoing, hall, Function.comp_def]

/-- Filtering the empty datagrams out changes nothing when there are none. -/
theorem filter_ne_nil_iff {α : Type} (bytes : α → Bytes) (received : List α) :
    received.filter (fun datagram => bytes datagram ≠ []) = received ↔
      [] ∉ received.map bytes := by
  rw [List.filter_eq_self, List.mem_map]
  simp

/-- Everything a client has sent is on its way to the server exactly when none of it was empty. -/
theorem PassthroughInv.towardServer_iff {events : List ProxyEvent} {s : ProxyState}
    (hinv : PassthroughInv config env events s) {index : ℕ} {session : Session}
    (hsession : s.sessions[index]? = some session) :
    towardServer index s.outgoing = forServer config index session.clientEndpoint [] events ↔
      [] ∉ fromClient session.clientEndpoint events := by
  rw [hinv.toServer index _ (clients_of_sessions hsession), filter_ne_nil_iff, map_forServer]

/-- Everything on a session's socket is on its way to the client exactly when none of it was
empty. -/
theorem PassthroughInv.towardClient_iff {events : List ProxyEvent} {s : ProxyState}
    (hinv : PassthroughInv config env events s) {index : ℕ} {session : Session}
    (hsession : s.sessions[index]? = some session) :
    towardClient session.clientEndpoint s.outgoing = onSocket index events ↔
      [] ∉ onSocket index events := by
  rw [hinv.toClient index _ (clients_of_sessions hsession)]
  simpa using filter_ne_nil_iff id (onSocket index events)

/-- **The proxy without impairments is transparent exactly when no session is sent an empty
datagram and none takes a client for its server**, in every run, whatever the clients and the
server do. -/
theorem transparent_iff {events : List ProxyEvent} {s : ProxyState}
    (run : ProxyRun config env AnyStep events s) (hclock : Monotone env.clock)
    (himpairment : config.impairment = {}) (hinjection : config.injection = none) :
    Transparent config env events s ↔ ∀ index session, s.sessions[index]? = some session →
      [] ∉ fromClient session.clientEndpoint events ∧ [] ∉ onSocket index events ∧
        ∀ datagram ∈ forServer config index session.clientEndpoint [] events,
          datagram.1 ∉ s.clients := by
  have hinv := passthroughInv himpairment hinjection hclock run
  have hwire := hinv.wire_finalFlush hclock
  constructor
  · intro htransparent index session hsession
    have hall := htransparent.allToServer index session hsession
    refine ⟨?_, ?_, ?_⟩
    · rw [← hinv.towardServer_iff hsession, ← hwire]
      exact hall
    · rw [← hinv.towardClient_iff hsession, ← hwire]
      exact htransparent.allToClient index session hsession
    · -- what was bound for a server has been sent there
      intro datagram hmem
      rw [← hall, towardServer] at hmem
      obtain ⟨send, hsend, rfl⟩ := List.mem_map.1 hmem
      obtain ⟨hsend, hsocket⟩ := List.mem_filter.1 hsend
      obtain ⟨_, _, -, ⟨-, hdestination⟩ | ⟨hlisten, -⟩⟩ := htransparent.isolated send hsend
      · exact hdestination
      · rw [of_decide_eq_true hsocket] at hlisten
        cases hlisten
  · intro hnone
    refine ⟨hinv.unique, ?_, ?_, ?_, ?_, ?_⟩
    · intro index session hsession
      rw [← (hinv.towardServer_iff hsession).2 (hnone index session hsession).1,
        ProxyState.outgoing, towardServer_append]
      exact List.prefix_append _ _
    · intro index session hsession
      rw [← (hinv.towardClient_iff hsession).2 (hnone index session hsession).2.1,
        ProxyState.outgoing, towardClient_append]
      exact List.prefix_append _ _
    · intro index session hsession
      rw [hwire]
      exact (hinv.towardServer_iff hsession).2 (hnone index session hsession).1
    · intro index session hsession
      rw [hwire]
      exact (hinv.towardClient_iff hsession).2 (hnone index session hsession).2.1
    · intro send hmem
      rw [hwire] at hmem
      obtain ⟨index, client, hindex, hsocket⟩ := hinv.isolated send hmem
      obtain ⟨session, hsession, rfl⟩ := sessions_of_clients hindex
      refine ⟨index, session, hsession, hsocket.imp_left fun hsocket => ⟨hsocket, ?_⟩⟩
      -- the send is one of the datagrams that the client sent for the server
      refine (hnone index session hsession).2.2 (send.destination, send.bytes) ?_
      rw [← (hinv.towardServer_iff hsession).2 (hnone index session hsession).1]
      exact List.mem_map.2 ⟨send, List.mem_filter.2 ⟨hmem, decide_eq_true hsocket⟩, rfl⟩

/-- A request, the first block of the reply and its acknowledgement. -/
def firstExchange : List ProxyEvent :=
  [requestForA, firstBlockFrom 5001, .client (loopback 4000) (serializeAcknowledgement 1)]

/-- The exchange passes. -/
theorem transparent_iff_first_block :
    Transparent quietProxy stillWorld firstExchange (quietRun firstExchange) ↔
      ∀ index session, (quietRun firstExchange).sessions[index]? = some session →
        [] ∉ fromClient session.clientEndpoint firstExchange ∧ [] ∉ onSocket index firstExchange ∧
          ∀ datagram ∈ forServer quietProxy index session.clientEndpoint [] firstExchange,
            datagram.1 ∉ (quietRun firstExchange).clients :=
  @transparent_iff quietProxy stillWorld _ _
    (.step (.step (.step .start requestForA trivial trivial) (firstBlockFrom 5001)
      (by decide +kernel) trivial) (.client (loopback 4000) (serializeAcknowledgement 1))
      trivial trivial)
    monotone_const rfl rfl

/-- **An empty datagram of a client with a session** is received and never sent on. -/
theorem empty_datagram_not_relayed :
    ∃ events s, ProxyRun quietProxy stillWorld AnyStep events s ∧
      ¬ Transparent quietProxy stillWorld events s := by
  refine ⟨_, _, .step (.step .start requestForA trivial trivial) (.client (loopback 4000) [])
    trivial trivial, ?_⟩
  intro htransparent
  have hsessions : (quietRun [requestForA, .client (loopback 4000) []]).sessions[0]? =
      some { clientEndpoint := loopback 4000, serverDestination := loopback 69 } := by
    decide +kernel
  have hall := htransparent.allToServer 0 _ hsessions
  have hne : towardServer 0 (finalFlush stillWorld
      (quietRun [requestForA, .client (loopback 4000) []])).wire ≠
        forServer quietProxy 0 (loopback 4000) [] [requestForA, .client (loopback 4000) []] := by
    decide +kernel
  exact hne hall

end Claims

end TftpHarness
