/-
**The test bench: a client, the impairment proxy and the server.**

A test never lets the client talk to the server.  The client sends to the listen socket of the
proxy, the proxy sends on from a socket of its own to the server, and everything that comes back is
handed to the client from the listen socket.  The bench is a `Network.System`: the network between
any two of the parties may drop, repeat, delay and reorder, next to what the proxy does on purpose.

Main definitions:

* `TftpHarness.BenchParty`, `TftpHarness.BenchAddresses` — who has an address on the bench;
* `TftpHarness.BenchState`, `TftpHarness.bench` — the parties and their reactions;
* `TftpHarness.ImpairmentConfig.KeepsBytes` — a pipeline that corrupts nothing;
* `TftpHarness.ProxyState.ServesOnly`, `TftpHarness.ProxyState.front` — the proxy of one client, and
  the address its session is locked to.

Main results:

* `TftpHarness.recipient_address` — a datagram reaches the party whose address it bears, or nobody;
* `TftpHarness.Relayed.copies` — **without corruption and injection the proxy sends copies only**;
* `TftpHarness.relayStep_fromClient`, `TftpHarness.relayStep_fromServer` — what a datagram makes the
  proxy of one client do.
-/

import TftpHarness.Network
import TftpHarness.Proxy
import TftpHarness.World

set_option relaxedAutoImplicit false
set_option autoImplicit false

namespace TftpHarness

/-! ### The parties -/

/-- Everybody with an address on the bench. -/
inductive BenchParty
  | client
  | proxy (socket : ProxySocket)
  | listener
  | session (k : ℕ)
  deriving DecidableEq, Repr

/-- The addresses of the bench.  No two parties share one. -/
structure BenchAddresses where
  address : BenchParty → Endpoint
  injective : Function.Injective address

/-- The client, the proxy, the handlers of the server and the files it serves. -/
structure BenchState (γ : Type) where
  client : γ
  proxy : ProxyState
  sessions : List Handler
  files : Files

/-- What happens without a datagram: a receive times out, or the relay loop sweeps its queue. -/
inductive BenchEvent
  | timeoutClient
  | timeoutSession (k : ℕ)
  | flush
  deriving DecidableEq, Repr

/-- A datagram on a socket of the proxy, as an event of the relay loop. -/
def ProxySocket.arrival (sender : Endpoint) (bytes : Bytes) : ProxySocket → ProxyEvent
  | .listen => .client sender bytes
  | .server session => .server session sender bytes
  | .stray index => .stray index sender bytes

section Bench

variable {γ : Type} (addresses : BenchAddresses) (config : ProxyConfig) (clock : ℕ → ℤ)
  (R : Service.Roles Endpoint Bytes γ Handler Files)

/-- The world of the proxy, whose sockets are bound where the bench says. -/
def BenchAddresses.environment : ProxyEnvironment where
  clock := clock
  localPort socket := (addresses.address (.proxy socket)).port

/-- The parties there are. -/
def BenchState.parties (s : BenchState γ) : List BenchParty :=
  [.client, .listener, .proxy .listen] ++
    (List.range s.proxy.sessions.length).map (fun i => .proxy (.server i)) ++
    (List.range s.proxy.strayCount).map (fun i => .proxy (.stray i)) ++
    (List.range s.sessions.length).map .session

/-- The party a datagram for `target` reaches. -/
def BenchState.recipient (s : BenchState γ) (target : Endpoint) : Option BenchParty :=
  s.parties.find? fun party => addresses.address party = target

/-- A send of the proxy in transit. -/
def BenchAddresses.transmit (send : ScheduledSend) : Service.Datagram Endpoint Bytes :=
  ⟨addresses.address (.proxy send.socket), send.destination, send.bytes⟩

/-- An event of the relay loop; what it hands to `send_to` is in transit from then on. -/
def BenchState.relay (s : BenchState γ) (event : ProxyEvent) :
    BenchState γ × List (Service.Datagram Endpoint Bytes) :=
  let proxy := relayStep config (addresses.environment clock) s.proxy event
  ({ s with proxy := proxy },
    (proxy.sent.drop s.proxy.sent.length).map fun t => addresses.transmit t.send)

/-- The client reacts. -/
def BenchState.reactClient (s : BenchState γ) (event : Option (Endpoint × Bytes)) :
    BenchState γ × List (Service.Datagram Endpoint Bytes) :=
  ({ s with client := (R.client s.client event).1 },
    Service.sendsFrom (addresses.address .client) (R.client s.client event).2)

/-- Session `k`, which stands at `h`, reacts. -/
def BenchState.reactSession (s : BenchState γ) (k : ℕ) (h : Handler)
    (event : Option (Endpoint × Bytes)) :
    BenchState γ × List (Service.Datagram Endpoint Bytes) :=
  ({ s with
      sessions := s.sessions.set k (R.session s.files h event).2.1
      files := (R.session s.files h event).1 },
    Service.sendsFrom (addresses.address (.session k)) (R.session s.files h event).2.2)

/-- The listener turns a datagram into a session, or drops it. -/
def BenchState.listen (s : BenchState γ) (sender : Endpoint) (bytes : Bytes) :
    BenchState γ × List (Service.Datagram Endpoint Bytes) :=
  match R.accept s.files sender bytes with
  | none => (s, [])
  | some (h, sends) =>
      ({ s with sessions := s.sessions ++ [h] },
        Service.sendsFrom (addresses.address (.session s.sessions.length)) sends)

/-- A datagram arrives. -/
def BenchState.receive (s : BenchState γ) (d : Service.Datagram Endpoint Bytes) :
    BenchState γ × List (Service.Datagram Endpoint Bytes) :=
  match s.recipient addresses d.target with
  | none => (s, [])
  | some .client => s.reactClient addresses R (some (d.source, d.message))
  | some (.proxy socket) => s.relay addresses config clock (socket.arrival d.source d.message)
  | some .listener => s.listen addresses R d.source d.message
  | some (.session k) =>
      match s.sessions[k]? with
      | none => (s, [])
      | some h => s.reactSession addresses R k h (some (d.source, d.message))

/-- Something happens without a datagram. -/
def BenchState.act (s : BenchState γ) : BenchEvent →
    BenchState γ × List (Service.Datagram Endpoint Bytes)
  | .timeoutClient => s.reactClient addresses R none
  | .timeoutSession k =>
      match s.sessions[k]? with
      | none => (s, [])
      | some h => s.reactSession addresses R k h none
  | .flush => s.relay addresses config clock .flush

/-- **The bench.** -/
def bench : Network.System (BenchState γ) Endpoint Bytes BenchEvent where
  receive := BenchState.receive addresses config clock R
  act := BenchState.act addresses config clock R

/-! ### Who is reached -/

variable {addresses config clock R}

/-- **A datagram reaches the party whose address it bears**, if there is one. -/
theorem recipient_address {s : BenchState γ} {party party' : BenchParty}
    (h : s.recipient addresses (addresses.address party) = some party') :
    party' = party ∧ party ∈ s.parties := by
  have haddress : addresses.address party' = addresses.address party := by
    simpa using List.find?_some h
  have hmem := List.mem_of_find?_eq_some h
  rw [addresses.injective haddress] at hmem
  exact ⟨addresses.injective haddress, hmem⟩

theorem mem_parties_server {s : BenchState γ} {i : ℕ} :
    .proxy (.server i) ∈ s.parties ↔ i < s.proxy.sessions.length := by
  simp [BenchState.parties]

/-- What a party's reaction to a datagram keeps holds after the datagram, whether the party is there
or not. -/
theorem bench_receive {I : BenchState γ → Prop}
    {T : BenchState γ → Service.Datagram Endpoint Bytes → Prop} {s : BenchState γ}
    {d : Service.Datagram Endpoint Bytes} {party : BenchParty} (hs : I s)
    (htarget : d.target = addresses.address party)
    (hclient : party = .client →
      Network.Keeps I T s (s.reactClient addresses R (some (d.source, d.message))))
    (hproxy : ∀ socket, party = .proxy socket → .proxy socket ∈ s.parties →
      Network.Keeps I T s (s.relay addresses config clock (socket.arrival d.source d.message)))
    (hlistener : party = .listener →
      Network.Keeps I T s (s.listen addresses R d.source d.message))
    (hsession : ∀ k h, party = .session k → s.sessions[k]? = some h →
      Network.Keeps I T s (s.reactSession addresses R k h (some (d.source, d.message)))) :
    Network.Keeps I T s ((bench addresses config clock R).receive s d) := by
  simp only [bench, BenchState.receive, htarget]
  cases hrecipient : s.recipient addresses (addresses.address party) with
  | none => exact Network.Keeps.refl hs
  | some party' =>
      obtain ⟨rfl, hmem⟩ := recipient_address hrecipient
      cases party' with
      | client => exact hclient rfl
      | proxy socket => exact hproxy socket rfl hmem
      | listener => exact hlistener rfl
      | session k =>
          simp only
          cases hk : s.sessions[k]? with
          | none => exact Network.Keeps.refl hs
          | some h => exact hsession k h rfl hk

end Bench

/-! ### What the proxy sends -/

/-- A pipeline that corrupts nothing. -/
def ImpairmentConfig.KeepsBytes (config : ImpairmentConfig) : Prop :=
  config.corruptionProbability.le (Double.ofInt 0) = true

instance (config : ImpairmentConfig) : Decidable config.KeepsBytes :=
  inferInstanceAs (Decidable (_ = true))

section Copies

variable {config : ProxyConfig} {env : ProxyEnvironment}

theorem maybeCorrupt_keepsBytes {config : ImpairmentConfig} (h : config.KeepsBytes)
    (datagram : Bytes) (s : PipelineState) : (maybeCorrupt config datagram s).1.1 = datagram := by
  have hfires : (s.draw config.corruptionProbability).1 = false := by
    have hle : config.corruptionProbability.le (Double.ofInt 0) = true := h
    simp only [PipelineState.draw, bernoulli, hle, if_true]
  simp only [maybeCorrupt]
  split
  · rfl
  · simp only [hfires, Bool.not_false, if_true]

/-- What survives a pipeline that corrupts nothing has the bytes that entered it. -/
theorem process_keepsBytes {config : ImpairmentConfig} (h : config.KeepsBytes)
    (direction : Direction) (datagram : Bytes) (isDataPacket : Bool) (now : ℤ)
    (s : PipelineState) :
    ∀ delivery ∈ (process config direction datagram isDataPacket now s).1.deliveries,
      delivery.bytes = datagram := by
  have hdeliver : ∀ t : PipelineState, ∀ delivery ∈ (deliver config datagram now t).1.deliveries,
      delivery.bytes = datagram := by
    intro t delivery hmem
    have hbytes := maybeCorrupt_keepsBytes h datagram t
    simp only [deliver] at hmem
    split at hmem
    · simp only [List.mem_cons, List.not_mem_nil, or_false] at hmem
      rcases hmem with rfl | rfl <;> exact hbytes
    · rw [List.mem_singleton.1 hmem]
      exact hbytes
  unfold process
  split
  · simp
  · split
    · simp
    · exact hdeliver _

/-- **Without corruption and injection the proxy sends copies only.** -/
theorem Relayed.copies (hinjection : config.injection = none)
    (hbytes : config.impairment.KeepsBytes) {index : ℕ} {session : Session}
    {direction : Direction} {datagram : Bytes} {outbound : ProxySocket} {destination : Endpoint}
    {s s' : ProxyState} {h : Handled}
    (hrelayed : Relayed config env index session direction datagram outbound destination s s' h) :
    ∀ send ∈ h.allSends,
      send.socket = outbound ∧ send.destination = destination ∧ send.bytes = datagram := by
  have hnone : h.injections = [] := by
    have hpackets := hrelayed.packets
    rw [scriptPackets, hinjection] at hpackets
    exact List.map_eq_nil_iff.1 hpackets
  intro send hmem
  rw [Handled.allSends, hnone, List.map_nil, List.append_nil, hrelayed.sends,
    scheduledSends] at hmem
  split at hmem
  · exact absurd hmem List.not_mem_nil
  · obtain ⟨delivery, hdelivery, rfl⟩ := List.mem_map.1 hmem
    exact ⟨rfl, rfl, process_keepsBytes hbytes _ _ _ _ _ delivery hdelivery⟩

/-- A sweep sends what has been scheduled. -/
theorem flushDueSends_spec (now : ℤ) (s : ProxyState) :
    (∀ send ∈ (flushDueSends now s).scheduled, send ∈ s.scheduled) ∧
      ∀ t ∈ (flushDueSends now s).sent.drop s.sent.length, t.send ∈ s.scheduled := by
  refine ⟨fun send hmem => (List.mem_filter.1 hmem).1, fun t hmem => ?_⟩
  simp only [flushDueSends, List.drop_left] at hmem
  obtain ⟨send, hdue, rfl⟩ := List.mem_map.1 hmem
  exact (List.mem_filter.1 hdue).1

end Copies

/-! ### The proxy of one client -/

section OneClient

/-- The address in the server that the session of the only client is locked to, if it is. -/
def ProxyState.front (p : ProxyState) : Option Endpoint :=
  match p.sessions with
  | session :: _ => if session.serverTidLocked then some session.serverDestination else none
  | [] => none

/-- The proxy has at most one session, that of `client`, which sends to `server` until it is locked.
-/
def ProxyState.ServesOnly (client server : Endpoint) (p : ProxyState) : Prop :=
  p.sessions = [] ∨ ∃ session, p.sessions = [session] ∧ session.clientEndpoint = client ∧
    (session.serverTidLocked = false → session.serverDestination = server)

variable {config : ProxyConfig} {env : ProxyEnvironment} {client : Endpoint} {p : ProxyState}

theorem front_of_sessions {session : Session} (h : p.sessions = [session]) :
    p.front = if session.serverTidLocked then some session.serverDestination else none := by
  simp only [ProxyState.front, h]

/-- The session of the only client. -/
theorem ProxyState.ServesOnly.session {server : Endpoint} (h : p.ServesOnly client server) {i : ℕ}
    {session : Session} (hi : p.sessions[i]? = some session) :
    i = 0 ∧ p.sessions = [session] ∧ session.clientEndpoint = client ∧
      session.serverDestination = p.front.getD server := by
  rcases h with hnil | ⟨only, hsessions, hclient, hdestination⟩
  · simp [hnil] at hi
  · have hone : i = 0 := by
      have hlt := (List.getElem?_eq_some_iff.1 hi).1
      rw [hsessions, List.length_singleton] at hlt
      omega
    subst hone
    rw [hsessions] at hi
    cases Option.some.inj hi
    refine ⟨rfl, hsessions, hclient, ?_⟩
    rw [front_of_sessions hsessions]
    cases hlocked : session.serverTidLocked with
    | true => rfl
    | false => exact hdestination hlocked

/-- What a datagram from the only client makes the proxy do: it schedules copies to the address the
session is locked to, or to the server's own. -/
theorem relayStep_fromClient (hinjection : config.injection = none)
    (hbytes : config.impairment.KeepsBytes) (hone : p.ServesOnly client config.serverEndpoint)
    (bytes : Bytes) :
    (relayStep config env p (.client client bytes)).ServesOnly client config.serverEndpoint ∧
      (relayStep config env p (.client client bytes)).front = p.front ∧
      (relayStep config env p (.client client bytes)).sent = p.sent ∧
      ∀ send ∈ (relayStep config env p (.client client bytes)).scheduled, send ∈ p.scheduled ∨
        send.socket = .server 0 ∧ send.destination = p.front.getD config.serverEndpoint ∧
          send.bytes = bytes := by
  have hmove := @relayMove_relayStep config env p (.client client bytes) trivial
  generalize relayStep config env p (.client client bytes) = p' at hmove
  cases hmove with
  | emptyClient => exact ⟨hone, rfl, rfl, fun send hmem => Or.inl hmem⟩
  | known hne hsession hclient hevent hrelayed =>
      obtain ⟨rfl, hsessions, hclient', hdestination⟩ := hone.session hsession
      refine ⟨?_, ?_, hrelayed.sent, fun send hmem => ?_⟩
      · rw [ProxyState.ServesOnly, hrelayed.sessions]
        exact hone
      · rw [ProxyState.front, hrelayed.sessions, ProxyState.front]
      · rw [hrelayed.scheduled, List.mem_append] at hmem
        refine hmem.imp_right fun hnew => ?_
        obtain ⟨hsocket, hto, hcopy⟩ := hrelayed.copies hinjection hbytes send hnew
        exact ⟨hsocket, hto.trans hdestination, hcopy⟩
  | opened hne hnew hsession hevent hrelayed =>
      subst hsession
      have hnil : p.sessions = [] := by
        rcases hone with hnil | ⟨only, hsessions, hclient, -⟩
        · exact hnil
        · exact absurd hclient (hnew only (by rw [hsessions]; exact List.mem_singleton_self _))
      have hsessions := hrelayed.sessions
      simp only [hnil, List.nil_append] at hsessions
      have hfront : p.front = none := by simp only [ProxyState.front, hnil]
      refine ⟨Or.inr ⟨_, hsessions, rfl, fun _ => rfl⟩, ?_, hrelayed.sent, fun send hmem => ?_⟩
      · rw [front_of_sessions hsessions, hfront]
        rfl
      · rw [hrelayed.scheduled, List.mem_append] at hmem
        refine hmem.imp_right fun hsend => ?_
        obtain ⟨hsocket, hto, hcopy⟩ := hrelayed.copies hinjection hbytes send hsend
        rw [hnil] at hsocket
        rw [hfront]
        exact ⟨hsocket, hto, hcopy⟩

/-- What a datagram from the server makes the proxy do: the session is locked to its sender unless
it was locked before, and copies go to the client. -/
theorem relayStep_fromServer (hinjection : config.injection = none)
    (hbytes : config.impairment.KeepsBytes) (hone : p.ServesOnly client config.serverEndpoint)
    (harrives : 0 < p.sessions.length) (sender : Endpoint) {bytes : Bytes} (hne : bytes ≠ []) :
    (relayStep config env p (.server 0 sender bytes)).ServesOnly client config.serverEndpoint ∧
      (relayStep config env p (.server 0 sender bytes)).front = some (p.front.getD sender) ∧
      (relayStep config env p (.server 0 sender bytes)).sent = p.sent ∧
      ∀ send ∈ (relayStep config env p (.server 0 sender bytes)).scheduled, send ∈ p.scheduled ∨
        send.socket = .listen ∧ send.destination = client ∧ send.bytes = bytes := by
  have hmove := @relayMove_relayStep config env p (.server 0 sender bytes) harrives
  generalize relayStep config env p (.server 0 sender bytes) = p' at hmove
  cases hmove with
  | emptyServer => exact absurd rfl hne
  | @server _ _ _ before session _ h _ hbefore hsession hevent hrelayed =>
      obtain ⟨-, hsessions, hclient, -⟩ := hone.session hbefore
      have hsessions' : p'.sessions = [session] := by
        rw [hrelayed.sessions, hsessions]
        rfl
      have hclient' : session.clientEndpoint = client := by
        rw [hsession, lockServerTid_clientEndpoint, hclient]
      have hlocked : session.serverTidLocked = true := by
        rw [hsession, serverTidLocked_lockServerTid]
      refine ⟨Or.inr ⟨session, hsessions', hclient', fun hnot => ?_⟩, ?_, hrelayed.sent,
        fun send hmem => ?_⟩
      · exact absurd (hlocked.symm.trans hnot) (by decide)
      · rw [front_of_sessions hsessions', front_of_sessions hsessions, hlocked, if_pos rfl,
          hsession]
        cases hbefore' : before.serverTidLocked with
        | true =>
            rw [lockServerTid_locked hbefore']
            rfl
        | false =>
            rw [lockServerTid_unlocked hbefore']
            rfl
      · rw [hrelayed.scheduled, List.mem_append] at hmem
        refine hmem.imp_right fun hnew => ?_
        obtain ⟨hsocket, hto, hcopy⟩ := hrelayed.copies hinjection hbytes send hnew
        exact ⟨hsocket, hto.trans hclient', hcopy⟩

end OneClient

end TftpHarness
