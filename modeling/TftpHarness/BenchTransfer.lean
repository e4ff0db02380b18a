/-
**Transfers over the test bench.**

A download and an upload have the same story on the bench.  The client sees one server, at the
listen socket of the proxy, whoever speaks behind it.  A request that is repeated before the first
reply opens several handlers; the proxy hands on what any of them sends, and hands what the client
says to the one it has locked onto, the handler in front.

A transfer is given by its request, by what holds of the client, the handler in front, all handlers
and the files, and by what the client and a handler may have sent.  The proxy and the network add
nothing to that: when every reaction of the two ends keeps what holds, so does every event of the
bench.

Main definitions:

* `TftpHarness.BenchTransfer` — a kind of transfer;
* `TftpHarness.BenchTransfer.Transit`, `TftpHarness.BenchTransfer.Inv` — what may be in transit, and
  the invariant of the bench;
* `TftpHarness.BenchTransfer.Lawful` — what the reactions of the two ends have to keep.

Main results:

* `TftpHarness.BenchTransfer.Lawful.receive`, `TftpHarness.BenchTransfer.Lawful.act` — every event
  keeps the invariant;
* `TftpHarness.BenchTransfer.Lawful.run` — **so does every run**.
-/

import TftpHarness.Bench

set_option relaxedAutoImplicit false
set_option autoImplicit false

namespace TftpHarness

/-- A kind of transfer, for a client with states `γ`: its request, what holds of the client, the
address in the server that the proxy is locked onto, the handlers and the files, and what the two
sides may have sent. -/
structure BenchTransfer (γ : Type) where
  request : Bytes
  Agrees : γ → Option Endpoint → List Handler → Files → Prop
  ClientSends : γ → Bytes → Prop
  HandlerSends : Handler → Bytes → Prop

/-- The address the server sees the client at: that of the proxy's socket for it. -/
abbrev BenchAddresses.relaySocket (addresses : BenchAddresses) : Endpoint :=
  addresses.address (.proxy (.server 0))

/-! ### The handler in front -/

/-- The server as the client sees it: a handler at the listen socket of the proxy. -/
def BenchAddresses.frontAddress (addresses : BenchAddresses) : ℕ → Endpoint
  | 0 => addresses.address (.proxy .listen)
  | k + 1 => addresses.address (.session k)

theorem frontAddress_injective (addresses : BenchAddresses) :
    ∀ j k, addresses.frontAddress j = addresses.frontAddress k → j = k := by
  intro j k h
  cases j with
  | zero =>
      cases k with
      | zero => rfl
      | succ k => exact absurd (addresses.injective h) (by simp)
  | succ j =>
      cases k with
      | zero => exact absurd (addresses.injective h) (by simp)
      | succ k =>
          have heq := addresses.injective h
          rw [BenchParty.session.inj heq]

/-- The handlers the client may think of: the one in front, or none. -/
def InFront (addresses : BenchAddresses) (front : Option Endpoint) (sessions : List Handler)
    (visible : List Handler) : Prop :=
  front = none ∧ visible = [] ∨ ∃ (k : ℕ) (h : Handler),
    front = some (addresses.address (.session k)) ∧ sessions[k]? = some h ∧ visible = [h]

theorem eq_of_getElem?_singleton {α : Type} {g h : α} {j : ℕ} (hj : [h][j]? = some g) :
    j = 0 ∧ g = h := by
  cases j with
  | zero => exact ⟨rfl, (Option.some.inj hj).symm⟩
  | succ j => exact absurd hj (by simp)

theorem eventOf_eq_datagram {event : Option (Endpoint × Bytes)} {sender : Endpoint}
    {bytes : Bytes} : eventOf event = .datagram sender bytes ↔ event = some (sender, bytes) := by
  cases event with
  | none => simp [eventOf]
  | some received => simp [eventOf, Prod.ext_iff]

namespace BenchTransfer

variable {γ : Type}

/-! ### The invariant -/

section Invariant

variable (T : BenchTransfer γ) (addresses : BenchAddresses)
  (R : Service.Roles Endpoint Bytes γ Handler Files)

/-- What the client may have sent to the proxy: the request, and once the proxy has handed it a
reply, what belongs to the transfer. -/
def ClientSays (c : γ) (front : Option Endpoint) (bytes : Bytes) : Prop :=
  bytes = T.request ∨ front ≠ none ∧ T.ClientSends c bytes

/-- What may be in transit on the bench. -/
inductive Transit (s : BenchState γ) (d : Service.Datagram Endpoint Bytes) : Prop
  | fromClient (source : d.source = addresses.address .client)
      (target : d.target = addresses.address (.proxy .listen))
      (message : T.ClientSays s.client s.proxy.front d.message)
  | request (source : d.source = addresses.relaySocket)
      (target : d.target = addresses.address .listener) (message : d.message = T.request)
  | toSession (k : ℕ) (source : d.source = addresses.relaySocket)
      (target : d.target = addresses.address (.session k))
      (front : s.proxy.front = some (addresses.address (.session k)))
      (message : T.ClientSays s.client s.proxy.front d.message)
  | toRelay (k : ℕ) (h : Handler) (source : d.source = addresses.address (.session k))
      (target : d.target = addresses.relaySocket) (session : s.sessions[k]? = some h)
      (message : T.HandlerSends h d.message)
  | toClient (k : ℕ) (h : Handler) (source : d.source = addresses.address (.proxy .listen))
      (target : d.target = addresses.address .client) (front : s.proxy.front ≠ none)
      (session : s.sessions[k]? = some h) (message : T.HandlerSends h d.message)

/-- **The invariant of a transfer over the bench.** -/
structure Inv (s : BenchState γ) : Prop where
  agrees : T.Agrees s.client s.proxy.front s.sessions s.files
  relays : s.proxy.ServesOnly (addresses.address .client) (addresses.address .listener)
  queue : ∀ send ∈ s.proxy.scheduled, T.Transit addresses s (addresses.transmit send)

/-- The parties only move on: the proxy stays locked, and what has been sent may still have been. -/
structure Grows (s s' : BenchState γ) : Prop where
  front : ∀ e, s.proxy.front = some e → s'.proxy.front = some e
  client : ∀ bytes, T.ClientSends s.client bytes → T.ClientSends s'.client bytes
  sessions : ∀ (k : ℕ) h, s.sessions[k]? = some h → ∃ h', s'.sessions[k]? = some h' ∧
    ∀ bytes, T.HandlerSends h bytes → T.HandlerSends h' bytes

/-- **What the two ends have to keep.**  They hear nothing but what the other side may have sent:
the client from the listen socket of the proxy, and only the handler in front from the other one. -/
structure Lawful : Prop where
  handlerSends_ne_nil : ∀ h bytes, T.HandlerSends h bytes → bytes ≠ []
  ahead : ∀ {c front sessions files e}, T.Agrees c front sessions files → front = some e →
    ∃ k, e = addresses.address (.session k)
  /-- The handler that answers first comes to the front. -/
  locks : ∀ {c sessions files} {k : ℕ} {h : Handler}, T.Agrees c none sessions files →
    sessions[k]? = some h → T.Agrees c (some (addresses.address (.session k))) sessions files
  client : ∀ {c front sessions files event}, T.Agrees c front sessions files →
    (∀ sender bytes, event = some (sender, bytes) →
      sender = addresses.address (.proxy .listen) ∧ front ≠ none ∧
        ∃ (k : ℕ) (h : Handler), sessions[k]? = some h ∧ T.HandlerSends h bytes) →
    T.Agrees (R.client c event).1 front sessions files ∧
      (∀ bytes, T.ClientSends c bytes → T.ClientSends (R.client c event).1 bytes) ∧
      ∀ send ∈ (R.client c event).2, send.1 = addresses.address (.proxy .listen) ∧
        T.ClientSays (R.client c event).1 front send.2
  session : ∀ {c front sessions files event} {k : ℕ} {h : Handler},
    T.Agrees c front sessions files → sessions[k]? = some h →
    (∀ sender bytes, event = some (sender, bytes) → sender = addresses.relaySocket ∧
      front = some (addresses.address (.session k)) ∧ T.ClientSays c front bytes) →
    T.Agrees c front (sessions.set k (R.session files h event).2.1) (R.session files h event).1 ∧
      (∀ bytes, T.HandlerSends h bytes → T.HandlerSends (R.session files h event).2.1 bytes) ∧
      ∀ send ∈ (R.session files h event).2.2, send.1 = addresses.relaySocket ∧
        T.HandlerSends (R.session files h event).2.1 send.2
  accept : ∀ {c front sessions files h sends}, T.Agrees c front sessions files →
    R.accept files addresses.relaySocket T.request = some (h, sends) →
    T.Agrees c front (sessions ++ [h]) files ∧
      ∀ send ∈ sends, send.1 = addresses.relaySocket ∧ T.HandlerSends h send.2

end Invariant

section Steps

variable {T : BenchTransfer γ} {addresses : BenchAddresses} {s s' : BenchState γ}
  {R : Service.Roles Endpoint Bytes γ Handler Files}

/-! ### What is in transit stays explained -/

theorem Grows.front_ne (hgrows : T.Grows s s') (h : s.proxy.front ≠ none) :
    s'.proxy.front ≠ none := by
  obtain ⟨e, he⟩ := Option.ne_none_iff_exists'.1 h
  rw [hgrows.front e he]
  exact Option.some_ne_none e

theorem ClientSays.mono (hgrows : T.Grows s s') {bytes : Bytes}
    (h : T.ClientSays s.client s.proxy.front bytes) :
    T.ClientSays s'.client s'.proxy.front bytes :=
  h.imp_right fun ⟨hfront, hsends⟩ => ⟨hgrows.front_ne hfront, hgrows.client _ hsends⟩

/-- What is in transit may still be when the parties have moved on. -/
theorem Transit.mono (hgrows : T.Grows s s') {d : Service.Datagram Endpoint Bytes}
    (h : T.Transit addresses s d) : T.Transit addresses s' d := by
  cases h with
  | fromClient source target message => exact .fromClient source target (message.mono hgrows)
  | request source target message => exact .request source target message
  | toSession k source target front message =>
      exact .toSession k source target (hgrows.front _ front) (message.mono hgrows)
  | toRelay k h source target session message =>
      obtain ⟨h', hk, hsends⟩ := hgrows.sessions k h session
      exact .toRelay k h' source target hk (hsends _ message)
  | toClient k h source target front session message =>
      obtain ⟨h', hk, hsends⟩ := hgrows.sessions k h session
      exact .toClient k h' source target (hgrows.front_ne front) hk (hsends _ message)

/-- A proxy that stays locked moves on, whatever else it does. -/
theorem Grows.proxy {p : ProxyState}
    (hfront : ∀ e, s.proxy.front = some e → p.front = some e) :
    T.Grows s { s with proxy := p } :=
  ⟨hfront, fun _ => id, fun _ h hk => ⟨h, hk, fun _ => id⟩⟩

/-- A server that opens a handler, or does not, moves on. -/
theorem grows_listen (sender : Endpoint) (bytes : Bytes) :
    T.Grows s (s.listen addresses R sender bytes).1 := by
  refine ⟨fun e he => ?_, fun bytes hsends => ?_, fun k h hk => ⟨h, ?_, fun _ => id⟩⟩
  · simp only [BenchState.listen]
    split <;> exact he
  · simp only [BenchState.listen]
    split <;> exact hsends
  · simp only [BenchState.listen]
    split
    · exact hk
    · exact Service.getElem?_open hk

/-- A reaction keeps the invariant when the parties move on and agree again. -/
theorem Inv.keeps (hinv : T.Inv addresses s) (hgrows : T.Grows s s')
    (hagrees : T.Agrees s'.client s'.proxy.front s'.sessions s'.files)
    (hrelays : s'.proxy.ServesOnly (addresses.address .client) (addresses.address .listener))
    (hqueue : ∀ send ∈ s'.proxy.scheduled, send ∈ s.proxy.scheduled ∨
      T.Transit addresses s' (addresses.transmit send))
    {sends : List (Service.Datagram Endpoint Bytes)}
    (hsends : ∀ d ∈ sends, T.Transit addresses s' d) :
    Network.Keeps (T.Inv addresses) (T.Transit addresses) s (s', sends) := by
  refine ⟨⟨hagrees, hrelays, fun send hmem => ?_⟩, fun d hd => hd.mono hgrows, hsends⟩
  rcases hqueue send hmem with hold | hnew
  · exact (hinv.queue send hold).mono hgrows
  · exact hnew

/-! ### The proxy reacts -/

section Proxy

variable {config : ProxyConfig} {clock : ℕ → ℤ} (hlawful : T.Lawful addresses R)
  (hinv : T.Inv addresses s)

include hinv

/-- A move of the proxy that leaves its lock as it is. -/
theorem Inv.relay {p : ProxyState} {sends : List (Service.Datagram Endpoint Bytes)}
    (hfront : p.front = s.proxy.front)
    (hrelays : p.ServesOnly (addresses.address .client) (addresses.address .listener))
    (hqueue : ∀ send ∈ p.scheduled, send ∈ s.proxy.scheduled ∨
      T.Transit addresses { s with proxy := p } (addresses.transmit send))
    (hsends : ∀ d ∈ sends, T.Transit addresses { s with proxy := p } d) :
    Network.Keeps (T.Inv addresses) (T.Transit addresses) s ({ s with proxy := p }, sends) := by
  have hagrees := hinv.agrees
  rw [← hfront] at hagrees
  exact hinv.keeps (Grows.proxy fun e he => hfront.trans he) hagrees hrelays hqueue hsends

/-- A sweep hands on what has been scheduled. -/
theorem Inv.flush :
    Network.Keeps (T.Inv addresses) (T.Transit addresses) s
      (s.relay addresses config clock .flush) := by
  obtain ⟨hqueue, hsent⟩ := flushDueSends_spec
    ((addresses.environment clock).clock s.proxy.clockReads)
    { s.proxy with clockReads := s.proxy.clockReads + 1 }
  refine hinv.relay rfl hinv.relays (fun send hmem => Or.inl (hqueue send hmem)) ?_
  intro d hd
  obtain ⟨t, ht, rfl⟩ := List.mem_map.1 hd
  have hgrows : T.Grows s (s.relay addresses config clock .flush).1 := Grows.proxy fun _ => id
  exact (hinv.queue t.send (hsent t ht)).mono hgrows

variable (hserver : config.serverEndpoint = addresses.address .listener)
  (hinjection : config.injection = none) (hbytes : config.impairment.KeepsBytes)

include hlawful hserver hinjection hbytes

/-- A datagram of the client is handed on to the handler in front, or before there is one to the
listener, which is then a copy of the request. -/
theorem Inv.fromClient {bytes : Bytes} (hmessage : T.ClientSays s.client s.proxy.front bytes) :
    Network.Keeps (T.Inv addresses) (T.Transit addresses) s
      (s.relay addresses config clock (.client (addresses.address .client) bytes)) := by
  have hrelays := hinv.relays
  rw [← hserver] at hrelays
  obtain ⟨hrelays', hfront, hsent, hqueue⟩ := @relayStep_fromClient config
    (addresses.environment clock) _ s.proxy hinjection hbytes hrelays bytes
  rw [hserver] at hrelays'
  simp only [BenchState.relay, hsent, List.drop_length, List.map_nil]
  refine hinv.relay hfront hrelays' (fun send hmem => ?_) (by simp)
  refine (hqueue send hmem).imp_right fun ⟨hsocket, hto, hcopy⟩ => ?_
  have hsource : (addresses.transmit send).source = addresses.relaySocket := by
    rw [BenchAddresses.transmit, hsocket]
  cases hlock : s.proxy.front with
  | none =>
      rw [hlock, Option.getD_none, hserver] at hto
      refine .request hsource hto (hcopy.trans ?_)
      rcases hmessage with hrequest | ⟨hne, -⟩
      · exact hrequest
      · exact absurd hlock hne
  | some e =>
      obtain ⟨k, rfl⟩ := hlawful.ahead hinv.agrees hlock
      rw [hlock, Option.getD_some] at hto
      refine .toSession k hsource hto (hfront.trans hlock) ?_
      have hcopy' : (addresses.transmit send).message = bytes := hcopy
      rw [hcopy', hfront]
      exact hmessage

/-- A datagram of a handler locks the proxy onto it, unless it was locked before, and is handed to
the client. -/
theorem Inv.fromServer (harrives : 0 < s.proxy.sessions.length) {k : ℕ} {h : Handler}
    (hk : s.sessions[k]? = some h) {bytes : Bytes} (hmessage : T.HandlerSends h bytes) :
    Network.Keeps (T.Inv addresses) (T.Transit addresses) s
      (s.relay addresses config clock (.server 0 (addresses.address (.session k)) bytes)) := by
  have hrelays := hinv.relays
  rw [← hserver] at hrelays
  obtain ⟨hrelays', hfront, hsent, hqueue⟩ := @relayStep_fromServer config
    (addresses.environment clock) _ s.proxy hinjection hbytes hrelays harrives
    (addresses.address (.session k)) bytes (hlawful.handlerSends_ne_nil h bytes hmessage)
  rw [hserver] at hrelays'
  simp only [BenchState.relay, hsent, List.drop_length, List.map_nil]
  generalize relayStep config (addresses.environment clock) s.proxy
    (.server 0 (addresses.address (.session k)) bytes) = p at hrelays' hfront hqueue ⊢
  have hgrows : T.Grows s { s with proxy := p } := by
    refine Grows.proxy fun e he => ?_
    rw [he, Option.getD_some] at hfront
    exact hfront
  have hagrees : T.Agrees s.client p.front s.sessions s.files := by
    have hold := hinv.agrees
    cases hlock : s.proxy.front with
    | some e =>
        rw [hlock, Option.getD_some] at hfront
        rw [hlock, ← hfront] at hold
        exact hold
    | none =>
        rw [hlock, Option.getD_none] at hfront
        rw [hlock] at hold
        rw [hfront]
        exact hlawful.locks hold hk
  refine hinv.keeps hgrows hagrees hrelays' (fun send hmem => ?_) (by simp)
  refine (hqueue send hmem).imp_right fun ⟨hsocket, hto, hcopy⟩ => ?_
  refine .toClient k h ?_ hto (by simp [hfront]) hk ?_
  · rw [BenchAddresses.transmit, hsocket]
  · have hcopy' : (addresses.transmit send).message = bytes := hcopy
    rw [hcopy']
    exact hmessage

end Proxy

/-! ### The two ends react -/

section Ends

variable (hlawful : T.Lawful addresses R) (hinv : T.Inv addresses s)

include hlawful hinv

theorem Inv.grows_client {event : Option (Endpoint × Bytes)}
    (hevent : ∀ sender bytes, event = some (sender, bytes) →
      sender = addresses.address (.proxy .listen) ∧ s.proxy.front ≠ none ∧
        ∃ (k : ℕ) (h : Handler), s.sessions[k]? = some h ∧ T.HandlerSends h bytes) :
    T.Grows s (s.reactClient addresses R event).1 :=
  ⟨fun _ => id, (hlawful.client hinv.agrees hevent).2.1, fun _ h hk => ⟨h, hk, fun _ => id⟩⟩

theorem Inv.grows_session {k : ℕ} {h : Handler} (hk : s.sessions[k]? = some h)
    {event : Option (Endpoint × Bytes)}
    (hevent : ∀ sender bytes, event = some (sender, bytes) → sender = addresses.relaySocket ∧
      s.proxy.front = some (addresses.address (.session k)) ∧
        T.ClientSays s.client s.proxy.front bytes) :
    T.Grows s (s.reactSession addresses R k h event).1 := by
  refine ⟨fun _ => id, fun _ => id, fun j g hj => ?_⟩
  refine Service.exists_getElem?_set hk hj (fun hjk => ?_) fun _ _ => id
  subst hjk
  cases Option.some.inj (hk.symm.trans hj)
  exact (hlawful.session hinv.agrees hk hevent).2.1

theorem Inv.client {event : Option (Endpoint × Bytes)}
    (hevent : ∀ sender bytes, event = some (sender, bytes) →
      sender = addresses.address (.proxy .listen) ∧ s.proxy.front ≠ none ∧
        ∃ (k : ℕ) (h : Handler), s.sessions[k]? = some h ∧ T.HandlerSends h bytes) :
    Network.Keeps (T.Inv addresses) (T.Transit addresses) s (s.reactClient addresses R event) := by
  obtain ⟨hagrees, -, hsends⟩ := hlawful.client hinv.agrees hevent
  refine hinv.keeps (hinv.grows_client hlawful hevent) hagrees hinv.relays
    (fun send hmem => Or.inl hmem) fun d hd => ?_
  obtain ⟨hsource, hmem⟩ := Service.mem_sendsFrom.1 hd
  obtain ⟨htarget, hmessage⟩ := hsends _ hmem
  exact .fromClient hsource htarget hmessage

theorem Inv.session {k : ℕ} {h : Handler} (hk : s.sessions[k]? = some h)
    {event : Option (Endpoint × Bytes)}
    (hevent : ∀ sender bytes, event = some (sender, bytes) → sender = addresses.relaySocket ∧
      s.proxy.front = some (addresses.address (.session k)) ∧
        T.ClientSays s.client s.proxy.front bytes) :
    Network.Keeps (T.Inv addresses) (T.Transit addresses) s
      (s.reactSession addresses R k h event) := by
  obtain ⟨hagrees, -, hsends⟩ := hlawful.session hinv.agrees hk hevent
  have hself : (s.sessions.set k (R.session s.files h event).2.1)[k]? =
      some (R.session s.files h event).2.1 :=
    List.getElem?_set_self (List.getElem?_eq_some_iff.1 hk).1
  refine hinv.keeps (hinv.grows_session hlawful hk hevent) hagrees hinv.relays
    (fun send hmem => Or.inl hmem) fun d hd => ?_
  obtain ⟨hsource, hmem⟩ := Service.mem_sendsFrom.1 hd
  obtain ⟨htarget, hmessage⟩ := hsends _ hmem
  exact .toRelay k _ hsource htarget hself hmessage

/-- A copy of the request opens a handler, or is dropped. -/
theorem Inv.listen :
    Network.Keeps (T.Inv addresses) (T.Transit addresses) s
      (s.listen addresses R addresses.relaySocket T.request) := by
  have hgrows := @grows_listen γ T addresses s R addresses.relaySocket T.request
  simp only [BenchState.listen] at hgrows ⊢
  cases haccept : R.accept s.files addresses.relaySocket T.request with
  | none => exact Network.Keeps.refl hinv
  | some opened =>
      obtain ⟨h, sends⟩ := opened
      obtain ⟨hagrees, hsends⟩ := hlawful.accept hinv.agrees haccept
      rw [haccept] at hgrows
      refine hinv.keeps hgrows hagrees hinv.relays (fun send hmem => Or.inl hmem) fun d hd => ?_
      obtain ⟨hsource, hmem⟩ := Service.mem_sendsFrom.1 hd
      obtain ⟨htarget, hmessage⟩ := hsends _ hmem
      exact .toRelay s.sessions.length h hsource htarget List.getElem?_concat_length hmessage

end Ends

/-! ### Every event -/

section Events

variable {config : ProxyConfig} {clock : ℕ → ℤ} (hlawful : T.Lawful addresses R)

include hlawful

/-- **Timeouts and sweeps keep the invariant.** -/
theorem Lawful.act (hinv : T.Inv addresses s) (event : BenchEvent) :
    Network.Keeps (T.Inv addresses) (T.Transit addresses) s
      ((bench addresses config clock R).act s event) := by
  cases event with
  | timeoutClient => exact hinv.client hlawful (by simp)
  | timeoutSession k =>
      simp only [bench, BenchState.act]
      cases hk : s.sessions[k]? with
      | none => exact Network.Keeps.refl hinv
      | some h => exact hinv.session hlawful hk (by simp)
  | flush => exact hinv.flush

variable (hserver : config.serverEndpoint = addresses.address .listener)
  (hinjection : config.injection = none) (hbytes : config.impairment.KeepsBytes)

include hserver hinjection hbytes

/-- **Every datagram keeps the invariant.** -/
theorem Lawful.receive (hinv : T.Inv addresses s) {d : Service.Datagram Endpoint Bytes}
    (hd : T.Transit addresses s d) :
    Network.Keeps (T.Inv addresses) (T.Transit addresses) s
      ((bench addresses config clock R).receive s d) := by
  cases hd with
  | fromClient source target message =>
      refine bench_receive hinv target (by simp) ?_ (by simp) (by simp)
      intro socket heq _
      cases heq
      rw [ProxySocket.arrival, source]
      exact hinv.fromClient hlawful hserver hinjection hbytes message
  | request source target message =>
      refine bench_receive hinv target (by simp) (by simp) (fun _ => ?_) (by simp)
      rw [source, message]
      exact hinv.listen hlawful
  | toSession k source target front message =>
      refine bench_receive hinv target (by simp) (by simp) (by simp) ?_
      intro j h heq hj
      cases heq
      refine hinv.session hlawful hj ?_
      intro sender bytes heq
      cases heq
      exact ⟨source, front, message⟩
  | toRelay k h source target session message =>
      refine bench_receive hinv target (by simp) ?_ (by simp) (by simp)
      intro socket heq hmem
      cases heq
      rw [ProxySocket.arrival, source]
      exact hinv.fromServer hlawful hserver hinjection hbytes (mem_parties_server.1 hmem) session
        message
  | toClient k h source target front session message =>
      refine bench_receive hinv target (fun _ => ?_) (by simp) (by simp) (by simp)
      refine hinv.client hlawful ?_
      intro sender bytes heq
      cases heq
      exact ⟨source, front, k, h, session, message⟩

omit hlawful hserver hinjection hbytes in
/-- The invariant when the client has sent its request to the proxy. -/
theorem holds_start {c : γ} {files : Files} {sends : List (Endpoint × Bytes)}
    (hagrees : T.Agrees c none [] files)
    (hsends : ∀ send ∈ sends, send = (addresses.address (.proxy .listen), T.request)) :
    Network.Holds (T.Inv addresses) (T.Transit addresses)
      ⟨⟨c, proxyStart config (addresses.environment clock), [], files⟩,
        Service.sendsFrom (addresses.address .client) sends⟩ := by
  refine ⟨⟨hagrees, Or.inl rfl, by simp [proxyStart]⟩, fun d hd => ?_⟩
  obtain ⟨hsource, hmem⟩ := Service.mem_sendsFrom.1 hd
  obtain ⟨htarget, hmessage⟩ := Prod.mk.inj (hsends _ hmem)
  exact .fromClient hsource htarget (Or.inl hmessage)

/-- **Every run of a lawful transfer keeps the invariant.** -/
theorem Lawful.run {st st' : Network.State (BenchState γ) Endpoint Bytes}
    {schedule : List (Network.Label BenchEvent)}
    (hstart : Network.Holds (T.Inv addresses) (T.Transit addresses) st)
    (h : Network.run (bench addresses config clock R) st schedule = some st') :
    T.Inv addresses st'.parties :=
  (Network.run_invariant_any
    (fun _ _ hinv hd => hlawful.receive hserver hinjection hbytes hinv hd)
    (fun _ event hinv => hlawful.act hinv event) hstart h).invariant

end Events

end Steps

end BenchTransfer

/-! ### A bench -/

/-- A port for everybody on the bench. -/
def benchPort : BenchParty → ℕ
  | .client => 0
  | .listener => 1
  | .proxy .listen => 2
  | .proxy (.server i) => 3 * i + 3
  | .proxy (.stray i) => 3 * i + 4
  | .session k => 3 * k + 5

theorem benchPort_injective : Function.Injective benchPort := by
  intro a b h
  unfold benchPort at h
  split at h <;> split at h <;> first | rfl | omega | (congr 2; omega)

/-- Parties that differ in their ports only. -/
def benchByPort : BenchAddresses where
  address party := ⟨false, [], benchPort party⟩
  injective := fun _ _ h => benchPort_injective (Endpoint.mk.inj h).2.2

/-- A proxy that sends everything twice. -/
def doublingProxy : ProxyConfig where
  serverEndpoint := benchByPort.address .listener
  impairment := { duplicationProbability := Double.ofInt 1 }

end TftpHarness
