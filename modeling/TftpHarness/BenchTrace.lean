/-
**The trace of a transfer.**

The judges of a test do not look at the two ends of a transfer.  They see what the client reports,
and the records of the proxy through the eyes of the observer.  Nobody hands the records to the two
ends, and no record comes from anywhere but a datagram, so the two could tell different stories.

They do not.  A record is of something one of the two ends has said; the proxy records a datagram
before it hands it on, and everything between the two ends goes through the proxy, so what an end
hears has a record.  What follows from that for a kind of transfer is its account: what the records
show of all that its two ends have heard.

Main definitions:

* `TftpHarness.RecordOf`, `TftpHarness.Shows` — what a record and a trace say of a datagram;
* `TftpHarness.BenchTransfer.Said` — records of what the two ends may have said;
* `TftpHarness.BenchTransfer.Account` — what the records show of what they have heard;
* `TftpHarness.BenchTransfer.TraceInv` — the invariant of the trace.

Main results:

* `TftpHarness.records_fromClient`, `TftpHarness.records_fromServer` — the records of the proxy;
* `TftpHarness.BenchTransfer.Account.Lawful.run` — **every run of a transfer keeps its account**.
-/

import TftpHarness.BenchTransfer

set_option relaxedAutoImplicit false
set_option autoImplicit false

namespace TftpHarness

/-! ### Records -/

section Records

variable (record : TraceRecord) (result : PipelineResult)

theorem recordResult_spec : (recordResult record result).direction = record.direction ∧
    (recordResult record result).destinationTid = record.destinationTid ∧
    (recordResult record result).parsed = record.parsed ∧
    (recordResult record result).isPeerSend = true := by
  unfold recordResult
  split
  · exact ⟨rfl, rfl, rfl, rfl⟩
  · refine ⟨rfl, rfl, rfl, ?_⟩
    simp only [TraceRecord.isPeerSend]
    split <;> rfl

/-- A record with what it says of the datagram and of the two ports. -/
structure RecordOf (direction : Direction) (datagram : Bytes) (sourceTid destinationTid : ℕ)
    (record : TraceRecord) : Prop where
  direction_eq : record.direction = direction
  source_eq : record.sourceTid = sourceTid
  destination_eq : record.destinationTid = destinationTid
  parsed_eq : record.parsed = parseDatagram datagram
  peer : record.isPeerSend = true

end Records

section Relay

variable {config : ProxyConfig} {env : ProxyEnvironment} {client : Endpoint} {p : ProxyState}

/-- Without injection a relayed datagram adds its own record, and no other. -/
theorem Relayed.records (hinjection : config.injection = none) {index : ℕ} {session : Session}
    {direction : Direction} {datagram : Bytes} {outbound : ProxySocket} {destination : Endpoint}
    {s s' : ProxyState} {h : Handled}
    (hrelayed : Relayed config env index session direction datagram outbound destination s s' h) :
    ∃ record, s'.trace.records = s.trace.records ++ [record] ∧
      RecordOf direction datagram (observedRecord session direction datagram).sourceTid
        (observedRecord session direction datagram).destinationTid record := by
  have hnone : h.injections = [] := by
    have hpackets := hrelayed.packets
    rw [scriptPackets, hinjection] at hpackets
    exact List.map_eq_nil_iff.1 hpackets
  refine ⟨h.record, ?_, ?_⟩
  · rw [hrelayed.trace, Handled.records, hnone, List.map_nil]
  · rw [hrelayed.record]
    obtain ⟨hdirection, hdestination, hparsed, hpeer⟩ := recordResult_spec
      (observedRecord session direction datagram) (process config.impairment direction datagram
        (observedRecord session direction datagram).isData h.time s.pipeline).1
    exact ⟨hdirection, recordResult_sourceTid _ _, hdestination, hparsed, hpeer⟩

/-- A datagram of the only client is recorded with the address its session sends to. -/
theorem records_fromClient (hinjection : config.injection = none)
    (hone : p.ServesOnly client config.serverEndpoint) {bytes : Bytes} (hne : bytes ≠ []) :
    (relayStep config env p (.client client bytes)).sessions ≠ [] ∧
      ∃ record, (relayStep config env p (.client client bytes)).trace.records =
          p.trace.records ++ [record] ∧
        RecordOf .clientToServer bytes client.port (p.front.getD config.serverEndpoint).port
          record := by
  have hmove := @relayMove_relayStep config env p (.client client bytes) trivial
  generalize relayStep config env p (.client client bytes) = p' at hmove
  cases hmove with
  | emptyClient => exact absurd rfl hne
  | known _ hsession hclient hevent hrelayed =>
      obtain ⟨rfl, hsessions, hclient', hdestination⟩ := hone.session hsession
      obtain ⟨record, hrecords, hrecord⟩ := hrelayed.records hinjection
      refine ⟨by rw [hrelayed.sessions, hsessions]; simp, record, hrecords, ?_⟩
      rw [← hdestination, ← hclient']
      exact hrecord
  | opened _ hnew hsession hevent hrelayed =>
      subst hsession
      have hnil : p.sessions = [] := by
        rcases hone with hnil | ⟨only, hsessions, hclient, -⟩
        · exact hnil
        · exact absurd hclient (hnew only (by rw [hsessions]; exact List.mem_singleton_self _))
      have hfront : p.front = none := by simp only [ProxyState.front, hnil]
      obtain ⟨record, hrecords, hrecord⟩ := hrelayed.records hinjection
      refine ⟨by rw [hrelayed.sessions]; simp, record, hrecords, ?_⟩
      rw [hfront]
      exact hrecord

/-- A datagram of the server is recorded with the address the session is locked to. -/
theorem records_fromServer (hinjection : config.injection = none)
    (hone : p.ServesOnly client config.serverEndpoint) (harrives : 0 < p.sessions.length)
    (sender : Endpoint) {bytes : Bytes} (hne : bytes ≠ []) :
    ∃ record, (relayStep config env p (.server 0 sender bytes)).trace.records =
        p.trace.records ++ [record] ∧
      RecordOf .serverToClient bytes (p.front.getD sender).port client.port record := by
  have hmove := @relayMove_relayStep config env p (.server 0 sender bytes) harrives
  generalize relayStep config env p (.server 0 sender bytes) = p' at hmove
  cases hmove with
  | emptyServer => exact absurd rfl hne
  | @server _ _ _ before session _ h _ hbefore hsession hevent hrelayed =>
      obtain ⟨-, hsessions, hclient, -⟩ := hone.session hbefore
      obtain ⟨record, hrecords, hrecord⟩ := hrelayed.records hinjection
      have hclient' : session.clientEndpoint = client := by
        rw [hsession, lockServerTid_clientEndpoint, hclient]
      have hfront : session.serverDestination = p.front.getD sender := by
        rw [front_of_sessions hsessions, hsession]
        cases hlocked : before.serverTidLocked with
        | true =>
            rw [lockServerTid_locked hlocked]
            rfl
        | false =>
            rw [lockServerTid_unlocked hlocked]
            rfl
      refine ⟨record, hrecords, ?_⟩
      rw [← hclient', ← hfront]
      exact hrecord

end Relay

/-- The trace shows the bytes as a datagram that travels in the direction. -/
def Shows (records : List TraceRecord) (direction : Direction) (bytes : Bytes) : Prop :=
  ∃ record ∈ records, record.direction = direction ∧ record.isPeerSend = true ∧
    record.parsed = parseDatagram bytes

theorem Shows.append {records : List TraceRecord} {direction : Direction} {bytes : Bytes}
    (h : Shows records direction bytes) (record : TraceRecord) :
    Shows (records ++ [record]) direction bytes := by
  obtain ⟨shown, hmem, hshown⟩ := h
  exact ⟨shown, List.mem_append_left _ hmem, hshown⟩

/-- A datagram that has just been recorded. -/
theorem RecordOf.shows {records : List TraceRecord} {direction : Direction} {bytes : Bytes}
    {sourceTid destinationTid : ℕ} {record : TraceRecord}
    (h : RecordOf direction bytes sourceTid destinationTid record) :
    Shows (records ++ [record]) direction bytes :=
  ⟨record, List.mem_append_right _ (List.mem_singleton_self _), h.direction_eq, h.peer,
    h.parsed_eq⟩

namespace BenchTransfer

variable {γ : Type}

/-! ### The account of a transfer -/

/-- What the records show of what the client and the handlers have heard. -/
abbrev Account (γ : Type) := γ → List Handler → List TraceRecord → Prop

section Invariant

variable (T : BenchTransfer γ) (A : Account γ) (addresses : BenchAddresses)
  (R : Service.Roles Endpoint Bytes γ Handler Files)

/-- Records of what the two ends may have said. -/
structure Said (s : BenchState γ) (records : List TraceRecord) : Prop where
  client : ∀ record ∈ records, record.direction = .clientToServer →
    ∃ bytes, record.parsed = parseDatagram bytes ∧ T.ClientSays s.client s.proxy.front bytes
  server : ∀ record ∈ records, record.direction = .serverToClient →
    (∃ e, s.proxy.front = some e ∧ record.sourceTid = e.port) ∧
      ∃ (bytes : Bytes) (k : ℕ) (h : Handler), record.parsed = parseDatagram bytes ∧
        s.sessions[k]? = some h ∧ T.HandlerSends h bytes

/-- **What the trace shows of a transfer.** -/
structure TraceInv (s : BenchState γ) : Prop where
  /-- The first record is the request, on its way to the listener. -/
  opens : s.proxy.sessions = [] ∧ s.proxy.trace.records = [] ∨ ∃ request records,
    s.proxy.trace.records = request :: records ∧ request.isPeerSend = true ∧
      request.parsed = parseDatagram T.request ∧
        request.destinationTid = (addresses.address .listener).port
  said : T.Said s s.proxy.trace.records
  toClient : ∀ send ∈ s.proxy.scheduled, send.socket = .listen →
    Shows s.proxy.trace.records .serverToClient send.bytes
  toServer : ∀ send ∈ s.proxy.scheduled, send.socket = .server 0 →
    Shows s.proxy.trace.records .clientToServer send.bytes
  heard : A s.client s.sessions s.proxy.trace.records

/-- What comes from the proxy is shown by the trace. -/
structure Recorded (s : BenchState γ) (d : Service.Datagram Endpoint Bytes) : Prop where
  toClient : d.source = addresses.address (.proxy .listen) →
    Shows s.proxy.trace.records .serverToClient d.message
  toServer : d.source = addresses.relaySocket →
    Shows s.proxy.trace.records .clientToServer d.message

/-- **What the two ends have to keep for their account.**  What they hear has a record. -/
structure Account.Lawful : Prop where
  request_ne_nil : T.request ≠ []
  clientSends_ne_nil : ∀ c bytes, T.ClientSends c bytes → bytes ≠ []
  append : ∀ {c sessions records} record, A c sessions records →
    A c sessions (records ++ [record])
  client : ∀ {c front sessions files records event}, T.Agrees c front sessions files →
    A c sessions records →
    (∀ sender bytes, event = some (sender, bytes) → Shows records .serverToClient bytes) →
    A (R.client c event).1 sessions records
  session : ∀ {c front sessions files records event} {k : ℕ} {h : Handler},
    T.Agrees c front sessions files → sessions[k]? = some h → A c sessions records →
    (∀ sender bytes, event = some (sender, bytes) → sender = addresses.relaySocket ∧
      T.ClientSays c front bytes ∧ Shows records .clientToServer bytes) →
    A c (sessions.set k (R.session files h event).2.1) records
  accept : ∀ {c front sessions files records h sends}, T.Agrees c front sessions files →
    A c sessions records →
    R.accept files addresses.relaySocket T.request = some (h, sends) →
    A c (sessions ++ [h]) records

end Invariant

section Steps

variable {T : BenchTransfer γ} {A : Account γ} {addresses : BenchAddresses}
  {R : Service.Roles Endpoint Bytes γ Handler Files} {s s' : BenchState γ}
  {config : ProxyConfig} {clock : ℕ → ℤ}

theorem ClientSays.ne_nil (hlawful : A.Lawful T addresses R) {c : γ} {front : Option Endpoint}
    {bytes : Bytes} (h : T.ClientSays c front bytes) : bytes ≠ [] := by
  rcases h with rfl | ⟨-, hsends⟩
  · exact hlawful.request_ne_nil
  · exact hlawful.clientSends_ne_nil _ _ hsends

/-- What has been said stays said. -/
theorem Said.mono (hgrows : T.Grows s s') {records : List TraceRecord} (h : T.Said s records) :
    T.Said s' records := by
  refine ⟨fun record hmem hdirection => ?_, fun record hmem hdirection => ?_⟩
  · obtain ⟨bytes, hparsed, hspoken⟩ := h.client record hmem hdirection
    exact ⟨bytes, hparsed, hspoken.mono hgrows⟩
  · obtain ⟨⟨e, he, hport⟩, bytes, k, g, hparsed, hk, hsends⟩ := h.server record hmem hdirection
    obtain ⟨g', hk', hmono⟩ := hgrows.sessions k g hk
    exact ⟨⟨e, hgrows.front e he, hport⟩, bytes, k, g', hparsed, hk', hmono _ hsends⟩

/-- A new record of the client. -/
theorem Said.fromClient {records : List TraceRecord} (h : T.Said s records) {bytes : Bytes}
    {sourceTid destinationTid : ℕ} {record : TraceRecord}
    (hrecord : RecordOf .clientToServer bytes sourceTid destinationTid record)
    (hspoken : T.ClientSays s.client s.proxy.front bytes) : T.Said s (records ++ [record]) := by
  refine ⟨fun other hmem hdirection => ?_, fun other hmem hdirection => ?_⟩
  · rcases List.mem_append.1 hmem with hmem | hmem
    · exact h.client other hmem hdirection
    · cases List.mem_singleton.1 hmem
      exact ⟨bytes, hrecord.parsed_eq, hspoken⟩
  · rcases List.mem_append.1 hmem with hmem | hmem
    · exact h.server other hmem hdirection
    · cases List.mem_singleton.1 hmem
      exact absurd (hrecord.direction_eq.symm.trans hdirection) (by simp)

/-- A new record of a handler. -/
theorem Said.fromServer {records : List TraceRecord} (h : T.Said s records) {bytes : Bytes}
    {e : Endpoint} {destinationTid : ℕ} {record : TraceRecord}
    (hrecord : RecordOf .serverToClient bytes e.port destinationTid record)
    (hfront : s.proxy.front = some e) {k : ℕ} {g : Handler} (hk : s.sessions[k]? = some g)
    (hsends : T.HandlerSends g bytes) : T.Said s (records ++ [record]) := by
  refine ⟨fun other hmem hdirection => ?_, fun other hmem hdirection => ?_⟩
  · rcases List.mem_append.1 hmem with hmem | hmem
    · exact h.client other hmem hdirection
    · cases List.mem_singleton.1 hmem
      exact absurd (hrecord.direction_eq.symm.trans hdirection) (by simp)
  · rcases List.mem_append.1 hmem with hmem | hmem
    · exact h.server other hmem hdirection
    · cases List.mem_singleton.1 hmem
      exact ⟨⟨e, hfront, hrecord.source_eq⟩, bytes, k, g, hrecord.parsed_eq, hk, hsends⟩

theorem Recorded.append {p : ProxyState} {record : TraceRecord}
    (hrecords : p.trace.records = s.proxy.trace.records ++ [record])
    {d : Service.Datagram Endpoint Bytes} (hd : Recorded addresses s d) :
    Recorded addresses { s with proxy := p } d := by
  refine ⟨fun hsource => ?_, fun hsource => ?_⟩
  · have hshows := (hd.toClient hsource).append record
    rw [← hrecords] at hshows
    exact hshows
  · have hshows := (hd.toServer hsource).append record
    rw [← hrecords] at hshows
    exact hshows

/-- A reaction that leaves the proxy alone, of a party with an address of its own. -/
theorem TraceInv.ends (hinv : T.TraceInv A addresses s) (party : BenchParty)
    {reaction : BenchState γ × List (Service.Datagram Endpoint Bytes)}
    (hgrows : T.Grows s reaction.1)
    (hparty : ∀ socket, party ≠ .proxy socket) (hproxy : reaction.1.proxy = s.proxy)
    (hheard : A reaction.1.client reaction.1.sessions s.proxy.trace.records)
    (hsends : ∀ d ∈ reaction.2, d.source = addresses.address party) :
    Network.Keeps (T.TraceInv A addresses) (Recorded addresses) s reaction := by
  have hother : ∀ d ∈ reaction.2, ∀ socket, d.source ≠ addresses.address (.proxy socket) :=
    fun d hd socket heq => hparty socket (addresses.injective ((hsends d hd).symm.trans heq))
  have hsaid := hinv.said.mono hgrows
  refine ⟨?_, fun d hd => ?_, fun d hd =>
    ⟨fun heq => absurd heq (hother d hd _), fun heq => absurd heq (hother d hd _)⟩⟩
  · refine ⟨?_, ?_, ?_, ?_, ?_⟩ <;> rw [hproxy]
    · exact hinv.opens
    · exact hsaid
    · exact hinv.toClient
    · exact hinv.toServer
    · exact hheard
  · obtain ⟨hclient, hserver⟩ := hd
    constructor
    · rw [hproxy]
      exact hclient
    · rw [hproxy]
      exact hserver

/-- A sweep adds no record. -/
theorem TraceInv.flush (hinv : T.TraceInv A addresses s) :
    Network.Keeps (T.TraceInv A addresses) (Recorded addresses) s
      (s.relay addresses config clock .flush) := by
  obtain ⟨hqueue, hsent⟩ := flushDueSends_spec
    ((addresses.environment clock).clock s.proxy.clockReads)
    { s.proxy with clockReads := s.proxy.clockReads + 1 }
  have hgrows : T.Grows s (s.relay addresses config clock .flush).1 := Grows.proxy fun _ => id
  refine ⟨⟨hinv.opens, hinv.said.mono hgrows,
    fun send hmem => hinv.toClient send (hqueue send hmem),
    fun send hmem => hinv.toServer send (hqueue send hmem), hinv.heard⟩,
    fun d hd => ⟨hd.toClient, hd.toServer⟩, fun d hd => ?_⟩
  obtain ⟨t, ht, rfl⟩ := List.mem_map.1 hd
  refine ⟨fun hsource => ?_, fun hsource => ?_⟩
  · exact hinv.toClient t.send (hsent t ht) (BenchParty.proxy.inj (addresses.injective hsource))
  · exact hinv.toServer t.send (hsent t ht) (BenchParty.proxy.inj (addresses.injective hsource))

section Relay

variable (hlawful : A.Lawful T addresses R)
  (hinv : T.TraceInv A addresses s)
  (hserver : config.serverEndpoint = addresses.address .listener)
  (hinjection : config.injection = none) (hbytes : config.impairment.KeepsBytes)
  (hold : T.Inv addresses s)

include hlawful hinv hserver hinjection hbytes hold

/-- A datagram of the client is recorded, the request as the first. -/
theorem TraceInv.fromClient {bytes : Bytes}
    (hmessage : T.ClientSays s.client s.proxy.front bytes) :
    Network.Keeps (T.TraceInv A addresses) (Recorded addresses) s
      (s.relay addresses config clock (.client (addresses.address .client) bytes)) := by
  have hrelays := hold.relays
  rw [← hserver] at hrelays
  obtain ⟨-, hfront, hsent, hqueue⟩ := @relayStep_fromClient config
    (addresses.environment clock) _ s.proxy hinjection hbytes hrelays bytes
  obtain ⟨hopen, record, hrecords, hrecord⟩ := @records_fromClient config
    (addresses.environment clock) _ s.proxy hinjection hrelays bytes (hmessage.ne_nil hlawful)
  simp only [BenchState.relay, hsent, List.drop_length, List.map_nil]
  generalize relayStep config (addresses.environment clock) s.proxy
    (.client (addresses.address .client) bytes) = p at hfront hqueue hopen hrecords ⊢
  have hgrows : T.Grows s { s with proxy := p } := Grows.proxy fun e he => hfront.trans he
  refine ⟨⟨?_, ?_, ?_, ?_, ?_⟩, fun d hd => hd.append hrecords, by simp⟩ <;> simp only [hrecords]
  · right
    rcases hinv.opens with ⟨hnil, hempty⟩ | ⟨request, records, heq, hrequest⟩
    · have hnone : s.proxy.front = none := by simp only [ProxyState.front, hnil]
      refine ⟨record, [], by rw [hempty]; rfl, hrecord.peer, ?_, ?_⟩
      · rcases hmessage with rfl | ⟨hlocked, -⟩
        · exact hrecord.parsed_eq
        · exact absurd hnone hlocked
      · rw [hrecord.destination_eq, hnone, Option.getD_none, hserver]
    · exact ⟨request, records ++ [record], by rw [heq]; rfl, hrequest⟩
  · exact (hinv.said.mono hgrows).fromClient hrecord (hmessage.mono hgrows)
  · intro send hmem hsocket
    rcases hqueue send hmem with hmem | ⟨hnew, -⟩
    · exact (hinv.toClient send hmem hsocket).append record
    · exact absurd (hnew.symm.trans hsocket) (by simp)
  · intro send hmem hsocket
    rcases hqueue send hmem with hmem | ⟨-, -, hcopy⟩
    · exact (hinv.toServer send hmem hsocket).append record
    · rw [hcopy]
      exact hrecord.shows
  · exact hlawful.append record hinv.heard

/-- A datagram of a handler is recorded before it is handed on. -/
theorem TraceInv.fromServer (harrives : 0 < s.proxy.sessions.length) {k : ℕ} {h : Handler}
    (hne : ∀ h bytes, T.HandlerSends h bytes → bytes ≠ []) (hk : s.sessions[k]? = some h)
    {bytes : Bytes} (hmessage : T.HandlerSends h bytes) (sender : Endpoint) :
    Network.Keeps (T.TraceInv A addresses) (Recorded addresses) s
      (s.relay addresses config clock (.server 0 sender bytes)) := by
  have hrelays := hold.relays
  rw [← hserver] at hrelays
  obtain ⟨-, hfront, hsent, hqueue⟩ := @relayStep_fromServer config
    (addresses.environment clock) _ s.proxy hinjection hbytes hrelays harrives sender bytes
    (hne h bytes hmessage)
  obtain ⟨record, hrecords, hrecord⟩ := @records_fromServer config
    (addresses.environment clock) _ s.proxy hinjection hrelays harrives sender bytes
    (hne h bytes hmessage)
  simp only [BenchState.relay, hsent, List.drop_length, List.map_nil]
  generalize relayStep config (addresses.environment clock) s.proxy
    (.server 0 sender bytes) = p at hfront hqueue hrecords ⊢
  have hgrows : T.Grows s { s with proxy := p } := by
    refine Grows.proxy fun e he => ?_
    rw [he, Option.getD_some] at hfront
    exact hfront
  refine ⟨⟨?_, ?_, ?_, ?_, ?_⟩, fun d hd => hd.append hrecords, by simp⟩ <;> simp only [hrecords]
  · right
    rcases hinv.opens with ⟨hnil, -⟩ | ⟨request, records, heq, hrequest⟩
    · exact absurd harrives (by simp [hnil])
    · exact ⟨request, records ++ [record], by rw [heq]; rfl, hrequest⟩
  · exact (hinv.said.mono hgrows).fromServer hrecord hfront hk hmessage
  · intro send hmem hsocket
    rcases hqueue send hmem with hmem | ⟨-, -, hcopy⟩
    · exact (hinv.toClient send hmem hsocket).append record
    · rw [hcopy]
      exact hrecord.shows
  · intro send hmem hsocket
    rcases hqueue send hmem with hmem | ⟨hnew, -⟩
    · exact (hinv.toServer send hmem hsocket).append record
    · exact absurd (hnew.symm.trans hsocket) (by simp)
  · exact hlawful.append record hinv.heard

end Relay

/-! ### Every event -/

section Events

variable (hlawful : A.Lawful T addresses R) (hends : T.Lawful addresses R)
  (hinv : T.TraceInv A addresses s) (hold : T.Inv addresses s)

include hlawful hends hinv hold

theorem TraceInv.reactClient {event : Option (Endpoint × Bytes)}
    (hevent : ∀ sender bytes, event = some (sender, bytes) →
      (sender = addresses.address (.proxy .listen) ∧ s.proxy.front ≠ none ∧
        ∃ (k : ℕ) (h : Handler), s.sessions[k]? = some h ∧ T.HandlerSends h bytes) ∧
      Shows s.proxy.trace.records .serverToClient bytes) :
    Network.Keeps (T.TraceInv A addresses) (Recorded addresses) s
      (s.reactClient addresses R event) :=
  hinv.ends .client (hold.grows_client hends fun sender bytes heq => (hevent sender bytes heq).1)
    (by simp) rfl
    (hlawful.client hold.agrees hinv.heard fun sender bytes heq => (hevent sender bytes heq).2)
    fun _ hd => (Service.mem_sendsFrom.1 hd).1

theorem TraceInv.reactSession {k : ℕ} {h : Handler} (hk : s.sessions[k]? = some h)
    {event : Option (Endpoint × Bytes)}
    (hevent : ∀ sender bytes, event = some (sender, bytes) → (sender = addresses.relaySocket ∧
        s.proxy.front = some (addresses.address (.session k)) ∧
          T.ClientSays s.client s.proxy.front bytes) ∧
      Shows s.proxy.trace.records .clientToServer bytes) :
    Network.Keeps (T.TraceInv A addresses) (Recorded addresses) s
      (s.reactSession addresses R k h event) := by
  refine hinv.ends (.session k)
    (hold.grows_session hends hk fun sender bytes heq => (hevent sender bytes heq).1) (by simp) rfl
    (hlawful.session hold.agrees hk hinv.heard fun sender bytes heq => ?_)
    fun _ hd => (Service.mem_sendsFrom.1 hd).1
  obtain ⟨⟨hsender, -, hspoken⟩, hshows⟩ := hevent sender bytes heq
  exact ⟨hsender, hspoken, hshows⟩

omit hends in
theorem TraceInv.listen :
    Network.Keeps (T.TraceInv A addresses) (Recorded addresses) s
      (s.listen addresses R addresses.relaySocket T.request) := by
  have hgrows := @grows_listen γ T addresses s R addresses.relaySocket T.request
  simp only [BenchState.listen] at hgrows ⊢
  cases haccept : R.accept s.files addresses.relaySocket T.request with
  | none => exact Network.Keeps.refl hinv
  | some opened =>
      rw [haccept] at hgrows
      exact hinv.ends (.session s.sessions.length) hgrows (by simp) rfl
        (hlawful.accept hold.agrees hinv.heard haccept) fun _ hd => (Service.mem_sendsFrom.1 hd).1

/-- Timeouts and sweeps keep the account. -/
theorem Account.Lawful.act (event : BenchEvent) :
    Network.Keeps (T.TraceInv A addresses) (Recorded addresses) s
      ((bench addresses config clock R).act s event) := by
  cases event with
  | timeoutClient => exact hinv.reactClient hlawful hends hold (by simp)
  | timeoutSession k =>
      simp only [bench, BenchState.act]
      cases hk : s.sessions[k]? with
      | none => exact Network.Keeps.refl hinv
      | some h => exact hinv.reactSession hlawful hends hold hk (by simp)
  | flush => exact hinv.flush

variable (hserver : config.serverEndpoint = addresses.address .listener)
  (hinjection : config.injection = none) (hbytes : config.impairment.KeepsBytes)

include hserver hinjection hbytes

/-- **Every datagram keeps the account.** -/
theorem Account.Lawful.receive {d : Service.Datagram Endpoint Bytes}
    (hd : T.Transit addresses s d) (hrecorded : Recorded addresses s d) :
    Network.Keeps (T.TraceInv A addresses) (Recorded addresses) s
      ((bench addresses config clock R).receive s d) := by
  cases hd with
  | fromClient source target message =>
      refine bench_receive hinv target (by simp) ?_ (by simp) (by simp)
      intro socket heq _
      cases heq
      rw [ProxySocket.arrival, source]
      exact hinv.fromClient hlawful hserver hinjection hbytes hold message
  | request source target message =>
      refine bench_receive hinv target (by simp) (by simp) (fun _ => ?_) (by simp)
      rw [source, message]
      exact hinv.listen hlawful hold
  | toSession k source target front message =>
      refine bench_receive hinv target (by simp) (by simp) (by simp) ?_
      intro j h heq hj
      cases heq
      refine hinv.reactSession hlawful hends hold hj ?_
      intro sender bytes heq
      cases heq
      exact ⟨⟨source, front, message⟩, hrecorded.toServer source⟩
  | toRelay k h source target session message =>
      refine bench_receive hinv target (by simp) ?_ (by simp) (by simp)
      intro socket heq hmem
      cases heq
      rw [ProxySocket.arrival]
      exact hinv.fromServer hlawful hserver hinjection hbytes hold (mem_parties_server.1 hmem)
        hends.handlerSends_ne_nil session message _
  | toClient k h source target front session message =>
      refine bench_receive hinv target (fun _ => ?_) (by simp) (by simp) (by simp)
      refine hinv.reactClient hlawful hends hold ?_
      intro sender bytes heq
      cases heq
      exact ⟨⟨source, front, k, h, session, message⟩, hrecorded.toClient source⟩

end Events

/-- **Every run of a transfer keeps its account.** -/
theorem Account.Lawful.run (hlawful : A.Lawful T addresses R) (hends : T.Lawful addresses R)
    (hserver : config.serverEndpoint = addresses.address .listener)
    (hinjection : config.injection = none) (hbytes : config.impairment.KeepsBytes)
    {c : γ} {files : Files} {sends : List (Endpoint × Bytes)}
    (hholds : Network.Holds (T.Inv addresses) (T.Transit addresses)
      ⟨⟨c, proxyStart config (addresses.environment clock), [], files⟩,
        Service.sendsFrom (addresses.address .client) sends⟩)
    (hheard : A c [] []) {schedule : List (Network.Label BenchEvent)}
    {st : Network.State (BenchState γ) Endpoint Bytes}
    (h : Network.run (bench addresses config clock R)
      ⟨⟨c, proxyStart config (addresses.environment clock), [], files⟩,
        Service.sendsFrom (addresses.address .client) sends⟩ schedule = some st) :
    T.Inv addresses st.parties ∧ T.TraceInv A addresses st.parties := by
  have hstart : Network.Holds (fun s => T.Inv addresses s ∧ T.TraceInv A addresses s)
      (fun s d => T.Transit addresses s d ∧ Recorded addresses s d)
      ⟨⟨c, proxyStart config (addresses.environment clock), [], files⟩,
        Service.sendsFrom (addresses.address .client) sends⟩ := by
    refine ⟨⟨hholds.invariant, ⟨Or.inl ⟨rfl, rfl⟩, ⟨by simp [proxyStart], by simp [proxyStart]⟩,
      by simp [proxyStart], by simp [proxyStart], hheard⟩⟩, fun d hd => ⟨hholds.transit d hd, ?_⟩⟩
    obtain ⟨hclient, -⟩ := Service.mem_sendsFrom.1 hd
    exact ⟨fun heq => absurd (addresses.injective (hclient.symm.trans heq)) (by simp),
      fun heq => absurd (addresses.injective (hclient.symm.trans heq)) (by simp)⟩
  refine (Network.run_invariant_any (fun s d hs hd => ?_) (fun s event hs => ?_) hstart h).invariant
  · exact (hends.receive hserver hinjection hbytes hs.1 hd.1).and
      (hlawful.receive hends hs.2 hs.1 hserver hinjection hbytes hd.1 hd.2)
  · exact (hends.act hs.1 event).and (hlawful.act hends hs.2 hs.1 event)

end Steps

end BenchTransfer

end TftpHarness
