/-
**The impairment proxy.**

The relay loop of `src/net/impairment_proxy.cpp` runs on one thread.  Each pass sweeps the queue of
scheduled sends, then takes at most one datagram from the listen socket, from every session's
server-facing socket and from every stray socket that has one waiting.  Here each of these is an
event, and a run is any sequence of them: which sockets are ready, and when, is up to the world.
The clock is a sequence of readings, one for each call of `now()` whose result is used.  Sockets
can always be opened, and the address a socket is bound to is the environment's choice.

An injection script is a function object and may remember what it was called with: it is a function
of the records it was called with so far, the latest one last.

Two fields of the state are not in the source: `sent` holds what was handed to `send_to`, and
`journal` lists, for each datagram received, what the proxy made of it.  No branch reads them.

Main definitions:

* `TftpHarness.ProxyConfig`, `TftpHarness.ProxyEnvironment`, `TftpHarness.ProxyState` — the proxy
  and its world;
* `TftpHarness.flushDueSends`, `TftpHarness.observeAndRelay`, `TftpHarness.runInjection`,
  `TftpHarness.relayStep` — **the relay loop**, one event at a time;
* `TftpHarness.ProxyRun` — the runs.

Main results:

* `TftpHarness.observeAndRelay_eq` — a datagram adds one entry to the journal, and the trace, the
  queue and the script's calls grow by what the entry says;
* `TftpHarness.relayStep_cases` — **everything one event can do**.
-/

import TftpHarness.Impairments
import TftpHarness.Socket
import TftpHarness.DeadlineQueue

set_option relaxedAutoImplicit false
set_option autoImplicit false

namespace TftpHarness

/-! ### The proxy and its world -/

/-- The sockets the proxy owns: the listen socket, one server-facing socket for each session, and
one socket for each stray packet injected. -/
inductive ProxySocket
  | listen
  | server (session : ℕ)
  | stray (index : ℕ)
  deriving DecidableEq, Repr

/-- One client-server transfer flowing through the proxy. -/
structure Session where
  clientEndpoint : Endpoint
  serverDestination : Endpoint
  serverTidLocked : Bool := false
  deriving DecidableEq, Repr

/-- A datagram scheduled to be sent at a deadline. -/
structure ScheduledSend where
  deadline : ℤ
  socket : ProxySocket
  destination : Endpoint
  bytes : Bytes
  deriving DecidableEq, Repr

/-- A datagram handed to `send_to`, and the reading of the clock at that sweep. -/
structure Transmission where
  time : ℤ
  send : ScheduledSend
  deriving DecidableEq, Repr

/-- A datagram the proxy is told to inject. -/
structure InjectedPacket where
  bytes : Bytes
  towardClient : Bool := true
  delay : ℤ := 0
  fromStrayTid : Bool := true
  description : Bytes := []
  deriving DecidableEq, Repr

structure ProxyConfig where
  serverEndpoint : Endpoint
  impairment : ImpairmentConfig := {}
  seed : UInt64 := 0
  injection : Option (List TraceRecord → List InjectedPacket) := none

/-- The readings of the clock, in nanoseconds, and the ports the sockets are bound to. -/
structure ProxyEnvironment where
  clock : ℕ → ℤ
  localPort : ProxySocket → ℕ

/-- What arrives, or comes due, at the proxy. -/
inductive ProxyEvent
  | flush
  | client (sender : Endpoint) (bytes : Bytes)
  | server (session : ℕ) (sender : Endpoint) (bytes : Bytes)
  | stray (index : ℕ) (sender : Endpoint) (bytes : Bytes)
  deriving DecidableEq, Repr

/-- One packet the script asked for, with its record and its send. -/
structure Injection where
  packet : InjectedPacket
  record : TraceRecord
  send : ScheduledSend
  deriving DecidableEq

/-- Everything one received datagram made the proxy do. -/
structure Handled where
  event : ProxyEvent
  time : ℤ
  record : TraceRecord
  sends : List ScheduledSend
  injectionTime : ℤ
  injections : List Injection
  deriving DecidableEq

structure ProxyState where
  sessions : List Session := []
  strayCount : ℕ := 0
  scheduled : List ScheduledSend := []
  pipeline : PipelineState
  trace : PacketTrace
  scriptCalls : List TraceRecord := []
  clockReads : ℕ := 0
  sent : List Transmission := []
  journal : List Handled := []
  deriving DecidableEq

namespace Handled

/-- The records of an entry, in the order of the trace. -/
def records (h : Handled) : List TraceRecord := h.record :: h.injections.map (·.record)

/-- The sends of an entry, in the order they were scheduled. -/
def allSends (h : Handled) : List ScheduledSend := h.sends ++ h.injections.map (·.send)

end Handled

/-! ### The relay loop -/

section Loop

variable (config : ProxyConfig) (env : ProxyEnvironment)

/-- `start`: the pipeline takes the first reading of the clock. -/
def proxyStart : ProxyState where
  pipeline := { prng := config.seed, lastRefill := env.clock 0 }
  trace := { seed := config.seed.toNat }
  clockReads := 1

/-- Hand the sends that are due to their sockets. -/
def flushDueSends (now : ℤ) (s : ProxyState) : ProxyState :=
  { s with
    sent := s.sent ++ (DeadlineQueue.due ScheduledSend.deadline now s.scheduled).map fun send =>
      { time := now, send }
    scheduled := DeadlineQueue.remaining ScheduledSend.deadline now s.scheduled }

/-- The milliseconds of a delay in nanoseconds. -/
def nanoseconds (milliseconds : ℤ) : ℤ := milliseconds * 1000000

/-- The session of a client, opened at its first datagram. -/
def findOrCreateSession (clientEndpoint : Endpoint) (s : ProxyState) : ℕ × ProxyState :=
  match s.sessions.findIdx? fun session => session.clientEndpoint = clientEndpoint with
  | some index => (index, s)
  | none =>
      (s.sessions.length, { s with
        sessions := s.sessions ++
          [{ clientEndpoint, serverDestination := config.serverEndpoint }] })

/-- The record of an injected packet keeps no reason when the packet does not parse. -/
def parseWithoutReason (bytes : Bytes) : Except Bytes TftpPacket :=
  match parseDatagram bytes with
  | .ok packet => .ok packet
  | .error _ => .error []

/-- One packet of the script: its socket, its send and its record. -/
def injectPacket (now : ℤ) (index : ℕ) (session : Session) (strayCount : ℕ)
    (packet : InjectedPacket) : Injection :=
  let socket := if packet.fromStrayTid then .stray strayCount
    else if packet.towardClient then .listen else .server index
  let destination := if packet.towardClient then session.clientEndpoint
    else session.serverDestination
  { packet
    send :=
      { deadline := now + nanoseconds packet.delay, socket, destination, bytes := packet.bytes }
    record := {
      direction := if packet.towardClient then .serverToClient else .clientToServer
      sourceTid := env.localPort socket
      destinationTid := destination.port
      datagramLength := packet.bytes.length
      parsed := parseWithoutReason packet.bytes
      disposition := .injected
      note := if packet.description = [] then text "injected packet" else packet.description } }

/-- The packets of the script in turn; each stray one opens a socket of its own. -/
def injectPackets (now : ℤ) (index : ℕ) (session : Session) :
    List InjectedPacket → ProxyState → List Injection × ProxyState
  | [], s => ([], s)
  | packet :: packets, s =>
      let injection := injectPacket env now index session s.strayCount packet
      let (injections, s) := injectPackets now index session packets { s with
        strayCount := if packet.fromStrayTid then s.strayCount + 1 else s.strayCount
        scheduled := s.scheduled ++ [injection.send]
        trace := { s.trace with records := s.trace.records ++ [injection.record] } }
      (injection :: injections, s)

/-- `run_injection`, with the time it took from the clock. -/
def runInjection (observed : TraceRecord) (index : ℕ) (session : Session) (s : ProxyState) :
    (ℤ × List Injection) × ProxyState :=
  let now := env.clock s.clockReads
  match config.injection with
  | none => ((now, []), s)
  | some script =>
      let (injections, s) := injectPackets env now index session
        (script (s.scriptCalls ++ [observed]))
        { s with clockReads := s.clockReads + 1, scriptCalls := s.scriptCalls ++ [observed] }
      ((now, injections), s)

/-- The record of a datagram, before its fate is known. -/
def observedRecord (session : Session) (direction : Direction) (datagram : Bytes) : TraceRecord :=
  { direction
    sourceTid := match direction with
      | .clientToServer => session.clientEndpoint.port
      | .serverToClient => session.serverDestination.port
    destinationTid := match direction with
      | .clientToServer => session.serverDestination.port
      | .serverToClient => session.clientEndpoint.port
    datagramLength := datagram.length
    parsed := parseDatagram datagram }

/-- The record with what the pipeline made of the datagram. -/
def recordResult (record : TraceRecord) (result : PipelineResult) : TraceRecord :=
  if result.dropped then { record with disposition := .dropped, note := result.dropReason }
  else
    let anyCorrupted := result.deliveries.any (·.corrupted)
    { record with
      wasDuplicated := 1 < result.deliveries.length
      disposition := if anyCorrupted then .corrupted else .delivered
      note := if anyCorrupted then text "corrupted payload" else record.note }

/-- The sends of a pipeline result. -/
def scheduledSends (result : PipelineResult) (now : ℤ) (outbound : ProxySocket)
    (destination : Endpoint) : List ScheduledSend :=
  if result.dropped then []
  else result.deliveries.map fun delivery =>
    { deadline := now + nanoseconds delivery.delay, socket := outbound, destination,
      bytes := delivery.bytes }

/-- `observe_and_relay`: record a datagram, schedule what the pipeline makes of it, and let the
script inject. -/
def observeAndRelay (event : ProxyEvent) (index : ℕ) (session : Session) (direction : Direction)
    (datagram : Bytes) (outbound : ProxySocket) (destination : Endpoint) (s : ProxyState) :
    ProxyState :=
  let now := env.clock s.clockReads
  let record := observedRecord session direction datagram
  let (result, pipeline) := process config.impairment direction datagram record.isData now
    s.pipeline
  let sends := scheduledSends result now outbound destination
  let record := recordResult record result
  let ((injectionTime, injections), s) := runInjection config env record index session { s with
    clockReads := s.clockReads + 1
    pipeline
    scheduled := s.scheduled ++ sends
    trace := { s.trace with records := s.trace.records ++ [record] } }
  { s with
    journal := s.journal ++ [{ event, time := now, record, sends, injectionTime, injections }] }

/-- A datagram on the listen socket; an empty one is read as a timeout. -/
def handleClient (sender : Endpoint) (bytes : Bytes) (s : ProxyState) : ProxyState :=
  if bytes = [] then s
  else
    let (index, s) := findOrCreateSession config sender s
    match s.sessions[index]? with
    | none => s
    | some session =>
        observeAndRelay config env (.client sender bytes) index session .clientToServer bytes
          (.server index) session.serverDestination s

/-- The session once a datagram has come from the server: the first reply locks it. -/
def lockServerTid (sender : Endpoint) (session : Session) : Session :=
  if session.serverTidLocked then session
  else { session with serverDestination := sender, serverTidLocked := true }

/-- A datagram on a session's server-facing socket. -/
def handleServer (index : ℕ) (sender : Endpoint) (bytes : Bytes) (s : ProxyState) : ProxyState :=
  if bytes = [] then s
  else
    match s.sessions[index]? with
    | none => s
    | some session =>
        let session := lockServerTid sender session
        observeAndRelay config env (.server index sender bytes) index session .serverToClient bytes
          .listen session.clientEndpoint { s with sessions := s.sessions.set index session }

/-- The record of a datagram on a stray socket, a victim's reply. -/
def strayRecord (index : ℕ) (sender : Endpoint) (bytes : Bytes) : TraceRecord :=
  { direction := .clientToServer
    sourceTid := sender.port
    destinationTid := env.localPort (.stray index)
    datagramLength := bytes.length
    parsed := parseWithoutReason bytes
    disposition := .injected
    note := text "reply to stray TID (dropped by proxy)" }

/-- A datagram on a stray socket: recorded, and not relayed. -/
def handleStray (index : ℕ) (sender : Endpoint) (bytes : Bytes) (s : ProxyState) : ProxyState :=
  if bytes = [] then s
  else
    let record := strayRecord env index sender bytes
    { s with
      trace := { s.trace with records := s.trace.records ++ [record] }
      journal := s.journal ++ [{
        event := .stray index sender bytes
        time := env.clock s.clockReads
        record
        sends := []
        injectionTime := env.clock s.clockReads
        injections := [] }] }

/-- One event of the relay loop. -/
def relayStep (s : ProxyState) : ProxyEvent → ProxyState
  | .flush => flushDueSends (env.clock s.clockReads) { s with clockReads := s.clockReads + 1 }
  | .client sender bytes => handleClient config env sender bytes s
  | .server index sender bytes => handleServer config env index sender bytes s
  | .stray index sender bytes => handleStray env index sender bytes s

/-- The sweep after the loop, an hour ahead of the clock. -/
def finalFlush (s : ProxyState) : ProxyState :=
  flushDueSends (env.clock s.clockReads + nanoseconds 3600000)
    { s with clockReads := s.clockReads + 1 }

/-- The socket of an event exists. -/
def ProxyEvent.Arrives (s : ProxyState) : ProxyEvent → Prop
  | .server index _ _ => index < s.sessions.length
  | .stray index _ _ => index < s.strayCount
  | _ => True

instance (s : ProxyState) : (event : ProxyEvent) → Decidable (event.Arrives s)
  | .flush => inferInstanceAs (Decidable True)
  | .client _ _ => inferInstanceAs (Decidable True)
  | .server index _ _ => inferInstanceAs (Decidable (index < s.sessions.length))
  | .stray index _ _ => inferInstanceAs (Decidable (index < s.strayCount))

/-- **The runs of the relay loop** whose every step meets a condition on the state and the event. -/
inductive ProxyRun (guard : ProxyState → ProxyEvent → Prop) : List ProxyEvent → ProxyState → Prop
  | start : ProxyRun guard [] (proxyStart config env)
  | step {events : List ProxyEvent} {s : ProxyState} (run : ProxyRun guard events s)
      (event : ProxyEvent) (harrives : event.Arrives s) (hguard : guard s event) :
      ProxyRun guard (events ++ [event]) (relayStep config env s event)

/-- The runs without a condition. -/
def AnyStep : ProxyState → ProxyEvent → Prop := fun _ _ => True

end Loop

/-! ### What one event can do -/

section Moves

variable (config : ProxyConfig) (env : ProxyEnvironment)

/-- What the script asks for when it is called with a record after the earlier ones. -/
def scriptPackets (calls : List TraceRecord) (record : TraceRecord) : List InjectedPacket :=
  match config.injection with
  | none => []
  | some script => script (calls ++ [record])

/-- What relaying a datagram does to the state, told by the entry it adds to the journal. -/
structure Relayed (index : ℕ) (session : Session) (direction : Direction) (datagram : Bytes)
    (outbound : ProxySocket) (destination : Endpoint) (s s' : ProxyState) (h : Handled) : Prop where
  sessions : s'.sessions = s.sessions
  sent : s'.sent = s.sent
  scheduled : s'.scheduled = s.scheduled ++ h.allSends
  trace : s'.trace.records = s.trace.records ++ h.records
  journal : s'.journal = s.journal ++ [h]
  time : h.time = env.clock s.clockReads
  injectionTime : h.injections ≠ [] → h.injectionTime = env.clock (s.clockReads + 1)
  clockReads : s.clockReads < s'.clockReads ∧
    (h.injections ≠ [] → s.clockReads + 1 < s'.clockReads)
  scriptCalls : config.injection.isSome → s'.scriptCalls = s.scriptCalls ++ [h.record]
  packets : h.injections.map (·.packet) = scriptPackets config s.scriptCalls h.record
  injected : ∀ injection ∈ h.injections, ∃ strayCount,
    injection = injectPacket env h.injectionTime index session strayCount injection.packet
  record : h.record = recordResult (observedRecord session direction datagram)
    (process config.impairment direction datagram (observedRecord session direction datagram).isData
      h.time s.pipeline).1
  sends : h.sends = scheduledSends
    (process config.impairment direction datagram (observedRecord session direction datagram).isData
      h.time s.pipeline).1 h.time outbound destination

variable {config env}

/-- The packets of the script, one after the other. -/
theorem injectPackets_spec (now : ℤ) (index : ℕ) (session : Session)
    (packets : List InjectedPacket) :
    ∀ s : ProxyState, ∃ strayCount,
      (injectPackets env now index session packets s).2 = { s with
        strayCount
        scheduled := s.scheduled ++
          (injectPackets env now index session packets s).1.map (·.send)
        trace := { s.trace with records := s.trace.records ++
          (injectPackets env now index session packets s).1.map (·.record) } } ∧
      (injectPackets env now index session packets s).1.map (·.packet) = packets ∧
      ∀ injection ∈ (injectPackets env now index session packets s).1, ∃ strayCount,
        injection = injectPacket env now index session strayCount injection.packet := by
  induction packets with
  | nil =>
      intro s
      exact ⟨s.strayCount, by simp [injectPackets], rfl, by simp [injectPackets]⟩
  | cons packet packets ih =>
      intro s
      obtain ⟨strayCount, hstate, hpackets, hinjected⟩ := ih { s with
        strayCount := if packet.fromStrayTid then s.strayCount + 1 else s.strayCount
        scheduled := s.scheduled ++
          [(injectPacket env now index session s.strayCount packet).send]
        trace := { s.trace with records := s.trace.records ++
          [(injectPacket env now index session s.strayCount packet).record] } }
      refine ⟨strayCount, ?_, ?_, ?_⟩
      · simp only [injectPackets]
        rw [hstate]
        simp
      · simp only [injectPackets, List.map_cons, hpackets]
        rfl
      · intro injection hmem
        simp only [injectPackets, List.mem_cons] at hmem
        rcases hmem with rfl | hmem
        · exact ⟨s.strayCount, rfl⟩
        · exact hinjected injection hmem

/-- **A relayed datagram adds one entry to the journal**, and the state grows by what the entry
says. -/
theorem observeAndRelay_spec (event : ProxyEvent) (index : ℕ) (session : Session)
    (direction : Direction) (datagram : Bytes) (outbound : ProxySocket) (destination : Endpoint)
    (s : ProxyState) :
    ∃ h, h.event = event ∧ Relayed config env index session direction datagram outbound
      destination s
      (observeAndRelay config env event index session direction datagram outbound destination s)
      h := by
  cases hscript : config.injection with
  | none =>
      simp only [observeAndRelay, runInjection, hscript]
      refine ⟨_, ?_, ⟨rfl, rfl, ?_, rfl, rfl, rfl, ?_, ⟨?_, ?_⟩, ?_, ?_, ?_, rfl, rfl⟩⟩
      · rfl
      · simp [Handled.allSends]
      · intro hne
        exact absurd rfl hne
      · exact Nat.lt_succ_self _
      · intro hne
        exact absurd rfl hne
      · simp [hscript]
      · simp [scriptPackets, hscript]
      · simp
  | some script =>
      set now := env.clock s.clockReads with hnow
      set observed := observedRecord session direction datagram with hobserved
      set piped := process config.impairment direction datagram observed.isData now s.pipeline
        with hpiped
      set record := recordResult observed piped.1 with hrecord
      obtain ⟨strayCount, hstate, hpackets, hinjected⟩ := @injectPackets_spec env
        (env.clock (s.clockReads + 1)) index session (script (s.scriptCalls ++ [record]))
        { s with
          clockReads := s.clockReads + 1 + 1
          pipeline := piped.2
          scheduled := s.scheduled ++ scheduledSends piped.1 now outbound destination
          trace := { s.trace with records := s.trace.records ++ [record] }
          scriptCalls := s.scriptCalls ++ [record] }
      simp only [observeAndRelay, runInjection, hscript, ← hnow, ← hobserved, ← hpiped, ← hrecord]
      rw [hstate]
      refine ⟨_, ?_, ⟨rfl, rfl, ?_, ?_, rfl, rfl, fun _ => rfl, ⟨?_, ?_⟩, fun _ => rfl, ?_,
        hinjected, rfl, rfl⟩⟩
      · rfl
      · simp [Handled.allSends]
      · simp [Handled.records]
      · simp only
        omega
      · intro _
        simp only
        omega
      · simpa [scriptPackets, hscript] using hpackets

variable (config env) in
/-- **Everything one event can do.** -/
inductive RelayMove (s : ProxyState) : ProxyEvent → ProxyState → Prop
  | flush : RelayMove s .flush
      (flushDueSends (env.clock s.clockReads) { s with clockReads := s.clockReads + 1 })
  | emptyClient (sender : Endpoint) : RelayMove s (.client sender []) s
  | emptyServer (index : ℕ) (sender : Endpoint) : RelayMove s (.server index sender []) s
  | emptyStray (index : ℕ) (sender : Endpoint) : RelayMove s (.stray index sender []) s
  | known {sender : Endpoint} {bytes : Bytes} {index : ℕ} {session : Session} {s' : ProxyState}
      {h : Handled} (hbytes : bytes ≠ []) (hsession : s.sessions[index]? = some session)
      (hclient : session.clientEndpoint = sender) (hevent : h.event = .client sender bytes)
      (hrelayed : Relayed config env index session .clientToServer bytes (.server index)
        session.serverDestination s s' h) : RelayMove s (.client sender bytes) s'
  | opened {sender : Endpoint} {bytes : Bytes} {session : Session} {s' : ProxyState} {h : Handled}
      (hbytes : bytes ≠ []) (hnew : ∀ other ∈ s.sessions, other.clientEndpoint ≠ sender)
      (hsession : session =
        { clientEndpoint := sender, serverDestination := config.serverEndpoint })
      (hevent : h.event = .client sender bytes)
      (hrelayed : Relayed config env s.sessions.length session .clientToServer bytes
        (.server s.sessions.length) session.serverDestination
        { s with sessions := s.sessions ++ [session] } s' h) : RelayMove s (.client sender bytes) s'
  | server {index : ℕ} {sender : Endpoint} {bytes : Bytes} {before session : Session}
      {s' : ProxyState} {h : Handled} (hbytes : bytes ≠ [])
      (hbefore : s.sessions[index]? = some before)
      (hsession : session = lockServerTid sender before)
      (hevent : h.event = .server index sender bytes)
      (hrelayed : Relayed config env index session .serverToClient bytes .listen
        session.clientEndpoint { s with sessions := s.sessions.set index session } s' h) :
      RelayMove s (.server index sender bytes) s'
  | stray {index : ℕ} {sender : Endpoint} {bytes : Bytes} (hbytes : bytes ≠ []) :
      RelayMove s (.stray index sender bytes) (handleStray env index sender bytes s)

/-- **Every event is one of the moves.** -/
theorem relayMove_relayStep {s : ProxyState} {event : ProxyEvent} (harrives : event.Arrives s) :
    RelayMove config env s event (relayStep config env s event) := by
  cases event with
  | flush => exact .flush
  | client sender bytes =>
      by_cases hbytes : bytes = []
      · subst hbytes
        simp only [relayStep, handleClient, if_true]
        exact .emptyClient sender
      · simp only [relayStep, handleClient, if_neg hbytes, findOrCreateSession]
        -- a client with a session, or a new one
        cases hfind : s.sessions.findIdx? fun session => session.clientEndpoint = sender with
        | some index =>
            rw [List.findIdx?_eq_some_iff_getElem] at hfind
            obtain ⟨hlt, hclient, -⟩ := hfind
            have hsession : s.sessions[index]? = some s.sessions[index] :=
              List.getElem?_eq_getElem hlt
            simp only [hsession]
            obtain ⟨h, hevent, hrelayed⟩ := @observeAndRelay_spec config env
              (.client sender bytes) index s.sessions[index] .clientToServer bytes (.server index)
              s.sessions[index].serverDestination s
            exact .known hbytes hsession (by simpa using hclient) hevent hrelayed
        | none =>
            rw [List.findIdx?_eq_none_iff] at hfind
            simp only [List.getElem?_concat_length]
            obtain ⟨h, hevent, hrelayed⟩ := @observeAndRelay_spec config env
              (.client sender bytes) s.sessions.length
              { clientEndpoint := sender, serverDestination := config.serverEndpoint }
              .clientToServer bytes (.server s.sessions.length) config.serverEndpoint
              { s with sessions := s.sessions ++
                [{ clientEndpoint := sender, serverDestination := config.serverEndpoint }] }
            exact .opened hbytes (fun other hmem => by simpa using hfind other hmem) rfl hevent
              hrelayed
  | server index sender bytes =>
      by_cases hbytes : bytes = []
      · subst hbytes
        simp only [relayStep, handleServer, if_true]
        exact .emptyServer index sender
      · have hbefore : s.sessions[index]? = some (s.sessions.get ⟨index, harrives⟩) :=
          List.getElem?_eq_getElem harrives
        simp only [relayStep, handleServer, if_neg hbytes, hbefore]
        obtain ⟨h, hevent, hrelayed⟩ := @observeAndRelay_spec config env
          (.server index sender bytes) index
          (lockServerTid sender (s.sessions.get ⟨index, harrives⟩))
          .serverToClient bytes .listen
          (lockServerTid sender (s.sessions.get ⟨index, harrives⟩)).clientEndpoint
          { s with sessions :=
            s.sessions.set index (lockServerTid sender (s.sessions.get ⟨index, harrives⟩)) }
        exact .server hbytes hbefore rfl hevent hrelayed
  | stray index sender bytes =>
      by_cases hbytes : bytes = []
      · subst hbytes
        simp only [relayStep, handleStray, if_true]
        exact .emptyStray index sender
      · exact .stray hbytes

end Moves

/-! ### Locking a session -/

@[simp] theorem recordResult_sourceTid (record : TraceRecord) (result : PipelineResult) :
    (recordResult record result).sourceTid = record.sourceTid := by
  unfold recordResult
  split <;> rfl

/-- A session that is locked stays as it is. -/
theorem lockServerTid_locked {sender : Endpoint} {session : Session}
    (h : session.serverTidLocked = true) : lockServerTid sender session = session := by
  simp [lockServerTid, h]

theorem lockServerTid_unlocked {sender : Endpoint} {session : Session}
    (h : session.serverTidLocked = false) : lockServerTid sender session =
      { session with serverDestination := sender, serverTidLocked := true } := by
  simp [lockServerTid, h]

@[simp] theorem lockServerTid_clientEndpoint (sender : Endpoint) (session : Session) :
    (lockServerTid sender session).clientEndpoint = session.clientEndpoint := by
  unfold lockServerTid
  split <;> rfl

@[simp] theorem serverTidLocked_lockServerTid (sender : Endpoint) (session : Session) :
    (lockServerTid sender session).serverTidLocked = true := by
  unfold lockServerTid
  split
  · assumption
  · rfl

/-! ### A quiet proxy -/

/-- A loopback endpoint. -/
def loopback (port : ℕ) : Endpoint := ⟨false, text "127.0.0.1", port⟩

/-- A proxy without impairments before a server on port 69. -/
def quietProxy : ProxyConfig := { serverEndpoint := loopback 69 }

/-- A world whose clock stands still. -/
def stillWorld : ProxyEnvironment where
  clock _ := 0
  localPort _ := 0

/-- The state of the quiet proxy after the events. -/
def quietRun (events : List ProxyEvent) : ProxyState :=
  events.foldl (relayStep quietProxy stillWorld) (proxyStart quietProxy stillWorld)

/-- A request for the file `a` from the client on port 4000. -/
def requestForA : ProxyEvent :=
  .client (loopback 4000) (serializeReadRequest (text "a") (text "octet") [])

/-- The first block of the file from a port of the server. -/
def firstBlockFrom (port : ℕ) : ProxyEvent := .server 0 (loopback port) (serializeData 1 [])

end TftpHarness
