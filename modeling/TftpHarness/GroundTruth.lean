/-
**The trace is the ground truth of the wire.**

The observer judges a transfer by the proxy's trace, so the trace has to say what happened: one
record for each datagram a peer sent, with its parse and its fate; one for each packet injected;
one for each reply to a stray packet; and behind every record the sends it stands for, each of
which leaves the proxy once, with the bytes and the destination it was scheduled with, and not
before its time.

The journal of a run groups this by received datagram.  Its invariant is the ledger: the trace, the
queue and what was sent are accounted for by the entries, and each entry is faithful to its
datagram.

Main definitions:

* `TftpHarness.RelayedFaithfully`, `TftpHarness.Faithful` — what an entry of the journal says of its
  datagram;
* `TftpHarness.ProxyLedger` — the invariant.

Main results:

* `TftpHarness.relayedFaithfully_of_relayed` — every verdict of the pipeline is recorded as it is;
* `TftpHarness.proxyLedger` — the ledger holds in every run;
* `TftpHarness.trace_ground_truth` — **the trace is the ground truth**, and the final sweep sends
  all that is left.
-/

import TftpHarness.Proxy
import Mathlib.Order.Monotone.Basic
import Mathlib.Data.Int.ConditionallyCompleteOrder

set_option relaxedAutoImplicit false
set_option autoImplicit false

namespace TftpHarness

/-! ### Received datagrams -/

/-- The datagram of an event that a peer sent and the proxy relays. -/
def ProxyEvent.peerDatagram : ProxyEvent → Option Bytes
  | .client _ bytes => if bytes = [] then none else some bytes
  | .server _ _ bytes => if bytes = [] then none else some bytes
  | _ => none

/-- The event brings a datagram; an empty one is read as a timeout. -/
def ProxyEvent.isReceived : ProxyEvent → Bool
  | .flush => false
  | .client _ bytes => bytes ≠ []
  | .server _ _ bytes => bytes ≠ []
  | .stray _ _ bytes => bytes ≠ []

/-- The records the script has been called with: those of the relayed datagrams. -/
def relayedRecords (journal : List Handled) : List TraceRecord :=
  (journal.filter fun h => h.event.peerDatagram.isSome).map (·.record)

/-! ### Faithful entries -/

/-- The record of a relayed datagram says what arrived and what became of it. -/
structure RelayedFaithfully (bytes : Bytes) (h : Handled) : Prop where
  peerSend : h.record.isPeerSend = true
  length : h.record.datagramLength = bytes.length
  parsed : h.record.parsed = parseDatagram bytes
  dropped : h.record.disposition = .dropped ↔ h.sends = []
  atMostTwo : h.sends.length ≤ 2
  duplicated : h.record.wasDuplicated = true ↔ h.sends.length = 2
  delivered : h.record.disposition = .delivered ↔
    h.sends ≠ [] ∧ ∀ send ∈ h.sends, send.bytes = bytes
  corrupted : h.record.disposition = .corrupted ↔
    h.sends ≠ [] ∧ ∀ send ∈ h.sends, send.bytes ≠ bytes ∧ send.bytes.length = bytes.length

/-- The record and the send of an injected packet. -/
structure InjectedFaithfully (injection : Injection) : Prop where
  disposition : injection.record.disposition = .injected
  length : injection.record.datagramLength = injection.packet.bytes.length
  bytes : injection.send.bytes = injection.packet.bytes

/-- **An entry is faithful to its datagram**: a peer's datagram is relayed, and the script, called
with its record after those of the earlier ones, has its packets injected; a reply to a stray packet
is recorded and nothing else. -/
def Faithful (config : ProxyConfig) (earlier : List Handled) (h : Handled) : Prop :=
  match h.event.peerDatagram with
  | some bytes => RelayedFaithfully bytes h ∧
      h.injections.map (·.packet) = scriptPackets config (relayedRecords earlier) h.record ∧
      ∀ injection ∈ h.injections, InjectedFaithfully injection
  | none => h.record.disposition = .injected ∧ h.sends = [] ∧ h.injections = []

section Runs

variable {config : ProxyConfig} {env : ProxyEnvironment}

/-- **Every verdict of the pipeline is recorded as it is.** -/
theorem relayedFaithfully_of_relayed {index : ℕ} {session : Session} {direction : Direction}
    {bytes : Bytes} {outbound : ProxySocket} {destination : Endpoint} {s s' : ProxyState}
    {h : Handled}
    (hrelayed : Relayed config env index session direction bytes outbound destination s s' h) :
    RelayedFaithfully bytes h := by
  have hspec := process_spec config.impairment direction bytes
    (observedRecord session direction bytes).isData h.time s.pipeline
  have hrecord := hrelayed.record
  have hsends := hrelayed.sends
  generalize (process config.impairment direction bytes
    (observedRecord session direction bytes).isData h.time s.pipeline).1 = result
    at hspec hrecord hsends
  have hunchanged {copy : Bytes} (hbytes : false = true ↔ copy ≠ bytes) : copy = bytes :=
    not_not.1 fun hne => Bool.noConfusion (hbytes.2 hne)
  cases hspec with
  | dropped dropReason =>
      simp only [recordResult, scheduledSends, if_true] at hrecord hsends
      constructor <;> simp [hrecord, hsends, observedRecord, TraceRecord.isPeerSend]
  | @delivered copy corrupted delay hlength hbytes =>
      simp only [recordResult, scheduledSends, Bool.false_eq_true, if_false, List.map_cons,
        List.map_nil, List.any_cons, List.any_nil, Bool.or_false] at hrecord hsends
      cases corrupted with
      | false =>
          constructor <;>
            simp [hrecord, hsends, observedRecord, TraceRecord.isPeerSend, hunchanged hbytes]
      | true =>
          have hne : copy ≠ bytes := hbytes.1 rfl
          constructor <;>
            simp [hrecord, hsends, observedRecord, TraceRecord.isPeerSend, hne, hlength]
  | @duplicated copy corrupted delay hlength hbytes =>
      simp only [recordResult, scheduledSends, Bool.false_eq_true, if_false, List.map_cons,
        List.map_nil, List.any_cons, List.any_nil, Bool.or_false, Bool.or_self] at hrecord hsends
      cases corrupted with
      | false =>
          constructor <;>
            simp [hrecord, hsends, observedRecord, TraceRecord.isPeerSend, hunchanged hbytes]
      | true =>
          have hne : copy ≠ bytes := hbytes.1 rfl
          constructor <;>
            simp [hrecord, hsends, observedRecord, TraceRecord.isPeerSend, hne, hlength]

theorem injectedFaithfully_injectPacket (now : ℤ) (index : ℕ) (session : Session) (strayCount : ℕ)
    (packet : InjectedPacket) :
    InjectedFaithfully (injectPacket env now index session strayCount packet) := ⟨rfl, rfl, rfl⟩

/-! ### The ledger -/

variable (config env) in
/-- **The ledger of a run.** -/
structure ProxyLedger (events : List ProxyEvent) (s : ProxyState) : Prop where
  received : s.journal.map (·.event) = events.filter ProxyEvent.isReceived
  trace : s.trace.records = s.journal.flatMap Handled.records
  faithful : ∀ earlier h later, s.journal = earlier ++ h :: later → Faithful config earlier h
  calls : config.injection.isSome → s.scriptCalls = relayedRecords s.journal
  /-- Every send ever scheduled has been sent or is in the queue, once. -/
  conserved : (s.sent.map (·.send) ++ s.scheduled).Perm (s.journal.flatMap Handled.allSends)
  punctual : ∀ transmission ∈ s.sent, transmission.send.deadline ≤ transmission.time
  times : ∀ h ∈ s.journal, (h.sends ≠ [] → ∃ k < s.clockReads, h.time = env.clock k) ∧
    ∀ injection ∈ h.injections, (∃ k < s.clockReads, h.injectionTime = env.clock k) ∧
      injection.send.deadline = h.injectionTime + nanoseconds injection.packet.delay

/-- A property of each entry given the earlier ones, extended by one entry at the end. -/
theorem faithful_append {journal : List Handled} {new : Handled}
    (h : ∀ earlier h later, journal = earlier ++ h :: later → Faithful config earlier h)
    (hnew : Faithful config journal new) :
    ∀ earlier h later, journal ++ [new] = earlier ++ h :: later → Faithful config earlier h := by
  intro earlier entry later heq
  rcases List.eq_nil_or_concat later with rfl | ⟨later, last, rfl⟩
  · obtain ⟨rfl, hsame⟩ := List.append_inj' heq rfl
    obtain rfl := (List.cons.inj hsame).1
    exact hnew
  · have hsplit : journal ++ [new] = (earlier ++ entry :: later) ++ [last] := by simpa using heq
    obtain ⟨hjournal, -⟩ := List.append_inj' hsplit rfl
    exact h earlier entry later hjournal

/-- The packets of the script depend on its earlier calls only if there is a script. -/
theorem scriptPackets_congr {calls calls' : List TraceRecord} (record : TraceRecord)
    (h : config.injection.isSome → calls = calls') :
    scriptPackets config calls record = scriptPackets config calls' record := by
  unfold scriptPackets
  cases hinjection : config.injection with
  | none => rfl
  | some script => rw [h (by rw [hinjection]; rfl)]

/-- **A relayed datagram keeps the ledger.** -/
theorem ProxyLedger.relayed {events : List ProxyEvent} {event : ProxyEvent} {bytes : Bytes}
    {index : ℕ} {session : Session} {sessions : List Session} {direction : Direction}
    {outbound : ProxySocket} {destination : Endpoint} {s s' : ProxyState} {h : Handled}
    (hs : ProxyLedger config env events s) (hdatagram : event.peerDatagram = some bytes)
    (hreceived : event.isReceived = true) (hevent : h.event = event)
    (hrelayed : Relayed config env index session direction bytes outbound destination
      { s with sessions } s' h) : ProxyLedger config env (events ++ [event]) s' := by
  have hjournal : s'.journal = s.journal ++ [h] := hrelayed.journal
  refine ⟨?_, ?_, ?_, ?_, ?_, ?_, ?_⟩
  · -- the journal has one entry more, which accounts for all the rest
    rw [hjournal, List.map_append, hs.received]
    simp [hevent, hreceived]
  · have htrace : s'.trace.records = s.trace.records ++ h.records := hrelayed.trace
    rw [htrace, hs.trace, hjournal]
    simp
  · rw [hjournal]
    refine faithful_append hs.faithful ?_
    simp only [Faithful, hevent, hdatagram]
    refine ⟨relayedFaithfully_of_relayed hrelayed, ?_, ?_⟩
    · rw [hrelayed.packets]
      exact scriptPackets_congr _ hs.calls
    · intro injection hmem
      obtain ⟨strayCount, heq⟩ := hrelayed.injected injection hmem
      rw [heq]
      exact injectedFaithfully_injectPacket _ _ _ _ _
  · intro hscript
    have hcalls : s'.scriptCalls = s.scriptCalls ++ [h.record] := hrelayed.scriptCalls hscript
    rw [hcalls, hs.calls hscript, hjournal]
    simp [relayedRecords, hevent, hdatagram]
  · have hscheduled : s'.scheduled = s.scheduled ++ h.allSends := hrelayed.scheduled
    have hsent : s'.sent = s.sent := hrelayed.sent
    rw [hsent, hscheduled, hjournal, ← List.append_assoc]
    simpa using hs.conserved.append_right h.allSends
  · have hsent : s'.sent = s.sent := hrelayed.sent
    rw [hsent]
    exact hs.punctual
  · have hreads : s.clockReads < s'.clockReads := hrelayed.clockReads.1
    intro g hg
    rw [hjournal] at hg
    rcases List.mem_append.1 hg with hg | hg
    · obtain ⟨hsends, hinjections⟩ := hs.times g hg
      constructor
      · intro hne
        obtain ⟨k, hk, htime⟩ := hsends hne
        exact ⟨k, by omega, htime⟩
      intro injection hmem
      obtain ⟨⟨k, hk, htime⟩, hdeadline⟩ := hinjections injection hmem
      exact ⟨⟨k, by omega, htime⟩, hdeadline⟩
    · obtain rfl := List.mem_singleton.1 hg
      refine ⟨fun _ => ⟨s.clockReads, hreads, hrelayed.time⟩, ?_⟩
      intro injection hmem
      have hne := List.ne_nil_of_mem hmem
      refine ⟨⟨s.clockReads + 1, hrelayed.clockReads.2 hne, hrelayed.injectionTime hne⟩, ?_⟩
      obtain ⟨strayCount, heq⟩ := hrelayed.injected injection hmem
      rw [heq]
      rfl

/-- **A sweep keeps the ledger**, but for the events. -/
theorem ProxyLedger.conserved_flush {events : List ProxyEvent} {s : ProxyState}
    (hs : ProxyLedger config env events s) (now : ℤ) :
    ((flushDueSends now s).sent.map (·.send) ++ (flushDueSends now s).scheduled).Perm
      (s.journal.flatMap Handled.allSends) := by
  simp only [flushDueSends, List.map_append, List.map_map, Function.comp_def, List.map_id',
    List.append_assoc]
  exact ((DeadlineQueue.perm_sweep now s.scheduled).append_left _).trans hs.conserved

/-- **One event keeps the ledger.** -/
theorem ProxyLedger.step {events : List ProxyEvent} {s s' : ProxyState} {event : ProxyEvent}
    (hs : ProxyLedger config env events s) (hmove : RelayMove config env s event s') :
    ProxyLedger config env (events ++ [event]) s' := by
  have hquiet : event.isReceived = false →
      s.journal.map (·.event) = (events ++ [event]).filter ProxyEvent.isReceived := by
    intro hignored
    rw [hs.received]
    simp [hignored]
  cases hmove with
  | emptyClient sender =>
      exact ⟨hquiet rfl, hs.trace, hs.faithful, hs.calls, hs.conserved, hs.punctual, hs.times⟩
  | emptyServer index sender =>
      exact ⟨hquiet rfl, hs.trace, hs.faithful, hs.calls, hs.conserved, hs.punctual, hs.times⟩
  | emptyStray index sender =>
      exact ⟨hquiet rfl, hs.trace, hs.faithful, hs.calls, hs.conserved, hs.punctual, hs.times⟩
  | flush =>
      refine ⟨hquiet rfl, hs.trace, hs.faithful, hs.calls, hs.conserved_flush _, ?_, ?_⟩
      · intro transmission hmem
        rcases List.mem_append.1 hmem with hmem | hmem
        · exact hs.punctual transmission hmem
        · obtain ⟨send, hdue, rfl⟩ := List.mem_map.1 hmem
          exact DeadlineQueue.deadline_le_of_mem_due hdue
      · intro h hmem
        obtain ⟨hsends, hinjections⟩ := hs.times h hmem
        constructor
        · intro hne
          obtain ⟨k, hk, htime⟩ := hsends hne
          exact ⟨k, Nat.lt_succ_of_lt hk, htime⟩
        intro injection hinjection
        obtain ⟨⟨k, hk, htime⟩, hdeadline⟩ := hinjections injection hinjection
        exact ⟨⟨k, Nat.lt_succ_of_lt hk, htime⟩, hdeadline⟩
  | @known sender bytes index session s' h hbytes hsession hclient hevent hrelayed =>
      exact @ProxyLedger.relayed config env events _ bytes index session s.sessions _ _ _ s s' h hs
        (by simp [ProxyEvent.peerDatagram, hbytes])
        (by simp [ProxyEvent.isReceived, hbytes]) hevent hrelayed
  | @opened sender bytes session s' h hbytes hnew hsession hevent hrelayed =>
      exact hs.relayed (by simp [ProxyEvent.peerDatagram, hbytes])
        (by simp [ProxyEvent.isReceived, hbytes]) hevent hrelayed
  | @server index sender bytes before session s' h hbytes hbefore hsession hevent hrelayed =>
      exact hs.relayed (by simp [ProxyEvent.peerDatagram, hbytes])
        (by simp [ProxyEvent.isReceived, hbytes]) hevent hrelayed
  | @stray index sender bytes hbytes =>
      -- a stray datagram is recorded and goes nowhere
      simp only [handleStray, if_neg hbytes]
      refine ⟨?_, ?_, ?_, ?_, ?_, hs.punctual, ?_⟩
      · rw [List.map_append, hs.received]
        simp [ProxyEvent.isReceived, hbytes]
      · simp only [hs.trace, List.flatMap_append, List.flatMap_cons, List.flatMap_nil]
        simp [Handled.records]
      · exact faithful_append hs.faithful ⟨rfl, rfl, rfl⟩
      · intro hscript
        rw [hs.calls hscript]
        simp [relayedRecords, ProxyEvent.peerDatagram]
      · simpa [Handled.allSends] using hs.conserved
      · intro g hg
        rcases List.mem_append.1 hg with hg | hg
        · exact hs.times g hg
        · obtain rfl := List.mem_singleton.1 hg
          exact ⟨fun hne => absurd rfl hne, fun injection hmem => by cases hmem⟩

/-- **The ledger holds in every run.** -/
theorem proxyLedger {guard : ProxyState → ProxyEvent → Prop} {events : List ProxyEvent}
    {s : ProxyState} (run : ProxyRun config env guard events s) :
    ProxyLedger config env events s := by
  induction run with
  | start =>
      refine ⟨rfl, rfl, ?_, fun _ => rfl, List.Perm.refl _, ?_, ?_⟩
      · intro earlier h later heq
        cases earlier <;> cases heq
      · intro transmission hmem
        cases hmem
      · intro h hmem
        cases hmem
  | step run event harrives hguard ih => exact ih.step (relayMove_relayStep harrives)

/-! ### The ground truth -/

/-- The peer records of an entry: one for a relayed datagram, none for a reply to a stray packet. -/
theorem peerRecords_of_faithful {earlier : List Handled} {h : Handled}
    (hfaithful : Faithful config earlier h) :
    (h.records.filter TraceRecord.isPeerSend).map
        (fun record => (record.datagramLength, record.parsed)) =
      (h.event.peerDatagram.toList).map fun bytes => (bytes.length, parseDatagram bytes) := by
  unfold Faithful at hfaithful
  split at hfaithful
  · rename_i bytes hdatagram
    obtain ⟨hrelayed, -, hinjected⟩ := hfaithful
    have hinjections : (h.injections.map (·.record)).filter TraceRecord.isPeerSend = [] := by
      refine List.filter_eq_nil_iff.2 fun record hmem => ?_
      obtain ⟨injection, hinjection, rfl⟩ := List.mem_map.1 hmem
      simp [TraceRecord.isPeerSend, (hinjected injection hinjection).disposition]
    rw [Handled.records, List.filter_cons_of_pos hrelayed.peerSend, hinjections, hdatagram]
    simp [hrelayed.length, hrelayed.parsed]
  · rename_i hdatagram
    obtain ⟨hdisposition, -, hinjections⟩ := hfaithful
    simp [Handled.records, hinjections, hdatagram, TraceRecord.isPeerSend, hdisposition]

/-- The peer records of a journal of faithful entries are those of the datagrams relayed. -/
theorem peerRecords_of_journal (journal : List Handled) :
    (∀ earlier h later, journal = earlier ++ h :: later → Faithful config earlier h) →
      ((journal.flatMap Handled.records).filter TraceRecord.isPeerSend).map
          (fun record => (record.datagramLength, record.parsed)) =
        ((journal.map (·.event)).filterMap ProxyEvent.peerDatagram).map
          fun bytes => (bytes.length, parseDatagram bytes) := by
  induction journal using List.reverseRecOn with
  | nil => simp
  | append_singleton journal h ih =>
      intro hfaithful
      have hlast := peerRecords_of_faithful (hfaithful journal h [] rfl)
      have hinit := ih fun earlier g later heq => hfaithful earlier g (later ++ [h]) (by simp [heq])
      rw [List.flatMap_append, List.filter_append, List.map_append, hinit]
      have hsingle : [h.event].filterMap ProxyEvent.peerDatagram = h.event.peerDatagram.toList := by
        cases hdatagram : h.event.peerDatagram <;> simp [hdatagram]
      rw [List.map_append, List.map_singleton, List.filterMap_append, hsingle, List.map_append,
        ← hlast, List.flatMap_singleton]

/-- Events that bring no datagram bring none to relay. -/
theorem filterMap_peerDatagram (events : List ProxyEvent) :
    (events.filter ProxyEvent.isReceived).filterMap ProxyEvent.peerDatagram =
      events.filterMap ProxyEvent.peerDatagram := by
  rw [List.filterMap_filter]
  congr 1
  funext event
  cases event with
  | flush => rfl
  | client sender bytes =>
      by_cases h : bytes = [] <;> simp [ProxyEvent.isReceived, ProxyEvent.peerDatagram, h]
  | server index sender bytes =>
      by_cases h : bytes = [] <;> simp [ProxyEvent.isReceived, ProxyEvent.peerDatagram, h]
  | stray index sender bytes => simp [ProxyEvent.peerDatagram]

/-- **The trace is the ground truth of the wire.**  In every run the peer records of the trace are
those of the relayed datagrams, in order; the trace and the sends are accounted for by the received
datagrams, each faithfully; no send leaves ahead of its deadline; and, if no delay exceeds an hour,
the final sweep leaves nothing behind: every send ever scheduled has been sent once. -/
theorem trace_ground_truth {events : List ProxyEvent} {s : ProxyState}
    (run : ProxyRun config env AnyStep events s) (hclock : Monotone env.clock)
    (hdelay : ∀ h ∈ s.journal,
      (∀ send ∈ h.sends, send.deadline ≤ h.time + nanoseconds 3600000) ∧
        ∀ injection ∈ h.injections, injection.packet.delay ≤ 3600000) :
    (s.trace.records.filter TraceRecord.isPeerSend).map
        (fun record => (record.datagramLength, record.parsed)) =
        (events.filterMap ProxyEvent.peerDatagram).map
          (fun bytes => (bytes.length, parseDatagram bytes)) ∧
      s.journal.map (·.event) = events.filter ProxyEvent.isReceived ∧
      s.trace.records = s.journal.flatMap Handled.records ∧
      (∀ earlier h later, s.journal = earlier ++ h :: later → Faithful config earlier h) ∧
      (∀ transmission ∈ s.sent, transmission.send.deadline ≤ transmission.time) ∧
      (finalFlush env s).scheduled = [] ∧
      ((finalFlush env s).sent.map (·.send)).Perm (s.journal.flatMap Handled.allSends) := by
  have hledger := proxyLedger run
  -- every deadline in the queue is at most an hour ahead of the last reading
  have hdue : ∀ send ∈ s.scheduled,
      send.deadline ≤ env.clock s.clockReads + nanoseconds 3600000 := by
    intro send hmem
    have hall := hledger.conserved.mem_iff.1 (List.mem_append_right _ hmem)
    obtain ⟨h, hjournal, hsend⟩ := List.mem_flatMap.1 hall
    obtain ⟨hsends, hinjections⟩ := hdelay h hjournal
    obtain ⟨htime, htimes⟩ := hledger.times h hjournal
    rcases List.mem_append.1 hsend with hsend | hsend
    · obtain ⟨k, hk, heq⟩ := htime (List.ne_nil_of_mem hsend)
      have hmono := hclock (Nat.le_of_lt hk)
      have hle := hsends send hsend
      omega
    · obtain ⟨injection, hinjection, rfl⟩ := List.mem_map.1 hsend
      obtain ⟨⟨k, hk, heq⟩, hdeadline⟩ := htimes injection hinjection
      have hmono := hclock (Nat.le_of_lt hk)
      have hle := hinjections injection hinjection
      simp only [nanoseconds] at hdeadline ⊢
      omega
  obtain ⟨hall, hnone⟩ := DeadlineQueue.sweep_all hdue
  refine ⟨?_, hledger.received, hledger.trace, hledger.faithful, hledger.punctual, hnone, ?_⟩
  · rw [hledger.trace, peerRecords_of_journal _ hledger.faithful, hledger.received,
      filterMap_peerDatagram]
  · have hconserved := hledger.conserved_flush (env.clock s.clockReads + nanoseconds 3600000)
    have hempty : (flushDueSends (env.clock s.clockReads + nanoseconds 3600000) s).scheduled = [] :=
      hnone
    rw [hempty, List.append_nil] at hconserved
    exact hconserved

end Runs

/-- A proxy whose script answers the first datagram with an ACK from a stray port. -/
def injectingProxy : ProxyConfig where
  serverEndpoint := loopback 69
  injection := some fun records =>
    if records.length = 1 then [{ bytes := serializeAcknowledgement 0 }] else []

/-- A request and an injected ACK, both still in the queue, leave with the final sweep. -/
theorem trace_ground_truth_injected :
    (finalFlush stillWorld (relayStep injectingProxy stillWorld
      (proxyStart injectingProxy stillWorld) requestForA)).scheduled = [] :=
  (trace_ground_truth (.step .start requestForA trivial trivial) monotone_const
    (by decide +kernel)).2.2.2.2.2.1

end TftpHarness
