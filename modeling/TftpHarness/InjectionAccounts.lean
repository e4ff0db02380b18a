/-
**Injected packets and the replies to them.**

The trace shows two things the proxy did not relay: the packets that a script had it inject, and
what a victim sent to a stray socket.  Both are recorded as injected.  The observer tells them apart
by the note, which is the script's own description for a packet and a fixed sentence for a reply.
So every reply counts as an injection as well, and a packet whose description has the words of that
sentence counts as a reply.  An empty reply is read like a timeout and does not count at all.

Main definitions:

* `TftpHarness.scriptReturned`, `TftpHarness.strayReplies` — what the script returned in a run, and
  what arrived on the stray sockets;
* `TftpHarness.recordedReplies` — the replies that are recorded;
* `TftpHarness.PosesAsReply` — a packet with the words of a reply in its description;
* `TftpHarness.InjectionsAccounted` — a report that accounts for both.

Main results:

* `TftpHarness.foldl_injectionCounts` — what the observer counts;
* `TftpHarness.journal_noted` — how a run notes what it did not relay;
* `TftpHarness.injectionCounts_run` — the counts of a run;
* `TftpHarness.injectionsAccounted_iff` — **the report accounts for both exactly when nothing that
  is recorded arrived on a stray socket**, and the packets that pose as replies stand in for the
  empty ones.
-/

import TftpHarness.GroundTruth

set_option relaxedAutoImplicit false
set_option autoImplicit false

namespace TftpHarness

/-! ### What the observer counts -/

/-- The record of a datagram that parses as an ERROR with code 5. -/
def isError5 (parsed : Except Bytes TftpPacket) : Bool :=
  match parsed with
  | .ok packet => packet.opcode == .error && packet.errorCode == .unknownTransferId
  | .error _ => false

/-- The record is one the observer takes for a reply to a stray TID. -/
def TraceRecord.LooksLikeReply (record : TraceRecord) : Prop :=
  record.disposition = .injected ∧ text "reply to stray TID" <:+: record.note

instance (record : TraceRecord) : Decidable record.LooksLikeReply :=
  inferInstanceAs (Decidable (_ ∧ _))

/-- The injections, the replies and whether one of these was ERROR 5. -/
def ObserverReport.injectionCounts (report : ObserverReport) : ℕ × ℕ × Bool :=
  (report.datagramsInjected, report.strayTidReplies, report.strayTidReplyWasError5)

section Observer

variable (context : ObserverContext) (s : ObserverState) (record : TraceRecord)

theorem injectionCounts_countDisposition :
    (s.countDisposition record).report.injectionCounts =
      (if record.disposition = .injected then u32 (s.report.datagramsInjected + 1)
        else s.report.datagramsInjected, s.report.injectionCounts.2) := by
  unfold ObserverState.countDisposition
  cases hdisposition : record.disposition <;> rfl

theorem injectionCounts_noteRequest :
    (s.noteRequest record).report.injectionCounts = s.report.injectionCounts := by
  unfold ObserverState.noteRequest
  split <;> rfl

theorem injectionCounts_noteServerTid :
    (s.noteServerTid record).report.injectionCounts = s.report.injectionCounts := by
  unfold ObserverState.noteServerTid
  split <;> rfl

theorem injectionCounts_noteStrayReply :
    (s.noteStrayReply record).report.injectionCounts =
      (s.report.datagramsInjected,
        if record.LooksLikeReply then u32 (s.report.strayTidReplies + 1)
          else s.report.strayTidReplies,
        s.report.strayTidReplyWasError5 ||
          (decide record.LooksLikeReply && isError5 record.parsed)) := by
  have herror : (record.packetOf .error).any (·.errorCode == .unknownTransferId) =
      isError5 record.parsed := by
    unfold TraceRecord.packetOf isError5
    cases record.parsed with
    | error reason => rfl
    | ok packet => by_cases h : packet.opcode = .error <;> simp [h]
  unfold ObserverState.noteStrayReply
  split
  · next h =>
      have hlooks : record.LooksLikeReply := h
      simp [ObserverReport.injectionCounts, hlooks, herror]
  · next h =>
      have hlooks : ¬ record.LooksLikeReply := h
      simp [ObserverReport.injectionCounts, hlooks]

end Observer

/-- The counts with one record more. -/
def countInjection (counts : ℕ × ℕ × Bool) (record : TraceRecord) : ℕ × ℕ × Bool :=
  (if record.disposition = .injected then u32 (counts.1 + 1) else counts.1,
    if record.LooksLikeReply then u32 (counts.2.1 + 1) else counts.2.1,
    counts.2.2 || (decide record.LooksLikeReply && isError5 record.parsed))

/-- One record counts as an injection if it is marked so, and as a reply if it looks like one. -/
theorem injectionCounts_observeRecord (context : ObserverContext) (s : ObserverState)
    (record : TraceRecord) :
    (observeRecord context s record).report.injectionCounts =
      countInjection s.report.injectionCounts record := by
  have hdata (t : ObserverState) (packet : TftpPacket) :
      (t.countDataPacket context packet).report.injectionCounts = t.report.injectionCounts := rfl
  have hack (t : ObserverState) (packet : TftpPacket) :
      (t.countAckPacket packet).report.injectionCounts = t.report.injectionCounts := rfl
  have hnotes : ((((s.countDisposition record).noteRequest record).noteServerTid
      record).noteStrayReply record).report.injectionCounts =
        countInjection s.report.injectionCounts record := by
    have hbefore := (injectionCounts_noteServerTid _ record).trans
      ((injectionCounts_noteRequest _ record).trans (injectionCounts_countDisposition s record))
    obtain ⟨hinjected, hrest⟩ := Prod.mk.inj hbefore
    obtain ⟨hreplies, herror⟩ := Prod.mk.inj hrest
    rw [injectionCounts_noteStrayReply, hinjected, hreplies, herror]
    rfl
  unfold observeRecord
  cases record.dataPacket context with
  | none =>
      cases record.ackPacket context with
      | none => exact hnotes
      | some ack => exact (hack _ _).trans hnotes
  | some packet =>
      cases record.ackPacket context with
      | none => exact (hdata _ _).trans hnotes
      | some ack => exact (hack _ _).trans ((hdata _ _).trans hnotes)

/-- **What the observer counts**: records marked as injected, and among them those that look like a
reply. -/
theorem foldl_injectionCounts (context : ObserverContext) (records : List TraceRecord)
    (s : ObserverState) :
    (records.foldl (observeRecord context) s).report.injectionCounts =
      records.foldl countInjection s.report.injectionCounts := by
  induction records generalizing s with
  | nil => rfl
  | cons record records ih =>
      rw [List.foldl_cons, ih, injectionCounts_observeRecord, List.foldl_cons]

/-- The counts of some records. -/
theorem foldl_countInjection (records : List TraceRecord) :
    records.foldl countInjection (0, 0, false) =
      (u32 (records.countP fun record => record.disposition = .injected),
        u32 (records.countP fun record => record.LooksLikeReply),
        records.any fun record => decide record.LooksLikeReply && isError5 record.parsed) := by
  induction records using List.reverseRecOn with
  | nil => rfl
  | append_singleton records record ih =>
      rw [List.foldl_append, ih, List.foldl_cons, List.foldl_nil, countInjection]
      simp only [List.countP_append, List.countP_singleton, List.any_append, List.any_cons,
        List.any_nil, Bool.or_false, decide_eq_true_eq]
      refine Prod.ext ?_ (Prod.ext ?_ rfl)
      · by_cases h : record.disposition = .injected <;> simp [h, u32]
      · by_cases h : record.LooksLikeReply <;> simp [h, u32]

theorem observe_injectionCounts (trace : PacketTrace) (context : ObserverContext) :
    (observe trace context).injectionCounts =
      (u32 (trace.records.countP fun record => record.disposition = .injected),
        u32 (trace.records.countP fun record => record.LooksLikeReply),
        trace.records.any fun record => decide record.LooksLikeReply && isError5 record.parsed) :=
  (foldl_injectionCounts context trace.records _).trans (foldl_countInjection trace.records)

/-! ### What the observer counts as sent by a peer -/

section Sent

variable (context : ObserverContext)

/-- The ACK packets a trace shows as peer sends in the direction of the ACKs, in order. -/
def ackPackets (records : List TraceRecord) : List TftpPacket :=
  records.filterMap fun record => record.ackPacket context

theorem acknowledgementsSent_observeRecord (s : ObserverState) (record : TraceRecord) :
    (observeRecord context s record).report.acknowledgementsSent =
      match record.ackPacket context with
      | some _ => u32 (s.report.acknowledgementsSent + 1)
      | none => s.report.acknowledgementsSent := by
  have hnotes := (notes_frame s record).acknowledgementsSent
  unfold observeRecord
  cases record.dataPacket context with
  | none =>
      cases record.ackPacket context with
      | none => exact hnotes
      | some ack => exact congrArg (fun n => u32 (n + 1)) hnotes
  | some packet =>
      cases record.ackPacket context with
      | none => exact hnotes
      | some ack => exact congrArg (fun n => u32 (n + 1)) hnotes

/-- **What the observer counts in the direction of the ACKs.** -/
theorem observe_acknowledgementsSent (trace : PacketTrace) :
    (observe trace context).acknowledgementsSent =
      u32 (ackPackets context trace.records).length := by
  have hfold (records : List TraceRecord) :
      (records.foldl (observeRecord context)
        { report := { totalRecords := u32 trace.records.length } }).report.acknowledgementsSent =
          u32 (ackPackets context records).length := by
    induction records using List.reverseRecOn with
    | nil => rfl
    | append_singleton records record ih =>
        rw [List.foldl_append, List.foldl_cons, List.foldl_nil, acknowledgementsSent_observeRecord,
          ih]
        unfold ackPackets
        rw [List.filterMap_append]
        cases hpacket : record.ackPacket context with
        | none => simp [hpacket]
        | some ack => simp [hpacket, u32]
  exact hfold trace.records

end Sent

/-! ### How a run notes what it did not relay -/

/-- The bytes that arrived on a stray socket; an empty datagram is read as a timeout. -/
def ProxyEvent.strayDatagram : ProxyEvent → Option Bytes
  | .stray _ _ bytes => if bytes = [] then none else some bytes
  | _ => none

/-- The direction and the bytes of a datagram that is relayed. -/
def ProxyEvent.relayed : ProxyEvent → Option (Direction × Bytes)
  | .client _ bytes => if bytes = [] then none else some (.clientToServer, bytes)
  | .server _ _ bytes => if bytes = [] then none else some (.serverToClient, bytes)
  | _ => none

/-- The note of an injected packet. -/
def InjectedPacket.note (packet : InjectedPacket) : Bytes :=
  if packet.description = [] then text "injected packet" else packet.description

/-- The packet has the words of a reply in its description. -/
def PosesAsReply (packet : InjectedPacket) : Prop :=
  text "reply to stray TID" <:+: packet.description

instance (packet : InjectedPacket) : Decidable (PosesAsReply packet) :=
  inferInstanceAs (Decidable (_ <:+: _))

/-- How an entry of the journal is noted in the trace. -/
def Noted (h : Handled) : Prop :=
  match h.event.strayDatagram with
  | some bytes => h.injections = [] ∧ h.record.disposition = .injected ∧
      h.record.note = text "reply to stray TID (dropped by proxy)" ∧
      h.record.parsed = parseWithoutReason bytes
  | none => h.record.isPeerSend = true ∧
      (∃ bytes, h.event.relayed = some (h.record.direction, bytes) ∧
        h.record.parsed = parseDatagram bytes) ∧
      ∀ injection ∈ h.injections, injection.record.disposition = .injected ∧
        injection.record.note = injection.packet.note ∧
        injection.record.parsed = parseWithoutReason injection.packet.bytes

section Runs

variable {config : ProxyConfig} {env : ProxyEnvironment}

/-- The entry of a relayed datagram. -/
theorem noted_of_relayed {index : ℕ} {session : Session} {direction : Direction} {bytes : Bytes}
    {outbound : ProxySocket} {destination : Endpoint} {s s' : ProxyState} {h : Handled}
    (hpeer : h.event.strayDatagram = none) (hevent : h.event.relayed = some (direction, bytes))
    (hrelayed : Relayed config env index session direction bytes outbound destination s s' h) :
    Noted h := by
  have hfaithful := relayedFaithfully_of_relayed hrelayed
  have hdirection : h.record.direction = direction := by
    rw [hrelayed.record, recordResult]
    split <;> rfl
  rw [Noted, hpeer]
  refine ⟨hfaithful.peerSend, ⟨bytes, by rw [hevent, hdirection], hfaithful.parsed⟩,
    fun injection hmem => ?_⟩
  obtain ⟨strayCount, heq⟩ := hrelayed.injected injection hmem
  rw [heq]
  exact ⟨rfl, rfl, rfl⟩

/-- **Every entry of the journal is noted so.** -/
theorem journal_noted {guard : ProxyState → ProxyEvent → Prop} {events : List ProxyEvent}
    {s : ProxyState} (run : ProxyRun config env guard events s) : ∀ h ∈ s.journal, Noted h := by
  have hrelay {s s' : ProxyState} {h : Handled} (hs : ∀ g ∈ s.journal, Noted g)
      (hjournal : s'.journal = s.journal ++ [h]) (hnoted : Noted h) :
      ∀ g ∈ s'.journal, Noted g := by
    intro g hg
    rw [hjournal] at hg
    rcases List.mem_append.1 hg with hg | hg
    · exact hs g hg
    · exact List.mem_singleton.1 hg ▸ hnoted
  induction run with
  | start => exact fun h hmem => absurd hmem List.not_mem_nil
  | @step events s run event harrives hguard ih =>
      have hmove := @relayMove_relayStep config env _ _ harrives
      generalize relayStep config env s event = s' at hmove
      cases hmove with
      | flush => exact ih
      | emptyClient sender => exact ih
      | emptyServer index sender => exact ih
      | emptyStray index sender => exact ih
      | known hbytes hsession hclient hevent hrelayed =>
          exact hrelay ih hrelayed.journal
            (noted_of_relayed (by rw [hevent]; rfl)
              (by simp [hevent, ProxyEvent.relayed, hbytes]) hrelayed)
      | opened hbytes hnew hsession hevent hrelayed =>
          exact hrelay ih hrelayed.journal
            (noted_of_relayed (by rw [hevent]; rfl)
              (by simp [hevent, ProxyEvent.relayed, hbytes]) hrelayed)
      | server hbytes hbefore hsession hevent hrelayed =>
          exact hrelay ih hrelayed.journal
            (noted_of_relayed (by rw [hevent]; rfl)
              (by simp [hevent, ProxyEvent.relayed, hbytes]) hrelayed)
      | @stray index sender bytes hbytes =>
          obtain ⟨h, hjournal, hnoted⟩ : ∃ h,
              (handleStray env index sender bytes s).journal = s.journal ++ [h] ∧ Noted h := by
            simp only [handleStray, if_neg hbytes]
            refine ⟨_, rfl, ?_⟩
            simp [Noted, ProxyEvent.strayDatagram, hbytes, strayRecord]
          exact hrelay ih hjournal hnoted

/-! ### The counts of a run -/

/-- The packets that the script returned, called with these records one after the other. -/
def scriptReturned (config : ProxyConfig) (calls : List TraceRecord) : List InjectedPacket :=
  match config.injection with
  | none => []
  | some script => calls.inits.tail.flatMap script

theorem scriptReturned_append (calls : List TraceRecord) (record : TraceRecord) :
    scriptReturned config (calls ++ [record]) =
      scriptReturned config calls ++ scriptPackets config calls record := by
  have hinits : (calls ++ [record]).inits.tail = calls.inits.tail ++ [calls ++ [record]] := by
    rw [List.inits_append, List.tail_append_of_ne_nil (by cases calls <;> simp)]
    simp
  unfold scriptReturned scriptPackets
  cases config.injection with
  | none => rfl
  | some script =>
      simp only
      rw [hinits, List.flatMap_append, List.flatMap_singleton]

/-- What arrived on the stray sockets. -/
def strayReplies (events : List ProxyEvent) : List Bytes :=
  events.filterMap fun event => match event with
    | .stray _ _ bytes => some bytes
    | _ => none

/-- What the proxy records of it. -/
def recordedReplies (events : List ProxyEvent) : List Bytes :=
  events.filterMap ProxyEvent.strayDatagram

/-- All but the empty replies are recorded. -/
theorem recordedReplies_eq (events : List ProxyEvent) :
    recordedReplies events = (strayReplies events).filter (· ≠ []) := by
  rw [recordedReplies, strayReplies, List.filter_filterMap]
  refine List.filterMap_congr fun event _ => ?_
  cases event with
  | stray index sender bytes =>
      by_cases hbytes : bytes = [] <;>
        simp [ProxyEvent.strayDatagram, Option.filter, hbytes]
  | flush => rfl
  | client sender bytes => rfl
  | server index sender bytes => rfl

/-- The packets that the entries of a journal say were injected. -/
def journalPackets (journal : List Handled) : List InjectedPacket :=
  journal.flatMap fun h => h.injections.map (·.packet)

/-- The packets injected are those the script returned. -/
theorem journalPackets_eq (journal : List Handled)
    (h : ∀ earlier h later, journal = earlier ++ h :: later → Faithful config earlier h) :
    journalPackets journal = scriptReturned config (relayedRecords journal) := by
  induction journal using List.reverseRecOn with
  | nil =>
      unfold scriptReturned
      cases config.injection <;> rfl
  | append_singleton journal entry ih =>
      have hinit := ih fun earlier g later heq => h earlier g (later ++ [entry]) (by simp [heq])
      have hlast := h journal entry [] rfl
      unfold Faithful at hlast
      split at hlast
      · next bytes hdatagram =>
          have hrelayed : relayedRecords (journal ++ [entry]) =
              relayedRecords journal ++ [entry.record] := by
            simp [relayedRecords, hdatagram]
          rw [hrelayed, scriptReturned_append, ← hinit, ← hlast.2.1]
          simp [journalPackets]
      · next hdatagram =>
          have hrelayed : relayedRecords (journal ++ [entry]) = relayedRecords journal := by
            simp [relayedRecords, hdatagram]
          rw [hrelayed, ← hinit]
          simp [journalPackets, hlast.2.2]

/-- A packet is noted with the words of a reply exactly if it poses as one. -/
theorem infix_note_iff (packet : InjectedPacket) :
    text "reply to stray TID" <:+: packet.note ↔ PosesAsReply packet := by
  unfold InjectedPacket.note PosesAsReply
  split
  · next hempty =>
      rw [hempty]
      exact iff_of_false (by decide) (by decide)
  · exact Iff.rfl

/-- **The records of an entry**: a reply, or a peer's record and those of the packets injected. -/
theorem countP_records {h : Handled} (hnoted : Noted h) :
    (h.records.countP fun record => record.disposition = .injected) =
        h.injections.length + h.event.strayDatagram.toList.length ∧
      (h.records.countP fun record => record.LooksLikeReply) =
        ((h.injections.map (·.packet)).countP fun packet => PosesAsReply packet) +
          h.event.strayDatagram.toList.length ∧
      (h.records.any fun record => decide record.LooksLikeReply && isError5 record.parsed) =
        (((h.injections.map (·.packet)).any fun packet =>
            decide (PosesAsReply packet) && isError5 (parseWithoutReason packet.bytes)) ||
          h.event.strayDatagram.toList.any fun bytes => isError5 (parseWithoutReason bytes)) := by
  unfold Noted at hnoted
  split at hnoted
  · next bytes hstray =>
      obtain ⟨hnone, hdisposition, hnote, hparsed⟩ := hnoted
      have hlooks : h.record.LooksLikeReply := ⟨hdisposition, by rw [hnote]; decide⟩
      simp [Handled.records, hstray, hnone, hdisposition, hlooks, hparsed]
  · next hstray =>
      obtain ⟨hpeer, -, hinjected⟩ := hnoted
      have hdisposition : h.record.disposition ≠ .injected := by
        simpa [TraceRecord.isPeerSend] using hpeer
      have hlooks : ¬ h.record.LooksLikeReply := fun hlooks => hdisposition hlooks.1
      have hposes : ∀ injection ∈ h.injections,
          (injection.record.LooksLikeReply ↔ PosesAsReply injection.packet) := by
        intro injection hmem
        obtain ⟨hmarked, hnote, -⟩ := hinjected injection hmem
        rw [TraceRecord.LooksLikeReply, hnote, infix_note_iff, and_iff_right hmarked]
      simp only [Handled.records, hstray, List.countP_cons, List.any_cons, hdisposition, hlooks,
        List.countP_map, List.any_map, Option.toList_none, List.length_nil, Nat.add_zero,
        decide_false, Bool.false_eq_true, if_false, Bool.false_and, Bool.false_or, List.any_nil,
        Bool.or_false]
      refine ⟨List.countP_eq_length.2 fun injection hmem => ?_,
        List.countP_congr fun injection hmem => ?_, ?_⟩
      · simpa using (hinjected injection hmem).1
      · simpa using hposes injection hmem
      · rw [Bool.eq_iff_iff, List.any_eq_true, List.any_eq_true]
        refine exists_congr fun injection => and_congr_right fun hmem => ?_
        simp [hposes injection hmem, (hinjected injection hmem).2.2]

/-- **The records of a journal**: those marked as injected are its packets and its replies, and
those that look like a reply are the replies and the packets that pose as one. -/
theorem countP_journal {journal : List Handled} (hnoted : ∀ h ∈ journal, Noted h) :
    ((journal.flatMap Handled.records).countP fun record => record.disposition = .injected) =
        (journalPackets journal).length + (recordedReplies (journal.map (·.event))).length ∧
      ((journal.flatMap Handled.records).countP fun record => record.LooksLikeReply) =
        ((journalPackets journal).countP fun packet => PosesAsReply packet) +
          (recordedReplies (journal.map (·.event))).length ∧
      ((journal.flatMap Handled.records).any fun record =>
          decide record.LooksLikeReply && isError5 record.parsed) =
        (((journalPackets journal).any fun packet =>
            decide (PosesAsReply packet) && isError5 (parseWithoutReason packet.bytes)) ||
          (recordedReplies (journal.map (·.event))).any fun bytes =>
            isError5 (parseWithoutReason bytes)) := by
  induction journal with
  | nil => exact ⟨rfl, rfl, rfl⟩
  | cons h journal ih =>
      obtain ⟨hinjected, hlooks, herror⟩ := ih fun g hg => hnoted g (List.mem_cons_of_mem _ hg)
      obtain ⟨hinjected', hlooks', herror'⟩ := countP_records (hnoted h List.mem_cons_self)
      have hreplies : recordedReplies ((h :: journal).map (·.event)) =
          h.event.strayDatagram.toList ++ recordedReplies (journal.map (·.event)) := by
        cases hstray : h.event.strayDatagram <;> simp [recordedReplies, hstray]
      have hpackets : journalPackets (h :: journal) =
          h.injections.map (·.packet) ++ journalPackets journal := rfl
      simp only [hreplies, hpackets, List.flatMap_cons, List.countP_append, List.length_append,
        List.any_append, List.length_map, hinjected, hlooks, herror, hinjected', hlooks', herror']
      refine ⟨by omega, by omega, ?_⟩
      ac_rfl

/-- The packets of an opcode among the datagrams relayed in a direction. -/
def relayedPackets (direction : Direction) (opcode : TftpOpcode) (events : List ProxyEvent) :
    List TftpPacket :=
  events.filterMap fun event =>
    match event.relayed with
    | none => none
    | some datagram =>
        match parseDatagram datagram.2 with
        | .ok packet =>
            if datagram.1 = direction ∧ packet.opcode = opcode then some packet else none
        | .error _ => none

/-- **The packets a journal shows as sent by a peer** are those of the datagrams relayed. -/
theorem packets_journal (context : ObserverContext) {journal : List Handled}
    (hnoted : ∀ h ∈ journal, Noted h) :
    dataPackets context (journal.flatMap Handled.records) =
        relayedPackets (dataDirection context.direction) .data (journal.map (·.event)) ∧
      ackPackets context (journal.flatMap Handled.records) =
        relayedPackets (ackDirection context.direction) .acknowledgement
          (journal.map (·.event)) := by
  -- one argument for both: a record shows a packet if a peer has sent it in the right direction
  have hpackets (direction : Direction) (opcode : TftpOpcode) {h : Handled} (hh : Noted h) :
      (h.records.filterMap fun record =>
          if record.direction = direction ∧ record.isPeerSend = true then record.packetOf opcode
          else none) = relayedPackets direction opcode [h.event] := by
    unfold Noted at hh
    split at hh
    · next bytes hstray =>
        obtain ⟨hnone, hdisposition, -, -⟩ := hh
        have hrelayed : h.event.relayed = none := by
          cases hevent : h.event <;> simp_all [ProxyEvent.strayDatagram, ProxyEvent.relayed]
        simp [Handled.records, hnone, relayedPackets, hrelayed, TraceRecord.isPeerSend,
          hdisposition]
    · next hstray =>
        obtain ⟨hpeer, ⟨bytes, hrelayed, hparsed⟩, hinjected⟩ := hh
        have hinjections : ((h.injections.map (·.record)).filterMap fun record =>
            if record.direction = direction ∧ record.isPeerSend = true then record.packetOf opcode
            else none) = [] := by
          rw [List.filterMap_eq_nil_iff]
          intro record hmem
          obtain ⟨injection, hinjection, rfl⟩ := List.mem_map.1 hmem
          simp [TraceRecord.isPeerSend, (hinjected injection hinjection).1]
        rw [Handled.records, List.filterMap_cons, hinjections]
        simp only [relayedPackets, List.filterMap_cons, List.filterMap_nil, hrelayed, hpeer,
          TraceRecord.packetOf, hparsed, and_true]
        cases parseDatagram bytes with
        | error reason => simp
        | ok packet =>
            by_cases hdirection : h.record.direction = direction <;> simp [hdirection]
  have hall (direction : Direction) (opcode : TftpOpcode) :
      ((journal.flatMap Handled.records).filterMap fun record =>
          if record.direction = direction ∧ record.isPeerSend = true then record.packetOf opcode
          else none) = relayedPackets direction opcode (journal.map (·.event)) := by
    induction journal with
    | nil => rfl
    | cons h journal ih =>
        rw [List.flatMap_cons, List.filterMap_append, hpackets direction opcode
          (hnoted h List.mem_cons_self), ih fun g hg => hnoted g (List.mem_cons_of_mem _ hg)]
        simp only [relayedPackets, ← List.filterMap_append]
        rfl
  exact ⟨hall _ _, hall _ _⟩

/-- Events that bring no datagram bring none to count. -/
theorem filterMap_isReceived {β : Type} {f : ProxyEvent → Option β}
    (hf : ∀ event, event.isReceived = false → f event = none) (events : List ProxyEvent) :
    (events.filter ProxyEvent.isReceived).filterMap f = events.filterMap f := by
  rw [List.filterMap_filter]
  refine List.filterMap_congr fun event _ => ?_
  cases hreceived : event.isReceived with
  | true => rfl
  | false => exact (hf event hreceived).symm

/-- **The counts of a run**: the packets of the script and the replies together, and the replies and
the packets that pose as one together. -/
theorem injectionCounts_run {guard : ProxyState → ProxyEvent → Prop} {events : List ProxyEvent}
    {s : ProxyState} (run : ProxyRun config env guard events s) (context : ObserverContext) :
    (observe s.trace context).injectionCounts =
      (u32 ((scriptReturned config s.scriptCalls).length + (recordedReplies events).length),
        u32 (((scriptReturned config s.scriptCalls).countP fun packet => PosesAsReply packet) +
          (recordedReplies events).length),
        ((scriptReturned config s.scriptCalls).any fun packet =>
            decide (PosesAsReply packet) && isError5 (parseWithoutReason packet.bytes)) ||
          (recordedReplies events).any fun bytes => isError5 (parseWithoutReason bytes)) := by
  have hledger := proxyLedger run
  obtain ⟨hinjected, hlooks, herror⟩ := countP_journal (journal_noted run)
  have hpackets : journalPackets s.journal = scriptReturned config s.scriptCalls := by
    rw [journalPackets_eq s.journal hledger.faithful]
    unfold scriptReturned
    cases hscript : config.injection with
    | none => rfl
    | some script => rw [hledger.calls (by rw [hscript]; rfl)]
  have hreplies : recordedReplies (s.journal.map (·.event)) = recordedReplies events := by
    rw [hledger.received]
    refine filterMap_isReceived (fun event hevent => ?_) events
    cases event <;> simp_all [ProxyEvent.strayDatagram, ProxyEvent.isReceived]
  rw [observe_injectionCounts, hledger.trace, hinjected, hlooks, herror, hpackets, hreplies]

/-- **What counts as sent in a run**: the datagrams relayed, and nothing else. -/
theorem sent_run {guard : ProxyState → ProxyEvent → Prop} {events : List ProxyEvent}
    {s : ProxyState} (run : ProxyRun config env guard events s) (context : ObserverContext) :
    (observe s.trace context).dataPacketsSent =
        u32 (relayedPackets (dataDirection context.direction) .data events).length ∧
      (observe s.trace context).acknowledgementsSent =
        u32 (relayedPackets (ackDirection context.direction) .acknowledgement events).length := by
  have hledger := proxyLedger run
  obtain ⟨hdata, hack⟩ := packets_journal context (journal_noted run)
  have hevents (direction : Direction) (opcode : TftpOpcode) :
      relayedPackets direction opcode (s.journal.map (·.event)) =
        relayedPackets direction opcode events := by
    rw [hledger.received]
    refine filterMap_isReceived (fun event hevent => ?_) events
    have hrelayed : event.relayed = none := by
      cases event <;> simp_all [ProxyEvent.relayed, ProxyEvent.isReceived]
    rw [hrelayed]
  rw [(observe_counts context s.trace).1, observe_acknowledgementsSent, hledger.trace, hdata, hack,
    hevents, hevents]
  exact ⟨rfl, rfl⟩

/-! ### The accounts -/

/-- The datagram parses as ERROR with code 5. -/
def RefusesTid (bytes : Bytes) : Prop :=
  ∃ packet, parseDatagram bytes = .ok packet ∧ packet.opcode = .error ∧
    packet.errorCode = .unknownTransferId

theorem isError5_parseWithoutReason_iff {bytes : Bytes} :
    isError5 (parseWithoutReason bytes) = true ↔ RefusesTid bytes := by
  unfold RefusesTid parseWithoutReason
  cases parseDatagram bytes with
  | error reason => simp [isError5]
  | ok packet => simp [isError5]

/-- An empty reply does not parse. -/
theorem not_refusesTid_nil : ¬ RefusesTid [] := by
  rw [← isError5_parseWithoutReason_iff]
  decide

/-- **The report accounts for what was injected and what came back**: it counts the packets of the
script as injections and what arrived on the stray sockets as replies, it says whether one of these
was ERROR 5, and it counts neither as sent by a peer. -/
structure InjectionsAccounted (context : ObserverContext) (returned : List InjectedPacket)
    (events : List ProxyEvent) (report : ObserverReport) : Prop where
  injected : report.datagramsInjected = returned.length
  replies : report.strayTidReplies = (strayReplies events).length
  error5 : report.strayTidReplyWasError5 = true ↔ ∃ bytes ∈ strayReplies events, RefusesTid bytes
  dataSent : report.dataPacketsSent =
    u32 (relayedPackets (dataDirection context.direction) .data events).length
  acknowledgementsSent : report.acknowledgementsSent =
    u32 (relayedPackets (ackDirection context.direction) .acknowledgement events).length

/-- When the counts come out right: nothing but empty datagrams arrived on the stray sockets, as
many of the script's packets pose as replies, none of them as ERROR 5, and the packets are fewer
than the counter can hold. -/
structure CountsComeOut (returned : List InjectedPacket) (events : List ProxyEvent) : Prop where
  silent : ∀ bytes ∈ strayReplies events, bytes = []
  posing : (returned.countP fun packet => PosesAsReply packet) = (strayReplies events).length
  refusing : ∀ packet ∈ returned, PosesAsReply packet → ¬ RefusesTid packet.bytes
  few : returned.length < 4294967296

/-- **The report accounts for both exactly when nothing that is recorded arrived on a stray
socket**, and the packets that pose as replies stand in for the empty ones. -/
theorem injectionsAccounted_iff {events : List ProxyEvent} {s : ProxyState}
    (run : ProxyRun config env AnyStep events s) (context : ObserverContext) :
    InjectionsAccounted context (scriptReturned config s.scriptCalls) events
        (observe s.trace context) ↔
      CountsComeOut (scriptReturned config s.scriptCalls) events := by
  obtain ⟨hinjected, hrest⟩ := Prod.mk.inj (injectionCounts_run run context)
  obtain ⟨hreplies, herror⟩ := Prod.mk.inj hrest
  obtain ⟨hdata, hack⟩ := sent_run run context
  generalize scriptReturned config s.scriptCalls = returned at hinjected hreplies herror ⊢
  have hflag : (observe s.trace context).strayTidReplyWasError5 = true ↔
      (∃ packet ∈ returned, PosesAsReply packet ∧ RefusesTid packet.bytes) ∨
        ∃ bytes ∈ recordedReplies events, RefusesTid bytes := by
    rw [herror, Bool.or_eq_true, List.any_eq_true, List.any_eq_true]
    simp only [Bool.and_eq_true, decide_eq_true_eq, isError5_parseWithoutReason_iff]
  have hle := List.countP_le_length (p := fun packet => decide (PosesAsReply packet))
    (l := returned)
  have hrecorded : (recordedReplies events).length ≤ (strayReplies events).length := by
    rw [recordedReplies_eq]
    exact List.length_filter_le ..
  have hsilent : recordedReplies events = [] ↔ ∀ bytes ∈ strayReplies events, bytes = [] := by
    simp [recordedReplies_eq]
  constructor
  · intro h
    have hcount := h.injected
    have hreply := h.replies
    rw [hinjected, u32] at hcount
    rw [hreplies, u32] at hreply
    have hnone : recordedReplies events = [] := List.length_eq_zero_iff.1 (by omega)
    have hall := hsilent.1 hnone
    refine ⟨hall, by omega, fun packet hmem hposes hrefuses => ?_, by omega⟩
    obtain ⟨bytes, hbytes, hrefuses⟩ :=
      h.error5.1 (hflag.2 (Or.inl ⟨packet, hmem, hposes, hrefuses⟩))
    rw [hall bytes hbytes] at hrefuses
    exact not_refusesTid_nil hrefuses
  · rintro ⟨hall, hposing, hrefusing, hlt⟩
    have hnone := hsilent.2 hall
    refine ⟨?_, ?_, ?_, hdata, hack⟩
    · rw [hinjected, hnone]
      exact u32_of_lt hlt
    · rw [hreplies, hposing, hnone]
      exact u32_of_lt (by rw [List.length_nil]; omega)
    · rw [hflag, hnone]
      refine iff_of_false ?_ ?_
      · rintro (⟨packet, hmem, hposes, hrefuses⟩ | ⟨bytes, hmem, -⟩)
        · exact hrefusing packet hmem hposes hrefuses
        · cases hmem
      · rintro ⟨bytes, hmem, hrefuses⟩
        rw [hall bytes hmem] at hrefuses
        exact not_refusesTid_nil hrefuses

end Runs

/-- The proxy after a request, which its script answers with a stray ACK. -/
def requestedState : ProxyState :=
  relayStep injectingProxy stillWorld (proxyStart injectingProxy stillWorld) requestForA

/-- The client answers the stray ACK with ERROR 5. -/
def strayRefusal : ProxyEvent :=
  .stray 0 (loopback 4000) (serializeError .unknownTransferId (text "unknown transfer ID"))

/-- A request and one packet of the script, before anything comes back. -/
theorem injectionsAccounted_request :
    InjectionsAccounted {} (scriptReturned injectingProxy requestedState.scriptCalls)
      [requestForA] (observe requestedState.trace {}) := by
  have hreturned : scriptReturned injectingProxy requestedState.scriptCalls =
      [{ bytes := serializeAcknowledgement 0 }] := by
    decide +kernel
  refine (injectionsAccounted_iff (.step .start requestForA trivial trivial) {}).2 ⟨?_, ?_, ?_, ?_⟩
  · decide +kernel
  · exact (congrArg (List.countP _) hreturned).trans (by decide +kernel)
  · intro packet hmem hposes
    have hpacket : packet ∈ [({ bytes := serializeAcknowledgement 0 } : InjectedPacket)] :=
      hreturned ▸ hmem
    rw [List.mem_singleton.1 hpacket] at hposes
    exact absurd hposes (by decide)
  · exact (congrArg List.length hreturned).trans_lt (by decide)

/-- **A reply to a stray packet** counts as a second injection. -/
theorem strayRefusal_injected :
    ProxyRun injectingProxy stillWorld AnyStep [requestForA, strayRefusal]
        (relayStep injectingProxy stillWorld requestedState strayRefusal) ∧
      ¬ InjectionsAccounted {}
        (scriptReturned injectingProxy
          (relayStep injectingProxy stillWorld requestedState strayRefusal).scriptCalls)
        [requestForA, strayRefusal]
        (observe (relayStep injectingProxy stillWorld requestedState strayRefusal).trace {}) := by
  refine ⟨.step (.step .start requestForA trivial trivial) strayRefusal (by decide +kernel) trivial,
    fun h => ?_⟩
  exact absurd h.injected (by decide +kernel)

end TftpHarness
