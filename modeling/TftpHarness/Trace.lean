/-
**The packet trace and its observer.**

The impairment proxy sees every datagram in both directions and appends one record for each, plus
one for each datagram it injects itself.  The observer, `src/verify/packet_observer.cpp`, reads the
records once, in order, and measures what the adapters cannot see from the outside.  A record holds
the result of the parser in one field: the packet of a parseable datagram or the reason of the
failure.  Left out is the time stamp, which no reader of a trace uses.

Main definitions:

* `TftpHarness.TraceRecord`, `TftpHarness.PacketTrace` — one record, and the trace of a transfer;
* `TftpHarness.ObserverReport`, `TftpHarness.observe` — **the observer**;
* `TftpHarness.ObserverReport.narrative` — the report as text;
* `TftpHarness.TraceRecord.dataPacket` — the DATA packet a record shows in the data direction.

Main results:

* `TftpHarness.observe_counts` — **what the observer counts in the data direction**: the packets,
  the distinct numbers on the wire, and the difference of the two;
* `TftpHarness.observe_terminatingShortBlock` — the final-block check: a short DATA packet was seen;
* `TftpHarness.observe_highestBlockNumber_le`, `TftpHarness.observe_serverSelectedFreshTid` — the
  highest block, and the check of the server's transfer ID.
-/

import TftpHarness.Packet
import Mathlib.Data.Finset.Card
import Mathlib.Data.List.Infix

set_option relaxedAutoImplicit false
set_option autoImplicit false

namespace TftpHarness

/-! ### Records -/

/-- The two directions through the proxy. -/
inductive Direction
  | clientToServer
  | serverToClient
  deriving DecidableEq, Repr

/-- What the proxy did with an observed datagram. -/
inductive TraceDisposition
  | delivered
  | dropped
  | corrupted
  | injected
  deriving DecidableEq, Repr

/-- A single observed or injected datagram. -/
structure TraceRecord where
  direction : Direction := .clientToServer
  sourceTid : ℕ := 0
  destinationTid : ℕ := 0
  datagramLength : ℕ := 0
  parsed : Except Bytes TftpPacket := .error []
  disposition : TraceDisposition := .delivered
  wasDuplicated : Bool := false
  note : Bytes := []
  deriving DecidableEq

/-- The trace of one transfer and the seed that produced it. -/
structure PacketTrace where
  seed : ℕ := 0
  records : List TraceRecord := []
  deriving DecidableEq

namespace TraceRecord

/-- The packet of a parseable record, when it has the opcode. -/
def packetOf (record : TraceRecord) (opcode : TftpOpcode) : Option TftpPacket :=
  match record.parsed with
  | .ok packet => if packet.opcode = opcode then some packet else none
  | .error _ => none

def isData (record : TraceRecord) : Bool := (record.packetOf .data).isSome

/-- A datagram that a peer sent, whatever became of it. -/
def isPeerSend (record : TraceRecord) : Bool := record.disposition != .injected

end TraceRecord

/-! ### The report -/

/-- Which side sends the DATA stream. -/
inductive TransferDirection
  | download
  | upload
  deriving DecidableEq, Repr

/-- The direction the DATA stream travels. -/
def dataDirection : TransferDirection → Direction
  | .download => .serverToClient
  | .upload => .clientToServer

/-- The direction the ACKs travel. -/
def ackDirection : TransferDirection → Direction
  | .download => .clientToServer
  | .upload => .serverToClient

structure ObserverContext where
  direction : TransferDirection := .download
  blockSize : ℕ := 512
  deriving DecidableEq, Repr

structure ObserverReport where
  dataPacketsSent : ℕ := 0
  distinctDataBlocks : ℕ := 0
  retransmittedDataPackets : ℕ := 0
  finalDataBlockLength : ℕ := 0
  terminatingShortBlockPresent : Bool := false
  acknowledgementsSent : ℕ := 0
  duplicateAcknowledgements : ℕ := 0
  datagramsDropped : ℕ := 0
  datagramsCorrupted : ℕ := 0
  datagramsInjected : ℕ := 0
  strayTidReplies : ℕ := 0
  strayTidReplyWasError5 : Bool := false
  serverSelectedFreshTid : Bool := false
  requestDestinationTid : ℕ := 0
  serverSourceTid : ℕ := 0
  highestBlockNumber : ℕ := 0
  blockNumberWrapped : Bool := false
  totalRecords : ℕ := 0
  deriving DecidableEq, Repr

/-- The report in words. -/
def ObserverReport.narrative (report : ObserverReport) : Bytes :=
  text "DATA sent=" ++ toDecimal report.dataPacketsSent ++
    text " distinct=" ++ toDecimal report.distinctDataBlocks ++
    text " retransmit=" ++ toDecimal report.retransmittedDataPackets ++
    text "; ACK sent=" ++ toDecimal report.acknowledgementsSent ++
    text " dup=" ++ toDecimal report.duplicateAcknowledgements ++
    text "; dropped=" ++ toDecimal report.datagramsDropped ++
    text " corrupted=" ++ toDecimal report.datagramsCorrupted ++
    text " injected=" ++ toDecimal report.datagramsInjected ++
    text "; final_block_len=" ++ toDecimal report.finalDataBlockLength ++
    text " terminating_short=" ++
    (if report.terminatingShortBlockPresent then text "yes" else text "no") ++
    text "; server_fresh_tid=" ++
    (if report.serverSelectedFreshTid then text "yes" else text "no") ++
    (if 0 < report.strayTidReplies then
      text "; stray_tid_replies=" ++ toDecimal report.strayTidReplies ++
        (if report.strayTidReplyWasError5 then text " (ERROR 5)" else [])
    else []) ++
    (if report.blockNumberWrapped then text "; block-number wraparound observed" else [])

/-! ### The observer -/

/-- The local variables of `observe`. -/
structure ObserverState where
  report : ObserverReport := {}
  distinctBlocks : Finset ℕ := ∅
  lastDataLength : ℕ := 0
  haveData : Bool := false
  previousBlockForWrap : ℕ := 0
  havePreviousBlock : Bool := false
  highestAck : ℕ := 0
  haveAck : Bool := false
  foundRequest : Bool := false

namespace ObserverState

/-- Drops, corruptions and injections. -/
def countDisposition (s : ObserverState) (record : TraceRecord) : ObserverState :=
  match record.disposition with
  | .dropped =>
      { s with report := { s.report with datagramsDropped := u32 (s.report.datagramsDropped + 1) } }
  | .corrupted =>
      { s with
        report := { s.report with datagramsCorrupted := u32 (s.report.datagramsCorrupted + 1) } }
  | .injected =>
      { s with
        report := { s.report with datagramsInjected := u32 (s.report.datagramsInjected + 1) } }
  | .delivered => s

/-- The destination of the first request, the server's well-known port. -/
def noteRequest (s : ObserverState) (record : TraceRecord) : ObserverState :=
  if !s.foundRequest && record.isPeerSend &&
      ((record.packetOf .readRequest).isSome || (record.packetOf .writeRequest).isSome) then
    { s with
      report := { s.report with requestDestinationTid := record.destinationTid }
      foundRequest := true }
  else s

/-- The source of the server's first DATA or OACK, its chosen TID. -/
def noteServerTid (s : ObserverState) (record : TraceRecord) : ObserverState :=
  if s.report.serverSourceTid == 0 && record.isPeerSend &&
      record.direction == .serverToClient &&
      (record.isData || (record.packetOf .optionAcknowledgement).isSome) then
    { s with report := { s.report with serverSourceTid := record.sourceTid } }
  else s

/-- Replies of a victim to a stray TID, which the proxy marks in the note. -/
def noteStrayReply (s : ObserverState) (record : TraceRecord) : ObserverState :=
  if record.disposition = .injected ∧ text "reply to stray TID" <:+: record.note then
    { s with
      report := { s.report with
        strayTidReplies := u32 (s.report.strayTidReplies + 1)
        strayTidReplyWasError5 := s.report.strayTidReplyWasError5 ||
          (record.packetOf .error).any (·.errorCode == .unknownTransferId) } }
  else s

/-- The accounting of a DATA packet in the data direction. -/
def countDataPacket (context : ObserverContext) (s : ObserverState) (packet : TftpPacket) :
    ObserverState :=
  { s with
    report := { s.report with
      dataPacketsSent := u32 (s.report.dataPacketsSent + 1)
      highestBlockNumber := max s.report.highestBlockNumber packet.blockNumber
      blockNumberWrapped := s.report.blockNumberWrapped ||
        (s.havePreviousBlock && s.previousBlockForWrap == 65535 && packet.blockNumber < 100)
      terminatingShortBlockPresent := s.report.terminatingShortBlockPresent ||
        packet.data.length < context.blockSize }
    distinctBlocks := insert packet.blockNumber s.distinctBlocks
    lastDataLength := packet.data.length
    haveData := true
    previousBlockForWrap := packet.blockNumber
    havePreviousBlock := true }

/-- The accounting of an ACK in the other direction. -/
def countAckPacket (s : ObserverState) (packet : TftpPacket) : ObserverState :=
  { s with
    report := { s.report with
      acknowledgementsSent := u32 (s.report.acknowledgementsSent + 1)
      duplicateAcknowledgements :=
        if s.haveAck && packet.blockNumber == s.highestAck then
          u32 (s.report.duplicateAcknowledgements + 1)
        else s.report.duplicateAcknowledgements }
    highestAck :=
      if !s.haveAck || s.highestAck < packet.blockNumber then packet.blockNumber else s.highestAck
    haveAck := true }

end ObserverState

/-- The DATA packet that a record shows as a peer's send in the data direction. -/
def TraceRecord.dataPacket (context : ObserverContext) (record : TraceRecord) : Option TftpPacket :=
  if record.direction = dataDirection context.direction ∧ record.isPeerSend then
    record.packetOf .data
  else none

/-- The ACK that a record shows as a peer's send in the direction of the ACKs. -/
def TraceRecord.ackPacket (context : ObserverContext) (record : TraceRecord) : Option TftpPacket :=
  if record.direction = ackDirection context.direction ∧ record.isPeerSend then
    record.packetOf .acknowledgement
  else none

/-- The body of the loop over the records. -/
def observeRecord (context : ObserverContext) (s : ObserverState) (record : TraceRecord) :
    ObserverState :=
  let s := (((s.countDisposition record).noteRequest record).noteServerTid record).noteStrayReply
    record
  let s := match record.dataPacket context with
    | some packet => s.countDataPacket context packet
    | none => s
  match record.ackPacket context with
  | some packet => s.countAckPacket packet
  | none => s

/-- **The observer**: one pass over the records, then the derived fields. -/
def observe (trace : PacketTrace) (context : ObserverContext) : ObserverReport :=
  let s := trace.records.foldl (observeRecord context)
    { report := { totalRecords := u32 trace.records.length } }
  let distinctDataBlocks := u32 s.distinctBlocks.card
  { s.report with
    distinctDataBlocks
    retransmittedDataPackets := u32 (s.report.dataPacketsSent + 4294967296 - distinctDataBlocks)
    finalDataBlockLength :=
      if s.haveData then s.lastDataLength else s.report.finalDataBlockLength
    serverSelectedFreshTid := s.foundRequest && s.report.serverSourceTid != 0 &&
      s.report.serverSourceTid != s.report.requestDestinationTid }

/-! ### The counts of the data direction -/

section Counts

variable (context : ObserverContext)

/-- The DATA packets a trace shows as peer sends in the data direction, in order. -/
def dataPackets (records : List TraceRecord) : List TftpPacket :=
  records.filterMap fun record => record.dataPacket context

/-- Two states of the observer with the same accounts of DATA and ACK packets. -/
structure SamePacketAccounts (s s' : ObserverState) : Prop where
  dataPacketsSent : s'.report.dataPacketsSent = s.report.dataPacketsSent
  acknowledgementsSent : s'.report.acknowledgementsSent = s.report.acknowledgementsSent
  blockNumberWrapped : s'.report.blockNumberWrapped = s.report.blockNumberWrapped
  shortBlockPresent :
    s'.report.terminatingShortBlockPresent = s.report.terminatingShortBlockPresent
  distinctBlocks : s'.distinctBlocks = s.distinctBlocks
  havePreviousBlock : s'.havePreviousBlock = s.havePreviousBlock
  previousBlockForWrap : s'.previousBlockForWrap = s.previousBlockForWrap

theorem SamePacketAccounts.trans {s s' s'' : ObserverState} (h : SamePacketAccounts s s')
    (h' : SamePacketAccounts s' s'') : SamePacketAccounts s s'' where
  dataPacketsSent := h'.dataPacketsSent.trans h.dataPacketsSent
  acknowledgementsSent := h'.acknowledgementsSent.trans h.acknowledgementsSent
  blockNumberWrapped := h'.blockNumberWrapped.trans h.blockNumberWrapped
  shortBlockPresent := h'.shortBlockPresent.trans h.shortBlockPresent
  distinctBlocks := h'.distinctBlocks.trans h.distinctBlocks
  havePreviousBlock := h'.havePreviousBlock.trans h.havePreviousBlock
  previousBlockForWrap := h'.previousBlockForWrap.trans h.previousBlockForWrap

/-- The bookkeeping before the accounting of packets leaves the accounts alone. -/
theorem notes_frame (s : ObserverState) (record : TraceRecord) :
    SamePacketAccounts s ((((s.countDisposition record).noteRequest record).noteServerTid
      record).noteStrayReply record) := by
  have hdisposition : SamePacketAccounts s (s.countDisposition record) := by
    unfold ObserverState.countDisposition
    split <;> exact ⟨rfl, rfl, rfl, rfl, rfl, rfl, rfl⟩
  have hrequest (t : ObserverState) : SamePacketAccounts t (t.noteRequest record) := by
    unfold ObserverState.noteRequest
    split <;> exact ⟨rfl, rfl, rfl, rfl, rfl, rfl, rfl⟩
  have htid (t : ObserverState) : SamePacketAccounts t (t.noteServerTid record) := by
    unfold ObserverState.noteServerTid
    split <;> exact ⟨rfl, rfl, rfl, rfl, rfl, rfl, rfl⟩
  have hstray (t : ObserverState) : SamePacketAccounts t (t.noteStrayReply record) := by
    unfold ObserverState.noteStrayReply
    split <;> exact ⟨rfl, rfl, rfl, rfl, rfl, rfl, rfl⟩
  exact ((hdisposition.trans (hrequest _)).trans (htid _)).trans (hstray _)

/-- One record moves the counts by the DATA packet it shows, if any. -/
theorem observeRecord_counts (s : ObserverState) (record : TraceRecord) :
    (observeRecord context s record).report.dataPacketsSent =
        (match record.dataPacket context with
          | some _ => u32 (s.report.dataPacketsSent + 1)
          | none => s.report.dataPacketsSent) ∧
      (observeRecord context s record).distinctBlocks =
        (match record.dataPacket context with
          | some packet => insert packet.blockNumber s.distinctBlocks
          | none => s.distinctBlocks) := by
  have hnotes := notes_frame s record
  unfold observeRecord
  cases record.dataPacket context with
  | none =>
      cases record.ackPacket context with
      | none => exact ⟨hnotes.dataPacketsSent, hnotes.distinctBlocks⟩
      | some ack => exact ⟨hnotes.dataPacketsSent, hnotes.distinctBlocks⟩
  | some packet =>
      cases record.ackPacket context with
      | none =>
          simp [ObserverState.countDataPacket, hnotes.dataPacketsSent, hnotes.distinctBlocks]
      | some ack =>
          simp [ObserverState.countDataPacket, ObserverState.countAckPacket,
            hnotes.dataPacketsSent, hnotes.distinctBlocks]

theorem foldl_observeRecord (records : List TraceRecord) :
    ∀ s : ObserverState, s.report.dataPacketsSent < 4294967296 →
      (records.foldl (observeRecord context) s).report.dataPacketsSent =
          u32 (s.report.dataPacketsSent + (dataPackets context records).length) ∧
        (records.foldl (observeRecord context) s).distinctBlocks =
          s.distinctBlocks ∪ ((dataPackets context records).map (·.blockNumber)).toFinset := by
  induction records with
  | nil =>
      intro s hs
      simp [dataPackets, u32_of_lt hs]
  | cons record records ih =>
      intro s hs
      obtain ⟨hsent, hblocks⟩ := observeRecord_counts context s record
      rw [List.foldl_cons]
      cases hpacket : record.dataPacket context with
      | none =>
          have hskip : dataPackets context (record :: records) = dataPackets context records := by
            simp [dataPackets, hpacket]
          rw [hpacket] at hsent hblocks
          obtain ⟨hrest, hset⟩ := ih (observeRecord context s record) (by rw [hsent]; exact hs)
          rw [hrest, hset, hsent, hblocks, hskip]
          exact ⟨rfl, rfl⟩
      | some packet =>
          have hcons : dataPackets context (record :: records) =
              packet :: dataPackets context records := by
            simp [dataPackets, hpacket]
          rw [hpacket] at hsent hblocks
          obtain ⟨hrest, hset⟩ := ih (observeRecord context s record)
            (by rw [hsent]; exact Nat.mod_lt _ (by decide))
          rw [hrest, hset, hsent, hblocks, hcons]
          refine ⟨?_, ?_⟩
          · simp only [u32, List.length_cons]
            omega
          · simp [Finset.insert_union, Finset.union_insert]

/-- **What the observer counts in the data direction.** -/
theorem observe_counts (trace : PacketTrace) :
    (observe trace context).dataPacketsSent = u32 (dataPackets context trace.records).length ∧
      (observe trace context).distinctDataBlocks =
        u32 ((dataPackets context trace.records).map (·.blockNumber)).toFinset.card ∧
      (observe trace context).retransmittedDataPackets =
        u32 ((observe trace context).dataPacketsSent + 4294967296 -
          (observe trace context).distinctDataBlocks) := by
  obtain ⟨hsent, hblocks⟩ := foldl_observeRecord context trace.records
    { report := { totalRecords := u32 trace.records.length } } (show (0 : ℕ) < 4294967296 by decide)
  refine ⟨?_, ?_, rfl⟩
  · simpa [observe] using hsent
  · simp [observe, hblocks]

/-! ### The final block -/

/-- One record raises the flag when it shows a short DATA packet. -/
theorem observeRecord_short (s : ObserverState) (record : TraceRecord) :
    (observeRecord context s record).report.terminatingShortBlockPresent =
      (s.report.terminatingShortBlockPresent ||
        (record.dataPacket context).any fun packet => packet.data.length < context.blockSize) := by
  have hshort := (notes_frame s record).shortBlockPresent
  unfold observeRecord
  cases record.dataPacket context with
  | none =>
      cases record.ackPacket context with
      | none => simp [hshort]
      | some ack => simp [ObserverState.countAckPacket, hshort]
  | some packet =>
      cases record.ackPacket context with
      | none => simp [ObserverState.countDataPacket, hshort]
      | some ack => simp [ObserverState.countDataPacket, ObserverState.countAckPacket, hshort]

theorem foldl_observeRecord_short (records : List TraceRecord) (s : ObserverState) :
    (records.foldl (observeRecord context) s).report.terminatingShortBlockPresent =
      (s.report.terminatingShortBlockPresent || (dataPackets context records).any
        fun packet => packet.data.length < context.blockSize) := by
  induction records generalizing s with
  | nil => simp [dataPackets]
  | cons record records ih =>
      rw [List.foldl_cons, ih, observeRecord_short]
      cases hpacket : record.dataPacket context with
      | none => simp [dataPackets, hpacket]
      | some packet => simp [dataPackets, hpacket, Bool.or_assoc]

/-- **The observer sees a short final block** exactly when some DATA packet is short. -/
theorem observe_terminatingShortBlock (trace : PacketTrace) :
    (observe trace context).terminatingShortBlockPresent = true ↔
      ∃ packet ∈ dataPackets context trace.records, packet.data.length < context.blockSize := by
  have hfold := foldl_observeRecord_short context trace.records
    { report := { totalRecords := u32 trace.records.length } }
  simp only [observe, hfold, Bool.false_or, List.any_eq_true, decide_eq_true_eq]

/-! ### The highest block -/

/-- The bookkeeping before the accounting of packets leaves the highest block alone. -/
theorem notes_highestBlockNumber (s : ObserverState) (record : TraceRecord) :
    ((((s.countDisposition record).noteRequest record).noteServerTid
      record).noteStrayReply record).report.highestBlockNumber = s.report.highestBlockNumber := by
  have hdisposition : (s.countDisposition record).report.highestBlockNumber =
      s.report.highestBlockNumber := by
    unfold ObserverState.countDisposition
    split <;> rfl
  have hrequest (t : ObserverState) : (t.noteRequest record).report.highestBlockNumber =
      t.report.highestBlockNumber := by
    unfold ObserverState.noteRequest
    split <;> rfl
  have htid (t : ObserverState) : (t.noteServerTid record).report.highestBlockNumber =
      t.report.highestBlockNumber := by
    unfold ObserverState.noteServerTid
    split <;> rfl
  have hstray (t : ObserverState) : (t.noteStrayReply record).report.highestBlockNumber =
      t.report.highestBlockNumber := by
    unfold ObserverState.noteStrayReply
    split <;> rfl
  exact (hstray _).trans ((htid _).trans ((hrequest _).trans hdisposition))

/-- One record raises the highest block to that of the DATA packet it shows. -/
theorem observeRecord_highestBlockNumber (s : ObserverState) (record : TraceRecord) :
    (observeRecord context s record).report.highestBlockNumber =
      (match record.dataPacket context with
        | some packet => max s.report.highestBlockNumber packet.blockNumber
        | none => s.report.highestBlockNumber) := by
  have hnotes := notes_highestBlockNumber s record
  unfold observeRecord
  cases record.dataPacket context with
  | none =>
      cases record.ackPacket context with
      | none => exact hnotes
      | some ack => exact hnotes
  | some packet =>
      cases record.ackPacket context with
      | none => simp [ObserverState.countDataPacket, hnotes]
      | some ack => simp [ObserverState.countDataPacket, ObserverState.countAckPacket, hnotes]

theorem foldl_observeRecord_highestBlockNumber (records : List TraceRecord) :
    ∀ (s : ObserverState) (n : ℕ),
      (records.foldl (observeRecord context) s).report.highestBlockNumber ≤ n ↔
        s.report.highestBlockNumber ≤ n ∧
          ∀ packet ∈ dataPackets context records, packet.blockNumber ≤ n := by
  induction records with
  | nil =>
      intro s n
      simp [dataPackets]
  | cons record records ih =>
      intro s n
      have hstep := observeRecord_highestBlockNumber context s record
      rw [List.foldl_cons, ih, hstep]
      cases hpacket : record.dataPacket context with
      | none => simp [dataPackets, hpacket]
      | some packet =>
          simp only [dataPackets, List.filterMap_cons, hpacket, List.mem_cons, forall_eq_or_imp,
            max_le_iff]
          tauto

/-- **The highest block is the highest of the DATA packets.** -/
theorem observe_highestBlockNumber_le (trace : PacketTrace) (n : ℕ) :
    (observe trace context).highestBlockNumber ≤ n ↔
      ∀ packet ∈ dataPackets context trace.records, packet.blockNumber ≤ n := by
  have hfold := foldl_observeRecord_highestBlockNumber context trace.records
    { report := { totalRecords := u32 trace.records.length } } n
  exact hfold.trans ⟨fun h => h.2, fun h => ⟨Nat.zero_le n, h⟩⟩

/-! ### The two transfer IDs -/

/-- The record shows a peer's request. -/
def TraceRecord.isRequest (record : TraceRecord) : Bool :=
  record.isPeerSend &&
    ((record.packetOf .readRequest).isSome || (record.packetOf .writeRequest).isSome)

/-- The record shows a DATA packet or an OACK of the server. -/
def TraceRecord.isServerReply (record : TraceRecord) : Bool :=
  record.isPeerSend && record.direction == .serverToClient &&
    (record.isData || (record.packetOf .optionAcknowledgement).isSome)

/-- Two states of the observer with the same transfer IDs. -/
structure SameTids (s s' : ObserverState) : Prop where
  foundRequest : s'.foundRequest = s.foundRequest
  requestTid : s'.report.requestDestinationTid = s.report.requestDestinationTid
  serverTid : s'.report.serverSourceTid = s.report.serverSourceTid

theorem SameTids.trans {s s' s'' : ObserverState} (h : SameTids s s') (h' : SameTids s' s'') :
    SameTids s s'' where
  foundRequest := h'.foundRequest.trans h.foundRequest
  requestTid := h'.requestTid.trans h.requestTid
  serverTid := h'.serverTid.trans h.serverTid

/-- The transfer IDs depend on the two notes about them only. -/
theorem observeRecord_sameTids (s : ObserverState) (record : TraceRecord) :
    SameTids ((s.noteRequest record).noteServerTid record) (observeRecord context s record) := by
  have hdisposition : SameTids s (s.countDisposition record) := by
    unfold ObserverState.countDisposition
    split <;> exact ⟨rfl, rfl, rfl⟩
  have hnotes : SameTids ((s.noteRequest record).noteServerTid record)
      (((s.countDisposition record).noteRequest record).noteServerTid record) := by
    obtain ⟨hfound, hrequest, hserver⟩ := hdisposition
    have hnoted : SameTids (s.noteRequest record)
        ((s.countDisposition record).noteRequest record) := by
      simp only [ObserverState.noteRequest, hfound]
      split
      · exact ⟨rfl, rfl, hserver⟩
      · exact ⟨hfound, hrequest, hserver⟩
    obtain ⟨hfound', hrequest', hserver'⟩ := hnoted
    simp only [ObserverState.noteServerTid, hserver']
    split
    · exact ⟨hfound', hrequest', rfl⟩
    · exact ⟨hfound', hrequest', hserver'⟩
  have hstray (t : ObserverState) : SameTids t (t.noteStrayReply record) := by
    unfold ObserverState.noteStrayReply
    split <;> exact ⟨rfl, rfl, rfl⟩
  refine (hnotes.trans (hstray _)).trans ?_
  unfold observeRecord
  cases record.dataPacket context with
  | none => cases record.ackPacket context <;> exact ⟨rfl, rfl, rfl⟩
  | some packet => cases record.ackPacket context <;> exact ⟨rfl, rfl, rfl⟩

/-- The first request is noted. -/
theorem noteRequest_tids (s : ObserverState) (record : TraceRecord) :
    (s.noteRequest record).foundRequest = (s.foundRequest || record.isRequest) ∧
      (s.noteRequest record).report.requestDestinationTid =
        (if !s.foundRequest && record.isRequest then record.destinationTid
          else s.report.requestDestinationTid) ∧
      (s.noteRequest record).report.serverSourceTid = s.report.serverSourceTid := by
  have hcondition : (!s.foundRequest && record.isPeerSend &&
      ((record.packetOf .readRequest).isSome || (record.packetOf .writeRequest).isSome)) =
        (!s.foundRequest && record.isRequest) := Bool.and_assoc _ _ _
  unfold ObserverState.noteRequest
  rw [hcondition]
  cases hseen : s.foundRequest <;> cases hrequest : record.isRequest <;> simp [hseen]

/-- The first reply of the server is noted. -/
theorem noteServerTid_tids (s : ObserverState) (record : TraceRecord) :
    (s.noteServerTid record).foundRequest = s.foundRequest ∧
      (s.noteServerTid record).report.requestDestinationTid = s.report.requestDestinationTid ∧
      (s.noteServerTid record).report.serverSourceTid =
        (if s.report.serverSourceTid == 0 && record.isServerReply then record.sourceTid
          else s.report.serverSourceTid) := by
  have hcondition : (s.report.serverSourceTid == 0 && record.isPeerSend &&
      record.direction == .serverToClient &&
        (record.isData || (record.packetOf .optionAcknowledgement).isSome)) =
        (s.report.serverSourceTid == 0 && record.isServerReply) := by
    simp only [TraceRecord.isServerReply, Bool.and_assoc]
  unfold ObserverState.noteServerTid
  rw [hcondition]
  split <;> exact ⟨rfl, rfl, rfl⟩

/-- One record sets the transfer IDs that are not set yet. -/
theorem observeRecord_tids (s : ObserverState) (record : TraceRecord) :
    (observeRecord context s record).foundRequest = (s.foundRequest || record.isRequest) ∧
      (observeRecord context s record).report.requestDestinationTid =
        (if !s.foundRequest && record.isRequest then record.destinationTid
          else s.report.requestDestinationTid) ∧
      (observeRecord context s record).report.serverSourceTid =
        (if s.report.serverSourceTid == 0 && record.isServerReply then record.sourceTid
          else s.report.serverSourceTid) := by
  obtain ⟨hfound, hrequest, hserver⟩ := observeRecord_sameTids context s record
  obtain ⟨hfound', hrequest', hserver'⟩ := noteServerTid_tids (s.noteRequest record) record
  obtain ⟨hfound'', hrequest'', hserver''⟩ := noteRequest_tids s record
  rw [hserver''] at hserver'
  exact ⟨hfound.trans (hfound'.trans hfound''), hrequest.trans (hrequest'.trans hrequest''),
    hserver.trans hserver'⟩

/-- A request that has been seen is not noted again. -/
theorem foldl_observeRecord_request (records : List TraceRecord) :
    ∀ s : ObserverState, s.foundRequest = true →
      (records.foldl (observeRecord context) s).foundRequest = true ∧
        (records.foldl (observeRecord context) s).report.requestDestinationTid =
          s.report.requestDestinationTid := by
  induction records with
  | nil =>
      intro s hs
      exact ⟨hs, rfl⟩
  | cons record records ih =>
      intro s hs
      obtain ⟨hfound, hrequest, -⟩ := observeRecord_tids context s record
      rw [hs] at hfound hrequest
      obtain ⟨hfound', hrequest'⟩ := ih _ (hfound.trans (by simp))
      exact ⟨hfound', hrequest'.trans (hrequest.trans (by simp))⟩

/-- A server that always replies from one port is noted there. -/
theorem foldl_observeRecord_serverTid {tid : ℕ} (htid : tid ≠ 0) (records : List TraceRecord) :
    ∀ s : ObserverState, s.report.serverSourceTid = 0 ∨ s.report.serverSourceTid = tid →
      (∀ record ∈ records, record.isServerReply = true → record.sourceTid = tid) →
      (s.report.serverSourceTid = tid ∨ ∃ record ∈ records, record.isServerReply = true) →
        (records.foldl (observeRecord context) s).report.serverSourceTid = tid := by
  induction records with
  | nil =>
      intro s _ _ hreply
      rcases hreply with hset | ⟨record, hmem, -⟩
      · exact hset
      · exact absurd hmem List.not_mem_nil
  | cons record records ih =>
      intro s hs hport hreply
      obtain ⟨-, -, hserver⟩ := observeRecord_tids context s record
      have hrest : ∀ other ∈ records, other.isServerReply = true → other.sourceTid = tid :=
        fun other hmem => hport other (List.mem_cons_of_mem _ hmem)
      by_cases hset : s.report.serverSourceTid = tid
      · have hkept : (observeRecord context s record).report.serverSourceTid = tid := by
          rw [hserver, hset]
          simp [htid]
        exact ih _ (Or.inr hkept) hrest (Or.inl hkept)
      · have hzero := hs.resolve_right hset
        cases hrecord : record.isServerReply with
        | true =>
            have hnoted : (observeRecord context s record).report.serverSourceTid = tid := by
              rw [hserver, hzero, hrecord]
              simpa using hport record List.mem_cons_self hrecord
            exact ih _ (Or.inr hnoted) hrest (Or.inl hnoted)
        | false =>
            have hstill : (observeRecord context s record).report.serverSourceTid = 0 := by
              rw [hserver, hrecord, hzero]
              simp
            refine ih _ (Or.inl hstill) hrest (Or.inr ?_)
            obtain ⟨other, hmem, hother⟩ := hreply.resolve_left hset
            rcases List.mem_cons.1 hmem with rfl | hmem
            · exact absurd (hother.symm.trans hrecord) (by decide)
            · exact ⟨other, hmem, hother⟩

/-- **A fresh transfer ID**: the trace begins with a request, and the server, which has replied,
always does so from another port. -/
theorem observe_serverSelectedFreshTid {trace : PacketTrace} {request : TraceRecord}
    {records : List TraceRecord} {tid : ℕ} (htrace : trace.records = request :: records)
    (hrequest : request.isRequest = true) (htid : tid ≠ 0) (hfresh : tid ≠ request.destinationTid)
    (hport : ∀ record ∈ trace.records, record.isServerReply = true → record.sourceTid = tid)
    (hreply : ∃ record ∈ trace.records, record.isServerReply = true) :
    (observe trace context).serverSelectedFreshTid = true := by
  have hserver := foldl_observeRecord_serverTid context htid trace.records
    { report := { totalRecords := u32 trace.records.length } } (Or.inl rfl) hport (Or.inr hreply)
  obtain ⟨hfirst, hdestination, -⟩ := observeRecord_tids context
    { report := { totalRecords := u32 trace.records.length } } request
  obtain ⟨hfound, hkept⟩ := foldl_observeRecord_request context records _
    (hfirst.trans (by simp [hrequest]))
  have hfold : trace.records.foldl (observeRecord context)
        { report := { totalRecords := u32 trace.records.length } } =
      records.foldl (observeRecord context) (observeRecord context
        { report := { totalRecords := u32 trace.records.length } } request) := by
    conv_lhs => rw [htrace]
    rw [List.foldl_cons, htrace]
  rw [← hfold] at hfound hkept
  rw [hdestination] at hkept
  simp only [observe, hserver, hfound, hkept, hrequest, Bool.not_false, Bool.true_and, if_true]
  simp [htid, hfresh]

end Counts

end TftpHarness
