/-
**The reference client: `read_file` and `write_file`.**

A client sends its request to the server's listening port until the first reply arrives from
anywhere, locks onto the address that reply came from, and runs a data plane against it.  Both
calls are state machines between two receives: a handshake that counts its attempts, a transfer
that carries the state of its data plane, and an end.  After the data plane of a download the
received bytes are written to the destination.

Main definitions:

* `TftpHarness.ClientCall`, `TftpHarness.ClientPhase` — the arguments of a call and where it stands;
* `TftpHarness.readFileStart`, `TftpHarness.readFileReceive` — `read_file`;
* `TftpHarness.writeFileStart`, `TftpHarness.writeFileReceive` — `write_file`.

Main results:

* `TftpHarness.readFile_destination` — **a download touches its destination only to write the
  decoded bytes of a completed transfer**;
* `TftpHarness.readFileReceive_targets`, `TftpHarness.writeFileReceive_targets` — whom a transfer
  sends to.
-/

import TftpHarness.Netascii
import TftpHarness.Options
import TftpHarness.Sender
import TftpHarness.Receiver

set_option relaxedAutoImplicit false
set_option autoImplicit false

namespace TftpHarness

/-- The arguments of a client call and the configuration of the client. -/
structure ClientCall where
  serverEndpoint : Endpoint
  remoteFilename : Bytes
  mode : Bytes
  options : ClientRequestedOptions
  config : EngineConfig

/-- Where a call stands, for a data plane with states `σ`: waiting for the first reply after an
attempt, transferring with the peer it has locked onto, or at one of its ends.  A call that ends
before its data plane has refused the transfer; an exception of a number conversion leaves the
function without an outcome. -/
inductive ClientPhase (σ : Type)
  | handshake (attempt : ℕ)
  | transfer (lockedPeer : Endpoint) (params : NegotiatedParameters) (s : σ)
  | finished (lockedPeer : Endpoint) (params : NegotiatedParameters) (s : σ)
      (outcome : TransferOutcome)
  | refused (outcome : TransferOutcome)
  | threw
  deriving DecidableEq, Repr

namespace ClientPhase

variable {σ : Type}

/-- The peer, the parameters and the data plane of a call past its handshake. -/
def locked : ClientPhase σ → Option (Endpoint × NegotiatedParameters × σ)
  | .transfer lockedPeer params s => some (lockedPeer, params, s)
  | .finished lockedPeer params s _ => some (lockedPeer, params, s)
  | _ => none

/-- The outcome of a call that has returned. -/
def outcome : ClientPhase σ → Option TransferOutcome
  | .finished _ _ _ outcome => some outcome
  | .refused outcome => some outcome
  | _ => none

end ClientPhase

/-- One iteration of the handshake loop: send the request, or give up. -/
def attemptRequest {σ : Type} (call : ClientCall) (request giveUp : Bytes) (attempt : ℕ) :
    ClientPhase σ × List (Endpoint × Bytes) :=
  if (attempt : ℤ) ≤ call.config.maximumRetransmissions then
    (.handshake attempt, [(call.serverEndpoint, request)])
  else (.refused { timedOut := true, errorMessage := giveUp }, [])

/-- The first reply: a datagram from anywhere that parses. -/
def firstReply (event : SocketEvent) : Option (Endpoint × TftpPacket) :=
  match receiveFrom event with
  | (received, buffer, some sender) =>
      if 0 < received then (parseDatagram buffer).toOption.map fun packet => (sender, packet)
      else none
  | (_, _, none) => none

/-- The parameters before any OACK. -/
def defaultParameters (config : EngineConfig) : NegotiatedParameters :=
  { blockSize := config.defaultBlockSize, windowSize := 1 }

theorem firstReply_datagram {sender : Endpoint} {bytes : Bytes} {packet : TftpPacket}
    (hne : bytes ≠ []) (hp : parseDatagram bytes = .ok packet) :
    firstReply (.datagram sender bytes) = some (sender, packet) := by
  have hlen : (0 : ℤ) < bytes.length := by
    have := List.length_pos_of_ne_nil hne
    omega
  simp only [firstReply, receiveFrom, hlen, if_true, hp, Except.toOption, Option.map_some]

/-- A first reply has come in a datagram. -/
theorem firstReply_some {event : SocketEvent} {sender : Endpoint} {packet : TftpPacket}
    (h : firstReply event = some (sender, packet)) :
    ∃ bytes, event = .datagram sender bytes ∧ parseDatagram bytes = .ok packet := by
  cases event with
  | wouldBlock => exact absurd h (by simp [firstReply, receiveFrom])
  | failure => exact absurd h (by simp [firstReply, receiveFrom])
  | datagram source bytes =>
      simp only [firstReply, receiveFrom] at h
      split at h
      · cases hparse : parseDatagram bytes with
        | error reason => simp [hparse, Except.toOption] at h
        | ok packet' =>
            simp only [hparse, Except.toOption, Option.map_some, Option.some.injEq,
              Prod.mk.injEq] at h
            obtain ⟨rfl, rfl⟩ := h
            exact ⟨bytes, rfl, hparse⟩
      · exact absurd h (by simp)

/-! ### Downloading -/

/-- The local file a download is written to: whether a write succeeds, and what the file holds
afterwards. -/
structure DestinationFile where
  write : Bytes → Bool × Option Bytes
  write_eq : ∀ bytes, (write bytes).1 = true → (write bytes).2 = some bytes

/-- The state of `read_file`: where the call stands and what the destination holds. -/
structure ReadFileState where
  phase : ClientPhase ReceiverState
  destination : Option Bytes
  deriving DecidableEq, Repr

section ReadFile

variable (call : ClientCall) (file : DestinationFile)

/-- The RRQ datagram. -/
def readRequestDatagram : Bytes :=
  serializeReadRequest call.remoteFilename call.mode
    (buildRequestedOptionList call.options call.config)

/-- One iteration of the handshake loop of `read_file`. -/
def readFileAttempt (destination : Option Bytes) (attempt : ℕ) :
    ReadFileState × List (Endpoint × Bytes) :=
  let tried := attemptRequest call (readRequestDatagram call)
    (text "no reply to RRQ (server unreachable/loss)") attempt
  (⟨tried.1, destination⟩, tried.2)

/-- After the data plane: decode and write the received bytes. -/
def readFileFinish (destination : Option Bytes) (lockedPeer : Endpoint)
    (params : NegotiatedParameters) (r : ReceiverState) : ReadFileState :=
  if r.phase ≠ .returned then ⟨.transfer lockedPeer params r, destination⟩
  else if ¬ r.outcome.completedSuccessfully then
    ⟨.finished lockedPeer params r { r.outcome with negotiated := params }, destination⟩
  else
    let written := file.write (decodeForMode (modeIsNetascii call.mode) r.sink)
    if written.1 then
      ⟨.finished lockedPeer params r { r.outcome with negotiated := params }, written.2⟩
    else
      ⟨.finished lockedPeer params r
          { r.outcome with
            negotiated := params
            completedSuccessfully := false
            errorMessage := text "could not write destination file" }, written.2⟩

/-- The data plane of `read_file` from its start. -/
def readFileTransfer (destination : Option Bytes) (lockedPeer : Endpoint)
    (params : NegotiatedParameters) (primed : Option TftpPacket) :
    ReadFileState × List (Endpoint × Bytes) :=
  let started := receiverStart params call.config [] 1 primed
  (readFileFinish call file destination lockedPeer params started.1,
    started.2.map fun i => (lockedPeer, ackDatagram i))

/-- What `read_file` makes of the first reply. -/
def readFileReply (destination : Option Bytes) (sender : Endpoint) (packet : TftpPacket) :
    ReadFileState × List (Endpoint × Bytes) :=
  match packet.opcode with
  | .error =>
      (⟨.refused { errorCode := some packet.errorCode, errorMessage := packet.errorMessage },
        destination⟩, [])
  | .optionAcknowledgement =>
      match applyOackToClient call.options packet.options (defaultParameters call.config) with
      | .error .threw => (⟨.threw, destination⟩, [])
      | .error (.rejected reason) =>
          (⟨.refused
              { errorCode := some TftpErrorCode.optionNegotiationFailed, errorMessage := reason },
            destination⟩,
            [(sender, serializeError TftpErrorCode.optionNegotiationFailed reason)])
      | .ok params =>
          -- acknowledge the OACK, then receive from block 1
          let transfer := readFileTransfer call file destination sender params none
          (transfer.1, (sender, serializeAcknowledgement 0) :: transfer.2)
  | .data =>
      -- plain RFC 1350: the reply is the first DATA block
      readFileTransfer call file destination sender (defaultParameters call.config) (some packet)
  | _ => (⟨.refused { errorMessage := text "unexpected first reply to RRQ" }, destination⟩, [])

/-- `read_file` from its entry to its first receive. -/
def readFileStart (destination : Option Bytes) : ReadFileState × List (Endpoint × Bytes) :=
  readFileAttempt call destination 0

/-- `read_file` from one receive to the next. -/
def readFileReceive (c : ReadFileState) (event : SocketEvent) :
    ReadFileState × List (Endpoint × Bytes) :=
  match c.phase with
  | .handshake attempt =>
      match firstReply event with
      | none => readFileAttempt call c.destination (attempt + 1)
      | some (sender, packet) => readFileReply call file c.destination sender packet
  | .transfer lockedPeer params r =>
      let reacted := (dataReceiver params call.config).onEvent lockedPeer r event
      (readFileFinish call file c.destination lockedPeer params reacted.1, reacted.2)
  | _ => (c, [])

end ReadFile

/-! ### Uploading -/

section WriteFile

variable (call : ClientCall) (payload : Bytes)

/-- The options in force for an upload: `tsize` reports the size of the payload. -/
def effectiveOptions : ClientRequestedOptions :=
  { call.options with transferSize := call.options.transferSize.map fun _ => payload.length }

/-- The WRQ datagram. -/
def writeRequestDatagram : Bytes :=
  serializeWriteRequest call.remoteFilename call.mode
    (buildRequestedOptionList (effectiveOptions call payload) call.config)

/-- One iteration of the handshake loop of `write_file`. -/
def writeFileAttempt (attempt : ℕ) : ClientPhase SenderState × List (Endpoint × Bytes) :=
  attemptRequest call (writeRequestDatagram call payload)
    (text "no reply to WRQ (server unreachable/loss)") attempt

/-- The transfer goes on, or the data plane has returned. -/
def writeFileFinish (lockedPeer : Endpoint) (params : NegotiatedParameters) (s : SenderState) :
    ClientPhase SenderState :=
  if s.returned then .finished lockedPeer params s { s.outcome with negotiated := params }
  else .transfer lockedPeer params s

/-- The data plane of `write_file` from its start. -/
def writeFileTransfer (lockedPeer : Endpoint) (params : NegotiatedParameters) :
    ClientPhase SenderState × List (Endpoint × Bytes) :=
  let started := senderStart payload params call.config 0
  (writeFileFinish lockedPeer params started.1,
    started.2.map fun i => (lockedPeer, dataDatagram payload params i))

/-- What `write_file` makes of the first reply. -/
def writeFileReply (sender : Endpoint) (packet : TftpPacket) :
    ClientPhase SenderState × List (Endpoint × Bytes) :=
  match packet.opcode with
  | .error =>
      (.refused { errorCode := some packet.errorCode, errorMessage := packet.errorMessage }, [])
  | .optionAcknowledgement =>
      match applyOackToClient (effectiveOptions call payload) packet.options
          (defaultParameters call.config) with
      | .error .threw => (.threw, [])
      | .error (.rejected reason) =>
          (.refused
              { errorCode := some TftpErrorCode.optionNegotiationFailed, errorMessage := reason },
            [(sender, serializeError TftpErrorCode.optionNegotiationFailed reason)])
      | .ok params => writeFileTransfer call payload sender params
  | .acknowledgement =>
      if packet.blockNumber = 0 then
        -- plain RFC 1350: ACK 0 authorizes DATA block 1
        writeFileTransfer call payload sender (defaultParameters call.config)
      else (.refused { errorMessage := text "unexpected first reply to WRQ" }, [])
  | _ => (.refused { errorMessage := text "unexpected first reply to WRQ" }, [])

/-- `write_file` to its first receive, once the source file has been read and encoded. -/
def writeFileStart : ClientPhase SenderState × List (Endpoint × Bytes) :=
  writeFileAttempt call payload 0

/-- `write_file` from one receive to the next. -/
def writeFileReceive (phase : ClientPhase SenderState) (event : SocketEvent) :
    ClientPhase SenderState × List (Endpoint × Bytes) :=
  match phase with
  | .handshake attempt =>
      match firstReply event with
      | none => writeFileAttempt call payload (attempt + 1)
      | some (sender, packet) => writeFileReply call payload sender packet
  | .transfer lockedPeer params s =>
      let reacted := (dataSender payload params call.config).onEvent lockedPeer s event
      (writeFileFinish lockedPeer params reacted.1, reacted.2)
  | phase => (phase, [])

end WriteFile

/-! ### The destination of a download -/

section Destination

variable {call : ClientCall} {file : DestinationFile}

variable (call file) in
/-- A download that has not completed its data plane has left its destination as it was, and one
that reports success has written the decoded bytes. -/
structure DestinationInv (before : Option Bytes) (c : ReadFileState) : Prop where
  untouched : (∀ lockedPeer params r outcome, c.phase = .finished lockedPeer params r outcome →
    r.outcome.completedSuccessfully = false) → c.destination = before
  written : ∀ outcome, c.phase.outcome = some outcome → outcome.completedSuccessfully = true →
    ∃ lockedPeer params r, c.phase = .finished lockedPeer params r outcome ∧
      r.outcome.completedSuccessfully = true ∧
      c.destination = some (decodeForMode (modeIsNetascii call.mode) r.sink)
  /-- The only failure after a completed data plane is that of the final write. -/
  failed : ∀ lockedPeer params r outcome, c.phase = .finished lockedPeer params r outcome →
    r.outcome.completedSuccessfully = true → outcome.completedSuccessfully = false →
      (file.write (decodeForMode (modeIsNetascii call.mode) r.sink)).1 = false

/-- A call that has not finished a data plane has not touched its destination. -/
theorem destinationInv_of_not_finished {before : Option Bytes} {c : ReadFileState}
    (hfinished : ∀ lockedPeer params r outcome, c.phase ≠ .finished lockedPeer params r outcome)
    (hrefused : ∀ outcome, c.phase = .refused outcome → outcome.completedSuccessfully = false)
    (hdestination : c.destination = before) : DestinationInv call file before c := by
  refine ⟨fun _ => hdestination, ?_, fun p q r o h => absurd h (hfinished p q r o)⟩
  intro outcome houtcome hcompleted
  cases hphase : c.phase with
  | handshake attempt => simp [ClientPhase.outcome, hphase] at houtcome
  | transfer lockedPeer params r => simp [ClientPhase.outcome, hphase] at houtcome
  | finished lockedPeer params r o => exact absurd hphase (hfinished lockedPeer params r o)
  | refused o =>
      have heq : o = outcome := by simpa [ClientPhase.outcome, hphase] using houtcome
      rw [← heq, hrefused o hphase] at hcompleted
      exact Bool.noConfusion hcompleted
  | threw => simp [ClientPhase.outcome, hphase] at houtcome

/-- The end of the data plane writes the destination if and only if the data plane completed. -/
theorem destinationInv_finish (before : Option Bytes) (lockedPeer : Endpoint)
    (params : NegotiatedParameters) (r : ReceiverState) :
    DestinationInv call file before (readFileFinish call file before lockedPeer params r) := by
  unfold readFileFinish
  split
  · exact destinationInv_of_not_finished (by simp) (by simp) rfl
  split
  · next hnot =>
      have hfailed : r.outcome.completedSuccessfully = false := by simpa using hnot
      refine ⟨fun _ => rfl, ?_, ?_⟩
      · intro outcome houtcome hcompleted
        cases houtcome
        exact absurd (hfailed.symm.trans hcompleted) (by decide)
      · intro p q r' o hphase hcompleted
        cases hphase
        exact absurd (hfailed.symm.trans hcompleted) (by decide)
  · next hnot =>
      have hcompleted : r.outcome.completedSuccessfully = true := by simpa using hnot
      simp only
      split
      · next hwritten =>
          refine ⟨fun h => ?_, ?_, ?_⟩
          · exact absurd ((h _ _ _ _ rfl).symm.trans hcompleted) (by decide)
          · intro outcome houtcome _
            cases houtcome
            exact ⟨lockedPeer, params, r, rfl, hcompleted, file.write_eq _ hwritten⟩
          · intro p q r' o hphase _ hfail
            cases hphase
            exact absurd (hfail.symm.trans hcompleted) (by decide)
      · next hwritten =>
          refine ⟨fun h => ?_, ?_, ?_⟩
          · exact absurd ((h _ _ _ _ rfl).symm.trans hcompleted) (by decide)
          · intro outcome houtcome hok
            cases houtcome
            exact Bool.noConfusion hok
          · intro p q r' o hphase _ _
            cases hphase
            simpa using hwritten

theorem destinationInv_transfer (file : DestinationFile) (before : Option Bytes)
    (lockedPeer : Endpoint)
    (params : NegotiatedParameters) (primed : Option TftpPacket) :
    DestinationInv call file before
      (readFileTransfer call file before lockedPeer params primed).1 :=
  destinationInv_finish before lockedPeer params _

theorem destinationInv_attempt (before : Option Bytes) (attempt : ℕ) :
    DestinationInv call file before (readFileAttempt call before attempt).1 := by
  simp only [readFileAttempt, attemptRequest]
  split
  · exact destinationInv_of_not_finished (by simp) (by simp) rfl
  · exact destinationInv_of_not_finished (by simp) (by simp) rfl

/-- **Every receive of a download keeps its promise about the destination.** -/
theorem readFile_destination {before : Option Bytes} {c : ReadFileState}
    (h : DestinationInv call file before c) (event : SocketEvent) :
    DestinationInv call file before (readFileReceive call file c event).1 := by
  unfold readFileReceive
  cases hphase : c.phase with
  | handshake attempt =>
      have hbefore : c.destination = before := h.untouched (by simp [hphase])
      simp only [hbefore]
      split
      · exact destinationInv_attempt before (attempt + 1)
      · next sender packet _ =>
          unfold readFileReply
          split
          · exact destinationInv_of_not_finished (by simp) (by simp) rfl
          · split
            · exact destinationInv_of_not_finished (by simp) (by simp) rfl
            · exact destinationInv_of_not_finished (by simp) (by simp) rfl
            · next params _ => exact destinationInv_transfer file before sender params none
          · exact destinationInv_transfer file before sender (defaultParameters call.config)
              (some packet)
          · exact destinationInv_of_not_finished (by simp) (by simp) rfl
  | transfer lockedPeer params r =>
      have hbefore : c.destination = before := h.untouched (by simp [hphase])
      simp only [hbefore]
      exact destinationInv_finish before lockedPeer params _
  | finished lockedPeer params r outcome => exact h
  | refused outcome => exact h
  | threw => exact h

/-- Without a success the destination is as it was, unless the final write failed. -/
theorem DestinationInv.unwritten {before : Option Bytes} {c : ReadFileState}
    (h : DestinationInv call file before c)
    (hnone : ∀ outcome, c.phase.outcome = some outcome → outcome.completedSuccessfully = false) :
    c.destination = before ∨
      ∃ peer params r outcome, c.phase = .finished peer params r outcome ∧
        r.outcome.completedSuccessfully = true ∧
        (file.write (decodeForMode (modeIsNetascii call.mode) r.sink)).1 = false := by
  by_cases hdone : ∃ peer params r outcome, c.phase = .finished peer params r outcome ∧
      r.outcome.completedSuccessfully = true
  · obtain ⟨peer, params, r, outcome, hphase, hdone⟩ := hdone
    have hfail := hnone outcome (by rw [hphase]; rfl)
    exact Or.inr ⟨peer, params, r, outcome, hphase, hdone,
      h.failed peer params r outcome hphase hdone hfail⟩
  · left
    refine h.untouched fun peer params r outcome hphase => ?_
    by_contra hcontra
    exact hdone ⟨peer, params, r, outcome, hphase, by simpa using hcontra⟩

end Destination

/-! ### Where a transfer sends -/

section Targets

variable {call : ClientCall} {file : DestinationFile}

/-- A download sends its request to the server, and anything else to the peer it is locked onto or
back to the source of what it has received. -/
theorem readFileReceive_targets (c : ReadFileState) (event : SocketEvent) :
    ∀ send ∈ (readFileReceive call file c event).2,
      send = (call.serverEndpoint, readRequestDatagram call) ∨
      (∃ params r, c.phase.locked = some (send.1, params, r)) ∨
      ∃ bytes, event = .datagram send.1 bytes := by
  intro send hmem
  unfold readFileReceive at hmem
  cases hphase : c.phase with
  | handshake attempt =>
      simp only [hphase] at hmem
      cases hfirst : firstReply event with
      | none =>
          simp only [hfirst, readFileAttempt, attemptRequest] at hmem
          split at hmem
          · exact Or.inl (List.mem_singleton.1 hmem)
          · exact absurd hmem List.not_mem_nil
      | some reply =>
          obtain ⟨sender, packet⟩ := reply
          obtain ⟨bytes, rfl, -⟩ := firstReply_some hfirst
          simp only [hfirst] at hmem
          have htransfer : ∀ params primed,
              send ∈ (readFileTransfer call file c.destination sender params primed).2 →
                send.1 = sender := by
            intro params primed hmem
            obtain ⟨a, -, rfl⟩ := List.mem_map.1 hmem
            rfl
          have hsender : send.1 = sender := by
            unfold readFileReply at hmem
            split at hmem
            · exact absurd hmem List.not_mem_nil
            · split at hmem
              · exact absurd hmem List.not_mem_nil
              · rw [List.mem_singleton.1 hmem]
              · rcases List.mem_cons.1 hmem with rfl | hmem
                · rfl
                · exact htransfer _ _ hmem
            · exact htransfer _ _ hmem
            · exact absurd hmem List.not_mem_nil
          exact Or.inr (Or.inr ⟨bytes, by rw [hsender]⟩)
  | transfer lockedPeer params r =>
      simp only [hphase] at hmem
      right
      rcases (dataReceiver params call.config).onEvent_cases lockedPeer r event with
        ⟨-, hstray⟩ | ⟨status, -, hreact, -⟩
      · exact Or.inr (hstray send hmem).2.2
      · rw [hreact] at hmem
        obtain ⟨a, -, rfl⟩ := List.mem_map.1 hmem
        exact Or.inl ⟨params, r, rfl⟩
  | finished lockedPeer params r outcome =>
      simp only [hphase] at hmem
      exact absurd hmem List.not_mem_nil
  | refused outcome =>
      simp only [hphase] at hmem
      exact absurd hmem List.not_mem_nil
  | threw =>
      simp only [hphase] at hmem
      exact absurd hmem List.not_mem_nil

/-- An upload sends its request to the server, and anything else to the peer it is locked onto or
back to the source of what it has received. -/
theorem writeFileReceive_targets (payload : Bytes) (c : ClientPhase SenderState)
    (event : SocketEvent) : ∀ send ∈ (writeFileReceive call payload c event).2,
      send = (call.serverEndpoint, writeRequestDatagram call payload) ∨
      (∃ params s, c.locked = some (send.1, params, s)) ∨
      ∃ bytes, event = .datagram send.1 bytes := by
  intro send hmem
  cases c with
  | handshake attempt =>
      simp only [writeFileReceive] at hmem
      cases hfirst : firstReply event with
      | none =>
          simp only [hfirst, writeFileAttempt, attemptRequest] at hmem
          split at hmem
          · exact Or.inl (List.mem_singleton.1 hmem)
          · exact absurd hmem List.not_mem_nil
      | some reply =>
          obtain ⟨sender, packet⟩ := reply
          obtain ⟨bytes, rfl, -⟩ := firstReply_some hfirst
          simp only [hfirst] at hmem
          have htransfer : ∀ params,
              send ∈ (writeFileTransfer call payload sender params).2 → send.1 = sender := by
            intro params hmem
            obtain ⟨i, -, rfl⟩ := List.mem_map.1 hmem
            rfl
          have hsender : send.1 = sender := by
            unfold writeFileReply at hmem
            split at hmem
            · exact absurd hmem List.not_mem_nil
            · split at hmem
              · exact absurd hmem List.not_mem_nil
              · rw [List.mem_singleton.1 hmem]
              · exact htransfer _ hmem
            · split at hmem
              · exact htransfer _ hmem
              · exact absurd hmem List.not_mem_nil
            · exact absurd hmem List.not_mem_nil
          exact Or.inr (Or.inr ⟨bytes, by rw [hsender]⟩)
  | transfer lockedPeer params s =>
      right
      simp only [writeFileReceive] at hmem
      rcases (dataSender payload params call.config).onEvent_cases lockedPeer s event with
        ⟨-, hstray⟩ | ⟨status, -, hreact, -⟩
      · exact Or.inr (hstray send hmem).2.2
      · rw [hreact] at hmem
        obtain ⟨i, -, rfl⟩ := List.mem_map.1 hmem
        exact Or.inl ⟨params, s, rfl⟩
  | finished lockedPeer params s outcome => exact absurd hmem List.not_mem_nil
  | refused outcome => exact absurd hmem List.not_mem_nil
  | threw => exact absurd hmem List.not_mem_nil

end Targets

end TftpHarness
