/-
**The receiver data plane: `run_data_receiver`.**

The receiver accepts the next block in sequence, acknowledges every full window, and answers
anything else, and every timeout, by acknowledging the last block in sequence once more.  A short
block ends the transfer; the receiver then dallies for up to four packets to repeat its last ACK.
Its sends are recorded as absolute block indices, `TftpHarness.ackDatagram` turning an index into
the datagram.

Main definitions:

* `TftpHarness.ReceiverPhase`, `TftpHarness.ReceiverState` — where the function stands and its local
  variables;
* `TftpHarness.receiverPacket`, `TftpHarness.receiverReceive`, `TftpHarness.receiverStart` — the
  reaction to a packet, to a receive, and the entry of the function;
* `TftpHarness.dataReceiver` — the receiver as a loop around the locked receive;
* `TftpHarness.ReceiverState.gotFinal` — whether the final block has been accepted.

Main results:

* `TftpHarness.receiverPacket_next`, `TftpHarness.receiverPacket_other` — a DATA packet is accepted
  exactly when it carries the next block's wire number;
* `TftpHarness.receiverReceive_cases` — **everything one receive can do to a correct receiver**.
-/

import TftpHarness.Engine
import TftpHarness.Socket

set_option relaxedAutoImplicit false
set_option autoImplicit false

namespace TftpHarness

/-- Where `run_data_receiver` stands: in its receive loop, in its closing dally, or returned. -/
inductive ReceiverPhase
  | receiving
  | dallying (dally : ℕ)
  | returned
  deriving DecidableEq, Repr

/-- The local variables of `run_data_receiver` and the caller's `sink`. -/
structure ReceiverState where
  lastInSequence : ℕ := 0
  blocksSinceAck : ℕ := 0
  consecutiveTimeouts : ℤ := 0
  sink : Bytes := []
  outcome : TransferOutcome := {}
  phase : ReceiverPhase := .receiving
  deriving DecidableEq, Repr

section Loop

variable (params : NegotiatedParameters) (config : EngineConfig)

/-- The window in force, at least one block. -/
def receiverWindow (params : NegotiatedParameters) : ℕ := max params.windowSize 1

/-- The ACK for an absolute block index. -/
def ackDatagram (index : ℕ) : Bytes := serializeAcknowledgement (wireBlockNumber index)

/-- Append a DATA packet's bytes and move to block `lastInSequence`. -/
def acceptBlock (s : ReceiverState) (lastInSequence : ℕ) (data : Bytes) : ReceiverState :=
  { s with
    lastInSequence := lastInSequence
    consecutiveTimeouts := 0
    sink := s.sink ++ data
    outcome := { s.outcome with
      dataPacketsReceived := u32 (s.outcome.dataPacketsReceived + 1) } }

/-- The body of the receive loop for one packet. -/
def receiverPacket (s : ReceiverState) (packet : TftpPacket) : ReceiverState × List ℕ :=
  if packet.opcode = .error then
    ({ s with
        outcome := { s.outcome with
          errorCode := some packet.errorCode
          errorMessage := packet.errorMessage }
        phase := .returned }, [])
  else if packet.opcode ≠ .data then (s, [])
  else
    let absolute :=
      resolveDataToAbsolute packet.blockNumber s.lastInSequence (receiverWindow params)
    if absolute = u32 (s.lastInSequence + 1) then
      -- in sequence
      let s := { acceptBlock s (u32 (s.lastInSequence + 1)) packet.data with
        blocksSinceAck := u32 (s.blocksSinceAck + 1) }
      if packet.data.length < params.blockSize then
        ({ s with phase := .dallying 0 }, [s.lastInSequence])
      else if receiverWindow params ≤ s.blocksSinceAck then
        ({ s with blocksSinceAck := 0 }, [s.lastInSequence])
      else (s, [])
    else if absolute ≠ 0 ∧ absolute ≤ s.lastInSequence then
      -- a duplicate
      ({ s with consecutiveTimeouts := 0, blocksSinceAck := 0 }, [s.lastInSequence])
    else if config.quirks.acceptOutOfSequenceData ∧ absolute ≠ 0 then
      -- a gap that the quirk writes in the wrong place
      let s := acceptBlock s absolute packet.data
      if packet.data.length < params.blockSize then
        ({ s with phase := .dallying 0 }, [s.lastInSequence])
      else (s, [s.lastInSequence])
    else
      -- a gap
      ({ s with consecutiveTimeouts := 0, blocksSinceAck := 0 }, [s.lastInSequence])

/-- The return after the dally. -/
def receiverFinish (s : ReceiverState) : ReceiverState :=
  { s with
    outcome := { s.outcome with
      completedSuccessfully := true
      bytesTransferred := s.sink.length }
    phase := .returned }

/-- From the result of a receive to the next receive. -/
def receiverReceive (s : ReceiverState) (status : ReceiveStatus) : ReceiverState × List ℕ :=
  match s.phase, status with
  | .receiving, .socketError =>
      ({ s with
          outcome := { s.outcome with errorMessage := text "socket error while receiving" }
          phase := .returned }, [])
  | .receiving, .timedOut =>
      if config.maximumRetransmissions < s.consecutiveTimeouts + 1 then
        ({ s with
            consecutiveTimeouts := s.consecutiveTimeouts + 1
            outcome := { s.outcome with
              timedOut := true
              errorMessage := text "gave up after maximum retransmissions (receiver)" }
            phase := .returned }, [])
      else
        -- prod the sender; the count of unacknowledged blocks stays as it is
        ({ s with consecutiveTimeouts := s.consecutiveTimeouts + 1 }, [s.lastInSequence])
  | .receiving, .gotPacket packet => receiverPacket params config s packet
  | .dallying dally, .gotPacket packet =>
      (if dally + 1 < 4 then { s with phase := .dallying (dally + 1) } else receiverFinish s,
        if packet.opcode = .data then [s.lastInSequence] else [])
  | .dallying _, _ => (receiverFinish s, [])
  | .returned, _ => (s, [])

/-- The function from its entry to its first receive: a packet received before is taken first. -/
def receiverStart (sink : Bytes) (firstExpectedBlock : ℕ) (primed : Option TftpPacket) :
    ReceiverState × List ℕ :=
  let s : ReceiverState :=
    { lastInSequence := u32 (firstExpectedBlock + 4294967295)
      sink := sink
      outcome := { negotiated := params } }
  match primed with
  | none => (s, [])
  | some packet => receiverPacket params config s packet

/-- `run_data_receiver` as a loop around the locked receive. -/
def dataReceiver : PeerLoop ReceiverState ℕ where
  receive := receiverReceive params config
  returned s := s.phase = .returned
  encode := ackDatagram

end Loop

/-! ### What a receive can do -/

/-- The final block has been accepted. -/
def ReceiverState.gotFinal (s : ReceiverState) : Bool :=
  match s.phase with
  | .dallying _ => true
  | _ => s.outcome.completedSuccessfully

section Receive

variable {params : NegotiatedParameters} {config : EngineConfig}

theorem receiverWindow_pos (params : NegotiatedParameters) : 0 < receiverWindow params :=
  lt_of_lt_of_le Nat.zero_lt_one (le_max_right _ _)

/-- The sequence of states and sends after the next block in sequence: it is final, it fills a
window, or it is neither. -/
def acceptNext (params : NegotiatedParameters) (s : ReceiverState) (data : Bytes) :
    ReceiverState × List ℕ :=
  if data.length < params.blockSize then
    ({ acceptBlock s (s.lastInSequence + 1) data with
        blocksSinceAck := s.blocksSinceAck + 1, phase := .dallying 0 }, [s.lastInSequence + 1])
  else if receiverWindow params ≤ s.blocksSinceAck + 1 then
    ({ acceptBlock s (s.lastInSequence + 1) data with blocksSinceAck := 0 },
      [s.lastInSequence + 1])
  else
    ({ acceptBlock s (s.lastInSequence + 1) data with blocksSinceAck := s.blocksSinceAck + 1 }, [])

/-- The state and sends after a DATA packet that is not the next block. -/
def refuse (s : ReceiverState) : ReceiverState × List ℕ :=
  ({ s with consecutiveTimeouts := 0, blocksSinceAck := 0 }, [s.lastInSequence])

/-- **The next block in sequence is accepted.** -/
theorem receiverPacket_accept {s : ReceiverState} {packet : TftpPacket}
    (hdata : packet.opcode = .data)
    (hnext : packet.blockNumber = wireBlockNumber (s.lastInSequence + 1))
    (hbound : s.lastInSequence + 1 < 4294967296) (hsince : s.blocksSinceAck + 1 < 4294967296) :
    receiverPacket params config s packet = acceptNext params s packet.data := by
  have habs : resolveDataToAbsolute packet.blockNumber s.lastInSequence (receiverWindow params) =
      u32 (s.lastInSequence + 1) := by
    rw [hnext]
    exact resolveDataToAbsolute_succ _ hbound
  have hlis : u32 (s.lastInSequence + 1) = s.lastInSequence + 1 := u32_of_lt hbound
  have hcount : u32 (s.blocksSinceAck + 1) = s.blocksSinceAck + 1 := u32_of_lt hsince
  simp only [receiverPacket, hdata, habs, hlis, hcount, acceptNext, acceptBlock, reduceCtorEq,
    if_false, ne_eq, not_true_eq_false, if_true]

/-- The next block, for a receiver whose window is in range. -/
theorem receiverPacket_next {s : ReceiverState} {packet : TftpPacket}
    (hdata : packet.opcode = .data)
    (hnext : packet.blockNumber = wireBlockNumber (s.lastInSequence + 1))
    (hbound : s.lastInSequence + receiverWindow params < 4294967296)
    (hsince : s.blocksSinceAck < receiverWindow params) :
    receiverPacket params config s packet = acceptNext params s packet.data := by
  have hwin := receiverWindow_pos params
  exact receiverPacket_accept hdata hnext (by omega) (by omega)

/-- **Any other DATA packet is refused** with an ACK for the last block in sequence. -/
theorem receiverPacket_other {s : ReceiverState} {packet : TftpPacket}
    (hq : config.quirks.acceptOutOfSequenceData = false) (hdata : packet.opcode = .data)
    (hother : packet.blockNumber ≠ wireBlockNumber (s.lastInSequence + 1))
    (hbound : s.lastInSequence + receiverWindow params < 4294967296) :
    receiverPacket params config s packet = refuse s := by
  have hwin := receiverWindow_pos params
  have hmax : max (receiverWindow params) 1 = receiverWindow params := by omega
  have habs : resolveDataToAbsolute packet.blockNumber s.lastInSequence (receiverWindow params) ≠
      u32 (s.lastInSequence + 1) := fun h =>
    hother ((resolveDataToAbsolute_eq_succ_iff (by omega)).1 h)
  simp only [receiverPacket, hdata, habs, hq, refuse, reduceCtorEq, if_false, ne_eq,
    not_true_eq_false, Bool.false_eq_true, false_and, ite_self]

/-- What acceptance of the next block does, whatever becomes of the ACK. -/
theorem acceptNext_spec (params : NegotiatedParameters) (s : ReceiverState) (data : Bytes) :
    (acceptNext params s data).1.lastInSequence = s.lastInSequence + 1 ∧
      (acceptNext params s data).1.sink = s.sink ++ data ∧
      (acceptNext params s data).1.outcome.completedSuccessfully =
        s.outcome.completedSuccessfully ∧
      (acceptNext params s data).1.phase =
        (if data.length < params.blockSize then .dallying 0 else s.phase) ∧
      ∀ a ∈ (acceptNext params s data).2, a = s.lastInSequence + 1 := by
  unfold acceptNext
  split
  · simp [acceptBlock]
  · split
    · simp [acceptBlock]
    · simp [acceptBlock]

/-- The count of unacknowledged blocks stays below the window. -/
theorem acceptNext_blocksSinceAck (s : ReceiverState) (data : Bytes)
    (h : ¬ data.length < params.blockSize) :
    (acceptNext params s data).1.blocksSinceAck < receiverWindow params := by
  have hwin := receiverWindow_pos params
  unfold acceptNext
  rw [if_neg h]
  split
  · exact hwin
  · simp only
    omega

theorem receiverReceive_gotPacket {s : ReceiverState} (h : s.phase = .receiving)
    (packet : TftpPacket) :
    receiverReceive params config s (.gotPacket packet) =
      receiverPacket params config s packet := by
  simp only [receiverReceive, h]

theorem receiverReceive_returned {s : ReceiverState} (h : s.phase = .returned)
    (status : ReceiveStatus) : receiverReceive params config s status = (s, []) := by
  simp only [receiverReceive, h]

/-- **Everything one receive can do to a correct receiver**: it stays at its block, acknowledging
that block or nothing, or it accepts the next block. -/
theorem receiverReceive_cases {s : ReceiverState} {status : ReceiveStatus}
    {r : ReceiverState × List ℕ} (hq : config.quirks.acceptOutOfSequenceData = false)
    (hbound : s.lastInSequence + receiverWindow params < 4294967296)
    (hsince : s.phase = .receiving → s.blocksSinceAck < receiverWindow params)
    (hr : r = receiverReceive params config s status) :
    (r.1.lastInSequence = s.lastInSequence ∧ r.1.sink = s.sink ∧
      r.1.gotFinal = s.gotFinal ∧
      (r.1.phase = .receiving → s.phase = .receiving ∧
        r.1.blocksSinceAck < receiverWindow params) ∧
      ∀ a ∈ r.2, a = s.lastInSequence) ∨
    (∃ packet, status = .gotPacket packet ∧ s.phase = .receiving ∧ packet.opcode = .data ∧
      packet.blockNumber = wireBlockNumber (s.lastInSequence + 1) ∧
      r = acceptNext params s packet.data) := by
  subst hr
  have hwin := receiverWindow_pos params
  cases hphase : s.phase with
  | receiving =>
      have hsince' := hsince hphase
      cases status with
      | socketError => left; simp [receiverReceive, hphase, ReceiverState.gotFinal]
      | timedOut =>
          left
          simp only [receiverReceive, hphase]
          split <;> simp [ReceiverState.gotFinal, hphase, hsince']
      | gotPacket packet =>
          -- only the next DATA packet moves the receiver
          by_cases hdata : packet.opcode = .data
          · by_cases hnext : packet.blockNumber = wireBlockNumber (s.lastInSequence + 1)
            · right
              refine ⟨packet, rfl, rfl, hdata, hnext, ?_⟩
              rw [receiverReceive_gotPacket hphase]
              exact receiverPacket_next hdata hnext hbound hsince'
            · left
              rw [receiverReceive_gotPacket hphase, receiverPacket_other hq hdata hnext hbound]
              simp [refuse, ReceiverState.gotFinal, hphase, hwin]
          · left
            rw [receiverReceive_gotPacket hphase]
            simp only [receiverPacket, hdata, ne_eq, not_false_eq_true, if_true]
            split <;> simp [ReceiverState.gotFinal, hphase, hsince']
  | dallying dally =>
      left
      cases status with
      | socketError => simp [receiverReceive, hphase, ReceiverState.gotFinal, receiverFinish]
      | timedOut => simp [receiverReceive, hphase, ReceiverState.gotFinal, receiverFinish]
      | gotPacket packet =>
          simp only [receiverReceive, hphase]
          by_cases hcount : dally + 1 < 4
          · by_cases hdata : packet.opcode = .data <;>
              simp [hcount, hdata, ReceiverState.gotFinal, hphase]
          · by_cases hdata : packet.opcode = .data <;>
              simp [hcount, hdata, ReceiverState.gotFinal, receiverFinish, hphase]
  | returned =>
      left
      simp [receiverReceive, hphase]

/-- A receiver moves only on the next block's wire number, and by one block. -/
theorem receiverReceive_moved {s : ReceiverState} {status : ReceiveStatus}
    (hq : config.quirks.acceptOutOfSequenceData = false)
    (hbound : s.lastInSequence + receiverWindow params < 4294967296)
    (hsince : s.phase = .receiving → s.blocksSinceAck < receiverWindow params)
    (hmoved : (receiverReceive params config s status).1.lastInSequence ≠ s.lastInSequence) :
    ∃ packet, status = .gotPacket packet ∧ packet.opcode = .data ∧
      packet.blockNumber = wireBlockNumber (s.lastInSequence + 1) ∧
      (receiverReceive params config s status).1.lastInSequence = s.lastInSequence + 1 := by
  rcases receiverReceive_cases hq hbound hsince rfl with
    ⟨hsame, -⟩ | ⟨packet, hstatus, -, hop, hnext, hr⟩
  · exact absurd hsame hmoved
  · refine ⟨packet, hstatus, hop, hnext, ?_⟩
    rw [hr]
    exact (acceptNext_spec params s packet.data).1

end Receive

end TftpHarness
