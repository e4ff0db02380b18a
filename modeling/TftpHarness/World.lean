/-
**A client and a server on an unreliable network.**

One client call, the server's listener and the handlers it spawns are the parties of a
`Service.Roles`: every copy of the request that reaches the listening port opens a handler with an
address of its own.  This module sets the parties up and collects what the end-to-end arguments for
both directions share.

Main definitions:

* `TftpHarness.serviceRoles` — the parties;
* `TftpHarness.addressesByPort`, `TftpHarness.plainDirectory` — the plainest addresses and
  directory;
* `TftpHarness.ErrorDatagram` — a datagram that parses as an ERROR.

Main results:

* `TftpHarness.receiveFromLockedPeer_cases` — what a receive from the peer can come to;
* `TftpHarness.Safe.congr` — only the block size and the window of the receiver matter to safety.
-/

import TftpHarness.Client
import TftpHarness.Server
import TftpHarness.Service
import TftpHarness.DataPlane

set_option relaxedAutoImplicit false
set_option autoImplicit false

namespace TftpHarness

/-- A message and its source, or a receive that timed out, as a socket event. -/
def eventOf : Option (Endpoint × Bytes) → SocketEvent
  | none => .wouldBlock
  | some (sender, bytes) => .datagram sender bytes

/-- A client call, the listener and its handlers. -/
def serviceRoles {γ : Type} (client : γ → SocketEvent → γ × List (Endpoint × Bytes))
    (config : EngineConfig) (served : ServedDirectory) :
    Service.Roles Endpoint Bytes γ Handler Files where
  client c event := client c (eventOf event)
  accept files sender bytes := acceptRequest config served files sender bytes
  session files h event := handlerReceive config files h (eventOf event)

theorem serviceRoles_accept {γ : Type} (client : γ → SocketEvent → γ × List (Endpoint × Bytes))
    (config : EngineConfig) (served : ServedDirectory) :
    (serviceRoles client config served).accept = acceptRequest config served := rfl

/-- A client, a listener and handlers that differ in their ports only. -/
def addressesByPort : Service.Addresses Endpoint where
  client := ⟨false, [], 1⟩
  listener := ⟨false, [], 0⟩
  session k := ⟨false, [], k + 2⟩
  client_ne_listener := by decide
  session_ne_client := by simp
  session_ne_listener := by simp
  session_injective := by simp

/-- The directory in which every name is its own canonical path. -/
def plainDirectory : ServedDirectory := ⟨[], fun path => (path, false)⟩

/-- An event that comes from the peer, or from nobody, is ignored or has a status; a status that is
a packet is one the peer has sent. -/
theorem receiveFromLockedPeer_cases {peer : Endpoint} {event : SocketEvent}
    (hsource : ∀ sender bytes, event = .datagram sender bytes → sender = peer) :
    receiveFromLockedPeer peer event = (none, []) ∨
      ∃ status, receiveFromLockedPeer peer event = (some status, []) ∧
        ∀ packet, status = .gotPacket packet →
          ∃ bytes, event = .datagram peer bytes ∧ parseDatagram bytes = .ok packet := by
  cases event with
  | wouldBlock => exact Or.inr ⟨.timedOut, rfl, by simp⟩
  | failure => exact Or.inr ⟨.socketError, rfl, by simp⟩
  | datagram sender bytes =>
      obtain rfl := hsource sender bytes rfl
      by_cases hempty : bytes = []
      · exact Or.inr ⟨.timedOut, by simp [hempty], by simp⟩
      · rw [receiveFromLockedPeer_peer hempty]
        cases hparse : parseDatagram bytes with
        | error reason => exact Or.inl rfl
        | ok packet =>
            refine Or.inr ⟨.gotPacket packet, rfl, ?_⟩
            intro packet' hpacket
            cases hpacket
            exact ⟨bytes, rfl, hparse⟩

/-- A datagram that parses as an ERROR packet. -/
def ErrorDatagram (bytes : Bytes) : Prop :=
  bytes ≠ [] ∧ ∃ packet, parseDatagram bytes = .ok packet ∧ packet.opcode = .error

theorem errorDatagram_serializeError {code : TftpErrorCode} {message : Bytes}
    (hcode : code.code < 65536) (hmessage : (0 : UInt8) ∉ message) :
    ErrorDatagram (serializeError code message) :=
  ⟨serializeError_ne_nil _ _, _, parse_serializeError hcode hmessage, rfl⟩

theorem errorDatagram_strayReply : ErrorDatagram strayReply :=
  errorDatagram_serializeError (by decide) (by decide)

/-- The refusals of a handler are ERROR datagrams. -/
theorem errorDatagram_refusal :
    ErrorDatagram (serializeError TftpErrorCode.accessViolation (text "access violation")) ∧
      ErrorDatagram (serializeError TftpErrorCode.fileNotFound (text "file not found")) ∧
      ErrorDatagram
        (serializeError TftpErrorCode.fileAlreadyExists (text "file already exists")) :=
  ⟨errorDatagram_serializeError (by decide) (by decide),
    errorDatagram_serializeError (by decide) (by decide),
    errorDatagram_serializeError (by decide) (by decide)⟩

/-- Only the block size and the window of the receiver's parameters matter. -/
theorem Framed.congr {payload : Bytes} {sp rp rp' : NegotiatedParameters}
    (h : Framed payload sp rp) (hblock : rp'.blockSize = rp.blockSize)
    (hwindow : rp'.windowSize = rp.windowSize) : Framed payload sp rp' := by
  have hwin : receiverWindow rp' = receiverWindow rp := by
    rw [receiverWindow, receiverWindow, hwindow]
  refine ⟨h.blockSize_pos, h.sender_lt, ?_, ?_, ?_⟩
  · rw [hwin]
    exact h.receiver_lt
  · rw [hblock]
    exact h.short_ends
  · rw [hblock]
    exact h.last_short

/-- The same for the invariant of the two ends. -/
theorem Safe.congr {payload : Bytes} {sp rp rp' : NegotiatedParameters} {sc : EngineConfig}
    {s : SenderState} {r : ReceiverState} (h : Safe payload sp rp sc s r)
    (hblock : rp'.blockSize = rp.blockSize) (hwindow : rp'.windowSize = rp.windowSize) :
    Safe payload sp rp' sc s r := by
  have hwin : receiverWindow rp' = receiverWindow rp := by
    rw [receiverWindow, receiverWindow, hwindow]
  refine ⟨h.sender, h.acked_le, h.received_le, h.sink_eq, ?_, ?_, h.last_final⟩
  · rw [hwin]
    exact h.receiving
  · rw [hblock]
    exact h.final_short

end TftpHarness
