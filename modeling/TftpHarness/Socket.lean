/-
**Receiving from a locked peer.**

Both data planes wait for packets through `receive_from_locked_peer`, which sits on
`UdpSocket::receive_from`.  What the operating system hands to one `recvfrom` call is a
`TftpHarness.SocketEvent`; a receive timeout surfaces as would-block.  The socket wrapper encodes a
timeout as a count of zero, and the locked receive reads a zero count as a timeout before it looks
at where the datagram came from.

A data plane is a loop around that receive.  Between two receives it is a function of its state, so
it is a `TftpHarness.PeerLoop`: a reaction to every receive status, together with how its sends are
encoded.  Running it on a sequence of socket events gives its final state, everything it sent and
the events it did not live to read.

Main definitions:

* `TftpHarness.Endpoint`, `TftpHarness.SocketEvent` — addresses and what `recvfrom` reports;
* `TftpHarness.receiveFrom`, `TftpHarness.receiveFromLockedPeer` — the two receive layers;
* `TftpHarness.PeerLoop`, `TftpHarness.PeerLoop.onEvent`, `TftpHarness.PeerLoop.run`,
  `TftpHarness.PeerLoop.runFrom` — a data plane and its runs;
* `TftpHarness.PeerLoop.party` — the same data plane as one end of a duplex system.

Main results:

* `TftpHarness.receiveFromLockedPeer_peer`, `TftpHarness.receiveFromLockedPeer_stray`,
  `TftpHarness.receiveFromLockedPeer_empty` — what the locked receive makes of a datagram;
* `TftpHarness.PeerLoop.party_receive` — a well-formed datagram reaches the loop as its packet.
-/

import TftpHarness.Packet
import TftpHarness.Duplex

set_option relaxedAutoImplicit false
set_option autoImplicit false

namespace TftpHarness

/-- A socket address, compared by family, port and address as `Endpoint::operator==` does. -/
structure Endpoint where
  isIpv6 : Bool
  address : Bytes
  port : ℕ
  deriving DecidableEq, Repr

/-- What one `recvfrom` call reports. -/
inductive SocketEvent
  | datagram (sender : Endpoint) (bytes : Bytes)
  | wouldBlock
  | failure
  deriving DecidableEq, Repr

/-- `UdpSocket::receive_from`: the count it returns, the buffer and the sender.  The 70000-byte
buffer is longer than any UDP datagram, so nothing is truncated. -/
def receiveFrom : SocketEvent → ℤ × Bytes × Option Endpoint
  | .datagram sender bytes => (bytes.length, bytes, some sender)
  | .wouldBlock => (0, [], none)
  | .failure => (-1, [], none)

/-- What a receive from the locked peer comes back with. -/
inductive ReceiveStatus
  | gotPacket (packet : TftpPacket)
  | timedOut
  | socketError
  deriving DecidableEq, Repr

/-- The ERROR 5 a stray sender is answered with. -/
def strayReply : Bytes :=
  serializeError TftpErrorCode.unknownTransferId (text "unknown transfer ID")

/-- One iteration of the loop of `receive_from_locked_peer`: the status it returns, or `none` when
it keeps waiting, and what it sends to whom. -/
def receiveFromLockedPeer (lockedPeer : Endpoint) (event : SocketEvent) :
    Option ReceiveStatus × List (Endpoint × Bytes) :=
  let (received, buffer, sender) := receiveFrom event
  if received = 0 then (some .timedOut, [])
  else if received < 0 then (some .socketError, [])
  else if sender ≠ some lockedPeer then
    -- RFC 1350 section 4: rebuff the stray TID and keep waiting
    (none, sender.toList.map fun stray => (stray, strayReply))
  else
    match parseDatagram buffer with
    | .error _ => (none, [])
    | .ok packet => (some (.gotPacket packet), [])

@[simp] theorem receiveFromLockedPeer_wouldBlock (peer : Endpoint) :
    receiveFromLockedPeer peer .wouldBlock = (some .timedOut, []) := rfl

@[simp] theorem receiveFromLockedPeer_failure (peer : Endpoint) :
    receiveFromLockedPeer peer .failure = (some .socketError, []) := rfl

/-- An empty datagram reads as a timeout, wherever it comes from. -/
@[simp] theorem receiveFromLockedPeer_empty (peer sender : Endpoint) :
    receiveFromLockedPeer peer (.datagram sender []) = (some .timedOut, []) := rfl

/-- A nonempty datagram from another source is rebuffed. -/
theorem receiveFromLockedPeer_stray {peer sender : Endpoint} {bytes : Bytes}
    (hs : sender ≠ peer) (hb : bytes ≠ []) :
    receiveFromLockedPeer peer (.datagram sender bytes) = (none, [(sender, strayReply)]) := by
  have hlen : 0 < bytes.length := List.length_pos_of_ne_nil hb
  have h₁ : ¬ ((bytes.length : ℤ) = 0) := by omega
  have h₂ : ¬ ((bytes.length : ℤ) < 0) := by omega
  have h₃ : some sender ≠ some peer := fun h => hs (Option.some.inj h)
  simp only [receiveFromLockedPeer, receiveFrom, h₁, h₂, h₃, if_false, if_true, ne_eq,
    not_false_eq_true, Option.toList_some, List.map_cons, List.map_nil]

/-- A nonempty datagram from the peer is parsed. -/
theorem receiveFromLockedPeer_peer {peer : Endpoint} {bytes : Bytes} (hb : bytes ≠ []) :
    receiveFromLockedPeer peer (.datagram peer bytes) =
      ((parseDatagram bytes).toOption.map .gotPacket, []) := by
  have hlen : 0 < bytes.length := List.length_pos_of_ne_nil hb
  have h₁ : ¬ ((bytes.length : ℤ) = 0) := by omega
  have h₂ : ¬ ((bytes.length : ℤ) < 0) := by omega
  simp only [receiveFromLockedPeer, receiveFrom, h₁, h₂, if_false, ne_eq, not_true_eq_false]
  cases parseDatagram bytes <;> rfl

/-! ### Loops around the locked receive -/

/-- A function of the engine that waits for its peer in a loop: its reaction to one receive, when
it has returned, and the datagrams its sends stand for. -/
structure PeerLoop (σ ν : Type*) where
  receive : σ → ReceiveStatus → σ × List ν
  returned : σ → Bool
  encode : ν → Bytes

namespace PeerLoop

variable {σ ν : Type*} (loop : PeerLoop σ ν) (peer : Endpoint)

/-- The effect of one socket event: nothing once the function has returned. -/
def onEvent (s : σ) (event : SocketEvent) : σ × List (Endpoint × Bytes) :=
  if loop.returned s then (s, [])
  else
    match receiveFromLockedPeer peer event with
    | (none, replies) => (s, replies)
    | (some status, replies) =>
        ((loop.receive s status).1,
          replies ++ (loop.receive s status).2.map fun v => (peer, loop.encode v))

/-- **Everything one socket event can do to a loop**: it stands still, answering at most a stray
source, or it reacts to a status, which is a packet only when its peer has sent one. -/
theorem onEvent_cases (s : σ) (event : SocketEvent) :
    ((loop.onEvent peer s event).1 = s ∧ ∀ send ∈ (loop.onEvent peer s event).2,
      send.1 ≠ peer ∧ send.2 = strayReply ∧ ∃ bytes, event = .datagram send.1 bytes) ∨
    (∃ status, loop.returned s = false ∧
      loop.onEvent peer s event = ((loop.receive s status).1,
        (loop.receive s status).2.map fun v => (peer, loop.encode v)) ∧
      ∀ packet, status = .gotPacket packet →
        ∃ bytes, event = .datagram peer bytes ∧ parseDatagram bytes = .ok packet) := by
  cases hret : loop.returned s with
  | true =>
      left
      simp [onEvent, hret]
  | false =>
      cases event with
      | wouldBlock => exact Or.inr ⟨.timedOut, rfl, by simp [onEvent, hret], by simp⟩
      | failure => exact Or.inr ⟨.socketError, rfl, by simp [onEvent, hret], by simp⟩
      | datagram sender bytes =>
          by_cases hempty : bytes = []
          · exact Or.inr ⟨.timedOut, rfl, by simp [onEvent, hret, hempty], by simp⟩
          by_cases hsender : sender = peer
          · subst hsender
            cases hparse : parseDatagram bytes with
            | error reason =>
                left
                simp [onEvent, hret, receiveFromLockedPeer_peer hempty, hparse, Except.toOption]
            | ok packet =>
                right
                refine ⟨.gotPacket packet, rfl, ?_, ?_⟩
                · simp [onEvent, hret, receiveFromLockedPeer_peer hempty, hparse, Except.toOption]
                · intro packet' hpacket
                  cases hpacket
                  exact ⟨bytes, rfl, hparse⟩
          · left
            simp [onEvent, hret, receiveFromLockedPeer_stray hsender hempty, hsender]

variable {loop peer} in
/-- A well-formed datagram of the peer reaches the loop as its packet. -/
theorem onEvent_packet {s : σ} {bytes : Bytes} {packet : TftpPacket}
    (hrun : loop.returned s = false) (hne : bytes ≠ []) (hp : parseDatagram bytes = .ok packet) :
    loop.onEvent peer s (.datagram peer bytes) = ((loop.receive s (.gotPacket packet)).1,
      (loop.receive s (.gotPacket packet)).2.map fun v => (peer, loop.encode v)) := by
  simp only [onEvent, hrun, receiveFromLockedPeer_peer hne, hp, Except.toOption, Option.map_some,
    Bool.false_eq_true, if_false, List.nil_append]

variable {loop peer} in
theorem onEvent_wouldBlock {s : σ} (hrun : loop.returned s = false) :
    loop.onEvent peer s .wouldBlock = ((loop.receive s .timedOut).1,
      (loop.receive s .timedOut).2.map fun v => (peer, loop.encode v)) := by
  simp only [onEvent, hrun, receiveFromLockedPeer_wouldBlock, Bool.false_eq_true, if_false,
    List.nil_append]

/-- The result of running a loop on a sequence of socket events. -/
structure Run (σ : Type*) where
  /-- The state after the last event read. -/
  final : σ
  /-- Everything sent, in order, and to whom. -/
  sends : List (Endpoint × Bytes)
  /-- The events that come after the function has returned. -/
  unread : List SocketEvent

/-- Run the loop until it returns or the events are used up. -/
def run (s : σ) : List SocketEvent → Run σ
  | [] => ⟨s, [], []⟩
  | event :: events =>
      if loop.returned s then ⟨s, [], event :: events⟩
      else
        let rest := run (onEvent loop peer s event).1 events
        { rest with sends := (onEvent loop peer s event).2 ++ rest.sends }

/-- Run the whole function, from what it does before its first receive. -/
def runFrom (start : σ × List ν) (events : List SocketEvent) : Run σ :=
  let rest := run loop peer start.1 events
  { rest with sends := (start.2.map fun v => (peer, loop.encode v)) ++ rest.sends }

/-- A datagram in transit between two data planes, remembering which absolute index it was sent for.
The receiving side reads only the bytes. -/
structure Tagged where
  absolute : ℕ
  bytes : Bytes
  deriving DecidableEq, Repr

/-- The datagrams a data plane's sends stand for. -/
def tagged (loop : PeerLoop σ ℕ) (sends : List ℕ) : List Tagged :=
  sends.map fun i => ⟨i, loop.encode i⟩

/-- The loop as one end of a duplex system: every message comes from the locked peer, and every send
goes to it. -/
def party (loop : PeerLoop σ ℕ) (peer : Endpoint) : Duplex.Party σ Tagged Tagged where
  receive s m :=
    if loop.returned s then (s, [])
    else
      match receiveFromLockedPeer peer (.datagram peer m.bytes) with
      | (none, _) => (s, [])
      | (some status, _) =>
          ((loop.receive s status).1, loop.tagged (loop.receive s status).2)
  timeout s :=
    if loop.returned s then (s, [])
    else ((loop.receive s .timedOut).1, loop.tagged (loop.receive s .timedOut).2)

section Party

variable {loop : PeerLoop σ ℕ} {peer : Endpoint} {s : σ}

theorem mem_tagged {sends : List ℕ} {m : Tagged} :
    m ∈ loop.tagged sends ↔ m.absolute ∈ sends ∧ m.bytes = loop.encode m.absolute := by
  simp only [tagged, List.mem_map]
  constructor
  · rintro ⟨i, hi, rfl⟩
    exact ⟨hi, rfl⟩
  · rintro ⟨hi, hb⟩
    exact ⟨m.absolute, hi, by rw [← hb]⟩

/-- A function that has returned no longer reacts. -/
theorem party_receive_returned (h : loop.returned s = true) (m : Tagged) :
    (loop.party peer).receive s m = (s, []) := by
  simp only [party, h, if_true]

theorem party_timeout_returned (h : loop.returned s = true) :
    (loop.party peer).timeout s = (s, []) := by
  simp only [party, h, if_true]

/-- A well-formed datagram reaches the loop as its packet. -/
theorem party_receive {m : Tagged} {packet : TftpPacket} (hrun : loop.returned s = false)
    (hne : m.bytes ≠ []) (hp : parseDatagram m.bytes = .ok packet) :
    (loop.party peer).receive s m = ((loop.receive s (.gotPacket packet)).1,
      loop.tagged (loop.receive s (.gotPacket packet)).2) := by
  simp only [party, hrun, receiveFromLockedPeer_peer hne, hp, Except.toOption, Option.map_some,
    Bool.false_eq_true, if_false]

theorem party_timeout (hrun : loop.returned s = false) :
    (loop.party peer).timeout s = ((loop.receive s .timedOut).1,
      loop.tagged (loop.receive s .timedOut).2) := by
  simp only [party, hrun, Bool.false_eq_true, if_false]

end Party

end PeerLoop

end TftpHarness
