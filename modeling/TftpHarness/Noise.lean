/-
**Noise from the peer.**

The locked receive drops a datagram that does not parse, and both data planes ignore a packet whose
opcode they do not expect.  The sender also ignores an ACK for no block in flight.  All of these
take the loop through one more iteration.  Deleting them from what arrives leaves the run as it is.

Whether an ACK is noise depends on the window, so the deletion follows the run: an event is judged
in the state that reads it.  The iteration that ignores an event may leave its mark on a local
variable that is set again before it is read, as `action` is.  The two runs are therefore compared
up to a relation between states that the loop does not tell apart.

Main definitions:

* `TftpHarness.PeerLoop.withoutNoise` — the events without those a run ignores;
* `TftpHarness.PeerLoop.Congruence`, `TftpHarness.PeerLoop.Inert` — states a loop does not tell
  apart, and events without effect up to them;
* `TftpHarness.senderNoise`, `TftpHarness.receiverNoise` — the noise of the two data planes.

Main results:

* `TftpHarness.PeerLoop.run_withoutNoise` — without inert events a run is the same;
* `TftpHarness.peer_noise_inert` — **noise from the peer is inert for both data planes**.
-/

import TftpHarness.StrayTid

set_option relaxedAutoImplicit false
set_option autoImplicit false

namespace TftpHarness

namespace PeerLoop

variable {σ ν : Type*}

/-- The events that remain when a run deletes what is noise to the state that reads it. -/
def withoutNoise (loop : PeerLoop σ ν) (peer : Endpoint) (noise : σ → SocketEvent → Prop)
    [∀ s, DecidablePred (noise s)] (s : σ) : List SocketEvent → List SocketEvent
  | [] => []
  | event :: events =>
      let rest := withoutNoise loop peer noise (loop.onEvent peer s event).1 events
      if noise s event then rest else event :: rest

/-- States that a loop does not tell apart. -/
structure Congruence (loop : PeerLoop σ ν) (same : σ → σ → Prop) : Prop where
  trans {s t u : σ} : same s t → same t u → same s u
  returned {s t : σ} : same s t → loop.returned s = loop.returned t
  receive {s t : σ} (status : ReceiveStatus) : same s t →
    same (loop.receive s status).1 (loop.receive t status).1 ∧
      (loop.receive s status).2 = (loop.receive t status).2

/-- Noise that a loop in a state of `inv` ignores, up to `same`. -/
structure Inert (loop : PeerLoop σ ν) (peer : Endpoint) (same : σ → σ → Prop) (inv : σ → Prop)
    (noise : σ → SocketEvent → Prop) : Prop where
  inv_event {s : σ} (event : SocketEvent) : inv s → inv (loop.onEvent peer s event).1
  ignored {s : σ} {event : SocketEvent} : inv s → loop.returned s = false → noise s event →
    same (loop.onEvent peer s event).1 s ∧ (loop.onEvent peer s event).2 = []

variable {loop : PeerLoop σ ν} {peer : Endpoint} {same : σ → σ → Prop} {inv : σ → Prop}
  {noise : σ → SocketEvent → Prop}

variable (peer) in
/-- States that are not told apart react alike to an event. -/
theorem Congruence.onEvent (h : loop.Congruence same) {s t : σ} (hst : same s t)
    (event : SocketEvent) :
    same (loop.onEvent peer s event).1 (loop.onEvent peer t event).1 ∧
      (loop.onEvent peer s event).2 = (loop.onEvent peer t event).2 := by
  simp only [PeerLoop.onEvent, ← h.returned hst]
  split
  · exact ⟨hst, rfl⟩
  · split
    · exact ⟨hst, rfl⟩
    · next status replies _ =>
        obtain ⟨hstates, hsends⟩ := h.receive status hst
        exact ⟨hstates, by rw [hsends]⟩

/-- **Without its noise a run is the same**, up to states that are not told apart. -/
theorem run_withoutNoise [∀ s, DecidablePred (noise s)] (hsame : loop.Congruence same)
    (hinert : loop.Inert peer same inv noise) (events : List SocketEvent) {s t : σ} (hinv : inv s)
    (hst : same s t) :
    same (loop.run peer s events).final
        (loop.run peer t (loop.withoutNoise peer noise s events)).final ∧
      (loop.run peer s events).sends =
        (loop.run peer t (loop.withoutNoise peer noise s events)).sends := by
  induction events generalizing s t with
  | nil => exact ⟨hst, rfl⟩
  | cons event events ih =>
      cases hret : loop.returned s with
      | true =>
          rw [run_of_returned hret, run_of_returned ((hsame.returned hst).symm.trans hret)]
          exact ⟨hst, rfl⟩
      | false =>
          have hret' : loop.returned t = false := (hsame.returned hst).symm.trans hret
          have hinv' := hinert.inv_event event hinv
          rw [run_cons hret, withoutNoise]
          by_cases hnoise : noise s event
          · obtain ⟨hstill, hnone⟩ := hinert.ignored hinv hret hnoise
            obtain ⟨hfinal, hsends⟩ := ih hinv' (hsame.trans hstill hst)
            rw [if_pos hnoise, hnone, List.nil_append]
            exact ⟨hfinal, hsends⟩
          · obtain ⟨hstates, houts⟩ := hsame.onEvent peer hst event
            obtain ⟨hfinal, hsends⟩ := ih hinv' hstates
            rw [if_neg hnoise, run_cons hret', houts]
            exact ⟨hfinal, by rw [hsends]⟩

end PeerLoop

/-! ### The noise of the two data planes -/

/-- A nonempty datagram of the peer that does not parse, or whose packet is ignored. -/
def SocketEvent.IsNoise (peer : Endpoint) (ignored : TftpPacket → Prop) : SocketEvent → Prop
  | .datagram sender bytes => sender = peer ∧ bytes ≠ [] ∧
      match parseDatagram bytes with
      | .error _ => True
      | .ok packet => ignored packet
  | _ => False

instance (peer : Endpoint) (ignored : TftpPacket → Prop) [DecidablePred ignored] :
    DecidablePred (SocketEvent.IsNoise peer ignored) := fun event =>
  match event with
  | .datagram sender bytes =>
      have : Decidable (match parseDatagram bytes with
          | .error _ => True
          | .ok packet => ignored packet) :=
        match parseDatagram bytes with
        | .error _ => inferInstanceAs (Decidable True)
        | .ok packet => inferInstanceAs (Decidable (ignored packet))
      inferInstanceAs (Decidable (sender = peer ∧ bytes ≠ [] ∧ _))
  | .wouldBlock => inferInstanceAs (Decidable False)
  | .failure => inferInstanceAs (Decidable False)

/-- Packets of an unexpected opcode, and ACKs that do not resolve above the last acknowledged
block. -/
def senderIgnores (s : SenderState) (packet : TftpPacket) : Prop :=
  packet.opcode ≠ .error ∧ (packet.opcode = .acknowledgement →
    ¬ s.lastAcked < resolveAckToAbsolute packet.blockNumber s.lastAcked s.highestSent)

/-- Packets of an unexpected opcode, before the final block is accepted. -/
def receiverIgnores (s : ReceiverState) (packet : TftpPacket) : Prop :=
  s.phase = .receiving ∧ packet.opcode ≠ .error ∧ packet.opcode ≠ .data

instance (s : SenderState) : DecidablePred (senderIgnores s) := fun packet =>
  inferInstanceAs (Decidable (packet.opcode ≠ .error ∧ (packet.opcode = .acknowledgement →
    ¬ s.lastAcked < resolveAckToAbsolute packet.blockNumber s.lastAcked s.highestSent)))

instance (s : ReceiverState) : DecidablePred (receiverIgnores s) := fun packet =>
  inferInstanceAs (Decidable (s.phase = .receiving ∧ packet.opcode ≠ .error ∧
    packet.opcode ≠ .data))

/-- Noise for a sender. -/
def senderNoise (peer : Endpoint) (s : SenderState) : SocketEvent → Prop :=
  SocketEvent.IsNoise peer (senderIgnores s)

/-- Noise for a receiver. -/
def receiverNoise (peer : Endpoint) (s : ReceiverState) : SocketEvent → Prop :=
  SocketEvent.IsNoise peer (receiverIgnores s)

instance (peer : Endpoint) (s : SenderState) : DecidablePred (senderNoise peer s) :=
  inferInstanceAs (DecidablePred (SocketEvent.IsNoise peer (senderIgnores s)))

instance (peer : Endpoint) (s : ReceiverState) : DecidablePred (receiverNoise peer s) :=
  inferInstanceAs (DecidablePred (SocketEvent.IsNoise peer (receiverIgnores s)))

/-- The effect of a noise event: none, or that of a receive of an ignored packet. -/
theorem PeerLoop.onEvent_noise {σ ν : Type*} {loop : PeerLoop σ ν} {peer : Endpoint} {s : σ}
    {ignored : TftpPacket → Prop} {event : SocketEvent} (hrun : loop.returned s = false)
    (h : event.IsNoise peer ignored) :
    loop.onEvent peer s event = (s, []) ∨ ∃ packet, ignored packet ∧
      loop.onEvent peer s event = ((loop.receive s (.gotPacket packet)).1,
        (loop.receive s (.gotPacket packet)).2.map fun v => (peer, loop.encode v)) := by
  cases event with
  | datagram sender bytes =>
      obtain ⟨rfl, hne, hignored⟩ := h
      cases hparse : parseDatagram bytes with
      | error reason =>
          left
          simp [PeerLoop.onEvent, hrun, receiveFromLockedPeer_peer hne, hparse, Except.toOption]
      | ok packet =>
          right
          rw [hparse] at hignored
          exact ⟨packet, hignored, PeerLoop.onEvent_packet hrun hne hparse⟩
  | wouldBlock => exact absurd h id
  | failure => exact absurd h id

/-! ### The sender -/

/-- Sender states that differ at most in `action`, which is set again before it is read. -/
def SenderState.Same (s t : SenderState) : Prop := ∃ action, t = { s with action := action }

section Sender

variable {payload : Bytes} {params : NegotiatedParameters} {config : EngineConfig}

theorem senderState_same_refl (s : SenderState) : s.Same s := ⟨s.action, rfl⟩

/-- **A receive does not depend on the action of the iteration before.** -/
theorem senderReceive_same (s : SenderState) (action : Action) (status : ReceiveStatus) :
    (senderReceive payload params config s status).1.Same
        (senderReceive payload params config { s with action := action } status).1 ∧
      (senderReceive payload params config s status).2 =
        (senderReceive payload params config { s with action := action } status).2 := by
  cases status with
  | socketError => exact ⟨⟨action, rfl⟩, rfl⟩
  | timedOut =>
      simp only [senderReceive]
      split
      · exact ⟨⟨action, rfl⟩, rfl⟩
      · exact ⟨senderState_same_refl _, rfl⟩
  | gotPacket packet =>
      simp only [senderReceive]
      split
      · exact ⟨⟨action, rfl⟩, rfl⟩
      · exact ⟨senderState_same_refl _, rfl⟩

theorem congruence_dataSender : (dataSender payload params config).Congruence SenderState.Same where
  trans := by
    rintro s t u ⟨action, rfl⟩ ⟨action', rfl⟩
    exact ⟨action', rfl⟩
  returned := by
    rintro s t ⟨action, rfl⟩
    rfl
  receive status := by
    rintro ⟨action, rfl⟩
    exact senderReceive_same _ action status

variable (payload params config) in
/-- A sender that waits has blocks left. -/
def BlocksLeft (s : SenderState) : Prop :=
  s.returned = false → s.lastAcked < senderTotalBlocks payload params config

/-- The loop test returns when no blocks are left. -/
theorem blocksLeft_senderLoop (s : SenderState) :
    BlocksLeft payload params config (senderLoop payload params config s).1 := by
  unfold senderLoop
  split
  · next hlt =>
      intro _
      cases s.action with
      | sendNew => exact hlt
      | rollback => exact hlt
      | waitOnly => exact hlt
  · exact fun hrun => absurd hrun (by simp)

theorem blocksLeft_senderReceive (s : SenderState) (status : ReceiveStatus) :
    BlocksLeft payload params config (senderReceive payload params config s status).1 := by
  cases status with
  | socketError => exact fun hrun => absurd hrun (by simp [senderReceive])
  | timedOut =>
      simp only [senderReceive]
      split
      · exact fun hrun => absurd hrun (by simp)
      · exact blocksLeft_senderLoop _
  | gotPacket packet =>
      simp only [senderReceive]
      split
      · exact fun hrun => absurd hrun (by simp)
      · split
        · exact blocksLeft_senderLoop _
        · split
          · exact blocksLeft_senderLoop _
          · exact blocksLeft_senderLoop _

/-- An ignored packet makes a correct sender wait. -/
theorem senderReceive_ignored {s : SenderState} {packet : TftpPacket}
    (hq : config.quirks.retransmitOnDuplicateAck = false)
    (hleft : s.lastAcked < senderTotalBlocks payload params config)
    (hignored : senderIgnores s packet) :
    senderReceive payload params config s (.gotPacket packet) =
      ({ s with action := .waitOnly }, []) := by
  obtain ⟨herr, hstale⟩ := hignored
  by_cases hack : packet.opcode = .acknowledgement
  · simp [senderReceive, hack, hstale hack, hq, senderLoop, hleft]
  · simp [senderReceive, herr, hack, senderLoop, hleft]

theorem inert_senderNoise (peer : Endpoint)
    (hq : config.quirks.retransmitOnDuplicateAck = false) :
    (dataSender payload params config).Inert peer SenderState.Same
      (BlocksLeft payload params config) (senderNoise peer) where
  inv_event {s} event hleft := by
    rcases (dataSender payload params config).onEvent_cases peer s event with
      ⟨hstill, -⟩ | ⟨status, -, hevent, -⟩
    · rw [hstill]
      exact hleft
    · rw [hevent]
      exact blocksLeft_senderReceive s status
  ignored {s event} hleft hrun hnoise := by
    rcases PeerLoop.onEvent_noise hrun hnoise with hevent | ⟨packet, hignored, hevent⟩
    · rw [hevent]
      exact ⟨senderState_same_refl s, rfl⟩
    · rw [hevent]
      simp only [dataSender, senderReceive_ignored hq (hleft hrun) hignored]
      exact ⟨⟨s.action, rfl⟩, rfl⟩

end Sender

/-! ### The receiver -/

section Receiver

variable {params : NegotiatedParameters} {config : EngineConfig}

theorem congruence_dataReceiver : (dataReceiver params config).Congruence Eq where
  trans := Eq.trans
  returned := by
    rintro s t rfl
    rfl
  receive status := by
    rintro rfl
    exact ⟨rfl, rfl⟩

/-- A packet of an unexpected opcode changes nothing. -/
theorem receiverReceive_ignored {s : ReceiverState} {packet : TftpPacket}
    (hignored : receiverIgnores s packet) :
    receiverReceive params config s (.gotPacket packet) = (s, []) := by
  obtain ⟨hphase, herr, hdata⟩ := hignored
  rw [receiverReceive_gotPacket hphase, receiverPacket, if_neg herr, if_pos hdata]

theorem inert_receiverNoise (peer : Endpoint) :
    (dataReceiver params config).Inert peer Eq (fun _ => True) (receiverNoise peer) where
  inv_event _ _ := trivial
  ignored {s event} _ hrun hnoise := by
    rcases PeerLoop.onEvent_noise hrun hnoise with hevent | ⟨packet, hignored, hevent⟩
    · rw [hevent]
      exact ⟨rfl, rfl⟩
    · rw [hevent]
      simp [dataReceiver, receiverReceive_ignored hignored]

end Receiver

/-! ### Both data planes -/

/-- **Noise from the peer is inert.**  For both data planes and every sequence of socket events,
deleting the noise leaves everything sent, the outcome and the sink as they are. -/
theorem peer_noise_inert (peer : Endpoint) (events : List SocketEvent) :
    (∀ (payload : Bytes) (params : NegotiatedParameters) (config : EngineConfig)
        (startingDataPacketsSent : ℕ), config.quirks = {} →
      let sender := dataSender payload params config
      let start := senderStart payload params config startingDataPacketsSent
      let noisy := sender.runFrom peer start events
      let quiet := sender.runFrom peer start
        (sender.withoutNoise peer (senderNoise peer) start.1 events)
      noisy.sends = quiet.sends ∧ noisy.final.outcome = quiet.final.outcome ∧
        noisy.final.returned = quiet.final.returned) ∧
    (∀ (params : NegotiatedParameters) (config : EngineConfig) (sink : Bytes)
        (firstExpectedBlock : ℕ) (primed : Option TftpPacket), config.quirks = {} →
      let receiver := dataReceiver params config
      let start := receiverStart params config sink firstExpectedBlock primed
      let noisy := receiver.runFrom peer start events
      let quiet := receiver.runFrom peer start
        (receiver.withoutNoise peer (receiverNoise peer) start.1 events)
      noisy.sends = quiet.sends ∧ noisy.final.outcome = quiet.final.outcome ∧
        noisy.final.sink = quiet.final.sink ∧ noisy.final.phase = quiet.final.phase) := by
  constructor
  · intro payload params config starting hquirks sender start noisy quiet
    have hq : config.quirks.retransmitOnDuplicateAck = false := by rw [hquirks]
    have hleft : BlocksLeft payload params config start.1 := blocksLeft_senderLoop _
    obtain ⟨⟨action, hfinal⟩, hsends⟩ := PeerLoop.run_withoutNoise congruence_dataSender
      (inert_senderNoise peer hq) events hleft (senderState_same_refl start.1)
    refine ⟨congrArg (_ ++ ·) hsends, ?_, ?_⟩
    · exact (congrArg SenderState.outcome hfinal).symm
    · exact (congrArg SenderState.returned hfinal).symm
  · intro params config sink first primed _ receiver start noisy quiet
    have hsame : receiver.Congruence Eq := congruence_dataReceiver
    obtain ⟨hfinal, hsends⟩ := PeerLoop.run_withoutNoise hsame (inert_receiverNoise peer) events
      trivial (Eq.refl start.1)
    have hstate : noisy.final = quiet.final := hfinal
    exact ⟨congrArg (_ ++ ·) hsends, by rw [hstate], by rw [hstate], by rw [hstate]⟩

/-- A sender of one block that reads a malformed datagram, a DATA packet, a stale ACK and the ACK it
waits for. -/
theorem peer_noise_inert_three_kinds :
    let peer : Endpoint := ⟨false, [], 1⟩
    let sender := dataSender [7] {} {}
    let start := senderStart [7] {} {} 0
    let events : List SocketEvent := [.datagram peer [0, 9], .datagram peer [0, 3, 0, 1],
      .datagram peer [0, 4, 0, 0], .datagram peer [0, 4, 0, 1]]
    sender.withoutNoise peer (senderNoise peer) start.1 events = [.datagram peer [0, 4, 0, 1]] ∧
      (sender.runFrom peer start events).sends =
        (sender.runFrom peer start [.datagram peer [0, 4, 0, 1]]).sends ∧
      (sender.runFrom peer start events).final.outcome.completedSuccessfully = true := by
  intro peer sender start events
  have hkept : sender.withoutNoise peer (senderNoise peer) start.1 events =
      [.datagram peer [0, 4, 0, 1]] := by decide
  obtain ⟨hsends, houtcome, -⟩ := (peer_noise_inert peer events).1 [7] {} {} 0 rfl
  refine ⟨hkept, ?_, ?_⟩
  · rw [← hkept]
    exact hsends
  · rw [houtcome]
    decide

end TftpHarness
