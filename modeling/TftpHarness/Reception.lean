/-
**The receiver against any peer.**

A peer may send whatever it likes: any block numbers, payloads of any length, duplicates, packets of
any kind.  What `run_data_receiver` makes of it is told by its history.  Each reaction is one of
four moves: the receiver waits on, it refuses a DATA packet, it accepts the next block, or it
dallies after the final one.  The accepted packets of a history are those that have moved the
receiver.

The receiver checks the number of a block and whether it is short, and nothing else.  So its
sequencing holds against any peer, but its framing needs the peer's help: a payload longer than the
block size is accepted like a full block.

Main definitions:

* `TftpHarness.ReceiverMove` — **everything a reaction can be**;
* `TftpHarness.acceptedOf`, `TftpHarness.sinceAck` — the accepted packets of a history, and how many
  came after the last ACK for data;
* `TftpHarness.FramedReception`, `TftpHarness.NextBlocksFit` — the framing of a history, and what it
  takes.

Main results:

* `TftpHarness.receiverMove_receive` — every reaction is one of the moves;
* `TftpHarness.dataReceiver_accepted` — a block is accepted only from a datagram of the peer;
* `TftpHarness.framed_reception_iff` — **the framing holds exactly when no next block is longer than
  the block size**;
* `TftpHarness.receiver_sequencing` — **the sequencing holds against any peer**.
-/

import TftpHarness.History

set_option relaxedAutoImplicit false
set_option autoImplicit false

namespace TftpHarness

/-! ### Moves -/

/-- The packet is taken for the next block. -/
def NextInSequence (params : NegotiatedParameters) (s : ReceiverState) (packet : TftpPacket) :
    Prop :=
  resolveDataToAbsolute packet.blockNumber s.lastInSequence (receiverWindow params) =
    u32 (s.lastInSequence + 1)

instance (params : NegotiatedParameters) (s : ReceiverState) (packet : TftpPacket) :
    Decidable (NextInSequence params s packet) := inferInstanceAs (Decidable (_ = _))

/-- **What one receive does to a correct receiver that has not returned.** -/
inductive ReceiverMove (params : NegotiatedParameters) (s : ReceiverState) :
    ReceiveStatus → ReceiverState × List ℕ → Prop
  | wait {status : ReceiveStatus} {s' : ReceiverState} {sent : List ℕ}
      (hphase : s.phase = .receiving)
      (hdata : ∀ packet, status = .gotPacket packet → packet.opcode ≠ .data)
      (hposition : s'.lastInSequence = s.lastInSequence) (hsink : s'.sink = s.sink)
      (hsince : s'.blocksSinceAck = s.blocksSinceAck)
      (hcompleted : s'.outcome.completedSuccessfully = s.outcome.completedSuccessfully)
      (hphase' : s'.phase = .receiving ∨ s'.phase = .returned)
      (hsent : ∀ a ∈ sent, a = s.lastInSequence) :
      ReceiverMove params s status (s', sent)
  | refuse {packet : TftpPacket} {s' : ReceiverState} (hphase : s.phase = .receiving)
      (hdata : packet.opcode = .data) (hnext : ¬ NextInSequence params s packet)
      (hposition : s'.lastInSequence = s.lastInSequence) (hsink : s'.sink = s.sink)
      (hsince : s'.blocksSinceAck = 0)
      (hcompleted : s'.outcome.completedSuccessfully = s.outcome.completedSuccessfully)
      (hphase' : s'.phase = .receiving) :
      ReceiverMove params s (.gotPacket packet) (s', [s.lastInSequence])
  | accept {packet : TftpPacket} {s' : ReceiverState} {sent : List ℕ}
      (hphase : s.phase = .receiving) (hdata : packet.opcode = .data)
      (hnext : NextInSequence params s packet)
      (hposition : s'.lastInSequence = u32 (s.lastInSequence + 1))
      (hsink : s'.sink = s.sink ++ packet.data)
      (hcompleted : s'.outcome.completedSuccessfully = s.outcome.completedSuccessfully)
      (hphase' : s'.phase =
        if packet.data.length < params.blockSize then .dallying 0 else .receiving)
      (hsent : ∀ a ∈ sent, a = s'.lastInSequence)
      (hsince : s'.phase = .receiving → (sent ≠ [] ∧ s'.blocksSinceAck = 0) ∨
        (sent = [] ∧ s'.blocksSinceAck = u32 (s.blocksSinceAck + 1) ∧
          s'.blocksSinceAck < receiverWindow params)) :
      ReceiverMove params s (.gotPacket packet) (s', sent)
  | dally {status : ReceiveStatus} {s' : ReceiverState} {sent : List ℕ} {n : ℕ}
      (hphase : s.phase = .dallying n) (hposition : s'.lastInSequence = s.lastInSequence)
      (hsink : s'.sink = s.sink)
      (hphase' : (∃ m, s'.phase = .dallying m ∧
          s'.outcome.completedSuccessfully = s.outcome.completedSuccessfully) ∨
        s'.phase = .returned ∧ s'.outcome.completedSuccessfully = true ∧
          s'.outcome.bytesTransferred = s'.sink.length)
      (hsent : ∀ a ∈ sent, a = s.lastInSequence) :
      ReceiverMove params s status (s', sent)

section Moves

variable {params : NegotiatedParameters} {config : EngineConfig}

/-- The moves on a DATA packet. -/
theorem receiverMove_data (hq : config.quirks.acceptOutOfSequenceData = false) {s : ReceiverState}
    (hphase : s.phase = .receiving) {packet : TftpPacket} (hdata : packet.opcode = .data) :
    ReceiverMove params s (.gotPacket packet) (receiverPacket params config s packet) := by
  by_cases hnext : NextInSequence params s packet
  · have habs := hnext
    unfold NextInSequence at habs
    by_cases hshort : packet.data.length < params.blockSize
    · have heq : receiverPacket params config s packet =
          ({ acceptBlock s (u32 (s.lastInSequence + 1)) packet.data with
              blocksSinceAck := u32 (s.blocksSinceAck + 1), phase := .dallying 0 },
            [u32 (s.lastInSequence + 1)]) := by
        simp [receiverPacket, hdata, habs, hshort, acceptBlock]
      rw [heq]
      exact .accept hphase hdata hnext rfl rfl rfl (by simp [hshort]) (by simp [acceptBlock])
        (by simp)
    · by_cases hfull : receiverWindow params ≤ u32 (s.blocksSinceAck + 1)
      · have heq : receiverPacket params config s packet =
            ({ acceptBlock s (u32 (s.lastInSequence + 1)) packet.data with blocksSinceAck := 0 },
              [u32 (s.lastInSequence + 1)]) := by
          simp [receiverPacket, hdata, habs, hshort, acceptBlock, hfull]
        rw [heq]
        exact .accept hphase hdata hnext rfl rfl rfl (by simp [hshort, acceptBlock, hphase])
          (by simp [acceptBlock]) fun _ => Or.inl ⟨by simp, rfl⟩
      · have heq : receiverPacket params config s packet =
            ({ acceptBlock s (u32 (s.lastInSequence + 1)) packet.data with
                blocksSinceAck := u32 (s.blocksSinceAck + 1) }, []) := by
          simp [receiverPacket, hdata, habs, hshort, acceptBlock, hfull]
        rw [heq]
        exact .accept hphase hdata hnext rfl rfl rfl (by simp [hshort, acceptBlock, hphase])
          (by simp) fun _ => Or.inr ⟨rfl, rfl, Nat.lt_of_not_le hfull⟩
  · have hrefuse : receiverPacket params config s packet = refuse s := by
      have habs : ¬ resolveDataToAbsolute packet.blockNumber s.lastInSequence
          (receiverWindow params) = u32 (s.lastInSequence + 1) := hnext
      simp [receiverPacket, hdata, habs, hq, refuse]
    rw [hrefuse]
    exact .refuse hphase hdata hnext rfl rfl rfl rfl hphase

/-- **Every receive of a correct receiver is one of the moves.** -/
theorem receiverMove_receive (hq : config.quirks.acceptOutOfSequenceData = false)
    {s : ReceiverState} (hrun : s.phase ≠ .returned) (status : ReceiveStatus) :
    ReceiverMove params s status (receiverReceive params config s status) := by
  cases hphase : s.phase with
  | receiving =>
      cases status with
      | socketError =>
          simp only [receiverReceive, hphase]
          exact .wait hphase (by simp) rfl rfl rfl rfl (Or.inr rfl) (by simp)
      | timedOut =>
          simp only [receiverReceive, hphase]
          split
          · exact .wait hphase (by simp) rfl rfl rfl rfl (Or.inr rfl) (by simp)
          · exact .wait hphase (by simp) rfl rfl rfl rfl (Or.inl rfl) (by simp)
      | gotPacket packet =>
          rw [receiverReceive_gotPacket hphase]
          by_cases hdata : packet.opcode = .data
          · exact receiverMove_data hq hphase hdata
          · have hother : ∀ p, ReceiveStatus.gotPacket packet = .gotPacket p →
                p.opcode ≠ .data := by
              intro p hp
              cases hp
              exact hdata
            simp only [receiverPacket, hdata, ne_eq, not_false_eq_true, if_true]
            split
            · exact .wait hphase hother rfl rfl rfl rfl (Or.inr rfl) (by simp)
            · exact .wait hphase hother rfl rfl rfl rfl (Or.inl hphase) (by simp)
  | dallying n =>
      cases status with
      | socketError =>
          simp only [receiverReceive, hphase]
          exact .dally hphase rfl rfl (Or.inr ⟨rfl, rfl, rfl⟩) (by simp)
      | timedOut =>
          simp only [receiverReceive, hphase]
          exact .dally hphase rfl rfl (Or.inr ⟨rfl, rfl, rfl⟩) (by simp)
      | gotPacket packet =>
          have hsent : ∀ a ∈ (if packet.opcode = .data then [s.lastInSequence] else []),
              a = s.lastInSequence := by
            intro a ha
            split at ha
            · exact List.mem_singleton.1 ha
            · exact absurd ha List.not_mem_nil
          simp only [receiverReceive, hphase]
          split
          · exact .dally hphase rfl rfl (Or.inl ⟨_, rfl, rfl⟩) hsent
          · exact .dally hphase rfl rfl (Or.inr ⟨rfl, rfl, rfl⟩) hsent
  | returned => exact absurd hphase hrun

/-- A reaction that has moved the receiver was to the datagram of the next block. -/
theorem ReceiverMove.next {r : ReceiverState} {status : ReceiveStatus}
    {moved : ReceiverState × List ℕ} (hmove : ReceiverMove params r status moved)
    (hbound : r.lastInSequence + receiverWindow params < 4294967296) :
    moved.1.lastInSequence = r.lastInSequence ∨
      ∃ packet, status = .gotPacket packet ∧ packet.opcode = .data ∧
        moved.1.lastInSequence = r.lastInSequence + 1 ∧
        packet.blockNumber = wireBlockNumber (r.lastInSequence + 1) := by
  have hwin := receiverWindow_pos params
  cases hmove with
  | wait _ _ hposition => exact Or.inl hposition
  | refuse _ _ _ hposition => exact Or.inl hposition
  | dally _ hposition => exact Or.inl hposition
  | accept _ hdata hnext hposition =>
      refine Or.inr ⟨_, rfl, hdata, hposition.trans (u32_of_lt (by omega)), ?_⟩
      exact (resolveDataToAbsolute_eq_succ_iff (by omega)).1 hnext

/-- **A receiver accepts a block only from the datagram of its peer that it reads.** -/
theorem dataReceiver_accepted (hq : config.quirks.acceptOutOfSequenceData = false)
    {peer : Endpoint} {r : ReceiverState} {event : SocketEvent}
    (hbound : r.lastInSequence + receiverWindow params < 4294967296) {i : ℕ}
    (hle : i ≤ ((dataReceiver params config).onEvent peer r event).1.lastInSequence) :
    i ≤ r.lastInSequence ∨ ∃ bytes packet, event = .datagram peer bytes ∧
      parseDatagram bytes = .ok packet ∧ packet.opcode = .data ∧
        packet.blockNumber = wireBlockNumber i := by
  rcases (dataReceiver params config).onEvent_cases peer r event with
    ⟨hstill, -⟩ | ⟨status, hrun, hreact, hpeer⟩
  · rw [hstill] at hle
    exact Or.inl hle
  · have hreturned : r.phase ≠ .returned := by
      intro heq
      exact absurd hrun (by simp [dataReceiver, heq])
    have hmove := @receiverMove_receive params config hq r hreturned status
    rw [hreact] at hle
    rcases hmove.next hbound with hstill | ⟨packet, rfl, hdata, hmoved, hblock⟩
    · exact Or.inl (hstill ▸ hle)
    · by_cases hold : i ≤ r.lastInSequence
      · exact Or.inl hold
      · obtain ⟨bytes, hevent, hparse⟩ := hpeer packet rfl
        have hnew : i ≤ r.lastInSequence + 1 := hmoved ▸ hle
        have hlast : i = r.lastInSequence + 1 := by omega
        exact Or.inr ⟨bytes, packet, hevent, hparse, hdata, hlast ▸ hblock⟩

end Moves

/-! ### The accepted packets -/

/-- A reaction of the receiver. -/
abbrev ReceiverReaction := PeerLoop.Reaction ReceiverState ℕ

/-- The packet a reaction has accepted: one that has moved the receiver. -/
def acceptedBy (r : ReceiverReaction) : Option TftpPacket :=
  match r.cause with
  | .gotPacket packet =>
      if r.after.lastInSequence = r.before.lastInSequence then none else some packet
  | _ => none

/-- The accepted packets, in order. -/
def acceptedOf (log : List ReceiverReaction) : List TftpPacket := log.filterMap acceptedBy

/-- An ACK that answers a DATA packet. -/
def acksData (r : ReceiverReaction) : Bool :=
  match r.cause with
  | .gotPacket packet => packet.opcode = .data && r.sent ≠ []
  | _ => false

/-- The number of packets accepted since a DATA packet was last answered. -/
def sinceAck (log : List ReceiverReaction) : ℕ :=
  log.foldl (fun n r => if acksData r then 0 else n + (acceptedBy r).toList.length) 0

@[simp] theorem acceptedOf_append (log : List ReceiverReaction) (r : ReceiverReaction) :
    acceptedOf (log ++ [r]) = acceptedOf log ++ (acceptedBy r).toList := by
  cases h : acceptedBy r <;> simp [acceptedOf, h]

@[simp] theorem sinceAck_append (log : List ReceiverReaction) (r : ReceiverReaction) :
    sinceAck (log ++ [r]) =
      if acksData r then 0 else sinceAck log + (acceptedBy r).toList.length := by
  simp [sinceAck]

section Accepted

variable {params : NegotiatedParameters} {s s' : ReceiverState} {status : ReceiveStatus}
  {sent : List ℕ}

/-- A reaction that leaves the position alone has accepted nothing. -/
theorem acceptedBy_still (h : s'.lastInSequence = s.lastInSequence) :
    acceptedBy ⟨s, status, s', sent⟩ = none := by
  cases status <;> simp [acceptedBy, h]

/-- The next position is another one. -/
theorem acceptedBy_moved {packet : TftpPacket}
    (h : s'.lastInSequence = u32 (s.lastInSequence + 1)) :
    acceptedBy ⟨s, .gotPacket packet, s', sent⟩ = some packet := by
  have hne : s'.lastInSequence ≠ s.lastInSequence := by
    rw [h, u32]
    omega
  simp [acceptedBy, hne]

end Accepted

/-! ### Histories of the receiver -/

section Histories

variable (params : NegotiatedParameters) (config : EngineConfig)

/-- The receiver before its first packet, which a caller may have received already. -/
def receiverEntry : ReceiverState := (receiverStart params config [] 1 none).1

/-- The histories of `run_data_receiver` with an empty sink and block 1 expected. -/
abbrev ReceiverHistory : List ReceiverReaction → ReceiverState → Prop :=
  (dataReceiver params config).History (receiverEntry params config)

end Histories

/-! ### Framing -/

section Framing

variable {params : NegotiatedParameters} {config : EngineConfig} {log : List ReceiverReaction}
  {s : ReceiverState}

variable (params) in
/-- **The framing of a history**: after a success every accepted block but the last is full and the
last one is short, and no packet longer than a block has reached the sink. -/
structure FramedReception (log : List ReceiverReaction) (s : ReceiverState) : Prop where
  framed : s.outcome.completedSuccessfully = true → ∃ blocks last,
    acceptedOf log = blocks ++ [last] ∧ (∀ packet ∈ blocks, packet.data.length = params.blockSize) ∧
      last.data.length < params.blockSize ∧
      s.outcome.bytesTransferred = blocks.length * params.blockSize + last.data.length
  bounded : ∀ r ∈ log, ∀ packet, r.cause = .gotPacket packet →
    params.blockSize < packet.data.length → r.after.sink = r.before.sink

variable (params) in
/-- No DATA packet that is taken for the next block is longer than a block. -/
def NextBlocksFit (log : List ReceiverReaction) : Prop :=
  ∀ r ∈ log, ∀ packet, r.cause = .gotPacket packet → r.before.phase = .receiving →
    packet.opcode = .data → NextInSequence params r.before packet →
      packet.data.length ≤ params.blockSize

variable (params) in
/-- What a history says of the blocks, whatever their length. -/
structure ReceptionInv (log : List ReceiverReaction) (s : ReceiverState) : Prop where
  sink_eq : s.sink = (acceptedOf log).flatMap (·.data)
  running : s.phase = .receiving → s.outcome.completedSuccessfully = false ∧
    ∀ packet ∈ acceptedOf log, params.blockSize ≤ packet.data.length
  ended : s.gotFinal = true → ∃ blocks last, acceptedOf log = blocks ++ [last] ∧
    (∀ packet ∈ blocks, params.blockSize ≤ packet.data.length) ∧
      last.data.length < params.blockSize
  bytes : s.outcome.completedSuccessfully = true → s.outcome.bytesTransferred = s.sink.length
  /-- A dallying receiver has not reported success yet. -/
  dallying : ∀ n, s.phase = .dallying n → s.outcome.completedSuccessfully = false

/-- **One move keeps the framing invariant.** -/
theorem ReceptionInv.move {status : ReceiveStatus} {r : ReceiverState × List ℕ}
    (h : ReceptionInv params log s) (hmove : ReceiverMove params s status r) :
    ReceptionInv params (log ++ [⟨s, status, r.1, r.2⟩]) r.1 := by
  cases hmove with
  | @wait _ s' sent hphase hdata hposition hsink hsince hcompleted hphase' hsent =>
      obtain ⟨hfalse, hfull⟩ := h.running hphase
      have hnone := @acceptedBy_still s s' status sent hposition
      rw [hfalse] at hcompleted
      have hgot : s'.gotFinal = false := by
        rcases hphase' with hp | hp <;> simp [ReceiverState.gotFinal, hp, hcompleted]
      refine ⟨by simp [hnone, hsink, h.sink_eq],
        fun _ => ⟨hcompleted, by simpa [hnone] using hfull⟩, by simp [hgot], by simp [hcompleted],
        fun _ _ => hcompleted⟩
  | @refuse packet s' hphase hdata hnext hposition hsink hsince hcompleted hphase' =>
      obtain ⟨hfalse, hfull⟩ := h.running hphase
      have hnone := @acceptedBy_still s s' (.gotPacket packet) [s.lastInSequence] hposition
      rw [hfalse] at hcompleted
      have hgot : s'.gotFinal = false := by simp [ReceiverState.gotFinal, hphase', hcompleted]
      refine ⟨by simp [hnone, hsink, h.sink_eq],
        fun _ => ⟨hcompleted, by simpa [hnone] using hfull⟩, by simp [hgot], by simp [hcompleted],
        fun _ _ => hcompleted⟩
  | @accept packet s' sent hphase hdata hnext hposition hsink hcompleted hphase' hsent hsince =>
      obtain ⟨hfalse, hfull⟩ := h.running hphase
      have hsome := @acceptedBy_moved s s' sent packet hposition
      rw [hfalse] at hcompleted
      refine ⟨by simp [hsome, hsink, h.sink_eq], ?_, ?_, by simp [hcompleted],
        fun _ _ => hcompleted⟩
      · intro hrec
        by_cases hshort : packet.data.length < params.blockSize
        · rw [if_pos hshort, hrec] at hphase'
          cases hphase'
        · refine ⟨hcompleted, ?_⟩
          simp only [acceptedOf_append, hsome, Option.toList_some]
          exact List.forall_mem_append.2 ⟨hfull, by simpa using Nat.le_of_not_lt hshort⟩
      · intro hgot
        by_cases hshort : packet.data.length < params.blockSize
        · exact ⟨acceptedOf log, packet, by simp [hsome], hfull, hshort⟩
        · rw [if_neg hshort] at hphase'
          simp [ReceiverState.gotFinal, hphase', hcompleted] at hgot
  | @dally _ s' sent n hphase hposition hsink hphase' hsent =>
      have hnone := @acceptedBy_still s s' status sent hposition
      have hfinal := h.ended (by simp [ReceiverState.gotFinal, hphase])
      have hfalse := h.dallying n hphase
      refine ⟨by simp [hnone, hsink, h.sink_eq], ?_, fun _ => by simpa [hnone] using hfinal, ?_, ?_⟩
      · intro hrec
        rcases hphase' with ⟨m, hm, -⟩ | ⟨hm, -⟩ <;> rw [hrec] at hm <;> cases hm
      · intro htrue
        rcases hphase' with ⟨m, hm, hsame⟩ | ⟨hm, -, hbytes⟩
        · rw [hsame, hfalse] at htrue
          cases htrue
        · exact hbytes
      · intro m hm
        rcases hphase' with ⟨m', -, hsame⟩ | ⟨hm', -⟩
        · rw [hsame, hfalse]
        · rw [hm'] at hm
          cases hm

/-- **The framing invariant holds in every history.** -/
theorem receptionInv (history : ReceiverHistory params config log s)
    (hq : config.quirks.acceptOutOfSequenceData = false) : ReceptionInv params log s := by
  induction history with
  | start => exact ⟨rfl, fun _ => ⟨rfl, by simp [acceptedOf]⟩, by simp [ReceiverState.gotFinal,
      receiverEntry, receiverStart], by simp [receiverEntry, receiverStart], fun _ _ => rfl⟩
  | @receive log s history hrun status ih =>
      have hrunning : s.phase ≠ .returned := by simpa [dataReceiver] using hrun
      exact ih.move (receiverMove_receive hq hrunning status)

/-- Every reaction of a history is one of the moves. -/
theorem receiverMove_of_mem (history : ReceiverHistory params config log s)
    (hq : config.quirks.acceptOutOfSequenceData = false) {r : ReceiverReaction} (hr : r ∈ log) :
    ReceiverMove params r.before r.cause (r.after, r.sent) := by
  obtain ⟨-, -, hrun, hreact⟩ := history.mem hr
  have hrunning : r.before.phase ≠ .returned := by simpa [dataReceiver] using hrun
  rw [hreact]
  exact receiverMove_receive hq hrunning r.cause

/-- An accepted packet was taken for the next block of a receiver in its receive loop. -/
theorem exists_of_mem_acceptedOf (history : ReceiverHistory params config log s)
    (hq : config.quirks.acceptOutOfSequenceData = false) {packet : TftpPacket}
    (h : packet ∈ acceptedOf log) :
    ∃ r ∈ log, r.cause = .gotPacket packet ∧ r.before.phase = .receiving ∧
      packet.opcode = .data ∧ NextInSequence params r.before packet := by
  obtain ⟨r, hr, haccepted⟩ := List.mem_filterMap.1 h
  have hmove := receiverMove_of_mem history hq hr
  refine ⟨r, hr, ?_⟩
  obtain ⟨before, cause, after, sent⟩ := r
  dsimp only at hmove ⊢
  cases hmove with
  | wait hphase hdata hposition =>
      rw [acceptedBy_still hposition] at haccepted
      cases haccepted
  | refuse hphase hdata hnext hposition =>
      rw [acceptedBy_still hposition] at haccepted
      cases haccepted
  | accept hphase hdata hnext hposition =>
      rw [acceptedBy_moved hposition] at haccepted
      cases haccepted
      exact ⟨rfl, hphase, hdata, hnext⟩
  | dally hphase hposition =>
      rw [acceptedBy_still hposition] at haccepted
      cases haccepted

/-- Full blocks have the length of a block each. -/
theorem length_flatMap_full {blocks : List TftpPacket} {b : ℕ}
    (h : ∀ packet ∈ blocks, packet.data.length = b) :
    (blocks.flatMap (·.data)).length = blocks.length * b := by
  induction blocks with
  | nil => simp
  | cons packet blocks ih =>
      rw [List.flatMap_cons, List.length_append, h packet List.mem_cons_self,
        ih fun p hp => h p (List.mem_cons_of_mem _ hp), List.length_cons, Nat.succ_mul,
        Nat.add_comm]

/-- A framed reception has taken no block over the size: one would have reached the sink. -/
theorem FramedReception.nextBlocksFit (history : ReceiverHistory params config log s)
    (hq : config.quirks.acceptOutOfSequenceData = false) (h : FramedReception params log s) :
    NextBlocksFit params log := by
  intro r hr packet hcause hphase hdata hnext
  by_contra hlong
  have hsame := h.bounded r hr packet hcause (Nat.lt_of_not_le hlong)
  have hmove := receiverMove_of_mem history hq hr
  obtain ⟨before, cause, after, sent⟩ := r
  obtain rfl : cause = .gotPacket packet := hcause
  dsimp only at hmove hsame hphase hnext
  cases hmove with
  | wait _ hother => exact hother packet rfl hdata
  | refuse _ _ hnot => exact hnot hnext
  | accept _ _ _ _ hsink =>
      rw [hsame, List.self_eq_append_right] at hsink
      simp [hsink] at hlong
  | dally hdally =>
      rw [hphase] at hdally
      cases hdally

/-- A packet longer than a block leaves the sink as it is, since it is no next block. -/
theorem NextBlocksFit.sink_eq (history : ReceiverHistory params config log s)
    (hq : config.quirks.acceptOutOfSequenceData = false) (hfit : NextBlocksFit params log)
    {r : ReceiverReaction} (hr : r ∈ log) {packet : TftpPacket}
    (hcause : r.cause = .gotPacket packet) (hlong : params.blockSize < packet.data.length) :
    r.after.sink = r.before.sink := by
  have hmove := receiverMove_of_mem history hq hr
  obtain ⟨before, cause, after, sent⟩ := r
  obtain rfl : cause = .gotPacket packet := hcause
  dsimp only at hmove ⊢
  cases hmove with
  | wait _ _ _ hsink => exact hsink
  | refuse _ _ _ _ hsink => exact hsink
  | accept hphase hdata hnext =>
      exact absurd (hfit _ hr packet rfl hphase hdata hnext) (Nat.not_le_of_lt hlong)
  | dally _ _ hsink => exact hsink

/-- The blocks before the last have the size of a block, and the count of the bytes follows. -/
theorem NextBlocksFit.framed (history : ReceiverHistory params config log s)
    (hq : config.quirks.acceptOutOfSequenceData = false) (hfit : NextBlocksFit params log) :
    FramedReception params log s := by
  have hinv := receptionInv history hq
  refine ⟨fun hcompleted => ?_, fun r hr packet => hfit.sink_eq history hq hr⟩
  have hgot : s.gotFinal = true := by
    unfold ReceiverState.gotFinal
    split
    · rfl
    · exact hcompleted
  obtain ⟨blocks, last, haccepted, hfull, hshort⟩ := hinv.ended hgot
  have hexact : ∀ packet ∈ blocks, packet.data.length = params.blockSize := by
    intro packet hpacket
    obtain ⟨r, hr, hcause, hphase, hdata, hnext⟩ :=
      exists_of_mem_acceptedOf history hq (haccepted ▸ List.mem_append_left _ hpacket)
    exact Nat.le_antisymm (hfit r hr packet hcause hphase hdata hnext) (hfull packet hpacket)
  refine ⟨blocks, last, haccepted, hexact, hshort, ?_⟩
  rw [hinv.bytes hcompleted, hinv.sink_eq, haccepted, List.flatMap_append, List.length_append,
    length_flatMap_full hexact, List.flatMap_singleton]

/-- **The framing of the receiver holds exactly when no next block is longer than the block
size**, whatever else the peer sends, in every history; and every run on socket events has one. -/
theorem framed_reception_iff (hquirks : config.quirks = {}) :
    (∀ log s, ReceiverHistory params config log s →
        (FramedReception params log s ↔ NextBlocksFit params log)) ∧
      ∀ peer events, ∃ log, (dataReceiver params config).Tells peer
        (receiverStart params config [] 1 none) events log := by
  refine ⟨fun log s history => ?_, fun peer events => PeerLoop.exists_history _ peer _ events⟩
  have hq : config.quirks.acceptOutOfSequenceData = false := by rw [hquirks]
  exact ⟨fun h => h.nextBlocksFit history hq, fun hfit => hfit.framed history hq⟩

end Framing

/-- A DATA packet as the parser delivers it. -/
def dataPacket (blockNumber : ℕ) (data : Bytes) : TftpPacket :=
  { opcode := .data, blockNumber := blockNumber, data := data }

/-- A full block, a DATA packet of the wrong number that is longer than a block, and a short
block. -/
theorem framed_reception_iff_two_blocks :
    ∃ log s, ReceiverHistory { blockSize := 8 } {} log s ∧ (acceptedOf log).length = 2 ∧
      s.outcome.completedSuccessfully = true ∧ FramedReception { blockSize := 8 } log s := by
  have history : ReceiverHistory { blockSize := 8 } {} _ _ :=
    .receive (.receive (.receive (.receive .start rfl
      (.gotPacket (dataPacket 1 [0, 1, 2, 3, 4, 5, 6, 7]))) rfl
      (.gotPacket (dataPacket 9 (List.replicate 10 7)))) rfl
      (.gotPacket (dataPacket 2 [8]))) rfl .timedOut
  refine ⟨_, _, history, by decide +kernel, by decide +kernel,
    ((framed_reception_iff rfl).1 _ _ history).2 ?_⟩
  intro r hr packet hcause _ _ hnext
  simp only [List.nil_append, List.cons_append, List.mem_cons, List.not_mem_nil, or_false] at hr
  rcases hr with rfl | rfl | rfl | rfl
  · cases hcause
    decide
  · -- the long packet is not the next block
    cases hcause
    exact absurd hnext (by decide +kernel)
  · cases hcause
    decide
  · cases hcause

/-- A first block of nine bytes passes for a full one of eight, and the transfer succeeds. -/
theorem oversized_block_accepted :
    ∃ log s, ReceiverHistory { blockSize := 8 } {} log s ∧
      s.outcome.completedSuccessfully = true ∧ s.outcome.bytesTransferred = 9 ∧
      ¬ FramedReception { blockSize := 8 } log s := by
  refine ⟨_, _, .receive (.receive (.receive .start rfl
    (.gotPacket (dataPacket 1 (List.replicate 9 7)))) rfl (.gotPacket (dataPacket 2 []))) rfl
      .timedOut, by decide +kernel, by decide +kernel, fun h => ?_⟩
  have hsame := h.bounded _ (List.mem_append_left _ (List.mem_append_left _
    (List.mem_append_right _ (List.mem_singleton_self _)))) _ rfl (by decide)
  revert hsame
  decide +kernel

/-! ### Sequencing -/

section Sequencing

variable {params : NegotiatedParameters} {config : EngineConfig} {log : List ReceiverReaction}
  {s : ReceiverState}

/-- What a history says of the numbers, while the position has not wrapped around. -/
structure SequenceInv (log : List ReceiverReaction) (s : ReceiverState) : Prop where
  position : s.lastInSequence = (acceptedOf log).length
  numbers : ∀ k packet, (acceptedOf log)[k]? = some packet →
    packet.blockNumber = wireBlockNumber (k + 1)
  since : s.phase = .receiving → s.blocksSinceAck = sinceAck log

/-- Below the wrap the packet taken for the next block carries its number. -/
theorem nextInSequence_iff {packet : TftpPacket}
    (hbound : s.lastInSequence + receiverWindow params < 4294967296) :
    NextInSequence params s packet ↔
      packet.blockNumber = wireBlockNumber (s.lastInSequence + 1) := by
  have hwin := receiverWindow_pos params
  have hmax : max (receiverWindow params) 1 = receiverWindow params := by omega
  exact resolveDataToAbsolute_eq_succ_iff (by omega)

/-- **One move keeps the sequence.** -/
theorem SequenceInv.move {status : ReceiveStatus} {r : ReceiverState × List ℕ}
    (h : SequenceInv log s) (hbound : s.lastInSequence + receiverWindow params < 4294967296)
    (hwaiting : s.phase = .receiving → s.blocksSinceAck < receiverWindow params)
    (hmove : ReceiverMove params s status r) :
    SequenceInv (log ++ [⟨s, status, r.1, r.2⟩]) r.1 := by
  cases hmove with
  | @wait _ s' sent hphase hdata hposition hsink hsince hcompleted hphase' hsent =>
      have hnone := @acceptedBy_still s s' status sent hposition
      have hacks : acksData ⟨s, status, s', sent⟩ = false := by
        cases status with
        | gotPacket packet => simp [acksData, hdata packet rfl]
        | timedOut => rfl
        | socketError => rfl
      refine ⟨by simpa [hnone, hposition] using h.position, by simpa [hnone] using h.numbers, ?_⟩
      intro _
      rw [sinceAck_append, hacks, hnone, hsince, h.since hphase]
      rfl
  | @refuse packet s' hphase hdata hnext hposition hsink hsince hcompleted hphase' =>
      have hnone := @acceptedBy_still s s' (.gotPacket packet) [s.lastInSequence] hposition
      refine ⟨by simpa [hnone, hposition] using h.position, by simpa [hnone] using h.numbers, ?_⟩
      intro _
      simp [hsince, acksData, hdata]
  | @accept packet s' sent hphase hdata hnext hposition hsink hcompleted hphase' hsent hsince =>
      have hsome := @acceptedBy_moved s s' sent packet hposition
      have hnumber := (nextInSequence_iff hbound).1 hnext
      have hwin := receiverWindow_pos params
      have hcount := hwaiting hphase
      refine ⟨?_, ?_, ?_⟩
      · rw [hposition, u32_of_lt (by omega), h.position]
        simp [hsome]
      · intro k p hk
        simp only [acceptedOf_append, hsome, Option.toList_some] at hk
        rcases Nat.lt_or_ge k (acceptedOf log).length with hlt | hge
        · rw [List.getElem?_append_left hlt] at hk
          exact h.numbers k p hk
        · have hlt := (List.getElem?_eq_some_iff.1 hk).1
          rw [List.length_append, List.length_singleton] at hlt
          obtain rfl : k = (acceptedOf log).length := by omega
          rw [List.getElem?_concat_length] at hk
          rw [← Option.some.inj hk, hnumber, h.position]
      · intro hrec
        rcases hsince hrec with ⟨hacked, hzero⟩ | ⟨hquiet, heq, -⟩
        · simp [hzero, acksData, hdata, hacked]
        · subst hquiet
          rw [heq, u32_of_lt (by omega), h.since hphase]
          simp [acksData, hsome]
  | @dally _ s' sent n hphase hposition hsink hphase' hsent =>
      have hnone := @acceptedBy_still s s' status sent hposition
      refine ⟨by simpa [hnone, hposition] using h.position, by simpa [hnone] using h.numbers, ?_⟩
      intro hrec
      rcases hphase' with ⟨m, hm, -⟩ | ⟨hm, -⟩ <;> rw [hrec] at hm <;> cases hm

/-- A waiting receiver has a window that is not full. -/
theorem blocksSinceAck_lt (history : ReceiverHistory params config log s)
    (hq : config.quirks.acceptOutOfSequenceData = false) (hphase : s.phase = .receiving) :
    s.blocksSinceAck < receiverWindow params := by
  have hwin := receiverWindow_pos params
  induction history with
  | start => exact hwin
  | @receive log s history hrun status ih =>
      have hrunning : s.phase ≠ .returned := by simpa [dataReceiver] using hrun
      have hmove := @receiverMove_receive params config hq s hrunning status
      change (receiverReceive params config s status).1.phase = .receiving at hphase
      change (receiverReceive params config s status).1.blocksSinceAck < receiverWindow params
      generalize receiverReceive params config s status = result at hmove hphase ⊢
      cases hmove with
      | wait hbefore _ _ _ hsince =>
          rw [hsince]
          exact ih hbefore
      | refuse _ _ _ _ _ hsince =>
          rw [hsince]
          exact hwin
      | accept _ _ _ _ _ _ _ _ hsince =>
          rcases hsince hphase with ⟨-, hzero⟩ | ⟨-, -, hlt⟩
          · rw [hzero]
            exact hwin
          · exact hlt
      | dally _ _ _ hphase' =>
          rcases hphase' with ⟨m, hm, -⟩ | ⟨hm, -⟩ <;> rw [hphase] at hm <;> cases hm

/-- **The sequence holds in every history** with fewer blocks than the position can count. -/
theorem sequenceInv (history : ReceiverHistory params config log s)
    (hq : config.quirks.acceptOutOfSequenceData = false)
    (hbound : (acceptedOf log).length + receiverWindow params < 4294967296) :
    SequenceInv log s := by
  induction history with
  | start => exact ⟨rfl, by simp [acceptedOf], fun _ => rfl⟩
  | @receive log s history hrun status ih =>
      have hrunning : s.phase ≠ .returned := by simpa [dataReceiver] using hrun
      rw [acceptedOf_append, List.length_append] at hbound
      have hinv := ih (by omega)
      exact hinv.move (by rw [hinv.position]; omega) (blocksSinceAck_lt history hq)
        (receiverMove_receive hq hrunning status)

/-- An ACK is for the last block in sequence. -/
theorem ReceiverMove.sent_eq {status : ReceiveStatus} {r : ReceiverState × List ℕ}
    (h : ReceiverMove params s status r) : ∀ a ∈ r.2, a = r.1.lastInSequence := by
  cases h with
  | wait _ _ hposition _ _ _ _ hsent =>
      intro a ha
      rw [hposition]
      exact hsent a ha
  | refuse _ _ _ hposition =>
      intro a ha
      rw [hposition]
      exact List.mem_singleton.1 ha
  | accept _ _ _ _ _ _ _ hsent => exact hsent
  | dally _ hposition _ _ hsent =>
      intro a ha
      rw [hposition]
      exact hsent a ha

/-- A DATA packet that is not taken for the next block changes nothing and, before the final block,
is answered with the last ACK. -/
theorem ReceiverMove.other {packet : TftpPacket} {r : ReceiverState × List ℕ}
    (h : ReceiverMove params s (.gotPacket packet) r) (hdata : packet.opcode = .data)
    (hnext : ¬ NextInSequence params s packet) :
    r.1.sink = s.sink ∧ r.1.lastInSequence = s.lastInSequence ∧
      (s.gotFinal = false → r.2 = [s.lastInSequence]) := by
  cases h with
  | wait _ hother => exact absurd hdata (hother packet rfl)
  | refuse _ _ _ hposition hsink => exact ⟨hsink, hposition, fun _ => rfl⟩
  | accept _ _ hyes => exact absurd hyes hnext
  | dally hphase hposition hsink =>
      refine ⟨hsink, hposition, fun hfinal => ?_⟩
      simp [ReceiverState.gotFinal, hphase] at hfinal

/-- The state before a reaction of a history with few accepted blocks. -/
theorem SequenceInv.before (history : ReceiverHistory params config log s)
    (hq : config.quirks.acceptOutOfSequenceData = false)
    (hbound : (acceptedOf log).length + receiverWindow params < 4294967296)
    {before after : List ReceiverReaction} {r : ReceiverReaction}
    (hlog : log = before ++ r :: after) :
    SequenceInv before r.before ∧ SequenceInv (before ++ [r]) r.after ∧
      r.before.lastInSequence + receiverWindow params < 4294967296 := by
  obtain ⟨hbefore, hrun, hr⟩ := history.step hlog
  have hnow : ReceiverHistory params config (before ++ [r]) r.after := by
    rw [hr]
    exact hbefore.receive hrun r.cause
  have hsplit : acceptedOf log =
      acceptedOf before ++ ((acceptedBy r).toList ++ acceptedOf after) := by
    rw [hlog, List.append_cons, acceptedOf, List.filterMap_append, ← List.append_assoc,
      ← acceptedOf_append]
    rfl
  have hlength := congrArg List.length hsplit
  rw [List.length_append, List.length_append] at hlength
  have hinv := sequenceInv hbefore hq (by omega)
  refine ⟨hinv, sequenceInv hnow hq ?_, by rw [hinv.position]; omega⟩
  rw [acceptedOf_append, List.length_append]
  omega

/-- **The sequencing of the receiver.**  Whatever the peer sends: the sink holds the accepted
packets in the order of their arrival, which carry the numbers 1, 2, 3 and so on; every ACK carries
the number of blocks accepted by then; any other DATA packet changes nothing and, until the final
block, is answered with such an ACK; and less than a window has been accepted since data were last
acknowledged.  This holds in every history, and every run on socket events has one. -/
theorem receiver_sequencing (hquirks : config.quirks = {}) (hwindow : 1 ≤ params.windowSize)
    (hwindow' : params.windowSize ≤ 65535) :
    (∀ log s, ReceiverHistory params config log s →
      (acceptedOf log).length < 4294967296 - 65536 →
      s.sink = (acceptedOf log).flatMap (·.data) ∧
        (∀ k packet, (acceptedOf log)[k]? = some packet → packet.blockNumber = (k + 1) % 65536) ∧
        (∀ before r after, log = before ++ r :: after → ∀ a ∈ r.sent,
          ackDatagram a =
            serializeAcknowledgement ((acceptedOf (before ++ [r])).length % 65536)) ∧
        (∀ before r after packet, log = before ++ r :: after → r.cause = .gotPacket packet →
          packet.opcode = .data → packet.blockNumber ≠ ((acceptedOf before).length + 1) % 65536 →
          r.after.sink = r.before.sink ∧ r.after.lastInSequence = r.before.lastInSequence ∧
            (r.before.gotFinal = false → r.sent.map ackDatagram =
              [serializeAcknowledgement ((acceptedOf before).length % 65536)])) ∧
        (s.phase = .receiving → sinceAck log < params.windowSize)) ∧
      ∀ peer events, ∃ log, (dataReceiver params config).Tells peer
        (receiverStart params config [] 1 none) events log := by
  refine ⟨fun log s history hbound => ?_,
    fun peer events => PeerLoop.exists_history _ peer _ events⟩
  have hq : config.quirks.acceptOutOfSequenceData = false := by rw [hquirks]
  have hw : receiverWindow params = params.windowSize := max_eq_left hwindow
  have hcount : (acceptedOf log).length + receiverWindow params < 4294967296 := by omega
  have hinv := sequenceInv history hq hcount
  refine ⟨(receptionInv history hq).sink_eq, hinv.numbers, ?_, ?_, ?_⟩
  · intro before r after hlog a ha
    obtain ⟨-, hnow, -⟩ := SequenceInv.before history hq hcount hlog
    have hmove := receiverMove_of_mem history hq (r := r) (by simp [hlog])
    rw [ackDatagram, hmove.sent_eq a ha, hnow.position]
    rfl
  · intro before r after packet hlog hcause hdata hother
    obtain ⟨hthen, -, hposition⟩ := SequenceInv.before history hq hcount hlog
    have hmove := receiverMove_of_mem history hq (r := r) (by simp [hlog])
    rw [hcause] at hmove
    have hnext : ¬ NextInSequence params r.before packet := by
      rw [nextInSequence_iff hposition, hthen.position]
      exact hother
    obtain ⟨hsink, hsame, hsent⟩ := hmove.other hdata hnext
    refine ⟨hsink, hsame, fun hfinal => ?_⟩
    have hone : r.sent = [r.before.lastInSequence] := hsent hfinal
    rw [hone, List.map_singleton, ackDatagram, hthen.position]
    rfl
  · intro hphase
    rw [← hinv.since hphase, ← hw]
    exact blocksSinceAck_lt history hq hphase

end Sequencing

/-- In a window of two the first block is not acknowledged, and the third block is refused. -/
theorem receiver_sequencing_gap :
    ∃ log s, ReceiverHistory { blockSize := 1, windowSize := 2 } {} log s ∧
      (acceptedOf log).length = 1 ∧ s.phase = .receiving ∧ sinceAck log < 2 := by
  have history : ReceiverHistory { blockSize := 1, windowSize := 2 } {} _ _ :=
    .receive (.receive .start rfl (.gotPacket (dataPacket 1 [7]))) rfl
      (.gotPacket (dataPacket 3 [7]))
  exact ⟨_, _, history, by decide +kernel, by decide +kernel,
    ((receiver_sequencing rfl (by decide) (by decide)).1 _ _ history (by decide +kernel)).2.2.2.2
      (by decide +kernel)⟩

end TftpHarness
