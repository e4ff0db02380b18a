/-
**The sender data plane: `run_data_sender`.**

The sender keeps a window of blocks in flight.  It sends new blocks when an ACK moves the window,
rolls back to the last acknowledged block on a timeout, and otherwise waits.  Between two receives
it is a function of its state: the loop test, the sends its action asks for, and the next receive.
What it sends is recorded as absolute block indices; `TftpHarness.dataDatagram` turns an index into
the datagram.

Main definitions:

* `TftpHarness.Action`, `TftpHarness.SenderState` — the local variables of the loop;
* `TftpHarness.senderLoop`, `TftpHarness.senderReceive`, `TftpHarness.senderStart` — from the loop
  test to the next receive, from a receive to the next one, and the entry of the function;
* `TftpHarness.dataSender` — the sender as a loop around the locked receive;
* `TftpHarness.SenderInv` — the window invariant.

Main results:

* `TftpHarness.senderReceive_cases` — **everything one receive can do to a correct sender**;
* `TftpHarness.senderInv_start`, `TftpHarness.senderInv_receive` — the window invariant holds from
  the first send on.
-/

import TftpHarness.Engine
import TftpHarness.Socket

set_option relaxedAutoImplicit false
set_option autoImplicit false

namespace TftpHarness

/-- What the sender does before its next receive. -/
inductive Action
  | sendNew
  | rollback
  | waitOnly
  deriving DecidableEq, Repr

/-- The local variables of `run_data_sender`; `returned` holds once it has returned `outcome`. -/
structure SenderState where
  lastAcked : ℕ := 0
  highestSent : ℕ := 0
  consecutiveTimeouts : ℤ := 0
  action : Action := .sendNew
  outcome : TransferOutcome := {}
  returned : Bool := false
  deriving DecidableEq, Repr

section Loop

variable (payload : Bytes) (params : NegotiatedParameters) (config : EngineConfig)

/-- The window in force, at least one block. -/
def senderWindow (params : NegotiatedParameters) : ℕ := max params.windowSize 1

/-- The number of blocks the sender means to send.  A quirk leaves out the terminating empty block.
-/
def senderTotalBlocks : ℕ :=
  let totalBlocks := totalBlockCount payload.length params.blockSize
  if config.quirks.omitTerminatingEmptyBlock ∧ payload ≠ [] ∧
      payload.length % params.blockSize = 0 then
    u32 (totalBlocks + 4294967295)
  else totalBlocks

/-- The DATA packet for an absolute block index. -/
def dataDatagram (index : ℕ) : Bytes :=
  serializeData (wireBlockNumber index) (blockPayload payload index params.blockSize)

/-- The loop test and what the action sends, up to the next receive. -/
def senderLoop (s : SenderState) : SenderState × List ℕ :=
  if s.lastAcked < senderTotalBlocks payload params config then
    match s.action with
    | .sendNew =>
        let windowEdge := min (u32 (s.lastAcked + senderWindow params))
          (senderTotalBlocks payload params config)
        let sent := indexRange (u32 (s.highestSent + 1)) windowEdge
        ({ s with
            highestSent := max s.highestSent windowEdge
            outcome := { s.outcome with
              dataPacketsSent := u32 (s.outcome.dataPacketsSent + sent.length) } }, sent)
    | .rollback =>
        let sent := indexRange (u32 (s.lastAcked + 1)) s.highestSent
        ({ s with
            outcome := { s.outcome with
              retransmissions := u32 (s.outcome.retransmissions + sent.length) } }, sent)
    | .waitOnly => (s, [])
  else
    ({ s with
        outcome := { s.outcome with
          completedSuccessfully := true
          bytesTransferred := payload.length }
        returned := true }, [])

/-- From the result of a receive to the next receive. -/
def senderReceive (s : SenderState) : ReceiveStatus → SenderState × List ℕ
  | .socketError =>
      ({ s with
          outcome := { s.outcome with errorMessage := text "socket error while sending" }
          returned := true }, [])
  | .timedOut =>
      if config.maximumRetransmissions < s.consecutiveTimeouts + 1 then
        ({ s with
            consecutiveTimeouts := s.consecutiveTimeouts + 1
            outcome := { s.outcome with
              timedOut := true
              errorMessage := text "gave up after maximum retransmissions (sender)" }
            returned := true }, [])
      else
        senderLoop payload params config
          { s with consecutiveTimeouts := s.consecutiveTimeouts + 1, action := .rollback }
  | .gotPacket packet =>
      if packet.opcode = .error then
        ({ s with
            outcome := { s.outcome with
              errorCode := some packet.errorCode
              errorMessage := packet.errorMessage }
            returned := true }, [])
      else if packet.opcode ≠ .acknowledgement then
        senderLoop payload params config { s with action := .waitOnly }
      else
        let acked := resolveAckToAbsolute packet.blockNumber s.lastAcked s.highestSent
        if s.lastAcked < acked then
          senderLoop payload params config
            { s with lastAcked := acked, consecutiveTimeouts := 0, action := .sendNew }
        else
          -- a correct sender ignores a duplicate or stale ACK
          senderLoop payload params config
            { s with
              action := if config.quirks.retransmitOnDuplicateAck then .rollback else .waitOnly }

/-- The function from its entry to its first receive. -/
def senderStart (startingDataPacketsSent : ℕ) : SenderState × List ℕ :=
  senderLoop payload params config
    { outcome := { negotiated := params, dataPacketsSent := startingDataPacketsSent } }

/-- `run_data_sender` as a loop around the locked receive. -/
def dataSender : PeerLoop SenderState ℕ where
  receive := senderReceive payload params config
  returned := SenderState.returned
  encode := dataDatagram payload params

end Loop

theorem dataDatagram_ne_nil (payload : Bytes) (params : NegotiatedParameters) (i : ℕ) :
    dataDatagram payload params i ≠ [] :=
  serializeData_ne_nil _ _

/-- A DATA datagram shows the low 16 bits of its block. -/
theorem parse_dataDatagram (payload : Bytes) (params : NegotiatedParameters) (i : ℕ) :
    parseDatagram (dataDatagram payload params i) =
      .ok { opcode := .data, blockNumber := wireBlockNumber i,
            data := blockPayload payload i params.blockSize } :=
  parse_serializeData _ (wireBlockNumber_lt i)

/-! ### The window invariant -/

section Window

variable {payload : Bytes} {params : NegotiatedParameters} {config : EngineConfig}

theorem senderWindow_pos (params : NegotiatedParameters) : 0 < senderWindow params :=
  lt_of_lt_of_le Nat.zero_lt_one (le_max_right _ _)

/-- Without the quirk every block of the payload is sent. -/
theorem senderTotalBlocks_eq (hq : config.quirks.omitTerminatingEmptyBlock = false)
    (h : payload.length / params.blockSize + 1 < 4294967296) :
    senderTotalBlocks payload params config = payload.length / params.blockSize + 1 := by
  rw [senderTotalBlocks, hq, totalBlockCount_eq h]
  simp

variable (payload params config) in
/-- The window invariant of a sender between two receives. -/
structure SenderInv (s : SenderState) : Prop where
  acked_le : s.lastAcked ≤ s.highestSent
  sent_le : s.highestSent ≤
    min (s.lastAcked + senderWindow params) (senderTotalBlocks payload params config)
  /-- A sender that waits has blocks left and a full window in flight. -/
  waiting : s.returned = false → s.lastAcked < senderTotalBlocks payload params config ∧
    s.highestSent = min (s.lastAcked + senderWindow params)
      (senderTotalBlocks payload params config) ∧ s.outcome.completedSuccessfully = false
  completed : s.outcome.completedSuccessfully = true →
    s.lastAcked = senderTotalBlocks payload params config

variable (payload params config) in
/-- The state and sends of a sender that has just been told of the acknowledged block `acked`: the
new blocks of the window go out, or everything is acknowledged and the sender returns. -/
structure Advanced (s : SenderState) (acked : ℕ) (r : SenderState × List ℕ) : Prop where
  lastAcked : r.1.lastAcked = acked
  highestSent : r.1.highestSent =
    min (acked + senderWindow params) (senderTotalBlocks payload params config)
  sent : r.2 = indexRange (s.highestSent + 1) r.1.highestSent
  consecutiveTimeouts : r.1.consecutiveTimeouts = 0
  returned : r.1.returned = true ↔ acked = senderTotalBlocks payload params config
  completed : r.1.outcome.completedSuccessfully = r.1.returned

/-- A sender with blocks left goes on. -/
theorem Advanced.running {s : SenderState} {acked : ℕ} {r : SenderState × List ℕ}
    (h : Advanced payload params config s acked r)
    (hlt : acked < senderTotalBlocks payload params config) : r.1.returned = false := by
  cases hret : r.1.returned with
  | true => exact absurd (h.returned.1 hret) (by omega)
  | false => rfl

/-- The loop after an ACK that acknowledges a block in flight. -/
theorem advanced_senderLoop {s : SenderState} {acked : ℕ}
    (hbound : senderTotalBlocks payload params config + senderWindow params < 4294967296)
    (hacked : acked ≤ s.highestSent)
    (hle : s.highestSent ≤ min (acked + senderWindow params)
      (senderTotalBlocks payload params config))
    (hrun : s.returned = false) (hcomp : s.outcome.completedSuccessfully = false) :
    Advanced payload params config s acked (senderLoop payload params config
      { s with lastAcked := acked, consecutiveTimeouts := 0, action := .sendNew }) := by
  have hedge : u32 (acked + senderWindow params) = acked + senderWindow params :=
    u32_of_lt (by omega)
  have hnext : u32 (s.highestSent + 1) = s.highestSent + 1 :=
    u32_of_lt (by have := senderWindow_pos params; omega)
  rcases Nat.lt_or_ge acked (senderTotalBlocks payload params config) with hlt | hge
  · have hmax : max s.highestSent (min (acked + senderWindow params)
        (senderTotalBlocks payload params config)) = min (acked + senderWindow params)
          (senderTotalBlocks payload params config) := by omega
    have hne : acked ≠ senderTotalBlocks payload params config := by omega
    simp only [senderLoop, hlt, if_true, hedge, hnext, hmax]
    exact ⟨rfl, rfl, rfl, rfl, by simp [hrun, hne], by simp [hrun, hcomp]⟩
  · have heq : acked = senderTotalBlocks payload params config := by omega
    have hnot : ¬ acked < senderTotalBlocks payload params config := by omega
    simp only [senderLoop, hnot, if_false]
    refine ⟨rfl, ?_, ?_, rfl, by simp [heq], rfl⟩
    · simp only
      omega
    · rw [indexRange_eq_nil (by simp)]

/-- A timeout within the retry budget resends the window in flight. -/
theorem senderReceive_timedOut {s : SenderState} (hinv : SenderInv payload params config s)
    (hbound : senderTotalBlocks payload params config + senderWindow params < 4294967296)
    (hrun : s.returned = false) (hbudget : s.consecutiveTimeouts < config.maximumRetransmissions) :
    (senderReceive payload params config s .timedOut).2 =
        indexRange (s.lastAcked + 1) s.highestSent ∧
      (senderReceive payload params config s .timedOut).1 = { s with
        consecutiveTimeouts := s.consecutiveTimeouts + 1
        action := .rollback
        outcome := { s.outcome with
          retransmissions := u32 (s.outcome.retransmissions +
            (indexRange (s.lastAcked + 1) s.highestSent).length) } } := by
  obtain ⟨hlt, -, -⟩ := hinv.waiting hrun
  have hnext : u32 (s.lastAcked + 1) = s.lastAcked + 1 :=
    u32_of_lt (by have := senderWindow_pos params; omega)
  have hle : ¬ config.maximumRetransmissions < s.consecutiveTimeouts + 1 := by omega
  simp only [senderReceive, hle, if_false, senderLoop, hlt, if_true, hnext, and_self]

/-- An ACK moves the window, or a correct sender keeps waiting. -/
theorem senderReceive_ack {s : SenderState} {packet : TftpPacket}
    (hinv : SenderInv payload params config s)
    (hbound : senderTotalBlocks payload params config + senderWindow params < 4294967296)
    (hq : config.quirks.retransmitOnDuplicateAck = false) (hrun : s.returned = false)
    (hack : packet.opcode = .acknowledgement) :
    (resolveAckToAbsolute packet.blockNumber s.lastAcked s.highestSent = s.lastAcked ∧
      senderReceive payload params config s (.gotPacket packet) =
        ({ s with action := .waitOnly }, [])) ∨
    (s.lastAcked < resolveAckToAbsolute packet.blockNumber s.lastAcked s.highestSent ∧
      resolveAckToAbsolute packet.blockNumber s.lastAcked s.highestSent ≤ s.highestSent ∧
      Advanced payload params config s
        (resolveAckToAbsolute packet.blockNumber s.lastAcked s.highestSent)
        (senderReceive payload params config s (.gotPacket packet))) := by
  obtain ⟨hlt, -, hcomp⟩ := hinv.waiting hrun
  have hsent := hinv.sent_le
  rcases resolveAckToAbsolute_spec packet.blockNumber s.lastAcked s.highestSent with h | ⟨h, hle, -⟩
  · left
    refine ⟨h, ?_⟩
    simp [senderReceive, hack, h, senderLoop, hlt, hq]
  · right
    refine ⟨h, hle, ?_⟩
    have hadv := advanced_senderLoop hbound hle (by omega) hrun hcomp
    simpa [senderReceive, hack, h] using hadv

/-- **Everything one receive can do to a correct sender**: it gives up, it waits on, sending nothing
or the window in flight, or an ACK moves the window. -/
theorem senderReceive_cases {s : SenderState} (hinv : SenderInv payload params config s)
    (hbound : senderTotalBlocks payload params config + senderWindow params < 4294967296)
    (hq : config.quirks.retransmitOnDuplicateAck = false) (hrun : s.returned = false)
    {status : ReceiveStatus} {r : SenderState × List ℕ}
    (hr : r = senderReceive payload params config s status) :
    (r.1.lastAcked = s.lastAcked ∧ r.1.highestSent = s.highestSent ∧
      r.1.outcome.completedSuccessfully = false ∧
      (r.2 = [] ∨ r.1.returned = false ∧ r.2 = indexRange (s.lastAcked + 1) s.highestSent)) ∨
    (∃ packet, status = .gotPacket packet ∧ packet.opcode = .acknowledgement ∧
      s.lastAcked < resolveAckToAbsolute packet.blockNumber s.lastAcked s.highestSent ∧
      resolveAckToAbsolute packet.blockNumber s.lastAcked s.highestSent ≤ s.highestSent ∧
      Advanced payload params config s
        (resolveAckToAbsolute packet.blockNumber s.lastAcked s.highestSent) r) := by
  obtain ⟨hlt, -, hcomp⟩ := hinv.waiting hrun
  subst hr
  cases status with
  | socketError => exact Or.inl ⟨rfl, rfl, hcomp, Or.inl rfl⟩
  | timedOut =>
      by_cases hbudget : s.consecutiveTimeouts < config.maximumRetransmissions
      · obtain ⟨hout, hstate⟩ := senderReceive_timedOut hinv hbound hrun hbudget
        rw [hout, hstate]
        exact Or.inl ⟨rfl, rfl, hcomp, Or.inr ⟨hrun, rfl⟩⟩
      · have hgive : config.maximumRetransmissions < s.consecutiveTimeouts + 1 := by omega
        simp [senderReceive, hgive, hcomp]
  | gotPacket packet =>
      by_cases herr : packet.opcode = .error
      · simp [senderReceive, herr, hcomp]
      by_cases hack : packet.opcode = .acknowledgement
      · rcases senderReceive_ack hinv hbound hq hrun hack with ⟨-, h⟩ | ⟨h, hle, hadv⟩
        · rw [h]
          exact Or.inl ⟨rfl, rfl, hcomp, Or.inl rfl⟩
        · exact Or.inr ⟨packet, rfl, hack, h, hle, hadv⟩
      · simp [senderReceive, herr, hack, senderLoop, hlt, hcomp]

/-- The state after a move of the window satisfies the window invariant. -/
theorem Advanced.senderInv {s : SenderState} {acked : ℕ} {r : SenderState × List ℕ}
    (h : Advanced payload params config s acked r)
    (hle : acked ≤ senderTotalBlocks payload params config) :
    SenderInv payload params config r.1 := by
  have hacked := h.lastAcked
  have hsent := h.highestSent
  refine ⟨by omega, by omega, ?_, ?_⟩
  · intro hrun
    have hne : acked ≠ senderTotalBlocks payload params config := by
      intro heq
      rw [h.returned.2 heq] at hrun
      exact Bool.noConfusion hrun
    exact ⟨by omega, by rw [hsent, hacked], by rw [h.completed, hrun]⟩
  · intro hcomp
    rw [h.completed] at hcomp
    rw [hacked, h.returned.1 hcomp]

/-- The first window goes out at once. -/
theorem advanced_senderStart (startingDataPacketsSent : ℕ)
    (hbound : senderTotalBlocks payload params config + senderWindow params < 4294967296) :
    Advanced payload params config { outcome := { negotiated := params } } 0
      (senderStart payload params config startingDataPacketsSent) := by
  have h : Advanced payload params config
      { outcome := { negotiated := params, dataPacketsSent := startingDataPacketsSent } } 0
      (senderStart payload params config startingDataPacketsSent) :=
    advanced_senderLoop hbound (Nat.zero_le _) (Nat.zero_le _) rfl rfl
  exact ⟨h.lastAcked, h.highestSent, h.sent, h.consecutiveTimeouts, h.returned, h.completed⟩

/-- **The window invariant holds at the first receive.** -/
theorem senderInv_start (startingDataPacketsSent : ℕ)
    (hbound : senderTotalBlocks payload params config + senderWindow params < 4294967296) :
    SenderInv payload params config
      (senderStart payload params config startingDataPacketsSent).1 :=
  (advanced_senderStart startingDataPacketsSent hbound).senderInv (Nat.zero_le _)

/-- **A receive preserves the window invariant.** -/
theorem senderInv_receive {s : SenderState} (hinv : SenderInv payload params config s)
    (hbound : senderTotalBlocks payload params config + senderWindow params < 4294967296)
    (hq : config.quirks.retransmitOnDuplicateAck = false) (hrun : s.returned = false)
    (status : ReceiveStatus) :
    SenderInv payload params config (senderReceive payload params config s status).1 := by
  obtain ⟨hlt, hfull, -⟩ := hinv.waiting hrun
  have hle := hinv.acked_le
  rcases senderReceive_cases hinv hbound hq hrun rfl with
    ⟨ha, hs, hc, -⟩ | ⟨packet, -, -, -, hr, hadv⟩
  · refine ⟨by omega, by omega, fun _ => ⟨by omega, by omega, hc⟩, ?_⟩
    intro hcomp
    rw [hc] at hcomp
    exact Bool.noConfusion hcomp
  · exact hadv.senderInv (by omega)

end Window

end TftpHarness
