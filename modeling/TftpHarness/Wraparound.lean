/-
**Block numbers that wrap around, over links that keep the order.**

When a payload has more than 65535 blocks, several of them share each wire number, and a stale
datagram could be taken for a block or an ACK it was never sent for.  Over a link that delivers in
order this cannot happen, however often the numbers wrap: whatever is still in transit was sent
within one window of whatever was sent before it, and a window has at most 65535 blocks.

Main definitions:

* `TftpHarness.Ordered` — what the order of sending says about the datagrams in transit;
* `TftpHarness.ReachesBlock` — a run in order to a block of the payload.

Main results:

* `TftpHarness.ordered_run` — the order invariant holds along every run that delivers in order;
* `TftpHarness.Flowing.reachesBlock` — delivery in order reaches every block, however many there
  are;
* `TftpHarness.wraparound_harmless` — **every block and every ACK is taken for what it was sent
  for, at any number of blocks**.
-/

import TftpHarness.Flow

set_option relaxedAutoImplicit false
set_option autoImplicit false

namespace TftpHarness

variable {payload : Bytes} {sp rp : NegotiatedParameters} {sc rc : EngineConfig}

variable (payload sp rp sc) in
/-- The joint invariant of two ends whose links keep the order.  A block may be stale, but never by
a window or more; ACKs only rise. -/
structure Ordered
    (st : Duplex.State SenderState ReceiverState PeerLoop.Tagged PeerLoop.Tagged) : Prop where
  inv : DataPlaneInv payload sp rp sc st
  data_recent : ∀ m ∈ st.toRight, st.right.lastInSequence < m.absolute + senderWindow sp
  data_order : st.toRight.Pairwise fun m m' => m.absolute < m'.absolute + senderWindow sp
  acks_recent : ∀ m ∈ st.toLeft, st.left.lastAcked ≤ m.absolute
  acks_order : st.toLeft.Pairwise fun m m' => m.absolute ≤ m'.absolute

/-- **A DATA packet that passes for the next block is the next block.** -/
theorem Ordered.next {st : Duplex.State SenderState ReceiverState PeerLoop.Tagged PeerLoop.Tagged}
    (h : Ordered payload sp rp sc st) (hw : sp.windowSize ≤ 65535) {m : PeerLoop.Tagged}
    (hm : m ∈ st.toRight)
    (hnext : wireBlockNumber m.absolute = wireBlockNumber (st.right.lastInSequence + 1)) :
    m.absolute = st.right.lastInSequence + 1 := by
  have hsent := (h.inv.data m hm).2.1
  have hrecent := h.data_recent m hm
  have hwindow := h.inv.safe.sender.sent_le
  have hacked := h.inv.safe.acked_le
  have hwin : senderWindow sp ≤ 65535 := max_le hw (by decide)
  exact eq_of_u16_eq hnext (by omega) (by omega)

/-- **An ACK resolves to the block the receiver meant.** -/
theorem Ordered.resolved
    {st : Duplex.State SenderState ReceiverState PeerLoop.Tagged PeerLoop.Tagged}
    (h : Ordered payload sp rp sc st) (hw : sp.windowSize ≤ 65535) {m : PeerLoop.Tagged}
    (hm : m ∈ st.toLeft) :
    resolveAckToAbsolute (wireBlockNumber m.absolute) st.left.lastAcked st.left.highestSent =
      m.absolute := by
  have hrecent := h.acks_recent m hm
  have hheld := (h.inv.acks m hm).1
  have hlis := h.inv.safe.received_le
  have hsent := h.inv.safe.sender.sent_le
  have hwin : senderWindow sp ≤ 65535 := max_le hw (by decide)
  rw [resolveAckToAbsolute_exact (by omega) (by omega)]
  split
  · rfl
  · omega

section Run

variable (hf : Framed payload sp rp) (hsq : sc.quirks.omitTerminatingEmptyBlock = false)

include hf hsq

/-- The order invariant after a reaction of the receiver to `m`, the oldest DATA in transit, or to
nothing.  The receiver may have moved to `m`. -/
theorem ordered_receiver (hrq : rc.quirks.acceptOutOfSequenceData = false)
    {st : Duplex.State SenderState ReceiverState PeerLoop.Tagged PeerLoop.Tagged}
    (h : Ordered payload sp rp sc st) {status : ReceiveStatus}
    (hdata : ∀ packet, status = .gotPacket packet → packet.opcode = .data →
      packet.blockNumber = wireBlockNumber (st.right.lastInSequence + 1) →
      st.right.lastInSequence + 1 ≤ st.left.highestSent ∧
        packet.data = blockPayload payload (st.right.lastInSequence + 1) sp.blockSize)
    {toRight : List PeerLoop.Tagged} (hsub : toRight.Sublist st.toRight)
    (hmoved : (receiverReceive rp rc st.right status).1.lastInSequence ≠
        st.right.lastInSequence →
      ∀ m ∈ toRight, (receiverReceive rp rc st.right status).1.lastInSequence <
        m.absolute + senderWindow sp) :
    Ordered payload sp rp sc
      { st with
        right := (receiverReceive rp rc st.right status).1
        toRight := toRight
        toLeft := st.toLeft ++
          (dataReceiver rp rc).tagged (receiverReceive rp rc st.right status).2 } := by
  obtain ⟨-, hmono, houts⟩ := h.inv.safe.receiver hf hsq hrq hdata
  have hacked := h.inv.safe.acked_le
  have hnew : ∀ m ∈ (dataReceiver rp rc).tagged (receiverReceive rp rc st.right status).2,
      m.absolute = (receiverReceive rp rc st.right status).1.lastInSequence :=
    fun m hm => houts _ (PeerLoop.mem_tagged.1 hm).1
  refine ⟨dataPlaneInv_receiver hf hsq hrq h.inv hdata fun _ hm => hsub.subset hm, ?_,
    h.data_order.sublist hsub, ?_, ?_⟩
  · intro m hm
    by_cases heq : (receiverReceive rp rc st.right status).1.lastInSequence =
        st.right.lastInSequence
    · rw [heq]
      exact h.data_recent m (hsub.subset hm)
    · exact hmoved heq m hm
  · intro m hm
    rcases List.mem_append.1 hm with hm | hm
    · exact h.acks_recent m hm
    · rw [hnew m hm]
      exact le_trans hacked hmono
  · refine List.pairwise_append.2 ⟨h.acks_order, ?_, ?_⟩
    · refine List.pairwise_of_forall_mem_list fun m hm m' hm' => ?_
      rw [hnew m hm, hnew m' hm']
    · intro m hm m' hm'
      rw [hnew m' hm']
      exact le_trans (h.inv.acks m hm).1 hmono

/-- The order invariant after a reaction of the sender. -/
theorem ordered_sender (hdup : sc.quirks.retransmitOnDuplicateAck = false)
    {st : Duplex.State SenderState ReceiverState PeerLoop.Tagged PeerLoop.Tagged}
    (h : Ordered payload sp rp sc st) (hrun : st.left.returned = false) {status : ReceiveStatus}
    (hack : ∀ packet, status = .gotPacket packet → packet.opcode = .acknowledgement →
      resolveAckToAbsolute packet.blockNumber st.left.lastAcked st.left.highestSent ≤
        st.right.lastInSequence)
    {toLeft : List PeerLoop.Tagged} (hsub : toLeft.Sublist st.toLeft)
    (hrecent : ∀ m ∈ toLeft,
      (senderReceive payload sp sc st.left status).1.lastAcked ≤ m.absolute) :
    Ordered payload sp rp sc
      { st with
        left := (senderReceive payload sp sc st.left status).1
        toLeft := toLeft
        toRight := st.toRight ++
          (dataSender payload sp sc).tagged (senderReceive payload sp sc st.left status).2 } := by
  obtain ⟨-, hla, -, hrise, hsent⟩ := h.inv.safe.sender_receive hf hsq hdup hrun hack
  have hwindow := h.inv.safe.sender.sent_le
  have hlis := h.inv.safe.received_le
  have hpos := senderWindow_pos sp
  -- every new block lies beyond the last ACK, and every older one at most a window beyond it
  have hnew : ∀ m ∈ (dataSender payload sp sc).tagged
      (senderReceive payload sp sc st.left status).2, st.left.lastAcked < m.absolute := by
    intro m hm
    have := (hsent _ (PeerLoop.mem_tagged.1 hm).1).1
    omega
  refine ⟨dataPlaneInv_sender hf hsq hdup h.inv hrun hack fun _ hm => hsub.subset hm, ?_, ?_,
    hrecent,
    h.acks_order.sublist hsub⟩
  · intro m hm
    rcases List.mem_append.1 hm with hm | hm
    · exact h.data_recent m hm
    · have := hnew m hm
      simp only
      omega
  · refine List.pairwise_append.2 ⟨h.data_order, ?_, ?_⟩
    · refine List.Pairwise.map _ ?_ hrise
      intro i j hij
      simp only
      omega
    · intro m hm m' hm'
      have := (h.inv.data m hm).2.1
      have := hnew m' hm'
      omega

variable (hdup : sc.quirks.retransmitOnDuplicateAck = false)
  (hrq : rc.quirks.acceptOutOfSequenceData = false) (hw : sp.windowSize ≤ 65535)

include hdup hrq hw

/-- **One event preserves the order invariant** when the links deliver in order. -/
theorem ordered_step {senderPeer receiverPeer : Endpoint}
    {st : Duplex.State SenderState ReceiverState PeerLoop.Tagged PeerLoop.Tagged}
    {l : Duplex.Label}
    {st' : Duplex.State SenderState ReceiverState PeerLoop.Tagged PeerLoop.Tagged}
    (hl : l.InOrder) (h : Ordered payload sp rp sc st)
    (hstep : Duplex.step ((dataSender payload sp sc).party senderPeer)
      ((dataReceiver rp rc).party receiverPeer) st l = some st') :
    Ordered payload sp rp sc st' := by
  have hpos := senderWindow_pos sp
  rcases Duplex.step_cases hstep with
    ⟨i, m, rfl, hm, rfl⟩ | ⟨i, m, rfl, hm, rfl⟩ | ⟨q, q', hq, hq', rfl⟩ | ⟨-, rfl⟩ | ⟨-, rfl⟩
  · -- the oldest block in transit arrives
    cases hl
    obtain ⟨rest, hrest⟩ := Duplex.exists_cons_of_getElem?_zero hm
    have hmem : m ∈ st.toRight := List.mem_of_getElem? hm
    rw [dataReceiver_receive (h.inv.data m hmem).2.2]
    refine ordered_receiver hf hsq hrq h ?_ (List.eraseIdx_sublist _ _) ?_
    · intro packet hp _ hnext
      cases hp
      have heq := h.next hw hmem hnext
      rw [← heq]
      exact ⟨(h.inv.data m hmem).2.1, rfl⟩
    · -- a receiver that moves stands at `m`, the message before all that remain
      intro hmoved m' hm'
      obtain ⟨packet, hp, -, hnext, hlis⟩ := receiverReceive_moved hrq
        (h.inv.safe.receiver_bound hf hsq) (fun hp => (h.inv.safe.receiving hp).2.1) hmoved
      cases hp
      have horder := h.data_order
      rw [hrest, List.pairwise_cons] at horder
      rw [hrest, List.eraseIdx_cons_zero] at hm'
      rw [hlis, ← h.next hw hmem hnext]
      exact horder.1 m' hm'
  · -- the oldest ACK in transit arrives
    cases hl
    obtain ⟨rest, hrest⟩ := Duplex.exists_cons_of_getElem?_zero hm
    have hmem : m ∈ st.toLeft := List.mem_of_getElem? hm
    have horder := h.acks_order
    rw [hrest, List.pairwise_cons] at horder
    cases hret : st.left.returned with
    | true =>
        rw [PeerLoop.party_receive_returned hret, List.append_nil]
        exact ⟨⟨h.inv.safe, h.inv.data, fun m hm => h.inv.acks m (List.mem_of_mem_eraseIdx hm)⟩,
          h.data_recent, h.data_order, fun m hm => h.acks_recent m (List.mem_of_mem_eraseIdx hm),
          h.acks_order.sublist (List.eraseIdx_sublist _ _)⟩
    | false =>
        have hresolved := h.resolved hw hmem
        rw [dataSender_receive hret (h.inv.acks m hmem).2]
        refine ordered_sender hf hsq hdup h hret ?_ (List.eraseIdx_sublist _ _) ?_
        · intro packet hp _
          cases hp
          rw [hresolved]
          exact (h.inv.acks m hmem).1
        · intro m' hm'
          rw [hrest, List.eraseIdx_cons_zero] at hm'
          rcases @senderReceive_ack payload sp sc st.left
            { opcode := .acknowledgement, blockNumber := wireBlockNumber m.absolute }
            h.inv.safe.sender (hf.sender_bound hsq) hdup hret rfl with ⟨-, heq⟩ | ⟨-, -, hadv⟩
          · rw [heq]
            exact h.acks_recent m' (by rw [hrest]; exact List.mem_cons_of_mem _ hm')
          · rw [hadv.lastAcked, hresolved]
            exact horder.1 m' hm'
  · -- something is lost or repeated, and the order stays
    exact ⟨⟨h.inv.safe, fun m hm => h.inv.data m (hq.mem hm),
        fun m hm => h.inv.acks m (hq'.mem hm)⟩,
      fun m hm => h.data_recent m (hq.mem hm),
      hq.pairwise h.data_order fun m _ => by omega,
      fun m hm => h.acks_recent m (hq'.mem hm),
      hq'.pairwise h.acks_order fun m _ => le_refl _⟩
  · -- the receiver times out, and does not move
    rw [dataReceiver_timeout]
    refine ordered_receiver hf hsq hrq h (fun _ hp => ReceiveStatus.noConfusion hp)
      (List.Sublist.refl _) fun hmoved => ?_
    obtain ⟨packet, hp, -⟩ := receiverReceive_moved hrq
      (h.inv.safe.receiver_bound hf hsq) (fun hp => (h.inv.safe.receiving hp).2.1) hmoved
    exact ReceiveStatus.noConfusion hp
  · -- the sender times out, and sends the window again
    cases hret : st.left.returned with
    | true =>
        rw [PeerLoop.party_timeout_returned hret, List.append_nil]
        exact h
    | false =>
        rw [PeerLoop.party_timeout hret]
        refine ordered_sender hf hsq hdup h hret (fun _ hp => ReceiveStatus.noConfusion hp)
          (List.Sublist.refl _) ?_
        rcases senderReceive_cases h.inv.safe.sender (hf.sender_bound hsq) hdup hret rfl with
          ⟨ha, -⟩ | ⟨packet, hp, -⟩
        · rw [ha]
          exact h.acks_recent
        · exact ReceiveStatus.noConfusion hp

/-- **The order invariant holds in every state reached over links that deliver in order.** -/
theorem ordered_run {senderPeer receiverPeer : Endpoint} {startingDataPacketsSent : ℕ}
    {schedule : List Duplex.Label}
    {st : Duplex.State SenderState ReceiverState PeerLoop.Tagged PeerLoop.Tagged}
    (hall : ∀ l ∈ schedule, l.InOrder)
    (h : Duplex.run ((dataSender payload sp sc).party senderPeer)
      ((dataReceiver rp rc).party receiverPeer)
      (dataPlaneStart payload sp rp sc rc startingDataPacketsSent) schedule = some st) :
    Ordered payload sp rp sc st := by
  refine Duplex.run_invariant (fun _ _ _ hl hinv hstep =>
    ordered_step hf hsq hdup hrq hw hl hinv hstep) hall ?_ h
  have hinv : DataPlaneInv payload sp rp sc
      (dataPlaneStart payload sp rp sc rc startingDataPacketsSent) :=
    dataPlaneInv_start hf hsq startingDataPacketsSent
  have hadv := advanced_senderStart startingDataPacketsSent (hf.sender_bound hsq)
  have hpos := senderWindow_pos sp
  refine ⟨hinv, ?_, ?_, ?_, ?_⟩
  · intro m hm
    have hlis : (receiverStart rp rc [] 1 none).1.lastInSequence = 0 := rfl
    have := (hinv.data m hm).1
    simp only [dataPlaneStart, hlis]
    omega
  · have hrise : (senderStart payload sp sc startingDataPacketsSent).2.Pairwise (· < ·) := by
      rw [hadv.sent]
      exact pairwise_indexRange _ _
    refine List.Pairwise.map _ ?_ hrise
    intro i j hij
    simp only
    omega
  · exact fun m hm => absurd hm List.not_mem_nil
  · exact List.Pairwise.nil

end Run

/-! ### Runs past the wrap -/

variable (payload sp rp sc rc) in
/-- A joint state of a transfer that has lost nothing, with the blocks and the ACKs in transit. -/
structure Flowing
    (st : Duplex.State SenderState ReceiverState PeerLoop.Tagged PeerLoop.Tagged)
    (data acks : List ℕ) : Prop where
  flow : Flow payload sp rp sc st.left st.right data acks
  toRight : st.toRight = (dataSender payload sp sc).tagged data
  toLeft : st.toLeft = (dataReceiver rp rc).tagged acks

variable (payload sp rp sc rc) in
/-- Delivery in order leads from `st` to a state in which the receiver holds `n` blocks and the next
one is on its way. -/
def ReachesBlock (senderPeer receiverPeer : Endpoint) (n : ℕ)
    (st : Duplex.State SenderState ReceiverState PeerLoop.Tagged PeerLoop.Tagged) : Prop :=
  ∃ schedule st' data acks, (∀ l ∈ schedule, Duplex.Label.InOrder l) ∧
    Duplex.run ((dataSender payload sp sc).party senderPeer)
      ((dataReceiver rp rc).party receiverPeer) st schedule = some st' ∧
    Flowing payload sp rp sc rc st' ((n + 1) :: data) acks ∧ st'.right.lastInSequence = n

theorem ReachesBlock.of_step {senderPeer receiverPeer : Endpoint} {n : ℕ} {l : Duplex.Label}
    {st st' : Duplex.State SenderState ReceiverState PeerLoop.Tagged PeerLoop.Tagged}
    (hl : l.InOrder) (hstep : Duplex.step ((dataSender payload sp sc).party senderPeer)
      ((dataReceiver rp rc).party receiverPeer) st l = some st')
    (h : ReachesBlock payload sp rp sc rc senderPeer receiverPeer n st') :
    ReachesBlock payload sp rp sc rc senderPeer receiverPeer n st := by
  obtain ⟨schedule, t, data, acks, hall, hrun, ht⟩ := h
  exact ⟨l :: schedule, t, data, acks, List.forall_mem_cons.2 ⟨hl, hall⟩,
    by rw [Duplex.run, hstep]; exact hrun, ht⟩

section Runs

variable (hf : Framed payload sp rp) (hblock : rp.blockSize = sp.blockSize)
  (hsq : sc.quirks = {}) {senderPeer receiverPeer : Endpoint}

include hf hsq in
theorem flowing_start :
    Flowing payload sp rp sc rc (dataPlaneStart payload sp rp sc rc 0)
      (senderStart payload sp sc 0).2 [] :=
  ⟨flow_start hf (by rw [hsq]) rc, rfl, rfl⟩

include hf hblock hsq

/-- **An ACK arrives**, and the receiver stays where it is. -/
theorem Flowing.receiveLeft (hw : sp.windowSize ≤ 65535) {a : ℕ} {data acks : List ℕ}
    {st : Duplex.State SenderState ReceiverState PeerLoop.Tagged PeerLoop.Tagged}
    (h : Flowing payload sp rp sc rc st data (a :: acks)) :
    ∃ st' data', Duplex.step ((dataSender payload sp sc).party senderPeer)
        ((dataReceiver rp rc).party receiverPeer) st (.receiveLeft 0) = some st' ∧
      Flowing payload sp rp sc rc st' data' acks ∧ st'.right = st.right ∧
      stepsLeft (senderTotalBlocks payload sp sc) st'.right acks <
        stepsLeft (senderTotalBlocks payload sp sc) st.right (a :: acks) := by
  have hhead : st.toLeft = ⟨a, ackDatagram a⟩ :: (dataReceiver rp rc).tagged acks := h.toLeft
  obtain ⟨-, -, rfl, hrun, -⟩ := h.flow.sender_turn
  obtain ⟨hflow, hless⟩ := h.flow.ack hf hblock (by rw [hsq]) (by rw [hsq]) hw rfl
  have hstep := Duplex.step_receiveLeft (A := (dataSender payload sp sc).party senderPeer)
    (B := (dataReceiver rp rc).party receiverPeer) hhead
  rw [dataSender_receive hrun rfl, h.toRight] at hstep
  exact ⟨_, _, hstep, ⟨hflow, rfl, rfl⟩, rfl, hless⟩

variable (hwindow : rp.windowSize = sp.windowSize) (hrq : rc.quirks = {})

include hwindow hrq

/-- The block that is next in transit moves the receiver. -/
theorem Flowing.accepted (receiverPeer : Endpoint) {i : ℕ} {data acks : List ℕ}
    {st : Duplex.State SenderState ReceiverState PeerLoop.Tagged PeerLoop.Tagged}
    (h : Flowing payload sp rp sc rc st (i :: data) acks) :
    (((dataReceiver rp rc).party receiverPeer).receive st.right
      ⟨i, dataDatagram payload sp i⟩).1.lastInSequence = st.right.lastInSequence + 1 := by
  have homit : sc.quirks.omitTerminatingEmptyBlock = false := by rw [hsq]
  have hout : rc.quirks.acceptOutOfSequenceData = false := by rw [hrq]
  obtain ⟨-, -, hflow, -⟩ := h.flow.data hf hblock homit hout hwindow rfl
  rw [dataReceiver_receive rfl]
  by_contra hne
  -- a receiver that has not moved still waits for every block that was on its way
  have hsame := not_imp_comm.1 (receiverReceive_moved hout (h.flow.safe.receiver_bound hf homit)
    fun hp => (h.flow.safe.receiving hp).2.1) fun ⟨_, _, _, _, hlis⟩ => hne hlis
  have hdata := hflow.data_eq
  rw [hsame, ← h.flow.data_eq] at hdata
  exact absurd (congrArg List.length hdata) (by simp)

/-- **The next block arrives.** -/
theorem Flowing.receiveRight {i : ℕ} {data acks : List ℕ}
    {st : Duplex.State SenderState ReceiverState PeerLoop.Tagged PeerLoop.Tagged}
    (h : Flowing payload sp rp sc rc st (i :: data) acks) :
    ∃ st' acks', Duplex.step ((dataSender payload sp sc).party senderPeer)
        ((dataReceiver rp rc).party receiverPeer) st (.receiveRight 0) = some st' ∧
      Flowing payload sp rp sc rc st' data acks' ∧
      st'.right.lastInSequence = st.right.lastInSequence + 1 ∧
      stepsLeft (senderTotalBlocks payload sp sc) st'.right acks' <
        stepsLeft (senderTotalBlocks payload sp sc) st.right acks := by
  obtain ⟨-, -, hflow, hless⟩ := h.flow.data hf hblock (by rw [hsq]) (by rw [hrq]) hwindow rfl
  have hmoved := h.accepted hf hblock hsq hwindow hrq receiverPeer
  have hhead : st.toRight =
      ⟨i, dataDatagram payload sp i⟩ :: (dataSender payload sp sc).tagged data := h.toRight
  have hstep := Duplex.step_receiveRight (A := (dataSender payload sp sc).party senderPeer)
    (B := (dataReceiver rp rc).party receiverPeer) hhead
  rw [dataReceiver_receive rfl, h.toLeft] at hstep
  rw [dataReceiver_receive rfl] at hmoved
  exact ⟨_, _, hstep, ⟨hflow, rfl, List.map_append.symm⟩, hmoved, hless⟩

variable (hw : sp.windowSize ≤ 65535)

include hw

/-- **Delivery in order reaches every block of the payload**, by induction on the deliveries that
are left. -/
theorem Flowing.reachesBlock {n : ℕ} (hn : n < senderTotalBlocks payload sp sc)
    {data acks : List ℕ}
    {st : Duplex.State SenderState ReceiverState PeerLoop.Tagged PeerLoop.Tagged}
    (h : Flowing payload sp rp sc rc st data acks) (hle : st.right.lastInSequence ≤ n) :
    ReachesBlock payload sp rp sc rc senderPeer receiverPeer n st := by
  induction hk : stepsLeft (senderTotalBlocks payload sp sc) st.right acks using
      Nat.strong_induction_on generalizing st data acks with
  | _ k ih =>
    subst hk
    have hdata := h.flow.data_eq
    cases data with
    | cons i data =>
        rcases hle.eq_or_lt with heq | hlt
        · have hhead : i = st.right.lastInSequence + 1 := by
            rcases Nat.lt_or_ge st.right.lastInSequence st.left.highestSent with hlt | hge
            · rw [indexRange_eq_cons (by omega)] at hdata
              exact (List.cons.inj hdata).1
            · rw [indexRange_eq_nil (by omega)] at hdata
              exact absurd hdata (List.cons_ne_nil _ _)
          rw [hhead, heq] at h
          exact ⟨[], st, data, acks, fun _ hl => absurd hl List.not_mem_nil, rfl, h, heq⟩
        · obtain ⟨st₁, acks₁, hstep, h₁, hlis, hless⟩ :=
            h.receiveRight hf hblock hsq hwindow hrq
          exact .of_step (l := .receiveRight 0) rfl hstep (ih _ hless h₁ (by omega) rfl)
    | nil =>
        cases acks with
        | cons a acks =>
            obtain ⟨st₁, data₁, hstep, h₁, hsame, hless⟩ := h.receiveLeft hf hblock hsq hw
            exact .of_step (l := .receiveLeft 0) rfl hstep
              (ih _ hless h₁ (by rw [hsame]; exact hle) rfl)
        | nil =>
            -- with nothing in transit the receiver would hold every block
            exfalso
            cases h.flow.turn with
            | receiver running receiving counted inFlight =>
                rw [indexRange_eq_cons (by omega)] at hdata
                exact List.cons_ne_nil _ _ hdata.symm
            | ended completed closing =>
                have := Flow.closing_total hf hblock (by rw [hsq]) h.flow.safe closing
                omega

end Runs

/-- **Wraparound of the 16-bit block numbers is harmless over links that keep the order**, lossy and
repeating as they may be.  In every state that a correct sender and a correct receiver with the same
block size and window reach, for a payload of any number of blocks: a DATA packet that the receiver
accepts is the next block in absolute terms, an ACK that the sender reads resolves to the absolute
index it was sent for, the receiver holds a prefix of the payload, and it holds the whole payload as
soon as either end reports success. -/
theorem wraparound_harmless (hsq : sc.quirks = {}) (hrq : rc.quirks = {})
    (hb : 1 ≤ sp.blockSize) (hw : 1 ≤ sp.windowSize) (hw' : sp.windowSize ≤ 65535)
    (hblock : rp.blockSize = sp.blockSize) (hwindow : rp.windowSize = sp.windowSize)
    (hblocks : payload.length / sp.blockSize + 1 + sp.windowSize < 2 ^ 32)
    {senderPeer receiverPeer : Endpoint} {startingDataPacketsSent : ℕ}
    {schedule : List Duplex.Label} (hall : ∀ l ∈ schedule, l.InOrder)
    {st : Duplex.State SenderState ReceiverState PeerLoop.Tagged PeerLoop.Tagged}
    (h : Duplex.run ((dataSender payload sp sc).party senderPeer)
      ((dataReceiver rp rc).party receiverPeer)
      (dataPlaneStart payload sp rp sc rc startingDataPacketsSent) schedule = some st) :
    (∀ m, st.toRight.head? = some m →
      (((dataReceiver rp rc).party receiverPeer).receive st.right m).1.lastInSequence ≠
        st.right.lastInSequence →
      m.absolute = st.right.lastInSequence + 1 ∧
        (((dataReceiver rp rc).party receiverPeer).receive st.right m).1.lastInSequence =
          m.absolute) ∧
      (∀ m, st.toLeft.head? = some m → ∃ packet, parseDatagram m.bytes = .ok packet ∧
        packet.opcode = .acknowledgement ∧
        resolveAckToAbsolute packet.blockNumber st.left.lastAcked st.left.highestSent =
          m.absolute) ∧
      st.right.sink <+: payload ∧
      (st.right.outcome.completedSuccessfully = true → st.right.sink = payload) ∧
      (st.left.outcome.completedSuccessfully = true → st.right.sink = payload) := by
  have hf : Framed payload sp rp := Framed.of_agreed hb hblock hwindow (by omega)
  have homit : sc.quirks.omitTerminatingEmptyBlock = false := by rw [hsq]
  have hout : rc.quirks.acceptOutOfSequenceData = false := by rw [hrq]
  have hord := ordered_run hf homit (by rw [hsq]) hout hw' hall h
  have hsafe := hord.inv.safe
  refine ⟨?_, ?_, ?_, hsafe.receiver_success hf homit, hsafe.sender_success hf homit⟩
  · intro m hm hmoved
    have hmem : m ∈ st.toRight := List.mem_of_head? hm
    rw [dataReceiver_receive (hord.inv.data m hmem).2.2] at hmoved ⊢
    obtain ⟨packet, hp, -, hnext, hlis⟩ := receiverReceive_moved hout
      (hsafe.receiver_bound hf homit) (fun hp => (hsafe.receiving hp).2.1) hmoved
    cases hp
    have heq := hord.next hw' hmem hnext
    exact ⟨heq, by rw [hlis, heq]⟩
  · intro m hm
    have hmem : m ∈ st.toLeft := List.mem_of_head? hm
    refine ⟨_, by rw [(hord.inv.acks m hmem).2]; exact parse_ackDatagram m.absolute, rfl, ?_⟩
    exact hord.resolved hw' hmem
  · rw [hsafe.sink_eq]
    exact List.take_prefix _ _

/-- A transfer of 70000 blocks of one byte, where the DATA packet in transit bears the number 1 for
the second time. -/
theorem wraparound_harmless_second_number_one :
    ∃ schedule st m, Duplex.run
        ((dataSender (List.replicate 70000 0) { blockSize := 1 } {}).party ⟨false, [], 2⟩)
        ((dataReceiver { blockSize := 1 } {}).party ⟨false, [], 1⟩)
        (dataPlaneStart (List.replicate 70000 0) { blockSize := 1 } { blockSize := 1 } {} {} 0)
        schedule = some st ∧
      st.right.lastInSequence = 65536 ∧ st.toRight.head? = some m ∧
      wireBlockNumber m.absolute = 1 ∧ m.absolute = 65537 ∧
      (((dataReceiver { blockSize := 1 } {}).party ⟨false, [], 1⟩).receive
        st.right m).1.lastInSequence = 65537 := by
  obtain ⟨payload, hlength, hpayload⟩ :
      ∃ payload : Bytes, payload.length = 70000 ∧ List.replicate 70000 0 = payload :=
    ⟨_, List.length_replicate, rfl⟩
  rw [hpayload]
  have hf : Framed payload { blockSize := 1 } { blockSize := 1 } :=
    Framed.of_agreed (by decide) rfl rfl (by rw [hlength]; decide)
  have htotal := @Framed.total_eq payload { blockSize := 1 } { blockSize := 1 } {} hf rfl
  rw [hlength, Nat.div_one] at htotal
  obtain ⟨n, hn⟩ : ∃ n, 65536 = n := ⟨_, rfl⟩
  have hreaches : ReachesBlock payload { blockSize := 1 } { blockSize := 1 } {} {} ⟨false, [], 2⟩
      ⟨false, [], 1⟩ n
      (dataPlaneStart payload { blockSize := 1 } { blockSize := 1 } {} {} 0) :=
    (flowing_start hf rfl).reachesBlock hf rfl rfl rfl rfl (by decide) (by omega) (Nat.zero_le n)
  obtain ⟨schedule, st, rest, acks, hall, hrun, h, hlis⟩ := hreaches
  have hhead : st.toRight.head? = some ⟨n + 1, dataDatagram payload { blockSize := 1 } (n + 1)⟩ :=
    congrArg List.head? h.toRight
  have hmoved := h.accepted hf rfl rfl rfl rfl ⟨false, [], 1⟩
  obtain ⟨hnext, -⟩ := wraparound_harmless rfl rfl (by decide) (by decide) (by decide) rfl rfl
    (by rw [hlength]; decide) hall hrun
  obtain ⟨-, haccepted⟩ := hnext _ hhead (by rw [hmoved]; exact Nat.succ_ne_self _)
  have hwire : wireBlockNumber (65536 + 1) = 1 := by decide
  subst hn
  exact ⟨schedule, st, _, hrun, hlis, hhead, hwire, rfl, haccepted⟩

end TftpHarness
