/-
**Datagrams from a stray TID.**

RFC 1350 asks that a datagram from a source other than the peer be answered with ERROR 5 and
otherwise ignored, and the comment at `receive_from_locked_peer` promises it.  For a function that
waits through that receive this is a statement about two runs: delete the stray datagrams from what
arrives, and nothing changes but the ERROR 5 replies.

It holds of every loop around the locked receive except for empty datagrams.  `recvfrom` returns 0
for an empty UDP datagram, the socket wrapper documents 0 as "timed out with no datagram", and the
locked receive looks at the count before it looks at the source.  An empty datagram from anyone is a
timeout: it is not rebuffed, it makes the loop retransmit, and it uses up the retry budget.

Main definitions:

* `TftpHarness.SocketEvent.IsStray`, `TftpHarness.withoutStrays` — stray datagrams and their
  deletion;
* `TftpHarness.PeerLoop.Unaffected` — the two runs agree but for the ERROR 5 replies.

Main results:

* `TftpHarness.PeerLoop.unaffected_iff` — a loop is unaffected exactly when no stray datagram that
  it reads is empty;
* `TftpHarness.stray_tid_harmless_iff` — **the same for both data planes, whatever their state**.
-/

import TftpHarness.Sender
import TftpHarness.Receiver

set_option relaxedAutoImplicit false
set_option autoImplicit false

namespace TftpHarness

/-- A datagram from a source other than the peer. -/
def SocketEvent.IsStray (peer : Endpoint) : SocketEvent → Prop
  | .datagram sender _ => sender ≠ peer
  | _ => False

instance (peer : Endpoint) : DecidablePred (SocketEvent.IsStray peer) := fun event =>
  match event with
  | .datagram sender _ => inferInstanceAs (Decidable (sender ≠ peer))
  | .wouldBlock => inferInstanceAs (Decidable False)
  | .failure => inferInstanceAs (Decidable False)

/-- A datagram without payload. -/
def SocketEvent.IsEmpty : SocketEvent → Prop
  | .datagram _ bytes => bytes = []
  | _ => False

instance : DecidablePred SocketEvent.IsEmpty := fun event =>
  match event with
  | .datagram _ bytes => inferInstanceAs (Decidable (bytes = []))
  | .wouldBlock => inferInstanceAs (Decidable False)
  | .failure => inferInstanceAs (Decidable False)

/-- The events that remain when the stray datagrams are deleted. -/
def withoutStrays (peer : Endpoint) (events : List SocketEvent) : List SocketEvent :=
  events.filter fun event => ¬ event.IsStray peer

/-- The ERROR 5 a stray datagram calls for, addressed to its source. -/
def rebuff : SocketEvent → List (Endpoint × Bytes)
  | .datagram sender _ => [(sender, strayReply)]
  | _ => []

/-- The sends to the peer, in order. -/
def sendsTo (peer : Endpoint) (sends : List (Endpoint × Bytes)) : List (Endpoint × Bytes) :=
  sends.filter fun send => send.1 = peer

/-- The sends to anyone else, in order. -/
def sendsElsewhere (peer : Endpoint) (sends : List (Endpoint × Bytes)) : List (Endpoint × Bytes) :=
  sends.filter fun send => ¬ send.1 = peer

namespace PeerLoop

variable {σ ν : Type*} {loop : PeerLoop σ ν} {peer : Endpoint}

/-- **The stray datagrams have no effect**: with and without them the function ends in the same
state and sends the same datagrams to its peer, and all else it sends is one ERROR 5 to the source
of each stray datagram it read. -/
structure Unaffected (loop : PeerLoop σ ν) (peer : Endpoint) (start : σ × List ν)
    (read unread : List SocketEvent) : Prop where
  final_eq : (loop.runFrom peer start (read ++ unread)).final =
    (loop.runFrom peer start (withoutStrays peer (read ++ unread))).final
  sends_eq : sendsTo peer (loop.runFrom peer start (read ++ unread)).sends =
    sendsTo peer (loop.runFrom peer start (withoutStrays peer (read ++ unread))).sends
  rebuffed : sendsElsewhere peer (loop.runFrom peer start (read ++ unread)).sends =
    (read.filter fun event => event.IsStray peer).flatMap rebuff

theorem run_of_returned {s : σ} (h : loop.returned s = true) (events : List SocketEvent) :
    loop.run peer s events = ⟨s, [], events⟩ := by
  cases events with
  | nil => rfl
  | cons event events => simp only [run, h, if_true]

theorem run_cons {s : σ} (h : loop.returned s = false) (event : SocketEvent)
    (events : List SocketEvent) :
    loop.run peer s (event :: events) =
      { loop.run peer (loop.onEvent peer s event).1 events with
        sends := (loop.onEvent peer s event).2 ++
          (loop.run peer (loop.onEvent peer s event).1 events).sends } := by
  simp only [run, h, Bool.false_eq_true, if_false]

/-- The events left unread are the last of all events. -/
theorem length_unread_le (loop : PeerLoop σ ν) (peer : Endpoint) (s : σ)
    (events : List SocketEvent) :
    (loop.run peer s events).unread.length ≤ events.length := by
  induction events generalizing s with
  | nil => exact le_refl _
  | cons event events ih =>
      cases hret : loop.returned s with
      | true => rw [run_of_returned hret]
      | false =>
          rw [run_cons hret]
          exact le_trans (ih (loop.onEvent peer s event).1) (Nat.le_succ _)

/-- A loop that reads an event has not returned before it. -/
theorem returned_of_unread_cons {s : σ} {event : SocketEvent} {read unread : List SocketEvent}
    (h : (loop.run peer s (event :: read ++ unread)).unread = unread) :
    loop.returned s = false := by
  cases hret : loop.returned s with
  | false => rfl
  | true =>
      rw [run_of_returned hret] at h
      have hlen := congrArg List.length h
      simp only [List.cons_append, List.length_cons, List.length_append] at hlen
      omega

/-- A loop that reads nothing of a sequence reads nothing of it without the stray datagrams. -/
theorem run_of_unread {s : σ} {unread : List SocketEvent}
    (h : (loop.run peer s unread).unread = unread) (kept : List SocketEvent)
    (hkept : unread = [] → kept = []) :
    (loop.run peer s kept).final = s ∧ (loop.run peer s kept).sends = [] := by
  cases hret : loop.returned s with
  | true =>
      rw [run_of_returned hret]
      exact ⟨rfl, rfl⟩
  | false =>
      cases unread with
      | nil =>
          rw [hkept rfl]
          exact ⟨rfl, rfl⟩
      | cons event events =>
          rw [run_cons hret] at h
          have hlen := congrArg List.length h
          have hle := length_unread_le loop peer (loop.onEvent peer s event).1 events
          simp only [List.length_cons] at hlen
          omega

/-- A nonempty stray datagram is rebuffed and otherwise ignored. -/
theorem onEvent_stray {s : σ} {event : SocketEvent} (h : loop.returned s = false)
    (hstray : event.IsStray peer) (hne : ¬ event.IsEmpty) :
    loop.onEvent peer s event = (s, rebuff event) := by
  cases event with
  | datagram sender bytes =>
      simp only [onEvent, h, Bool.false_eq_true, if_false,
        receiveFromLockedPeer_stray hstray hne, rebuff]
  | wouldBlock => exact absurd hstray id
  | failure => exact absurd hstray id

/-- The locked receive answers nothing but a nonempty stray datagram. -/
theorem replies_eq_nil {event : SocketEvent} (h : ¬ (event.IsStray peer ∧ ¬ event.IsEmpty)) :
    (receiveFromLockedPeer peer event).2 = [] := by
  cases event with
  | datagram sender bytes =>
      by_cases hempty : bytes = []
      · rw [hempty, receiveFromLockedPeer_empty]
      · have hpeer : sender = peer := by
          by_contra hstray
          exact h ⟨hstray, hempty⟩
        rw [hpeer, receiveFromLockedPeer_peer hempty]
  | wouldBlock => rfl
  | failure => rfl

/-- Any other event makes the loop send to its peer only. -/
theorem onEvent_other {s : σ} {event : SocketEvent}
    (hother : ¬ (event.IsStray peer ∧ ¬ event.IsEmpty)) :
    ∀ send ∈ (loop.onEvent peer s event).2, send.1 = peer := by
  have hreplies := replies_eq_nil hother
  unfold onEvent
  split
  · simp
  · split
    · next heq =>
        rw [heq] at hreplies
        simp only at hreplies
        simp [hreplies]
    · next heq =>
        rw [heq] at hreplies
        simp only at hreplies
        intro send hsend
        rw [hreplies, List.nil_append, List.mem_map] at hsend
        obtain ⟨v, -, rfl⟩ := hsend
        rfl

/-! ### The two runs -/

/-- **All that goes elsewhere** is one ERROR 5 for each nonempty stray datagram read. -/
theorem sendsElsewhere_run {read unread : List SocketEvent} {s : σ}
    (h : (loop.run peer s (read ++ unread)).unread = unread) :
    sendsElsewhere peer (loop.run peer s (read ++ unread)).sends =
      (read.filter fun event => event.IsStray peer ∧ ¬ event.IsEmpty).flatMap rebuff := by
  induction read generalizing s with
  | nil =>
      rw [List.nil_append] at h ⊢
      rw [(run_of_unread h unread id).2]
      rfl
  | cons event read ih =>
      have hrun := returned_of_unread_cons h
      rw [List.cons_append, run_cons hrun] at h ⊢
      by_cases hstray : event.IsStray peer ∧ ¬ event.IsEmpty
      · have hevent : loop.onEvent peer s event = (s, rebuff event) :=
          onEvent_stray hrun hstray.1 hstray.2
        rw [hevent] at h ⊢
        have hsend : sendsElsewhere peer (rebuff event) = rebuff event := by
          cases event with
          | datagram sender bytes =>
              have hne : sender ≠ peer := hstray.1
              simp [sendsElsewhere, rebuff, hne]
          | wouldBlock => rfl
          | failure => rfl
        have hih := ih h
        simp only [sendsElsewhere] at hsend hih ⊢
        rw [List.filter_append, hsend, hih, List.filter_cons_of_pos (by simpa using hstray),
          List.flatMap_cons]
      · have hsend : sendsElsewhere peer (loop.onEvent peer s event).2 = [] := by
          refine List.filter_eq_nil_iff.2 fun send hmem => ?_
          simp [onEvent_other hstray send hmem]
        have hih := ih h
        simp only [sendsElsewhere] at hsend hih ⊢
        rw [List.filter_append, hsend, hih, List.filter_cons_of_neg (by simpa using hstray),
          List.nil_append]

/-- **Without its stray datagrams a run is the same** for the function and its peer, when none of
them is empty. -/
theorem run_withoutStrays {read unread : List SocketEvent} {s : σ}
    (h : (loop.run peer s (read ++ unread)).unread = unread)
    (hne : ∀ event ∈ read, event.IsStray peer → ¬ event.IsEmpty) :
    (loop.run peer s (read ++ unread)).final =
        (loop.run peer s (withoutStrays peer (read ++ unread))).final ∧
      sendsTo peer (loop.run peer s (read ++ unread)).sends =
        sendsTo peer (loop.run peer s (withoutStrays peer (read ++ unread))).sends := by
  induction read generalizing s with
  | nil =>
      rw [List.nil_append] at h ⊢
      obtain ⟨hfinal, hsends⟩ := run_of_unread h unread id
      obtain ⟨hfinal', hsends'⟩ := run_of_unread h (withoutStrays peer unread)
        (fun hnil => by rw [hnil]; rfl)
      rw [hfinal, hsends, hfinal', hsends']
      exact ⟨rfl, rfl⟩
  | cons event read ih =>
      have hrun := returned_of_unread_cons h
      have hne' : ∀ event ∈ read, event.IsStray peer → ¬ event.IsEmpty :=
        fun e he => hne e (List.mem_cons_of_mem _ he)
      rw [List.cons_append, run_cons hrun] at h ⊢
      by_cases hstray : event.IsStray peer
      · have hnonempty := hne event List.mem_cons_self hstray
        have hkept : withoutStrays peer (event :: (read ++ unread)) =
            withoutStrays peer (read ++ unread) :=
          List.filter_cons_of_neg (by simpa using hstray)
        have hsend : sendsTo peer (rebuff event) = [] := by
          cases event with
          | datagram sender bytes =>
              have hsender : sender ≠ peer := hstray
              simp [sendsTo, rebuff, hsender]
          | wouldBlock => rfl
          | failure => rfl
        rw [onEvent_stray hrun hstray hnonempty] at h ⊢
        obtain ⟨hfinal, hsends⟩ := ih h hne'
        rw [hkept]
        refine ⟨hfinal, ?_⟩
        simp only [sendsTo] at hsend hsends ⊢
        rw [List.filter_append, hsend, List.nil_append, hsends]
      · have hkept : withoutStrays peer (event :: (read ++ unread)) =
            event :: withoutStrays peer (read ++ unread) :=
          List.filter_cons_of_pos (by simpa using hstray)
        obtain ⟨hfinal, hsends⟩ := ih h hne'
        rw [hkept, run_cons hrun]
        refine ⟨hfinal, ?_⟩
        simp only [sendsTo] at hsends ⊢
        rw [List.filter_append, List.filter_append, hsends]

/-- Each stray datagram calls for one ERROR 5. -/
theorem length_flatMap_rebuff {events : List SocketEvent}
    (h : ∀ event ∈ events, event.IsStray peer) :
    (events.flatMap rebuff).length = events.length := by
  induction events with
  | nil => rfl
  | cons event events ih =>
      have hone : (rebuff event).length = 1 := by
        cases event with
        | datagram sender bytes => rfl
        | wouldBlock => exact absurd (h _ List.mem_cons_self) id
        | failure => exact absurd (h _ List.mem_cons_self) id
      rw [List.flatMap_cons, List.length_append, hone,
        ih fun e he => h e (List.mem_cons_of_mem _ he), List.length_cons]
      omega

/-- **A loop is unaffected by stray datagrams exactly when none that it reads is empty.** -/
theorem unaffected_iff {start : σ × List ν} {read unread : List SocketEvent}
    (h : (loop.runFrom peer start (read ++ unread)).unread = unread) :
    loop.Unaffected peer start read unread ↔
      ∀ event ∈ read, event.IsStray peer → ¬ event.IsEmpty := by
  have hstart : sendsElsewhere peer (start.2.map fun v => (peer, loop.encode v)) = [] := by
    refine List.filter_eq_nil_iff.2 fun send hmem => ?_
    obtain ⟨v, -, rfl⟩ := List.mem_map.1 hmem
    simp
  have helsewhere : sendsElsewhere peer (loop.runFrom peer start (read ++ unread)).sends =
      (read.filter fun event => event.IsStray peer ∧ ¬ event.IsEmpty).flatMap rebuff := by
    have hrun := sendsElsewhere_run h
    simp only [sendsElsewhere, runFrom] at hstart hrun ⊢
    rw [List.filter_append, hstart, List.nil_append, hrun]
  constructor
  · intro hun event hmem hstray hempty
    -- as many are rebuffed as there are stray ones, so the empty one is rebuffed as well
    have hsame := hun.rebuffed
    rw [helsewhere] at hsame
    have hlen := congrArg List.length hsame
    rw [length_flatMap_rebuff (fun e he => (by simpa using (List.mem_filter.1 he).2 :
        e.IsStray peer ∧ ¬ e.IsEmpty).1),
      length_flatMap_rebuff (fun e he => by simpa using (List.mem_filter.1 he).2)] at hlen
    have hsplit : (read.filter fun event => event.IsStray peer ∧ ¬ event.IsEmpty) =
        (read.filter fun event => event.IsStray peer).filter fun event => ¬ event.IsEmpty := by
      rw [List.filter_filter]
      refine List.filter_congr fun e _ => ?_
      simp [Bool.and_comm]
    rw [hsplit, List.length_filter_eq_length_iff] at hlen
    have hnonempty := hlen event (List.mem_filter.2 ⟨hmem, by simpa using hstray⟩)
    exact absurd hempty (by simpa using hnonempty)
  · intro hne
    obtain ⟨hfinal, hsends⟩ := run_withoutStrays h hne
    refine ⟨hfinal, ?_, ?_⟩
    · simp only [sendsTo, runFrom] at hsends ⊢
      rw [List.filter_append, List.filter_append, hsends]
    · rw [helsewhere]
      congr 1
      refine List.filter_congr fun event hmem => ?_
      by_cases hstray : event.IsStray peer
      · simp [hstray, hne event hmem hstray]
      · simp [hstray]

end PeerLoop

/-! ### The two data planes -/

/-- **A stray TID cannot affect a transfer unless it sends an empty datagram.**  For both data
planes of the engine, every configuration and every sequence of socket events, of which the
function reads the first ones: the stray datagrams among them leave the final state — outcome, sink
and all — and the sends to the peer as they are and are rebuffed one by one, if and only if none of
them is empty. -/
theorem stray_tid_harmless_iff (peer : Endpoint) (read unread : List SocketEvent) :
    (∀ (payload : Bytes) (params : NegotiatedParameters) (config : EngineConfig)
        (startingDataPacketsSent : ℕ),
      ((dataSender payload params config).runFrom peer
        (senderStart payload params config startingDataPacketsSent)
          (read ++ unread)).unread = unread →
      ((dataSender payload params config).Unaffected peer
          (senderStart payload params config startingDataPacketsSent) read unread ↔
        ∀ event ∈ read, event.IsStray peer → ¬ event.IsEmpty)) ∧
    (∀ (params : NegotiatedParameters) (config : EngineConfig) (sink : Bytes)
        (firstExpectedBlock : ℕ) (primed : Option TftpPacket),
      ((dataReceiver params config).runFrom peer
        (receiverStart params config sink firstExpectedBlock primed)
          (read ++ unread)).unread = unread →
      ((dataReceiver params config).Unaffected peer
          (receiverStart params config sink firstExpectedBlock primed) read unread ↔
        ∀ event ∈ read, event.IsStray peer → ¬ event.IsEmpty)) :=
  ⟨fun _ _ _ _ h => PeerLoop.unaffected_iff h, fun _ _ _ _ _ h => PeerLoop.unaffected_iff h⟩

/-- A sender that reads a stray DATA packet and the ACK it waits for. -/
theorem stray_tid_harmless_nonempty :
    (dataSender [7] {} {}).Unaffected ⟨false, [], 1⟩ (senderStart [7] {} {} 0)
      [.datagram ⟨false, [], 9⟩ [0, 3, 0, 1], .datagram ⟨false, [], 1⟩ [0, 4, 0, 1]] [] :=
  ((stray_tid_harmless_iff ⟨false, [], 1⟩
    [.datagram ⟨false, [], 9⟩ [0, 3, 0, 1], .datagram ⟨false, [], 1⟩ [0, 4, 0, 1]] []).1 [7] {} {} 0
      (by decide)).2 (by decide)

/-- Seven empty datagrams from a stray source make the sender give up before its peer's ACK is
read. -/
theorem empty_stray_datagrams_abort_transfer :
    ((dataSender [7] {} {}).runFrom ⟨false, [], 1⟩ (senderStart [7] {} {} 0)
        (List.replicate 7 (.datagram ⟨false, [], 9⟩ []) ++
          [.datagram ⟨false, [], 1⟩ [0, 4, 0, 1]])).final.outcome.timedOut = true ∧
      ¬ (dataSender [7] {} {}).Unaffected ⟨false, [], 1⟩ (senderStart [7] {} {} 0)
        (List.replicate 7 (.datagram ⟨false, [], 9⟩ []))
        [.datagram ⟨false, [], 1⟩ [0, 4, 0, 1]] := by
  refine ⟨by decide, fun h => ?_⟩
  have hcompleted := congrArg (fun s => s.outcome.completedSuccessfully) h.final_eq
  exact absurd hcompleted (by decide)

end TftpHarness
