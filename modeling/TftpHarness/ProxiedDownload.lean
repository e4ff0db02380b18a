/-
**Downloading through the impairment proxy.**

On the bench the client is locked onto the listen socket of the proxy, whoever speaks behind it.  A
request that is repeated before the first reply opens several handlers; the proxy hands on what any
of them sends, and sends what the client says to the one it has locked onto.  So the client may put
a file together from the blocks of several handlers, while only one of them is ever acknowledged.

All handlers have negotiated the same parameters for the same payload, and one that is never
acknowledged stays in its first window.  So the client cannot tell the server behind the proxy from
a single handler, the one the proxy has locked onto, and the argument for a client without a proxy
applies to that one.

Main definitions:

* `TftpHarness.proxiedStart` — the start of a download on the bench;
* `TftpHarness.BenchAgreement`, `TftpHarness.downloadTransfer` — what holds of the client and the
  handlers, and the download as a transfer over the bench.

Main results:

* `TftpHarness.ReaderSends.front` — what any handler sends, the handler in front may have sent;
* `TftpHarness.downloadTransfer_lawful` — every reaction of the two ends keeps what holds;
* `TftpHarness.proxied_download_safety` — **a download through a proxy that drops, repeats, delays
  and reorders, but corrupts nothing, writes the file or reports no success**.
-/

import TftpHarness.BenchTransfer
import TftpHarness.Download

set_option relaxedAutoImplicit false
set_option autoImplicit false

namespace TftpHarness

/-! ### The invariant -/

section Invariant

variable (call : ClientCall) (file : DestinationFile) (sc : EngineConfig)
  (served : ServedDirectory) (files : Files) (addresses : BenchAddresses)

/-- The bench when the client has sent its first RRQ to the proxy. -/
def proxiedStart (config : ProxyConfig) (clock : ℕ → ℤ) (before : Option Bytes) :
    Network.State (BenchState ReadFileState) Endpoint Bytes where
  parties :=
    { client := (readFileStart call before).1
      proxy := proxyStart config (addresses.environment clock)
      sessions := []
      files := files }
  network := Service.sendsFrom (addresses.address .client) (readFileStart call before).2

/-- The last block of the first window of a handler. -/
def Handler.firstSent (h : Handler) : ℕ := (senderStart h.payload h.params sc 0).1.highestSent

/-- **What holds of the client, the proxy and the handlers together.**  The handler in front is the
one the proxy has locked onto; it and the client agree as without a proxy.  Every other handler has
had nothing acknowledged. -/
structure BenchAgreement (c : ReadFileState) (front : Option Endpoint) (sessions : List Handler) :
    Prop where
  handlers : ∀ (k : ℕ) h, sessions[k]? = some h →
    Reader call sc served files addresses.relaySocket h ∨
      servedPayload call served files = none ∧ h.phase = .returned
  started : ∀ (k : ℕ) h, sessions[k]? = some h →
    Reader call sc served files addresses.relaySocket h →
      (h.oackOptions = [] → h.IsSending) ∧ h.firstSent sc ≤ (h.sender sc).highestSent
  behind : ∀ (k : ℕ) h, sessions[k]? = some h →
    Reader call sc served files addresses.relaySocket h →
      front ≠ some (addresses.address (.session k)) →
        Safe h.payload h.params h.params sc (h.sender sc) {} ∧ (h.IsSending → h.oackOptions = [])
  unlocked : front = none → c.phase.locked = none
  ahead : ∀ e, front = some e → ∃ (k : ℕ) (h : Handler), e = addresses.address (.session k) ∧
    sessions[k]? = some h ∧ Agreement call sc served files addresses.relaySocket
      addresses.frontAddress c [h]

/-- **A download as a transfer over the bench.** -/
def downloadTransfer (before : Option Bytes) : BenchTransfer ReadFileState where
  request := readRequestDatagram call
  Agrees c front sessions shared := shared = files ∧
    BenchAgreement call sc served files addresses c front sessions ∧
      DestinationInv call file before c
  ClientSends c bytes := ReadClientSends c (addresses.address (.proxy .listen)) bytes
  HandlerSends h bytes := ReaderSends call sc served files addresses.relaySocket h bytes

end Invariant

section Steps

variable {call : ClientCall} {file : DestinationFile} {sc : EngineConfig}
  {served : ServedDirectory} {files : Files} {addresses : BenchAddresses} {before : Option Bytes}

/-! ### The handler in front -/

/-- Two handlers that serve the file differ in their progress only. -/
theorem Reader.same {client : Endpoint} {g h : Handler}
    (hg : Reader call sc served files client g) (hh : Reader call sc served files client h) :
    g.payload = h.payload ∧ g.params = h.params ∧ g.oackOptions = h.oackOptions := by
  have hpayload : g.payload = h.payload :=
    Option.some.inj (hg.payload_eq.symm.trans hh.payload_eq)
  have hneg := hg.negotiated_eq
  rw [hpayload, hh.negotiated_eq] at hneg
  obtain ⟨hoack, hparams⟩ := Prod.mk.inj hneg
  exact ⟨hpayload, hparams.symm, hoack.symm⟩

/-- **What any handler sends, the handler in front may have sent.** -/
theorem ReaderSends.front {c : ReadFileState} {front : Option Endpoint} {sessions : List Handler}
    (hb : 1 ≤ sc.defaultBlockSize) (homit : sc.quirks.omitTerminatingEmptyBlock = false)
    (hblocks : BlocksFit call sc served files)
    (hagree : BenchAgreement call sc served files addresses c front sessions) {j k : ℕ}
    {g h : Handler} (hj : sessions[j]? = some g) (hk : sessions[k]? = some h)
    (hfront : front = some (addresses.address (.session k))) {bytes : Bytes}
    (hsends : ReaderSends call sc served files addresses.relaySocket g bytes) :
    ReaderSends call sc served files addresses.relaySocket h bytes := by
  -- a handler that serves the file has no refused neighbour
  have hreader : Reader call sc served files addresses.relaySocket g →
      Reader call sc served files addresses.relaySocket h := by
    intro hg
    rcases hagree.handlers k h hk with hh | ⟨hnone, -⟩
    · exact hh
    · exact absurd (hnone.symm.trans hg.payload_eq) (by simp)
  rcases hsends with herr | ⟨hg, hne, hbytes⟩ | ⟨hg, hsend, i, hi, hle, hbytes⟩
  · exact Or.inl herr
  · obtain ⟨-, -, hoack⟩ := hg.same (hreader hg)
    exact Or.inr (Or.inl ⟨hreader hg, hoack ▸ hne, hoack ▸ hbytes⟩)
  · by_cases hjk : j = k
    · subst hjk
      cases Option.some.inj (hj.symm.trans hk)
      exact Or.inr (Or.inr ⟨hg, hsend, i, hi, hle, hbytes⟩)
    · -- the other handler has had nothing acknowledged, so the block is in its first window
      have hh := hreader hg
      obtain ⟨hpayload, hparams, hoack⟩ := hg.same hh
      have hother : front ≠ some (addresses.address (.session j)) := by
        rw [hfront]
        intro heq
        exact hjk (BenchParty.session.inj (addresses.injective (Option.some.inj heq))).symm
      obtain ⟨hsafe, hplain⟩ := hagree.behind j g hj hg hother
      obtain ⟨hsending, hfirst⟩ := hagree.started k h hk hh
      have hacked : (g.sender sc).lastAcked = 0 := Nat.le_zero.1 hsafe.acked_le
      have hsent := hsafe.sender.sent_le
      have hstart := (@advanced_senderStart g.payload g.params sc 0
        ((hg.framed hb hblocks).sender_bound homit)).highestSent
      have hsame : h.firstSent sc = g.firstSent sc := by
        rw [Handler.firstSent, Handler.firstSent, hpayload, hparams]
      have hwindow : g.firstSent sc = min (0 + senderWindow g.params)
          (senderTotalBlocks g.payload g.params sc) := hstart
      refine Or.inr (Or.inr ⟨hh, hsending (hoack ▸ hplain hsend), i, hi, ?_, ?_⟩)
      · rw [hacked] at hsent
        omega
      · rw [hbytes, hpayload, hparams]

/-! ### The client reacts -/

/-- The handler in front has moved on, and agrees with the client as before. -/
theorem Agreement.front_step {c : ReadFileState} {client : Endpoint} {address : ℕ → Endpoint}
    {h h' : Handler} (hagree : Agreement call sc served files client address c [h])
    (hr : Reader call sc served files client h) {sends : List (Endpoint × Bytes)}
    (hstep : ReaderStep call sc served files client
      (∃ params r, c.phase.locked = some (address 0, params, r)) (partner c (address 0)) h h'
      sends) : Agreement call sc served files client address c [h'] := by
  refine ⟨?_, ?_, ?_⟩
  · intro j g hj _
    obtain ⟨rfl, rfl⟩ := eq_of_getElem?_singleton hj
    rw [hstep.payload_eq, hstep.params_eq]
    exact hstep.safe
  · intro peer params r hlocked
    obtain ⟨j, g, hj, -, hpeer, hblock, hwindow⟩ := hagree.agreed peer params r hlocked
    obtain ⟨rfl, rfl⟩ := eq_of_getElem?_singleton hj
    refine ⟨0, h', rfl, hstep.reader, hpeer, ?_, ?_⟩
    · rw [hstep.params_eq]
      exact hblock
    · rw [hstep.params_eq]
      exact hwindow
  · intro j g hj _ hsend
    obtain ⟨rfl, rfl⟩ := eq_of_getElem?_singleton hj
    rw [hstep.oack_eq]
    rcases hstep.starts hsend with hbefore | hacked
    · exact hagree.started 0 h rfl hr hbefore
    · exact Or.inr hacked

section Front

variable {c c' : ReadFileState} {front : Option Endpoint} {sessions : List Handler}
  (hagree : BenchAgreement call sc served files addresses c front sessions)

include hagree

theorem BenchAgreement.visible : ∃ visible, InFront addresses front sessions visible ∧
    Agreement call sc served files addresses.relaySocket addresses.frontAddress c visible := by
  cases hfront : front with
  | some e =>
      obtain ⟨k, h, rfl, hk, hvisible⟩ := hagree.ahead e hfront
      exact ⟨[h], Or.inr ⟨k, h, rfl, hk, rfl⟩, hvisible⟩
  | none =>
      have hunlocked := hagree.unlocked hfront
      refine ⟨[], Or.inl ⟨rfl, rfl⟩, by simp, fun peer params r heq => ?_, by simp⟩
      exact absurd (hunlocked.symm.trans heq) (by simp)

/-- A client that agrees with the handler in front agrees with the bench. -/
theorem BenchAgreement.client {visible : List Handler}
    (hvisible : InFront addresses front sessions visible)
    (hagree' : Agreement call sc served files addresses.relaySocket addresses.frontAddress c'
      visible) : BenchAgreement call sc served files addresses c' front sessions := by
  refine ⟨hagree.handlers, hagree.started, hagree.behind, fun hnone => ?_, fun e he => ?_⟩
  · rcases hvisible with ⟨-, rfl⟩ | ⟨k, h, hsome, -, -⟩
    · cases hlocked : c'.phase.locked with
      | none => rfl
      | some locked =>
          obtain ⟨k, h, hk, -⟩ := hagree'.agreed _ _ _ hlocked
          exact absurd hk (by simp)
    · exact absurd (hnone.symm.trans hsome) (by simp)
  · rcases hvisible with ⟨hnone, -⟩ | ⟨k, h, hsome, hk, rfl⟩
    · exact absurd (hnone.symm.trans he) (by simp)
    · exact ⟨k, h, Option.some.inj (he.symm.trans hsome), hk, hagree'⟩

/-- The client is locked onto the listen socket of the proxy, and the proxy onto a handler that has
negotiated the same with it. -/
theorem BenchAgreement.lockedOnto {peer : Endpoint} {params : NegotiatedParameters}
    {r : ReceiverState} (hlocked : c.phase.locked = some (peer, params, r)) :
    peer = addresses.address (.proxy .listen) ∧ ∃ (k : ℕ) (h : Handler),
      sessions[k]? = some h ∧ front = some (addresses.address (.session k)) ∧
      (params.blockSize = h.params.blockSize ∧ params.windowSize = h.params.windowSize) ∧
      Reader call sc served files addresses.relaySocket h ∧
      Safe h.payload h.params h.params sc (h.sender sc) r := by
  obtain ⟨visible, hvisible, hagree'⟩ := hagree.visible
  obtain ⟨j, g, hj, hr, hpeer, hparams⟩ := hagree'.agreed _ _ _ hlocked
  have hsafe := hagree'.safe j g hj hr
  rcases hvisible with ⟨-, rfl⟩ | ⟨k, h, hsome, hk, rfl⟩
  · exact absurd hj (by simp)
  · obtain ⟨rfl, rfl⟩ := eq_of_getElem?_singleton hj
    rw [← hpeer, partner_locked hlocked] at hsafe
    exact ⟨hpeer, k, g, hk, hsome, hparams, hr, hsafe⟩

/-- A proxy whose client is locked is locked itself. -/
theorem BenchAgreement.locked {peer : Endpoint} {params : NegotiatedParameters}
    {r : ReceiverState} (hlocked : c.phase.locked = some (peer, params, r)) :
    peer = addresses.address (.proxy .listen) ∧ front ≠ none := by
  obtain ⟨hpeer, k, h, -, hfront, -⟩ := hagree.lockedOnto hlocked
  exact ⟨hpeer, by rw [hfront]; exact Option.some_ne_none _⟩

/-- No handler has sent a block beyond the last one. -/
theorem BenchAgreement.sent_le (hb : 1 ≤ sc.defaultBlockSize)
    (homit : sc.quirks.omitTerminatingEmptyBlock = false) (hblocks : BlocksFit call sc served files)
    {k : ℕ} {h : Handler} (hk : sessions[k]? = some h)
    (hr : Reader call sc served files addresses.relaySocket h) :
    (h.sender sc).highestSent ≤ h.payload.length / h.params.blockSize + 1 := by
  have hinv : SenderInv h.payload h.params sc (h.sender sc) := by
    by_cases hfront : front = some (addresses.address (.session k))
    · obtain ⟨j, g, heq, hj, hvisible⟩ := hagree.ahead _ hfront
      cases BenchParty.session.inj (addresses.injective heq)
      cases Option.some.inj (hk.symm.trans hj)
      exact (hvisible.safe 0 h rfl hr).sender
    · exact (hagree.behind k h hk hr hfront).1.sender
  have hsent := hinv.sent_le
  have htotal := (hr.framed hb hblocks).total_eq homit
  omega

/-- **What a handler hears**: the one in front the client, any other nobody.  `acked` says that the
client is locked onto it, and `r` is the receiver it has there. -/
theorem BenchAgreement.hears (hname : (0 : UInt8) ∉ call.remoteFilename)
    (hmode : (0 : UInt8) ∉ call.mode) {k : ℕ} {h : Handler} (hk : sessions[k]? = some h)
    (hr : Reader call sc served files addresses.relaySocket h) {event : SocketEvent}
    (hevent : ∀ bytes, event = .datagram addresses.relaySocket bytes →
      front = some (addresses.address (.session k)) ∧
        (downloadTransfer call file sc served files addresses before).ClientSays c front bytes) :
    ∃ (acked : Prop) (r : ReceiverState),
      Safe h.payload h.params h.params sc (h.sender sc) r ∧
      (∀ bytes packet, event = .datagram addresses.relaySocket bytes →
        parseDatagram bytes = .ok packet → packet.opcode = .acknowledgement →
          acked ∧ ∃ a, a ≤ r.lastInSequence ∧ packet.blockNumber = wireBlockNumber a) ∧
      (front ≠ some (addresses.address (.session k)) → r = {} ∧ ¬ acked) ∧
      (front = some (addresses.address (.session k)) → ∀ h' sends,
        ReaderStep call sc served files addresses.relaySocket acked r h h' sends →
          Agreement call sc served files addresses.relaySocket addresses.frontAddress c [h']) := by
  by_cases hfront : front = some (addresses.address (.session k))
  · obtain ⟨j, g, heq, hj, hvisible⟩ := hagree.ahead _ hfront
    cases BenchParty.session.inj (addresses.injective heq)
    cases Option.some.inj (hk.symm.trans hj)
    refine ⟨∃ params r, c.phase.locked = some (addresses.frontAddress 0, params, r),
      partner c (addresses.frontAddress 0), hvisible.safe 0 h rfl hr, ?_,
      fun hne => absurd hfront hne, fun _ h' sends hstep => hvisible.front_step hr hstep⟩
    intro bytes packet heq hparse hop
    rcases (hevent bytes heq).2 with rfl |
      ⟨-, ⟨-, packet', hparse', herr⟩ | ⟨params, r, a, hlocked, ha, rfl⟩⟩
    · cases Except.ok.inj (hparse.symm.trans (parse_readRequestDatagram hname hmode))
      exact absurd hop (by simp [readRequestPacket])
    · cases Except.ok.inj (hparse.symm.trans hparse')
      exact absurd (herr.symm.trans hop) (by simp)
    · cases Except.ok.inj (hparse.symm.trans (parse_ackDatagram a))
      have hlocked' : c.phase.locked = some (addresses.frontAddress 0, params, r) := hlocked
      rw [partner_locked hlocked']
      exact ⟨⟨params, r, hlocked'⟩, a, ha, rfl⟩
  · refine ⟨False, {}, (hagree.behind k h hk hr hfront).1, ?_, fun _ => ⟨rfl, id⟩,
      fun heq => absurd heq hfront⟩
    intro bytes packet heq
    exact absurd (hevent bytes heq).1 hfront

/-- A handler that has moved on, seen or not. -/
theorem BenchAgreement.session {k : ℕ} {h h' : Handler} (hk : sessions[k]? = some h)
    (hr : Reader call sc served files addresses.relaySocket h) {acked : Prop} {r : ReceiverState}
    {sends : List (Endpoint × Bytes)}
    (hstep : ReaderStep call sc served files addresses.relaySocket acked r h h' sends)
    (hbehind : front ≠ some (addresses.address (.session k)) → r = {} ∧ ¬ acked)
    (hahead : front = some (addresses.address (.session k)) →
      Agreement call sc served files addresses.relaySocket addresses.frontAddress c [h']) :
    BenchAgreement call sc served files addresses c front (sessions.set k h') := by
  refine ⟨?_, ?_, ?_, hagree.unlocked, ?_⟩
  · intro j g hj
    rcases Service.getElem?_set_cases hk hj with ⟨rfl, rfl⟩ | ⟨-, hj⟩
    · exact Or.inl hstep.reader
    · exact hagree.handlers j g hj
  · intro j g hj hg
    rcases Service.getElem?_set_cases hk hj with ⟨rfl, rfl⟩ | ⟨-, hj⟩
    · obtain ⟨hsending, hfirst⟩ := hagree.started j h hk hr
      have hsame : g.firstSent sc = h.firstSent sc := by
        rw [Handler.firstSent, Handler.firstSent, hstep.payload_eq, hstep.params_eq]
      refine ⟨fun hoack => hstep.sending (hsending (hstep.oack_eq ▸ hoack)), ?_⟩
      rw [hsame]
      exact le_trans hfirst hstep.sent_le
    · exact hagree.started j g hj hg
  · intro j g hj hg hother
    rcases Service.getElem?_set_cases hk hj with ⟨rfl, rfl⟩ | ⟨-, hj⟩
    · obtain ⟨rfl, hnot⟩ := hbehind hother
      refine ⟨by rw [hstep.payload_eq, hstep.params_eq]; exact hstep.safe, fun hsend => ?_⟩
      rcases hstep.starts hsend with hbefore | hacked
      · rw [hstep.oack_eq]
        exact (hagree.behind j h hk hr hother).2 hbefore
      · exact absurd hacked hnot
    · exact hagree.behind j g hj hg hother
  · intro e he
    obtain ⟨j, g, rfl, hj, hvisible⟩ := hagree.ahead e he
    by_cases hjk : j = k
    · subst hjk
      exact ⟨j, h', rfl, List.getElem?_set_self (List.getElem?_eq_some_iff.1 hk).1, hahead he⟩
    · exact ⟨j, g, rfl, by rw [List.getElem?_set_ne (Ne.symm hjk)]; exact hj, hvisible⟩

/-- A handler that has just been opened is behind the one in front. -/
theorem BenchAgreement.opened {h : Handler}
    (hopened : servedPayload call served files = none ∧ h.phase = .returned ∨
      Reader call sc served files addresses.relaySocket h ∧
        Safe h.payload h.params h.params sc (h.sender sc) {} ∧
        (h.IsSending ↔ h.oackOptions = []) ∧ h.firstSent sc ≤ (h.sender sc).highestSent) :
    BenchAgreement call sc served files addresses c front (sessions ++ [h]) := by
  have hnone : Reader call sc served files addresses.relaySocket h →
      ¬ servedPayload call served files = none := by
    intro hr hnone
    exact absurd (hnone.symm.trans hr.payload_eq) (by simp)
  refine ⟨?_, ?_, ?_, hagree.unlocked, ?_⟩
  · intro j g hj
    rcases Service.getElem?_open_cases hj with ⟨rfl, rfl⟩ | hj
    · rcases hopened with hrefused | ⟨hr, -⟩
      · exact Or.inr hrefused
      · exact Or.inl hr
    · exact hagree.handlers j g hj
  · intro j g hj hg
    rcases Service.getElem?_open_cases hj with ⟨rfl, rfl⟩ | hj
    · rcases hopened with ⟨hrefused, -⟩ | ⟨-, -, hsending, hfirst⟩
      · exact absurd hrefused (hnone hg)
      · exact ⟨hsending.2, hfirst⟩
    · exact hagree.started j g hj hg
  · intro j g hj hg hother
    rcases Service.getElem?_open_cases hj with ⟨rfl, rfl⟩ | hj
    · rcases hopened with ⟨hrefused, -⟩ | ⟨-, hsafe, hsending, -⟩
      · exact absurd hrefused (hnone hg)
      · exact ⟨hsafe, hsending.1⟩
    · exact hagree.behind j g hj hg hother
  · intro e he
    obtain ⟨j, g, rfl, hj, hvisible⟩ := hagree.ahead e he
    exact ⟨j, g, rfl, Service.getElem?_open hj, hvisible⟩

end Front

/-- A handler without an OACK starts to send at once, and one with an OACK has its first window
before it. -/
theorem started_acceptRequest {client : Endpoint} (hname : (0 : UInt8) ∉ call.remoteFilename)
    (hmode : (0 : UInt8) ∉ call.mode) {h : Handler} {sends : List (Endpoint × Bytes)}
    (haccept : acceptRequest sc served files client (readRequestDatagram call) = some (h, sends))
    (hr : Reader call sc served files client h) :
    (h.oackOptions = [] → h.IsSending) ∧ h.firstSent sc ≤ (h.sender sc).highestSent := by
  obtain ⟨bytes, hbytes, -⟩ := Option.map_eq_some_iff.1 hr.payload_eq
  obtain ⟨path, hpath, hfile⟩ := Option.bind_eq_some_iff.1 hbytes
  have hopened := (acceptRequest_readRequest hname hmode hpath hfile).symm.trans haccept
  by_cases hoack : (openedReader call sc client path bytes).oackOptions = []
  · rw [if_pos hoack] at hopened
    cases Option.some.inj hopened
    exact ⟨fun _ => ⟨_, rfl⟩, le_refl _⟩
  · rw [if_neg hoack] at hopened
    have hwait : ∀ phase, (∀ s, phase ≠ .sending s) →
        (Handler.sender sc { openedReader call sc client path bytes with phase := phase }) =
          (senderStart (openedReader call sc client path bytes).payload
            (openedReader call sc client path bytes).params sc 0).1 := by
      intro phase hphase
      refine Handler.sender_of_waiting ?_
      rintro ⟨s, hs⟩
      exact hphase s hs
    unfold oackAttempt at hopened
    split at hopened
    · cases Option.some.inj hopened
      exact ⟨fun hnil => absurd hnil hoack, by rw [hwait _ (by simp)]; exact le_refl _⟩
    · cases Option.some.inj hopened
      exact ⟨fun hnil => absurd hnil hoack, by rw [hwait _ (by simp)]; exact le_refl _⟩

section Reactions

variable {c : ReadFileState} {front : Option Endpoint} {sessions : List Handler}
  (hold : BenchAgreement call sc served files addresses c front sessions)

include hold

/-- The handler that answers first comes to the front; the client is still in its handshake. -/
theorem BenchAgreement.locks {k : ℕ} {h : Handler} (hnone : front = none)
    (hk : sessions[k]? = some h) :
    BenchAgreement call sc served files addresses c (some (addresses.address (.session k)))
      sessions := by
  subst hnone
  have hunlocked := hold.unlocked rfl
  refine ⟨hold.handlers, hold.started, fun j g hj hg _ => hold.behind j g hj hg (by simp),
    fun hnone => absurd hnone (by simp), fun e he => ?_⟩
  cases Option.some.inj he
  have hother : (none : Option Endpoint) ≠ some (addresses.address (.session k)) := by simp
  refine ⟨k, h, rfl, hk, ?_, ?_, ?_⟩
  · intro j g hj hg
    obtain ⟨rfl, rfl⟩ := eq_of_getElem?_singleton hj
    rw [partner_other fun params r heq => absurd (hunlocked.symm.trans heq) (by simp)]
    exact (hold.behind k g hk hg hother).1
  · intro peer params r heq
    exact absurd (hunlocked.symm.trans heq) (by simp)
  · intro j g hj hg hsend
    obtain ⟨rfl, rfl⟩ := eq_of_getElem?_singleton hj
    exact Or.inl ((hold.behind k g hk hg hother).2 hsend)

variable (hb : 1 ≤ sc.defaultBlockSize) (homit : sc.quirks.omitTerminatingEmptyBlock = false)
  (hblocks : BlocksFit call sc served files)

include hb homit hblocks

/-- **A reaction of the client**: for it the server is the handler in front. -/
theorem BenchAgreement.readFile (hbig : sc.defaultBlockSize < 2 ^ 32)
    (hdefault : call.config.defaultBlockSize = sc.defaultBlockSize)
    (hskip : call.config.quirks.acceptOutOfSequenceData = false)
    (hlisten : call.serverEndpoint = addresses.address (.proxy .listen))
    {event : Option (Endpoint × Bytes)}
    (hevent : ∀ sender bytes, event = some (sender, bytes) →
      sender = addresses.address (.proxy .listen) ∧ front ≠ none ∧
        ∃ (k : ℕ) (h : Handler), sessions[k]? = some h ∧
          ReaderSends call sc served files addresses.relaySocket h bytes) :
    BenchAgreement call sc served files addresses
        (readFileReceive call file c (eventOf event)).1 front sessions ∧
      (∀ bytes, ReadClientSends c (addresses.address (.proxy .listen)) bytes →
        ReadClientSends (readFileReceive call file c (eventOf event)).1
          (addresses.address (.proxy .listen)) bytes) ∧
      ∀ send ∈ (readFileReceive call file c (eventOf event)).2,
        send.1 = addresses.address (.proxy .listen) ∧ (send.2 = readRequestDatagram call ∨
          front ≠ none ∧ ReadClientSends (readFileReceive call file c (eventOf event)).1
            (addresses.address (.proxy .listen)) send.2) := by
  obtain ⟨visible, hvisible, hagree⟩ := hold.visible
  have hreceived : ∀ sender bytes, eventOf event = .datagram sender bytes →
      event = some (sender, bytes) := fun sender bytes => eventOf_eq_datagram.1
  have hstep := @readFileReceive_step call file sc served files addresses.relaySocket
    addresses.frontAddress c visible (frontAddress_injective addresses) hb hbig hdefault
    homit hskip hblocks hagree (eventOf event) (by
      intro sender bytes heq
      obtain ⟨hsender, hlocked, j, g, hj, hsends⟩ := hevent _ _ (hreceived _ _ heq)
      rcases hvisible with ⟨hnone, -⟩ | ⟨k, h, hsome, hk, rfl⟩
      · exact absurd hnone hlocked
      · exact ⟨0, h, hsender, rfl, hsends.front hb homit hblocks hold hj hk hsome⟩)
  have htargets := @readFileReceive_targets call file c (eventOf event)
  generalize readFileReceive call file c (eventOf event) = reacted at hstep htargets ⊢
  refine ⟨hold.client hvisible hstep.agreement,
    fun bytes hsent => hsent.mono fun params r => hstep.moves _ params r, fun send hmem => ?_⟩
  -- to the proxy in any case: the request, or an answer to what the proxy has handed on
  have hrequest : send = (call.serverEndpoint, readRequestDatagram call) →
      send.1 = addresses.address (.proxy .listen) ∧ (send.2 = readRequestDatagram call ∨
        front ≠ none ∧ ReadClientSends reacted.1 (addresses.address (.proxy .listen)) send.2) := by
    rintro rfl
    exact ⟨hlisten, Or.inl rfl⟩
  have hanswer : send.1 = addresses.address (.proxy .listen) → front ≠ none →
      send.1 = addresses.address (.proxy .listen) ∧ (send.2 = readRequestDatagram call ∨
        front ≠ none ∧ ReadClientSends reacted.1 (addresses.address (.proxy .listen)) send.2) := by
    intro htarget hlocked
    rcases hstep.sends _ hmem with hsend | ⟨k, hk, hsent⟩
    · exact hrequest hsend
    · have hzero : addresses.frontAddress k = addresses.frontAddress 0 := hk.symm.trans htarget
      rw [hzero] at hsent
      exact ⟨htarget, Or.inr ⟨hlocked, hsent⟩⟩
  rcases htargets _ hmem with hsend | ⟨params, r, hlocked⟩ | ⟨bytes, hdatagram⟩
  · exact hrequest hsend
  · obtain ⟨hpeer, hfront⟩ := hold.locked hlocked
    exact hanswer hpeer hfront
  · obtain ⟨hsender, hfront, -⟩ := hevent _ _ (hreceived _ _ hdatagram)
    exact hanswer hsender hfront

/-- **A reaction of a handler**: only the one in front ever hears the client. -/
theorem BenchAgreement.handler (hdup : sc.quirks.retransmitOnDuplicateAck = false)
    (hname : (0 : UInt8) ∉ call.remoteFilename) (hmode : (0 : UInt8) ∉ call.mode) {k : ℕ}
    {h : Handler} (hk : sessions[k]? = some h) {event : Option (Endpoint × Bytes)}
    (hevent : ∀ sender bytes, event = some (sender, bytes) →
      sender = addresses.relaySocket ∧ front = some (addresses.address (.session k)) ∧
        (downloadTransfer call file sc served files addresses before).ClientSays c front bytes) :
    (handlerReceive sc files h (eventOf event)).1 = files ∧
      BenchAgreement call sc served files addresses c front
        (sessions.set k (handlerReceive sc files h (eventOf event)).2.1) ∧
      (∀ bytes, ReaderSends call sc served files addresses.relaySocket h bytes →
        ReaderSends call sc served files addresses.relaySocket
          (handlerReceive sc files h (eventOf event)).2.1 bytes) ∧
      ∀ send ∈ (handlerReceive sc files h (eventOf event)).2.2,
        send.1 = addresses.relaySocket ∧ ReaderSends call sc served files addresses.relaySocket
          (handlerReceive sc files h (eventOf event)).2.1 send.2 := by
  rcases hold.handlers k h hk with hr | ⟨-, hphase⟩
  · have hsmall := hblocks h.payload hr.payload_eq
    rw [hr.negotiated_eq] at hsmall
    obtain ⟨acked, r, hsafe, hpacket, hbehind, hahead⟩ := hold.hears hname hmode hk hr
      fun bytes heq => (hevent _ bytes (eventOf_eq_datagram.1 heq)).2
    obtain ⟨hshared, hstep⟩ := @reader_receive call sc served files addresses.relaySocket acked r
      h hr hsafe homit hdup (hr.framed hb hblocks) hsmall (eventOf event)
      (fun sender bytes heq => (hevent _ _ (eventOf_eq_datagram.1 heq)).1) hpacket files
    exact ⟨hshared, hold.session hk hr hstep hbehind fun hfront => hahead hfront _ _ hstep,
      fun bytes hsent => hsent.mono (fun _ => hstep.reader) hstep.payload_eq hstep.params_eq
        hstep.oack_eq hstep.sending hstep.sent_le, hstep.sends⟩
  · -- a handler that has refused the request
    have hstill : handlerReceive sc files h (eventOf event) = (files, h, []) := by
      simp only [handlerReceive, hphase]
    obtain ⟨hlt, rfl⟩ := List.getElem?_eq_some_iff.1 hk
    rw [hstill, List.set_getElem_self]
    exact ⟨rfl, hold, fun _ => id, fun send hmem => absurd hmem List.not_mem_nil⟩

/-- **The listener**: a copy of the request opens a handler. -/
theorem BenchAgreement.accept (hname : (0 : UInt8) ∉ call.remoteFilename)
    (hmode : (0 : UInt8) ∉ call.mode) {h : Handler} {sends : List (Endpoint × Bytes)}
    (haccept : acceptRequest sc served files addresses.relaySocket (readRequestDatagram call) =
      some (h, sends)) :
    BenchAgreement call sc served files addresses c front (sessions ++ [h]) ∧
      ∀ send ∈ sends, send.1 = addresses.relaySocket ∧
        ReaderSends call sc served files addresses.relaySocket h send.2 := by
  rcases reader_accept hname hmode hb homit hblocks haccept with
    ⟨hnone, hphase, hsends⟩ | ⟨hr, hsafe, hstarts, hsends⟩
  · exact ⟨hold.opened (Or.inl ⟨hnone, hphase⟩),
      fun send hmem => ⟨(hsends _ hmem).1, Or.inl (hsends _ hmem).2⟩⟩
  · obtain ⟨hsending, hfirst⟩ := started_acceptRequest hname hmode haccept hr
    exact ⟨hold.opened (Or.inr ⟨hr, hsafe, ⟨hstarts, hsending⟩, hfirst⟩), hsends⟩

end Reactions

/-- **Every reaction of the two ends of a download keeps what holds of them.** -/
theorem downloadTransfer_lawful (hb : 1 ≤ sc.defaultBlockSize)
    (homit : sc.quirks.omitTerminatingEmptyBlock = false)
    (hblocks : BlocksFit call sc served files) (hbig : sc.defaultBlockSize < 2 ^ 32)
    (hdefault : call.config.defaultBlockSize = sc.defaultBlockSize)
    (hdup : sc.quirks.retransmitOnDuplicateAck = false)
    (hskip : call.config.quirks.acceptOutOfSequenceData = false)
    (hname : (0 : UInt8) ∉ call.remoteFilename) (hmode : (0 : UInt8) ∉ call.mode)
    (hlisten : call.serverEndpoint = addresses.address (.proxy .listen)) :
    (downloadTransfer call file sc served files addresses before).Lawful addresses
      (readRoles call file sc served) where
  handlerSends_ne_nil := fun h bytes hsends => hsends.parse.1
  ahead := by
    rintro c front sessions shared e ⟨-, hold, -⟩ he
    obtain ⟨k, h, rfl, -⟩ := hold.ahead e he
    exact ⟨k, rfl⟩
  locks := by
    rintro c sessions shared k h ⟨hfiles, hold, hdestination⟩ hk
    exact ⟨hfiles, hold.locks rfl hk, hdestination⟩
  client := by
    rintro c front sessions shared event ⟨hfiles, hold, hdestination⟩ hevent
    obtain ⟨hagree, hmono, hsends⟩ := hold.readFile hb homit hblocks hbig hdefault hskip hlisten
      hevent
    exact ⟨⟨hfiles, hagree, readFile_destination hdestination (eventOf event)⟩, hmono, hsends⟩
  session := by
    rintro c front sessions shared event k h ⟨rfl, hold, hdestination⟩ hk hevent
    obtain ⟨hfiles, hagree, hmono, hsends⟩ := hold.handler hb homit hblocks hdup hname hmode hk
      hevent
    exact ⟨⟨hfiles, hagree, hdestination⟩, hmono, hsends⟩
  accept := by
    rintro c front sessions shared h sends ⟨hfiles, hold, hdestination⟩ haccept
    rw [serviceRoles_accept, hfiles] at haccept
    obtain ⟨hagree, hsends⟩ := hold.accept hb homit hblocks hname hmode haccept
    exact ⟨⟨hfiles, hagree, hdestination⟩, hsends⟩

end Steps

/-! ### Safety -/

section Safety

variable {call : ClientCall} {file : DestinationFile} {sc : EngineConfig}
  {served : ServedDirectory} {files : Files} {addresses : BenchAddresses}

/-- What holds when the client has sent its first request. -/
theorem proxiedStart_holds {config : ProxyConfig} {clock : ℕ → ℤ}
    (hlisten : call.serverEndpoint = addresses.address (.proxy .listen)) (before : Option Bytes) :
    Network.Holds ((downloadTransfer call file sc served files addresses before).Inv addresses)
      ((downloadTransfer call file sc served files addresses before).Transit addresses)
      (proxiedStart call files addresses config clock before) := by
  have hunlocked : (readFileStart call before).1.phase.locked = none := by
    simp only [readFileStart, readFileAttempt, attemptRequest]
    split <;> rfl
  refine BenchTransfer.holds_start ⟨rfl, ⟨by simp, by simp, by simp, fun _ => hunlocked, by simp⟩,
    destinationInv_attempt before 0⟩ fun send hmem => ?_
  simp only [readFileStart, readFileAttempt, attemptRequest] at hmem
  split at hmem
  · rw [← hlisten]
    exact List.mem_singleton.1 hmem
  · exact absurd hmem List.not_mem_nil

/-- **Safety of a download through the proxy.**  In every state a download on the bench reaches, the
proxy dropping, repeating, delaying and reordering as its configuration and its seed will have it
and the network doing the same between any two parties: a client past its handshake is locked onto
the proxy and has the block size and the window of the handler the proxy is locked onto; a download
that has reported success has written the file; any other has left its destination alone, unless the
final write failed. -/
theorem proxied_download_safety {config : ProxyConfig} {clock : ℕ → ℤ}
    (hsq : sc.quirks = {}) (hcq : call.config.quirks = {})
    (hdefault : call.config.defaultBlockSize = sc.defaultBlockSize)
    (hb : 1 ≤ sc.defaultBlockSize) (hbig : sc.defaultBlockSize < 2 ^ 32)
    (hname : (0 : UInt8) ∉ call.remoteFilename) (hmode : (0 : UInt8) ∉ call.mode)
    (hlisten : call.serverEndpoint = addresses.address (.proxy .listen))
    (hserver : config.serverEndpoint = addresses.address .listener)
    (hinjection : config.injection = none) (hbytes : config.impairment.KeepsBytes)
    (hblocks : BlocksFit call sc served files) {before : Option Bytes}
    {schedule : List (Network.Label BenchEvent)}
    {st : Network.State (BenchState ReadFileState) Endpoint Bytes}
    (h : Network.run (bench addresses config clock (readRoles call file sc served))
      (proxiedStart call files addresses config clock before) schedule = some st) :
    (∀ peer params r, st.parties.client.phase.locked = some (peer, params, r) →
      peer = addresses.address (.proxy .listen) ∧
        ∃ (k : ℕ) (h : Handler), st.parties.sessions[k]? = some h ∧
          st.parties.proxy.front = some (addresses.address (.session k)) ∧
          params.blockSize = h.params.blockSize ∧ params.windowSize = h.params.windowSize) ∧
    (∀ outcome, st.parties.client.phase.outcome = some outcome →
      outcome.completedSuccessfully = true →
        ∃ path bytes, resolveServedPath served call.remoteFilename = some path ∧
          files path = some bytes ∧
          st.parties.client.destination =
            some (if modeIsNetascii call.mode then
                decodeNetasciiToLocal (encodeLocalToNetascii bytes)
              else bytes)) ∧
    ((∀ outcome, st.parties.client.phase.outcome = some outcome →
        outcome.completedSuccessfully = false) →
      st.parties.client.destination = before ∨
        ∃ peer params r outcome,
          st.parties.client.phase = .finished peer params r outcome ∧
          r.outcome.completedSuccessfully = true ∧
          (file.write (decodeForMode (modeIsNetascii call.mode) r.sink)).1 = false) := by
  have homit : sc.quirks.omitTerminatingEmptyBlock = false := by rw [hsq]
  have hdup : sc.quirks.retransmitOnDuplicateAck = false := by rw [hsq]
  have hskip : call.config.quirks.acceptOutOfSequenceData = false := by rw [hcq]
  have hstart := @proxiedStart_holds call file sc served files addresses config clock hlisten before
  obtain ⟨-, hagree, hdestination⟩ := ((downloadTransfer_lawful hb homit hblocks hbig hdefault hdup
    hskip hname hmode hlisten).run hserver hinjection hbytes hstart h).agrees
  refine ⟨?_, ?_, ?_⟩
  · intro peer params r heq
    obtain ⟨hpeer, k, h, hk, hfront, hparams, -⟩ := hagree.lockedOnto heq
    exact ⟨hpeer, k, h, hk, hfront, hparams⟩
  · intro outcome houtcome hcompleted
    refine hdestination.written_file (fun peer params r heq hdone => ?_) houtcome hcompleted
    obtain ⟨-, k, h, -, -, -, hr, hsafe⟩ := hagree.lockedOnto heq
    rw [hsafe.receiver_success (hr.framed hb hblocks) homit hdone]
    exact hr.payload_eq
  · exact hdestination.unwritten

end Safety

/-! ### Two handlers behind the proxy -/

/-- A call for the file `f` through the proxy. -/
def proxiedRead : ClientCall where
  serverEndpoint := benchByPort.address (.proxy .listen)
  remoteFilename := text "f"
  mode := text "octet"
  options := {}
  config := { defaultBlockSize := 2 }

/-- A file of three bytes, by any name. -/
def threeBytes : Files := fun _ => some [1, 2, 3]

/-- The request is repeated on its way to the proxy, and whatever comes first goes on first. -/
def inOrder : List (Network.Label BenchEvent) :=
  .duplicate 0 :: (List.replicate 16 [.deliver 0, .act .flush]).flatten ++ [.act .timeoutClient]

/-- The bench after that schedule. -/
def doubledDownload : Option (Network.State (BenchState ReadFileState) Endpoint Bytes) :=
  Network.run (bench benchByPort doublingProxy (fun _ => 0)
      (readRoles proxiedRead writableFile { defaultBlockSize := 2 } plainDirectory))
    (proxiedStart proxiedRead threeBytes benchByPort doublingProxy (fun _ => 0) none) inOrder

/-- The request opens two handlers, the proxy locks onto one of them, and the file arrives. -/
theorem proxied_download_safety_two_handlers :
    ∃ st, doubledDownload = some st ∧ st.parties.sessions.length = 2 ∧
      st.parties.client.destination = some [1, 2, 3] := by
  have hrun : (doubledDownload.map fun st =>
      (st.parties.sessions.length, st.parties.client.phase.outcome.map
        (·.completedSuccessfully))) = some (2, some true) := by
    decide +kernel
  obtain ⟨st, hst, heq⟩ := Option.map_eq_some_iff.1 hrun
  obtain ⟨hlength, hsome⟩ := Prod.mk.inj heq
  obtain ⟨outcome, houtcome, hcompleted⟩ := Option.map_eq_some_iff.1 hsome
  refine ⟨st, hst, hlength, ?_⟩
  obtain ⟨path, bytes, -, hfile, hdestination⟩ := (@proxied_download_safety proxiedRead writableFile
    { defaultBlockSize := 2 } plainDirectory threeBytes benchByPort doublingProxy (fun _ => 0) rfl
    rfl rfl (by decide) (by decide) (by decide) (by decide) rfl rfl rfl (by decide +kernel) (by
      intro payload hpayload
      cases Option.some.inj hpayload
      decide) none inOrder st hst).2.1 outcome houtcome hcompleted
  cases Option.some.inj hfile
  exact hdestination

end TftpHarness
