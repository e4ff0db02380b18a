/-
**What the observer sees of a download.**

What the server sends reaches the client through the proxy only, so each block the client has
accepted has a record; and what has a record was sent by a handler, so it is a block of the file.
When the client reports success the trace therefore shows every block of the file, the last one
included, and no judge of a conforming server fails it for the final block or for the transfer ID,
however the proxy and the network have treated the datagrams.

Main definitions:

* `TftpHarness.servedBlock`, `TftpHarness.ServerSays` — what a server that serves a file may say;
* `TftpHarness.downloadAccount` — what the trace shows of a download.

Main results:

* `TftpHarness.readFileReceive_accepted` — a client accepts a block only from the datagram it reads;
* `TftpHarness.downloadAccount_lawful` — every reaction of the two ends keeps the account;
* `TftpHarness.observed_download` — **the observer of a download that succeeds has seen the file**.
-/

import TftpHarness.BlockTrace
import TftpHarness.Judges
import TftpHarness.ProxiedDownload

set_option relaxedAutoImplicit false
set_option autoImplicit false

namespace TftpHarness

/-! ### What the client accepts -/

section Accepts

variable {call : ClientCall} {file : DestinationFile}

/-- **A client accepts a block only from the datagram it reads.** -/
theorem readFileReceive_accepted (hskip : call.config.quirks.acceptOutOfSequenceData = false)
    {c : ReadFileState} {event : SocketEvent}
    (hbound : ∀ peer params r, c.phase.locked = some (peer, params, r) →
      r.lastInSequence + receiverWindow params < 4294967296)
    {peer : Endpoint} {params : NegotiatedParameters} {r' : ReceiverState}
    (hlocked : (readFileReceive call file c event).1.phase.locked = some (peer, params, r'))
    {i : ℕ} (hi : 1 ≤ i) (hle : i ≤ r'.lastInSequence) :
    (∃ r, c.phase.locked = some (peer, params, r) ∧ i ≤ r.lastInSequence) ∨
      ∃ sender bytes packet, event = .datagram sender bytes ∧ parseDatagram bytes = .ok packet ∧
        packet.opcode = .data ∧ packet.blockNumber = wireBlockNumber i := by
  unfold readFileReceive at hlocked
  cases hphase : c.phase with
  | handshake attempt =>
      simp only [hphase] at hlocked
      cases hreply : firstReply event with
      | none =>
          simp only [hreply, readFileAttempt, attemptRequest] at hlocked
          split at hlocked <;> exact absurd hlocked (by simp [ClientPhase.locked])
      | some received =>
          obtain ⟨sender, packet⟩ := received
          obtain ⟨bytes, hevent, hparse⟩ := firstReply_some hreply
          simp only [hreply, readFileReply] at hlocked
          split at hlocked
          · exact absurd hlocked (by simp [ClientPhase.locked])
          · -- after an OACK no block has been accepted yet
            split at hlocked
            · exact absurd hlocked (by simp [ClientPhase.locked])
            · exact absurd hlocked (by simp [ClientPhase.locked])
            · simp only [readFileTransfer, locked_readFileFinish] at hlocked
              cases Option.some.inj hlocked
              exact absurd (le_trans hi hle) (by simp [receiverStart, u32])
          · next hdata =>
              simp only [readFileTransfer, locked_readFileFinish] at hlocked
              cases Option.some.inj hlocked
              have hmove := @receiverMove_data (defaultParameters call.config) call.config hskip
                (receiverStart (defaultParameters call.config) call.config [] 1 none).1 rfl packet
                hdata
              have hzero : (receiverStart (defaultParameters call.config) call.config [] 1
                  none).1.lastInSequence = 0 := rfl
              have hone : receiverWindow (defaultParameters call.config) = 1 := rfl
              rcases hmove.next (by rw [hzero, hone]; decide) with hstill |
                ⟨packet', hgot, hdata', hmoved, hblock⟩
              · rw [hzero] at hstill
                exact absurd (hstill ▸ le_trans hi hle) (by decide)
              · cases hgot
                rw [hzero] at hmoved hblock
                have hfirst : i = 1 := le_antisymm (le_trans hle (le_of_eq hmoved)) hi
                exact Or.inr ⟨_, bytes, packet, hevent, hparse, hdata, hfirst ▸ hblock⟩
          · exact absurd hlocked (by simp [ClientPhase.locked])
  | transfer lockedPeer params' r =>
      simp only [hphase, locked_readFileFinish] at hlocked
      cases Option.some.inj hlocked
      have hlocked' : c.phase.locked = some (peer, params, r) := by rw [hphase]; rfl
      rcases dataReceiver_accepted hskip (hbound _ _ _ hlocked') hle with
        hle | ⟨bytes, packet, hevent, hpacket⟩
      · exact Or.inl ⟨r, rfl, hle⟩
      · exact Or.inr ⟨peer, bytes, packet, hevent, hpacket⟩
  | finished lockedPeer params' r outcome =>
      simp only [hphase] at hlocked
      exact Or.inl ⟨r', hlocked, hle⟩
  | refused outcome => exact absurd hlocked (by simp [hphase, ClientPhase.locked])
  | threw => exact absurd hlocked (by simp [hphase, ClientPhase.locked])

end Accepts

/-! ### The account of a download -/

section Account

variable (call : ClientCall) (sc : EngineConfig)

/-- The context of the observer, with the block size the two ends have negotiated. -/
def downloadContext (payload : Bytes) : ObserverContext where
  direction := .download
  blockSize := (readNegotiated call sc payload.length).2.blockSize

/-- The DATA packet of a block of the file. -/
def servedBlock (payload : Bytes) (i : ℕ) : TftpPacket :=
  dataBlock payload (readNegotiated call sc payload.length).2.blockSize i

/-- The number of the last block of the file. -/
def lastBlock (payload : Bytes) : ℕ :=
  payloadBlocks payload (readNegotiated call sc payload.length).2.blockSize

variable (served : ServedDirectory) (files : Files)

/-- What a server that serves the file may say: the only DATA packets are the blocks of the file. -/
def ServerSays (bytes : Bytes) : Prop :=
  ∃ packet, parseDatagram bytes = .ok packet ∧ (packet.opcode = .data → ∃ payload i,
    servedPayload call served files = some payload ∧ 1 ≤ i ∧ i ≤ lastBlock call sc payload ∧
      packet = servedBlock call sc payload i)

/-- **What the trace shows of a download**: each block the client has accepted. -/
def downloadAccount : BenchTransfer.Account ReadFileState := fun c _ records =>
  ∀ peer params r, c.phase.locked = some (peer, params, r) → ∀ i, 1 ≤ i → i ≤ r.lastInSequence →
    ∃ bytes packet, Shows records .serverToClient bytes ∧ parseDatagram bytes = .ok packet ∧
      packet.opcode = .data ∧ packet.blockNumber = wireBlockNumber i

end Account

section Lawful

variable {call : ClientCall} {file : DestinationFile} {sc : EngineConfig}
  {served : ServedDirectory} {files : Files} {addresses : BenchAddresses} {before : Option Bytes}

/-- The client sends no empty datagram. -/
theorem ReadClientSends.ne_nil {c : ReadFileState} {peer : Endpoint} {bytes : Bytes}
    (h : ReadClientSends c peer bytes) : bytes ≠ [] := by
  rcases h with ⟨hne, -⟩ | ⟨-, -, a, -, -, rfl⟩
  · exact hne
  · simp [ackDatagram, serializeAcknowledgement, bytesOfU16]

section Bench

variable {c : ReadFileState} {front : Option Endpoint} {sessions : List Handler}
  (hagree : BenchAgreement call sc served files addresses c front sessions)
  (hb : 1 ≤ sc.defaultBlockSize) (homit : sc.quirks.omitTerminatingEmptyBlock = false)
  (hblocks : BlocksFit call sc served files)

include hagree hb homit hblocks

/-- What a handler of the bench sends a server may say. -/
theorem ReaderSends.says {k : ℕ} {h : Handler} (hk : sessions[k]? = some h) {bytes : Bytes}
    (hsends : ReaderSends call sc served files addresses.relaySocket h bytes) :
    ServerSays call sc served files bytes := by
  obtain ⟨-, packet, hparse, herr | ⟨-, -, rfl⟩ | ⟨hr, -, i, hi, hle, rfl⟩⟩ := hsends.parse
  · exact ⟨packet, hparse, fun hdata => absurd (herr.symm.trans hdata) (by simp)⟩
  · exact ⟨_, hparse, fun hdata => absurd hdata (by simp)⟩
  · refine ⟨_, hparse, fun _ => ⟨h.payload, i, hr.payload_eq, hi, ?_, ?_⟩⟩
    · rw [lastBlock, hr.negotiated_eq]
      exact le_trans hle (hagree.sent_le hb homit hblocks hk hr)
    · rw [servedBlock, dataBlock, hr.negotiated_eq]

/-- No index of the client can wrap around. -/
theorem BenchAgreement.client_bound {peer : Endpoint} {params : NegotiatedParameters}
    {r : ReceiverState} (hlocked : c.phase.locked = some (peer, params, r)) :
    r.lastInSequence + receiverWindow params < 4294967296 := by
  obtain ⟨-, k, h, -, -, ⟨-, hwindow⟩, hr, hsafe⟩ := hagree.lockedOnto hlocked
  rw [receiverWindow, hwindow]
  exact hsafe.receiver_bound (hr.framed hb hblocks) homit

end Bench

/-- **Every reaction of the two ends of a download keeps the account**: the only one that matters is
the client's, to the datagram of the next block. -/
theorem downloadAccount_lawful (hb : 1 ≤ sc.defaultBlockSize)
    (homit : sc.quirks.omitTerminatingEmptyBlock = false)
    (hskip : call.config.quirks.acceptOutOfSequenceData = false)
    (hblocks : BlocksFit call sc served files) :
    downloadAccount.Lawful (downloadTransfer call file sc served files addresses before) addresses
      (readRoles call file sc served) where
  request_ne_nil := by
    simp [downloadTransfer, readRequestDatagram, serializeReadRequest, bytesOfU16]
  clientSends_ne_nil := fun c bytes hsends => hsends.ne_nil
  append := by
    intro c sessions records record hheard peer params r hlocked i hi hle
    obtain ⟨bytes, packet, hshows, hpacket⟩ := hheard peer params r hlocked i hi hle
    exact ⟨bytes, packet, hshows.append record, hpacket⟩
  client := by
    rintro c front sessions shared records event ⟨-, hold, -⟩ hheard hevent peer params r' hlocked i
      hi hle
    rcases readFileReceive_accepted hskip
      (fun _ _ _ hlocked => hold.client_bound hb homit hblocks hlocked) hlocked hi hle with
      ⟨r, hlocked', hle'⟩ | ⟨sender, bytes, packet, hdatagram, hparse, hdata, hblock⟩
    · exact hheard peer params r hlocked' i hi hle'
    · exact ⟨bytes, packet, hevent sender bytes (eventOf_eq_datagram.1 hdatagram), hparse, hdata,
        hblock⟩
  session := fun _ _ hheard _ => hheard
  accept := fun _ hheard _ => hheard

end Lawful

/-! ### What the observer reads -/

section Observed

variable {call : ClientCall} {file : DestinationFile} {sc : EngineConfig}
  {served : ServedDirectory} {files : Files} {addresses : BenchAddresses} {before : Option Bytes}
  {s : BenchState ReadFileState} {payload : Bytes}
  (hinv : (downloadTransfer call file sc served files addresses before).TraceInv
    downloadAccount addresses s)

include hinv

/-- **The trace of a download shows blocks of the file only.** -/
theorem downloadTrace_onlyBlocks (hb : 1 ≤ sc.defaultBlockSize)
    (homit : sc.quirks.omitTerminatingEmptyBlock = false) (hblocks : BlocksFit call sc served files)
    (hold : BenchAgreement call sc served files addresses s.client s.proxy.front s.sessions)
    (hpayload : servedPayload call served files = some payload) :
    OnlyBlocks (downloadContext call sc payload) payload s.proxy.trace.records := by
  refine onlyBlocks_of_parsed fun record hrecord hdirection => ?_
  obtain ⟨-, bytes, k, h, hbytes, hk, hsends⟩ := hinv.said.server record hrecord hdirection
  obtain ⟨packet, hparse, hblock⟩ := ReaderSends.says hold hb homit hblocks hk hsends
  refine ⟨bytes, packet, hbytes, hparse, fun hdata => ?_⟩
  obtain ⟨payload', i, hpayload', hi, hle, hpacket⟩ := hblock hdata
  cases Option.some.inj (hpayload.symm.trans hpayload')
  exact ⟨i, hi, hle, hpacket⟩

/-- The server is seen to reply from a port of its own. -/
theorem downloadTrace_freshTid (hname : (0 : UInt8) ∉ call.remoteFilename)
    (hmode : (0 : UInt8) ∉ call.mode) {k : ℕ}
    (hfront : s.proxy.front = some (addresses.address (.session k)))
    (hport : (addresses.address (.session k)).port ≠ 0)
    (hfresh : (addresses.address (.session k)).port ≠ (addresses.address .listener).port)
    {packet : TftpPacket}
    (hmem : packet ∈ dataPackets (downloadContext call sc payload) s.proxy.trace.records) :
    (observe s.proxy.trace (downloadContext call sc payload)).serverSelectedFreshTid = true := by
  obtain ⟨record, hrecord, hdata⟩ := List.mem_filterMap.1 hmem
  obtain ⟨⟨hdirection, hpeer⟩, hparsed, hop⟩ := dataPacket_eq_some.1 hdata
  have hdirection' : record.direction = .serverToClient := hdirection
  rcases hinv.opens with ⟨-, hempty⟩ | ⟨request, records, htrace, hsent, hasked, hdestination⟩
  · exact absurd hrecord (by simp [hempty])
  · have hrequest : request.isRequest = true := by
      have hparse : request.parsed = .ok (readRequestPacket call) :=
        hasked.trans (parse_readRequestDatagram hname hmode)
      simp [TraceRecord.isRequest, TraceRecord.packetOf, hsent, hparse, readRequestPacket]
    refine observe_serverSelectedFreshTid _ htrace hrequest hport (hdestination ▸ hfresh) ?_ ?_
    · intro other hother hreply
      have hreplies : other.direction = .serverToClient := by
        simp only [TraceRecord.isServerReply, Bool.and_eq_true, beq_iff_eq] at hreply
        exact hreply.1.2
      obtain ⟨⟨e, he, hsource⟩, -⟩ := hinv.said.server other hother hreplies
      cases Option.some.inj (hfront.symm.trans he)
      exact hsource
    · refine ⟨record, hrecord, ?_⟩
      simp [TraceRecord.isServerReply, TraceRecord.isData, TraceRecord.packetOf, hpeer,
        hdirection', hparsed, hop]

end Observed

/-! ### No false alarm -/

section Judged

variable {call : ClientCall} {file : DestinationFile} {sc : EngineConfig}
  {served : ServedDirectory} {files : Files} {addresses : BenchAddresses}

/-- **The observer of a download that succeeds has seen the file.**  In every state a download
reaches through a proxy that drops, repeats, delays and reorders, the trace shows no DATA packet but
blocks of the file, and a short one only if the last block has been sent.  When the client has
reported success the trace shows every block; the observer then counts as many distinct blocks as
the file has, and neither the judge of the server's transfer ID nor, when the driver has no
complaint of its own, the judge of the final block fails the server. -/
theorem observed_download {config : ProxyConfig} {clock : ℕ → ℤ}
    (hsq : sc.quirks = {}) (hcq : call.config.quirks = {})
    (hdefault : call.config.defaultBlockSize = sc.defaultBlockSize)
    (hb : 1 ≤ sc.defaultBlockSize) (hbig : sc.defaultBlockSize < 2 ^ 32)
    (hname : (0 : UInt8) ∉ call.remoteFilename) (hmode : (0 : UInt8) ∉ call.mode)
    (hlisten : call.serverEndpoint = addresses.address (.proxy .listen))
    (hserver : config.serverEndpoint = addresses.address .listener)
    (hinjection : config.injection = none) (hbytes : config.impairment.KeepsBytes)
    (hblocks : BlocksFit call sc served files)
    (hports : ∀ k, (addresses.address (.session k)).port ≠ 0 ∧
      (addresses.address (.session k)).port ≠ (addresses.address .listener).port)
    {payload : Bytes} (hpayload : servedPayload call served files = some payload)
    {before : Option Bytes} {schedule : List (Network.Label BenchEvent)}
    {st : Network.State (BenchState ReadFileState) Endpoint Bytes}
    (h : Network.run (bench addresses config clock (readRoles call file sc served))
      (proxiedStart call files addresses config clock before) schedule = some st) :
    (∀ packet ∈ dataPackets (downloadContext call sc payload) st.parties.proxy.trace.records,
      ∃ i, 1 ≤ i ∧ i ≤ lastBlock call sc payload ∧ packet = servedBlock call sc payload i) ∧
    ((observe st.parties.proxy.trace
          (downloadContext call sc payload)).terminatingShortBlockPresent = true ↔
      servedBlock call sc payload (lastBlock call sc payload) ∈
        dataPackets (downloadContext call sc payload) st.parties.proxy.trace.records) ∧
    ∀ outcome, st.parties.client.phase.outcome = some outcome →
      outcome.completedSuccessfully = true →
        (∀ i, 1 ≤ i → i ≤ lastBlock call sc payload → servedBlock call sc payload i ∈
          dataPackets (downloadContext call sc payload) st.parties.proxy.trace.records) ∧
        (observe st.parties.proxy.trace (downloadContext call sc payload)).distinctDataBlocks =
          lastBlock call sc payload ∧
        (observe st.parties.proxy.trace (downloadContext call sc payload)).highestBlockNumber =
          lastBlock call sc payload ∧
        ∀ (record : MetricRecord) (result : DriveResult),
          result.observer = observe st.parties.proxy.trace (downloadContext call sc payload) →
            (judgeFreshTid record result).outcome = .pass ∧
            (result.watchdogFired = false → result.setupFailed = false →
              result.appResult.completedSuccessfully = true → result.integrity.matches = true →
                (judgeFinalBlock record result).outcome = .pass) := by
  have homit : sc.quirks.omitTerminatingEmptyBlock = false := by rw [hsq]
  have hdup : sc.quirks.retransmitOnDuplicateAck = false := by rw [hsq]
  have hskip : call.config.quirks.acceptOutOfSequenceData = false := by rw [hcq]
  have hstart := @proxiedStart_holds call file sc served files addresses config clock hlisten before
  have hunlocked : (readFileStart call before).1.phase.locked = none :=
    hstart.invariant.agrees.2.1.unlocked rfl
  obtain ⟨hends, hinv⟩ := (downloadAccount_lawful hb homit hskip hblocks).run
    (downloadTransfer_lawful hb homit hblocks hbig hdefault hdup hskip hname hmode hlisten) hserver
    hinjection hbytes hstart
    (fun _ _ _ hlocked => absurd (hunlocked.symm.trans hlocked) (by simp)) h
  obtain ⟨-, hagree, hdestination⟩ := hends.agrees
  have hpositive : 1 ≤ (readNegotiated call sc payload.length).2.blockSize := by
    have hrange := (negotiateServerOptions_range (readRequestPacket call) sc (some payload.length)
      (defaultParameters sc)).1
    have hdefault' : (defaultParameters sc).blockSize = sc.defaultBlockSize := rfl
    rw [← readNegotiated] at hrange
    omega
  have honly := downloadTrace_onlyBlocks hinv hb homit hblocks hagree hpayload
  have hfit : payloadBlocks payload (downloadContext call sc payload).blockSize ≤ 65535 :=
    hblocks payload hpayload
  refine ⟨honly, honly.shortBlock hfit hpositive, ?_⟩
  intro outcome houtcome hcompleted
  -- the client holds the whole file, and the trace what the client holds
  obtain ⟨peer, params, r, hphase, hdone, -⟩ := hdestination.written outcome houtcome hcompleted
  have hlocked : st.parties.client.phase.locked = some (peer, params, r) := by
    rw [hphase]
    rfl
  obtain ⟨-, k, g, -, hfront, -, hr, hsafe⟩ := hagree.lockedOnto hlocked
  have hf := hr.framed hb hblocks
  have hwhole : r.lastInSequence = lastBlock call sc payload := by
    have hfinal : r.gotFinal = true := by
      unfold ReceiverState.gotFinal
      split
      · rfl
      · exact hdone
    rw [hsafe.final_total hf rfl homit hfinal, hf.total_eq homit, lastBlock, payloadBlocks]
    cases Option.some.inj (hpayload.symm.trans hr.payload_eq)
    rw [hr.negotiated_eq]
  have hall : AllBlocks (downloadContext call sc payload) payload
      st.parties.proxy.trace.records := by
    intro i hi hle
    obtain ⟨bytes, packet, hshows, hparse, hop, hnumber⟩ :=
      hinv.heard peer params r hlocked i hi (le_of_le_of_eq hle hwhole.symm)
    exact honly.shows hfit hle hshows hparse hop hnumber
  have hlast := hall _ (Nat.succ_pos _) (le_refl _)
  obtain ⟨hdistinct, hhighest⟩ := honly.counts hfit hall
  have hfresh := downloadTrace_freshTid hinv hname hmode hfront (hports k).1 (hports k).2 hlast
  have hshort := (honly.shortBlock hfit hpositive).2 hlast
  refine ⟨hall, hdistinct, hhighest, fun record result hobserver => ⟨?_, ?_⟩⟩
  · simp only [judgeFreshTid, hobserver, hfresh, if_true]
  · intro hwatchdog hsetup happ hmatches
    simp [judgeFinalBlock, hobserver, hshort, hwatchdog, hsetup, happ, hmatches]

/-- The trace of a file that arrives through a proxy which sends everything twice. -/
theorem observed_download_doubled : ∃ st, doubledDownload = some st ∧
    (observe st.parties.proxy.trace (downloadContext proxiedRead { defaultBlockSize := 2 }
      [1, 2, 3])).distinctDataBlocks = 2 := by
  have hrun : (doubledDownload.map fun st => st.parties.client.phase.outcome.map
      (·.completedSuccessfully)) = some (some true) := by
    decide +kernel
  obtain ⟨st, hst, hsome⟩ := Option.map_eq_some_iff.1 hrun
  obtain ⟨outcome, houtcome, hcompleted⟩ := Option.map_eq_some_iff.1 hsome
  refine ⟨st, hst, ?_⟩
  have hpayload : servedPayload proxiedRead plainDirectory threeBytes = some [1, 2, 3] := by
    decide +kernel
  have hports : ∀ k, (benchByPort.address (.session k)).port ≠ 0 ∧
      (benchByPort.address (.session k)).port ≠ (benchByPort.address .listener).port := by
    intro k
    simp only [benchByPort, benchPort]
    omega
  have hblocks : BlocksFit proxiedRead { defaultBlockSize := 2 } plainDirectory threeBytes := by
    intro payload hpayload
    cases Option.some.inj hpayload
    decide
  exact ((@observed_download proxiedRead writableFile { defaultBlockSize := 2 } plainDirectory
    threeBytes benchByPort doublingProxy (fun _ => 0) rfl rfl rfl (by decide) (by decide)
    (by decide) (by decide) rfl rfl rfl (by decide +kernel) hblocks hports [1, 2, 3] hpayload none
    inOrder st hst).2.2 outcome houtcome hcompleted).2.1

end Judged

end TftpHarness
