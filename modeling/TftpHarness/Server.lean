/-
**The reference server: requests and their handlers.**

The server answers each request it accepts at its listening port from a handler with a socket of
its own.  A handler refuses the request with an ERROR, or negotiates and runs a data plane against
the client: for an RRQ it repeats its OACK until the client acknowledges it, for a WRQ it sends its
OACK or ACK 0 once and leaves the rest to the receiver.  A completed upload is written to the
served directory, which all handlers share.

Main definitions:

* `TftpHarness.ServedDirectory`, `TftpHarness.resolveServedPath` — the served directory;
* `TftpHarness.Handler`, `TftpHarness.HandlerPhase` — one handler and where it stands;
* `TftpHarness.acceptRequest`, `TftpHarness.handleRequest`, `TftpHarness.handlerReceive` — the
  listener, a handler's start and its reaction to a receive.

Main results:

* `TftpHarness.acceptRequest_foreign` — a handler is for whom its request came from, and for the
  file it asks for.
-/

import TftpHarness.Netascii
import TftpHarness.Options
import TftpHarness.Sender
import TftpHarness.Receiver
import Mathlib.Logic.Function.Basic

set_option relaxedAutoImplicit false
set_option autoImplicit false

namespace TftpHarness

/-! ### The served directory -/

/-- The directory a server serves, and `std::filesystem::weakly_canonical`: the canonical form of a
path and whether there was an error. -/
structure ServedDirectory where
  root : Bytes
  weaklyCanonical : Bytes → Bytes × Bool

/-- `operator/` of two paths: an absolute path replaces what stands before it. -/
def joinPath (root filename : Bytes) : Bytes :=
  if filename.head? = some 0x2F then filename
  else if root = [] ∨ root.getLast? = some 0x2F then root ++ filename
  else root ++ 0x2F :: filename

/-- `resolve_served_path`: a requested name, resolved within the root. -/
def resolveServedPath (served : ServedDirectory) (filename : Bytes) : Option Bytes :=
  if filename = [] then none
  else
    let rootCanonical := (served.weaklyCanonical served.root).1
    let candidate := served.weaklyCanonical (joinPath served.root filename)
    if candidate.2 then none
    else if rootCanonical.isPrefixOf candidate.1 then some candidate.1
    else none

/-- What the files hold, by canonical path; `none` where there is no file. -/
abbrev Files := Bytes → Option Bytes

/-! ### A handler -/

/-- Where `handle_request` stands: waiting for ACK 0 after an attempt to send the OACK, in its data
plane, or returned before one. -/
inductive HandlerPhase
  | awaitingAck (attempt : ℕ)
  | sending (s : SenderState)
  | receiving (r : ReceiverState)
  | returned
  deriving DecidableEq, Repr

/-- The local variables of `handle_request`; `payload` is empty for a WRQ. -/
structure Handler where
  clientEndpoint : Endpoint
  path : Bytes
  netascii : Bool
  payload : Bytes := []
  params : NegotiatedParameters
  oackOptions : List TftpOption := []
  phase : HandlerPhase
  deriving DecidableEq, Repr

section Handle

variable (config : EngineConfig)

/-- One iteration of the loop that sends the OACK of a download, or its end without an ACK. -/
def oackAttempt (h : Handler) (attempt : ℕ) : Handler × List (Endpoint × Bytes) :=
  if (attempt : ℤ) ≤ config.maximumRetransmissions then
    ({ h with phase := .awaitingAck attempt },
      [(h.clientEndpoint, serializeOptionAcknowledgement h.oackOptions)])
  else ({ h with phase := .returned }, [])

/-- The sender data plane of a download from its start. -/
def handlerSend (h : Handler) : Handler × List (Endpoint × Bytes) :=
  let started := senderStart h.payload h.params config 0
  ({ h with phase := .sending started.1 },
    started.2.map fun i => (h.clientEndpoint, dataDatagram h.payload h.params i))

/-- A handler that refuses its request with an ERROR. -/
def refuseRequest (h : Handler) (code : TftpErrorCode) (message : Bytes) :
    Handler × List (Endpoint × Bytes) :=
  ({ h with phase := .returned }, [(h.clientEndpoint, serializeError code message)])

/-- `handle_request` for an RRQ, to its first receive. -/
def handleReadRequest (h : Handler) (request : TftpPacket) (bytes : Bytes) :
    Handler × List (Endpoint × Bytes) :=
  let payload := encodeForMode h.netascii bytes
  let negotiated := negotiateServerOptions request config (some payload.length) h.params
  let h := { h with payload := payload, params := negotiated.2, oackOptions := negotiated.1 }
  -- with an OACK, wait for the client's ACK of block 0 before any data
  if negotiated.1 = [] then handlerSend config h else oackAttempt config h 0

/-- `handle_request` for a WRQ, to its first receive. -/
def handleWriteRequest (h : Handler) (request : TftpPacket) : Handler × List (Endpoint × Bytes) :=
  let negotiated := negotiateServerOptions request config none h.params
  let started := receiverStart negotiated.2 config [] 1 none
  ({ h with params := negotiated.2, oackOptions := negotiated.1, phase := .receiving started.1 },
    (h.clientEndpoint, if negotiated.1 = [] then serializeAcknowledgement 0
      else serializeOptionAcknowledgement negotiated.1) ::
        started.2.map fun i => (h.clientEndpoint, ackDatagram i))

/-- `handle_request` from its entry to its first receive. -/
def handleRequest (served : ServedDirectory) (files : Files) (request : TftpPacket)
    (clientEndpoint : Endpoint) : Handler × List (Endpoint × Bytes) :=
  let h : Handler :=
    { clientEndpoint := clientEndpoint
      path := []
      netascii := modeIsNetascii request.mode
      params := { blockSize := config.defaultBlockSize, windowSize := 1 }
      phase := .returned }
  match resolveServedPath served request.filename with
  | none => refuseRequest h TftpErrorCode.accessViolation (text "access violation")
  | some path =>
    let h := { h with path := path }
    if request.opcode = .readRequest then
      match files path with
      | none => refuseRequest h TftpErrorCode.fileNotFound (text "file not found")
      | some bytes => handleReadRequest config h request bytes
    else if config.rejectOverwriteOnWriteRequest ∧ (files path).isSome then
      refuseRequest h TftpErrorCode.fileAlreadyExists (text "file already exists")
    else handleWriteRequest config h request

/-- The files after a reaction of a handler's receiver: when it returns from a completed transfer,
the decoded bytes are written. -/
def storeUpload (h : Handler) (files : Files) (r r' : ReceiverState) : Files :=
  if r.phase ≠ .returned ∧ r'.phase = .returned ∧ r'.outcome.completedSuccessfully then
    Function.update files h.path (some (decodeForMode h.netascii r'.sink))
  else files

/-- `handle_request` from one receive to the next. -/
def handlerReceive (files : Files) (h : Handler) (event : SocketEvent) :
    Files × Handler × List (Endpoint × Bytes) :=
  match h.phase with
  | .awaitingAck attempt =>
      match receiveFromLockedPeer h.clientEndpoint event with
      | (none, replies) => (files, h, replies)
      | (some (.gotPacket reply), replies) =>
          if reply.opcode = .acknowledgement ∧ reply.blockNumber = 0 then
            (files, (handlerSend config h).1, replies ++ (handlerSend config h).2)
          else if reply.opcode = .error then (files, { h with phase := .returned }, replies)
          else
            (files, (oackAttempt config h (attempt + 1)).1,
              replies ++ (oackAttempt config h (attempt + 1)).2)
      | (some _, replies) =>
          (files, (oackAttempt config h (attempt + 1)).1,
            replies ++ (oackAttempt config h (attempt + 1)).2)
  | .sending s =>
      let reacted := (dataSender h.payload h.params config).onEvent h.clientEndpoint s event
      (files, { h with phase := .sending reacted.1 }, reacted.2)
  | .receiving r =>
      let reacted := (dataReceiver h.params config).onEvent h.clientEndpoint r event
      (storeUpload h files r reacted.1, { h with phase := .receiving reacted.1 }, reacted.2)
  | .returned => (files, h, [])

/-- One datagram at the listening port: the handler it opens, if it is a request. -/
def acceptRequest (served : ServedDirectory) (files : Files) (sender : Endpoint) (bytes : Bytes) :
    Option (Handler × List (Endpoint × Bytes)) :=
  if bytes = [] then none
  else
    match parseDatagram bytes with
    | .error _ => none
    | .ok request =>
        if request.opcode ≠ .readRequest ∧ request.opcode ≠ .writeRequest then none
        else some (handleRequest config served files request sender)

end Handle

/-! ### For whom a handler is, and what it stores -/

section Stored

variable {config : EngineConfig} {served : ServedDirectory} {files : Files} {h : Handler}

/-- A receiver that does not move stores nothing. -/
theorem storeUpload_self (h : Handler) (files : Files) (r : ReceiverState) :
    storeUpload h files r r = files := by
  unfold storeUpload
  rw [if_neg]
  rintro ⟨hrun, hreturned, -⟩
  exact hrun hreturned

/-- An upload is stored under the path of its handler. -/
theorem storeUpload_other {path : Bytes} (hpath : h.path ≠ path) (files : Files)
    (r r' : ReceiverState) : storeUpload h files r r' path = files path := by
  unfold storeUpload
  split
  · exact Function.update_of_ne (Ne.symm hpath) _ _
  · rfl

/-- A handler is for whom its request came from, and it receives an upload only if the request asks
for one. -/
theorem acceptRequest_foreign {sender : Endpoint} {bytes : Bytes}
    {sends : List (Endpoint × Bytes)}
    (haccept : acceptRequest config served files sender bytes = some (h, sends)) :
    h.clientEndpoint = sender ∧ (∀ send ∈ sends, send.1 = sender) ∧
      ∀ r, h.phase = .receiving r → ∃ request, parseDatagram bytes = .ok request ∧
        request.opcode = .writeRequest ∧
        resolveServedPath served request.filename = some h.path := by
  unfold acceptRequest at haccept
  split at haccept
  · exact absurd haccept (by simp)
  split at haccept
  · exact absurd haccept (by simp)
  next request hparse =>
  split at haccept
  · exact absurd haccept (by simp)
  next hopcode =>
  have heq := Option.some.inj haccept
  unfold handleRequest at heq
  simp only at heq
  split at heq
  · cases heq
    exact ⟨rfl, by simp, by simp⟩
  next path hpath =>
  split at heq
  · split at heq
    · cases heq
      exact ⟨rfl, by simp, by simp⟩
    · -- a download: an OACK or the first window
      unfold handleReadRequest at heq
      simp only at heq
      split at heq
      · cases heq
        refine ⟨rfl, fun send hmem => ?_, by simp⟩
        obtain ⟨i, -, rfl⟩ := List.mem_map.1 hmem
        rfl
      · unfold oackAttempt at heq
        split at heq
        · cases heq
          exact ⟨rfl, by simp, by simp⟩
        · cases heq
          exact ⟨rfl, by simp, by simp⟩
  next hwrite =>
  split at heq
  · cases heq
    exact ⟨rfl, by simp, by simp⟩
  · unfold handleWriteRequest at heq
    cases heq
    refine ⟨rfl, fun send hmem => ?_, fun r _ => ⟨request, hparse, ?_, hpath⟩⟩
    · rcases List.mem_cons.1 hmem with rfl | hmem
      · rfl
      · obtain ⟨i, -, rfl⟩ := List.mem_map.1 hmem
        rfl
    · by_contra hother
      exact hopcode ⟨hwrite, hother⟩

end Stored

end TftpHarness
