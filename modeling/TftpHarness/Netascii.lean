/-
**The netascii transfer encoding.**

`src/net/netascii.cpp` turns local text into netascii and back.  Both directions are single passes
that look at most one byte ahead, so they are recursions on the list of bytes.

Main definitions:

* `TftpHarness.encodeLocalToNetascii`, `TftpHarness.decodeNetasciiToLocal` — the two passes;
* `TftpHarness.modeIsNetascii` — whether a transfer mode asks for them.
-/

import TftpHarness.Packet

set_option relaxedAutoImplicit false
set_option autoImplicit false

namespace TftpHarness

/-- CR, the carriage return. -/
def carriageReturn : UInt8 := 0x0D

/-- LF, the line feed. -/
def lineFeed : UInt8 := 0x0A

/-- `encode_local_to_netascii`: LF becomes CR LF, an existing CR LF stays, a lone CR becomes
CR NUL. -/
def encodeLocalToNetascii : Bytes → Bytes
  | [] => []
  | byte :: rest =>
      if byte = lineFeed then carriageReturn :: lineFeed :: encodeLocalToNetascii rest
      else if byte = carriageReturn then
        match rest with
        | following :: rest' =>
            if following = lineFeed then
              carriageReturn :: lineFeed :: encodeLocalToNetascii rest'
            else carriageReturn :: 0 :: encodeLocalToNetascii (following :: rest')
        | [] => [carriageReturn, 0]
      else byte :: encodeLocalToNetascii rest

/-- `decode_netascii_to_local`: CR LF becomes LF, CR NUL becomes CR, and any other CR is passed
through. -/
def decodeNetasciiToLocal : Bytes → Bytes
  | [] => []
  | [byte] => [byte]
  | byte :: following :: rest =>
      if byte = carriageReturn then
        if following = lineFeed then lineFeed :: decodeNetasciiToLocal rest
        else if following = 0 then carriageReturn :: decodeNetasciiToLocal rest
        else carriageReturn :: decodeNetasciiToLocal (following :: rest)
      else byte :: decodeNetasciiToLocal (following :: rest)

/-- `mode_is_netascii`: the mode of a request, in any case. -/
def modeIsNetascii (mode : Bytes) : Bool := equalsIgnoreAsciiCase mode (text "netascii")

/-- The bytes a file is sent as in a transfer mode. -/
def encodeForMode (netascii : Bool) (bytes : Bytes) : Bytes :=
  if netascii then encodeLocalToNetascii bytes else bytes

/-- The bytes a received transfer is stored as in a transfer mode. -/
def decodeForMode (netascii : Bool) (bytes : Bytes) : Bytes :=
  if netascii then decodeNetasciiToLocal bytes else bytes

/-- What a transfer makes of a file: octet keeps it, netascii takes it through a round trip. -/
theorem decodeForMode_encodeForMode (netascii : Bool) (bytes : Bytes) :
    decodeForMode netascii (encodeForMode netascii bytes) =
      if netascii then decodeNetasciiToLocal (encodeLocalToNetascii bytes) else bytes := by
  cases netascii <;> rfl

end TftpHarness
