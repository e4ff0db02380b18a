/-
**The TFTP wire format: parsing and serialising datagrams.**

`src/net/tftp_packet.cpp` is the one place of the harness that knows the wire layout.  A datagram
is read through a pointer and a length, so the parser below takes the memory as a function from
indices to bytes together with the number of valid bytes; the overload for a `std::vector` is
`TftpHarness.parseDatagram`.  A rejected datagram carries the parser's reason.

Main definitions:

* `TftpHarness.TftpOpcode`, `TftpHarness.TftpErrorCode`, `TftpHarness.TftpOption`,
  `TftpHarness.TftpPacket` — the parsed structures;
* `TftpHarness.equalsIgnoreAsciiCase` — the comparison of option names;
* `TftpHarness.readCString`, `TftpHarness.parseOptionList`, `TftpHarness.parseTftpPacket` — the
  parser;
* `TftpHarness.serializeReadRequest` and its siblings — the serialisers.

Main results:

* `TftpHarness.parse_serializeData`, `TftpHarness.parse_serializeAcknowledgement`,
  `TftpHarness.parse_serializeError`, `TftpHarness.parse_serializeReadRequest`,
  `TftpHarness.parse_serializeWriteRequest`, `TftpHarness.parse_serializeOptionAcknowledgement` —
  **what a peer serialises is what the other end parses**.
-/

import TftpHarness.Numeral
import Mathlib.Data.List.Range

set_option relaxedAutoImplicit false
set_option autoImplicit false

namespace TftpHarness

/-! ### Packets -/

/-- The opcodes of RFC 1350 section 5, extended by RFC 2347. -/
inductive TftpOpcode
  | readRequest
  | writeRequest
  | data
  | acknowledgement
  | error
  | optionAcknowledgement
  deriving DecidableEq, Repr

/-- The wire value of an opcode. -/
def TftpOpcode.code : TftpOpcode → ℕ
  | .readRequest => 1
  | .writeRequest => 2
  | .data => 3
  | .acknowledgement => 4
  | .error => 5
  | .optionAcknowledgement => 6

/-- An error code.  The enumeration has a fixed 16-bit type and the parser casts whatever is on the
wire, so a value need not be one of the named ones. -/
structure TftpErrorCode where
  code : ℕ
  deriving DecidableEq, Repr

namespace TftpErrorCode

def notDefined : TftpErrorCode := ⟨0⟩
def fileNotFound : TftpErrorCode := ⟨1⟩
def accessViolation : TftpErrorCode := ⟨2⟩
def diskFull : TftpErrorCode := ⟨3⟩
def illegalOperation : TftpErrorCode := ⟨4⟩
def unknownTransferId : TftpErrorCode := ⟨5⟩
def fileAlreadyExists : TftpErrorCode := ⟨6⟩
def noSuchUser : TftpErrorCode := ⟨7⟩
def optionNegotiationFailed : TftpErrorCode := ⟨8⟩

end TftpErrorCode

/-- One negotiated option, a name and a value. -/
structure TftpOption where
  name : Bytes
  value : Bytes
  deriving DecidableEq, Repr

/-- A parsed packet; only the fields of its opcode are populated. -/
structure TftpPacket where
  opcode : TftpOpcode
  filename : Bytes := []
  mode : Bytes := []
  options : List TftpOption := []
  blockNumber : ℕ := 0
  data : Bytes := []
  errorCode : TftpErrorCode := ⟨0⟩
  errorMessage : Bytes := []
  deriving DecidableEq, Repr

/-- `std::tolower` in the C locale. -/
def toLower (b : UInt8) : UInt8 := if 65 ≤ b ∧ b ≤ 90 then b + 32 else b

/-- ASCII case-insensitive equality, used for option names and modes. -/
def equalsIgnoreAsciiCase (left right : Bytes) : Bool := left.map toLower == right.map toLower

@[simp] theorem equalsIgnoreAsciiCase_self (s : Bytes) : equalsIgnoreAsciiCase s s = true := by
  simp [equalsIgnoreAsciiCase]

/-! ### The parser -/

/-- A big-endian 16-bit value. -/
def readU16 (data : ℕ → UInt8) (p : ℕ) : ℕ := (data p).toNat * 256 + (data (p + 1)).toNat

/-- The bytes from index `start` up to but excluding index `stop`. -/
def slice (data : ℕ → UInt8) (start stop : ℕ) : Bytes :=
  (List.range (stop - start)).map fun i => data (start + i)

/-- The scan `while (offset < length && data[offset] != 0) ++offset`, with a bound on its
iterations. -/
def skipToNul (data : ℕ → UInt8) (length : ℕ) : ℕ → ℕ → ℕ
  | 0, offset => offset
  | fuel + 1, offset =>
      if offset < length ∧ data offset ≠ 0 then skipToNul data length fuel (offset + 1) else offset

/-- A NUL-terminated string starting at `offset`, and the offset past its terminator; `none` when
the datagram ends before a NUL. -/
def readCString (data : ℕ → UInt8) (length offset : ℕ) : Option (Bytes × ℕ) :=
  let stop := skipToNul data length (length - offset) offset
  if length ≤ stop then none else some (slice data offset stop, stop + 1)

/-- The trailing name/value pairs of RRQ, WRQ and OACK.  Every iteration consumes at least one
byte, so `length + 1` iterations are enough. -/
def parseOptionList (data : ℕ → UInt8) (length : ℕ) :
    ℕ → ℕ → List TftpOption → Except Bytes (List TftpOption)
  | 0, _, out => .ok out
  | fuel + 1, offset, out =>
      if offset < length then
        match readCString data length offset with
        | none => .error (text "option name not NUL-terminated")
        | some (name, offset) =>
          match readCString data length offset with
          | none => .error (text "option value not NUL-terminated")
          | some (value, offset) =>
            if name = [] then .error (text "empty option name")
            else parseOptionList data length fuel offset (out ++ [⟨name, value⟩])
      else .ok out

/-- The body of an RRQ or WRQ. -/
def parseRequest (opcode : TftpOpcode) (data : ℕ → UInt8) (length : ℕ) :
    Except Bytes TftpPacket :=
  match readCString data length 2 with
  | none => .error (text "RRQ/WRQ filename not NUL-terminated")
  | some (filename, offset) =>
    match readCString data length offset with
    | none => .error (text "RRQ/WRQ mode not NUL-terminated")
    | some (mode, offset) =>
      match parseOptionList data length (length + 1) offset [] with
      | .error reason => .error (text "RRQ/WRQ " ++ reason)
      | .ok options => .ok { opcode, filename, mode, options }

/-- Parse the `length` bytes at `data`. -/
def parseTftpPacket (data : ℕ → UInt8) (length : ℕ) : Except Bytes TftpPacket :=
  if length < 2 then .error (text "datagram shorter than the 2-byte opcode field")
  else
    match readU16 data 0 with
    | 1 => parseRequest .readRequest data length
    | 2 => parseRequest .writeRequest data length
    | 3 =>
        if length < 4 then .error (text "DATA shorter than the 4-byte header")
        else .ok { opcode := .data, blockNumber := readU16 data 2, data := slice data 4 length }
    | 4 =>
        if length < 4 then .error (text "ACK shorter than 4 bytes")
        else .ok { opcode := .acknowledgement, blockNumber := readU16 data 2 }
    | 5 =>
        if length < 4 then .error (text "ERROR shorter than the 4-byte header")
        else
          match readCString data length 4 with
          | none => .error (text "ERROR message not NUL-terminated")
          | some (message, _) =>
              .ok { opcode := .error, errorCode := ⟨readU16 data 2⟩, errorMessage := message }
    | 6 =>
        match parseOptionList data length (length + 1) 2 [] with
        | .error reason => .error (text "OACK " ++ reason)
        | .ok options => .ok { opcode := .optionAcknowledgement, options }
    | rawOpcode => .error (text "unknown opcode " ++ toDecimal rawOpcode)

/-- The memory a `std::vector` of bytes occupies. -/
def byteAt (d : Bytes) (i : ℕ) : UInt8 := d.getD i 0

/-- Parse a datagram held in a vector. -/
def parseDatagram (d : Bytes) : Except Bytes TftpPacket := parseTftpPacket (byteAt d) d.length

/-! ### The serialisers -/

/-- A 16-bit value in network byte order. -/
def bytesOfU16 (value : ℕ) : Bytes := [UInt8.ofNat (value / 256 % 256), UInt8.ofNat (value % 256)]

/-- A string and its terminator. -/
def withNul (s : Bytes) : Bytes := s ++ [0]

/-- The name/value pairs that end an RRQ, a WRQ or an OACK. -/
def serializeOptions (options : List TftpOption) : Bytes :=
  options.flatMap fun option => withNul option.name ++ withNul option.value

def serializeReadRequest (filename mode : Bytes) (options : List TftpOption) : Bytes :=
  bytesOfU16 TftpOpcode.readRequest.code ++ withNul filename ++ withNul mode ++
    serializeOptions options

def serializeWriteRequest (filename mode : Bytes) (options : List TftpOption) : Bytes :=
  bytesOfU16 TftpOpcode.writeRequest.code ++ withNul filename ++ withNul mode ++
    serializeOptions options

def serializeData (blockNumber : ℕ) (payload : Bytes) : Bytes :=
  bytesOfU16 TftpOpcode.data.code ++ bytesOfU16 blockNumber ++ payload

def serializeAcknowledgement (blockNumber : ℕ) : Bytes :=
  bytesOfU16 TftpOpcode.acknowledgement.code ++ bytesOfU16 blockNumber

def serializeError (code : TftpErrorCode) (message : Bytes) : Bytes :=
  bytesOfU16 TftpOpcode.error.code ++ bytesOfU16 code.code ++ withNul message

def serializeOptionAcknowledgement (options : List TftpOption) : Bytes :=
  bytesOfU16 TftpOpcode.optionAcknowledgement.code ++ serializeOptions options

/-! ### Reading back what was written -/

theorem readU16_bytesOfU16 {d : Bytes} {p value : ℕ} (rest : Bytes) (h : value < 65536)
    (hd : d.drop p = bytesOfU16 value ++ rest) : readU16 (byteAt d) p = value := by
  have h₀ : byteAt d p = UInt8.ofNat (value / 256 % 256) := by
    have := congrArg (fun l => l.getD 0 0) hd
    simpa [byteAt, bytesOfU16, List.getD_eq_getElem?_getD] using this
  have h₁ : byteAt d (p + 1) = UInt8.ofNat (value % 256) := by
    have := congrArg (fun l => l.getD 1 0) hd
    simpa [byteAt, bytesOfU16, List.getD_eq_getElem?_getD] using this
  rw [readU16, h₀, h₁]
  simp only [UInt8.toNat_ofNat']
  omega

/-- A slice up to the end of the datagram is a suffix of it. -/
theorem slice_to_length (d : Bytes) (start : ℕ) :
    slice (byteAt d) start d.length = d.drop start := by
  refine List.ext_getElem (by simp [slice]) ?_
  intro i h₁ h₂
  have hi : start + i < d.length := by simp at h₂; omega
  simp [slice, byteAt, List.getD_eq_getElem?_getD, List.getElem?_eq_getElem hi]

/-- A slice of bytes that stand at the front of a suffix. -/
theorem slice_of_drop {d s rest : Bytes} {start : ℕ} (h : d.drop start = s ++ rest) :
    slice (byteAt d) start (start + s.length) = s := by
  refine List.ext_getElem (by simp [slice]) ?_
  intro i h₁ h₂
  have hi := congrArg (fun l => l.getD i 0) h
  simpa [slice, byteAt, List.getD_eq_getElem?_getD, List.getElem?_append_left h₂,
    List.getElem?_eq_getElem h₂] using hi

/-- The scan stops at the terminator of a NUL-free string. -/
theorem skipToNul_of_drop {d : Bytes} (s : Bytes) {rest : Bytes} (hs : (0 : UInt8) ∉ s) :
    ∀ (offset fuel : ℕ), d.drop offset = s ++ 0 :: rest → s.length ≤ fuel →
      skipToNul (byteAt d) d.length fuel offset = offset + s.length := by
  induction s with
  | nil =>
      intro offset fuel h _
      have h₀ : byteAt d offset = 0 := by
        have := congrArg (fun l => l.getD 0 0) h
        simpa [byteAt, List.getD_eq_getElem?_getD] using this
      cases fuel with
      | zero => rfl
      | succ fuel => simp [skipToNul, h₀]
  | cons b s ih =>
      intro offset fuel h hf
      obtain ⟨fuel, rfl⟩ : ∃ k, fuel = k + 1 := ⟨fuel - 1, by simp at hf; omega⟩
      have hb : byteAt d offset = b := by
        have := congrArg (fun l => l.getD 0 0) h
        simpa [byteAt, List.getD_eq_getElem?_getD] using this
      have hlt : offset < d.length := by
        by_contra hge
        rw [List.drop_eq_nil_of_le (by omega)] at h
        simp at h
      have hb0 : b ≠ 0 := fun h0 => hs (by simp [h0])
      have htl : d.drop (offset + 1) = s ++ 0 :: rest := by
        have := congrArg List.tail h
        simpa using this
      have hrec := ih (fun hm => hs (List.mem_cons_of_mem _ hm)) (offset + 1) fuel htl
        (by simp at hf; omega)
      simp only [skipToNul, hlt, hb, hb0, ne_eq, not_false_eq_true, and_self, if_true, hrec,
        List.length_cons]
      omega

/-- **A NUL-free string is read back**, together with the offset of what follows it. -/
theorem readCString_of_drop {d s rest : Bytes} (offset : ℕ) (hs : (0 : UInt8) ∉ s)
    (h : d.drop offset = withNul s ++ rest) :
    readCString (byteAt d) d.length offset = some (s, offset + (s.length + 1)) := by
  have h' : d.drop offset = s ++ 0 :: rest := by simpa [withNul] using h
  have hlen := congrArg List.length h'
  simp only [List.length_drop, List.length_append, List.length_cons] at hlen
  have hstop := skipToNul_of_drop s hs offset (d.length - offset) h' (by omega)
  have hlt : ¬ d.length ≤ offset + s.length := by omega
  simp only [readCString, hstop, hlt, if_false, slice_of_drop h', Nat.add_assoc]

/-- What follows the bytes at the front of a suffix. -/
theorem drop_add_of_drop {d s rest : Bytes} {offset : ℕ} (h : d.drop offset = s ++ rest) :
    d.drop (offset + s.length) = rest := by
  rw [← List.drop_drop, h, List.drop_left]

/-- An option that survives the wire: its name is nonempty and neither string holds a NUL. -/
structure TftpOption.Clean (option : TftpOption) : Prop where
  name_ne_nil : option.name ≠ []
  name_nul : (0 : UInt8) ∉ option.name
  value_nul : (0 : UInt8) ∉ option.value

/-- **A clean option list is read back** in order, behind the options read before. -/
theorem parseOptionList_of_drop {d : Bytes} (options : List TftpOption)
    (hc : ∀ option ∈ options, option.Clean) :
    ∀ (offset fuel : ℕ) (out : List TftpOption), d.drop offset = serializeOptions options →
      offset ≤ d.length → options.length < fuel →
      parseOptionList (byteAt d) d.length fuel offset out = .ok (out ++ options) := by
  induction options with
  | nil =>
      intro offset fuel out h hle hf
      have hend : ¬ offset < d.length := by
        have := congrArg List.length h
        simp [serializeOptions] at this
        omega
      cases fuel with
      | zero => simp [parseOptionList]
      | succ fuel => simp [parseOptionList, hend]
  | cons option options ih =>
      intro offset fuel out h hle hf
      obtain ⟨fuel, rfl⟩ : ∃ k, fuel = k + 1 := ⟨fuel - 1, by simp at hf; omega⟩
      have hopt := hc option (by simp)
      have hname : d.drop offset =
          withNul option.name ++ (withNul option.value ++ serializeOptions options) := by
        simpa [serializeOptions] using h
      have hvalue := drop_add_of_drop hname
      have hrest := drop_add_of_drop hvalue
      simp only [withNul, List.length_append, List.length_singleton] at hvalue hrest
      have hread := readCString_of_drop _ hopt.name_nul hname
      have hread' := readCString_of_drop _ hopt.value_nul hvalue
      have hlen := congrArg List.length hname
      simp only [withNul, List.length_drop, List.length_append, List.length_singleton] at hlen
      have hlt : offset < d.length := by omega
      have hrec := ih (fun o ho => hc o (List.mem_cons_of_mem _ ho)) _ fuel (out ++ [option]) hrest
        (by omega) (by simpa using hf)
      simp only [parseOptionList, hlt, if_true, hread, hread', hopt.name_ne_nil, if_false]
      simpa using hrec

theorem length_le_serializeOptions (options : List TftpOption) :
    options.length ≤ (serializeOptions options).length := by
  induction options with
  | nil => simp
  | cons option options ih =>
      simp only [serializeOptions, List.flatMap_cons, List.length_append, List.length_cons,
        withNul] at ih ⊢
      omega

theorem code_lt (opcode : TftpOpcode) : opcode.code < 65536 := by
  cases opcode <;> decide

/-- The opcode field of a serialised packet. -/
theorem readU16_opcode (opcode : TftpOpcode) (rest : Bytes) :
    readU16 (byteAt (bytesOfU16 opcode.code ++ rest)) 0 = opcode.code :=
  readU16_bytesOfU16 rest (code_lt opcode) (by simp)

/-- **A DATA packet is read back** with its block number and its payload. -/
theorem parse_serializeData {blockNumber : ℕ} (payload : Bytes) (h : blockNumber < 65536) :
    parseDatagram (serializeData blockNumber payload) =
      .ok { opcode := .data, blockNumber := blockNumber, data := payload } := by
  have hop : readU16 (byteAt (serializeData blockNumber payload)) 0 = 3 := by
    simpa [serializeData, TftpOpcode.code] using
      readU16_opcode .data (bytesOfU16 blockNumber ++ payload)
  have hblock : readU16 (byteAt (serializeData blockNumber payload)) 2 = blockNumber :=
    readU16_bytesOfU16 payload h (by simp [serializeData, bytesOfU16])
  have hlen : (serializeData blockNumber payload).length = payload.length + 4 := by
    simp [serializeData, bytesOfU16]
  have hdata : slice (byteAt (serializeData blockNumber payload)) 4 (payload.length + 4) =
      payload := by
    rw [← hlen, slice_to_length]
    simp [serializeData, bytesOfU16]
  have h₂ : ¬ payload.length + 4 < 2 := by omega
  have h₄ : ¬ payload.length + 4 < 4 := by omega
  simp only [parseDatagram, parseTftpPacket, hlen, h₂, h₄, if_false, hop, hblock, hdata]

/-- **An ACK is read back** with its block number. -/
theorem parse_serializeAcknowledgement {blockNumber : ℕ} (h : blockNumber < 65536) :
    parseDatagram (serializeAcknowledgement blockNumber) =
      .ok { opcode := .acknowledgement, blockNumber := blockNumber } := by
  have hop : readU16 (byteAt (serializeAcknowledgement blockNumber)) 0 = 4 := by
    simpa [serializeAcknowledgement, TftpOpcode.code] using
      readU16_opcode .acknowledgement (bytesOfU16 blockNumber)
  have hblock : readU16 (byteAt (serializeAcknowledgement blockNumber)) 2 = blockNumber :=
    readU16_bytesOfU16 [] h (by simp [serializeAcknowledgement, bytesOfU16])
  have hlen : (serializeAcknowledgement blockNumber).length = 4 := by
    simp [serializeAcknowledgement, bytesOfU16]
  simp [parseDatagram, parseTftpPacket, hlen, hop, hblock]

/-- **An ERROR is read back** with its code and message. -/
theorem parse_serializeError {code : TftpErrorCode} {message : Bytes} (h : code.code < 65536)
    (hm : (0 : UInt8) ∉ message) :
    parseDatagram (serializeError code message) =
      .ok { opcode := .error, errorCode := code, errorMessage := message } := by
  have hop : readU16 (byteAt (serializeError code message)) 0 = 5 := by
    simpa [serializeError, TftpOpcode.code] using
      readU16_opcode .error (bytesOfU16 code.code ++ withNul message)
  have hcode : readU16 (byteAt (serializeError code message)) 2 = code.code :=
    readU16_bytesOfU16 (withNul message) h (by simp [serializeError, bytesOfU16])
  have hlen : (serializeError code message).length = message.length + 5 := by
    simp [serializeError, bytesOfU16, withNul]
  have hbody : (serializeError code message).drop 4 = withNul message ++ [] := by
    simp [serializeError, bytesOfU16]
  have hmsg := readCString_of_drop 4 hm hbody
  rw [hlen] at hmsg
  have h₂ : ¬ message.length + 5 < 2 := by omega
  have h₄ : ¬ message.length + 5 < 4 := by omega
  simp only [parseDatagram, parseTftpPacket, hlen, h₂, h₄, if_false, hop, hcode, hmsg]

/-- The body of a request is read back. -/
theorem parseRequest_of_drop {d filename mode : Bytes} {options : List TftpOption}
    (opcode : TftpOpcode) (hf : (0 : UInt8) ∉ filename) (hm : (0 : UInt8) ∉ mode)
    (hc : ∀ option ∈ options, option.Clean)
    (hd : d.drop 2 = withNul filename ++ (withNul mode ++ serializeOptions options)) :
    parseRequest opcode (byteAt d) d.length = .ok { opcode, filename, mode, options } := by
  have hmode := drop_add_of_drop hd
  have hopts := drop_add_of_drop hmode
  simp only [withNul, List.length_append, List.length_singleton] at hmode hopts
  have hread := readCString_of_drop _ hf hd
  have hread' := readCString_of_drop _ hm hmode
  have hlen := congrArg List.length hd
  simp only [withNul, List.length_drop, List.length_append, List.length_singleton] at hlen
  have hle := length_le_serializeOptions options
  have hlist := parseOptionList_of_drop options hc _ (d.length + 1) [] hopts (by omega) (by omega)
  simp only [parseRequest, hread, hread', hlist, List.nil_append]

/-- **An RRQ is read back.** -/
theorem parse_serializeReadRequest {filename mode : Bytes} {options : List TftpOption}
    (hf : (0 : UInt8) ∉ filename) (hm : (0 : UInt8) ∉ mode)
    (hc : ∀ option ∈ options, option.Clean) :
    parseDatagram (serializeReadRequest filename mode options) =
      .ok { opcode := .readRequest, filename, mode, options } := by
  have hop : readU16 (byteAt (serializeReadRequest filename mode options)) 0 = 1 := by
    simpa [serializeReadRequest, TftpOpcode.code] using
      readU16_opcode .readRequest (withNul filename ++ withNul mode ++ serializeOptions options)
  have hbody := parseRequest_of_drop (d := serializeReadRequest filename mode options)
    .readRequest hf hm hc (by simp [serializeReadRequest, bytesOfU16])
  have h₂ : ¬ (serializeReadRequest filename mode options).length < 2 := by
    simp [serializeReadRequest, bytesOfU16]
  simp only [parseDatagram, parseTftpPacket, h₂, if_false, hop, hbody]

/-- **A WRQ is read back.** -/
theorem parse_serializeWriteRequest {filename mode : Bytes} {options : List TftpOption}
    (hf : (0 : UInt8) ∉ filename) (hm : (0 : UInt8) ∉ mode)
    (hc : ∀ option ∈ options, option.Clean) :
    parseDatagram (serializeWriteRequest filename mode options) =
      .ok { opcode := .writeRequest, filename, mode, options } := by
  have hop : readU16 (byteAt (serializeWriteRequest filename mode options)) 0 = 2 := by
    simpa [serializeWriteRequest, TftpOpcode.code] using
      readU16_opcode .writeRequest (withNul filename ++ withNul mode ++ serializeOptions options)
  have hbody := parseRequest_of_drop (d := serializeWriteRequest filename mode options)
    .writeRequest hf hm hc (by simp [serializeWriteRequest, bytesOfU16])
  have h₂ : ¬ (serializeWriteRequest filename mode options).length < 2 := by
    simp [serializeWriteRequest, bytesOfU16]
  simp only [parseDatagram, parseTftpPacket, h₂, if_false, hop, hbody]

/-- **An OACK is read back.** -/
theorem parse_serializeOptionAcknowledgement {options : List TftpOption}
    (hc : ∀ option ∈ options, option.Clean) :
    parseDatagram (serializeOptionAcknowledgement options) =
      .ok { opcode := .optionAcknowledgement, options } := by
  set d := serializeOptionAcknowledgement options with hd
  have hop : readU16 (byteAt d) 0 = 6 := by
    simpa [hd, serializeOptionAcknowledgement, TftpOpcode.code] using
      readU16_opcode .optionAcknowledgement (serializeOptions options)
  have hlen : d.length = (serializeOptions options).length + 2 := by
    simp [hd, serializeOptionAcknowledgement, bytesOfU16]
  have hle := length_le_serializeOptions options
  have hlist := parseOptionList_of_drop (d := d) options hc 2 (d.length + 1) []
    (by simp [hd, serializeOptionAcknowledgement, bytesOfU16]) (by omega) (by omega)
  have h₂ : ¬ d.length < 2 := by omega
  simp only [parseDatagram, parseTftpPacket, h₂, if_false, hop, hlist, List.nil_append]

/-- Nothing the engine sends is an empty datagram. -/
theorem serializeData_ne_nil (blockNumber : ℕ) (payload : Bytes) :
    serializeData blockNumber payload ≠ [] := by simp [serializeData, bytesOfU16]

theorem serializeAcknowledgement_ne_nil (blockNumber : ℕ) :
    serializeAcknowledgement blockNumber ≠ [] := by simp [serializeAcknowledgement, bytesOfU16]

theorem serializeError_ne_nil (code : TftpErrorCode) (message : Bytes) :
    serializeError code message ≠ [] := by simp [serializeError, bytesOfU16]

theorem serializeOptionAcknowledgement_ne_nil (options : List TftpOption) :
    serializeOptionAcknowledgement options ≠ [] := by
  simp [serializeOptionAcknowledgement, bytesOfU16]

end TftpHarness
