/-
**The codec accepts exactly its grammar.**

`TftpHarness.Packet` models `src/net/tftp_packet.cpp` and shows that each packet the engine sends is
read back.  This module closes the other direction.  The grammar of the six packet formats is
written down on its own, as a predicate on byte strings that knows nothing of offsets or loops, and
the parser succeeds on a datagram exactly when the datagram is in the grammar.  Serialising what was
parsed gives the datagram back, but for the bytes that an ACK or an ERROR carries behind its last
field and the parser ignores.

The parser works on a pointer and a length.  To say that it never reads past the end, it is modelled
a second time over a memory in which a byte may be missing and a read of a missing byte is a fault.

Main definitions:

* `TftpHarness.TftpPacket.serialize`, `TftpHarness.WellFormed` — the serialiser of a packet, and the
  packets it is meant for;
* `TftpHarness.OptionPairs`, `TftpHarness.InGrammar` — **the grammar**;
* `TftpHarness.Checked.parseTftpPacket` — the parser over a memory with faults.

Main results:

* `TftpHarness.parse_serialize` — a well-formed packet is read back;
* `TftpHarness.serialize_of_parse` — a parsed packet is well formed and serialises to the datagram,
  up to ignored bytes;
* `TftpHarness.parse_of_inGrammar` — a datagram in the grammar is accepted;
* `TftpHarness.Checked.parseTftpPacket_eq` — the parser does not fault on `length` bytes of memory;
* `TftpHarness.codec_exact` — **the four together**.
-/

import TftpHarness.Packet

set_option relaxedAutoImplicit false
set_option autoImplicit false

namespace TftpHarness

/-! ### Packets and the grammar -/

/-- The serialiser of each opcode, applied to the fields it takes. -/
def TftpPacket.serialize (packet : TftpPacket) : Bytes :=
  match packet.opcode with
  | .readRequest => serializeReadRequest packet.filename packet.mode packet.options
  | .writeRequest => serializeWriteRequest packet.filename packet.mode packet.options
  | .data => serializeData packet.blockNumber packet.data
  | .acknowledgement => serializeAcknowledgement packet.blockNumber
  | .error => serializeError packet.errorCode packet.errorMessage
  | .optionAcknowledgement => serializeOptionAcknowledgement packet.options

/-- The packets a peer can mean to send: the fields of the opcode fit their places on the wire, and
every other field has its default. -/
inductive WellFormed : TftpPacket → Prop
  | readRequest {filename mode : Bytes} {options : List TftpOption} (hf : (0 : UInt8) ∉ filename)
      (hm : (0 : UInt8) ∉ mode) (ho : ∀ option ∈ options, option.Clean) :
      WellFormed { opcode := .readRequest, filename, mode, options }
  | writeRequest {filename mode : Bytes} {options : List TftpOption} (hf : (0 : UInt8) ∉ filename)
      (hm : (0 : UInt8) ∉ mode) (ho : ∀ option ∈ options, option.Clean) :
      WellFormed { opcode := .writeRequest, filename, mode, options }
  | data {blockNumber : ℕ} (payload : Bytes) (hb : blockNumber < 65536) :
      WellFormed { opcode := .data, blockNumber, data := payload }
  | acknowledgement {blockNumber : ℕ} (hb : blockNumber < 65536) :
      WellFormed { opcode := .acknowledgement, blockNumber }
  | error {code : TftpErrorCode} {message : Bytes} (hc : code.code < 65536)
      (hm : (0 : UInt8) ∉ message) :
      WellFormed { opcode := .error, errorCode := code, errorMessage := message }
  | optionAcknowledgement {options : List TftpOption} (ho : ∀ option ∈ options, option.Clean) :
      WellFormed { opcode := .optionAcknowledgement, options }

/-- The name/value pairs that end an RRQ, a WRQ or an OACK: NUL-terminated strings, every name
nonempty. -/
inductive OptionPairs : Bytes → Prop
  | nil : OptionPairs []
  | pair {name value rest : Bytes} (hne : name ≠ []) (hn : (0 : UInt8) ∉ name)
      (hv : (0 : UInt8) ∉ value) (hrest : OptionPairs rest) :
      OptionPairs (name ++ 0 :: (value ++ 0 :: rest))

/-- **The grammar of a TFTP datagram**: a big-endian opcode and the body of that opcode. -/
inductive InGrammar : Bytes → Prop
  | request {opcode : UInt8} {filename mode pairs : Bytes} (hop : opcode = 1 ∨ opcode = 2)
      (hf : (0 : UInt8) ∉ filename) (hm : (0 : UInt8) ∉ mode) (hpairs : OptionPairs pairs) :
      InGrammar (0 :: opcode :: (filename ++ 0 :: (mode ++ 0 :: pairs)))
  | data {body : Bytes} (hbody : 2 ≤ body.length) : InGrammar (0 :: 3 :: body)
  | acknowledgement {body : Bytes} (hbody : 2 ≤ body.length) : InGrammar (0 :: 4 :: body)
  | error {high low : UInt8} {message trailing : Bytes} (hm : (0 : UInt8) ∉ message) :
      InGrammar (0 :: 5 :: high :: low :: (message ++ 0 :: trailing))
  | optionAcknowledgement {pairs : Bytes} (hpairs : OptionPairs pairs) : InGrammar (0 :: 6 :: pairs)

/-! ### What is serialised is read back -/

/-- **A well-formed packet is read back**, field by field. -/
theorem parse_serialize {packet : TftpPacket} (h : WellFormed packet) :
    parseDatagram packet.serialize = .ok packet := by
  cases h with
  | readRequest hf hm ho => exact parse_serializeReadRequest hf hm ho
  | writeRequest hf hm ho => exact parse_serializeWriteRequest hf hm ho
  | data payload hb => exact parse_serializeData payload hb
  | acknowledgement hb => exact parse_serializeAcknowledgement hb
  | error hc hm => exact parse_serializeError hc hm
  | optionAcknowledgement ho => exact parse_serializeOptionAcknowledgement ho

/-! ### What is read is what was there -/

/-- Two bytes are the wire image of the number they read as. -/
theorem bytesOfU16_toNat (high low : UInt8) :
    bytesOfU16 (high.toNat * 256 + low.toNat) = [high, low] := by
  have hhigh := high.toNat_lt
  have hlow := low.toNat_lt
  have h₁ : (high.toNat * 256 + low.toNat) / 256 % 256 = high.toNat := by omega
  have h₂ : (high.toNat * 256 + low.toNat) % 256 = low.toNat := by omega
  simp [bytesOfU16, h₁, h₂]

theorem readU16_lt (data : ℕ → UInt8) (p : ℕ) : readU16 data p < 65536 := by
  have hhigh := (data p).toNat_lt
  have hlow := (data (p + 1)).toNat_lt
  simp only [readU16]
  omega

/-- A 16-bit field of a datagram long enough for it. -/
theorem drop_eq_bytesOfU16 {d : Bytes} {p : ℕ} (h : p + 2 ≤ d.length) :
    d.drop p = bytesOfU16 (readU16 (byteAt d) p) ++ d.drop (p + 2) := by
  have hbyte : ∀ i, (hi : i < d.length) → byteAt d i = d[i] := by
    intro i hi
    simp [byteAt, List.getD_eq_getElem?_getD, List.getElem?_eq_getElem hi]
  have h₀ := hbyte p (by omega)
  have h₁ := hbyte (p + 1) (by omega)
  rw [readU16, bytesOfU16_toNat, h₀, h₁, List.drop_eq_getElem_cons (by omega),
    List.drop_eq_getElem_cons (by omega)]
  rfl

/-- The scan stops at the end or on a NUL, and skips no NUL. -/
theorem skipToNul_spec (data : ℕ → UInt8) (length fuel : ℕ) :
    ∀ offset, length ≤ offset + fuel →
      offset ≤ skipToNul data length fuel offset ∧
        (∀ i, offset ≤ i → i < skipToNul data length fuel offset → i < length ∧ data i ≠ 0) ∧
        (skipToNul data length fuel offset < length →
          data (skipToNul data length fuel offset) = 0) := by
  induction fuel with
  | zero =>
      intro offset h
      refine ⟨le_refl _, ?_, ?_⟩
      · intro i h₁ h₂
        simp only [skipToNul] at h₂
        omega
      · intro hlt
        simp only [skipToNul] at hlt
        omega
  | succ fuel ih =>
      intro offset h
      by_cases hgo : offset < length ∧ data offset ≠ 0
      · obtain ⟨hle, hskip, hstop⟩ := ih (offset + 1) (by omega)
        simp only [skipToNul, if_pos hgo]
        refine ⟨by omega, ?_, hstop⟩
        intro i h₁ h₂
        rcases Nat.eq_or_lt_of_le h₁ with rfl | hlt
        · exact hgo
        · exact hskip i hlt h₂
      · simp only [skipToNul, if_neg hgo]
        refine ⟨le_refl _, fun i h₁ h₂ => by omega, ?_⟩
        intro hlt
        by_contra hne
        exact hgo ⟨hlt, hne⟩

/-- **A string that was read stands in the datagram**, NUL-free and with its terminator. -/
theorem drop_of_readCString {d s : Bytes} {offset next : ℕ}
    (h : readCString (byteAt d) d.length offset = some (s, next)) :
    (0 : UInt8) ∉ s ∧ d.drop offset = withNul s ++ d.drop next ∧ offset < next := by
  obtain ⟨hle, hskip, hstop⟩ := skipToNul_spec (byteAt d) d.length (d.length - offset) offset
    (by omega)
  simp only [readCString] at h
  set stop := skipToNul (byteAt d) d.length (d.length - offset) offset with hstopDef
  by_cases hend : d.length ≤ stop
  · simp [hend] at h
  · simp only [if_neg hend, Option.some.injEq, Prod.mk.injEq] at h
    obtain ⟨rfl, rfl⟩ := h
    have hlt : stop < d.length := by omega
    refine ⟨?_, ?_, by omega⟩
    · intro hmem
      simp only [slice, List.mem_map, List.mem_range] at hmem
      obtain ⟨i, hi, hzero⟩ := hmem
      exact (hskip (offset + i) (by omega) (by omega)).2 hzero
    · have hslice : slice (byteAt d) offset stop = (d.drop offset).take (stop - offset) := by
        refine List.ext_getElem (by simp [slice]; omega) ?_
        intro i h₁ h₂
        have hi : offset + i < d.length := by simp at h₂; omega
        simp [slice, byteAt, List.getD_eq_getElem?_getD, List.getElem?_eq_getElem hi]
      have hnul : d.drop stop = 0 :: d.drop (stop + 1) := by
        have hzero := hstop hlt
        simp only [byteAt, List.getD_eq_getElem?_getD, List.getElem?_eq_getElem hlt,
          Option.getD_some] at hzero
        rw [List.drop_eq_getElem_cons hlt, hzero]
      have hsplit := (List.take_append_drop (stop - offset) (d.drop offset)).symm
      rw [List.drop_drop, Nat.add_sub_cancel' hle, hnul, ← hslice] at hsplit
      simpa [withNul] using hsplit

/-- **The options that were read stand in the datagram**, up to its end. -/
theorem drop_of_parseOptionList {d : Bytes} (fuel : ℕ) :
    ∀ (offset : ℕ) (out options : List TftpOption), d.length < offset + fuel →
      parseOptionList (byteAt d) d.length fuel offset out = .ok options →
      ∃ read : List TftpOption, options = out ++ read ∧ (∀ option ∈ read, option.Clean) ∧
        d.drop offset = serializeOptions read := by
  induction fuel with
  | zero =>
      intro offset out options hfuel h
      simp only [parseOptionList, Except.ok.injEq] at h
      refine ⟨[], by simp [h], by simp, ?_⟩
      rw [List.drop_eq_nil_of_le (by omega)]
      rfl
  | succ fuel ih =>
      intro offset out options hfuel h
      by_cases hlt : offset < d.length
      · simp only [parseOptionList, hlt, if_true] at h
        split at h
        · cases h
        · rename_i name afterName hname
          split at h
          · cases h
          · rename_i value afterValue hvalue
            obtain ⟨hn, hdropName, hltName⟩ := drop_of_readCString hname
            obtain ⟨hv, hdropValue, hltValue⟩ := drop_of_readCString hvalue
            by_cases hempty : name = []
            · simp [hempty] at h
            · rw [if_neg hempty] at h
              obtain ⟨read, rfl, hclean, hrest⟩ := ih afterValue _ _ (by omega) h
              refine ⟨⟨name, value⟩ :: read, by simp, ?_, ?_⟩
              · intro option hmem
                rcases List.mem_cons.mp hmem with rfl | hmem
                · exact ⟨hempty, hn, hv⟩
                · exact hclean option hmem
              · rw [hdropName, hdropValue, hrest]
                simp [serializeOptions]
      · simp only [parseOptionList, hlt, if_false, Except.ok.injEq] at h
        refine ⟨[], by simp [h], by simp, ?_⟩
        rw [List.drop_eq_nil_of_le (by omega)]
        rfl

/-- The body of an accepted request. -/
theorem drop_of_parseRequest {d : Bytes} {opcode : TftpOpcode} {packet : TftpPacket}
    (h : parseRequest opcode (byteAt d) d.length = .ok packet) :
    ∃ (filename mode : Bytes) (options : List TftpOption), (0 : UInt8) ∉ filename ∧
      (0 : UInt8) ∉ mode ∧ (∀ option ∈ options, option.Clean) ∧
      packet = { opcode, filename, mode, options } ∧
      d.drop 2 = withNul filename ++ withNul mode ++ serializeOptions options := by
  simp only [parseRequest] at h
  split at h
  · cases h
  · rename_i filename afterFilename hfilename
    split at h
    · cases h
    · rename_i mode afterMode hmode
      obtain ⟨hf, hdropFilename, -⟩ := drop_of_readCString hfilename
      obtain ⟨hm, hdropMode, -⟩ := drop_of_readCString hmode
      split at h
      · cases h
      · rename_i options hoptions
        obtain ⟨read, hread, hclean, hrest⟩ := drop_of_parseOptionList _ _ _ _ (by omega) hoptions
        obtain rfl : options = read := by simpa using hread
        simp only [Except.ok.injEq] at h
        refine ⟨filename, mode, options, hf, hm, hclean, h.symm, ?_⟩
        rw [hdropFilename, hdropMode, hrest, List.append_assoc]

/-- **A parsed packet is well formed, and it serialises to the datagram it was parsed from**, but
for the bytes behind an ACK or an ERROR. -/
theorem serialize_of_parse {d : Bytes} {packet : TftpPacket}
    (h : parseDatagram d = .ok packet) :
    WellFormed packet ∧ ∃ trailing : Bytes, d = packet.serialize ++ trailing ∧
      (packet.opcode ≠ .acknowledgement → packet.opcode ≠ .error → trailing = []) := by
  simp only [parseDatagram, parseTftpPacket] at h
  by_cases hshort : d.length < 2
  · simp [hshort] at h
  · rw [if_neg hshort] at h
    have hopcode := drop_eq_bytesOfU16 (d := d) (p := 0) (by omega)
    rw [List.drop_zero, Nat.zero_add] at hopcode
    have hfield : ¬ d.length < 4 →
        d.drop 2 = bytesOfU16 (readU16 (byteAt d) 2) ++ d.drop 4 := by
      intro hlong
      exact drop_eq_bytesOfU16 (by omega)
    -- one case for each opcode; an ACK and an ERROR leave a rest that nothing reads
    split at h
    · rename_i hop
      obtain ⟨filename, mode, options, hf, hm, ho, rfl, hbody⟩ := drop_of_parseRequest h
      refine ⟨.readRequest hf hm ho, [], ?_, fun _ _ => rfl⟩
      rw [hop, hbody] at hopcode
      simpa [TftpPacket.serialize, serializeReadRequest, TftpOpcode.code] using hopcode
    · rename_i hop
      obtain ⟨filename, mode, options, hf, hm, ho, rfl, hbody⟩ := drop_of_parseRequest h
      refine ⟨.writeRequest hf hm ho, [], ?_, fun _ _ => rfl⟩
      rw [hop, hbody] at hopcode
      simpa [TftpPacket.serialize, serializeWriteRequest, TftpOpcode.code] using hopcode
    · rename_i hop
      by_cases hlong : d.length < 4
      · simp [hlong] at h
      · rw [if_neg hlong, slice_to_length] at h
        obtain rfl := Except.ok.inj h
        refine ⟨.data _ (readU16_lt _ _), [], ?_, fun _ _ => rfl⟩
        rw [hop, hfield hlong] at hopcode
        simpa [TftpPacket.serialize, serializeData, TftpOpcode.code] using hopcode
    · rename_i hop
      by_cases hlong : d.length < 4
      · simp [hlong] at h
      · rw [if_neg hlong] at h
        obtain rfl := Except.ok.inj h
        refine ⟨.acknowledgement (readU16_lt _ _), d.drop 4, ?_, fun hack => absurd rfl hack⟩
        rw [hop, hfield hlong] at hopcode
        simpa [TftpPacket.serialize, serializeAcknowledgement, TftpOpcode.code] using hopcode
    · rename_i hop
      by_cases hlong : d.length < 4
      · simp [hlong] at h
      · rw [if_neg hlong] at h
        split at h
        · cases h
        · rename_i message next hmessage
          obtain ⟨hm, hdrop, -⟩ := drop_of_readCString hmessage
          obtain rfl := Except.ok.inj h
          refine ⟨.error (readU16_lt _ _) hm, d.drop next, ?_, fun _ herror => absurd rfl herror⟩
          rw [hop, hfield hlong, hdrop] at hopcode
          simpa [TftpPacket.serialize, serializeError, TftpOpcode.code] using hopcode
    · rename_i hop
      split at h
      · cases h
      · rename_i options hoptions
        obtain ⟨read, hread, hclean, hrest⟩ := drop_of_parseOptionList _ _ _ _ (by omega) hoptions
        obtain rfl : options = read := by simpa using hread
        obtain rfl := Except.ok.inj h
        refine ⟨.optionAcknowledgement hclean, [], ?_, fun _ _ => rfl⟩
        rw [hop, hrest] at hopcode
        simpa [TftpPacket.serialize, serializeOptionAcknowledgement, TftpOpcode.code] using hopcode
    · cases h

/-! ### The grammar and the parser -/

theorem optionPairs_serializeOptions (options : List TftpOption)
    (ho : ∀ option ∈ options, option.Clean) : OptionPairs (serializeOptions options) := by
  induction options with
  | nil => exact .nil
  | cons option options ih =>
      have hclean := ho option (by simp)
      have hrest := ih fun o hmem => ho o (List.mem_cons_of_mem _ hmem)
      have hsplit : serializeOptions (option :: options) =
          option.name ++ 0 :: (option.value ++ 0 :: serializeOptions options) := by
        simp [serializeOptions, withNul]
      rw [hsplit]
      exact .pair hclean.name_ne_nil hclean.name_nul hclean.value_nul hrest

theorem serializeOptions_of_optionPairs {pairs : Bytes} (h : OptionPairs pairs) :
    ∃ options : List TftpOption, (∀ option ∈ options, option.Clean) ∧
      pairs = serializeOptions options := by
  induction h with
  | nil => exact ⟨[], by simp, rfl⟩
  | @pair name value rest hne hn hv hrest ih =>
      obtain ⟨options, ho, rfl⟩ := ih
      refine ⟨⟨name, value⟩ :: options, ?_, by simp [serializeOptions, withNul]⟩
      intro option hmem
      rcases List.mem_cons.mp hmem with rfl | hmem
      · exact ⟨hne, hn, hv⟩
      · exact ho option hmem

/-- **What a well-formed packet serialises to is in the grammar**, also with the trailing bytes an
ACK or an ERROR may carry. -/
theorem inGrammar_serialize {packet : TftpPacket} (h : WellFormed packet) {trailing : Bytes}
    (ht : packet.opcode ≠ .acknowledgement → packet.opcode ≠ .error → trailing = []) :
    InGrammar (packet.serialize ++ trailing) := by
  cases h with
  | @readRequest filename mode options hf hm ho =>
      obtain rfl : trailing = [] := ht (by simp) (by simp)
      have hpairs := optionPairs_serializeOptions options ho
      simpa [TftpPacket.serialize, serializeReadRequest, bytesOfU16, TftpOpcode.code, withNul]
        using InGrammar.request (Or.inl rfl) hf hm hpairs
  | @writeRequest filename mode options hf hm ho =>
      obtain rfl : trailing = [] := ht (by simp) (by simp)
      have hpairs := optionPairs_serializeOptions options ho
      simpa [TftpPacket.serialize, serializeWriteRequest, bytesOfU16, TftpOpcode.code, withNul]
        using InGrammar.request (Or.inr rfl) hf hm hpairs
  | @data blockNumber payload hb =>
      obtain rfl : trailing = [] := ht (by simp) (by simp)
      simpa [TftpPacket.serialize, serializeData, bytesOfU16, TftpOpcode.code]
        using @InGrammar.data (bytesOfU16 blockNumber ++ payload) (by simp [bytesOfU16])
  | @acknowledgement blockNumber hb =>
      simpa [TftpPacket.serialize, serializeAcknowledgement, bytesOfU16, TftpOpcode.code]
        using @InGrammar.acknowledgement (bytesOfU16 blockNumber ++ trailing)
          (by simp [bytesOfU16])
  | @error code message hc hm =>
      simpa [TftpPacket.serialize, serializeError, bytesOfU16, TftpOpcode.code, withNul]
        using @InGrammar.error _ _ message trailing hm
  | @optionAcknowledgement options ho =>
      obtain rfl : trailing = [] := ht (by simp) (by simp)
      have hpairs := optionPairs_serializeOptions options ho
      simpa [TftpPacket.serialize, serializeOptionAcknowledgement, bytesOfU16, TftpOpcode.code]
        using InGrammar.optionAcknowledgement hpairs

theorem exists_bytesOfU16 {body : Bytes} (h : 2 ≤ body.length) :
    ∃ (value : ℕ) (rest : Bytes), value < 65536 ∧ body = bytesOfU16 value ++ rest := by
  refine ⟨readU16 (byteAt body) 0, body.drop 2, readU16_lt _ _, ?_⟩
  simpa using drop_eq_bytesOfU16 (d := body) (p := 0) (by omega)

/-- The parser ignores what follows an ACK. -/
theorem parse_acknowledgement_append {blockNumber : ℕ} (h : blockNumber < 65536)
    (trailing : Bytes) :
    parseDatagram (serializeAcknowledgement blockNumber ++ trailing) =
      .ok { opcode := .acknowledgement, blockNumber } := by
  set d := serializeAcknowledgement blockNumber ++ trailing with hd
  have hop : readU16 (byteAt d) 0 = 4 := by
    simpa [hd, serializeAcknowledgement, TftpOpcode.code] using
      readU16_opcode .acknowledgement (bytesOfU16 blockNumber ++ trailing)
  have hblock : readU16 (byteAt d) 2 = blockNumber :=
    readU16_bytesOfU16 trailing h (by simp [hd, serializeAcknowledgement, bytesOfU16])
  have hlen : d.length = trailing.length + 4 := by
    simp [hd, serializeAcknowledgement, bytesOfU16]
  have h₂ : ¬ d.length < 2 := by omega
  have h₄ : ¬ d.length < 4 := by omega
  simp only [parseDatagram, parseTftpPacket, h₂, h₄, if_false, hop, hblock]

/-- The parser ignores what follows the message of an ERROR. -/
theorem parse_error_append {code : TftpErrorCode} {message : Bytes} (h : code.code < 65536)
    (hm : (0 : UInt8) ∉ message) (trailing : Bytes) :
    parseDatagram (serializeError code message ++ trailing) =
      .ok { opcode := .error, errorCode := code, errorMessage := message } := by
  set d := serializeError code message ++ trailing with hd
  have hop : readU16 (byteAt d) 0 = 5 := by
    simpa [hd, serializeError, TftpOpcode.code] using
      readU16_opcode .error (bytesOfU16 code.code ++ (withNul message ++ trailing))
  have hcode : readU16 (byteAt d) 2 = code.code :=
    readU16_bytesOfU16 (withNul message ++ trailing) h (by simp [hd, serializeError, bytesOfU16])
  have hbody : d.drop 4 = withNul message ++ trailing := by
    simp [hd, serializeError, bytesOfU16]
  have hmsg := readCString_of_drop 4 hm hbody
  have hlen : 4 ≤ d.length := by
    simp [hd, serializeError, bytesOfU16]
  have h₂ : ¬ d.length < 2 := by omega
  have h₄ : ¬ d.length < 4 := by omega
  simp only [parseDatagram, parseTftpPacket, h₂, h₄, if_false, hop, hcode, hmsg]

/-- **A datagram in the grammar is accepted.** -/
theorem parse_of_inGrammar {d : Bytes} (h : InGrammar d) :
    ∃ packet, parseDatagram d = .ok packet := by
  cases h with
  | @request opcode filename mode pairs hop hf hm hpairs =>
      obtain ⟨options, ho, rfl⟩ := serializeOptions_of_optionPairs hpairs
      rcases hop with rfl | rfl
      · refine ⟨{ opcode := .readRequest, filename, mode, options }, ?_⟩
        simpa [serializeReadRequest, bytesOfU16, TftpOpcode.code, withNul]
          using parse_serializeReadRequest hf hm ho
      · refine ⟨{ opcode := .writeRequest, filename, mode, options }, ?_⟩
        simpa [serializeWriteRequest, bytesOfU16, TftpOpcode.code, withNul]
          using parse_serializeWriteRequest hf hm ho
  | @data body hbody =>
      obtain ⟨blockNumber, payload, hb, rfl⟩ := exists_bytesOfU16 hbody
      refine ⟨{ opcode := .data, blockNumber, data := payload }, ?_⟩
      simpa [serializeData, bytesOfU16, TftpOpcode.code] using parse_serializeData payload hb
  | @acknowledgement body hbody =>
      obtain ⟨blockNumber, trailing, hb, rfl⟩ := exists_bytesOfU16 hbody
      refine ⟨{ opcode := .acknowledgement, blockNumber }, ?_⟩
      simpa [serializeAcknowledgement, bytesOfU16, TftpOpcode.code]
        using parse_acknowledgement_append hb trailing
  | @error high low message trailing hm =>
      have hcode : high.toNat * 256 + low.toNat < 65536 := by
        have hhigh := high.toNat_lt
        have hlow := low.toNat_lt
        omega
      have hparse := @parse_error_append ⟨high.toNat * 256 + low.toNat⟩ message hcode hm trailing
      have hserial : serializeError ⟨high.toNat * 256 + low.toNat⟩ message ++ trailing =
          0 :: 5 :: high :: low :: (message ++ 0 :: trailing) := by
        rw [serializeError, bytesOfU16_toNat]
        simp [bytesOfU16, TftpOpcode.code, withNul]
      rw [hserial] at hparse
      exact ⟨_, hparse⟩
  | @optionAcknowledgement pairs hpairs =>
      obtain ⟨options, ho, rfl⟩ := serializeOptions_of_optionPairs hpairs
      refine ⟨{ opcode := .optionAcknowledgement, options }, ?_⟩
      simpa [serializeOptionAcknowledgement, bytesOfU16, TftpOpcode.code]
        using parse_serializeOptionAcknowledgement ho

/-! ### The parser over a memory with faults -/

namespace Checked

/-- A big-endian 16-bit value; `none` is a read outside the memory, here and below. -/
def readU16 (memory : ℕ → Option UInt8) (p : ℕ) : Option ℕ := do
  let high ← memory p
  let low ← memory (p + 1)
  return high.toNat * 256 + low.toNat

/-- The bytes from index `start` up to but excluding index `stop`. -/
def slice (memory : ℕ → Option UInt8) (start stop : ℕ) : Option Bytes :=
  (List.range (stop - start)).mapM fun i => memory (start + i)

/-- The scan for the terminator: the byte is read only where `offset < length`. -/
def skipToNul (memory : ℕ → Option UInt8) (length : ℕ) : ℕ → ℕ → Option ℕ
  | 0, offset => some offset
  | fuel + 1, offset =>
      if offset < length then do
        let byte ← memory offset
        if byte ≠ 0 then skipToNul memory length fuel (offset + 1) else some offset
      else some offset

def readCString (memory : ℕ → Option UInt8) (length offset : ℕ) :
    Option (Option (Bytes × ℕ)) := do
  let stop ← skipToNul memory length (length - offset) offset
  if length ≤ stop then return none
  let out ← slice memory offset stop
  return some (out, stop + 1)

def parseOptionList (memory : ℕ → Option UInt8) (length : ℕ) :
    ℕ → ℕ → List TftpOption → Option (Except Bytes (List TftpOption))
  | 0, _, out => some (.ok out)
  | fuel + 1, offset, out =>
      if offset < length then do
        match ← readCString memory length offset with
        | none => return .error (text "option name not NUL-terminated")
        | some (name, offset) =>
          match ← readCString memory length offset with
          | none => return .error (text "option value not NUL-terminated")
          | some (value, offset) =>
            if name = [] then return .error (text "empty option name")
            else parseOptionList memory length fuel offset (out ++ [⟨name, value⟩])
      else some (.ok out)

def parseRequest (opcode : TftpOpcode) (memory : ℕ → Option UInt8) (length : ℕ) :
    Option (Except Bytes TftpPacket) := do
  match ← readCString memory length 2 with
  | none => return .error (text "RRQ/WRQ filename not NUL-terminated")
  | some (filename, offset) =>
    match ← readCString memory length offset with
    | none => return .error (text "RRQ/WRQ mode not NUL-terminated")
    | some (mode, offset) =>
      match ← parseOptionList memory length (length + 1) offset [] with
      | .error reason => return .error (text "RRQ/WRQ " ++ reason)
      | .ok options => return .ok { opcode, filename, mode, options }

/-- Parse the `length` bytes at the start of `memory`. -/
def parseTftpPacket (memory : ℕ → Option UInt8) (length : ℕ) :
    Option (Except Bytes TftpPacket) :=
  if length < 2 then some (.error (text "datagram shorter than the 2-byte opcode field"))
  else do
    match ← readU16 memory 0 with
    | 1 => parseRequest .readRequest memory length
    | 2 => parseRequest .writeRequest memory length
    | 3 =>
        if length < 4 then return .error (text "DATA shorter than the 4-byte header")
        let blockNumber ← readU16 memory 2
        let data ← slice memory 4 length
        return .ok { opcode := .data, blockNumber, data }
    | 4 =>
        if length < 4 then return .error (text "ACK shorter than 4 bytes")
        let blockNumber ← readU16 memory 2
        return .ok { opcode := .acknowledgement, blockNumber }
    | 5 =>
        if length < 4 then return .error (text "ERROR shorter than the 4-byte header")
        let code ← readU16 memory 2
        match ← readCString memory length 4 with
        | none => return .error (text "ERROR message not NUL-terminated")
        | some (errorMessage, _) =>
            return .ok { opcode := .error, errorCode := ⟨code⟩, errorMessage }
    | 6 =>
        match ← parseOptionList memory length (length + 1) 2 [] with
        | .error reason => return .error (text "OACK " ++ reason)
        | .ok options => return .ok { opcode := .optionAcknowledgement, options }
    | rawOpcode => return .error (text "unknown opcode " ++ toDecimal rawOpcode)

section Agreement

variable {memory : ℕ → Option UInt8} {data : ℕ → UInt8} {length : ℕ}

theorem mapM_eq_some {f : ℕ → Option UInt8} {g : ℕ → UInt8} (l : List ℕ)
    (h : ∀ i ∈ l, f i = some (g i)) : l.mapM f = some (l.map g) := by
  induction l with
  | nil => rfl
  | cons i l ih =>
      have hrest := ih fun j hj => h j (List.mem_cons_of_mem _ hj)
      simp [h i (by simp), hrest]

theorem readU16_eq (h : ∀ i < length, memory i = some (data i)) {p : ℕ} (hp : p + 1 < length) :
    readU16 memory p = some (TftpHarness.readU16 data p) := by
  simp [readU16, TftpHarness.readU16, h p (by omega), h (p + 1) hp]

theorem slice_eq (h : ∀ i < length, memory i = some (data i)) {start stop : ℕ}
    (hstop : stop ≤ length) :
    slice memory start stop = some (TftpHarness.slice data start stop) := by
  refine mapM_eq_some _ ?_
  intro i hi
  have hlt := List.mem_range.mp hi
  exact h (start + i) (by omega)

theorem skipToNul_eq (h : ∀ i < length, memory i = some (data i)) (fuel : ℕ) :
    ∀ offset, skipToNul memory length fuel offset =
      some (TftpHarness.skipToNul data length fuel offset) := by
  induction fuel with
  | zero => intro offset; rfl
  | succ fuel ih =>
      intro offset
      by_cases hlt : offset < length
      · by_cases hbyte : data offset = 0
        · simp [skipToNul, TftpHarness.skipToNul, hlt, h offset hlt, hbyte]
        · simp [skipToNul, TftpHarness.skipToNul, hlt, h offset hlt, hbyte, ih]
      · simp [skipToNul, TftpHarness.skipToNul, hlt]

theorem readCString_eq (h : ∀ i < length, memory i = some (data i)) (offset : ℕ) :
    readCString memory length offset = some (TftpHarness.readCString data length offset) := by
  simp only [readCString, skipToNul_eq h, Option.bind_eq_bind, Option.bind_some,
    TftpHarness.readCString]
  by_cases hend : length ≤ TftpHarness.skipToNul data length (length - offset) offset
  · simp [hend]
  · simp [hend, slice_eq h (Nat.le_of_not_le hend)]

theorem parseOptionList_eq (h : ∀ i < length, memory i = some (data i)) (fuel : ℕ) :
    ∀ offset out, parseOptionList memory length fuel offset out =
      some (TftpHarness.parseOptionList data length fuel offset out) := by
  induction fuel with
  | zero => intro offset out; rfl
  | succ fuel ih =>
      intro offset out
      by_cases hlt : offset < length
      · simp only [parseOptionList, TftpHarness.parseOptionList, hlt, if_true, readCString_eq h,
          Option.bind_eq_bind, Option.bind_some]
        cases TftpHarness.readCString data length offset with
        | none => rfl
        | some first =>
            obtain ⟨name, afterName⟩ := first
            simp only
            cases TftpHarness.readCString data length afterName with
            | none => rfl
            | some second =>
                obtain ⟨value, afterValue⟩ := second
                by_cases hempty : name = []
                · simp [hempty]
                · simp [hempty, ih]
      · simp [parseOptionList, TftpHarness.parseOptionList, hlt]

theorem parseRequest_eq (h : ∀ i < length, memory i = some (data i)) (opcode : TftpOpcode) :
    parseRequest opcode memory length = some (TftpHarness.parseRequest opcode data length) := by
  simp only [parseRequest, TftpHarness.parseRequest, readCString_eq h, Option.bind_eq_bind,
    Option.bind_some]
  cases TftpHarness.readCString data length 2 with
  | none => rfl
  | some first =>
      obtain ⟨filename, afterFilename⟩ := first
      simp only
      cases TftpHarness.readCString data length afterFilename with
      | none => rfl
      | some second =>
          obtain ⟨mode, afterMode⟩ := second
          simp only [parseOptionList_eq h, Option.bind_some]
          cases TftpHarness.parseOptionList data length (length + 1) afterMode [] with
          | error reason => rfl
          | ok options => rfl

/-- **The parser reads inside the datagram only**: over a memory that holds `length` bytes, whatever
lies behind them and even when nothing does, it does not fault, and the result is that of the
parser. -/
theorem parseTftpPacket_eq (h : ∀ i < length, memory i = some (data i)) :
    parseTftpPacket memory length = some (TftpHarness.parseTftpPacket data length) := by
  by_cases hshort : length < 2
  · simp [parseTftpPacket, TftpHarness.parseTftpPacket, hshort]
  · simp only [parseTftpPacket, TftpHarness.parseTftpPacket, hshort, if_false,
      readU16_eq h (p := 0) (by omega), Option.bind_eq_bind, Option.bind_some]
    generalize TftpHarness.readU16 data 0 = code
    rcases code with _ | _ | _ | _ | _ | _ | _ | code
    · rfl
    · exact parseRequest_eq h .readRequest
    · exact parseRequest_eq h .writeRequest
    · -- DATA
      by_cases hlong : length < 4
      · simp [hlong]
      · simp [hlong, readU16_eq h (p := 2) (by omega), slice_eq h (le_refl length)]
    · -- ACK
      by_cases hlong : length < 4
      · simp [hlong]
      · simp [hlong, readU16_eq h (p := 2) (by omega)]
    · -- ERROR
      by_cases hlong : length < 4
      · simp [hlong]
      · simp only [Nat.reduceAdd, hlong, if_false, readU16_eq h (p := 2) (by omega),
          Option.bind_some, readCString_eq h]
        cases TftpHarness.readCString data length 4 with
        | none => rfl
        | some message => rfl
    · -- OACK
      simp only [Nat.reduceAdd, parseOptionList_eq h, Option.bind_some]
      cases TftpHarness.parseOptionList data length (length + 1) 2 [] with
      | error reason => rfl
      | ok options => rfl
    · rfl

end Agreement

end Checked

/-! ### The codec -/

/-- **The codec round-trips and accepts exactly its grammar.**  Every well-formed packet is read
back from its serialisation; a byte string is accepted exactly when it is in the grammar; what was
parsed serialises to the datagram, or for an ACK and an ERROR to a prefix of it; and over a memory
that holds just the datagram no read faults. -/
theorem codec_exact :
    (∀ packet, WellFormed packet → parseDatagram packet.serialize = .ok packet) ∧
      (∀ d, (∃ packet, parseDatagram d = .ok packet) ↔ InGrammar d) ∧
      (∀ d packet, parseDatagram d = .ok packet → packet.serialize = d ∨
        (packet.opcode = .acknowledgement ∨ packet.opcode = .error) ∧ packet.serialize <+: d) ∧
      ∀ d : Bytes, Checked.parseTftpPacket (fun i => d[i]?) d.length = some (parseDatagram d) := by
  refine ⟨fun packet => parse_serialize, ?_, ?_, ?_⟩
  · intro d
    refine ⟨?_, parse_of_inGrammar⟩
    rintro ⟨packet, hparse⟩
    obtain ⟨hwell, trailing, rfl, htrailing⟩ := serialize_of_parse hparse
    exact inGrammar_serialize hwell htrailing
  · intro d packet hparse
    obtain ⟨-, trailing, rfl, htrailing⟩ := serialize_of_parse hparse
    by_cases hack : packet.opcode = .acknowledgement
    · exact Or.inr ⟨Or.inl hack, List.prefix_append _ _⟩
    · by_cases herror : packet.opcode = .error
      · exact Or.inr ⟨Or.inr herror, List.prefix_append _ _⟩
      · left
        rw [htrailing hack herror, List.append_nil]
  · intro d
    refine Checked.parseTftpPacket_eq ?_
    intro i hi
    simp [byteAt, List.getD_eq_getElem?_getD, List.getElem?_eq_getElem hi]

/-- An ERROR with bytes behind its message is accepted, and they are lost. -/
theorem codec_exact_trailing :
    (({ opcode := .error, errorCode := ⟨5⟩ } : TftpPacket).serialize = [0, 5, 0, 5, 0, 7] ∨
      ((TftpOpcode.error = .acknowledgement ∨ TftpOpcode.error = .error) ∧
        ({ opcode := .error, errorCode := ⟨5⟩ } : TftpPacket).serialize <+: [0, 5, 0, 5, 0, 7])) :=
  codec_exact.2.2.1 [0, 5, 0, 5, 0, 7] { opcode := .error, errorCode := ⟨5⟩ } (by decide +kernel)

end TftpHarness
