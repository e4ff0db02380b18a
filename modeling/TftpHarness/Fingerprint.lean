/-
**What a fingerprint says.**

`Sha256` is fed in pieces of any size, and pads at the end through the same buffer.  Whatever the
pieces, the digest is the one of the whole message: the message, a one bit, the fewest zeros that
leave eight bytes to the end of a block, and the length in bits, taken up block by block.

The oracle compares fingerprints and not files.  When they differ, so do the files.  When they agree
and the files do not, the two files contain a collision of `process_block`, and comparing their
blocks from the ends finds it.

Main definitions:

* `TftpHarness.padding` — the padding of a message;
* `TftpHarness.messageBlocks`, `TftpHarness.digestBytes` — the digest without a buffer;
* `TftpHarness.findCollision` — the comparison of two messages from their ends.

Main results:

* `TftpHarness.Sha256.Represents.update`, `TftpHarness.Sha256.Represents.finalize` — what a hasher
  holds;
* `TftpHarness.sha256_of_pieces` — **how a message is cut does not matter**;
* `TftpHarness.compareFiles_verdict` — **a verdict is right, or the files contain a collision**.
-/

import TftpHarness.LineEnds
import TftpHarness.MerkleDamgard
import TftpHarness.Oracle

set_option relaxedAutoImplicit false
set_option autoImplicit false

namespace TftpHarness

open MerkleDamgard

/-! ### The digest without a buffer -/

/-- The padding of a message of `length` bytes. -/
def padding (length : ℕ) : Bytes :=
  0x80 :: (List.replicate ((119 - length % 64) % 64) 0 ++
    Sha256.bigEndian 8 (length * 8 % 2 ^ 64))

/-- The blocks of a padded message. -/
def messageBlocks (data : Bytes) : List Bytes := blocks 64 (data ++ padding data.length)

/-- The bytes of a hash value. -/
def digestBytes (state : HashWords) : Bytes :=
  [state.a, state.b, state.c, state.d, state.e, state.f, state.g, state.h].flatMap fun word =>
    Sha256.bigEndian 4 word.toNat

theorem Sha256.bigEndian_length (width value : ℕ) : (bigEndian width value).length = width := by
  rw [bigEndian, List.length_map, List.length_range]

/-- The padding ends with a block. -/
theorem dvd_padded_length (data : Bytes) : 64 ∣ (data ++ padding data.length).length := by
  simp only [padding, List.length_append, List.length_cons, List.length_replicate,
    Sha256.bigEndian_length]
  omega

/-! ### What a hasher holds -/

namespace Sha256

/-- A hasher that has been given `data`. -/
structure Represents (hasher : Sha256) (data : Bytes) : Prop where
  state : hasher.state = chain processBlock initialHash (blocks 64 data)
  buffer : hasher.buffer = rest 64 data
  totalLength : hasher.totalLength = UInt64.ofNat data.length

theorem represents_nil : Represents {} [] := by
  refine ⟨?_, ?_, rfl⟩
  · rw [blocks_short (by decide)]
    rfl
  · rw [rest_short (by decide)]

/-- One more byte fills the buffer, or does not. -/
theorem fill_byte {hasher : Sha256} {data : Bytes}
    (hstate : hasher.state = chain processBlock initialHash (blocks 64 data))
    (hbuffer : hasher.buffer = rest 64 data) (byte : UInt8) :
    (hasher.fill [byte]).state =
        chain processBlock initialHash (blocks 64 (data ++ [byte])) ∧
      (hasher.fill [byte]).buffer = rest 64 (data ++ [byte]) := by
  rw [blocks_concat (by decide), rest_concat (by decide), ← hbuffer]
  unfold fill
  simp only [List.length_singleton]
  split
  · exact ⟨hstate, rfl⟩
  · exact ⟨by rw [chain_concat, hstate], rfl⟩

theorem absorb_represents (more : Bytes) :
    ∀ {hasher : Sha256} {data : Bytes},
      hasher.state = chain processBlock initialHash (blocks 64 data) →
      hasher.buffer = rest 64 data →
        (hasher.absorb more).state =
            chain processBlock initialHash (blocks 64 (data ++ more)) ∧
          (hasher.absorb more).buffer = rest 64 (data ++ more) := by
  simp only [absorb_eq_foldl]
  induction more with
  | nil =>
      intro hasher data hstate hbuffer
      rw [List.append_nil]
      exact ⟨hstate, hbuffer⟩
  | cons byte more ih =>
      intro hasher data hstate hbuffer
      obtain ⟨hstate', hbuffer'⟩ := fill_byte hstate hbuffer byte
      rw [List.foldl_cons, show data ++ byte :: more = data ++ [byte] ++ more by simp]
      exact ih hstate' hbuffer'

theorem fill_totalLength (hasher : Sha256) (bytes : Bytes) :
    (hasher.fill bytes).totalLength = hasher.totalLength := by
  unfold fill
  split <;> rfl

theorem absorb_totalLength (hasher : Sha256) (bytes : Bytes) :
    (hasher.absorb bytes).totalLength = hasher.totalLength := by
  rw [absorb_eq_foldl]
  induction bytes generalizing hasher with
  | nil => rfl
  | cons byte bytes ih => rw [List.foldl_cons, ih, fill_totalLength]

/-- **A piece more.** -/
theorem Represents.update {hasher : Sha256} {data : Bytes} (h : hasher.Represents data)
    (more : Bytes) : (hasher.update more).Represents (data ++ more) := by
  obtain ⟨hstate, hbuffer⟩ := @absorb_represents more
    (hasher.withTotalLength (hasher.totalLength + UInt64.ofNat more.length)) data h.state h.buffer
  refine ⟨hstate, hbuffer, ?_⟩
  unfold Sha256.update
  rw [absorb_totalLength, List.length_append, UInt64.ofNat_add, ← h.totalLength]
  rfl

/-- Pieces one after the other. -/
theorem Represents.pieces (pieces : List Bytes) :
    ∀ {hasher : Sha256} {data : Bytes}, hasher.Represents data →
      (pieces.foldl Sha256.update hasher).Represents (data ++ pieces.flatten) := by
  induction pieces with
  | nil =>
      intro hasher data h
      rwa [List.flatten_nil, List.append_nil]
  | cons piece pieces ih =>
      intro hasher data h
      rw [List.foldl_cons, List.flatten_cons, ← List.append_assoc]
      exact ih (h.update piece)

/-- **The zeros that `finalize` adds**: as many as fill the buffer up to the length, if the loop may
go round that often. -/
theorem addZeros_represents {count : ℕ} :
    ∀ {fuel : ℕ} {hasher : Sha256} {data : Bytes}, hasher.Represents data →
      count = (120 - hasher.buffer.length) % 64 → count < fuel →
        (addZeros fuel hasher).Represents (data ++ List.replicate count 0) := by
  induction count with
  | zero =>
      intro fuel hasher data h hcount hfuel
      obtain ⟨fuel, rfl⟩ := Nat.exists_eq_add_one_of_ne_zero (by omega : fuel ≠ 0)
      have hroom := hasher.buffer_length
      rw [addZeros, if_pos (by omega), List.replicate_zero, List.append_nil]
      exact h
  | succ count ih =>
      intro fuel hasher data h hcount hfuel
      obtain ⟨fuel, rfl⟩ := Nat.exists_eq_add_one_of_ne_zero (by omega : fuel ≠ 0)
      have hnext := h.update [0]
      have hlength : hasher.buffer.length = data.length % 64 := by rw [h.buffer, rest_length]
      have hlength' : (hasher.update [0]).buffer.length = (data.length + 1) % 64 := by
        rw [hnext.buffer, rest_length, List.length_append, List.length_singleton]
      rw [addZeros, if_neg (by omega), List.replicate_succ, List.append_cons]
      exact ih hnext (by omega) (by omega)

/-- **The digest of what a hasher has been given.** -/
theorem Represents.finalize {hasher : Sha256} {data : Bytes} (h : hasher.Represents data) :
    hasher.finalize = digestBytes (chain processBlock initialHash (messageBlocks data)) := by
  have hmarked := h.update [0x80]
  have hlength : (hasher.update [0x80]).buffer.length = (data.length + 1) % 64 := by
    rw [hmarked.buffer, rest_length, List.length_append, List.length_singleton]
  have hpadded := addZeros_represents hmarked
    (by rw [hlength]; omega : (119 - data.length % 64) % 64 = _) (by omega : _ < 64)
  have hbits : (hasher.totalLength * 8).toNat = data.length * 8 % 2 ^ 64 := by
    rw [h.totalLength, UInt64.toNat_mul, UInt64.toNat_ofNat']
    simp only [UInt64.reduceToNat]
    omega
  have hstate := (hpadded.update (bigEndian 8 (hasher.totalLength * 8).toNat)).state
  unfold Sha256.finalize
  simp only
  rw [hstate, hbits]
  simp only [messageBlocks, padding, digestBytes, List.append_assoc, List.cons_append,
    List.nil_append]

end Sha256

/-- **How a message is cut does not matter**: the digest of any pieces is that of the padded blocks
of the whole message. -/
theorem sha256_of_pieces (pieces : List Bytes) :
    (pieces.foldl Sha256.update {}).finalize =
      digestBytes (chain processBlock initialHash (messageBlocks pieces.flatten)) := by
  have h := Sha256.represents_nil.pieces pieces
  rw [List.nil_append] at h
  exact h.finalize

/-! ### The bytes of numbers -/

section Numbers

/-- The last byte of a number, and the bytes before it. -/
theorem Sha256.bigEndian_succ (width value : ℕ) :
    bigEndian (width + 1) value = bigEndian width (value / 256) ++ [UInt8.ofNat value] := by
  unfold bigEndian
  rw [List.range_succ, List.map_append, List.map_singleton]
  congr 1
  · refine List.map_congr_left fun i hi => ?_
    have hlt := List.mem_range.1 hi
    rw [show 8 * (width + 1 - 1 - i) = 8 + 8 * (width - 1 - i) by omega, Nat.shiftRight_add,
      Nat.shiftRight_eq_div_pow value 8]
  · rw [show 8 * (width + 1 - 1 - width) = 0 by omega]
    rfl

theorem Sha256.bigEndian_injOn (width : ℕ) :
    ∀ {x y : ℕ}, x < 256 ^ width → y < 256 ^ width →
      bigEndian width x = bigEndian width y → x = y := by
  induction width with
  | zero =>
      intro x y hx hy _
      rw [pow_zero] at hx hy
      omega
  | succ width ih =>
      intro x y hx hy h
      rw [bigEndian_succ, bigEndian_succ] at h
      obtain ⟨hfront, hlast⟩ := List.append_inj h (by rw [bigEndian_length, bigEndian_length])
      rw [pow_succ] at hx hy
      have hdiv := ih (Nat.div_lt_of_lt_mul (by omega)) (Nat.div_lt_of_lt_mul (by omega)) hfront
      have hmod : x % 256 = y % 256 := by
        have heq := congrArg UInt8.toNat (List.cons.inj hlast).1
        simpa using heq
      omega

theorem digestBytes_injective : Function.Injective digestBytes := by
  intro s t h
  have hwords := flatMap_injective (by decide : 0 < 4)
    (fun word : UInt32 => Sha256.bigEndian_length 4 word.toNat) (fun a b hab =>
      UInt32.toNat_inj.1 (Sha256.bigEndian_injOn 4 a.toNat_lt b.toNat_lt hab)) h
  simp only [List.cons.injEq, and_true] at hwords
  obtain ⟨ha, hb, hc, hd, he, hf, hg, hh⟩ := hwords
  exact (HashWords.mk.injEq ..).symm ▸ ⟨ha, hb, hc, hd, he, hf, hg, hh⟩

theorem digestDigit_injOn : ∀ m < 16, ∀ n < 16, digestDigit m = digestDigit n → m = n := by
  decide +kernel

theorem toHex_injective : Function.Injective toHex := by
  refine flatMap_injective (by decide : 0 < 2) (fun _ => rfl) fun a b h => ?_
  obtain ⟨hhigh, hlow⟩ : digestDigit (a.toNat / 16) = digestDigit (b.toNat / 16) ∧
      digestDigit (a.toNat % 16) = digestDigit (b.toNat % 16) := by simpa using h
  have ha := a.toNat_lt
  have hb := b.toNat_lt
  have hdiv := digestDigit_injOn _ (by omega) _ (by omega) hhigh
  have hmod := digestDigit_injOn _ (by omega) _ (by omega) hlow
  exact UInt8.toNat_inj.1 (by omega)

end Numbers

/-! ### Equal fingerprints -/

/-- Two messages compared block by block from their ends. -/
def findCollision (data data' : Bytes) : Option ((HashWords × Bytes) × (HashWords × Bytes)) :=
  collide processBlock initialHash (messageBlocks data).reverse (messageBlocks data').reverse

/-- **A padded message does not end with another one**: its end says how long it is. -/
theorem eq_of_messageBlocks_suffix {data data' : Bytes} (hlength : data.length < 2 ^ 61)
    (hlength' : data'.length < 2 ^ 61) (h : messageBlocks data <:+ messageBlocks data') :
    data = data' := by
  obtain ⟨front, hfront⟩ := h
  have hpadded : front.flatten ++ (data ++ padding data.length) =
      data' ++ padding data'.length := by
    have heq := congrArg List.flatten hfront
    rwa [List.flatten_append, messageBlocks, messageBlocks,
      flatten_blocks (by decide) (dvd_padded_length data),
      flatten_blocks (by decide) (dvd_padded_length data')] at heq
  have hend : ∀ n (xs : Bytes), xs ++ padding n =
      xs ++ 0x80 :: List.replicate ((119 - n % 64) % 64) 0 ++
        Sha256.bigEndian 8 (n * 8 % 2 ^ 64) := by
    intro n xs
    rw [padding, List.append_assoc, List.cons_append]
  have hsame : data.length = data'.length := by
    rw [← List.append_assoc, hend, hend] at hpadded
    have hbits := (List.append_inj' hpadded (by
      rw [Sha256.bigEndian_length, Sha256.bigEndian_length])).2
    have heq := Sha256.bigEndian_injOn 8 (by omega) (by omega) hbits
    omega
  have hnil : front.flatten = [] := by
    have heq := congrArg List.length hpadded
    rw [List.length_append, List.length_append, List.length_append, hsame] at heq
    exact List.length_eq_zero_iff.1 (by omega)
  rw [hnil, List.nil_append, hsame] at hpadded
  exact List.append_cancel_right hpadded

/-- **Two messages with one fingerprint contain a collision.** -/
theorem findCollision_of_sha256Hex_eq {data data' : Bytes} (hlength : data.length < 2 ^ 61)
    (hlength' : data'.length < 2 ^ 61) (hne : data ≠ data')
    (h : sha256Hex data = sha256Hex data') :
    ∃ p q, findCollision data data' = some (p, q) ∧ p ≠ q ∧ p.2 ∈ messageBlocks data ∧
      q.2 ∈ messageBlocks data' ∧ processBlock p.1 p.2 = processBlock q.1 q.2 := by
  have hdigest : ∀ bytes, sha256Digest bytes =
      digestBytes (chain processBlock initialHash (messageBlocks bytes)) := fun bytes =>
    (Sha256.represents_nil.update bytes).finalize
  have hchain := toHex_injective h
  rw [hdigest, hdigest] at hchain
  have hsame := digestBytes_injective hchain
  rw [← List.reverse_reverse (messageBlocks data), ← List.reverse_reverse (messageBlocks data')]
    at hsame
  obtain ⟨p, q, hfound, hpq, hp, hq, hcollision⟩ := collide_of_chain_eq
    (fun hle => hne (eq_of_messageBlocks_suffix hlength hlength' (List.reverse_prefix.1 hle)))
    (fun hle => hne (eq_of_messageBlocks_suffix hlength' hlength
      (List.reverse_prefix.1 hle)).symm) hsame
  exact ⟨p, q, hfound, hpq, List.mem_reverse.1 hp, List.mem_reverse.1 hq, hcollision⟩

/-! ### The verdict of the oracle -/

/-- A text is no longer after a round trip. -/
theorem collapseLineEnds_length_le (x : Bytes) : (collapseLineEnds x).length ≤ x.length := by
  fun_induction collapseLineEnds x with
  | case1 => exact le_refl _
  | case2 byte => exact le_refl _
  | case3 byte following rest hcrlf ih =>
      simp only [List.length_cons]
      omega
  | case4 byte following rest hcrlf ih =>
      simp only [List.length_cons] at ih ⊢
      omega

theorem normalised_length_le (netascii : Bool) (bytes : Bytes) :
    (decodeForMode netascii (encodeForMode netascii bytes)).length ≤ bytes.length := by
  rw [decodeForMode_encodeForMode]
  split
  · rw [decode_encode_eq_collapseLineEnds]
    exact collapseLineEnds_length_le bytes
  · exact le_refl _

theorem compareBytes_verdict (source delivered : Bytes) (netascii : Bool) :
    (compareBytes source delivered netascii).verdict =
      if sha256Hex (decodeForMode netascii (encodeForMode netascii source)) = sha256Hex delivered
      then .match else .mismatch := by
  unfold compareBytes
  dsimp only
  split <;> rfl

/-- **A verdict is right, or the files contain a collision.**  On a mismatch the delivered file is
not the normalised source.  On a match it is, or the two contain two inputs of `process_block` with
one value, which are found from their ends. -/
theorem compareFiles_verdict {files : FileSystem} {source delivered : Path} {netascii : Bool}
    (hsource : ∀ bytes, files.read source.components = some bytes → bytes.length < 2 ^ 61)
    (hdelivered : ∀ bytes, files.read delivered.components = some bytes →
      bytes.length < 2 ^ 61) :
    ((compareFiles files source delivered netascii).verdict = .mismatch →
      ∃ s d, files.read source.components = some s ∧ files.read delivered.components = some d ∧
        d ≠ decodeForMode netascii (encodeForMode netascii s)) ∧
    ((compareFiles files source delivered netascii).verdict = .match →
      ∃ s d, files.read source.components = some s ∧ files.read delivered.components = some d ∧
        (d = decodeForMode netascii (encodeForMode netascii s) ∨
          ∃ p q, findCollision (decodeForMode netascii (encodeForMode netascii s)) d =
              some (p, q) ∧ p ≠ q ∧ p.2.length = 64 ∧ q.2.length = 64 ∧
            processBlock p.1 p.2 = processBlock q.1 q.2)) := by
  unfold compareFiles
  cases hs : files.read source.components with
  | none => exact ⟨by simp, by simp⟩
  | some s =>
      cases hd : files.read delivered.components with
      | none => exact ⟨by simp, by simp⟩
      | some d =>
          simp only [compareBytes_verdict]
          refine ⟨fun hverdict => ⟨s, d, rfl, rfl, fun heq => ?_⟩,
            fun hverdict => ⟨s, d, rfl, rfl, ?_⟩⟩
          · rw [heq, if_pos rfl] at hverdict
            exact absurd hverdict (by simp)
          · have hhash : sha256Hex (decodeForMode netascii (encodeForMode netascii s)) =
                sha256Hex d := by
              by_contra hne
              rw [if_neg hne] at hverdict
              exact absurd hverdict (by simp)
            by_cases heq : d = decodeForMode netascii (encodeForMode netascii s)
            · exact Or.inl heq
            · obtain ⟨p, q, hfound, hpq, hp, hq, hcollision⟩ := findCollision_of_sha256Hex_eq
                (lt_of_le_of_lt (normalised_length_le netascii s) (hsource s hs))
                (hdelivered d hd) (Ne.symm heq) hhash
              exact Or.inr ⟨p, q, hfound, hpq, blocks_length_eq hp, blocks_length_eq hq,
                hcollision⟩

/-- Two names for files in the root directory. -/
def sourceName : Path := ⟨[], text "source"⟩

def deliveredName : Path := ⟨[], text "delivered"⟩

/-- A file and a copy of it. -/
def copiedFile : FileSystem :=
  (FileTree.Tree.empty.overwrite sourceName.components [1, 2]).overwrite
    deliveredName.components [1, 2]

theorem compareFiles_verdict_copy :
    (compareFiles copiedFile sourceName deliveredName false).verdict = .match ∧
      ∃ s d, copiedFile.read sourceName.components = some s ∧
        copiedFile.read deliveredName.components = some d ∧
        (d = s ∨ ∃ p q, findCollision s d = some (p, q) ∧ p ≠ q ∧ p.2.length = 64 ∧
          q.2.length = 64 ∧ processBlock p.1 p.2 = processBlock q.1 q.2) := by
  have hsource : copiedFile.read sourceName.components = some [1, 2] := by decide +kernel
  have hdelivered : copiedFile.read deliveredName.components = some [1, 2] := by decide +kernel
  have hmatch : (compareFiles copiedFile sourceName deliveredName false).verdict = .match :=
    compareFiles_self hsource hdelivered
  refine ⟨hmatch, (@compareFiles_verdict copiedFile sourceName deliveredName false ?_ ?_).2 hmatch⟩
  · intro bytes hbytes
    cases Option.some.inj (hsource.symm.trans hbytes)
    decide
  · intro bytes hbytes
    cases Option.some.inj (hdelivered.symm.trans hbytes)
    decide

end TftpHarness
