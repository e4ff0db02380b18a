/-
**SHA-256.**

The content oracle compares fingerprints.  `src/verify/sha256.cpp` hashes in pieces: `update` fills
a buffer of 64 bytes and compresses it whenever it is full, and `finalize` feeds the padding
through the same buffer.

Main definitions:

* `TftpHarness.Sha256`, with `update` and `finalize` — the hasher;
* `TftpHarness.sha256Hex` — the fingerprint of a byte string.

Main results:

* `TftpHarness.Sha256.absorb_eq_foldl` — a piece is taken up byte by byte.
-/

import TftpHarness.Bytes

set_option relaxedAutoImplicit false
set_option autoImplicit false

namespace TftpHarness

/-! ### The compression function -/

def rotateRight (value bits : UInt32) : UInt32 := (value >>> bits) ||| (value <<< (32 - bits))

/-- The round constants. -/
def roundConstants : List UInt32 :=
  [0x428a2f98, 0x71374491, 0xb5c0fbcf, 0xe9b5dba5, 0x3956c25b, 0x59f111f1,
    0x923f82a4, 0xab1c5ed5, 0xd807aa98, 0x12835b01, 0x243185be, 0x550c7dc3,
    0x72be5d74, 0x80deb1fe, 0x9bdc06a7, 0xc19bf174, 0xe49b69c1, 0xefbe4786,
    0x0fc19dc6, 0x240ca1cc, 0x2de92c6f, 0x4a7484aa, 0x5cb0a9dc, 0x76f988da,
    0x983e5152, 0xa831c66d, 0xb00327c8, 0xbf597fc7, 0xc6e00bf3, 0xd5a79147,
    0x06ca6351, 0x14292967, 0x27b70a85, 0x2e1b2138, 0x4d2c6dfc, 0x53380d13,
    0x650a7354, 0x766a0abb, 0x81c2c92e, 0x92722c85, 0xa2bfe8a1, 0xa81a664b,
    0xc24b8b70, 0xc76c51a3, 0xd192e819, 0xd6990624, 0xf40e3585, 0x106aa070,
    0x19a4c116, 0x1e376c08, 0x2748774c, 0x34b0bcb5, 0x391c0cb3, 0x4ed8aa4a,
    0x5b9cca4f, 0x682e6ff3, 0x748f82ee, 0x78a5636f, 0x84c87814, 0x8cc70208,
    0x90befffa, 0xa4506ceb, 0xbef9a3f7, 0xc67178f2]

/-- The eight words of the hash value. -/
structure HashWords where
  a : UInt32
  b : UInt32
  c : UInt32
  d : UInt32
  e : UInt32
  f : UInt32
  g : UInt32
  h : UInt32
  deriving DecidableEq, Repr

/-- The initial hash value. -/
def initialHash : HashWords :=
  ⟨0x6a09e667, 0xbb67ae85, 0x3c6ef372, 0xa54ff53a, 0x510e527f, 0x9b05688c, 0x1f83d9ab, 0x5be0cd19⟩

/-- Big-endian words of four bytes. -/
def wordsOf : Bytes → List UInt32
  | w :: x :: y :: z :: rest =>
      ((w.toUInt32 <<< 24) ||| (x.toUInt32 <<< 16) ||| (y.toUInt32 <<< 8) ||| z.toUInt32) ::
        wordsOf rest
  | _ => []

/-- The words of the message schedule from the last sixteen on, latest first. -/
def extendSchedule : ℕ → List UInt32 → List UInt32
  | 0, words => words
  | n + 1, words =>
      let w15 := words.getD 14 0
      let w2 := words.getD 1 0
      let s0 := rotateRight w15 7 ^^^ rotateRight w15 18 ^^^ (w15 >>> 3)
      let s1 := rotateRight w2 17 ^^^ rotateRight w2 19 ^^^ (w2 >>> 10)
      extendSchedule n ((words.getD 15 0 + s0 + words.getD 6 0 + s1) :: words)

/-- One round. -/
def compressRound (v : HashWords) (constantAndWord : UInt32 × UInt32) : HashWords :=
  let bigS1 := rotateRight v.e 6 ^^^ rotateRight v.e 11 ^^^ rotateRight v.e 25
  let choose := (v.e &&& v.f) ^^^ (~~~v.e &&& v.g)
  let temp1 := v.h + bigS1 + choose + constantAndWord.1 + constantAndWord.2
  let bigS0 := rotateRight v.a 2 ^^^ rotateRight v.a 13 ^^^ rotateRight v.a 22
  let majority := (v.a &&& v.b) ^^^ (v.a &&& v.c) ^^^ (v.b &&& v.c)
  let temp2 := bigS0 + majority
  ⟨temp1 + temp2, v.a, v.b, v.c, v.d + temp1, v.e, v.f, v.g⟩

/-- `process_block`: the hash value after a block of 64 bytes. -/
def processBlock (state : HashWords) (block : Bytes) : HashWords :=
  let words := (extendSchedule 48 (wordsOf block).reverse).reverse
  let v := (roundConstants.zip words).foldl compressRound state
  ⟨state.a + v.a, state.b + v.b, state.c + v.c, state.d + v.d, state.e + v.e, state.f + v.f,
    state.g + v.g, state.h + v.h⟩

/-! ### The hasher -/

/-- `Sha256`: the buffer is never full between two calls. -/
structure Sha256 where
  state : HashWords := initialHash
  totalLength : UInt64 := 0
  buffer : Bytes := []
  buffer_length : buffer.length < 64 := by decide

namespace Sha256

/-- The buffer with more bytes in it; a full one is compressed. -/
def fill (hasher : Sha256) (bytes : Bytes) : Sha256 :=
  if h : hasher.buffer.length + bytes.length < 64 then
    { hasher with
      buffer := hasher.buffer ++ bytes
      buffer_length := by rwa [List.length_append] }
  else
    { hasher with
      state := processBlock hasher.state (hasher.buffer ++ bytes)
      buffer := []
      buffer_length := by decide }

/-- The loop of `Sha256::update`: as many bytes at a time as the buffer has room for. -/
def absorb (hasher : Sha256) (data : Bytes) : Sha256 :=
  if h : data = [] then hasher
  else
    let take := min (64 - hasher.buffer.length) data.length
    (hasher.fill (data.take take)).absorb (data.drop take)
termination_by data.length
decreasing_by
  have hroom := hasher.buffer_length
  have hdata := List.length_pos_iff.2 h
  rw [List.length_drop]
  omega

def withTotalLength (hasher : Sha256) (totalLength : UInt64) : Sha256 :=
  { hasher with totalLength := totalLength }

/-- `Sha256::update`. -/
def update (hasher : Sha256) (data : Bytes) : Sha256 :=
  (hasher.withTotalLength (hasher.totalLength + UInt64.ofNat data.length)).absorb data

/-- The big-endian bytes of a number. -/
def bigEndian (width : ℕ) (value : ℕ) : Bytes :=
  (List.range width).map fun i => UInt8.ofNat (value >>> (8 * (width - 1 - i)))

/-- The loop of `Sha256::finalize` that adds zeros up to eight bytes before the end of a block. -/
def addZeros : ℕ → Sha256 → Sha256
  | 0, hasher => hasher
  | fuel + 1, hasher =>
      if hasher.buffer.length = 56 then hasher else addZeros fuel (hasher.update [0])

/-- `Sha256::finalize`: a one bit, zeros, and the length in bits. -/
def finalize (hasher : Sha256) : Bytes :=
  let bitLength := hasher.totalLength * 8
  -- at most 63 zeros are added before the loop ends
  let padded := addZeros 64 (hasher.update [0x80])
  let state := (padded.update (bigEndian 8 bitLength.toNat)).state
  [state.a, state.b, state.c, state.d, state.e, state.f, state.g, state.h].flatMap fun word =>
    bigEndian 4 word.toNat

end Sha256

/-- `sha256_digest`. -/
def sha256Digest (data : Bytes) : Bytes := (({} : Sha256).update data).finalize

/-- A lower-case hexadecimal digit. -/
def digestDigit (n : ℕ) : UInt8 := (text "0123456789abcdef").getD n 0

/-- `to_hex`. -/
def toHex (digest : Bytes) : Bytes :=
  digest.flatMap fun byte => [digestDigit (byte.toNat / 16), digestDigit (byte.toNat % 16)]

/-- `sha256_hex`. -/
def sha256Hex (data : Bytes) : Bytes := toHex (sha256Digest data)

/-! ### Pieces -/

namespace Sha256

/-- Filling the buffer with some bytes that do not fill it up, and then with more. -/
theorem fill_fill (hasher : Sha256) {xs : Bytes} (ys : Bytes)
    (h : hasher.buffer.length + xs.length < 64) :
    (hasher.fill xs).fill ys = hasher.fill (xs ++ ys) := by
  unfold fill
  simp only [dif_pos h, List.length_append, List.append_assoc, Nat.add_assoc]

/-- What fits into the buffer goes in byte by byte. -/
theorem fill_eq_foldl (data : Bytes) :
    ∀ hasher : Sha256, data ≠ [] → hasher.buffer.length + data.length ≤ 64 →
      hasher.fill data = data.foldl (fun hasher byte => hasher.fill [byte]) hasher := by
  induction data with
  | nil => intro hasher h; exact absurd rfl h
  | cons byte rest ih =>
      intro hasher _ hfit
      rw [List.length_cons] at hfit
      rw [List.foldl_cons]
      by_cases hrest : rest = []
      · rw [hrest, List.foldl_nil]
      · have hpos := List.length_pos_iff.2 hrest
        have hone : hasher.buffer.length + [byte].length < 64 := by
          rw [List.length_singleton]
          omega
        have hbuffer : (hasher.fill [byte]).buffer = hasher.buffer ++ [byte] := by
          unfold fill
          rw [dif_pos hone]
        have hfit' : (hasher.fill [byte]).buffer.length + rest.length ≤ 64 := by
          rw [hbuffer, List.length_append, List.length_singleton]
          omega
        rw [← ih (hasher.fill [byte]) hrest hfit', fill_fill hasher rest hone,
          List.singleton_append]

/-- A piece is taken up byte by byte. -/
theorem absorb_eq_foldl (hasher : Sha256) (data : Bytes) :
    hasher.absorb data = data.foldl (fun hasher byte => hasher.fill [byte]) hasher := by
  induction hasher, data using absorb.induct with
  | case1 hasher => rw [absorb, dif_pos rfl, List.foldl_nil]
  | case2 hasher data h take ih =>
      have hroom := hasher.buffer_length
      have hpos := List.length_pos_iff.2 h
      have hlength : (data.take take).length = take := by
        rw [List.length_take]
        omega
      have htaken : data.take take ≠ [] := by
        rw [← List.length_pos_iff, hlength]
        omega
      rw [absorb, dif_neg h]
      rw [show min (64 - hasher.buffer.length) data.length = take from rfl, ih,
        fill_eq_foldl _ hasher htaken (by omega), ← List.foldl_append, List.take_append_drop]

end Sha256

end TftpHarness
