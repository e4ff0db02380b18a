/-
**Bytes, text and fixed-width counters.**

The harness moves datagrams, file contents and strings around as sequences of bytes, and counts
blocks in unsigned integers of 16 and 32 bits.  This module fixes how both are written down.
A `std::vector<std::uint8_t>` and a `std::string` are lists of bytes (a C++ string may hold any
byte, a NUL included); the text of a string literal is its UTF-8 encoding, which is how the
compiler stores it.  A fixed-width integer is a natural number, and the reductions
`TftpHarness.u16` and `TftpHarness.u32` stand wherever the source can wrap around.

Main definitions:

* `TftpHarness.Bytes`, `TftpHarness.text` — byte sequences and the bytes of a literal;
* `TftpHarness.u16`, `TftpHarness.u32` — reduction to 16 and to 32 bits;
* `TftpHarness.indexRange` — the indices visited by a loop `for (i = lo; i <= hi; ++i)`.
-/

import Mathlib.Data.Nat.Notation
import Mathlib.Data.List.Basic

set_option relaxedAutoImplicit false
set_option autoImplicit false

namespace TftpHarness

/-- A sequence of bytes: a datagram, the contents of a file, or a C++ string. -/
abbrev Bytes := List UInt8

instance lawfulBEqBytes : LawfulBEq Bytes := inferInstance

/-- The bytes of a string literal. -/
def text (s : String) : Bytes := s.toList.flatMap String.utf8EncodeChar

/-- Conversion to a 16-bit unsigned integer. -/
def u16 (n : ℕ) : ℕ := n % 65536

/-- Conversion to a 32-bit unsigned integer. -/
def u32 (n : ℕ) : ℕ := n % 4294967296

theorem u16_lt (n : ℕ) : u16 n < 65536 := Nat.mod_lt _ (by decide)

theorem u16_of_lt {n : ℕ} (h : n < 65536) : u16 n = n := Nat.mod_eq_of_lt h

theorem u32_of_lt {n : ℕ} (h : n < 4294967296) : u32 n = n := Nat.mod_eq_of_lt h

/-- The low 16 bits determine a number among fewer than 65536 consecutive ones. -/
theorem eq_of_u16_eq {m n : ℕ} (h : u16 m = u16 n) (hmn : m < n + 65536) (hnm : n < m + 65536) :
    m = n := by
  unfold u16 at h
  omega

/-! ### Loops over an interval of indices -/

/-- The indices visited by `for (index = lo; index <= hi; ++index)`, in order.  At `hi = 2^32 - 1`
the source's 32-bit loop would not stop; no transfer the development reasons about has that many
blocks. -/
def indexRange (lo hi : ℕ) : List ℕ := List.range' lo (hi + 1 - lo)

@[simp] theorem mem_indexRange {lo hi i : ℕ} : i ∈ indexRange lo hi ↔ lo ≤ i ∧ i ≤ hi := by
  simp only [indexRange, List.mem_range'_1]
  omega

@[simp] theorem length_indexRange (lo hi : ℕ) : (indexRange lo hi).length = hi + 1 - lo := by
  simp [indexRange]

theorem indexRange_eq_nil {lo hi : ℕ} (h : hi < lo) : indexRange lo hi = [] := by
  have hz : hi + 1 - lo = 0 := by omega
  simp [indexRange, hz]

/-- A nonempty loop starts at its lower bound. -/
theorem indexRange_eq_cons {lo hi : ℕ} (h : lo ≤ hi) :
    indexRange lo hi = lo :: indexRange (lo + 1) hi := by
  have hs : hi + 1 - lo = (hi + 1 - (lo + 1)) + 1 := by omega
  rw [indexRange, hs, List.range'_succ, indexRange]

/-- Two loops that follow one another visit what one loop over both ranges visits. -/
theorem indexRange_append {lo mid hi : ℕ} (h₁ : lo ≤ mid + 1) (h₂ : mid ≤ hi) :
    indexRange lo mid ++ indexRange (mid + 1) hi = indexRange lo hi := by
  have hm : mid + 1 = lo + (mid + 1 - lo) := by omega
  have hs : hi + 1 - lo = (mid + 1 - lo) + (hi + 1 - (mid + 1)) := by omega
  rw [indexRange, indexRange, indexRange, hs, ← List.range'_append_1, ← hm]

/-- The loop visits its indices in strictly increasing order. -/
theorem pairwise_indexRange (lo hi : ℕ) : (indexRange lo hi).Pairwise (· < ·) :=
  List.pairwise_lt_range'

end TftpHarness
