/-
**Netascii line ends: what a transfer makes of a text.**

`src/net/netascii.cpp` promises that on the wire every LF is preceded by CR and every CR followed
by LF or NUL, and the content oracle compares a netascii transfer against the normalised original,
the decoding of the encoding.  Both passes look one byte ahead and sometimes skip it.  This module
proves the promise about the wire and computes the normalised original: it is the text with each
CR LF replaced by LF.

The replacement is not idempotent.  The lone CR of CR CR LF survives, as the header promises, and
then stands before the LF that the rest has become; so a second transfer takes it away.  The texts
on which this happens are exactly those that hold CR CR LF.

Main definitions:

* `TftpHarness.collapseLineEnds` — a text with each CR LF replaced by LF.

Main results:

* `TftpHarness.netascii_round_trip` — the form of the wire, and what decoding it gives;
* `TftpHarness.collapseLineEnds_twice_iff`, `TftpHarness.netascii_normal_form` — when a second
  round trip changes nothing.
-/

import Mathlib.Data.List.Infix
import TftpHarness.Netascii

set_option relaxedAutoImplicit false
set_option autoImplicit false

namespace TftpHarness

@[simp] theorem carriageReturn_ne_lineFeed : carriageReturn ≠ lineFeed := by decide

@[simp] theorem lineFeed_ne_carriageReturn : lineFeed ≠ carriageReturn := by decide

@[simp] theorem carriageReturn_ne_zero : carriageReturn ≠ 0 := by decide

@[simp] theorem lineFeed_ne_zero : lineFeed ≠ 0 := by decide

/-! ### The form of the wire -/

/-- Every CR that netascii puts on the wire is followed by LF or NUL. -/
theorem encodeLocalToNetascii_after_carriageReturn (x : Bytes) (i : ℕ)
    (h : (encodeLocalToNetascii x)[i]? = some carriageReturn) :
    (encodeLocalToNetascii x)[i + 1]? = some lineFeed ∨
      (encodeLocalToNetascii x)[i + 1]? = some 0 := by
  fun_induction encodeLocalToNetascii x generalizing i with
  | case1 => simp at h
  | case2 rest ih | case3 rest hne ih =>
      match i with
      | 0 => exact Or.inl rfl
      | 1 => simp at h
      | i + 2 => exact ih i (by simpa using h)
  | case4 following rest hfollowing hne ih =>
      match i with
      | 0 => exact Or.inr rfl
      | 1 => simp [carriageReturn_ne_zero.symm] at h
      | i + 2 => exact ih i (by simpa using h)
  | case5 hne =>
      match i with
      | 0 => exact Or.inr rfl
      | 1 => simp [carriageReturn_ne_zero.symm] at h
      | i + 2 => simp at h
  | case6 byte rest hlf hcr ih =>
      match i with
      | 0 => exact absurd (by simpa using h) hcr
      | i + 1 => exact ih i (by simpa using h)

/-- Every LF that netascii puts on the wire has a CR before it. -/
theorem encodeLocalToNetascii_before_lineFeed (x : Bytes) (i : ℕ)
    (h : (encodeLocalToNetascii x)[i]? = some lineFeed) :
    ∃ j, i = j + 1 ∧ (encodeLocalToNetascii x)[j]? = some carriageReturn := by
  fun_induction encodeLocalToNetascii x generalizing i with
  | case1 => simp at h
  | case2 rest ih | case3 rest hne ih =>
      match i with
      | 0 => simp at h
      | 1 => exact ⟨0, rfl, rfl⟩
      | i + 2 =>
          obtain ⟨j, rfl, hj⟩ := ih i (by simpa using h)
          exact ⟨j + 2, rfl, by simpa using hj⟩
  | case4 following rest hfollowing hne ih =>
      match i with
      | 0 => simp at h
      | 1 => simp [lineFeed_ne_zero.symm] at h
      | i + 2 =>
          obtain ⟨j, rfl, hj⟩ := ih i (by simpa using h)
          exact ⟨j + 2, rfl, by simpa using hj⟩
  | case5 hne =>
      match i with
      | 0 => simp at h
      | 1 => simp [lineFeed_ne_zero.symm] at h
      | i + 2 => simp at h
  | case6 byte rest hlf hcr ih =>
      match i with
      | 0 => exact absurd (by simpa using h) hlf
      | i + 1 =>
          obtain ⟨j, rfl, hj⟩ := ih i (by simpa using h)
          exact ⟨j + 1, rfl, by simpa using hj⟩

theorem encodeLocalToNetascii_lineFeed (rest : Bytes) :
    encodeLocalToNetascii (lineFeed :: rest) =
      carriageReturn :: lineFeed :: encodeLocalToNetascii rest := by
  cases rest <;> simp [encodeLocalToNetascii]

theorem encodeLocalToNetascii_cons {byte : UInt8} (hlf : byte ≠ lineFeed)
    (hcr : byte ≠ carriageReturn) (rest : Bytes) :
    encodeLocalToNetascii (byte :: rest) = byte :: encodeLocalToNetascii rest := by
  cases rest <;> simp [encodeLocalToNetascii, hlf, hcr]

/-- A CR that stands before no LF goes out as CR NUL. -/
theorem encodeLocalToNetascii_carriageReturn {rest : Bytes} (h : rest.head? ≠ some lineFeed) :
    encodeLocalToNetascii (carriageReturn :: rest) =
      carriageReturn :: 0 :: encodeLocalToNetascii rest := by
  cases rest with
  | nil => rfl
  | cons following rest =>
      have hfollowing : following ≠ lineFeed := by simpa using h
      rw [encodeLocalToNetascii, if_neg carriageReturn_ne_lineFeed, if_pos rfl]
      exact if_neg hfollowing

/-! ### The normalised text -/

/-- A text with each CR LF replaced by LF. -/
def collapseLineEnds : Bytes → Bytes
  | [] => []
  | [byte] => [byte]
  | byte :: following :: rest =>
      if byte = carriageReturn ∧ following = lineFeed then lineFeed :: collapseLineEnds rest
      else byte :: collapseLineEnds (following :: rest)

@[simp] theorem collapseLineEnds_crlf (rest : Bytes) :
    collapseLineEnds (carriageReturn :: lineFeed :: rest) = lineFeed :: collapseLineEnds rest := by
  simp [collapseLineEnds]

/-- A byte that does not begin a CR LF stays. -/
theorem collapseLineEnds_cons {byte : UInt8} (rest : Bytes)
    (h : byte = carriageReturn → rest.head? ≠ some lineFeed) :
    collapseLineEnds (byte :: rest) = byte :: collapseLineEnds rest := by
  match rest with
  | [] => rfl
  | following :: rest =>
      rw [collapseLineEnds, if_neg]
      rintro ⟨hbyte, rfl⟩
      exact h hbyte rfl

@[simp] theorem decodeNetasciiToLocal_crlf (rest : Bytes) :
    decodeNetasciiToLocal (carriageReturn :: lineFeed :: rest) =
      lineFeed :: decodeNetasciiToLocal rest := by
  simp [decodeNetasciiToLocal]

@[simp] theorem decodeNetasciiToLocal_crnul (rest : Bytes) :
    decodeNetasciiToLocal (carriageReturn :: 0 :: rest) =
      carriageReturn :: decodeNetasciiToLocal rest := by
  simp [decodeNetasciiToLocal, lineFeed_ne_zero.symm]

theorem decodeNetasciiToLocal_cons {byte : UInt8} (h : byte ≠ carriageReturn) (rest : Bytes) :
    decodeNetasciiToLocal (byte :: rest) = byte :: decodeNetasciiToLocal rest := by
  cases rest with
  | nil => rfl
  | cons following rest => rw [decodeNetasciiToLocal, if_neg h]

/-- **The round trip** replaces each CR LF by LF and keeps all else, a lone CR included. -/
theorem decode_encode_eq_collapseLineEnds (x : Bytes) :
    decodeNetasciiToLocal (encodeLocalToNetascii x) = collapseLineEnds x := by
  fun_induction encodeLocalToNetascii x with
  | case1 => rfl
  | case2 rest ih => rw [decodeNetasciiToLocal_crlf, ih, collapseLineEnds_cons rest (by simp)]
  | case3 rest hne ih => rw [decodeNetasciiToLocal_crlf, ih, collapseLineEnds_crlf]
  | case4 following rest hfollowing hne ih =>
      rw [decodeNetasciiToLocal_crnul, ih,
        collapseLineEnds_cons (following :: rest) (fun _ => by simpa using hfollowing)]
  | case5 hne => rfl
  | case6 byte rest hlf hcr ih =>
      rw [decodeNetasciiToLocal_cons hcr, ih, collapseLineEnds_cons rest (fun h => absurd h hcr)]

/-- A text without CR LF is normalised already. -/
theorem collapseLineEnds_of_not_infix {x : Bytes}
    (h : ¬ [carriageReturn, lineFeed] <:+: x) : collapseLineEnds x = x := by
  fun_induction collapseLineEnds x with
  | case1 | case2 => rfl
  | case3 byte following rest hcrlf ih =>
      exact absurd ⟨[], rest, by simp [hcrlf.1, hcrlf.2]⟩ h
  | case4 byte following rest hcrlf ih => rw [ih (fun hinfix => h (List.infix_cons hinfix))]

/-- **Netascii encode and decode fit together.**  On the wire every CR is followed by LF or NUL and
every LF has a CR before it; and decoding the wire gives the text with each CR LF replaced by LF,
so the text itself where it holds no CR LF. -/
theorem netascii_round_trip (x : Bytes) :
    (∀ i, (encodeLocalToNetascii x)[i]? = some carriageReturn →
      (encodeLocalToNetascii x)[i + 1]? = some lineFeed ∨
        (encodeLocalToNetascii x)[i + 1]? = some 0) ∧
    (∀ i, (encodeLocalToNetascii x)[i]? = some lineFeed →
      ∃ j, i = j + 1 ∧ (encodeLocalToNetascii x)[j]? = some carriageReturn) ∧
    decodeNetasciiToLocal (encodeLocalToNetascii x) = collapseLineEnds x ∧
    (¬ [carriageReturn, lineFeed] <:+: x →
      decodeNetasciiToLocal (encodeLocalToNetascii x) = x) := by
  refine ⟨encodeLocalToNetascii_after_carriageReturn x,
    encodeLocalToNetascii_before_lineFeed x, decode_encode_eq_collapseLineEnds x, fun h => ?_⟩
  rw [decode_encode_eq_collapseLineEnds, collapseLineEnds_of_not_infix h]

/-- A text with CR CR LF, CR NUL, NUL LF and a CR at its end. -/
theorem netascii_round_trip_mixed :
    encodeLocalToNetascii [13, 13, 10, 13, 0, 10, 13] =
        [13, 0, 13, 10, 13, 0, 0, 13, 10, 13, 0] ∧
      decodeNetasciiToLocal (encodeLocalToNetascii [13, 13, 10, 13, 0, 10, 13]) =
        [13, 10, 13, 0, 10, 13] ∧
      decodeNetasciiToLocal (encodeLocalToNetascii [10, 13, 0, 13]) = [10, 13, 0, 13] :=
  ⟨by decide, by rw [(netascii_round_trip [13, 13, 10, 13, 0, 10, 13]).2.2.1]; decide,
    (netascii_round_trip [10, 13, 0, 13]).2.2.2 (by decide)⟩

/-! ### A second round trip -/

/-- A collapsed text begins with an LF only where the text begins with a line end. -/
theorem prefix_of_head?_collapseLineEnds {x : Bytes}
    (h : (collapseLineEnds x).head? = some lineFeed) :
    x.head? = some lineFeed ∨ [carriageReturn, lineFeed] <+: x := by
  fun_cases collapseLineEnds x with
  | case1 => exact Or.inl h
  | case2 byte => exact Or.inl h
  | case3 byte following rest hcrlf => exact Or.inr ⟨rest, by simp [hcrlf.1, hcrlf.2]⟩
  | case4 byte following rest hcrlf =>
      rw [collapseLineEnds, if_neg hcrlf] at h
      exact Or.inl h

/-- A CR CR LF leaves a CR LF behind. -/
theorem crlf_infix_collapseLineEnds {x : Bytes}
    (h : [carriageReturn, carriageReturn, lineFeed] <:+: x) :
    [carriageReturn, lineFeed] <:+: collapseLineEnds x := by
  fun_induction collapseLineEnds x with
  | case1 => simp at h
  | case2 byte => simpa using h.length_le
  | case3 byte following rest hcrlf ih =>
      obtain ⟨rfl, rfl⟩ := hcrlf
      -- neither of the two bytes of a line end begins a CR CR LF
      rcases List.infix_cons_iff.1 h with hstarts | h
      · simp [List.cons_prefix_cons] at hstarts
      · rcases List.infix_cons_iff.1 h with hstarts | h
        · simp [List.cons_prefix_cons] at hstarts
        · exact List.infix_cons (ih h)
  | case4 byte following rest hcrlf ih =>
      rcases List.infix_cons_iff.1 h with hstarts | h
      · obtain ⟨rfl, hrest⟩ := List.cons_prefix_cons.1 hstarts
        obtain ⟨rest', hrest⟩ := hrest
        rw [← hrest]
        exact ⟨[], collapseLineEnds rest', by simp⟩
      · exact List.infix_cons (ih h)

/-- Without a CR CR LF, collapsing does not change what the wire carries. -/
theorem encode_collapseLineEnds {x : Bytes}
    (h : ¬ [carriageReturn, carriageReturn, lineFeed] <:+: x) :
    encodeLocalToNetascii (collapseLineEnds x) = encodeLocalToNetascii x := by
  fun_induction encodeLocalToNetascii x with
  | case1 => rfl
  | case2 rest ih =>
      rw [collapseLineEnds_cons rest (by simp), encodeLocalToNetascii_lineFeed,
        ih (fun hinfix => h (List.infix_cons hinfix))]
  | case3 rest hne ih =>
      rw [collapseLineEnds_crlf, encodeLocalToNetascii_lineFeed,
        ih (fun hinfix => h (List.infix_cons (List.infix_cons hinfix)))]
  | case4 following rest hfollowing hne ih =>
      have ih := ih (fun hinfix => h (List.infix_cons hinfix))
      rw [collapseLineEnds_cons (following :: rest) (fun _ => by simpa using hfollowing)]
      -- the lone CR still stands before no LF, or the text would hold CR CR LF
      have hhead : (collapseLineEnds (following :: rest)).head? ≠ some lineFeed := by
        intro hlf
        rcases prefix_of_head?_collapseLineEnds hlf with hlf | ⟨rest', hrest⟩
        · exact hfollowing (by simpa using hlf)
        · exact h ⟨[], rest', by simp [← hrest]⟩
      rw [encodeLocalToNetascii_carriageReturn hhead, ih]
  | case5 hne => rfl
  | case6 byte rest hlf hcr ih =>
      rw [collapseLineEnds_cons rest (fun hbyte => absurd hbyte hcr),
        encodeLocalToNetascii_cons hlf hcr, ih (fun hinfix => h (List.infix_cons hinfix))]

/-- Only a text without CR LF is normalised. -/
theorem not_infix_of_collapseLineEnds_eq {x : Bytes} (h : collapseLineEnds x = x) :
    ¬ [carriageReturn, lineFeed] <:+: x := by
  intro hinfix
  fun_induction collapseLineEnds x with
  | case1 => simp at hinfix
  | case2 byte => simpa using hinfix.length_le
  | case3 byte following rest hcrlf ih =>
      -- the collapsed text begins with LF, the text with CR
      exact absurd (hcrlf.1.symm.trans (List.cons.inj h).1.symm) carriageReturn_ne_lineFeed
  | case4 byte following rest hcrlf ih =>
      rcases List.infix_cons_iff.1 hinfix with hstarts | hinfix
      · simp only [List.cons_prefix_cons, List.nil_prefix, and_true] at hstarts
        exact hcrlf ⟨hstarts.1.symm, hstarts.2.symm⟩
      · exact ih (List.cons.inj h).2 hinfix

/-- Collapsing twice is collapsing once for exactly the texts without CR CR LF. -/
theorem collapseLineEnds_twice_iff (x : Bytes) :
    collapseLineEnds (collapseLineEnds x) = collapseLineEnds x ↔
      ¬ [carriageReturn, carriageReturn, lineFeed] <:+: x := by
  constructor
  · intro htwice hinfix
    exact not_infix_of_collapseLineEnds_eq htwice (crlf_infix_collapseLineEnds hinfix)
  · intro hinfix
    rw [← decode_encode_eq_collapseLineEnds (collapseLineEnds x), encode_collapseLineEnds hinfix,
      decode_encode_eq_collapseLineEnds]

/-- **Netascii normalisation** is a normal form for exactly the texts without CR CR LF: for those a
second round trip changes nothing, and encoding the decoded wire gives the wire again; for every
other text it takes away a CR that the first had kept. -/
theorem netascii_normal_form (x : Bytes) :
    (decodeNetasciiToLocal (encodeLocalToNetascii
        (decodeNetasciiToLocal (encodeLocalToNetascii x))) =
      decodeNetasciiToLocal (encodeLocalToNetascii x) ↔
        ¬ [carriageReturn, carriageReturn, lineFeed] <:+: x) ∧
    (encodeLocalToNetascii (decodeNetasciiToLocal (encodeLocalToNetascii x)) =
      encodeLocalToNetascii x ↔ ¬ [carriageReturn, carriageReturn, lineFeed] <:+: x) := by
  simp only [decode_encode_eq_collapseLineEnds]
  refine ⟨collapseLineEnds_twice_iff x, fun hwire => ?_, encode_collapseLineEnds⟩
  rw [← collapseLineEnds_twice_iff, ← decode_encode_eq_collapseLineEnds (collapseLineEnds x), hwire,
    decode_encode_eq_collapseLineEnds]

/-- CR CR LF becomes CR LF and then LF, and its wire form is not encoded again as it was. -/
theorem netascii_second_round_trip :
    decodeNetasciiToLocal (encodeLocalToNetascii
        (decodeNetasciiToLocal (encodeLocalToNetascii [13, 13, 10]))) ≠
      decodeNetasciiToLocal (encodeLocalToNetascii [13, 13, 10]) ∧
    encodeLocalToNetascii (decodeNetasciiToLocal (encodeLocalToNetascii [13, 13, 10])) ≠
      encodeLocalToNetascii [13, 13, 10] :=
  ⟨by decide, by decide⟩

end TftpHarness
