/-
**Decimal fractions: `%.6g` and `std::stod`.**

The metrics store prints numbers that are not integers with `%.6g`: six significant digits, without
trailing zeros, in positional or in scientific notation.  Reading follows `strtod`: a sign, digits
with an optional point, an optional exponent, and whatever follows is ignored.  Both sides work with
the exact value of a numeral; what a binary64 number makes of it is a matter of its own.

Infinities, NaNs and hexadecimal numerals, which `strtod` reads too, contain letters that no text
handed to this reader has.

Main definitions:

* `TftpHarness.formatGeneral` — `%.pg` of a rational;
* `TftpHarness.readNumeral` — the rational a numeral denotes.

Main results:

* `TftpHarness.readNumeral_formatGeneral` — **what was printed is the number rounded to `p`
  significant digits**.
-/

import TftpHarness.Numeral
import TftpHarness.Rounding
import Mathlib.Data.List.DropRight

set_option relaxedAutoImplicit false
set_option autoImplicit false

namespace TftpHarness

/-! ### Reading -/

/-- The exponent part of a numeral; zero when there is none. -/
def readExponent : Bytes → ℤ
  | [] => 0
  | c :: rest =>
      if c = 101 ∨ c = 69 then
        let signed := readSign rest
        if signed.1 then -(digitsValue (signed.2.takeWhile isDigit) : ℤ)
        else digitsValue (signed.2.takeWhile isDigit)
      else 0

/-- The digits after a decimal point, and what follows them. -/
def readFraction : Bytes → Bytes × Bytes
  | 46 :: rest => (rest.takeWhile isDigit, rest.dropWhile isDigit)
  | rest => ([], rest)

/-- A sign in front of a magnitude. -/
def withSign (negative : Bool) (magnitude : ℚ) : ℚ := if negative then -magnitude else magnitude

/-- The rational that the longest numeral at the start of a string denotes; `none` when there is no
numeral. -/
def readNumeral (s : Bytes) : Option ℚ :=
  let signed := readSign (s.dropWhile isSpace)
  let whole := signed.2.takeWhile isDigit
  let fraction := readFraction (signed.2.dropWhile isDigit)
  if whole ++ fraction.1 = [] then none
  else
    some (withSign signed.1 (digitsValue (whole ++ fraction.1) *
      (10 : ℚ) ^ (readExponent fraction.2 - fraction.1.length)))

/-! ### Printing -/

/-- `std::to_string` of a signed integer. -/
def signedDecimal (n : ℤ) : Bytes := (if n < 0 then [45] else []) ++ toDecimal n.natAbs

/-- The `p` significant digits of a number, as an integer, and the exponent of the last one. -/
def significantDigits (p : ℕ) (q : ℚ) : ℕ × ℤ :=
  let e := Rounding.ulp 10 p q
  let n := (Rounding.roundHalfEven (|q| / 10 ^ e)).toNat
  -- rounding up may carry into one more digit
  if n = 10 ^ p then (10 ^ (p - 1), e + 1) else (n, e)

/-- Digits with a decimal point after the first `k`, without trailing zeros. -/
def placePoint (digits : Bytes) (k : ℕ) : Bytes :=
  let fraction := (digits.drop k).rdropWhile (· == 48)
  digits.take k ++ if fraction = [] then [] else 46 :: fraction

/-- The exponent part of scientific notation, with at least two digits. -/
def exponentText (x : ℤ) : Bytes :=
  101 :: (if x < 0 then 45 else 43) :: ((if x.natAbs < 10 then [48] else []) ++ toDecimal x.natAbs)

/-- `%.pg` of a number. -/
def formatGeneral (p : ℕ) (q : ℚ) : Bytes :=
  if q = 0 then [48]
  else
    let digits := toDecimal (significantDigits p q).1
    -- the exponent of the first digit
    let x := (significantDigits p q).2 + (p - 1)
    (if q < 0 then [45] else []) ++
      if -4 ≤ x ∧ x < p then
        if 0 ≤ x then placePoint digits (x.toNat + 1)
        else placePoint (List.replicate x.natAbs 48 ++ digits) 1
      else placePoint digits 1 ++ exponentText x

/-! ### Digits -/

theorem digitsValue_append (xs ys : Bytes) :
    digitsValue (xs ++ ys) = digitsValue xs * 10 ^ ys.length + digitsValue ys := by
  induction ys using List.reverseRecOn with
  | nil => simp [digitsValue]
  | append_singleton ys y ih =>
      rw [← List.append_assoc, digitsValue_append_singleton, ih, digitsValue_append_singleton,
        List.length_append, List.length_singleton, Nat.pow_succ]
      ring

theorem digitsValue_replicate_zero (k : ℕ) : digitsValue (List.replicate k 48) = 0 := by
  induction k with
  | zero => rfl
  | succ k ih =>
      rw [List.replicate_succ', digitsValue_append_singleton, ih]
      rfl

/-- Trailing zeros of a fraction do not count. -/
theorem exists_rdropWhile_zeros (ds : Bytes) :
    ∃ k, ds = ds.rdropWhile (· == 48) ++ List.replicate k 48 := by
  induction ds using List.reverseRecOn with
  | nil => exact ⟨0, rfl⟩
  | append_singleton ds d ih =>
      by_cases hd : d = 48
      · obtain ⟨k, hk⟩ := ih
        refine ⟨k + 1, ?_⟩
        rw [List.rdropWhile_concat_pos _ _ _ (by simp [hd]), List.replicate_succ',
          ← List.append_assoc, ← hk, hd]
      · exact ⟨0, by rw [List.rdropWhile_concat_neg _ _ _ (by simp [hd])]; simp⟩

/-- A numeral with a point after its first `k` digits denotes its digits, shifted. -/
theorem value_placePoint (digits : Bytes) {k : ℕ} (hk : k ≤ digits.length) :
    (digitsValue (digits.take k ++ (digits.drop k).rdropWhile (· == 48)) : ℚ) *
        (10 : ℚ) ^ (-(((digits.drop k).rdropWhile (· == 48)).length : ℤ)) =
      digitsValue digits * (10 : ℚ) ^ ((k : ℤ) - digits.length) := by
  obtain ⟨z, hz⟩ := exists_rdropWhile_zeros (digits.drop k)
  generalize hfraction : (digits.drop k).rdropWhile (· == 48) = fraction at hz ⊢
  have hsplit : digits = digits.take k ++ fraction ++ List.replicate z 48 := by
    rw [List.append_assoc, ← hz, List.take_append_drop]
  have hvalue : digitsValue digits = digitsValue (digits.take k ++ fraction) * 10 ^ z := by
    conv_lhs => rw [hsplit]
    rw [digitsValue_append, digitsValue_replicate_zero, List.length_replicate, Nat.add_zero]
  have hlength : digits.length = k + fraction.length + z := by
    have hlen := congrArg List.length hsplit
    simp only [List.length_append, List.length_take, List.length_replicate] at hlen
    omega
  rw [hvalue, hlength]
  push_cast
  rw [mul_assoc, ← zpow_natCast, ← zpow_add₀ (by norm_num : (10 : ℚ) ≠ 0)]
  congr 2
  ring

/-- The number of digits of a number between two powers of ten. -/
theorem length_toDecimal {k n : ℕ} (hlow : 10 ^ k ≤ n) (hhigh : n < 10 ^ (k + 1)) :
    (toDecimal n).length = k + 1 := by
  induction k generalizing n with
  | zero => rw [toDecimal_of_lt (by simpa using hhigh), List.length_singleton]
  | succ k ih =>
      have hpos : 1 ≤ 10 ^ k := Nat.one_le_pow _ _ (by decide)
      rw [pow_succ] at hlow hhigh
      rw [toDecimal_of_le (by omega), List.length_append, List.length_singleton,
        ih (by omega) (by omega)]

/-! ### Reading what was printed -/

/-- What ends a run of digits: a byte that is neither a digit nor a point. -/
def EndsDigits (suffix : Bytes) : Prop := ∀ b ∈ suffix.head?, isDigit b = false ∧ b ≠ 46

theorem endsDigits_nil : EndsDigits [] := by
  intro b hb
  cases hb

theorem endsDigits_exponentText (x : ℤ) : EndsDigits (exponentText x) := by
  intro b hb
  obtain rfl : 101 = b := by simpa [exponentText] using hb
  decide

theorem takeWhile_digits {ds suffix : Bytes} (hds : ∀ d ∈ ds, isDigit d = true)
    (hend : ∀ b ∈ suffix.head?, isDigit b = false) : (ds ++ suffix).takeWhile isDigit = ds := by
  rw [List.takeWhile_append_of_pos hds]
  cases suffix with
  | nil => simp
  | cons b rest => simp [List.takeWhile_cons_of_neg (by simp [hend b rfl] : ¬ isDigit b = true)]

theorem dropWhile_digits {ds suffix : Bytes} (hds : ∀ d ∈ ds, isDigit d = true)
    (hend : ∀ b ∈ suffix.head?, isDigit b = false) : (ds ++ suffix).dropWhile isDigit = suffix := by
  rw [List.dropWhile_append_of_pos hds]
  cases suffix with
  | nil => rfl
  | cons b rest => rw [List.dropWhile_cons_of_neg (by simp [hend b rfl])]

theorem readFraction_point {fraction suffix : Bytes} (hds : ∀ d ∈ fraction, isDigit d = true)
    (hend : EndsDigits suffix) :
    readFraction ((if fraction = [] then [] else 46 :: fraction) ++ suffix) =
      (fraction, suffix) := by
  split
  · next hnil =>
      subst hnil
      rw [List.nil_append]
      unfold readFraction
      split
      · next rest => exact absurd rfl (hend 46 rfl).2
      · rfl
  · have hend' : ∀ b ∈ suffix.head?, isDigit b = false := fun b hb => (hend b hb).1
    rw [List.cons_append]
    simp only [readFraction, takeWhile_digits hds hend', dropWhile_digits hds hend']

/-- The sign of a printed number is read back. -/
theorem readSign_digits (negative : Bool) {ds rest : Bytes} (hds : ∀ d ∈ ds, isDigit d = true)
    (hne : ds ≠ []) :
    readSign (((if negative then [45] else []) ++ ds ++ rest).dropWhile isSpace) =
      (negative, ds ++ rest) := by
  cases negative with
  | true => rfl
  | false =>
      obtain ⟨d, ds, rfl⟩ := List.exists_cons_of_ne_nil hne
      have hd : isDigit d = true := hds d (List.mem_cons_self ..)
      have hskip : ((if false then [45] else []) ++ d :: ds ++ rest).dropWhile isSpace =
          d :: (ds ++ rest) := List.dropWhile_cons_of_neg (by simp [isSpace_of_isDigit hd])
      rw [hskip, readSign_of_isDigit _ hd, List.cons_append]

/-- A sign, digits, perhaps a fraction, and what follows. -/
theorem readNumeral_parts (negative : Bool) {whole fraction suffix : Bytes}
    (hwhole : ∀ d ∈ whole, isDigit d = true) (hne : whole ≠ [])
    (hfraction : ∀ d ∈ fraction, isDigit d = true) (hend : EndsDigits suffix) :
    readNumeral ((if negative then [45] else []) ++ whole ++
        ((if fraction = [] then [] else 46 :: fraction) ++ suffix)) =
      some (withSign negative (digitsValue (whole ++ fraction) *
        (10 : ℚ) ^ (readExponent suffix - fraction.length))) := by
  have hpoint : ∀ b ∈ ((if fraction = [] then [] else 46 :: fraction) ++ suffix).head?,
      isDigit b = false := by
    split
    · intro b hb
      exact (hend b hb).1
    · intro b hb
      obtain rfl : 46 = b := by simpa using hb
      rfl
  simp only [readNumeral, readSign_digits negative hwhole hne, takeWhile_digits hwhole hpoint,
    dropWhile_digits hwhole hpoint, readFraction_point hfraction hend]
  rw [if_neg (by simp [hne])]

/-- Digits with a point after the first `k` are read back as their number, shifted. -/
theorem readNumeral_placePoint (negative : Bool) {digits suffix : Bytes} {k : ℕ}
    (hdigits : ∀ d ∈ digits, isDigit d = true) (hk : 1 ≤ k) (hlength : k ≤ digits.length)
    (hend : EndsDigits suffix) :
    readNumeral ((if negative then [45] else []) ++ (placePoint digits k ++ suffix)) =
      some (withSign negative (digitsValue digits *
        (10 : ℚ) ^ (readExponent suffix + k - digits.length))) := by
  have hne : digits.take k ≠ [] := by
    intro hnil
    have hlen := congrArg List.length hnil
    simp only [List.length_take, List.length_nil] at hlen
    omega
  have hwhole : ∀ d ∈ digits.take k, isDigit d = true := fun d hd =>
    hdigits d (List.mem_of_mem_take hd)
  have hfraction : ∀ d ∈ (digits.drop k).rdropWhile (· == 48), isDigit d = true := fun d hd =>
    hdigits d (List.mem_of_mem_drop ((List.rdropWhile_prefix _ _).subset hd))
  have hten : (10 : ℚ) ≠ 0 := by norm_num
  rw [placePoint, List.append_assoc, ← List.append_assoc,
    readNumeral_parts negative hwhole hne hfraction hend, sub_eq_add_neg, add_comm,
    zpow_add₀ hten, ← mul_assoc, value_placePoint digits hlength, mul_assoc, ← zpow_add₀ hten]
  congr 4
  ring

theorem readExponent_exponentText (x : ℤ) : readExponent (exponentText x) = x := by
  have hall : ∀ d ∈ (if x.natAbs < 10 then [48] else []) ++ toDecimal x.natAbs,
      isDigit d = true := by
    intro d hd
    rw [List.mem_append] at hd
    rcases hd with hd | hd
    · split at hd
      · obtain rfl : d = 48 := by simpa using hd
        rfl
      · cases hd
    · exact isDigit_of_mem_toDecimal hd
  have hvalue : digitsValue ((if x.natAbs < 10 then [48] else []) ++ toDecimal x.natAbs) =
      x.natAbs := by
    rw [digitsValue_append, digitsValue_toDecimal]
    split <;> simp [digitsValue]
  have hrun := List.takeWhile_eq_self_iff.2 hall
  rcases lt_or_ge x 0 with hneg | hpos
  · simp only [exponentText, readExponent, if_pos hneg, readSign, true_or, if_true, hrun, hvalue]
    omega
  · simp only [exponentText, readExponent, if_neg (not_lt.2 hpos), readSign, true_or, if_true,
      hrun, hvalue, Bool.false_eq_true, if_false]
    omega

/-- Reading back a printed integer gives the integer. -/
theorem readNumeral_signedDecimal (n : ℤ) : readNumeral (signedDecimal n) = some (n : ℚ) := by
  have hdigits : ∀ d ∈ toDecimal n.natAbs, isDigit d = true := fun d hd =>
    isDigit_of_mem_toDecimal hd
  have hnone : ∀ d ∈ ([] : Bytes), isDigit d = true := by
    intro d hd
    cases hd
  have hparts := readNumeral_parts (n < 0) hdigits (toDecimal_ne_nil _) hnone endsDigits_nil
  simp only [if_true, List.append_nil, digitsValue_toDecimal, readExponent, List.length_nil,
    decide_eq_true_eq, Nat.cast_zero, sub_zero, zpow_zero, mul_one] at hparts
  rw [signedDecimal, hparts, withSign]
  congr 1
  rw [Nat.cast_natAbs]
  split
  · next hneg =>
      rw [abs_of_neg (of_decide_eq_true hneg)]
      push_cast
      ring
  · next hpos => rw [abs_of_nonneg (not_lt.1 fun h => hpos (decide_eq_true h))]

/-! ### Significant digits -/

/-- The number that `%.pg` prints. -/
def roundDigits (p : ℕ) (q : ℚ) : ℚ :=
  withSign (q < 0) (Rounding.roundAt 10 (Rounding.ulp 10 p q) |q|)

/-- There are `p` significant digits, the first of them not zero, and they make up the rounded
number. -/
theorem significantDigits_spec {p : ℕ} (hp : 1 ≤ p) {q : ℚ} (hq : q ≠ 0) :
    10 ^ (p - 1) ≤ (significantDigits p q).1 ∧ (significantDigits p q).1 < 10 ^ p ∧
      ((significantDigits p q).1 : ℚ) * (10 : ℚ) ^ (significantDigits p q).2 =
        Rounding.roundAt 10 (Rounding.ulp 10 p q) |q| := by
  have hten : 1 < 10 := by decide
  set e := Rounding.ulp 10 p q with he
  have hpos : (0 : ℚ) < (10 : ℚ) ^ e := Rounding.zpow_pos_of_one_lt hten e
  have hlow : ((10 ^ (p - 1) : ℤ) : ℚ) ≤ |q| / (10 : ℚ) ^ e := by
    rw [le_div_iff₀ hpos]
    push_cast
    exact Rounding.zpow_ulp_le hten hp hq
  have hhigh : |q| / (10 : ℚ) ^ e ≤ ((10 ^ p : ℤ) : ℚ) := by
    rw [div_le_iff₀ hpos]
    push_cast
    exact le_of_lt (Rounding.lt_zpow_ulp hten p q)
  have hn := Rounding.le_roundHalfEven hlow
  have hn' : Rounding.roundHalfEven (|q| / (10 : ℚ) ^ e) ≤ 10 ^ p :=
    Rounding.roundHalfEven_le (by linarith)
  obtain ⟨n, hnat⟩ : ∃ n : ℕ, Rounding.roundHalfEven (|q| / (10 : ℚ) ^ e) = n :=
    Int.eq_ofNat_of_zero_le (le_trans (by positivity) hn)
  rw [hnat] at hn hn'
  have hround : Rounding.roundAt 10 e |q| = n * (10 : ℚ) ^ e := by
    have hcast : ((10 : ℕ) : ℚ) = 10 := rfl
    rw [Rounding.roundAt, hcast, hnat]
    rfl
  have hlow' : 10 ^ (p - 1) ≤ n := by exact_mod_cast hn
  have hhigh' : n ≤ 10 ^ p := by exact_mod_cast hn'
  have hstep : 10 ^ p = 10 ^ (p - 1) * 10 := by rw [← pow_succ, Nat.sub_add_cancel hp]
  simp only [significantDigits, ← he, hnat, Int.toNat_natCast, hround]
  split
  · next hcarry =>
      refine ⟨le_refl _, Nat.pow_lt_pow_right hten (by omega), ?_⟩
      rw [zpow_add_one₀ (by norm_num : (10 : ℚ) ≠ 0), hcarry, hstep]
      push_cast
      ring
  · next hcarry => exact ⟨hlow', lt_of_le_of_ne hhigh' hcarry, rfl⟩

/-- **What was printed is the number rounded to `p` significant digits.** -/
theorem readNumeral_formatGeneral {p : ℕ} (hp : 1 ≤ p) (q : ℚ) :
    readNumeral (formatGeneral p q) = some (roundDigits p q) := by
  by_cases hq : q = 0
  · subst hq
    have hzero : Rounding.roundAt 10 (Rounding.ulp 10 p 0) |0| = 0 := by
      simp [Rounding.roundAt, Rounding.roundHalfEven]
    rw [formatGeneral, if_pos rfl, roundDigits, hzero]
    exact readNumeral_signedDecimal 0
  obtain ⟨hlow, hhigh, hvalue⟩ := significantDigits_spec hp hq
  have hlength : (toDecimal (significantDigits p q).1).length = p := by
    have hlen := length_toDecimal hlow (by rwa [Nat.sub_add_cancel hp])
    omega
  have hdigits : ∀ d ∈ toDecimal (significantDigits p q).1, isDigit d = true := fun d hd =>
    isDigit_of_mem_toDecimal hd
  simp only [formatGeneral, if_neg hq, roundDigits, ← hvalue]
  generalize hx : (significantDigits p q).2 + ((p : ℤ) - 1) = x
  have hsign : (if q < 0 then [45] else ([] : Bytes)) = if decide (q < 0) then [45] else [] := by
    simp
  rw [hsign]
  generalize decide (q < 0) = negative
  by_cases hrange : -4 ≤ x ∧ x < p
  · rw [if_pos hrange]
    by_cases hx0 : 0 ≤ x
    · -- the point stands among the digits or after the last one
      rw [if_pos hx0, ← List.append_nil (placePoint _ _),
        readNumeral_placePoint negative hdigits (by omega) (by omega) endsDigits_nil,
        digitsValue_toDecimal, hlength]
      congr 4
      simp only [readExponent]
      omega
    · -- zeros stand between the point and the first digit
      have hzeros : ∀ d ∈ List.replicate x.natAbs 48 ++ toDecimal (significantDigits p q).1,
          isDigit d = true := by
        intro d hd
        rcases List.mem_append.1 hd with hd | hd
        · rw [(List.mem_replicate.1 hd).2]
          rfl
        · exact hdigits d hd
      have hone : 1 ≤ (List.replicate x.natAbs 48 ++
          toDecimal (significantDigits p q).1).length := by
        rw [List.length_append]
        omega
      rw [if_neg hx0, ← List.append_nil (placePoint _ _),
        readNumeral_placePoint negative hzeros (le_refl 1) hone endsDigits_nil,
        digitsValue_append, digitsValue_replicate_zero, Nat.zero_mul, Nat.zero_add,
        digitsValue_toDecimal, List.length_append, List.length_replicate, hlength]
      congr 4
      simp only [readExponent]
      omega
  · rw [if_neg hrange, readNumeral_placePoint negative hdigits (le_refl 1) (by omega)
      (endsDigits_exponentText x), digitsValue_toDecimal, hlength, readExponent_exponentText]
    congr 4
    omega

end TftpHarness
