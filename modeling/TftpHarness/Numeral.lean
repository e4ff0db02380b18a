/-
**Decimal numerals: `std::to_string` and `std::stoul`.**

Option values, error texts and the metrics store carry numbers as decimal text.  Printing is
`TftpHarness.toDecimal`; reading follows `strtoul` in base ten, which skips white space, accepts a
sign, takes the longest run of digits and ignores what follows.  `std::stoul` turns its two failures
— no digits, and a value beyond 64 bits — into exceptions, modelled as `none`.

Main results:

* `TftpHarness.digitsValue_toDecimal` — the digits printed for a number have that number as value;
* `TftpHarness.stoul_of_denotes` — a decimal numeral is read as the number it denotes;
* `TftpHarness.stoul_toDecimal` — **reading back what was printed gives the number**.
-/

import TftpHarness.Bytes
import Mathlib.Data.List.TakeWhile
import Mathlib.Tactic.IntervalCases

set_option relaxedAutoImplicit false
set_option autoImplicit false

namespace TftpHarness

/-! ### Printing -/

/-- `std::to_string` of an unsigned integer: its decimal digits. -/
def toDecimal (n : ℕ) : Bytes := (Nat.toDigits 10 n).map fun c => UInt8.ofNat c.toNat

/-- The byte of a decimal digit. -/
def isDigit (b : UInt8) : Bool := 48 ≤ b && b ≤ 57

/-- The number a run of digits denotes. -/
def digitsValue (digits : Bytes) : ℕ := digits.foldl (fun v d => 10 * v + (d.toNat - 48)) 0

/-- A number below ten is printed as its digit. -/
theorem toDecimal_of_lt {n : ℕ} (h : n < 10) : toDecimal n = [UInt8.ofNat (48 + n)] := by
  have hd : (Nat.digitChar n).toNat = 48 + n := by
    interval_cases n <;> rfl
  simp [toDecimal, Nat.toDigits_of_lt_base h, hd]

/-- A larger number is printed digit by digit, the last one being its remainder. -/
theorem toDecimal_of_le {n : ℕ} (h : 10 ≤ n) :
    toDecimal n = toDecimal (n / 10) ++ [UInt8.ofNat (48 + n % 10)] := by
  have hlt : n % 10 < 10 := Nat.mod_lt _ (by decide)
  have hlast := toDecimal_of_lt hlt
  rw [toDecimal, Nat.toDigits_of_lt_base hlt] at hlast
  rw [toDecimal, Nat.toDigits_of_base_le (by decide) h, List.map_append, toDecimal]
  simpa using hlast

theorem toDecimal_ne_nil (n : ℕ) : toDecimal n ≠ [] := by
  simp [toDecimal]

theorem digit_toNat {d : ℕ} (h : d < 10) : (UInt8.ofNat (48 + d)).toNat = 48 + d := by
  simp only [UInt8.toNat_ofNat']
  omega

theorem isDigit_digit {d : ℕ} (h : d < 10) : isDigit (UInt8.ofNat (48 + d)) = true := by
  interval_cases d <;> rfl

theorem digitsValue_append_singleton (ds : Bytes) (d : UInt8) :
    digitsValue (ds ++ [d]) = 10 * digitsValue ds + (d.toNat - 48) := by
  simp [digitsValue]

/-- Every byte printed for a number is a digit. -/
theorem isDigit_of_mem_toDecimal {n : ℕ} {b : UInt8} (h : b ∈ toDecimal n) : isDigit b = true := by
  induction n using Nat.strong_induction_on with
  | _ n ih =>
      rcases Nat.lt_or_ge n 10 with hlt | hge
      · rw [toDecimal_of_lt hlt, List.mem_singleton] at h
        rw [h]
        exact isDigit_digit hlt
      · rw [toDecimal_of_le hge, List.mem_append, List.mem_singleton] at h
        rcases h with h | rfl
        · exact ih (n / 10) (by omega) h
        · exact isDigit_digit (Nat.mod_lt _ (by decide))

/-- **The digits printed for a number have that number as value.** -/
theorem digitsValue_toDecimal (n : ℕ) : digitsValue (toDecimal n) = n := by
  induction n using Nat.strong_induction_on with
  | _ n ih =>
      rcases Nat.lt_or_ge n 10 with hlt | hge
      · rw [toDecimal_of_lt hlt, digitsValue, List.foldl_cons, List.foldl_nil, digit_toNat hlt]
        omega
      · rw [toDecimal_of_le hge, digitsValue_append_singleton, ih (n / 10) (by omega),
          digit_toNat (Nat.mod_lt _ (by decide))]
        omega

/-- No byte of a numeral is the NUL that ends a string on the wire. -/
theorem nul_notMem_toDecimal (n : ℕ) : (0 : UInt8) ∉ toDecimal n := by
  intro h
  exact absurd (isDigit_of_mem_toDecimal h) (by decide)

/-! ### Reading -/

/-- `isspace` in the C locale. -/
def isSpace (b : UInt8) : Bool := b == 32 || (9 ≤ b && b ≤ 13)

/-- The optional sign in front of a numeral, and what follows it. -/
def readSign : Bytes → Bool × Bytes
  | 45 :: rest => (true, rest)
  | 43 :: rest => (false, rest)
  | rest => (false, rest)

/-- `std::stoul` with a 64-bit `unsigned long`; `none` when it throws.  A negative numeral is
negated in the unsigned type. -/
def stoul (s : Bytes) : Option ℕ :=
  let signed := readSign (s.dropWhile isSpace)
  let digits := signed.2.takeWhile isDigit
  if digits = [] then none
  else if 2 ^ 64 ≤ digitsValue digits then none
  else some (if signed.1 then (2 ^ 64 - digitsValue digits) % 2 ^ 64 else digitsValue digits)

/-- `std::stoull`, whose type has the same 64 bits. -/
def stoull (s : Bytes) : Option ℕ := stoul s

theorem readSign_of_isDigit {b : UInt8} (rest : Bytes) (h : isDigit b = true) :
    readSign (b :: rest) = (false, b :: rest) := by
  unfold readSign
  split
  · next heq =>
      obtain ⟨rfl, -⟩ := List.cons.inj heq
      exact absurd h (by decide)
  · next heq =>
      obtain ⟨rfl, -⟩ := List.cons.inj heq
      exact absurd h (by decide)
  · rfl

theorem isSpace_of_isDigit {b : UInt8} (h : isDigit b = true) : isSpace b = false := by
  simp only [isDigit, Bool.and_eq_true, decide_eq_true_eq, UInt8.le_iff_toNat_le,
    UInt8.reduceToNat] at h
  have hne : b ≠ 32 := by
    rintro rfl
    simp at h
  have hgt : ¬ b ≤ 13 := by
    rw [UInt8.le_iff_toNat_le]
    simp only [UInt8.reduceToNat]
    omega
  simp [isSpace, hne, hgt]

/-- A text that is a decimal numeral, and the number it denotes. -/
structure Denotes (s : Bytes) (n : ℕ) : Prop where
  ne_nil : s ≠ []
  isDigit : ∀ b ∈ s, isDigit b = true
  value : digitsValue s = n

/-- A numeral is read as the number it denotes, if that has 64 bits. -/
theorem stoul_of_denotes {s : Bytes} {n : ℕ} (h : Denotes s n) :
    stoul s = if 2 ^ 64 ≤ n then none else some n := by
  obtain ⟨b, rest, hb⟩ := List.exists_cons_of_ne_nil h.ne_nil
  have hdig : isDigit b = true := h.isDigit b (by simp [hb])
  have hskip : s.dropWhile isSpace = s := by
    rw [hb, List.dropWhile_cons_of_neg (by simp [isSpace_of_isDigit hdig])]
  have hsign : readSign s = (false, s) := by
    rw [hb]
    exact readSign_of_isDigit rest hdig
  have hrun : s.takeWhile isDigit = s := List.takeWhile_eq_self_iff.2 h.isDigit
  simp only [stoul, hskip, hsign, hrun, h.ne_nil, h.value, if_false, Bool.false_eq_true]

/-- What is printed for a number denotes it. -/
theorem denotes_toDecimal (n : ℕ) : Denotes (toDecimal n) n :=
  ⟨toDecimal_ne_nil n, fun _ hmem => isDigit_of_mem_toDecimal hmem, digitsValue_toDecimal n⟩

/-- **Reading back what was printed gives the number.** -/
theorem stoul_toDecimal {n : ℕ} (h : n < 2 ^ 64) : stoul (toDecimal n) = some n := by
  rw [stoul_of_denotes (denotes_toDecimal n), if_neg (by omega)]

end TftpHarness
