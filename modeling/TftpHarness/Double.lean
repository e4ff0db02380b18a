/-
**Double precision.**

Counters, intensities and every number of a JSON text are `double`s.  A finite one is the rational
it denotes, together with the proof that binary64 has it; arithmetic is the exact result rounded to
the nearest, ties to even, and infinite beyond the range.  The two zeros are one value here: no
text of the harness tells them apart, since zero is an integer and printed as one.

Conversion to `long long` truncates; outside its range the language leaves the result open, and the
model takes the one of the hardware the harness is built for.

Main definitions:

* `TftpHarness.Double`, `TftpHarness.FiniteDouble` — the values;
* `TftpHarness.Double.ofRat` — rounding an exact result;
* `TftpHarness.Double.add` and its siblings, `TftpHarness.Double.lt`, `TftpHarness.Double.le` —
  arithmetic and comparison;
* `TftpHarness.stod` — the nearest `double` of a numeral, unless it is out of range;
* `TftpHarness.Double.isReadable` — the numbers that are read back when they are printed.

Main results:

* `TftpHarness.roundDouble_of_isDouble` — **a double is its own rounding**;
* `TftpHarness.isDouble_roundDouble` — **what rounding gives is a double**;
* `TftpHarness.stod_formatGeneral`, `TftpHarness.stod_formatGeneral_none` — **a number printed with
  six digits is read back, as the nearest double of what was printed, or is below the normal
  range**.
-/

import TftpHarness.Decimal
import Mathlib.Algebra.Order.Field.Power

set_option relaxedAutoImplicit false
set_option autoImplicit false

namespace TftpHarness

/-! ### The format -/

/-- The largest finite `double`: all 53 digits set, in the last place of the range. -/
def maximumDouble : ℚ := 9007199254740991 * 2 ^ (971 : ℤ)

/-- The rational is a finite binary64 number: 53 digits, the last of them not below `2 ^ -1074`. -/
structure IsDouble (v : ℚ) : Prop where
  magnitude : |v| ≤ maximumDouble
  digits : ∃ n f : ℤ, |n| < 2 ^ 53 ∧ -1074 ≤ f ∧ v = n * (2 : ℚ) ^ f

/-- The exponent of the last place that the format keeps of a number. -/
def lastPlace (q : ℚ) : ℤ := max (Rounding.ulp 2 53 q) (-1074)

/-- The nearest number with the digits of the format, were its range unbounded. -/
def roundDouble (q : ℚ) : ℚ := Rounding.roundAt 2 (lastPlace q) q

/-- A finite `double`. -/
structure FiniteDouble where
  value : ℚ
  isDouble : IsDouble value
  deriving DecidableEq

/-- A `double`. -/
inductive Double
  | finite (x : FiniteDouble)
  | infinite (negative : Bool)
  | notANumber (negative : Bool)
  deriving DecidableEq

theorem maximumDouble_lt : maximumDouble < 2 ^ (971 + 53 : ℤ) := by
  have h : 9007199254740991 * 2 ^ 971 < 2 ^ (971 + 53) := by decide +kernel
  rw [maximumDouble]
  exact_mod_cast h

/-- The largest number is rounded down to six digits. -/
theorem two_mul_maximumDouble_lt : 2 * maximumDouble < (2 * 179769 + 1) * 10 ^ (303 : ℤ) := by
  have h : 2 * (9007199254740991 * 2 ^ 971) < (2 * 179769 + 1) * 10 ^ 303 := by decide +kernel
  rw [maximumDouble]
  exact_mod_cast h

theorem six_digits_le_maximumDouble : 179769 * 10 ^ (303 : ℤ) ≤ maximumDouble := by
  have h : 179769 * 10 ^ 303 ≤ 9007199254740991 * 2 ^ 971 := by decide +kernel
  rw [maximumDouble]
  exact_mod_cast h

/-- The last place of a number with few digits is in range. -/
theorem lastPlace_le {q : ℚ} (hq : q ≠ 0) {f : ℤ} (hf : -1074 ≤ f) (h : |q| < (2 : ℚ) ^ (f + 53)) :
    lastPlace q ≤ f :=
  max_le (Rounding.ulp_le (b := 2) (by decide) hq (by exact_mod_cast h)) hf

/-- **A double is its own rounding.** -/
theorem roundDouble_of_isDouble {v : ℚ} (h : IsDouble v) : roundDouble v = v := by
  obtain ⟨n, f, hn, hf, rfl⟩ := h.digits
  by_cases hzero : (n : ℚ) * (2 : ℚ) ^ f = 0
  · rw [hzero]
    simp [roundDouble, Rounding.roundAt, Rounding.roundHalfEven]
  have hpos : (0 : ℚ) < (2 : ℚ) ^ f := by positivity
  have hlt : |(n : ℚ) * (2 : ℚ) ^ f| < (2 : ℚ) ^ (f + 53) := by
    rw [abs_mul, abs_of_pos hpos, add_comm, zpow_add₀ (by norm_num)]
    refine mul_lt_mul_of_pos_right ?_ hpos
    exact_mod_cast hn
  exact_mod_cast Rounding.roundAt_of_multiple (b := 2) (by decide) (lastPlace_le hzero hf hlt) n

/-- Rounding keeps at most 53 digits, or carries into the next power of two. -/
theorem roundDouble_digits (q : ℚ) :
    ∃ n : ℤ, |n| ≤ 2 ^ 53 ∧ roundDouble q = n * (2 : ℚ) ^ lastPlace q := by
  have hpos : (0 : ℚ) < (2 : ℚ) ^ lastPlace q := by positivity
  have hlt : |q| < (2 : ℚ) ^ 53 * (2 : ℚ) ^ lastPlace q := by
    calc |q| < (2 : ℚ) ^ 53 * (2 : ℚ) ^ Rounding.ulp 2 53 q := by
          exact_mod_cast Rounding.lt_zpow_ulp (b := 2) (by decide) 53 q
      _ ≤ (2 : ℚ) ^ 53 * (2 : ℚ) ^ lastPlace q := by
          refine mul_le_mul_of_nonneg_left ?_ (by positivity)
          exact zpow_le_zpow_right₀ (by norm_num) (le_max_left _ _)
  obtain ⟨hlow, hhigh⟩ := abs_lt.1 hlt
  refine ⟨Rounding.roundHalfEven (q / (2 : ℚ) ^ lastPlace q), abs_le.2 ⟨?_, ?_⟩, rfl⟩
  · refine Rounding.le_roundHalfEven ((le_div_iff₀ hpos).2 ?_)
    push_cast
    linarith
  · refine Rounding.roundHalfEven_le ?_
    have hdiv : q / (2 : ℚ) ^ lastPlace q < (2 : ℚ) ^ 53 := (div_lt_iff₀ hpos).2 hhigh
    push_cast
    linarith

/-- **What rounding gives is a double**, unless it is out of range. -/
theorem isDouble_roundDouble {q : ℚ} (h : |roundDouble q| ≤ maximumDouble) :
    IsDouble (roundDouble q) := by
  refine ⟨h, ?_⟩
  obtain ⟨n, hn, heq⟩ := roundDouble_digits q
  have hplace : -1074 ≤ lastPlace q := le_max_right _ _
  rcases lt_or_eq_of_le hn with hlt | hcarry
  · exact ⟨n, lastPlace q, hlt, hplace, heq⟩
  · -- the digits carried: one place up, the number has a single digit
    obtain ⟨k, hk, hn2⟩ : ∃ k : ℤ, |k| < 2 ^ 53 ∧ n = k * 2 := by
      rcases abs_choice n with habs | habs <;> rw [habs] at hcarry
      · exact ⟨2 ^ 52, by norm_num, by omega⟩
      · exact ⟨-2 ^ 52, by norm_num, by omega⟩
    refine ⟨k, lastPlace q + 1, hk, by omega, ?_⟩
    rw [heq, hn2, zpow_add_one₀ (by norm_num : (2 : ℚ) ≠ 0)]
    push_cast
    ring

/-! ### Values -/

namespace Double

/-- The `double` nearest to an exact result. -/
def ofRat (q : ℚ) : Double :=
  if h : |roundDouble q| ≤ maximumDouble then finite ⟨roundDouble q, isDouble_roundDouble h⟩
  else infinite (q < 0)

/-- Conversion from an integer type. -/
def ofInt (n : ℤ) : Double := ofRat n

/-- `std::isfinite`. -/
def isFinite : Double → Bool
  | finite _ => true
  | _ => false

/-- `std::floor(x) == x` and `std::abs(x) < bound`: an integer of the given magnitude. -/
def isIntegerBelow (bound : ℚ) : Double → Bool
  | finite x => (⌊x.value⌋ : ℚ) = x.value ∧ |x.value| < bound
  | _ => false

/-- Conversion to `long long`. -/
def toInt64 : Double → ℤ
  | finite x =>
      let n := if x.value < 0 then ⌈x.value⌉ else ⌊x.value⌋
      if -2 ^ 63 ≤ n ∧ n < 2 ^ 63 then n else -2 ^ 63
  | _ => -2 ^ 63

/-- `%.pg`. -/
def format (p : ℕ) : Double → Bytes
  | finite x => formatGeneral p x.value
  | infinite negative => text (if negative then "-inf" else "inf")
  | notANumber negative => text (if negative then "-nan" else "nan")

/-- Unary minus. -/
def neg : Double → Double
  | finite x => ofRat (-x.value)
  | infinite negative => infinite !negative
  | notANumber negative => notANumber !negative

def add : Double → Double → Double
  | finite x, finite y => ofRat (x.value + y.value)
  | notANumber negative, _ => notANumber negative
  | _, notANumber negative => notANumber negative
  | infinite negative, finite _ => infinite negative
  | finite _, infinite negative => infinite negative
  | infinite negative, infinite negative' =>
      if negative = negative' then infinite negative else notANumber true

def sub (x y : Double) : Double := x.add y.neg

def isNegative : Double → Bool
  | finite x => x.value < 0
  | infinite negative => negative
  | notANumber negative => negative

def isZero : Double → Bool
  | finite x => x.value = 0
  | _ => false

def mul : Double → Double → Double
  | finite x, finite y => ofRat (x.value * y.value)
  | notANumber negative, _ => notANumber negative
  | _, notANumber negative => notANumber negative
  | x, y =>
      -- one factor is infinite
      if x.isZero || y.isZero then notANumber true
      else infinite (x.isNegative != y.isNegative)

/-- Division; a divisor that is zero counts as positive. -/
def div : Double → Double → Double
  | finite x, finite y =>
      if y.value = 0 then
        if x.value = 0 then notANumber true else infinite (x.value < 0)
      else ofRat (x.value / y.value)
  | notANumber negative, _ => notANumber negative
  | _, notANumber negative => notANumber negative
  | infinite _, infinite _ => notANumber true
  | infinite negative, finite y => infinite (negative != decide (y.value < 0))
  | finite _, infinite _ => ofRat 0

/-- `x < y`. -/
def lt : Double → Double → Bool
  | finite x, finite y => x.value < y.value
  | infinite true, finite _ => true
  | finite _, infinite false => true
  | infinite true, infinite false => true
  | _, _ => false

/-- `x <= y`. -/
def le : Double → Double → Bool
  | finite x, finite y => x.value ≤ y.value
  | infinite true, finite _ => true
  | finite _, infinite false => true
  | infinite negative, infinite negative' => negative || !negative'
  | _, _ => false

/-- A rational of the format is converted exactly. -/
theorem ofRat_of_isDouble {v : ℚ} (h : IsDouble v) : ofRat v = finite ⟨v, h⟩ := by
  have hround := roundDouble_of_isDouble h
  have hmax : |roundDouble v| ≤ maximumDouble := by
    rw [hround]
    exact h.magnitude
  rw [ofRat, dif_pos hmax]
  simp only [hround]

/-- An integer in range is converted to itself. -/
theorem toInt64_of_int {x : FiniteDouble} {n : ℤ} (hx : x.value = n) (hlow : -2 ^ 63 ≤ n)
    (hhigh : n < 2 ^ 63) : toInt64 (finite x) = n := by
  simp only [toInt64, hx, Int.ceil_intCast, Int.floor_intCast, ite_self]
  exact if_pos ⟨hlow, hhigh⟩

end Double

/-- The least magnitude that rounds to 53 digits in the normal range, half a last place below
`2 ^ -1022`. -/
def leastNormal : ℚ := 18014398509481983 * 2 ^ (-1076 : ℤ)

/-- `strtod` sets `ERANGE` on an underflow: rounded to 53 digits the number is below the normal
range, and no `double` is equal to it. -/
def underflows (q : ℚ) : Bool := |q| < leastNormal ∧ roundDouble q ≠ q

/-- The value of a numeral as a `double`; `none` when `std::stod` throws, for want of a numeral or
because `strtod` has set `ERANGE`. -/
def stod (s : Bytes) : Option Double :=
  match readNumeral s with
  | none => none
  | some q =>
      if (Double.ofRat q).isFinite = true ∧ underflows q = false then some (Double.ofRat q)
      else none

/-- What `std::stod` takes. -/
theorem isSome_stod_iff (s : Bytes) :
    (stod s).isSome = true ↔
      ∃ q, readNumeral s = some q ∧ |roundDouble q| ≤ maximumDouble ∧ underflows q = false := by
  have hfinite : ∀ q, (Double.ofRat q).isFinite = true ↔ |roundDouble q| ≤ maximumDouble := by
    intro q
    unfold Double.ofRat
    split
    · next h => exact ⟨fun _ => h, fun _ => rfl⟩
    · next h => exact ⟨nofun, fun h' => absurd h' h⟩
  unfold stod
  cases readNumeral s with
  | none => simp
  | some q =>
      simp only [← hfinite]
      split
      · next h => simpa using h
      · next h => simpa using h

/-! ### Integers -/

/-- A small multiple of a power of two in range is a double. -/
theorem isDouble_of_multiple {n f : ℤ} (hn : |n| < 2 ^ 53) (hlow : -1074 ≤ f) (hhigh : f ≤ 971) :
    IsDouble (n * (2 : ℚ) ^ f) := by
  refine ⟨?_, n, f, hn, hlow, rfl⟩
  have hle : |(n : ℚ)| ≤ 9007199254740991 := by
    exact_mod_cast (by omega : |n| ≤ 9007199254740991)
  rw [abs_mul, abs_of_pos (by positivity : (0 : ℚ) < (2 : ℚ) ^ f), maximumDouble]
  exact mul_le_mul hle (zpow_le_zpow_right₀ (by norm_num) hhigh) (by positivity) (by norm_num)

theorem isDouble_intCast {n : ℤ} (h : |n| < 2 ^ 53) : IsDouble (n : ℚ) := by
  have hmultiple := isDouble_of_multiple h (by decide : (-1074 : ℤ) ≤ 0) (by decide)
  rwa [zpow_zero, mul_one] at hmultiple

/-- A 64-bit integer with six significant digits is a double. -/
theorem isDouble_decimal {n : ℤ} {m k : ℕ} (hm : m < 10 ^ 6) (hn : |n| = m * 10 ^ k)
    (hrange : |n| ≤ 2 ^ 63) : IsDouble (n : ℚ) := by
  obtain ⟨j, hj, hnj⟩ : ∃ j : ℤ, |j| = m * 5 ^ k ∧ n = j * 2 ^ k := by
    rcases abs_choice n with habs | habs <;> rw [habs] at hn
    · refine ⟨m * 5 ^ k, abs_of_nonneg (by positivity), ?_⟩
      rw [hn, mul_assoc, ← mul_pow]
      norm_num
    · refine ⟨-(m * 5 ^ k), by rw [abs_neg, abs_of_nonneg (by positivity)], ?_⟩
      rw [← neg_neg n, hn, neg_mul, mul_assoc, ← mul_pow]
      norm_num
  rcases Nat.eq_zero_or_pos m with hzero | hpos
  · have hn0 : n = 0 := by
      rw [hzero] at hn
      simpa using hn
    exact isDouble_intCast (by simp [hn0])
  have hk : k < 20 := by
    by_contra hge
    have hpow : (10 : ℤ) ^ 20 ≤ 10 ^ k := pow_le_pow_right₀ (by norm_num) (by omega)
    have hone : (1 : ℤ) ≤ m := by exact_mod_cast hpos
    nlinarith
  have hsmall : |j| < 2 ^ 53 := by
    have hm' : (m : ℤ) < 10 ^ 6 := by exact_mod_cast hm
    rw [hj]
    rw [hn] at hrange
    interval_cases k <;> norm_num at hrange hm' ⊢ <;> omega
  have hcast : (n : ℚ) = j * (2 : ℚ) ^ (k : ℤ) := by
    rw [hnj]
    push_cast
    rw [zpow_natCast]
  rw [hcast]
  exact isDouble_of_multiple hsmall (by omega) (by omega)

/-! ### Six digits -/

/-- A finite number rounded to six digits does not leave the range. -/
theorem abs_roundDigits_le {v : ℚ} (h : IsDouble v) :
    |roundDigits 6 v| ≤ 179769 * 10 ^ (303 : ℤ) := by
  have hmax : 2 * |v| < (2 * 179769 + 1) * (10 : ℚ) ^ (303 : ℤ) :=
    lt_of_le_of_lt (mul_le_mul_of_nonneg_left h.magnitude (by norm_num)) two_mul_maximumDouble_lt
  have hnonneg : 0 ≤ Rounding.roundAt 10 (Rounding.ulp 10 6 v) |v| := by
    have hzero := Rounding.le_roundAt (b := 10) (by decide) (le_refl (Rounding.ulp 10 6 v)) (n := 0)
      (q := |v|) (by simp)
    simpa using hzero
  have habs : |roundDigits 6 v| = Rounding.roundAt 10 (Rounding.ulp 10 6 v) |v| := by
    rw [roundDigits, withSign]
    split
    · rw [abs_neg, abs_of_nonneg hnonneg]
    · exact abs_of_nonneg hnonneg
  by_cases hv : v = 0
  · subst hv
    rw [habs]
    simp [Rounding.roundAt, Rounding.roundHalfEven]
  have hulp : Rounding.ulp 10 6 v ≤ 303 := by
    refine Rounding.ulp_le (by decide) hv ?_
    have hpow : ((10 : ℕ) : ℚ) ^ (303 + (6 : ℕ) : ℤ) = 10 ^ (6 : ℕ) * (10 : ℚ) ^ (303 : ℤ) := by
      rw [add_comm, zpow_add₀ (by norm_num)]
      rfl
    have hpos : (0 : ℚ) < (10 : ℚ) ^ (303 : ℤ) := by positivity
    rw [hpow]
    clear hpow
    generalize (10 : ℚ) ^ (303 : ℤ) = scale at hmax hpos ⊢
    linarith
  rw [habs]
  exact_mod_cast Rounding.roundAt_ulp_le (b := 10) (by decide) (by decide) hulp
    (n := 179769) (by decide) (by exact_mod_cast hmax)

/-- A number in range is rounded to a number in range. -/
theorem abs_roundDouble_le {q : ℚ} (h : |q| ≤ maximumDouble) : |roundDouble q| ≤ maximumDouble := by
  by_cases hq : q = 0
  · subst hq
    simpa [roundDouble, Rounding.roundAt, Rounding.roundHalfEven] using h
  have hplace : lastPlace q ≤ 971 :=
    lastPlace_le hq (by decide) (lt_of_le_of_lt h maximumDouble_lt)
  have hscale : maximumDouble = ((9007199254740991 : ℤ) : ℚ) * ((2 : ℕ) : ℚ) ^ (971 : ℤ) := rfl
  have hscale' : -maximumDouble = ((-9007199254740991 : ℤ) : ℚ) * ((2 : ℕ) : ℚ) ^ (971 : ℤ) := by
    rw [hscale, ← neg_mul, ← Int.cast_neg]
  obtain ⟨hlow, hhigh⟩ := abs_le.1 h
  refine abs_le.2 ⟨?_, ?_⟩
  · rw [hscale'] at hlow ⊢
    exact Rounding.le_roundAt (by decide) hplace hlow
  · rw [hscale] at hhigh ⊢
    exact Rounding.roundAt_le (by decide) hplace hhigh

/-! ### Underflow -/

theorem leastNormal_lt : leastNormal < 1 / 1000 := by
  have hlt : (18014398509481983 : ℚ) * 1000 < 1 * 2 ^ (1076 : ℤ) := by
    have h : 18014398509481983 * 1000 < 1 * 2 ^ 1076 := by decide +kernel
    exact_mod_cast h
  rw [leastNormal, zpow_neg, ← div_eq_mul_inv]
  exact (div_lt_div_iff₀ (by positivity) (by norm_num)).2 hlt

/-- Only small numbers underflow. -/
theorem underflows_of_le {q : ℚ} (h : leastNormal ≤ |q|) : underflows q = false := by
  simp [underflows, not_lt.2 h]

theorem underflows_zero : underflows 0 = false := by
  simp [underflows, roundDouble, Rounding.roundAt, Rounding.roundHalfEven]

/-- An integer is not too small. -/
theorem underflows_intCast (n : ℤ) : underflows n = false := by
  by_cases hn : n = 0
  · rw [hn, Int.cast_zero]
    exact underflows_zero
  · have hone : (1 : ℚ) ≤ |(n : ℚ)| := by exact_mod_cast Int.one_le_abs hn
    exact underflows_of_le (by linarith [leastNormal_lt])

/-- A number that rounds to a double is read as that double. -/
theorem stod_of_readNumeral {s : Bytes} {q : ℚ} (h : readNumeral s = some q)
    (hq : |q| ≤ maximumDouble) (hsmall : underflows q = false) :
    stod s =
      some (Double.finite ⟨roundDouble q, isDouble_roundDouble (abs_roundDouble_le hq)⟩) := by
  simp only [stod, h, Double.ofRat, dif_pos (abs_roundDouble_le hq), Double.isFinite, hsmall,
    and_self, if_true]

/-- A rational printed with six digits is a decimal of six digits. -/
theorem exists_sixDigits {q : ℚ} (hq : q ≠ 0) :
    ∃ (m : ℕ) (k : ℤ), 10 ^ 5 ≤ m ∧ m < 10 ^ 6 ∧ |roundDigits 6 q| = m * (10 : ℚ) ^ k ∧
      |q| ≤ 2 * |roundDigits 6 q| := by
  obtain ⟨hlow, hhigh, hvalue⟩ := significantDigits_spec (by decide : 1 ≤ 6) hq
  have habs : |roundDigits 6 q| = Rounding.roundAt 10 (Rounding.ulp 10 6 q) |q| := by
    have hnonneg : 0 ≤ Rounding.roundAt 10 (Rounding.ulp 10 6 q) |q| := by
      rw [← hvalue]
      positivity
    rw [roundDigits, withSign]
    split
    · rw [abs_neg, abs_of_nonneg hnonneg]
    · exact abs_of_nonneg hnonneg
  refine ⟨_, _, hlow, hhigh, habs.trans hvalue.symm, ?_⟩
  have hround := Rounding.abs_roundAt_sub_le (b := 10) (by decide) (Rounding.ulp 10 6 q) |q|
  have hlead := Rounding.zpow_ulp_le (b := 10) (by decide) (p := 6) (by decide) hq
  rw [← habs] at hround
  have hhalf : |(|roundDigits 6 q| - |q|)| ≤ ((10 : ℕ) : ℚ) ^ Rounding.ulp 10 6 q := by
    have hnonneg := abs_nonneg (|roundDigits 6 q| - |q|)
    linarith
  have hbelow := (abs_le.1 hhalf).1
  have hq := abs_nonneg q
  norm_num at hlead hbelow
  linarith

/-- A decimal fraction that is a multiple of a power of two has its power of five in its digits. -/
theorem five_pow_dvd {a m j e : ℕ} {f : ℤ} (hf : -(e : ℤ) ≤ f)
    (h : (a : ℚ) * (2 : ℚ) ^ f = m * (10 : ℚ) ^ (-(j : ℤ))) : 5 ^ j ∣ m := by
  obtain ⟨g, rfl⟩ : ∃ g : ℕ, f = g - e := ⟨(f + e).toNat, by omega⟩
  have htwo : (2 : ℚ) ^ e ≠ 0 := by positivity
  have hten : (10 : ℚ) ^ j ≠ 0 := by positivity
  rw [zpow_sub₀ (by norm_num), zpow_neg, zpow_natCast, zpow_natCast, zpow_natCast, ← mul_div_assoc,
    ← div_eq_mul_inv, div_eq_div_iff htwo hten] at h
  have hcross : a * 2 ^ g * 10 ^ j = m * 2 ^ e := by exact_mod_cast h
  have hcoprime : Nat.Coprime (5 ^ j) (2 ^ e) := Nat.Coprime.pow _ _ (by decide)
  refine hcoprime.dvd_of_dvd_mul_right ⟨a * 2 ^ g * 2 ^ j, ?_⟩
  rw [← hcross, show 10 = 5 * 2 from rfl, mul_pow]
  ring

/-- **A decimal of six digits below the normal range is no double**: its power of five is too
large. -/
theorem not_isDouble_of_sixDigits {d : ℚ} {m : ℕ} {k : ℤ} (hlow : 10 ^ 5 ≤ m) (hhigh : m < 10 ^ 6)
    (hd : |d| = m * (10 : ℚ) ^ k) (hsmall : |d| < leastNormal) : ¬ IsDouble d := by
  intro hdouble
  obtain ⟨n, f, -, hf, hn⟩ := hdouble.digits
  -- a number with a higher last digit is not that small
  have hk : k ≤ -9 := by
    by_contra hge
    have hten : (10 : ℚ) ^ (-8 : ℤ) ≤ (10 : ℚ) ^ k :=
      zpow_le_zpow_right₀ (by norm_num) (by omega)
    have hm : (10 : ℚ) ^ 5 ≤ m := by exact_mod_cast hlow
    have hlarge : 1 / 1000 ≤ m * (10 : ℚ) ^ k := by
      calc (1 / 1000 : ℚ) = 10 ^ 5 * (10 : ℚ) ^ (-8 : ℤ) := by norm_num
        _ ≤ m * (10 : ℚ) ^ k := mul_le_mul hm hten (by positivity) (by positivity)
    rw [← hd] at hlarge
    linarith [leastNormal_lt]
  obtain ⟨j, rfl⟩ : ∃ j : ℕ, k = -(j : ℤ) := ⟨(-k).toNat, by omega⟩
  have heq : (n.natAbs : ℚ) * (2 : ℚ) ^ f = m * (10 : ℚ) ^ (-(j : ℤ)) := by
    rw [← hd, hn, abs_mul, abs_of_pos (by positivity : (0 : ℚ) < (2 : ℚ) ^ f), Nat.cast_natAbs,
      Int.cast_abs]
  have hle := Nat.le_of_dvd (by omega) (five_pow_dvd (e := 1074) hf heq)
  have hfive : 5 ^ 9 ≤ 5 ^ j := Nat.pow_le_pow_right (by decide) (by omega)
  omega

/-- Printed with six digits, a number is in the normal range or zero. -/
def Double.isReadable : Double → Bool
  | .finite x => x.value = 0 ∨ leastNormal ≤ |roundDigits 6 x.value|
  | _ => false

/-- A finite number that is zero or at least one is readable. -/
theorem Double.isReadable_of_one_le {x : FiniteDouble} (h : x.value = 0 ∨ 1 ≤ |x.value|) :
    Double.isReadable (.finite x) = true := by
  refine decide_eq_true (h.imp_right fun hone => ?_)
  have hx : x.value ≠ 0 := by
    intro hzero
    rw [hzero, abs_zero] at hone
    norm_num at hone
  obtain ⟨-, -, -, -, -, hhalf⟩ := exists_sixDigits hx
  linarith [leastNormal_lt]

/-- **A number printed with six digits is read back**, as the nearest double of its digits. -/
theorem stod_formatGeneral {x : FiniteDouble} (h : Double.isReadable (.finite x) = true) :
    ∃ y : FiniteDouble, stod (formatGeneral 6 x.value) = some (.finite y) ∧
      y.value = roundDouble (roundDigits 6 x.value) := by
  have hsmall : underflows (roundDigits 6 x.value) = false := by
    rcases of_decide_eq_true h with hzero | hnormal
    · rw [hzero, show roundDigits 6 0 = 0 by
        simp [roundDigits, withSign, Rounding.roundAt, Rounding.roundHalfEven]]
      exact underflows_zero
    · exact underflows_of_le hnormal
  exact ⟨_, stod_of_readNumeral (readNumeral_formatGeneral (by decide) x.value)
    (le_trans (abs_roundDigits_le x.isDouble) six_digits_le_maximumDouble) hsmall, rfl⟩

/-- **Printed below the normal range it is not**: `std::stod` throws. -/
theorem stod_formatGeneral_none {x : FiniteDouble} (h : Double.isReadable (.finite x) = false) :
    stod (formatGeneral 6 x.value) = none := by
  have hnot := of_decide_eq_false h
  push Not at hnot
  obtain ⟨m, k, hlow, hhigh, hdigits, -⟩ := exists_sixDigits hnot.1
  have hinexact : roundDouble (roundDigits 6 x.value) ≠ roundDigits 6 x.value := by
    intro heq
    refine not_isDouble_of_sixDigits hlow hhigh hdigits hnot.2 ?_
    rw [← heq]
    exact isDouble_roundDouble (abs_roundDouble_le
      (le_trans (abs_roundDigits_le x.isDouble) six_digits_le_maximumDouble))
  have hunder : underflows (roundDigits 6 x.value) = true := decide_eq_true ⟨hnot.2, hinexact⟩
  simp [stod, readNumeral_formatGeneral (by decide : 1 ≤ 6) x.value, hunder]

end TftpHarness
