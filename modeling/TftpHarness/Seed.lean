/-
**The reproduction seed in the store.**

A seed below `2 ^ 53` in magnitude, read as a signed number, is printed digit by digit and comes
back. A larger one is converted to the nearest double and printed with six significant digits, so
that it comes back exactly when it had no more than six to begin with.  Seeds of runs are hashes of
64 bits.  A number elsewhere in the record that is not finite, or that is printed below the normal
range, takes the whole line with it.

Main definitions:

* `TftpHarness.SixDigits` — a number with at most six significant digits;
* `TftpHarness.SeedKept` — the records whose seed the store keeps.

Main results:

* `TftpHarness.reread_integer` — **a small integer comes back**;
* `TftpHarness.reread_large_integer` — a large one comes back with six digits;
* `TftpHarness.seed_survives_iff` — **the seed survives exactly for the records of `SeedKept`**.
-/

import TftpHarness.Metrics

set_option relaxedAutoImplicit false
set_option autoImplicit false

namespace TftpHarness

/-! ### Small integers -/

theorem toInt64_bounds (x : Double) : -2 ^ 63 ≤ x.toInt64 ∧ x.toInt64 < 2 ^ 63 := by
  have hleast : (-2 ^ 63 : ℤ) ≤ -2 ^ 63 ∧ (-2 ^ 63 : ℤ) < 2 ^ 63 := by decide
  cases x with
  | finite x =>
      simp only [Double.toInt64]
      generalize (if x.value < 0 then ⌈x.value⌉ else ⌊x.value⌋) = n
      split
      · next h => exact h
      · exact hleast
  | infinite negative => exact hleast
  | notANumber negative => exact hleast

/-- A 64-bit integer is far from the largest double. -/
theorem abs_le_maximumDouble {n : ℤ} (h : |n| ≤ 2 ^ 63) : |(n : ℚ)| ≤ maximumDouble := by
  have hle : |(n : ℚ)| ≤ 2 ^ 63 := by exact_mod_cast h
  have hmax : (2 : ℚ) ^ 63 ≤ maximumDouble := by
    have hnat : 2 ^ 63 ≤ 9007199254740991 * 2 ^ 971 := by decide +kernel
    rw [maximumDouble]
    exact_mod_cast hnat
  exact le_trans hle hmax

/-- A number that is readable comes back as some number. -/
theorem exists_rereadNumber {x : FiniteDouble} (h : Double.isReadable (.finite x) = true)
    (isInteger : Bool) : ∃ v, rereadNumber (.finite x) isInteger = some v := by
  have htoken : ∀ token y, stod token = some y → ∃ v, numberOfToken token = some v := by
    intro token y h
    simp only [numberOfToken, h]
    split
    · exact ⟨_, rfl⟩
    · exact ⟨_, rfl⟩
  have hinteger : ∃ y, stod (signedDecimal (Double.toInt64 (.finite x))) = some y := by
    obtain ⟨hlow, hhigh⟩ := toInt64_bounds (.finite x)
    exact ⟨_, stod_of_readNumeral (readNumeral_signedDecimal _)
      (abs_le_maximumDouble (abs_le.2 ⟨hlow, le_of_lt hhigh⟩)) (underflows_intCast _)⟩
  obtain ⟨y, hy⟩ : ∃ y, stod (formatNumber (.finite x) isInteger) = some y := by
    unfold formatNumber
    split
    · exact hinteger
    split
    · exact hinteger
    · obtain ⟨y, hy, -⟩ := stod_formatGeneral h
      exact ⟨_, hy⟩
  exact htoken _ y hy

/-- The numeral of an integer has neither point nor exponent. -/
theorem notMem_signedDecimal (n : ℤ) {b : UInt8} (hdigit : isDigit b = false) (hsign : b ≠ 45) :
    b ∉ signedDecimal n := by
  intro h
  rcases List.mem_append.1 h with h | h
  · split at h
    · exact hsign (List.mem_singleton.1 h)
    · cases h
  · rw [isDigit_of_mem_toDecimal h] at hdigit
    cases hdigit

/-- A small integer is read back from its numeral. -/
theorem numberOfToken_signedDecimal {n : ℤ} (h : |n| < 2 ^ 53) :
    numberOfToken (signedDecimal n) = some (.integer n) := by
  have hdouble := isDouble_intCast h
  have hstod : stod (signedDecimal n) = some (.finite ⟨n, hdouble⟩) := by
    have hread := stod_of_readNumeral (readNumeral_signedDecimal n) hdouble.magnitude
      (underflows_intCast n)
    simpa only [roundDouble_of_isDouble hdouble] using hread
  have hvalue : Double.toInt64 (.finite ⟨n, hdouble⟩) = n := by
    rw [abs_lt] at h
    exact Double.toInt64_of_int rfl (by omega) (by omega)
  rw [numberOfToken, hstod]
  simp only [notMem_signedDecimal n (rfl : isDigit 46 = false) (by decide),
    notMem_signedDecimal n (rfl : isDigit 101 = false) (by decide),
    notMem_signedDecimal n (rfl : isDigit 69 = false) (by decide), or_self, if_false, hvalue]

/-- An integer below the bound is printed digit by digit. -/
theorem formatNumber_finite_int {n : ℤ} (hdouble : IsDouble (n : ℚ)) {isInteger : Bool}
    (h : |n| < 10 ^ 15 ∨ isInteger = true ∧ |n| < 2 ^ 53) :
    formatNumber (.finite ⟨n, hdouble⟩) isInteger = signedDecimal n := by
  have hsmall : |n| < 2 ^ 53 := by
    rcases h with h | h
    · omega
    · exact h.2
  have hvalue : Double.toInt64 (.finite ⟨n, hdouble⟩) = n := by
    rw [abs_lt] at hsmall
    exact Double.toInt64_of_int rfl (by omega) (by omega)
  have hbelow : ∀ (bound : ℤ) (limit : ℚ), (bound : ℚ) = limit → |n| < bound →
      Double.isIntegerBelow limit (.finite ⟨n, hdouble⟩) = true := by
    intro bound limit hlimit hbound
    have hcast : |(n : ℚ)| < limit := by
      rw [← hlimit]
      exact_mod_cast hbound
    simp [Double.isIntegerBelow, hcast]
  unfold formatNumber
  rw [hvalue]
  rcases h with h | ⟨hinteger, h⟩
  · rw [hbelow (10 ^ 15) (10 ^ 15) (by norm_num) h]
    split <;> rfl
  · rw [if_pos ⟨hinteger, hbelow (2 ^ 53) (2 ^ 53) (by norm_num) h⟩]

/-- **A small integer comes back.** -/
theorem reread_integer {n : ℤ} (h : |n| < 2 ^ 53) :
    (JsonValue.integer n).reread = some (.integer n) := by
  have hdouble := isDouble_intCast h
  rw [JsonValue.integer, Double.ofInt, Double.ofRat_of_isDouble hdouble, JsonValue.reread,
    rereadNumber, formatNumber_finite_int hdouble (Or.inr ⟨rfl, h⟩), numberOfToken_signedDecimal h]
  rw [JsonValue.integer, Double.ofInt, Double.ofRat_of_isDouble hdouble]
  rfl

/-! ### Large integers -/

/-- A number with at most six significant digits. -/
def SixDigits (n : ℤ) : Prop := ∃ m k : ℕ, m < 10 ^ 6 ∧ |n| = m * 10 ^ k

/-- Six digits are kept by rounding to six digits. -/
theorem roundDigits_of_sixDigits {n : ℤ} (h : SixDigits n) : roundDigits 6 n = n := by
  obtain ⟨m, k, hm, hn⟩ := h
  have habs : |(n : ℚ)| = m * 10 ^ k := by exact_mod_cast hn
  have hround : Rounding.roundAt 10 (Rounding.ulp 10 6 n) |(n : ℚ)| = |(n : ℚ)| := by
    by_cases hzero : (n : ℚ) = 0
    · rw [hzero]
      simp [Rounding.roundAt, Rounding.roundHalfEven]
    have hulp : Rounding.ulp 10 6 n ≤ k := by
      refine Rounding.ulp_le (by decide) hzero ?_
      have hten : ((10 : ℕ) : ℚ) ^ ((k : ℤ) + (6 : ℕ)) = 10 ^ k * 10 ^ 6 := by
        rw [zpow_add₀ (by norm_num), zpow_natCast, zpow_natCast]
        norm_num
      have hm' : (m : ℚ) < 10 ^ 6 := by exact_mod_cast hm
      rw [habs, hten, mul_comm]
      exact mul_lt_mul_of_pos_left hm' (by positivity)
    have hmultiple := Rounding.roundAt_of_multiple (b := 10) (by decide) hulp m
    rw [habs]
    simpa using hmultiple
  rw [roundDigits, withSign, hround]
  split
  · next hneg => rw [abs_of_neg (of_decide_eq_true hneg), neg_neg]
  · next hpos => exact abs_of_nonneg (not_lt.1 fun h => hpos (decide_eq_true h))

/-- The last of the significant digits is not below the last place. -/
theorem ulp_le_significantDigits (p : ℕ) (q : ℚ) :
    Rounding.ulp 10 p q ≤ (significantDigits p q).2 := by
  simp only [significantDigits]
  split
  · exact le_of_lt (Int.lt_succ _)
  · exact le_refl _

/-- A 64-bit number of more than 53 bits, rounded to six digits, is an integer of 64 bits. -/
theorem exists_roundDigits {q : ℚ} (hlow : 2 ^ 53 ≤ |q|) (hhigh : |q| ≤ 2 ^ 63) :
    ∃ d : ℤ, roundDigits 6 q = d ∧ SixDigits d ∧ |d| ≤ 922337 * 10 ^ 13 := by
  have hq : q ≠ 0 := by
    rintro rfl
    norm_num at hlow
  obtain ⟨-, hdigits, hvalue⟩ := significantDigits_spec (by decide : 1 ≤ 6) hq
  have hulp : 0 ≤ Rounding.ulp 10 6 q := by
    by_contra hneg
    have hlt := Rounding.lt_zpow_ulp (b := 10) (by decide) 6 q
    have hone : (10 : ℚ) ^ Rounding.ulp 10 6 q ≤ 1 :=
      zpow_le_one_of_nonpos₀ (by norm_num) (by omega)
    norm_num at hlt hlow
    linarith
  have hulp' : Rounding.ulp 10 6 q ≤ 13 := by
    refine Rounding.ulp_le (by decide) hq (lt_of_le_of_lt hhigh ?_)
    norm_num
  have hbound := Rounding.roundAt_ulp_le (b := 10) (n := 922337) (by decide) (by decide) hulp'
    (by decide) (by norm_num; linarith)
  obtain ⟨k, hk⟩ : ∃ k : ℕ, (significantDigits 6 q).2 = k :=
    Int.eq_ofNat_of_zero_le (le_trans hulp (ulp_le_significantDigits 6 q))
  set m := (significantDigits 6 q).1
  rw [hk, zpow_natCast] at hvalue
  have hle : ((m * 10 ^ k : ℕ) : ℤ) ≤ 922337 * 10 ^ 13 := by
    rw [← hvalue] at hbound
    have hcast : ((m * 10 ^ k : ℕ) : ℚ) ≤ ((922337 * 10 ^ 13 : ℕ) : ℚ) := by
      push_cast
      exact_mod_cast hbound
    exact_mod_cast hcast
  rw [roundDigits, ← hvalue, withSign]
  split
  · refine ⟨-(m * 10 ^ k : ℕ), by push_cast; ring, ⟨m, k, hdigits, ?_⟩, ?_⟩
    · rw [abs_neg, abs_of_nonneg (by positivity)]
      push_cast
      ring
    · rw [abs_neg, abs_of_nonneg (by positivity)]
      exact hle
  · refine ⟨(m * 10 ^ k : ℕ), by push_cast; ring, ⟨m, k, hdigits, ?_⟩, ?_⟩
    · rw [abs_of_nonneg (by positivity)]
      push_cast
      ring
    · rw [abs_of_nonneg (by positivity)]
      exact hle

/-- The nearest double of a large 64-bit integer is as large. -/
theorem abs_roundDouble_int {n : ℤ} (hlow : 2 ^ 53 ≤ |n|) (hhigh : |n| ≤ 2 ^ 63) :
    2 ^ 53 ≤ |roundDouble n| ∧ |roundDouble n| ≤ 2 ^ 63 := by
  have hn : (n : ℚ) ≠ 0 := by
    intro hzero
    rw [Int.cast_eq_zero.1 hzero] at hlow
    norm_num at hlow
  have hplace : lastPlace n ≤ 11 := by
    refine lastPlace_le hn (by decide) ?_
    have hcast : |(n : ℚ)| ≤ 2 ^ 63 := by exact_mod_cast hhigh
    exact lt_of_le_of_lt hcast (by norm_num)
  -- both bounds are multiples of the last place, and rounding does not cross them
  have hle : ∀ k : ℤ, k * 2 ^ 11 ≤ n → (k : ℚ) * 2 ^ 11 ≤ roundDouble n := by
    intro k hk
    have hcast : (k : ℚ) * ((2 : ℕ) : ℚ) ^ (11 : ℤ) ≤ n := by exact_mod_cast hk
    exact_mod_cast Rounding.le_roundAt (by decide) hplace hcast
  have hge : ∀ k : ℤ, n ≤ k * 2 ^ 11 → roundDouble n ≤ (k : ℚ) * 2 ^ 11 := by
    intro k hk
    have hcast : (n : ℚ) ≤ (k : ℚ) * ((2 : ℕ) : ℚ) ^ (11 : ℤ) := by exact_mod_cast hk
    exact_mod_cast Rounding.roundAt_le (by decide) hplace hcast
  obtain ⟨hmin, hmax⟩ := abs_le.1 hhigh
  have h₁ := hle (-2 ^ 52) (by omega)
  have h₂ := hge (2 ^ 52) (by omega)
  refine ⟨?_, abs_le.2 ⟨by push_cast at h₁; linarith, by push_cast at h₂; linarith⟩⟩
  rcases le_abs.1 hlow with hpos | hneg
  · have h₃ := hle (2 ^ 42) (by omega)
    push_cast at h₃
    exact le_abs.2 (Or.inl (by linarith))
  · have h₃ := hge (-2 ^ 42) (by omega)
    push_cast at h₃
    exact le_abs.2 (Or.inr (by linarith))

/-- A large integer comes back with six digits. -/
theorem reread_large_integer {n : ℤ} (hlow : 2 ^ 53 ≤ |n|) (hhigh : |n| ≤ 2 ^ 63) :
    ∃ v d, (JsonValue.integer n).reread = some v ∧ v.asInteger = d ∧
      roundDigits 6 (roundDouble n) = d ∧ SixDigits d ∧ |d| ≤ 922337 * 10 ^ 13 := by
  obtain ⟨hlow', hhigh'⟩ := abs_roundDouble_int hlow hhigh
  obtain ⟨d, hround, hsix, hd⟩ := exists_roundDigits hlow' hhigh'
  obtain ⟨m, k, hm, hmk⟩ := hsix
  have hdouble : IsDouble (d : ℚ) := isDouble_decimal hm hmk (by omega)
  obtain ⟨x, hx, hxvalue⟩ : ∃ x : FiniteDouble, Double.ofInt n = .finite x ∧
      x.value = roundDouble n := by
    have hmax := abs_roundDouble_le (abs_le_maximumDouble hhigh)
    exact ⟨⟨_, isDouble_roundDouble hmax⟩, dif_pos hmax, rfl⟩
  have hformat : formatNumber (.finite x) true = formatGeneral 6 x.value := by
    have hbig : ∀ bound : ℚ, bound ≤ 2 ^ 53 → Double.isIntegerBelow bound (.finite x) = false := by
      intro bound hbound
      have hnot : ¬ |x.value| < bound := by
        rw [hxvalue]
        linarith
      simp [Double.isIntegerBelow, hnot]
    rw [formatNumber, hbig (2 ^ 53) (le_refl _), hbig (10 ^ 15) (by norm_num)]
    rfl
  have hreadable : Double.isReadable (.finite x) = true := by
    refine Double.isReadable_of_one_le (Or.inr ?_)
    rw [hxvalue]
    exact le_trans (by norm_num) hlow'
  obtain ⟨y, hy, hyvalue⟩ := stod_formatGeneral hreadable
  have hyd : y.value = d := by
    rw [hyvalue, hxvalue, hround, roundDouble_of_isDouble hdouble]
  have hyint : Double.toInt64 (.finite y) = d := by
    rw [abs_le] at hd
    exact Double.toInt64_of_int hyd (by omega) (by omega)
  have hdint : (JsonValue.integer d).asInteger = d := by
    rw [abs_le] at hd
    rw [JsonValue.integer, Double.ofInt, Double.ofRat_of_isDouble hdouble]
    exact Double.toInt64_of_int rfl (by omega) (by omega)
  obtain ⟨v, hv, hvint⟩ : ∃ v, rereadNumber (.finite x) true = some v ∧ v.asInteger = d := by
    have hread : rereadNumber (.finite x) true =
        numberOfToken (formatNumber (.finite x) true) := rfl
    rw [hread, hformat, numberOfToken, hy]
    dsimp only
    split
    · exact ⟨_, rfl, hyint⟩
    · exact ⟨_, rfl, by rw [hyint, hdint]⟩
  refine ⟨v, d, ?_, hvint, hround, ⟨m, k, hm, hmk⟩, hd⟩
  rw [JsonValue.integer, hx, JsonValue.reread, hv]

/-! ### The seed of a record -/

/-- The counters are finite. -/
def FiniteCounters (r : MetricRecord) : Prop :=
  ∀ (name : Bytes) (x : Double), r.counters[name]? = some x → x.isFinite = true

/-- The records whose seed the store keeps: the intensity, if there is one, and the counters are
readable when they are printed, and the seed, read as a signed number, has at most 53 bits or at
most six significant digits. -/
structure SeedKept (r : MetricRecord) : Prop where
  intensity : ∀ x, r.intensity = some x → x.isReadable = true
  counters : ∀ (name : Bytes) (x : Double), r.counters[name]? = some x → x.isReadable = true
  seed : |r.signedSeed| < 2 ^ 53 ∨ SixDigits r.signedSeed

theorem exists_reread_measured {x : Double} (h : x.isReadable = true) :
    ∃ v, (measured x).reread = some v := by
  cases x with
  | finite x =>
      obtain ⟨v, hv⟩ := exists_rereadNumber h false
      exact ⟨v, by rw [measured, JsonValue.reread, hv]⟩
  | infinite negative => cases h
  | notANumber negative => cases h

/-- A number that is not readable is printed as such, and does not come back. -/
theorem reread_measured_none {x : Double} (h : x.isReadable = false) :
    (measured x).reread = none := by
  cases x with
  | finite x =>
      have hnot := of_decide_eq_false h
      push Not at hnot
      -- it is no integer: below one, only zero is
      have hinteger : Double.isIntegerBelow (10 ^ 15) (.finite x) = false := by
        refine decide_eq_false fun hint => ?_
        have hone : 1 ≤ |x.value| := by
          rw [← hint.1, ← Int.cast_abs]
          exact_mod_cast Int.one_le_abs fun hzero => hnot.1 (by rw [← hint.1, hzero, Int.cast_zero])
        rw [Double.isReadable_of_one_le (Or.inr hone)] at h
        cases h
      have hformat : formatNumber (.finite x) false = formatGeneral 6 x.value := by
        rw [formatNumber, hinteger]
        rfl
      rw [measured, JsonValue.reread, rereadNumber, hformat, numberOfToken,
        stod_formatGeneral_none h]
      rfl
  | infinite negative => rfl
  | notANumber negative => rfl

/-- Readable counters come back, under their names. -/
theorem exists_countersReadBack {counters : List (Bytes × Double)}
    (h : ∀ counter ∈ counters, counter.2.isReadable = true) :
    ∃ read, List.Forall₂ CounterReadsBack counters read := by
  induction counters with
  | nil => exact ⟨[], .nil⟩
  | cons counter counters ih =>
      obtain ⟨read, hread⟩ := ih fun c hc => h c (List.mem_cons_of_mem _ hc)
      obtain ⟨v, hv⟩ := exists_reread_measured (h counter (List.mem_cons_self ..))
      exact ⟨(counter.1, v) :: read, .cons ⟨rfl, hv⟩ hread⟩

/-- The seed that comes back of a record with readable numbers. -/
theorem seed_of_parse {r : MetricRecord}
    (hcounters : ∀ (name : Bytes) (x : Double), r.counters[name]? = some x → x.isReadable = true)
    (hintensity : ∀ x, r.intensity = some x → x.isReadable = true) {seed : JsonValue}
    (hseed : (JsonValue.integer r.signedSeed).reread = some seed) :
    ∃ v, parseJson (r.toJson.serialize false) = some v ∧
      (MetricRecord.fromJson v).seed = (Int64.ofInt seed.asInteger).toUInt64 := by
  obtain ⟨intensity, hrel⟩ : ∃ intensity,
      Option.Rel (fun x v => (measured x).reread = some v) r.intensity intensity := by
    cases hx : r.intensity with
    | none => exact ⟨none, .none⟩
    | some x =>
        obtain ⟨v, hv⟩ := exists_reread_measured (hintensity x hx)
        exact ⟨some v, .some hv⟩
  obtain ⟨counters, hread⟩ := @exists_countersReadBack r.counters.toList <| by
    intro counter hmem
    exact hcounters counter.1 counter.2 (Std.ExtTreeMap.mem_toList_iff_getElem?_eq_some.1 hmem)
  obtain ⟨v, hv, hrecord⟩ := Option.map_eq_some_iff.1 (parse_record false hrel hseed hread)
  exact ⟨v, hv, by rw [hrecord]⟩

/-- Two signed numbers of 64 bits are the same seed only if they are equal. -/
theorem toUInt64_eq_seed_iff (r : MetricRecord) {d : ℤ} (hlow : -2 ^ 63 ≤ d) (hhigh : d < 2 ^ 63) :
    (Int64.ofInt d).toUInt64 = r.seed ↔ d = r.signedSeed := by
  constructor
  · intro h
    rw [MetricRecord.signedSeed, ← h, Int64.toInt64_toUInt64, Int64.toInt_ofInt_of_le hlow hhigh]
  · intro h
    rw [h, MetricRecord.signedSeed, Int64.ofInt_toInt, UInt64.toUInt64_toInt64]

theorem signedSeed_bounds (r : MetricRecord) : -2 ^ 63 ≤ r.signedSeed ∧ r.signedSeed < 2 ^ 63 :=
  ⟨Int64.le_toInt _, Int64.toInt_lt _⟩

/-- With readable numbers all around, the seed decides. -/
theorem seed_comes_back_iff {r : MetricRecord}
    (hcounters : ∀ (name : Bytes) (x : Double), r.counters[name]? = some x → x.isReadable = true)
    (hintensity : ∀ x, r.intensity = some x → x.isReadable = true) :
    (∃ v, parseJson (r.toJson.serialize false) = some v ∧
        (MetricRecord.fromJson v).seed = r.seed) ↔
      |r.signedSeed| < 2 ^ 53 ∨ SixDigits r.signedSeed := by
  obtain ⟨hmin, hmax⟩ := signedSeed_bounds r
  -- the seed that comes back, whichever way the number was printed
  obtain ⟨d, seed, hseed, hd, hlow, hhigh, hiff⟩ : ∃ d seed,
      (JsonValue.integer r.signedSeed).reread = some seed ∧ seed.asInteger = d ∧ -2 ^ 63 ≤ d ∧
        d < 2 ^ 63 ∧ (d = r.signedSeed ↔ |r.signedSeed| < 2 ^ 53 ∨ SixDigits r.signedSeed) := by
    rcases lt_or_ge |r.signedSeed| (2 ^ 53) with hsmall | hlarge
    · have hdouble := isDouble_intCast hsmall
      refine ⟨r.signedSeed, _, reread_integer hsmall, ?_, hmin, hmax, ?_⟩
      · rw [JsonValue.integer, Double.ofInt, Double.ofRat_of_isDouble hdouble]
        exact Double.toInt64_of_int rfl hmin hmax
      · exact ⟨fun _ => Or.inl hsmall, fun _ => rfl⟩
    · have habs : |r.signedSeed| ≤ 2 ^ 63 := abs_le.2 ⟨hmin, le_of_lt hmax⟩
      obtain ⟨v, d, hv, hvd, hround, hsix, hd⟩ := reread_large_integer hlarge habs
      rw [abs_le] at hd
      refine ⟨d, v, hv, hvd, by omega, by omega, ?_, ?_⟩
      · rintro rfl
        exact Or.inr hsix
      · rintro (hsmall | hdigits)
        · omega
        · obtain ⟨m, k, hm, hmk⟩ := hdigits
          have hdouble : IsDouble (r.signedSeed : ℚ) := isDouble_decimal hm hmk habs
          rw [roundDouble_of_isDouble hdouble, roundDigits_of_sixDigits ⟨m, k, hm, hmk⟩] at hround
          exact_mod_cast hround.symm
  obtain ⟨v, hv, hvseed⟩ := seed_of_parse hcounters hintensity hseed
  rw [hd] at hvseed
  rw [← hiff, ← toUInt64_eq_seed_iff r hlow hhigh, ← hvseed]
  constructor
  · rintro ⟨w, hw, hwseed⟩
    rw [hv] at hw
    cases hw
    exact hwseed
  · intro h
    exact ⟨v, hv, h⟩

/-- **The seed survives exactly for the records of `SeedKept`.** -/
theorem seed_survives_iff (r : MetricRecord) :
    (∃ v, parseJson (r.toJson.serialize false) = some v ∧
        (MetricRecord.fromJson v).seed = r.seed) ↔ SeedKept r := by
  -- a number that is not readable takes the line with it
  have hlost : ∀ x : Double, (r.intensity = some x ∨ ∃ name, (name, x) ∈ r.counters.toList) →
      (∃ v, parseJson (r.toJson.serialize false) = some v ∧
        (MetricRecord.fromJson v).seed = r.seed) → x.isReadable = true := by
    rintro x hx ⟨v, hv, -⟩
    by_contra hnot
    rw [Bool.not_eq_true] at hnot
    rw [parse_record_none false hx (reread_measured_none hnot)] at hv
    cases hv
  constructor
  · intro h
    have hintensity : ∀ x, r.intensity = some x → x.isReadable = true :=
      fun x hx => hlost x (Or.inl hx) h
    have hcounters : ∀ (name : Bytes) (x : Double), r.counters[name]? = some x →
        x.isReadable = true :=
      fun name x hx => hlost x
        (Or.inr ⟨name, Std.ExtTreeMap.mem_toList_iff_getElem?_eq_some.2 hx⟩) h
    exact ⟨hintensity, hcounters, (seed_comes_back_iff hcounters hintensity).1 h⟩
  · intro h
    exact (seed_comes_back_iff h.counters h.intensity).2 h.seed

example : (parseJson ((MetricRecord.toJson
    { testId := text "F-01"
      outcome := .fail
      intensity := some (Double.ofRat (1 / 8))
      seed := 7
      counters := (∅ : Counters).insert (text "retransmissions") (Double.ofInt 3) }).serialize
        false)).map (fun v => (MetricRecord.fromJson v).seed) = some 7 := by
  decide +kernel

/-- **A seed of 54 bits is lost.** -/
theorem seed_lost :
    FiniteCounters { seed := 9007199254740993 } ∧
      ¬ ∃ v, parseJson ((({ seed := 9007199254740993 } : MetricRecord).toJson).serialize false) =
          some v ∧ (MetricRecord.fromJson v).seed = 9007199254740993 := by
  have hempty : ∀ (name : Bytes) (x : Double),
      ({ seed := 9007199254740993 } : MetricRecord).counters[name]? ≠ some x := by
    intro name x h
    rw [Std.ExtTreeMap.getElem?_empty] at h
    cases h
  refine ⟨fun name x h => absurd h (hempty name x), ?_⟩
  have hvalue : ({ seed := 9007199254740993 } : MetricRecord).signedSeed = 9007199254740993 := by
    decide +kernel
  rw [seed_comes_back_iff (fun name x h => absurd h (hempty name x)) (by intro x hx; cases hx),
    hvalue]
  rintro (hsmall | ⟨m, k, hm, hmk⟩)
  · norm_num at hsmall
  · rw [abs_of_nonneg (by norm_num)] at hmk
    -- the last digit is 3, so the power of ten is one, and then there are too many digits
    cases k with
    | zero => omega
    | succ k =>
        rw [pow_succ, ← mul_assoc] at hmk
        omega

end TftpHarness
