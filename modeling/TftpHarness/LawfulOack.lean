/-
**The OACK a server builds from a request.**

`negotiate_server_options` answers the options of a request in their order, each from its text
alone: it reads the text with `std::stoul`, casts the number to 32 bits and only then compares it
with the limits of RFC 2348, 2349 and 7440.  An OACK is lawful if its entries answer, in order,
options that were requested and are supported, each with the value the limits give for the number
that was *read*.  The cast comes before the limits, so a number of more than 32 bits is answered
for its low 32 bits.  Where those saturate like the number, or are declined, nothing shows; where
they lie inside the limits the OACK is unlawful, and no other entry can make up for it.

Main definitions:

* `TftpHarness.IsNearest`, `TftpHarness.Answers` — an entry that answers an option, for a reading
  of numbers;
* `TftpHarness.LawfulNegotiation` — a lawful OACK, and parameters that hold its last values;
* `TftpHarness.KnownOption.Misread` — the numbers that the cast brings inside the limits.

Main results:

* `TftpHarness.acceptedEntry_eq_some_iff` — the server answers for the low 32 bits;
* `TftpHarness.lawfulNegotiation_iff` — **the negotiation is lawful** exactly when no number of the
  request is misread.
-/

import Mathlib.Data.List.Forall2
import TftpHarness.OackSurvival

set_option relaxedAutoImplicit false
set_option autoImplicit false

namespace TftpHarness

/-! ### Answers in the order of the questions -/

section Sublist

variable {α β : Type*} {R : β → α → Prop}

/-- Filtering leaves answers in the order of what they answer. -/
theorem sublistForall₂_filterMap {f : α → Option β} {l : List α}
    (h : ∀ a ∈ l, ∀ b, f a = some b → R b a) : List.SublistForall₂ R (l.filterMap f) l := by
  induction l with
  | nil => exact .nil
  | cons a l ih =>
      have hrest := ih fun a' ha' => h a' (List.mem_cons_of_mem _ ha')
      rw [List.filterMap_cons]
      split
      · exact .cons_right hrest
      · next b hb => exact .cons (h a List.mem_cons_self b hb) hrest

/-- As many elements are answered as there are answers of a kind. -/
theorem countP_le_of_sublistForall₂ {p : β → Bool} {q : α → Bool} {answers : List β} {l : List α}
    (h : List.SublistForall₂ R answers l) (hpq : ∀ a ∈ l, ∀ b, R b a → p b = true → q a = true) :
    answers.countP p ≤ l.countP q := by
  induction h with
  | nil => exact Nat.zero_le _
  | @cons b a answers l hba _ ih =>
      have hrest := ih fun a' ha' => hpq a' (List.mem_cons_of_mem _ ha')
      have hhead := hpq a List.mem_cons_self b hba
      rw [List.countP_cons, List.countP_cons]
      split
      · next hb => rw [if_pos (hhead hb)]; omega
      · omega
  | cons_right _ ih =>
      have hrest := ih fun a' ha' => hpq a' (List.mem_cons_of_mem _ ha')
      rw [List.countP_cons]
      omega

/-- An answer that only its own elements can give answers all of them. -/
theorem rel_of_sublistForall₂_filterMap {f : α → Option β} {l : List α}
    (h : List.SublistForall₂ R (l.filterMap f) l) {a : α} {b : β} (ha : a ∈ l) (hb : f a = some b)
    (honly : ∀ a' ∈ l, R b a' → f a' = some b) : R b a := by
  classical
  by_contra hnot
  -- the answers equal to `b` outnumber the elements that `b` answers
  have hle : (l.filterMap f).countP (fun b' => b' = b) ≤
      l.countP fun a' => f a' = some b ∧ R b a' := by
    refine countP_le_of_sublistForall₂ h fun a' ha' b' hrel hb' => ?_
    obtain rfl := of_decide_eq_true hb'
    exact decide_eq_true ⟨honly a' ha' hrel, hrel⟩
  have hcount : (l.filterMap f).countP (fun b' => b' = b) = l.countP fun a' => f a' = some b := by
    rw [List.countP_filterMap]
    refine List.countP_congr fun a' _ => ?_
    cases f a' <;> simp
  have hsplit := List.countP_eq_countP_filter_add l (fun a' => decide (f a' = some b))
    (fun a' => decide (R b a'))
  have hpos : 0 < (l.filter fun a' => !decide (R b a')).countP fun a' => decide (f a' = some b) :=
    List.countP_pos_iff.2 ⟨a, List.mem_filter.2 ⟨ha, by simpa using hnot⟩, by simpa using hb⟩
  have hfilter : (l.filter fun a' => decide (R b a')).countP (fun a' => decide (f a' = some b)) =
      l.countP fun a' => decide (f a' = some b ∧ R b a') := by
    rw [List.countP_filter]
    exact List.countP_congr fun a' _ => by simp [and_comm]
  omega

end Sublist

/-! ### Answers to an option -/

/-- The name the engine writes for an option. -/
def KnownOption.name : KnownOption → Bytes
  | .blockSize => text "blksize"
  | .timeout => text "timeout"
  | .transferSize => text "tsize"
  | .windowSize => text "windowsize"

theorem KnownOption.name_injective : Function.Injective KnownOption.name := by
  intro known known' h
  cases known <;> cases known' <;> first | rfl | exact absurd h (by decide)

theorem toDecimal_injective : Function.Injective toDecimal := fun m n h => by
  rw [← digitsValue_toDecimal m, h, digitsValue_toDecimal]

/-- The option an entry names is known by its name, in any case. -/
theorem equalsIgnoreAsciiCase_name {option : TftpOption} {known : KnownOption}
    (h : namedOption option = some known) :
    equalsIgnoreAsciiCase option.name known.name = true := by
  unfold namedOption at h
  split at h
  · obtain rfl := Option.some.inj h; assumption
  split at h
  · obtain rfl := Option.some.inj h; assumption
  split at h
  · obtain rfl := Option.some.inj h; assumption
  split at h
  · obtain rfl := Option.some.inj h; assumption
  · cases h

/-- An entry names an option exactly when its name is that option's in any case. -/
theorem namedOption_eq_some_iff {option : TftpOption} {known : KnownOption} :
    namedOption option = some known ↔ equalsIgnoreAsciiCase option.name known.name = true := by
  refine ⟨equalsIgnoreAsciiCase_name, fun h => ?_⟩
  have hlower : option.name.map toLower = known.name.map toLower := by
    simpa [equalsIgnoreAsciiCase] using h
  simp only [namedOption, equalsIgnoreAsciiCase, hlower]
  cases known <;> decide

/-- Whether the configuration supports an option. -/
def EngineConfig.supports (config : EngineConfig) : KnownOption → Bool
  | .blockSize => config.supportBlockSizeOption
  | .timeout => config.supportTimeoutOption
  | .transferSize => config.supportTransferSizeOption
  | .windowSize => config.supportWindowSizeOption

/-- The number of a range that is nearest to a number. -/
def IsNearest (low high v a : ℕ) : Prop :=
  (low ≤ a ∧ a ≤ high) ∧
    ∀ b, low ≤ b → b ≤ high → ((v : ℤ) - a).natAbs ≤ ((v : ℤ) - b).natAbs

/-- `clamp_block_size` finds the nearest legal block size, and it is the only one. -/
theorem isNearest_iff (v a : ℕ) : IsNearest 8 65464 v a ↔ a = clampBlockSize v := by
  unfold IsNearest clampBlockSize
  constructor
  · rintro ⟨hrange, hnearest⟩
    have hclamp := hnearest (min (max v 8) 65464) (by omega) (by omega)
    omega
  · rintro rfl
    exact ⟨by omega, fun b _ _ => by omega⟩

/-- The text `answer` that the limits of an option give for the number that is read from `value`;
a transfer size is that of the file, or of an upload as it was declared. -/
def AnsweredWith (read : Bytes → Option ℕ) (actualFileSize : Option ℕ) (value answer : Bytes) :
    KnownOption → Prop
  | .blockSize => ∃ v a, read value = some v ∧ IsNearest 8 65464 v a ∧ answer = toDecimal a
  | .timeout => ∃ v, read value = some v ∧ (1 ≤ v ∧ v ≤ 255) ∧ answer = toDecimal v
  | .transferSize => match actualFileSize with
      | some size => answer = toDecimal size
      | none => (∃ size, stoull value = some size) ∧ answer = value
  | .windowSize => ∃ v, read value = some v ∧ 1 ≤ v ∧ answer = toDecimal (min v 65535)

/-- An entry that answers an option, by its name and by the limits of its value. -/
structure Answers (read : Bytes → Option ℕ) (actualFileSize : Option ℕ) (option entry : TftpOption)
    (known : KnownOption) : Prop where
  named : namedOption option = some known
  name_eq : entry.name = known.name
  value : AnsweredWith read actualFileSize option.value entry.value known

/-- The number that the server takes a text for, the low 32 bits of the number it reads. -/
def readNarrowed (text : Bytes) : Option ℕ := (stoul text).map u32

/-! ### What the server answers -/

section Negotiation

variable (config : EngineConfig) (actualFileSize : Option ℕ)

/-- The text and the value that the server accepts for an option with a text. -/
def acceptedValue (value : Bytes) : KnownOption → Option (Bytes × ℕ)
  | .blockSize =>
      (readNarrowed value).map fun v => (toDecimal (clampBlockSize v), clampBlockSize v)
  | .timeout => (readNarrowed value).bind fun v =>
      if v < 1 ∨ 255 < v then none else some (toDecimal v, v)
  | .transferSize => match actualFileSize with
      | some size => some (toDecimal size, size)
      | none => (stoull value).map fun v => (value, v)
  | .windowSize => (readNarrowed value).bind fun v =>
      if v < 1 then none else some (toDecimal (min v 65535), min v 65535)

/-- What the server accepts for an option. -/
def acceptedOption (option : TftpOption) : Option (KnownOption × Bytes × ℕ) :=
  (namedOption option).bind fun known =>
    if config.supports known then
      (acceptedValue actualFileSize option.value known).map fun accepted => (known, accepted)
    else none

/-- The entry that the server adds to the OACK for an option. -/
def acceptedEntry (option : TftpOption) : Option TftpOption :=
  (acceptedOption config actualFileSize option).map fun accepted =>
    ⟨accepted.1.name, accepted.2.1⟩

variable {config actualFileSize}

/-- An accepted block size, timeout or window fits the type of its parameter. -/
theorem cast_of_acceptedValue {value : Bytes} {known : KnownOption} {accepted : Bytes × ℕ}
    (h : acceptedValue actualFileSize value known = some accepted) :
    known.cast accepted.2 = accepted.2 := by
  cases known with
  | blockSize =>
      obtain ⟨v, -, rfl⟩ := Option.map_eq_some_iff.1 h
      exact u32_of_lt (lt_of_le_of_lt (clampBlockSize_le v) (by decide))
  | timeout =>
      obtain ⟨v, -, h⟩ := Option.bind_eq_some_iff.1 h
      split at h
      · cases h
      · next hrange =>
          obtain rfl := Option.some.inj h
          exact u32_of_lt (by dsimp only; omega)
  | transferSize => rfl
  | windowSize =>
      obtain ⟨v, -, h⟩ := Option.bind_eq_some_iff.1 h
      split at h
      · cases h
      · obtain rfl := Option.some.inj h
        exact u16_of_lt (by dsimp only; omega)

/-- An accepted text is read back as the accepted value. -/
theorem stoul_of_acceptedValue (hsize : ∀ size, actualFileSize = some size → size < 2 ^ 64)
    {value : Bytes} {known : KnownOption} {accepted : Bytes × ℕ}
    (h : acceptedValue actualFileSize value known = some accepted) :
    stoul accepted.1 = some accepted.2 := by
  cases known with
  | blockSize =>
      obtain ⟨v, -, rfl⟩ := Option.map_eq_some_iff.1 h
      exact stoul_toDecimal (lt_of_le_of_lt (clampBlockSize_le v) (by decide))
  | timeout =>
      obtain ⟨v, -, h⟩ := Option.bind_eq_some_iff.1 h
      split at h
      · cases h
      · next hrange =>
          obtain rfl := Option.some.inj h
          exact stoul_toDecimal (by omega)
  | transferSize =>
      cases actualFileSize with
      | some size =>
          obtain rfl := Option.some.inj h
          exact stoul_toDecimal (hsize size rfl)
      | none =>
          obtain ⟨v, hread, rfl⟩ := Option.map_eq_some_iff.1 h
          exact hread
  | windowSize =>
      obtain ⟨v, -, h⟩ := Option.bind_eq_some_iff.1 h
      split at h
      · cases h
      · obtain rfl := Option.some.inj h
        exact stoul_toDecimal (by omega)

/-- An option is accepted if it is supported and its text is accepted. -/
theorem acceptedOption_eq_some_iff {option : TftpOption} {known : KnownOption}
    {accepted : Bytes × ℕ} :
    acceptedOption config actualFileSize option = some (known, accepted) ↔
      namedOption option = some known ∧ config.supports known = true ∧
        acceptedValue actualFileSize option.value known = some accepted := by
  unfold acceptedOption
  constructor
  · intro h
    obtain ⟨known', hname, hif⟩ := Option.bind_eq_some_iff.1 h
    split at hif
    · next hsupports =>
        obtain ⟨accepted', hvalue, heq⟩ := Option.map_eq_some_iff.1 hif
        obtain ⟨rfl, rfl⟩ := Prod.mk.inj heq
        exact ⟨hname, hsupports, hvalue⟩
    · cases hif
  · rintro ⟨hname, hsupports, hvalue⟩
    rw [hname, Option.bind_some, if_pos hsupports, hvalue, Option.map_some]

/-- What the server makes of an option that names `known`: its branch, and no other, is taken. -/
theorem acceptOption_of_name {option : TftpOption} {known : KnownOption}
    (params : NegotiatedParameters) (hname : namedOption option = some known) :
    acceptOption config actualFileSize option params =
      if config.supports known = true then
        (acceptedValue actualFileSize option.value known).map fun accepted =>
          (⟨known.name, accepted.1⟩, params.adopt known accepted.2)
      else none := by
  have hclamp (v : ℕ) : u32 (clampBlockSize v) = clampBlockSize v :=
    u32_of_lt (lt_of_le_of_lt (clampBlockSize_le v) (by decide))
  have hlow (v : ℕ) : u32 (u32 v) = u32 v := Nat.mod_mod _ _
  have hmin (v : ℕ) : u16 (min v 65535) = min v 65535 := u16_of_lt (by omega)
  have hnames (known' : KnownOption) : equalsIgnoreAsciiCase option.name known'.name = true ↔
      known = known' := by
    rw [← namedOption_eq_some_iff, hname, Option.some.injEq]
  have hblk := hnames .blockSize
  have htmo := hnames .timeout
  have htsz := hnames .transferSize
  have hwin := hnames .windowSize
  simp only [KnownOption.name] at hblk htmo htsz hwin
  unfold acceptOption
  simp only [hblk, htmo, htsz, hwin]
  cases known with
  | blockSize =>
      by_cases hsupport : config.supportBlockSizeOption = true
      · cases hread : stoul option.value with
        | none => simp [EngineConfig.supports, acceptedValue, readNarrowed, hsupport, hread]
        | some v =>
            simp [EngineConfig.supports, acceptedValue, readNarrowed, hsupport, hread, hclamp,
              KnownOption.name, NegotiatedParameters.adopt]
      · simp [EngineConfig.supports, hsupport]
  | timeout =>
      by_cases hsupport : config.supportTimeoutOption = true
      · cases hread : stoul option.value with
        | none => simp [EngineConfig.supports, acceptedValue, readNarrowed, hsupport, hread]
        | some v =>
            simp only [EngineConfig.supports, acceptedValue, readNarrowed, hsupport, hread,
              KnownOption.name, NegotiatedParameters.adopt, reduceCtorEq, false_and, and_self,
              if_true, if_false, Option.map_some, Option.bind_some]
            by_cases hrange : u32 v < 1 ∨ 255 < u32 v
            · simp only [hrange, if_true, Option.map_none]
            · simp only [hrange, if_false, hlow, Option.map_some]
      · simp [EngineConfig.supports, hsupport]
  | transferSize =>
      by_cases hsupport : config.supportTransferSizeOption = true
      · cases actualFileSize with
        | some size =>
            simp [EngineConfig.supports, acceptedValue, hsupport, KnownOption.name,
              NegotiatedParameters.adopt]
        | none =>
            cases hread : stoull option.value <;>
              simp [EngineConfig.supports, acceptedValue, hsupport, hread, KnownOption.name,
                NegotiatedParameters.adopt]
      · simp [EngineConfig.supports, hsupport]
  | windowSize =>
      by_cases hsupport : config.supportWindowSizeOption = true
      · cases hread : stoul option.value with
        | none => simp [EngineConfig.supports, acceptedValue, readNarrowed, hsupport, hread]
        | some v =>
            simp only [EngineConfig.supports, acceptedValue, readNarrowed, hsupport, hread,
              KnownOption.name, NegotiatedParameters.adopt, reduceCtorEq, false_and, and_self,
              if_true, if_false, Option.map_some, Option.bind_some]
            by_cases hrange : u32 v < 1
            · simp only [hrange, if_true, Option.map_none]
            · simp only [hrange, if_false, hmin, Option.map_some]
      · simp [EngineConfig.supports, hsupport]

/-- **What the server makes of one option**, by the option it names. -/
theorem acceptOption_eq (option : TftpOption) (params : NegotiatedParameters) :
    acceptOption config actualFileSize option params =
      (acceptedOption config actualFileSize option).map fun accepted =>
        (⟨accepted.1.name, accepted.2.1⟩, params.adopt accepted.1 accepted.2.2) := by
  cases hname : namedOption option with
  | none =>
      have hnone (known : KnownOption) :
          equalsIgnoreAsciiCase option.name known.name ≠ true := by
        intro hequals
        rw [namedOption_eq_some_iff.2 hequals] at hname
        cases hname
      have hblk := hnone .blockSize
      have htmo := hnone .timeout
      have htsz := hnone .transferSize
      have hwin := hnone .windowSize
      simp only [KnownOption.name] at hblk htmo htsz hwin
      simp only [acceptOption, acceptedOption, hname, hblk, htmo, htsz, hwin, false_and, if_false,
        Option.bind_none, Option.map_none, Bool.false_eq_true]
  | some known =>
      rw [acceptOption_of_name params hname, acceptedOption, hname, Option.bind_some]
      split
      · rw [Option.map_map]
        rfl
      · rfl

/-- The OACK is what the server makes of each option by itself. -/
theorem negotiateOptions_fst (options : List TftpOption) (params : NegotiatedParameters) :
    (negotiateOptions config actualFileSize options params).1 =
      options.filterMap (acceptedEntry config actualFileSize) := by
  induction options generalizing params with
  | nil => rfl
  | cons option options ih =>
      unfold negotiateOptions acceptedEntry
      rw [List.filterMap_cons, acceptOption_eq]
      cases acceptedOption config actualFileSize option with
      | none => exact ih params
      | some accepted => exact congrArg _ (ih _)

/-- A number that is answered unless it is refused. -/
theorem answered_unless_iff {read : Option ℕ} {refused : ℕ → Prop} [DecidablePred refused]
    {used : ℕ → ℕ} {answer : Bytes} :
    (∃ n, (read.bind fun v => if refused v then none else some (toDecimal (used v), used v)) =
        some (answer, n)) ↔
      ∃ v, read = some v ∧ ¬ refused v ∧ answer = toDecimal (used v) := by
  constructor
  · rintro ⟨n, h⟩
    obtain ⟨v, hread, h⟩ := Option.bind_eq_some_iff.1 h
    split at h
    · cases h
    · next hrefused =>
        obtain ⟨rfl, -⟩ := Prod.mk.inj (Option.some.inj h)
        exact ⟨v, hread, hrefused, rfl⟩
  · rintro ⟨v, rfl, hrefused, rfl⟩
    exact ⟨used v, if_neg hrefused⟩

/-- The text that the server writes is the one the limits give for the low 32 bits. -/
theorem acceptedValue_iff (known : KnownOption) (value answer : Bytes) :
    (∃ n, acceptedValue actualFileSize value known = some (answer, n)) ↔
      AnsweredWith readNarrowed actualFileSize value answer known := by
  cases known with
  | blockSize => simp [acceptedValue, AnsweredWith, isNearest_iff, eq_comm]
  | timeout =>
      refine (@answered_unless_iff _ _ _ id _).trans (exists_congr fun v => ?_)
      exact and_congr_right fun _ => and_congr_left fun _ => by omega
  | transferSize => cases actualFileSize <;> simp [acceptedValue, AnsweredWith, eq_comm]
  | windowSize =>
      refine (@answered_unless_iff _ _ _ (min · 65535) _).trans (exists_congr fun v => ?_)
      exact and_congr_right fun _ => and_congr_left fun _ => Nat.not_lt

/-- **The server answers for the low 32 bits** of the number it reads. -/
theorem acceptedEntry_eq_some_iff {option entry : TftpOption} :
    acceptedEntry config actualFileSize option = some entry ↔
      ∃ known, config.supports known = true ∧
        Answers readNarrowed actualFileSize option entry known := by
  unfold acceptedEntry
  constructor
  · intro h
    obtain ⟨⟨known, answer, n⟩, haccepted, rfl⟩ := Option.map_eq_some_iff.1 h
    obtain ⟨hname, hsupports, hvalue⟩ := acceptedOption_eq_some_iff.1 haccepted
    exact ⟨known, hsupports, hname, rfl, (acceptedValue_iff _ _ _).1 ⟨n, hvalue⟩⟩
  · rintro ⟨known, hsupports, hname, hentry, hvalue⟩
    obtain ⟨n, hn⟩ := (acceptedValue_iff _ _ _).2 hvalue
    rw [acceptedOption_eq_some_iff.2 ⟨hname, hsupports, hn⟩, Option.map_some, ← hentry]

variable (config actualFileSize)

/-- An entry that may stand in an OACK as the answer to an option: of an option that is supported,
with the limits applied to the number that its text denotes. -/
def LawfulEntry (entry option : TftpOption) : Prop :=
  config.supportOptionNegotiation = true ∧ ∃ known, config.supports known = true ∧
    Answers stoul actualFileSize option entry known

/-- **A lawful negotiation**: each entry of the OACK answers an option of the request, in its
order, and the parameters hold the last value of each option in the OACK, the others being those
it started from. -/
structure LawfulNegotiation (options : List TftpOption) (params : NegotiatedParameters)
    (negotiated : List TftpOption × NegotiatedParameters) : Prop where
  answers : List.SublistForall₂ (LawfulEntry config actualFileSize) negotiated.1 options
  values : ∀ known, negotiated.2.valueOf known =
    (lastText known negotiated.1).elim (params.valueOf known) stoul

/-- A number of more than 32 bits whose low 32 bits lie inside the limits of an option. -/
def KnownOption.Misread : KnownOption → ℕ → Prop
  | .blockSize, v => 2 ^ 32 ≤ v ∧ v % 2 ^ 32 < 65464
  | .timeout, v => 2 ^ 32 ≤ v ∧ 1 ≤ v % 2 ^ 32 ∧ v % 2 ^ 32 ≤ 255
  | .transferSize, _ => False
  | .windowSize, v => 2 ^ 32 ≤ v ∧ 1 ≤ v % 2 ^ 32 ∧ v % 2 ^ 32 < 65535

instance (known : KnownOption) (v : ℕ) : Decidable (known.Misread v) :=
  match known with
  | .blockSize => inferInstanceAs (Decidable (_ ∧ _))
  | .timeout => inferInstanceAs (Decidable (_ ∧ _ ∧ _))
  | .transferSize => inferInstanceAs (Decidable False)
  | .windowSize => inferInstanceAs (Decidable (_ ∧ _ ∧ _))

/-- A request in which no number of a supported option is misread. -/
def ReadsEveryNumber (options : List TftpOption) : Prop :=
  ∀ option ∈ options, ∀ known ∈ namedOption option, config.supports known = true →
    ∀ v ∈ stoul option.value, ¬ known.Misread v

variable {config actualFileSize}

/-- A number that is not misread gets the answer that its low 32 bits get. -/
theorem answeredWith_stoul_of_narrowed {known : KnownOption} {value answer : Bytes}
    (hfit : ∀ v, stoul value = some v → ¬ known.Misread v)
    (h : AnsweredWith readNarrowed actualFileSize value answer known) :
    AnsweredWith stoul actualFileSize value answer known := by
  have hread {v : ℕ} (hv : readNarrowed value = some v) :
      ∃ v', stoul value = some v' ∧ v = v' % 2 ^ 32 := by
    obtain ⟨v', hv', rfl⟩ := Option.map_eq_some_iff.1 hv
    exact ⟨v', hv', rfl⟩
  cases known with
  | blockSize =>
      obtain ⟨v, a, hv, hnearest, rfl⟩ := h
      obtain ⟨v', hv', rfl⟩ := hread hv
      have hnot := hfit v' hv'
      rw [isNearest_iff] at hnearest
      simp only [KnownOption.Misread] at hnot
      refine ⟨v', a, hv', (isNearest_iff _ _).2 ?_, rfl⟩
      unfold clampBlockSize at hnearest ⊢
      omega
  | timeout =>
      obtain ⟨v, hv, hrange, rfl⟩ := h
      obtain ⟨v', hv', rfl⟩ := hread hv
      have hnot := hfit v' hv'
      simp only [KnownOption.Misread] at hnot
      have heq : v' % 2 ^ 32 = v' := by omega
      exact ⟨v', hv', by omega, by rw [heq]⟩
  | transferSize => exact h
  | windowSize =>
      obtain ⟨v, hv, hpos, rfl⟩ := h
      obtain ⟨v', hv', rfl⟩ := hread hv
      have hnot := hfit v' hv'
      simp only [KnownOption.Misread] at hnot
      have heq : min (v' % 2 ^ 32) 65535 = min v' 65535 := by omega
      exact ⟨v', hv', by omega, by rw [heq]⟩

/-- A number of 32 bits is read as it is. -/
theorem answeredWith_narrowed_of_lt {known : KnownOption} {value answer : Bytes} {v : ℕ}
    (hv : stoul value = some v) (hlt : v < 2 ^ 32)
    (h : AnsweredWith stoul actualFileSize value answer known) :
    AnsweredWith readNarrowed actualFileSize value answer known := by
  have hread : readNarrowed value = stoul value := by
    rw [readNarrowed, hv, Option.map_some, u32_of_lt hlt]
  cases known <;> simpa only [AnsweredWith, hread] using h

/-- **A misread number shows in the OACK**: no number of more than 32 bits has that answer. -/
theorem exists_entry_of_misread {known : KnownOption} {option : TftpOption} {v : ℕ}
    (hname : namedOption option = some known) (hv : stoul option.value = some v)
    (hmisread : known.Misread v) :
    ∃ entry, Answers readNarrowed actualFileSize option entry known ∧
      ∀ value known', entry.name = known'.name →
        AnsweredWith stoul actualFileSize value entry.value known' →
        ∃ v', stoul value = some v' ∧ v' < 2 ^ 32 := by
  have hnarrowed : readNarrowed option.value = some (v % 2 ^ 32) := by
    rw [readNarrowed, hv]
    rfl
  cases known with
  | blockSize =>
      refine ⟨⟨text "blksize", toDecimal (clampBlockSize (v % 2 ^ 32))⟩,
        ⟨hname, rfl, _, _, hnarrowed, (isNearest_iff _ _).2 rfl, rfl⟩,
        fun value known' hsame hanswer => ?_⟩
      obtain rfl : .blockSize = known' := KnownOption.name_injective hsame
      obtain ⟨v', a, hv', hnearest, ha⟩ := hanswer
      have ha := toDecimal_injective ha
      rw [isNearest_iff] at hnearest
      simp only [KnownOption.Misread] at hmisread
      unfold clampBlockSize at hnearest ha
      exact ⟨v', hv', by omega⟩
  | timeout =>
      simp only [KnownOption.Misread] at hmisread
      refine ⟨⟨text "timeout", toDecimal (v % 2 ^ 32)⟩, ⟨hname, rfl, _, hnarrowed, by omega, rfl⟩,
        fun value known' hsame hanswer => ?_⟩
      obtain rfl : .timeout = known' := KnownOption.name_injective hsame
      obtain ⟨v', hv', hrange, -⟩ := hanswer
      exact ⟨v', hv', by omega⟩
  | transferSize => exact hmisread.elim
  | windowSize =>
      simp only [KnownOption.Misread] at hmisread
      refine ⟨⟨text "windowsize", toDecimal (min (v % 2 ^ 32) 65535)⟩,
        ⟨hname, rfl, _, hnarrowed, by omega, rfl⟩, fun value known' hsame hanswer => ?_⟩
      obtain rfl : .windowSize = known' := KnownOption.name_injective hsame
      obtain ⟨v', hv', -, ha⟩ := hanswer
      have ha := toDecimal_injective ha
      exact ⟨v', hv', by omega⟩

/-- **The parameters hold the last values of the OACK.** -/
theorem valueOf_negotiateOptions (hsize : ∀ size, actualFileSize = some size → size < 2 ^ 64)
    (options : List TftpOption) (params : NegotiatedParameters) (known : KnownOption) :
    (negotiateOptions config actualFileSize options params).2.valueOf known =
      (lastText known (negotiateOptions config actualFileSize options params).1).elim
        (params.valueOf known) stoul := by
  induction options generalizing params with
  | nil => rfl
  | cons option options ih =>
      unfold negotiateOptions
      rw [acceptOption_eq]
      cases haccepted : acceptedOption config actualFileSize option with
      | none => exact ih params
      | some accepted =>
          obtain ⟨known', answer, n⟩ := accepted
          obtain ⟨-, -, hvalue⟩ := acceptedOption_eq_some_iff.1 haccepted
          have hentry : namedOption ⟨known'.name, answer⟩ = some known' :=
            namedOption_eq_some_iff.2 (equalsIgnoreAsciiCase_self _)
          simp only [Option.map_some]
          rw [ih, lastText_cons, hentry, valueOf_adopt]
          cases lastText known
              (negotiateOptions config actualFileSize options (params.adopt known' n)).1 with
          | some last => rfl
          | none =>
              rw [Option.none_or, Option.elim_none]
              split
              · next heq =>
                  rw [if_pos (congrArg some heq.symm), Option.elim_some,
                    stoul_of_acceptedValue hsize hvalue, cast_of_acceptedValue hvalue]
              · next hne =>
                  rw [if_neg fun heq => hne (Option.some.inj heq).symm, Option.elim_none]

/-- **The negotiation of a server is lawful** exactly when option negotiation is off or no number
of the request is misread. -/
theorem lawfulNegotiation_iff (hsize : ∀ size, actualFileSize = some size → size < 2 ^ 64)
    (request : TftpPacket) (params : NegotiatedParameters) :
    LawfulNegotiation config actualFileSize request.options params
        (negotiateServerOptions request config actualFileSize params) ↔
      (config.supportOptionNegotiation = true → ReadsEveryNumber config request.options) := by
  unfold negotiateServerOptions
  by_cases hon : config.supportOptionNegotiation = true
  swap
  · rw [if_pos hon]
    exact iff_of_true ⟨.nil, fun known => rfl⟩ fun h => absurd h hon
  rw [if_neg (not_not_intro hon)]
  constructor
  · rintro ⟨hanswers, -⟩ - option hoption known hname hsupports v hv hmisread
    rw [negotiateOptions_fst] at hanswers
    obtain ⟨entry, hentry, honly⟩ := exists_entry_of_misread hname hv hmisread
    -- only this option's own number could be answered so, and it is too large
    have hlawful := rel_of_sublistForall₂_filterMap hanswers hoption
      (acceptedEntry_eq_some_iff.2 ⟨known, hsupports, hentry⟩) fun option' _ hlawful' => by
        obtain ⟨-, known', hsupports', hname', hsame, hanswer⟩ := hlawful'
        obtain ⟨v', hv', hlt⟩ := honly _ known' hsame hanswer
        exact acceptedEntry_eq_some_iff.2
          ⟨known', hsupports', hname', hsame, answeredWith_narrowed_of_lt hv' hlt hanswer⟩
    obtain ⟨-, known', -, -, hsame, hanswer⟩ := hlawful
    obtain ⟨v', hv', hlt⟩ := honly _ known' hsame hanswer
    obtain rfl := Option.some.inj (hv.symm.trans hv')
    cases known <;> simp only [KnownOption.Misread] at hmisread <;> omega
  · intro hreads
    refine ⟨?_, valueOf_negotiateOptions hsize _ _⟩
    rw [negotiateOptions_fst]
    refine sublistForall₂_filterMap fun option hoption entry hentry => ?_
    obtain ⟨known, hsupports, hname, hsame, hanswer⟩ := acceptedEntry_eq_some_iff.1 hentry
    exact ⟨hon, known, hsupports, hname, hsame, answeredWith_stoul_of_narrowed
      (hreads hon option hoption known hname hsupports) hanswer⟩

end Negotiation

/-- A read request with a block size in capitals, a negative window, a size and an option that the
engine does not know. -/
def lawfulRequest : TftpPacket :=
  { opcode := .readRequest, filename := text "f", mode := text "octet",
    options := [⟨text "BLKSIZE", text " 70000 "⟩, ⟨text "windowsize", text "-1"⟩,
      ⟨text "tsize", text "0"⟩, ⟨text "multicast", []⟩] }

/-- The block size and the window are answered with their limits. -/
theorem lawfulRequest_negotiated :
    (negotiateServerOptions lawfulRequest {} (some 5) {}).1 =
        [⟨text "blksize", text "65464"⟩, ⟨text "windowsize", text "65535"⟩,
          ⟨text "tsize", text "5"⟩] ∧
      LawfulNegotiation {} (some 5) lawfulRequest.options {}
        (negotiateServerOptions lawfulRequest {} (some 5) {}) := by
  refine ⟨by decide, (lawfulNegotiation_iff (by simp) lawfulRequest {}).2 fun _ => ?_⟩
  unfold ReadsEveryNumber
  decide

/-- A read request for a timeout of `2 ^ 32 + 1` seconds. -/
def hugeTimeoutRequest : TftpPacket :=
  { opcode := .readRequest, filename := text "f", mode := text "octet",
    options := [⟨text "timeout", text "4294967297"⟩] }

/-- The server accepts it as a timeout of one second. -/
theorem hugeTimeoutRequest_negotiated :
    negotiateServerOptions hugeTimeoutRequest {} (some 0) {} =
        ([⟨text "timeout", text "1"⟩], { timeoutSeconds := some 1 }) ∧
      ¬ LawfulNegotiation {} (some 0) hugeTimeoutRequest.options {}
        (negotiateServerOptions hugeTimeoutRequest {} (some 0) {}) := by
  have hnegotiated : negotiateServerOptions hugeTimeoutRequest {} (some 0) {} =
      ([⟨text "timeout", text "1"⟩], { timeoutSeconds := some 1 }) := by decide
  refine ⟨hnegotiated, ?_⟩
  rintro ⟨hanswers, -⟩
  rw [hnegotiated] at hanswers
  cases hanswers with
  | cons_right hnone => cases hnone
  | cons hlawful _ =>
      obtain ⟨-, known, -, -, hsame, hanswer⟩ := hlawful
      obtain rfl : .timeout = known := KnownOption.name_injective hsame
      obtain ⟨v, hv, hrange, -⟩ := hanswer
      have hread : stoul (text "4294967297") = some 4294967297 := by decide
      obtain rfl := Option.some.inj (hread.symm.trans hv)
      omega

end TftpHarness
