/-
**The client and the OACK it is sent.**

`apply_oack_to_client` rejects an option that was not requested and converts the value of one that
was, with `std::stoul` and a cast, into a divisor, a loop bound or a size.  It looks at no value.
`std::stoul` throws at a text without digits and reads any other up to its first non-digit, so what
becomes of an OACK is decided by its texts.

Main definitions:

* `TftpHarness.KnownOption`, `TftpHarness.namedOption`, `TftpHarness.lastText` — the four options,
  the one an entry names, and the text an option is last given;
* `TftpHarness.OackSurvived` — the client ends up with sound parameters, or rejects with ERROR 8;
* `TftpHarness.RefusesOack`, `TftpHarness.SoundTexts` — the two kinds of OACK it survives.

Main results:

* `TftpHarness.applyOackToClient_cases` — what becomes of an OACK, read off its texts;
* `TftpHarness.valueOf_applyOackToClient` — the last value of an option is the one adopted;
* `TftpHarness.oackSurvived_iff` — **the OACKs the client survives**;
* `TftpHarness.oack_not_survived` — a block size of zero is adopted, and a value without digits
  throws.
-/

import TftpHarness.Client

set_option relaxedAutoImplicit false
set_option autoImplicit false

namespace TftpHarness

/-! ### The options of an OACK -/

/-- The options the engine knows. -/
inductive KnownOption
  | blockSize
  | timeout
  | transferSize
  | windowSize
  deriving DecidableEq, Repr

/-- The option an entry names. -/
def namedOption (option : TftpOption) : Option KnownOption :=
  if equalsIgnoreAsciiCase option.name (text "blksize") then some .blockSize
  else if equalsIgnoreAsciiCase option.name (text "timeout") then some .timeout
  else if equalsIgnoreAsciiCase option.name (text "tsize") then some .transferSize
  else if equalsIgnoreAsciiCase option.name (text "windowsize") then some .windowSize
  else none

/-- What the client requested for an option. -/
def ClientRequestedOptions.value (requested : ClientRequestedOptions) : KnownOption → Option ℕ
  | .blockSize => requested.blockSize
  | .timeout => requested.timeoutSeconds
  | .transferSize => requested.transferSize
  | .windowSize => requested.windowSize

/-- The cast of a converted value to the type of its parameter. -/
def KnownOption.cast : KnownOption → ℕ → ℕ
  | .blockSize, value => u32 value
  | .timeout, value => u32 value
  | .transferSize, value => value
  | .windowSize, value => u16 value

/-- The value in force for an option. -/
def NegotiatedParameters.valueOf (params : NegotiatedParameters) : KnownOption → Option ℕ
  | .blockSize => some params.blockSize
  | .timeout => params.timeoutSeconds
  | .transferSize => params.transferSize
  | .windowSize => some params.windowSize

/-- The assignment of a converted value. -/
def NegotiatedParameters.adopt (params : NegotiatedParameters) (known : KnownOption) (value : ℕ) :
    NegotiatedParameters :=
  match known with
  | .blockSize => { params with blockSize := u32 value }
  | .timeout => { params with timeoutSeconds := some (u32 value) }
  | .transferSize => { params with transferSize := some value }
  | .windowSize => { params with windowSize := u16 value }

theorem valueOf_adopt (params : NegotiatedParameters) (known known' : KnownOption) (value : ℕ) :
    (params.adopt known value).valueOf known' =
      if known' = known then some (known.cast value) else params.valueOf known' := by
  cases known <;> cases known' <;> rfl

/-- The last text an OACK gives for an option. -/
def lastText (known : KnownOption) (options : List TftpOption) : Option Bytes :=
  (options.filterMap fun option =>
    if namedOption option = some known then some option.value else none).getLast?

/-- The last text for an option is in the rest of the OACK, or its first entry. -/
theorem lastText_cons (known : KnownOption) (option : TftpOption) (options : List TftpOption) :
    lastText known (option :: options) = (lastText known options).or
      (if namedOption option = some known then some option.value else none) := by
  unfold lastText
  rw [List.filterMap_cons]
  split
  · next hnone => rw [hnone, Option.or_none]
  · next value hsome =>
      rw [hsome, List.getLast?_cons]
      cases (options.filterMap fun option =>
        if namedOption option = some known then some option.value else none).getLast? <;> rfl

/-! ### What becomes of an OACK -/

section Apply

variable (requested : ClientRequestedOptions)

/-- An entry that is adopted: requested, with a text that converts. -/
def Adopts (option : TftpOption) : Prop :=
  ∃ known, namedOption option = some known ∧ (requested.value known).isSome = true ∧
    (stoul option.value).isSome = true

/-- An entry that was not requested. -/
def Unrequested (option : TftpOption) : Prop :=
  ∀ known, namedOption option = some known → requested.value known = none

/-- What one entry makes of the rest of an OACK. -/
inductive EntryOutcome (option : TftpOption) (options : List TftpOption)
    (params : NegotiatedParameters) : Except OackFailure NegotiatedParameters → Prop
  | adopted {known : KnownOption} {value : ℕ} (hname : namedOption option = some known)
      (hrequested : (requested.value known).isSome = true)
      (hvalue : stoul option.value = some value) :
      EntryOutcome option options params
        (applyOackToClient requested options (params.adopt known value))
  | threw {known : KnownOption} (hname : namedOption option = some known)
      (hrequested : (requested.value known).isSome = true) (hvalue : stoul option.value = none) :
      EntryOutcome option options params (.error .threw)
  | rejected (hunrequested : Unrequested requested option) (reason : Bytes) :
      EntryOutcome option options params (.error (.rejected reason))

variable {requested}

/-- An entry with a known name. -/
theorem entryOutcome_applyOption (known : KnownOption) {option : TftpOption}
    (hname : namedOption option = some known) (name : Bytes) (options : List TftpOption)
    (params : NegotiatedParameters) :
    EntryOutcome requested option options params
      (match applyOption name (requested.value known).isSome (stoul option.value)
          (params.adopt known) with
        | .error failure => .error failure
        | .ok params => applyOackToClient requested options params) := by
  cases hreq : requested.value known with
  | none =>
      refine .rejected (fun known' hname' => ?_) (text "server OACKed unrequested " ++ name)
      obtain rfl := Option.some.inj (hname.symm.trans hname')
      exact hreq
  | some wanted =>
      have hsome : (requested.value known).isSome = true := by rw [hreq]; rfl
      cases hvalue : stoul option.value with
      | none => exact .threw hname hsome hvalue
      | some value => exact .adopted hname hsome hvalue

/-- **One entry of an OACK** is adopted, throws or is rejected. -/
theorem applyOackToClient_cons (option : TftpOption) (options : List TftpOption)
    (params : NegotiatedParameters) :
    EntryOutcome requested option options params
      (applyOackToClient requested (option :: options) params) := by
  unfold applyOackToClient
  -- the four names in the order of the source
  by_cases hblk : equalsIgnoreAsciiCase option.name (text "blksize") = true
  · rw [if_pos hblk]
    exact entryOutcome_applyOption .blockSize (by simp [namedOption, hblk]) _ _ _
  by_cases htmo : equalsIgnoreAsciiCase option.name (text "timeout") = true
  · rw [if_neg hblk, if_pos htmo]
    exact entryOutcome_applyOption .timeout (by simp [namedOption, hblk, htmo]) _ _ _
  by_cases htsz : equalsIgnoreAsciiCase option.name (text "tsize") = true
  · rw [if_neg hblk, if_neg htmo, if_pos htsz]
    exact entryOutcome_applyOption .transferSize
      (by simp [namedOption, hblk, htmo, htsz]) _ _ _
  by_cases hwin : equalsIgnoreAsciiCase option.name (text "windowsize") = true
  · rw [if_neg hblk, if_neg htmo, if_neg htsz, if_pos hwin]
    exact entryOutcome_applyOption .windowSize
      (by simp [namedOption, hblk, htmo, htsz, hwin]) _ _ _
  · rw [if_neg hblk, if_neg htmo, if_neg htsz, if_neg hwin]
    refine .rejected (fun known hname => ?_) _
    simp [namedOption, hblk, htmo, htsz, hwin] at hname

variable (requested) in
/-- An OACK whose first entry that is not adopted was not requested. -/
def RefusesOack (options : List TftpOption) : Prop :=
  ∃ before option after, options = before ++ option :: after ∧
    (∀ o ∈ before, Adopts requested o) ∧ Unrequested requested option

theorem adopts_of_named {option : TftpOption} {known : KnownOption} {value : ℕ}
    (hname : namedOption option = some known) (hrequested : (requested.value known).isSome = true)
    (hvalue : stoul option.value = some value) : Adopts requested option :=
  ⟨known, hname, hrequested, by rw [hvalue]; rfl⟩

/-- An entry that was not requested is not adopted. -/
theorem not_adopts_of_unrequested {option : TftpOption} (h : Unrequested requested option) :
    ¬ Adopts requested option := by
  rintro ⟨known, hname, hrequested, -⟩
  rw [h known hname] at hrequested
  cases hrequested

/-- An OACK is refused at its first entry, or at a later one if the first is adopted. -/
theorem refusesOack_cons {option : TftpOption} {options : List TftpOption} :
    RefusesOack requested (option :: options) ↔
      Unrequested requested option ∨ Adopts requested option ∧ RefusesOack requested options := by
  constructor
  · rintro ⟨before, refused, after, heq, hbefore, hrefused⟩
    cases before with
    | nil =>
        obtain ⟨rfl, -⟩ := List.cons.inj heq
        exact Or.inl hrefused
    | cons first before =>
        obtain ⟨rfl, rfl⟩ := List.cons.inj heq
        exact Or.inr ⟨hbefore _ List.mem_cons_self, before, refused, after, rfl,
          fun o ho => hbefore o (List.mem_cons_of_mem _ ho), hrefused⟩
  · rintro (hrefused | ⟨hadopts, before, refused, after, rfl, hbefore, hrefused⟩)
    · exact ⟨[], option, options, rfl, fun o ho => absurd ho List.not_mem_nil, hrefused⟩
    · exact ⟨option :: before, refused, after, rfl, List.forall_mem_cons.2 ⟨hadopts, hbefore⟩,
        hrefused⟩

/-- **What becomes of an OACK**: all of its entries are adopted, each option with its last text, or
it is rejected, or it throws. -/
theorem applyOackToClient_cases (options : List TftpOption) (params : NegotiatedParameters) :
    ((∀ o ∈ options, Adopts requested o) ∧ ∃ params',
      applyOackToClient requested options params = .ok params' ∧ ∀ known,
        params'.valueOf known = (lastText known options).elim (params.valueOf known)
          fun value => (stoul value).map known.cast) ∨
    (RefusesOack requested options ∧ ∃ reason,
      applyOackToClient requested options params = .error (.rejected reason)) ∨
    (¬ (∀ o ∈ options, Adopts requested o) ∧ ¬ RefusesOack requested options ∧
      applyOackToClient requested options params = .error .threw) := by
  induction options generalizing params with
  | nil => exact Or.inl ⟨fun o ho => absurd ho List.not_mem_nil, params, rfl, fun known => rfl⟩
  | cons option options ih =>
      rw [refusesOack_cons, List.forall_mem_cons]
      have hentry := @applyOackToClient_cons requested option options params
      generalize applyOackToClient requested (option :: options) params = result at hentry ⊢
      cases hentry with
      | adopted hname hrequested hvalue =>
          have hadopts := adopts_of_named hname hrequested hvalue
          rcases ih (params.adopt _ _) with ⟨hall, params', hok, hvalues⟩ | ⟨hrefuses, hreject⟩ |
            ⟨hnotall, hnotrefuses, hthrew⟩
          · refine Or.inl ⟨⟨hadopts, hall⟩, params', hok, fun known => ?_⟩
            rw [hvalues known, lastText_cons, valueOf_adopt, hname]
            cases lastText known options with
            | some value => rfl
            | none =>
                simp only [Option.none_or, Option.elim_none, Option.some.injEq]
                split
                · next heq => rw [if_pos heq.symm, heq, Option.elim_some, hvalue, Option.map_some]
                · next hne => rw [if_neg (Ne.symm hne), Option.elim_none]
          · exact Or.inr (Or.inl ⟨Or.inr ⟨hadopts, hrefuses⟩, hreject⟩)
          · refine Or.inr (Or.inr ⟨fun h => hnotall h.2, ?_, hthrew⟩)
            rintro (hunrequested | ⟨-, hrefuses⟩)
            · exact not_adopts_of_unrequested hunrequested hadopts
            · exact hnotrefuses hrefuses
      | @threw known hname hrequested hvalue =>
          have hnot : ¬ Adopts requested option := by
            rintro ⟨-, -, -, hconverts⟩
            rw [hvalue] at hconverts
            cases hconverts
          refine Or.inr (Or.inr ⟨fun h => hnot h.1, ?_, rfl⟩)
          rintro (hunrequested | ⟨hadopts, -⟩)
          · rw [hunrequested known hname] at hrequested
            cases hrequested
          · exact hnot hadopts
      | rejected hunrequested reason =>
          exact Or.inr (Or.inl ⟨Or.inl hunrequested, reason, rfl⟩)

end Apply

/-! ### Surviving an OACK -/

section Survival

/-- **Sound parameters** after an OACK: in range, within the request, and each one the number that
its text denotes. -/
structure SoundParameters (requested : ClientRequestedOptions) (options : List TftpOption)
    (params : NegotiatedParameters) : Prop where
  blockSize_range : 8 ≤ params.blockSize ∧ params.blockSize ≤ 65464
  windowSize_range : 1 ≤ params.windowSize ∧ params.windowSize ≤ 65535
  blockSize_le : ∀ value wanted, lastText .blockSize options = some value →
    requested.blockSize = some wanted → 8 ≤ wanted → params.blockSize ≤ wanted
  windowSize_le : ∀ value wanted, lastText .windowSize options = some value →
    requested.windowSize = some wanted → params.windowSize ≤ wanted
  denoted : ∀ known value, lastText known options = some value →
    ∃ n, Denotes value n ∧ params.valueOf known = some n

/-- Either call, when its first reply is an OACK with the options, ends with ERROR 8 and the
reason, without a data plane. -/
structure EndsWithError8 (requested : ClientRequestedOptions) (config : EngineConfig)
    (options : List TftpOption) (reason : Bytes) : Prop where
  readFile : ∀ (call : ClientCall) (file : DestinationFile) (destination : Option Bytes)
    (sender : Endpoint) (packet : TftpPacket), call.options = requested → call.config = config →
    packet.opcode = .optionAcknowledgement → packet.options = options →
    readFileReply call file destination sender packet =
      (⟨.refused { errorCode := some ⟨8⟩, errorMessage := reason }, destination⟩,
        [(sender, serializeError ⟨8⟩ reason)])
  writeFile : ∀ (call : ClientCall) (payload : Bytes) (sender : Endpoint) (packet : TftpPacket),
    effectiveOptions call payload = requested → call.config = config →
    packet.opcode = .optionAcknowledgement → packet.options = options →
    writeFileReply call payload sender packet =
      (.refused { errorCode := some ⟨8⟩, errorMessage := reason },
        [(sender, serializeError ⟨8⟩ reason)])

variable (requested : ClientRequestedOptions) (config : EngineConfig) (options : List TftpOption)

/-- **The client survives an OACK**: it comes out of it with sound parameters, or rejects it and
ends with ERROR 8. -/
def OackSurvived : Prop :=
  (∃ params, applyOackToClient requested options (defaultParameters config) = .ok params ∧
    SoundParameters requested options params) ∨
  ∃ reason, applyOackToClient requested options (defaultParameters config) =
    .error (.rejected reason) ∧ EndsWithError8 requested config options reason

/-- The numbers that an option may be given. -/
def KnownOption.Fits : KnownOption → ℕ → Prop
  | .blockSize, n => 8 ≤ n ∧ n ≤ 65464 ∧
      ∀ wanted, requested.blockSize = some wanted → 8 ≤ wanted → n ≤ wanted
  | .timeout, n => n < 2 ^ 32
  | .transferSize, n => n < 2 ^ 64
  | .windowSize, n => 1 ≤ n ∧ n ≤ 65535 ∧ ∀ wanted, requested.windowSize = some wanted → n ≤ wanted

/-- An OACK of adopted entries in which the last text of each option is a numeral in its range. -/
structure SoundTexts : Prop where
  adopts : ∀ option ∈ options, Adopts requested option
  texts : ∀ known value, lastText known options = some value →
    ∃ n, Denotes value n ∧ known.Fits requested n
  /-- Without a block size the default is in force. -/
  default : lastText .blockSize options = none →
    8 ≤ config.defaultBlockSize ∧ config.defaultBlockSize ≤ 65464

variable {requested config options}

/-- A number that an option may be given survives its conversion and its cast. -/
theorem cast_of_fits {known : KnownOption} {n : ℕ} (h : known.Fits requested n) :
    n < 2 ^ 64 ∧ known.cast n = n := by
  cases known with
  | blockSize =>
      have hle : n ≤ 65464 := h.2.1
      exact ⟨by omega, u32_of_lt (by omega)⟩
  | timeout =>
      have hlt : n < 2 ^ 32 := h
      exact ⟨by omega, u32_of_lt hlt⟩
  | transferSize => exact ⟨h, rfl⟩
  | windowSize =>
      have hle : n ≤ 65535 := h.2.1
      exact ⟨by omega, u16_of_lt (by omega)⟩

/-- A rejected OACK ends the call. -/
theorem endsWithError8 {reason : Bytes}
    (h : applyOackToClient requested options (defaultParameters config) =
      .error (.rejected reason)) : EndsWithError8 requested config options reason := by
  refine ⟨?_, ?_⟩
  · rintro call file destination sender packet rfl rfl hopcode rfl
    simp only [readFileReply, hopcode, h]
    rfl
  · rintro call payload sender packet rfl rfl hopcode rfl
    simp only [writeFileReply, hopcode, h]
    rfl

section Accepted

variable {params : NegotiatedParameters}
  (hvalues : ∀ known, params.valueOf known = (lastText known options).elim
    ((defaultParameters config).valueOf known) fun value => (stoul value).map known.cast)
include hvalues

/-- Sound texts give sound parameters. -/
theorem soundParameters_of_texts (h : SoundTexts requested config options) :
    SoundParameters requested options params := by
  have hlast : ∀ known value, lastText known options = some value → ∃ n, Denotes value n ∧
      known.Fits requested n ∧ params.valueOf known = some n := by
    intro known value hvalue
    obtain ⟨n, hn, hfits⟩ := h.texts known value hvalue
    obtain ⟨hlt, hcast⟩ := cast_of_fits hfits
    refine ⟨n, hn, hfits, ?_⟩
    rw [hvalues known, hvalue, Option.elim_some, stoul_of_denotes hn, if_neg (by omega),
      Option.map_some, hcast]
  have hblock : ∀ value, lastText .blockSize options = some value →
      KnownOption.blockSize.Fits requested params.blockSize := by
    intro value hvalue
    obtain ⟨n, -, hfits, heq⟩ := hlast .blockSize value hvalue
    obtain rfl : params.blockSize = n := Option.some.inj heq
    exact hfits
  have hwindow : ∀ value, lastText .windowSize options = some value →
      KnownOption.windowSize.Fits requested params.windowSize := by
    intro value hvalue
    obtain ⟨n, -, hfits, heq⟩ := hlast .windowSize value hvalue
    obtain rfl : params.windowSize = n := Option.some.inj heq
    exact hfits
  refine ⟨?_, ?_, fun value wanted hvalue => (hblock value hvalue).2.2 wanted,
    fun value wanted hvalue => (hwindow value hvalue).2.2 wanted, ?_⟩
  · cases hvalue : lastText .blockSize options with
    | some value => exact ⟨(hblock value hvalue).1, (hblock value hvalue).2.1⟩
    | none =>
        have heq := hvalues .blockSize
        rw [hvalue, Option.elim_none] at heq
        have hdefault : params.blockSize = config.defaultBlockSize := Option.some.inj heq
        rw [hdefault]
        exact h.default hvalue
  · cases hvalue : lastText .windowSize options with
    | some value => exact ⟨(hwindow value hvalue).1, (hwindow value hvalue).2.1⟩
    | none =>
        have heq := hvalues .windowSize
        rw [hvalue, Option.elim_none] at heq
        have hdefault : params.windowSize = 1 := Option.some.inj heq
        omega
  · intro known value hvalue
    obtain ⟨n, hn, -, heq⟩ := hlast known value hvalue
    exact ⟨n, hn, heq⟩

/-- Sound parameters come from sound texts. -/
theorem soundTexts_of_parameters (hall : ∀ option ∈ options, Adopts requested option)
    (h : SoundParameters requested options params) : SoundTexts requested config options := by
  refine ⟨hall, ?_, ?_⟩
  · intro known value hvalue
    obtain ⟨n, hn, heq⟩ := h.denoted known value hvalue
    have hread := hvalues known
    rw [heq, hvalue, Option.elim_some, stoul_of_denotes hn] at hread
    refine ⟨n, hn, ?_⟩
    cases known with
    | blockSize =>
        obtain rfl : params.blockSize = n := Option.some.inj heq
        exact ⟨h.blockSize_range.1, h.blockSize_range.2,
          fun wanted => h.blockSize_le value wanted hvalue⟩
    | windowSize =>
        obtain rfl : params.windowSize = n := Option.some.inj heq
        exact ⟨h.windowSize_range.1, h.windowSize_range.2,
          fun wanted => h.windowSize_le value wanted hvalue⟩
    | timeout =>
        split at hread
        · cases hread
        · have hn' : n = u32 n := Option.some.inj hread
          rw [hn']
          exact Nat.mod_lt _ (by decide)
    | transferSize =>
        split at hread
        · cases hread
        · next hlt => exact Nat.lt_of_not_le hlt
  · intro hnone
    have heq := hvalues .blockSize
    rw [hnone, Option.elim_none] at heq
    have hdefault : params.blockSize = config.defaultBlockSize := Option.some.inj heq
    rw [← hdefault]
    exact h.blockSize_range

end Accepted

/-- **The OACKs the client survives** are those it refuses before it adopts a text that does not
convert, and those whose texts are sound. -/
theorem oackSurvived_iff (requested : ClientRequestedOptions) (config : EngineConfig)
    (options : List TftpOption) :
    OackSurvived requested config options ↔
      RefusesOack requested options ∨ SoundTexts requested config options := by
  have hcases := @applyOackToClient_cases requested options (defaultParameters config)
  constructor
  · rintro (⟨params, hok, hsound⟩ | ⟨reason, hreject, -⟩)
    · rcases hcases with ⟨hall, params', hok', hvalues⟩ | ⟨-, reason, hreject⟩ | ⟨-, -, hthrew⟩
      · obtain rfl := Except.ok.inj (hok.symm.trans hok')
        exact Or.inr (soundTexts_of_parameters hvalues hall hsound)
      · rw [hok] at hreject
        cases hreject
      · rw [hok] at hthrew
        cases hthrew
    · rcases hcases with ⟨-, params', hok, -⟩ | ⟨hrefuses, -⟩ | ⟨-, -, hthrew⟩
      · rw [hreject] at hok
        cases hok
      · exact Or.inl hrefuses
      · rw [hreject] at hthrew
        cases hthrew
  · rcases hcases with ⟨hall, params, hok, hvalues⟩ | ⟨-, reason, hreject⟩ |
      ⟨hnotall, hnotrefuses, -⟩
    · rintro (⟨before, option, after, rfl, -, hunrequested⟩ | hsound)
      · exact absurd (hall option (by simp)) (not_adopts_of_unrequested hunrequested)
      · exact Or.inl ⟨params, hok, soundParameters_of_texts hvalues hsound⟩
    · exact fun _ => Or.inr ⟨reason, hreject, endsWithError8 hreject⟩
    · rintro (hrefuses | hsound)
      · exact absurd hrefuses hnotrefuses
      · exact absurd hsound.adopts hnotall

/-- **A block size of zero and a value without digits**, each in an OACK the parser accepts: the one
is adopted, the other makes the conversion throw. -/
theorem oack_not_survived :
    ∃ zero letters packet packet', parseDatagram zero = .ok packet ∧
      parseDatagram letters = .ok packet' ∧ packet.opcode = .optionAcknowledgement ∧
      packet'.opcode = .optionAcknowledgement ∧
      ¬ OackSurvived { blockSize := some 1024 } {} packet.options ∧
      ¬ OackSurvived { blockSize := some 1024 } {} packet'.options := by
  refine ⟨serializeOptionAcknowledgement [⟨text "blksize", text "0"⟩],
    serializeOptionAcknowledgement [⟨text "blksize", text "abc"⟩],
    { opcode := .optionAcknowledgement, options := [⟨text "blksize", text "0"⟩] },
    { opcode := .optionAcknowledgement, options := [⟨text "blksize", text "abc"⟩] },
    by decide +kernel, by decide +kernel, rfl, rfl, ?_, ?_⟩
  · have happly : applyOackToClient { blockSize := some 1024 } [⟨text "blksize", text "0"⟩]
        (defaultParameters {}) = .ok { blockSize := 0, windowSize := 1 } := by decide +kernel
    rintro (⟨params, hok, hsound⟩ | ⟨reason, hreject, -⟩)
    · have hrange := hsound.blockSize_range.1
      rw [Except.ok.inj (hok.symm.trans happly)] at hrange
      exact absurd hrange (by decide)
    · rw [happly] at hreject
      cases hreject
  · have happly : applyOackToClient { blockSize := some 1024 } [⟨text "blksize", text "abc"⟩]
        (defaultParameters {}) = .error .threw := by decide +kernel
    rintro (⟨params, hok, -⟩ | ⟨reason, hreject, -⟩)
    · rw [happly] at hok
      cases hok
    · rw [happly] at hreject
      cases hreject

end Survival

end TftpHarness
