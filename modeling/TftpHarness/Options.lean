/-
**Option negotiation.**

A client appends the options it wants to its request, the server answers with an OACK that lists
what it accepted, and the client adopts the OACK.  Each side derives its own parameters, so whether
they agree is a theorem: whatever the server negotiates from a request of this client, the client
accepts its OACK and ends up with the server's block size and window.

Main definitions:

* `TftpHarness.ClientRequestedOptions`, `TftpHarness.buildRequestedOptionList` — the request;
* `TftpHarness.negotiateServerOptions` — the server's side;
* `TftpHarness.applyOackToClient` — the client's side.

Main results:

* `TftpHarness.acceptOption_cases` — everything the server can do with one option;
* `TftpHarness.applyOackToClient_negotiateServerOptions` — **the two ends agree on the block size
  and the window**.
-/

import TftpHarness.Engine

set_option relaxedAutoImplicit false
set_option autoImplicit false

namespace TftpHarness

/-! ### The client's request -/

/-- Options a client may request for a transfer; `none` is not requested. -/
structure ClientRequestedOptions where
  blockSize : Option ℕ := none
  timeoutSeconds : Option ℕ := none
  transferSize : Option ℕ := none
  windowSize : Option ℕ := none
  deriving DecidableEq, Repr

/-- The entry of one option the client requests and its configuration supports. -/
def requestedOption (name : Bytes) (value : Option ℕ) (supported : Bool) : List TftpOption :=
  match value with
  | some n => if supported then [⟨name, toDecimal n⟩] else []
  | none => []

/-- `build_requested_option_list`. -/
def buildRequestedOptionList (options : ClientRequestedOptions) (config : EngineConfig) :
    List TftpOption :=
  if ¬ config.supportOptionNegotiation then []
  else
    requestedOption (text "blksize") options.blockSize config.supportBlockSizeOption ++
      requestedOption (text "timeout") options.timeoutSeconds config.supportTimeoutOption ++
      requestedOption (text "tsize") options.transferSize config.supportTransferSizeOption ++
      requestedOption (text "windowsize") options.windowSize config.supportWindowSizeOption

/-! ### The server's side -/

/-- `clamp_block_size`: into the range of RFC 2348. -/
def clampBlockSize (requested : ℕ) : ℕ := min (max requested 8) 65464

/-- What the server makes of one option of a request: the entry it adds to the OACK and the
parameters after it, or nothing. -/
def acceptOption (config : EngineConfig) (actualFileSize : Option ℕ) (option : TftpOption)
    (params : NegotiatedParameters) : Option (TftpOption × NegotiatedParameters) :=
  if equalsIgnoreAsciiCase option.name (text "blksize") ∧ config.supportBlockSizeOption then
    match stoul option.value with
    | none => none
    | some value =>
        let accepted := clampBlockSize (u32 value)
        some (⟨text "blksize", toDecimal accepted⟩, { params with blockSize := accepted })
  else if equalsIgnoreAsciiCase option.name (text "timeout") ∧ config.supportTimeoutOption then
    match stoul option.value with
    | none => none
    | some value =>
        let requested := u32 value
        -- RFC 2349: out of range, decline the option
        if requested < 1 ∨ 255 < requested then none
        else
          some (⟨text "timeout", toDecimal requested⟩,
            { params with timeoutSeconds := some requested })
  else if equalsIgnoreAsciiCase option.name (text "tsize") ∧ config.supportTransferSizeOption then
    match actualFileSize with
    | some size =>
        some (⟨text "tsize", toDecimal size⟩, { params with transferSize := some size })
    | none =>
        match stoull option.value with
        | none => none
        | some value =>
            some (⟨text "tsize", option.value⟩, { params with transferSize := some value })
  else if equalsIgnoreAsciiCase option.name (text "windowsize") ∧
      config.supportWindowSizeOption then
    match stoul option.value with
    | none => none
    | some value =>
        let requested := u32 value
        if requested < 1 then none
        else
          let accepted := u16 (min requested 65535)
          some (⟨text "windowsize", toDecimal accepted⟩, { params with windowSize := accepted })
  else none

/-- The loop of `negotiate_server_options` over the options of a request. -/
def negotiateOptions (config : EngineConfig) (actualFileSize : Option ℕ) :
    List TftpOption → NegotiatedParameters → List TftpOption × NegotiatedParameters
  | [], params => ([], params)
  | option :: options, params =>
      match acceptOption config actualFileSize option params with
      | none => negotiateOptions config actualFileSize options params
      | some (entry, params) =>
          let (oackOptions, params) := negotiateOptions config actualFileSize options params
          (entry :: oackOptions, params)

/-- `negotiate_server_options`: the OACK entries and the parameters in force. -/
def negotiateServerOptions (request : TftpPacket) (config : EngineConfig)
    (actualFileSize : Option ℕ) (params : NegotiatedParameters) :
    List TftpOption × NegotiatedParameters :=
  if ¬ config.supportOptionNegotiation then ([], params)
  else negotiateOptions config actualFileSize request.options params

/-! ### The client's reading of an OACK -/

/-- Why `apply_oack_to_client` does not come back with parameters: it rejects the OACK, or a number
it converts makes `std::stoul` throw. -/
inductive OackFailure
  | rejected (reason : Bytes)
  | threw
  deriving DecidableEq, Repr

/-- One option of an OACK: whether it was requested, its conversion and its effect. -/
def applyOption (name : Bytes) (requested : Bool) (value : Option ℕ)
    (assign : ℕ → NegotiatedParameters) : Except OackFailure NegotiatedParameters :=
  if requested then
    match value with
    | none => .error .threw
    | some value => .ok (assign value)
  else .error (.rejected (text "server OACKed unrequested " ++ name))

/-- `apply_oack_to_client`. -/
def applyOackToClient (requested : ClientRequestedOptions) :
    List TftpOption → NegotiatedParameters → Except OackFailure NegotiatedParameters
  | [], params => .ok params
  | option :: options, params =>
      let applied :=
        if equalsIgnoreAsciiCase option.name (text "blksize") then
          applyOption (text "blksize") requested.blockSize.isSome (stoul option.value)
            fun value => { params with blockSize := u32 value }
        else if equalsIgnoreAsciiCase option.name (text "timeout") then
          applyOption (text "timeout") requested.timeoutSeconds.isSome (stoul option.value)
            fun value => { params with timeoutSeconds := some (u32 value) }
        else if equalsIgnoreAsciiCase option.name (text "tsize") then
          applyOption (text "tsize") requested.transferSize.isSome (stoull option.value)
            fun value => { params with transferSize := some value }
        else if equalsIgnoreAsciiCase option.name (text "windowsize") then
          applyOption (text "windowsize") requested.windowSize.isSome (stoul option.value)
            fun value => { params with windowSize := u16 value }
        else .error (.rejected (text "server OACKed unknown option " ++ option.name))
      match applied with
      | .error failure => .error failure
      | .ok params => applyOackToClient requested options params

/-! ### What the server accepts -/

theorem clampBlockSize_le (requested : ℕ) : clampBlockSize requested ≤ 65464 :=
  min_le_right _ _

theorem le_clampBlockSize (requested : ℕ) : 8 ≤ clampBlockSize requested := by
  unfold clampBlockSize
  omega

/-- **Everything the server can do with one option** that it does not pass over. -/
theorem acceptOption_cases {config : EngineConfig} {actualFileSize : Option ℕ}
    {option entry : TftpOption} {params params' : NegotiatedParameters}
    (h : acceptOption config actualFileSize option params = some (entry, params')) :
    (equalsIgnoreAsciiCase option.name (text "blksize") = true ∧ ∃ accepted,
      8 ≤ accepted ∧ accepted ≤ 65464 ∧ entry = ⟨text "blksize", toDecimal accepted⟩ ∧
        params' = { params with blockSize := accepted }) ∨
    (equalsIgnoreAsciiCase option.name (text "timeout") = true ∧ ∃ accepted,
      1 ≤ accepted ∧ accepted ≤ 255 ∧ entry = ⟨text "timeout", toDecimal accepted⟩ ∧
        params' = { params with timeoutSeconds := some accepted }) ∨
    (equalsIgnoreAsciiCase option.name (text "tsize") = true ∧ ∃ size,
      (actualFileSize = some size ∧ entry = ⟨text "tsize", toDecimal size⟩ ∨
        stoull option.value = some size ∧ entry = ⟨text "tsize", option.value⟩) ∧
        params' = { params with transferSize := some size }) ∨
    (equalsIgnoreAsciiCase option.name (text "windowsize") = true ∧ ∃ accepted,
      1 ≤ accepted ∧ accepted ≤ 65535 ∧ entry = ⟨text "windowsize", toDecimal accepted⟩ ∧
        params' = { params with windowSize := accepted }) := by
  unfold acceptOption at h
  -- the four names in the order of the source
  split at h
  · next hname =>
      left
      split at h
      · exact absurd h (by simp)
      · next value _ =>
          obtain ⟨rfl, rfl⟩ := Prod.mk.inj (Option.some.inj h)
          exact ⟨hname.1, _, le_clampBlockSize _, clampBlockSize_le _, rfl, rfl⟩
  split at h
  · next hname =>
      right; left
      split at h
      · exact absurd h (by simp)
      · next value _ =>
          simp only at h
          split at h
          · exact absurd h (by simp)
          · next hrange =>
              obtain ⟨rfl, rfl⟩ := Prod.mk.inj (Option.some.inj h)
              exact ⟨hname.1, _, by omega, by omega, rfl, rfl⟩
  split at h
  · next hname =>
      right; right; left
      split at h
      · next size =>
          obtain ⟨rfl, rfl⟩ := Prod.mk.inj (Option.some.inj h)
          exact ⟨hname.1, size, Or.inl ⟨rfl, rfl⟩, rfl⟩
      · split at h
        · exact absurd h (by simp)
        · next value hvalue =>
            obtain ⟨rfl, rfl⟩ := Prod.mk.inj (Option.some.inj h)
            exact ⟨hname.1, value, Or.inr ⟨hvalue, rfl⟩, rfl⟩
  split at h
  · next hname =>
      right; right; right
      split at h
      · exact absurd h (by simp)
      · next value _ =>
          simp only at h
          split at h
          · exact absurd h (by simp)
          · next hrange =>
              obtain ⟨rfl, rfl⟩ := Prod.mk.inj (Option.some.inj h)
              refine ⟨hname.1, _, ?_, ?_, rfl, rfl⟩
              · rw [u16_of_lt (by omega)]
                omega
              · exact Nat.le_of_lt_succ (u16_lt _)
  · exact absurd h (by simp)

/-- An option the client may have put into its request. -/
structure ClientRequestedOptions.Requested (requested : ClientRequestedOptions)
    (option : TftpOption) : Prop where
  clean : option.Clean
  blockSize : equalsIgnoreAsciiCase option.name (text "blksize") = true →
    requested.blockSize.isSome = true
  timeoutSeconds : equalsIgnoreAsciiCase option.name (text "timeout") = true →
    requested.timeoutSeconds.isSome = true
  transferSize : equalsIgnoreAsciiCase option.name (text "tsize") = true →
    requested.transferSize.isSome = true
  windowSize : equalsIgnoreAsciiCase option.name (text "windowsize") = true →
    requested.windowSize.isSome = true

/-- The names of the four options the engine knows. -/
def optionNames : List Bytes := [text "blksize", text "timeout", text "tsize", text "windowsize"]

/-- An option with a known name and a NUL-free value survives the wire. -/
theorem clean_of_known {name : Bytes} (hname : name ∈ optionNames) {value : Bytes}
    (hvalue : (0 : UInt8) ∉ value) : TftpOption.Clean ⟨name, value⟩ := by
  have hknown : ∀ name ∈ optionNames, name ≠ [] ∧ (0 : UInt8) ∉ name := by decide
  exact ⟨(hknown name hname).1, (hknown name hname).2, hvalue⟩

/-- The known names are told apart in any case. -/
theorem eq_of_known {name name' : Bytes} (hname : name ∈ optionNames) (hname' : name' ∈ optionNames)
    (h : equalsIgnoreAsciiCase name name' = true) : name = name' := by
  have hknown : ∀ name ∈ optionNames, ∀ name' ∈ optionNames,
      equalsIgnoreAsciiCase name name' = true → name = name' := by decide
  exact hknown name hname name' hname' h

theorem mem_requestedOption {name : Bytes} {value : Option ℕ} {supported : Bool}
    {option : TftpOption} (h : option ∈ requestedOption name value supported) :
    value.isSome = true ∧ ∃ n, option = ⟨name, toDecimal n⟩ := by
  unfold requestedOption at h
  split at h
  · next n =>
      split at h
      · exact ⟨rfl, n, List.mem_singleton.1 h⟩
      · exact absurd h List.not_mem_nil
  · exact absurd h List.not_mem_nil

/-- What a client puts into its request it has requested. -/
theorem requested_of_mem_build {requested : ClientRequestedOptions} {config : EngineConfig}
    {option : TftpOption} (h : option ∈ buildRequestedOptionList requested config) :
    requested.Requested option := by
  have hblk : text "blksize" ∈ optionNames := by decide
  have htmo : text "timeout" ∈ optionNames := by decide
  have htsz : text "tsize" ∈ optionNames := by decide
  have hwin : text "windowsize" ∈ optionNames := by decide
  unfold buildRequestedOptionList at h
  split at h
  · exact absurd h List.not_mem_nil
  · simp only [List.mem_append] at h
    rcases h with ((h | h) | h) | h
    · obtain ⟨hsome, n, rfl⟩ := mem_requestedOption h
      exact ⟨clean_of_known hblk (nul_notMem_toDecimal n), fun _ => hsome,
        fun heq => absurd (eq_of_known hblk htmo heq) (by decide),
        fun heq => absurd (eq_of_known hblk htsz heq) (by decide),
        fun heq => absurd (eq_of_known hblk hwin heq) (by decide)⟩
    · obtain ⟨hsome, n, rfl⟩ := mem_requestedOption h
      exact ⟨clean_of_known htmo (nul_notMem_toDecimal n),
        fun heq => absurd (eq_of_known htmo hblk heq) (by decide), fun _ => hsome,
        fun heq => absurd (eq_of_known htmo htsz heq) (by decide),
        fun heq => absurd (eq_of_known htmo hwin heq) (by decide)⟩
    · obtain ⟨hsome, n, rfl⟩ := mem_requestedOption h
      exact ⟨clean_of_known htsz (nul_notMem_toDecimal n),
        fun heq => absurd (eq_of_known htsz hblk heq) (by decide),
        fun heq => absurd (eq_of_known htsz htmo heq) (by decide), fun _ => hsome,
        fun heq => absurd (eq_of_known htsz hwin heq) (by decide)⟩
    · obtain ⟨hsome, n, rfl⟩ := mem_requestedOption h
      exact ⟨clean_of_known hwin (nul_notMem_toDecimal n),
        fun heq => absurd (eq_of_known hwin hblk heq) (by decide),
        fun heq => absurd (eq_of_known hwin htmo heq) (by decide),
        fun heq => absurd (eq_of_known hwin htsz heq) (by decide), fun _ => hsome⟩

/-! ### Facts about a whole negotiation -/

section Negotiation

variable {config : EngineConfig} {actualFileSize : Option ℕ}

/-- Where the OACK is empty the parameters are untouched. -/
theorem negotiateOptions_nil {options : List TftpOption} {params : NegotiatedParameters}
    (h : (negotiateOptions config actualFileSize options params).1 = []) :
    (negotiateOptions config actualFileSize options params).2 = params := by
  induction options generalizing params with
  | nil => rfl
  | cons option options ih =>
      unfold negotiateOptions at h ⊢
      split
      · next hnone =>
          rw [hnone] at h
          exact ih h
      · next hsome =>
          rw [hsome] at h
          exact absurd h (List.cons_ne_nil _ _)

/-- A negotiated block size is in the range of RFC 2348, a negotiated window fits its 16 bits. -/
theorem negotiateOptions_range (options : List TftpOption) (params : NegotiatedParameters) :
    ((negotiateOptions config actualFileSize options params).2.blockSize = params.blockSize ∨
      8 ≤ (negotiateOptions config actualFileSize options params).2.blockSize ∧
        (negotiateOptions config actualFileSize options params).2.blockSize ≤ 65464) ∧
    ((negotiateOptions config actualFileSize options params).2.windowSize = params.windowSize ∨
      (negotiateOptions config actualFileSize options params).2.windowSize ≤ 65535) := by
  induction options generalizing params with
  | nil => exact ⟨Or.inl rfl, Or.inl rfl⟩
  | cons option options ih =>
      unfold negotiateOptions
      split
      · exact ih params
      · next entry params' hsome =>
          have hrest := ih params'
          rcases acceptOption_cases hsome with ⟨-, a, h₁, h₂, -, rfl⟩ | ⟨-, a, -, -, -, rfl⟩ |
            ⟨-, a, -, rfl⟩ | ⟨-, a, h₁, h₂, -, rfl⟩
          · refine ⟨?_, hrest.2⟩
            rcases hrest.1 with h | h
            · exact Or.inr ⟨by rw [h]; exact h₁, by rw [h]; exact h₂⟩
            · exact Or.inr h
          · exact hrest
          · exact hrest
          · refine ⟨hrest.1, ?_⟩
            rcases hrest.2 with h | h
            · exact Or.inr (by rw [h]; exact h₂)
            · exact Or.inr h

/-- An OACK in answer to clean options is clean. -/
theorem clean_negotiateOptions {options : List TftpOption} (hclean : ∀ o ∈ options, o.Clean)
    (params : NegotiatedParameters) :
    ∀ entry ∈ (negotiateOptions config actualFileSize options params).1, entry.Clean := by
  induction options generalizing params with
  | nil => exact fun entry h => absurd h List.not_mem_nil
  | cons option options ih =>
      have hrest := ih fun o ho => hclean o (List.mem_cons_of_mem _ ho)
      unfold negotiateOptions
      split
      · exact hrest params
      · next entry params' hsome =>
          intro e he
          rcases List.mem_cons.1 he with rfl | he
          · rcases acceptOption_cases hsome with ⟨-, a, -, -, rfl, -⟩ | ⟨-, a, -, -, rfl, -⟩ |
              ⟨-, a, h, -⟩ | ⟨-, a, -, -, rfl, -⟩
            · exact clean_of_known (by decide) (nul_notMem_toDecimal a)
            · exact clean_of_known (by decide) (nul_notMem_toDecimal a)
            · rcases h with ⟨-, rfl⟩ | ⟨-, rfl⟩
              · exact clean_of_known (by decide) (nul_notMem_toDecimal a)
              · exact clean_of_known (by decide) (hclean option List.mem_cons_self).value_nul
            · exact clean_of_known (by decide) (nul_notMem_toDecimal a)
          · exact hrest params' e he

/-- **The client accepts an entry that the server has put into its OACK** for an option that the
client requested, and makes of it what the server has made of the option. -/
theorem applyOackToClient_accepted {requested : ClientRequestedOptions}
    (hsize : ∀ size, actualFileSize = some size → size < 2 ^ 64) {option entry : TftpOption}
    (hone : requested.Requested option)
    {serverParams serverParams' clientParams : NegotiatedParameters}
    (hblock : clientParams.blockSize = serverParams.blockSize)
    (hwindow : clientParams.windowSize = serverParams.windowSize)
    (haccept : acceptOption config actualFileSize option serverParams =
      some (entry, serverParams')) (rest : List TftpOption) :
    ∃ clientParams', applyOackToClient requested (entry :: rest) clientParams =
        applyOackToClient requested rest clientParams' ∧
      clientParams'.blockSize = serverParams'.blockSize ∧
      clientParams'.windowSize = serverParams'.windowSize := by
  rcases acceptOption_cases haccept with ⟨hname, a, h₁, h₂, rfl, rfl⟩ |
    ⟨hname, a, -, h₂, rfl, rfl⟩ | ⟨hname, a, h, rfl⟩ | ⟨hname, a, h₁, h₂, rfl, rfl⟩
  · have hread : stoul (toDecimal a) = some a := stoul_toDecimal (by omega)
    have hfit : u32 a = a := u32_of_lt (by omega)
    have happly : applyOption (text "blksize") requested.blockSize.isSome
        (stoul (toDecimal a)) (fun value => { clientParams with blockSize := u32 value }) =
          .ok { clientParams with blockSize := a } := by
      simp [applyOption, hone.blockSize hname, hread, hfit]
    refine ⟨{ clientParams with blockSize := a }, ?_, rfl, hwindow⟩
    simp only [applyOackToClient, equalsIgnoreAsciiCase_self, if_true, happly]
  · have hread : stoul (toDecimal a) = some a := stoul_toDecimal (by omega)
    have hfit : u32 a = a := u32_of_lt (by omega)
    have hblk : equalsIgnoreAsciiCase (text "timeout") (text "blksize") = false := by decide
    have happly : applyOption (text "timeout") requested.timeoutSeconds.isSome
        (stoul (toDecimal a))
        (fun value => { clientParams with timeoutSeconds := some (u32 value) }) =
          .ok { clientParams with timeoutSeconds := some a } := by
      simp [applyOption, hone.timeoutSeconds hname, hread, hfit]
    refine ⟨{ clientParams with timeoutSeconds := some a }, ?_, hblock, hwindow⟩
    simp only [applyOackToClient, equalsIgnoreAsciiCase_self, hblk, Bool.false_eq_true,
      if_false, if_true, happly]
  · -- the size of the file, or the value that came with a WRQ, as it came
    have hread : stoull entry.value = some a ∧ entry.name = text "tsize" := by
      rcases h with ⟨hactual, rfl⟩ | ⟨hvalue, rfl⟩
      · exact ⟨stoul_toDecimal (hsize a hactual), rfl⟩
      · exact ⟨hvalue, rfl⟩
    have hblk : equalsIgnoreAsciiCase (text "tsize") (text "blksize") = false := by decide
    have htmo : equalsIgnoreAsciiCase (text "tsize") (text "timeout") = false := by decide
    have happly : applyOption (text "tsize") requested.transferSize.isSome
        (stoull entry.value)
        (fun value => { clientParams with transferSize := some value }) =
          .ok { clientParams with transferSize := some a } := by
      simp [applyOption, hone.transferSize hname, hread.1]
    refine ⟨{ clientParams with transferSize := some a }, ?_, hblock, hwindow⟩
    simp only [applyOackToClient, hread.2, equalsIgnoreAsciiCase_self, hblk, htmo,
      Bool.false_eq_true, if_false, if_true, happly]
  · have hread : stoul (toDecimal a) = some a := stoul_toDecimal (by omega)
    have hfit : u16 a = a := u16_of_lt (by omega)
    have hblk : equalsIgnoreAsciiCase (text "windowsize") (text "blksize") = false := by decide
    have htmo : equalsIgnoreAsciiCase (text "windowsize") (text "timeout") = false := by decide
    have htsz : equalsIgnoreAsciiCase (text "windowsize") (text "tsize") = false := by decide
    have happly : applyOption (text "windowsize") requested.windowSize.isSome
        (stoul (toDecimal a)) (fun value => { clientParams with windowSize := u16 value }) =
          .ok { clientParams with windowSize := a } := by
      simp [applyOption, hone.windowSize hname, hread, hfit]
    refine ⟨{ clientParams with windowSize := a }, ?_, hblock, rfl⟩
    simp only [applyOackToClient, equalsIgnoreAsciiCase_self, hblk, htmo, htsz,
      Bool.false_eq_true, if_false, if_true, happly]

/-- **The two ends agree.**  The client accepts the OACK to options it requested, and comes out of
it with the block size and the window of the server. -/
theorem applyOackToClient_negotiate {requested : ClientRequestedOptions}
    (hsize : ∀ size, actualFileSize = some size → size < 2 ^ 64) {options : List TftpOption}
    (hreq : ∀ o ∈ options, requested.Requested o) {serverParams clientParams : NegotiatedParameters}
    (hblock : clientParams.blockSize = serverParams.blockSize)
    (hwindow : clientParams.windowSize = serverParams.windowSize) :
    ∃ params, applyOackToClient requested
        (negotiateOptions config actualFileSize options serverParams).1 clientParams =
          .ok params ∧
      params.blockSize =
        (negotiateOptions config actualFileSize options serverParams).2.blockSize ∧
      params.windowSize =
        (negotiateOptions config actualFileSize options serverParams).2.windowSize := by
  induction options generalizing serverParams clientParams with
  | nil => exact ⟨clientParams, rfl, hblock, hwindow⟩
  | cons option options ih =>
      have hreq' := fun o ho => hreq o (List.mem_cons_of_mem _ ho)
      unfold negotiateOptions
      split
      · exact ih hreq' hblock hwindow
      · next entry serverParams' haccept =>
          obtain ⟨clientParams', happly, hblock', hwindow'⟩ :=
            applyOackToClient_accepted hsize (hreq option List.mem_cons_self) hblock hwindow haccept
              (negotiateOptions config actualFileSize options serverParams').1
          simp only [happly]
          exact ih hreq' hblock' hwindow'

/-! ### The whole of `negotiate_server_options` -/

/-- Where the server sends no OACK its parameters are those it started from. -/
theorem negotiateServerOptions_nil {request : TftpPacket} {params : NegotiatedParameters}
    (h : (negotiateServerOptions request config actualFileSize params).1 = []) :
    (negotiateServerOptions request config actualFileSize params).2 = params := by
  unfold negotiateServerOptions at h ⊢
  split at h
  · next hsupport => rw [if_pos hsupport]
  · next hsupport =>
      rw [if_neg hsupport]
      exact negotiateOptions_nil h

theorem negotiateServerOptions_range (request : TftpPacket) (config : EngineConfig)
    (actualFileSize : Option ℕ) (params : NegotiatedParameters) :
    ((negotiateServerOptions request config actualFileSize params).2.blockSize =
        params.blockSize ∨
      8 ≤ (negotiateServerOptions request config actualFileSize params).2.blockSize ∧
        (negotiateServerOptions request config actualFileSize params).2.blockSize ≤ 65464) ∧
    ((negotiateServerOptions request config actualFileSize params).2.windowSize =
        params.windowSize ∨
      (negotiateServerOptions request config actualFileSize params).2.windowSize ≤ 65535) := by
  unfold negotiateServerOptions
  split
  · exact ⟨Or.inl rfl, Or.inl rfl⟩
  · exact negotiateOptions_range request.options params

theorem clean_negotiateServerOptions {request : TftpPacket}
    (hclean : ∀ o ∈ request.options, o.Clean) (params : NegotiatedParameters) :
    ∀ entry ∈ (negotiateServerOptions request config actualFileSize params).1, entry.Clean := by
  unfold negotiateServerOptions
  split
  · exact fun entry h => absurd h List.not_mem_nil
  · exact clean_negotiateOptions hclean params

/-- **The two ends agree** on the block size and the window, whatever the server supports. -/
theorem applyOackToClient_negotiateServerOptions {requested : ClientRequestedOptions}
    (hsize : ∀ size, actualFileSize = some size → size < 2 ^ 64) {request : TftpPacket}
    (hreq : ∀ o ∈ request.options, requested.Requested o)
    {serverParams clientParams : NegotiatedParameters}
    (hblock : clientParams.blockSize = serverParams.blockSize)
    (hwindow : clientParams.windowSize = serverParams.windowSize) :
    ∃ params, applyOackToClient requested
        (negotiateServerOptions request config actualFileSize serverParams).1 clientParams =
          .ok params ∧
      params.blockSize =
        (negotiateServerOptions request config actualFileSize serverParams).2.blockSize ∧
      params.windowSize =
        (negotiateServerOptions request config actualFileSize serverParams).2.windowSize := by
  unfold negotiateServerOptions
  split
  · exact ⟨clientParams, rfl, hblock, hwindow⟩
  · exact applyOackToClient_negotiate hsize hreq hblock hwindow

end Negotiation

end TftpHarness
