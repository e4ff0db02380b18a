/-
**The options a client accepts, and those it sent.**

Two functions decide what a client has requested.  `build_requested_option_list` writes an option
into the request if the caller asked for it *and* the configuration supports it;
`apply_oack_to_client`, which is to reject an option the client never requested, looks only at what
the caller asked for.  They differ where an option is switched off in the configuration: such an
option is not sent, and is adopted all the same when the server offers it.

Main definitions:

* `TftpHarness.Offers` — the options that a configuration lets a client send;
* `TftpHarness.OnlySentAccepted` — an accepted OACK names options that were sent, and any other is
  rejected with ERROR 8.

Main results:

* `TftpHarness.mem_buildRequestedOptionList_iff` — the options that are sent;
* `TftpHarness.onlySentAccepted_iff` — **the OACKs for which the two functions agree**.
-/

import TftpHarness.LawfulOack

set_option relaxedAutoImplicit false
set_option autoImplicit false

namespace TftpHarness

/-! ### The options that are sent -/

/-- Whether a configuration lets a client send an option: negotiation is on, and the option
supported. -/
def Offers (config : EngineConfig) (known : KnownOption) : Prop :=
  config.supportOptionNegotiation = true ∧ config.supports known = true

/-- The entry of one option is there when the caller asked for it and it is supported. -/
theorem exists_mem_requestedOption_iff (name : Bytes) (value : Option ℕ) (supported : Bool)
    (p : Bytes → Prop) :
    (∃ sent ∈ requestedOption name value supported, p sent.name) ↔
      (value.isSome = true ∧ supported = true) ∧ p name := by
  unfold requestedOption
  cases value with
  | none => simp
  | some n => cases supported <;> simp

/-- The request goes through the four options in one order. -/
theorem buildRequestedOptionList_eq (requested : ClientRequestedOptions) {config : EngineConfig}
    (hon : config.supportOptionNegotiation = true) :
    buildRequestedOptionList requested config =
      [KnownOption.blockSize, .timeout, .transferSize, .windowSize].flatMap fun known =>
        requestedOption known.name (requested.value known) (config.supports known) := by
  rw [buildRequestedOptionList, if_neg (not_not_intro hon)]
  simp only [List.flatMap_cons, List.flatMap_nil, List.append_nil, List.append_assoc]
  rfl

/-- **The options that are sent**: asked for by the caller and offered by the configuration. -/
theorem mem_buildRequestedOptionList_iff (requested : ClientRequestedOptions)
    (config : EngineConfig) (option : TftpOption) :
    (∃ sent ∈ buildRequestedOptionList requested config,
        equalsIgnoreAsciiCase option.name sent.name = true) ↔
      ∃ known, namedOption option = some known ∧ (requested.value known).isSome = true ∧
        Offers config known := by
  by_cases hon : config.supportOptionNegotiation = true
  · rw [buildRequestedOptionList_eq requested hon]
    constructor
    · rintro ⟨sent, hsent, hname⟩
      obtain ⟨known, -, hsent⟩ := List.mem_flatMap.1 hsent
      obtain ⟨⟨hrequested, hsupports⟩, hname⟩ := (exists_mem_requestedOption_iff _ _ _
        fun name => equalsIgnoreAsciiCase option.name name = true).1 ⟨sent, hsent, hname⟩
      exact ⟨known, namedOption_eq_some_iff.2 hname, hrequested, hon, hsupports⟩
    · rintro ⟨known, hname, hrequested, -, hsupports⟩
      obtain ⟨sent, hsent, hname⟩ := (exists_mem_requestedOption_iff known.name _ _
        fun name => equalsIgnoreAsciiCase option.name name = true).2
          ⟨⟨hrequested, hsupports⟩, namedOption_eq_some_iff.1 hname⟩
      have hknown : known ∈ [KnownOption.blockSize, .timeout, .transferSize, .windowSize] := by
        cases known <;> decide
      exact ⟨sent, List.mem_flatMap.2 ⟨known, hknown, hsent⟩, hname⟩
  · rw [buildRequestedOptionList, if_pos hon]
    constructor
    · rintro ⟨sent, hsent, -⟩
      exact absurd hsent List.not_mem_nil
    · rintro ⟨known, -, -, hon', -⟩
      exact absurd hon' hon

/-! ### The options that are accepted -/

section Accepted

variable (requested : ClientRequestedOptions) (config : EngineConfig) (options : List TftpOption)

/-- **The client accepts only options it sent**: if it accepts an OACK, each name in it is, in any
case, the name of an option of its request; if it does not, it rejects and ends with ERROR 8. -/
structure OnlySentAccepted : Prop where
  accepted : ∀ params,
    applyOackToClient requested options (defaultParameters config) = .ok params →
      ∀ option ∈ options, ∃ sent ∈ buildRequestedOptionList requested config,
        equalsIgnoreAsciiCase option.name sent.name = true
  otherwise : (∀ params,
    applyOackToClient requested options (defaultParameters config) ≠ .ok params) →
      ∃ reason, applyOackToClient requested options (defaultParameters config) =
        .error (.rejected reason) ∧ EndsWithError8 requested config options reason

/-- **The OACKs for which the client accepts only what it sent** are those it refuses before it
meets a text that does not convert, and those of entries it adopts and the configuration offers. -/
theorem onlySentAccepted_iff :
    OnlySentAccepted requested config options ↔
      RefusesOack requested options ∨ ∀ option ∈ options, Adopts requested option ∧
        ∀ known, namedOption option = some known → Offers config known := by
  rcases @applyOackToClient_cases requested options (defaultParameters config) with
    ⟨hall, params, hok, -⟩ | ⟨hrefuses, reason, hreject⟩ | ⟨hnotall, hnotrefuses, hthrew⟩
  · constructor
    · intro h
      refine Or.inr fun option hoption => ⟨hall option hoption, fun known hname => ?_⟩
      obtain ⟨known', hname', -, hoffers⟩ :=
        (mem_buildRequestedOptionList_iff _ _ _).1 (h.accepted params hok option hoption)
      obtain rfl := Option.some.inj (hname.symm.trans hname')
      exact hoffers
    · rintro (⟨before, refused, after, rfl, -, hunrequested⟩ | hoffered)
      · exact absurd (hall refused (by simp)) (not_adopts_of_unrequested hunrequested)
      · refine ⟨fun _ _ option hoption => ?_, fun hnot => absurd hok (hnot params)⟩
        obtain ⟨⟨known, hname, hrequested, -⟩, hoffers⟩ := hoffered option hoption
        exact (mem_buildRequestedOptionList_iff _ _ _).2
          ⟨known, hname, hrequested, hoffers known hname⟩
  · refine iff_of_true ⟨fun params hok => ?_, fun _ => ⟨reason, hreject, endsWithError8 hreject⟩⟩
      (Or.inl hrefuses)
    rw [hreject] at hok
    cases hok
  · refine iff_of_false (fun h => ?_) ?_
    · obtain ⟨reason, hreject, -⟩ := h.otherwise fun params hok => by
        rw [hthrew] at hok
        cases hok
      rw [hthrew] at hreject
      cases hreject
    · rintro (hrefuses | hoffered)
      · exact hnotrefuses hrefuses
      · exact hnotall fun option hoption => (hoffered option hoption).1

end Accepted

/-- **An option that is switched off**: the client asks for a block size that its configuration does
not support, sends a request without options and adopts the block size of an OACK. -/
theorem switched_off_option_accepted :
    ∃ bytes packet, parseDatagram bytes = .ok packet ∧
      packet.opcode = .optionAcknowledgement ∧
      buildRequestedOptionList { blockSize := some 1024 } { supportBlockSizeOption := false } =
        [] ∧
      applyOackToClient { blockSize := some 1024 } packet.options
          (defaultParameters { supportBlockSizeOption := false }) =
        .ok { blockSize := 1024, windowSize := 1 } ∧
      ¬ OnlySentAccepted { blockSize := some 1024 } { supportBlockSizeOption := false }
        packet.options := by
  refine ⟨serializeOptionAcknowledgement [⟨text "blksize", text "1024"⟩],
    { opcode := .optionAcknowledgement, options := [⟨text "blksize", text "1024"⟩] },
    by decide +kernel, rfl, by decide, by decide, fun h => ?_⟩
  have hok : applyOackToClient { blockSize := some 1024 } [⟨text "blksize", text "1024"⟩]
      (defaultParameters { supportBlockSizeOption := false }) =
        .ok { blockSize := 1024, windowSize := 1 } := by decide
  obtain ⟨sent, hsent, -⟩ := h.accepted _ hok _ List.mem_cons_self
  have hnone : buildRequestedOptionList { blockSize := some 1024 }
      { supportBlockSizeOption := false } = [] := by decide
  rw [hnone] at hsent
  exact absurd hsent List.not_mem_nil

end TftpHarness
