/-
**Lines and torn lines.**

The metrics store writes one value a line, so a line must not contain a line break, and a line that
was cut short must not be read as some other value.  The first holds because the compact layout has
no byte below a space; the second because the parser, given more text, reads the same value and
leaves the rest: were a cut object accepted, the whole one would be read only as far.

Main results:

* `TftpHarness.printable_serialize` — **the compact layout has no control byte**;
* `TftpHarness.parseValue_append` — a value that is followed by something is read the same when more
  text follows;
* `TftpHarness.parseJson_torn` — **a cut object is rejected**.
-/

import TftpHarness.RoundTrip

set_option relaxedAutoImplicit false
set_option autoImplicit false

namespace TftpHarness

/-! ### No line breaks -/

/-- No control byte. -/
def Printable (s : Bytes) : Prop := ∀ b ∈ s, 32 ≤ b

instance (s : Bytes) : Decidable (Printable s) :=
  inferInstanceAs (Decidable (∀ b ∈ s, 32 ≤ b))

theorem printable_nil : Printable [] := by
  intro b hb
  cases hb

theorem printable_append {s t : Bytes} (hs : Printable s) (ht : Printable t) :
    Printable (s ++ t) := by
  intro b hb
  rcases List.mem_append.1 hb with hb | hb
  · exact hs b hb
  · exact ht b hb

theorem printable_cons {b : UInt8} {s : Bytes} (hb : 32 ≤ b) (hs : Printable s) :
    Printable (b :: s) := by
  intro c hc
  rcases List.mem_cons.1 hc with rfl | hc
  · exact hb
  · exact hs c hc

theorem printable_singleton {b : UInt8} (hb : 32 ≤ b) : Printable [b] :=
  printable_cons hb printable_nil

/-- The number bytes are printable. -/
theorem printable_numberText {s : Bytes} (h : NumberText s) : Printable s := by
  intro b hb
  have hnumber := h b hb
  simp only [isNumberByte, isDigit, Bool.or_eq_true, Bool.and_eq_true, decide_eq_true_eq,
    beq_iff_eq] at hnumber
  rcases hnumber with ((((⟨hlow, -⟩ | rfl) | rfl) | rfl) | rfl) | rfl
  · exact UInt8.le_trans (by decide : (32 : UInt8) ≤ 48) hlow
  · decide
  · decide
  · decide
  · decide
  · decide

theorem printable_escapeByte (c : UInt8) : Printable (escapeByte c) := by
  have hhex : ∀ d, d < 16 → (32 : UInt8) ≤ hexDigit d := by
    intro d hd
    interval_cases d <;> decide
  unfold escapeByte
  have hpair : ∀ b : UInt8, 32 ≤ b → Printable [92, b] := fun b hb =>
    printable_cons (by decide) (printable_singleton hb)
  split
  · exact hpair _ (by decide)
  split
  · exact hpair _ (by decide)
  split
  · exact hpair _ (by decide)
  split
  · exact hpair _ (by decide)
  split
  · exact hpair _ (by decide)
  split
  · exact hpair _ (by decide)
  split
  · exact hpair _ (by decide)
  split
  · next hcontrol =>
      have hlt : c.toNat < 32 := hcontrol
      exact printable_cons (by decide) (printable_cons (by decide) (printable_cons (by decide)
        (printable_cons (by decide) (printable_cons (hhex _ (by omega))
          (printable_singleton (hhex _ (by omega)))))))
  · next hcontrol => exact printable_singleton (UInt8.not_lt.1 hcontrol)

theorem printable_escapeJsonString (raw : Bytes) : Printable (escapeJsonString raw) := by
  refine printable_append (printable_append (printable_singleton (by decide)) ?_)
    (printable_singleton (by decide))
  intro b hb
  obtain ⟨c, -, hc⟩ := List.mem_flatMap.1 hb
  exact printable_escapeByte c b hc

theorem printable_formatNumber (value : Double) (isInteger : Bool) :
    Printable (formatNumber value isInteger) := by
  cases value with
  | finite x => exact printable_numberText (numberText_formatNumber x isInteger)
  | infinite negative =>
      have hformat : formatNumber (.infinite negative) isInteger =
          Double.format 6 (.infinite negative) := by simp [formatNumber, Double.isIntegerBelow]
      rw [hformat]
      intro b hb
      cases negative <;> revert b hb <;> decide +kernel
  | notANumber negative =>
      have hformat : formatNumber (.notANumber negative) isInteger =
          Double.format 6 (.notANumber negative) := by simp [formatNumber, Double.isIntegerBelow]
      rw [hformat]
      intro b hb
      cases negative <;> revert b hb <;> decide +kernel

theorem printable_joinElements (depth : ℕ) (first : Bool) {pieces : List Bytes}
    (h : ∀ piece ∈ pieces, Printable piece) :
    Printable (joinElements false depth first pieces) := by
  induction pieces generalizing first with
  | nil => exact printable_nil
  | cons piece pieces ih =>
      rw [joinElements]
      refine printable_append (printable_append (printable_append ?_ printable_nil)
        (h piece (List.mem_cons_self ..))) (ih _ fun p hp => h p (List.mem_cons_of_mem _ hp))
      split
      · exact printable_nil
      · exact printable_singleton (by decide)

/-- **The compact layout has no control byte.** -/
theorem printable_serializeInto (v : JsonValue) (depth : ℕ) :
    Printable (v.serializeInto false depth) := by
  induction v using JsonValue.tree_induction generalizing depth with
  | null =>
      rw [JsonValue.serializeInto]
      decide +kernel
  | boolean value =>
      rw [JsonValue.serializeInto]
      cases value <;> decide +kernel
  | number value isInteger =>
      rw [JsonValue.serializeInto]
      exact printable_formatNumber value isInteger
  | string value =>
      rw [JsonValue.serializeInto]
      exact printable_escapeJsonString value
  | array items ih =>
      cases items with
      | nil =>
          rw [JsonValue.serializeInto]
          decide +kernel
      | cons item items =>
          rw [JsonValue.serializeInto, serializeItems_eq]
          refine printable_append (printable_append (printable_append
            (printable_singleton (by decide)) (printable_joinElements depth true ?_)) printable_nil)
            (printable_singleton (by decide))
          intro piece hpiece
          obtain ⟨v, hv, rfl⟩ := List.mem_map.1 hpiece
          exact ih v hv (depth + 1)
  | object members ih =>
      cases members with
      | nil =>
          rw [JsonValue.serializeInto]
          decide +kernel
      | cons member members =>
          rw [JsonValue.serializeInto, serializeMembers_eq]
          refine printable_append (printable_append (printable_append
            (printable_singleton (by decide)) (printable_joinElements depth true ?_)) printable_nil)
            (printable_singleton (by decide))
          intro piece hpiece
          obtain ⟨m, hm, rfl⟩ := List.mem_map.1 hpiece
          exact printable_append (printable_append (printable_escapeJsonString m.1)
            (printable_singleton (by decide))) (ih m hm (depth + 1))

theorem printable_serialize (v : JsonValue) : Printable (v.serialize false) :=
  printable_serializeInto v 0

/-! ### More text -/

theorem skipWhitespace_append {s rest : Bytes} {c : UInt8} (h : skipWhitespace s = c :: rest)
    (q : Bytes) : skipWhitespace (s ++ q) = c :: (rest ++ q) := by
  have hsplit : s = s.takeWhile isWhitespace ++ c :: rest := by
    rw [← h]
    exact List.takeWhile_append_dropWhile.symm
  have hwhite : isWhitespace c = false := by
    have hhead := List.head?_dropWhile_not isWhitespace s
    rw [show s.dropWhile isWhitespace = c :: rest from h] at hhead
    simpa using hhead
  rw [hsplit, List.append_assoc]
  unfold skipWhitespace
  rw [List.dropWhile_append_of_pos fun b hb => List.mem_takeWhile_imp hb, List.cons_append]
  exact skipWhitespace_cons _ hwhite

theorem parseString_plain (out rest : Bytes) {c : UInt8} (hquote : c ≠ 34) (hbackslash : c ≠ 92) :
    parseString out (c :: rest) = parseString (out ++ [c]) rest := by
  rw [parseString.eq_def]
  simp only [hquote, hbackslash, if_false]

theorem parseString_unicode (out rest : Bytes) {h₀ h₁ h₂ h₃ : UInt8} {code : ℕ}
    (h : hexCode h₀ h₁ h₂ h₃ = some code) :
    parseString out (92 :: 117 :: h₀ :: h₁ :: h₂ :: h₃ :: rest) =
      parseString (out ++ encodeCode code) rest := by
  rw [parseString.eq_def]
  simp only [h]
  rfl

theorem parseString_escaped (out rest : Bytes) {escaped b : UInt8} (h : unescape escaped = some b) :
    parseString out (92 :: escaped :: rest) = parseString (out ++ [b]) rest := by
  have hne : escaped ≠ 117 := by
    rintro rfl
    cases h
  rw [parseString.eq_def]
  simp only [if_true, (by decide : (92 : UInt8) ≠ 34), if_false]
  split
  · next heq =>
      cases heq
      exact absurd rfl hne
  · next heq =>
      cases heq
      simp only [h]
  · next heq => cases heq

/-- A string is read the same when more text follows. -/
theorem parseString_append {out s t rest : Bytes} (h : parseString out s = some (t, rest))
    (q : Bytes) : parseString out (s ++ q) = some (t, rest ++ q) := by
  fun_induction parseString out s with
  | case1 => cases h
  | case2 =>
      cases h
      rw [List.cons_append, parseString.eq_def]
      rfl
  | case3 out h₀ h₁ h₂ h₃ s code hcode _ ih => exact (parseString_unicode _ _ hcode).trans (ih h)
  | case4 => simp_all
  | case5 out escaped s _ b hescaped _ ih => exact (parseString_escaped _ _ hescaped).trans (ih h)
  | case6 => simp_all
  | case7 => simp_all
  | case8 out c s hquote hbackslash ih =>
      exact (parseString_plain _ _ hquote hbackslash).trans (ih h)

theorem parseName_append {name : String} {v w : JsonValue} {s rest : Bytes}
    (h : parseName name v s = some (w, rest)) (q : Bytes) :
    parseName name v (s ++ q) = some (w, rest ++ q) := by
  unfold parseName at h ⊢
  split at h
  · next hbegins =>
      have hpre := List.isPrefixOf_iff_prefix.1 hbegins
      cases h
      rw [if_pos (List.isPrefixOf_iff_prefix.2 (hpre.trans (List.prefix_append s q))),
        List.drop_append_of_le_length hpre.length_le]
  · cases h

theorem parseBool_append {v : JsonValue} {s rest : Bytes} (h : parseBool s = some (v, rest))
    (q : Bytes) : parseBool (s ++ q) = some (v, rest ++ q) := by
  unfold parseBool at h ⊢
  rcases Option.or_eq_some_iff.1 h with h | ⟨-, h⟩
  · rw [parseName_append h q, Option.some_or]
  · have hnot : parseName "true" (.boolean true) (s ++ q) = none := by
      have hfalse : text "false" <+: s := by
        unfold parseName at h
        split at h
        · next hbegins => exact List.isPrefixOf_iff_prefix.1 hbegins
        · cases h
      unfold parseName
      rw [if_neg]
      intro hbegins
      -- one of two prefixes of a text is a prefix of the other
      have hboth := List.prefix_of_prefix_length_le (List.isPrefixOf_iff_prefix.1 hbegins)
        (hfalse.trans (List.prefix_append s q)) (by decide +kernel)
      exact absurd hboth (by decide +kernel)
    rw [hnot, Option.none_or, parseName_append h q]

/-- A number is read the same when it was followed by something. -/
theorem parseNumber_more {s rest : Bytes} {v : JsonValue} (h : parseNumber s = some (v, rest))
    (hrest : rest ≠ []) (q : Bytes) : parseNumber (s ++ q) = some (v, rest ++ q) := by
  have hdrop : s.dropWhile isNumberByte = rest := by
    unfold parseNumber at h
    split at h
    · cases h
    · obtain ⟨w, -, heq⟩ := Option.map_eq_some_iff.1 h
      cases heq
      rfl
  obtain ⟨c, rest', rfl⟩ := List.exists_cons_of_ne_nil hrest
  have hc : isNumberByte c = false := by
    have hhead := List.head?_dropWhile_not isNumberByte s
    rw [hdrop] at hhead
    simpa using hhead
  have hsplit : s = s.takeWhile isNumberByte ++ c :: rest' := by
    rw [← hdrop]
    exact List.takeWhile_append_dropWhile.symm
  have htoken : ∀ b ∈ s.takeWhile isNumberByte, isNumberByte b = true :=
    fun b hb => List.mem_takeWhile_imp hb
  have htake : (s ++ q).takeWhile isNumberByte = s.takeWhile isNumberByte := by
    conv_lhs => rw [hsplit, List.append_assoc]
    rw [List.takeWhile_append_of_pos htoken, List.cons_append,
      List.takeWhile_cons_of_neg (by simp [hc]), List.append_nil]
  have hdrop' : (s ++ q).dropWhile isNumberByte = c :: rest' ++ q := by
    conv_lhs => rw [hsplit, List.append_assoc]
    rw [List.dropWhile_append_of_pos htoken, List.cons_append,
      List.dropWhile_cons_of_neg (by simp [hc])]
  unfold parseNumber at h ⊢
  rw [htake, hdrop']
  rw [hdrop] at h
  split at h
  · cases h
  · obtain ⟨w, hw, heq⟩ := Option.map_eq_some_iff.1 h
    cases heq
    simp only [hw, Option.map_some]

section Elements

variable {α : Type} {element : Bytes → Option (α × Bytes)} {add : JsonValue → α → JsonValue}
  {close : UInt8}

/-- An element that is followed by something is read the same when more text follows. -/
def Extends (element : Bytes → Option (α × Bytes)) : Prop :=
  ∀ s x rest, element s = some (x, rest) → rest ≠ [] → ∀ q, element (s ++ q) = some (x, rest ++ q)

theorem parseElements_append (hextends : Extends element) {rounds : ℕ} {out v : JsonValue}
    {s rest : Bytes} (h : parseElements element add close rounds out s = some (v, rest))
    (q : Bytes) : parseElements element add close rounds out (s ++ q) = some (v, rest ++ q) := by
  induction rounds generalizing out s with
  | zero => cases h
  | succ rounds ih =>
      unfold parseElements at h ⊢
      split at h
      · cases h
      next x s' helement =>
      split at h
      · cases h
      next c s'' hs'' =>
      have hne : s' ≠ [] := by
        rintro rfl
        cases hs''
      rw [hextends s x s' helement hne q]
      simp only [skipWhitespace_append hs'' q]
      split at h
      · next hcomma =>
          rw [if_pos hcomma]
          exact ih h
      · next hcomma =>
          rw [if_neg hcomma]
          split at h
          · next hclose =>
              cases h
              rw [if_pos hclose]
          · cases h

/-- A sequence is read up to its bracket, whatever follows. -/
theorem parseSequence_append (hprogress : Progresses element) (hextends : Extends element)
    (hnil : element [] = none) {out v : JsonValue} {s rest : Bytes}
    (h : parseSequence element add close out s = some (v, rest)) (q : Bytes) :
    parseSequence element add close out (s ++ q) = some (v, rest ++ q) := by
  unfold parseSequence at h ⊢
  dsimp only at h ⊢
  cases hs : skipWhitespace s with
  | nil =>
      rw [hs] at h
      simp [parseElements, hnil] at h
  | cons c s' =>
      rw [hs] at h
      rw [skipWhitespace_append hs q]
      split at h
      · next hclose =>
          cases h
          rw [List.head?_cons] at hclose
          rw [List.head?_cons, if_pos hclose]
          rfl
      · next hclose =>
          rw [List.head?_cons] at hclose
          rw [List.head?_cons, if_neg hclose]
          have hlonger : (c :: s').length < (c :: (s' ++ q)).length + 1 := by
            simp only [List.length_cons, List.length_append]
            omega
          rw [parseElements_congr hprogress (fun _ _ => rfl) (Nat.lt_succ_self _) hlonger] at h
          exact parseElements_append hextends h q

end Elements

theorem extends_parseMember {value : Bytes → Option (JsonValue × Bytes)}
    (hextends : Extends value) : Extends (parseMember value) := by
  intro s member rest h hrest q
  unfold parseMember at h ⊢
  split at h
  · cases h
  next c s₁ hs₁ =>
  simp only [skipWhitespace_append hs₁ q]
  split at h
  · cases h
  next hquote =>
  rw [if_neg hquote]
  split at h
  · cases h
  next key s₂ hkey =>
  simp only [parseString_append hkey q]
  split at h
  · cases h
  next c' s₃ hs₃ =>
  simp only [skipWhitespace_append hs₃ q]
  split at h
  · cases h
  next hcolon =>
  rw [if_neg hcolon]
  obtain ⟨result, hvalue, heq⟩ := Option.map_eq_some_iff.1 h
  cases heq
  exact Option.map_eq_some_iff.2 ⟨_, hextends s₃ result.1 result.2 hvalue hrest q, rfl⟩

theorem parseMember_nil (value : Bytes → Option (JsonValue × Bytes)) :
    parseMember value [] = none :=
  rfl

theorem parseValue_nil (depth : ℕ) : parseValue depth [] = none := by
  cases depth <;> rfl

/-- **A value that is followed by something is read the same when more text follows.** -/
theorem extends_parseValue (depth : ℕ) : Extends (parseValue depth) := by
  induction depth with
  | zero =>
      intro s v rest h
      cases h
  | succ depth ih =>
      intro s v rest h hrest q
      unfold parseValue at h ⊢
      split at h
      · cases h
      next c s' hs' =>
      simp only [skipWhitespace_append hs' q]
      split at h
      · next hc =>
          rw [if_pos hc]
          exact parseSequence_append (progresses_parseMember (progresses_parseValue depth))
            (extends_parseMember ih) (parseMember_nil _) h q
      next hc =>
      rw [if_neg hc]
      split at h
      · next hc =>
          rw [if_pos hc]
          exact parseSequence_append (progresses_parseValue depth) ih (parseValue_nil depth) h q
      next hc =>
      rw [if_neg hc]
      split at h
      · next hc =>
          rw [if_pos hc]
          obtain ⟨result, hstring, heq⟩ := Option.map_eq_some_iff.1 h
          cases heq
          exact Option.map_eq_some_iff.2 ⟨_, parseString_append hstring q, rfl⟩
      next hc =>
      rw [if_neg hc]
      split at h
      · next hc =>
          rw [if_pos hc, ← List.cons_append]
          exact parseBool_append h q
      next hc =>
      rw [if_neg hc]
      split at h
      · next hc =>
          rw [if_pos hc, ← List.cons_append]
          exact parseName_append h q
      · next hc =>
          rw [if_neg hc, ← List.cons_append]
          exact parseNumber_more h hrest q

/-! ### Torn objects -/

/-- **A cut object is rejected.** -/
theorem parseJson_torn {members : List (Bytes × JsonValue)} {pretty : Bool} {p q : Bytes}
    (hsplit : (JsonValue.object members).serialize pretty = p ++ q) (hq : q ≠ []) :
    parseJson p = none := by
  obtain ⟨t, ht⟩ : ∃ t, (JsonValue.object members).serialize pretty = 123 :: t := by
    cases members with
    | nil => exact ⟨[125], by rw [JsonValue.serialize, JsonValue.serializeInto]⟩
    | cons member members =>
        rw [JsonValue.serialize, JsonValue.serializeInto]
        exact ⟨_, rfl⟩
  cases p with
  | nil => rfl
  | cons c p =>
      have hc : c = 123 := by
        rw [ht, List.cons_append] at hsplit
        exact (List.cons.inj hsplit).1.symm
      subst hc
      have hread := reads_serializeInto (.object members)
        (Nat.lt_succ_self ((JsonValue.object members).serializeInto pretty 0).length) []
        endsNumber_nil
      rw [List.append_nil, ← JsonValue.serialize, hsplit] at hread
      have hlonger : (123 :: p).length < (123 :: p ++ q).length + 1 := by
        simp only [List.length_cons, List.length_append]
        omega
      have hobject : ∀ s, parseValue ((123 :: p ++ q).length + 1) (123 :: s) =
          parseObject (parseValue (123 :: p ++ q).length) s := by
        intro s
        rw [parseValue, skipWhitespace_cons _ rfl]
        rfl
      have hparse : parseValue ((123 :: p).length + 1) (skipWhitespace (123 :: p)) =
          parseObject (parseValue (123 :: p ++ q).length) p := by
        rw [skipWhitespace_cons _ rfl, parseValue_depth (Nat.lt_succ_self _) hlonger, hobject]
      rw [parseJson, hparse]
      cases hcut : parseObject (parseValue (123 :: p ++ q).length) p with
      | none => rfl
      | some result =>
          obtain ⟨v, rest⟩ := result
          have hmore := parseSequence_append
            (progresses_parseMember (progresses_parseValue _))
            (extends_parseMember (extends_parseValue _)) (parseMember_nil _) hcut q
          have hwhole := (hobject (p ++ q)).symm.trans hread
          rw [parseObject, hmore] at hwhole
          obtain ⟨w, -, heq⟩ := Option.map_eq_some_iff.1 hwhole.symm
          have hnil := congrArg Prod.snd heq
          exact absurd (List.append_eq_nil_iff.1 hnil.symm).2 hq

end TftpHarness
