/-
**The parser of the metrics store and the grammar of JSON.**

The parser follows the structure of JSON to the letter: brackets, commas, colons and blanks are
where the grammar has them, and nothing follows the value.  Its tokens are not those of the
standard.  A string may hold any byte but the quote, and a number is any run of number characters
that has a number at its front, one that `std::stod` does not find out of range.  So the parser
accepts exactly the texts of the grammar with these tokens, and it conforms to the standard on a
text exactly when the standard takes the tokens of that text.

Main definitions:

* `TftpHarness.BeginsWithNumber` — the runs of number characters that `std::stod` takes;
* `TftpHarness.parserTokens` — the strings and numbers of the parser.

Main results:

* `TftpHarness.parseJson_isSome_iff` — **the parser accepts exactly the texts of its grammar**;
* `TftpHarness.rejectsMalformed_iff` — when a text that is not JSON is rejected, and its line in the
  store skipped.
-/

import TftpHarness.JsonGrammar
import TftpHarness.Store

set_option relaxedAutoImplicit false
set_option autoImplicit false

namespace TftpHarness

open JsonGrammar

/-! ### The tokens of the parser -/

/-- The token has a numeral at its front that `std::stod` takes: rounded it does not leave the range
of a `double`, and it is not an inexact one below the normal range. -/
def BeginsWithNumber (token : Bytes) : Prop :=
  ∃ q, readNumeral token = some q ∧ |roundDouble q| ≤ maximumDouble ∧ underflows q = false

/-- **The tokens that the parser takes**: any bytes in a string, and as a number what begins with
one that `std::stod` takes. -/
def parserTokens : TokenClasses where
  plain _ := True
  number token := (token ≠ [] ∧ NumberText token) ∧ BeginsWithNumber token
  number_chars h := h.1

theorem skipWhitespace_blank {w : Bytes} (hw : Blank w) (s : Bytes) :
    skipWhitespace (w ++ s) = skipWhitespace s :=
  List.dropWhile_append_of_pos fun c hc => hw c hc

/-- What is skipped is blank. -/
theorem exists_blank (s : Bytes) : ∃ w, Blank w ∧ s = w ++ skipWhitespace s :=
  ⟨s.takeWhile isWhitespace, fun _ hc => List.mem_takeWhile_imp hc,
    List.takeWhile_append_dropWhile.symm⟩

theorem exists_blank_cons {s s' : Bytes} {c : UInt8} (h : skipWhitespace s = c :: s') :
    ∃ w, Blank w ∧ s = w ++ c :: s' := by
  obtain ⟨w, hw, hs⟩ := exists_blank s
  exact ⟨w, hw, by rwa [h] at hs⟩

theorem isSome_hexValue (h : UInt8) : (hexValue h).isSome = isHex h := by
  rw [Bool.eq_iff_iff]
  simp only [hexValue, isHex, Bool.or_eq_true, Bool.and_eq_true, decide_eq_true_eq, or_assoc]
  split
  · next h₁ => simp [h₁]
  · next h₁ =>
      split
      · next h₂ => simp [h₂]
      · next h₂ => split <;> simp_all

theorem isSome_hexCode {h₀ h₁ h₂ h₃ : UInt8} :
    (hexCode h₀ h₁ h₂ h₃).isSome = true ↔ ∀ h ∈ [h₀, h₁, h₂, h₃], isHex h = true := by
  simp only [List.forall_mem_cons, ← isSome_hexValue, hexCode]
  cases hexValue h₀ <;> cases hexValue h₁ <;> cases hexValue h₂ <;> cases hexValue h₃ <;> simp

theorem isSome_unescape {escaped : UInt8} :
    (unescape escaped).isSome = true ↔ escaped ∈ escapes := by
  simp only [unescape, escapes, List.mem_cons, List.not_mem_nil, or_false]
  split_ifs with h
  · rcases h with rfl | rfl | rfl <;> decide
  all_goals simp_all

/-- What a string is read from is a body and a quote. -/
theorem isBody_of_parseString {out s r rest : Bytes} (h : parseString out s = some (r, rest)) :
    ∃ b, IsBody (fun _ => True) b ∧ s = b ++ 34 :: rest := by
  fun_induction parseString out s with
  | case1 => cases h
  | case2 =>
      cases h
      exact ⟨[], .nil, rfl⟩
  | case3 out h₀ h₁ h₂ h₃ s code hcode _ ih =>
      obtain ⟨b, hb, rfl⟩ := ih h
      exact ⟨_, .unicode (isSome_hexCode.1 (by rw [hcode]; rfl)) hb, rfl⟩
  | case4 => cases h
  | case5 out escaped s _ b hescaped _ ih =>
      obtain ⟨b, hb, rfl⟩ := ih h
      exact ⟨_, .escape (isSome_unescape.1 (by rw [hescaped]; rfl)) hb, rfl⟩
  | case6 => cases h
  | case7 => cases h
  | case8 out c s hquote hbackslash ih =>
      obtain ⟨b, hb, rfl⟩ := ih h
      exact ⟨_, .plain hquote hbackslash trivial hb, rfl⟩

/-- A body before a quote is read. -/
theorem parseString_body {plain : UInt8 → Prop} {b : Bytes} (hb : IsBody plain b)
    (out rest : Bytes) : ∃ r, parseString out (b ++ 34 :: rest) = some (r, rest) := by
  induction hb generalizing out with
  | nil => exact ⟨out, by rw [List.nil_append, parseString.eq_def]; rfl⟩
  | plain hquote hbackslash _ _ ih =>
      obtain ⟨r, hr⟩ := ih _
      exact ⟨r, (parseString_plain _ _ hquote hbackslash).trans hr⟩
  | escape hc _ ih =>
      obtain ⟨c, hescaped⟩ := Option.isSome_iff_exists.1 (isSome_unescape.2 hc)
      obtain ⟨r, hr⟩ := ih _
      exact ⟨r, (parseString_escaped _ _ hescaped).trans hr⟩
  | unicode hhex _ ih =>
      obtain ⟨code, hcode⟩ := Option.isSome_iff_exists.1 (isSome_hexCode.2 hhex)
      obtain ⟨r, hr⟩ := ih _
      exact ⟨r, (parseString_unicode _ _ hcode).trans hr⟩

/-- What is read as a number. -/
theorem isSome_numberOfToken {t : Bytes} :
    (numberOfToken t).isSome = true ↔ BeginsWithNumber t := by
  rw [BeginsWithNumber, ← isSome_stod_iff, numberOfToken]
  cases stod t with
  | none => rfl
  | some value =>
      dsimp only
      split <;> exact Iff.rfl

/-- What a number is read from is one of the parser's numbers. -/
theorem number_of_parseNumber {s rest : Bytes} {v : JsonValue}
    (h : parseNumber s = some (v, rest)) : ∃ t, parserTokens.number t ∧ s = t ++ rest := by
  unfold parseNumber at h
  split at h
  · cases h
  · next c token htoken =>
      obtain ⟨w, hw, heq⟩ := Option.map_eq_some_iff.1 h
      cases heq
      refine ⟨c :: token, ⟨⟨List.cons_ne_nil _ _, ?_⟩, ?_⟩, ?_⟩
      · rw [← htoken]
        exact fun b hb => List.mem_takeWhile_imp hb
      · exact isSome_numberOfToken.1 (Option.isSome_iff_exists.2 ⟨_, hw⟩)
      · rw [← htoken, List.takeWhile_append_dropWhile]

theorem endsNumber_of_delimited {rest : Bytes} (h : Delimited rest) : EndsNumber rest :=
  fun c hc => (not_char_of_delimiter (h c hc)).1

theorem parseName_eq {name : String} {v w : JsonValue} {s rest : Bytes}
    (h : parseName name v s = some (w, rest)) : s = text name ++ rest := by
  unfold parseName at h
  split at h
  · next hbegins =>
      obtain ⟨t, rfl⟩ := List.isPrefixOf_iff_prefix.1 hbegins
      cases h
      rw [List.drop_left]
  · cases h

theorem parseName_text (name : String) (v : JsonValue) (rest : Bytes) :
    parseName name v (text name ++ rest) = some (v, rest) := by
  unfold parseName
  rw [if_pos (List.isPrefixOf_iff_prefix.2 (List.prefix_append _ _)), List.drop_left]

/-! ### What is read has a derivation -/

/-- What the element parser consumes is, after blanks, an element. -/
def Consumes {α : Type} (e : Element) (element : Bytes → Option (α × Bytes)) : Prop :=
  ∀ s x rest, element s = some (x, rest) →
    ∃ w t, Blank w ∧ Derives parserTokens (.one e) t ∧ s = w ++ (t ++ rest)

/-- Blanks in front of a list belong to it. -/
theorem derives_many_blank {G : TokenClasses} {e : Element} {w t : Bytes} (hw : Blank w)
    (h : Derives G (.many e) t) : Derives G (.many e) (w ++ t) := by
  have happend {w' : Bytes} (hw' : Blank w') : Blank (w ++ w') :=
    List.forall_mem_append.2 ⟨hw, hw'⟩
  cases h with
  | last hw' ht hafter =>
      rw [← List.append_assoc]
      exact .last (happend hw') ht hafter
  | more hw' ht hafter hrest =>
      rw [← List.append_assoc]
      exact .more (happend hw') ht hafter hrest

section Elements

variable {α : Type} {e : Element} {element : Bytes → Option (α × Bytes)}
  {add : JsonValue → α → JsonValue}

theorem derives_of_parseElements (hconsumes : Consumes e element) {rounds : ℕ} {out v : JsonValue}
    {s rest : Bytes}
    (h : parseElements element add e.brackets.2 rounds out s = some (v, rest)) :
    ∃ t, Derives parserTokens (.many e) t ∧ s = t ++ e.brackets.2 :: rest := by
  induction rounds generalizing out s with
  | zero => cases h
  | succ rounds ih =>
      unfold parseElements at h
      split at h
      · cases h
      next x s' helement =>
      obtain ⟨w, t, hw, ht, rfl⟩ := hconsumes _ x s' helement
      split at h
      · cases h
      next c s'' hs'' =>
      obtain ⟨w', hw', rfl⟩ := exists_blank_cons hs''
      split at h
      · next hcomma =>
          obtain ⟨t', ht', rfl⟩ := ih h
          exact ⟨_, .more hw ht hw' ht', by simp [hcomma]⟩
      split at h
      · next hclose =>
          cases h
          exact ⟨_, .last hw ht hw', by simp [hclose]⟩
      · cases h

theorem derives_of_parseSequence (hconsumes : Consumes e element) {out v : JsonValue}
    {s rest : Bytes} (h : parseSequence element add e.brackets.2 out s = some (v, rest)) :
    ∃ t, Derives parserTokens (.one .value) (e.brackets.1 :: t) ∧ s = t ++ rest := by
  unfold parseSequence at h
  dsimp only at h
  obtain ⟨w, hw, hs⟩ := exists_blank s
  split at h
  · next hclose =>
      cases h
      refine ⟨w ++ [e.brackets.2], .empty e hw, ?_⟩
      obtain ⟨rest, hrest⟩ := List.head?_eq_some_iff.1 hclose
      rw [hrest] at hs ⊢
      rw [List.append_assoc]
      exact hs
  · obtain ⟨t, ht, hskip⟩ := derives_of_parseElements hconsumes h
    refine ⟨(w ++ t) ++ [e.brackets.2], .list (derives_many_blank hw ht), ?_⟩
    rw [hs, hskip]
    simp

end Elements

theorem consumes_parseMember {value : Bytes → Option (JsonValue × Bytes)}
    (hconsumes : Consumes .value value) : Consumes .member (parseMember value) := by
  intro s x rest h
  unfold parseMember at h
  split at h
  · cases h
  next c s₁ hs₁ =>
  obtain ⟨w, hw, rfl⟩ := exists_blank_cons hs₁
  split at h
  · cases h
  next hquote =>
  split at h
  · cases h
  next key s₂ hkey =>
  obtain ⟨b, hb, rfl⟩ := isBody_of_parseString hkey
  split at h
  · cases h
  next c' s₃ hs₃ =>
  obtain ⟨w', hw', rfl⟩ := exists_blank_cons hs₃
  split at h
  · cases h
  next hcolon =>
  obtain ⟨⟨v, rest'⟩, hvalue, heq⟩ := Option.map_eq_some_iff.1 h
  cases heq
  obtain ⟨w'', t, hw'', ht, rfl⟩ := hconsumes _ _ _ hvalue
  obtain rfl := not_not.1 hquote
  obtain rfl := not_not.1 hcolon
  exact ⟨w, _, hw, .member hb hw' hw'' ht, by simp⟩

/-- **What the parser consumes is a value of its grammar.** -/
theorem consumes_parseValue (depth : ℕ) : Consumes .value (parseValue depth) := by
  induction depth with
  | zero =>
      intro s v rest h
      cases h
  | succ depth ih =>
      intro s v rest h
      unfold parseValue at h
      split at h
      · cases h
      next c s' hs' =>
      obtain ⟨w, hw, rfl⟩ := exists_blank_cons hs'
      have hname {name : String} {v' w' : JsonValue} (hmem : text name ∈ names)
          (hparse : parseName name v' (c :: s') = some (w', rest)) :
          ∃ w₀ t, Blank w₀ ∧ Derives parserTokens (.one .value) t ∧
            w ++ c :: s' = w₀ ++ (t ++ rest) :=
        ⟨w, text name, hw, .name hmem, by rw [parseName_eq hparse]⟩
      split at h
      · next hopen =>
          obtain ⟨t, ht, rfl⟩ := derives_of_parseSequence (e := .member) (consumes_parseMember ih) h
          exact ⟨w, _, hw, ht, by rw [hopen]; rfl⟩
      split at h
      · next hopen =>
          obtain ⟨t, ht, rfl⟩ := derives_of_parseSequence (e := .value) ih h
          exact ⟨w, _, hw, ht, by rw [hopen]; rfl⟩
      split at h
      · next hquote =>
          obtain ⟨⟨r, rest'⟩, hstring, heq⟩ := Option.map_eq_some_iff.1 h
          cases heq
          obtain ⟨b, hb, rfl⟩ := isBody_of_parseString hstring
          exact ⟨w, _, hw, .string hb, by rw [hquote]; simp⟩
      split at h
      · rcases Option.or_eq_some_iff.1 h with h | ⟨-, h⟩
        · exact hname (by decide +kernel) h
        · exact hname (by decide +kernel) h
      split at h
      · exact hname (by decide +kernel) h
      · obtain ⟨t, ht, hsplit⟩ := number_of_parseNumber h
        exact ⟨w, t, hw, .number ht, by rw [hsplit]⟩

/-! ### What has a derivation is read -/

/-- The first byte of a value selects its parser. -/
theorem parseValue_object (depth : ℕ) (s : Bytes) :
    parseValue (depth + 1) (123 :: s) = parseObject (parseValue depth) s := by
  rw [parseValue, skipWhitespace_cons s rfl]
  rfl

theorem parseValue_array (depth : ℕ) (s : Bytes) :
    parseValue (depth + 1) (91 :: s) = parseArray (parseValue depth) s := by
  rw [parseValue, skipWhitespace_cons s rfl]
  rfl

theorem parseValue_quote (depth : ℕ) (s : Bytes) :
    parseValue (depth + 1) (34 :: s) =
      (parseString [] s).map fun result => (.string result.1, result.2) := by
  rw [parseValue, skipWhitespace_cons s rfl]
  rfl

theorem parseValue_name (depth : ℕ) {t : Bytes} (ht : t ∈ names) (rest : Bytes) :
    ∃ v, parseValue (depth + 1) (t ++ rest) = some (v, rest) := by
  simp only [names, List.mem_cons, List.not_mem_nil, or_false] at ht
  rcases ht with rfl | rfl | rfl
  · refine ⟨.boolean true, ?_⟩
    rw [List.cons_append, parseValue, skipWhitespace_cons _ (rfl : isWhitespace 116 = false)]
    have hname : parseBool ([116, 114, 117, 101] ++ rest) = some (.boolean true, rest) := by
      rw [parseBool]
      exact Option.or_eq_some_iff.2 (Or.inl (parseName_text "true" (.boolean true) rest))
    exact hname
  · refine ⟨.boolean false, ?_⟩
    rw [List.cons_append, parseValue, skipWhitespace_cons _ (rfl : isWhitespace 102 = false)]
    have hname : parseName "false" (.boolean false) ([102, 97, 108, 115, 101] ++ rest) = _ :=
      parseName_text "false" (.boolean false) rest
    exact hname
  · refine ⟨.null, ?_⟩
    rw [List.cons_append, parseValue, skipWhitespace_cons _ (rfl : isWhitespace 110 = false)]
    exact parseName_text "null" .null rest

section Elements

variable {α : Type} {e : Element} {element : Bytes → Option (α × Bytes)}
  {add : JsonValue → α → JsonValue}

theorem SkipsWhitespace.blank (h : SkipsWhitespace element) {w : Bytes} (hw : Blank w)
    (s : Bytes) : element (w ++ s) = element s := by
  rw [← h, skipWhitespace_blank hw, h]

theorem isWhitespace_close (e : Element) :
    isWhitespace e.brackets.2 = false ∧ e.brackets.2 ≠ 44 := by
  cases e <;> exact ⟨rfl, by decide⟩

/-- A round whose element is followed by a comma, with blanks. -/
theorem parseElements_more (hskip : SkipsWhitespace element) {rounds : ℕ} {out : JsonValue}
    {w t w' rest : Bytes} {x : α} (hw : Blank w) (hw' : Blank w')
    (h : element (t ++ (w' ++ 44 :: rest)) = some (x, w' ++ 44 :: rest)) :
    parseElements element add e.brackets.2 (rounds + 1) out (w ++ (t ++ (w' ++ 44 :: rest))) =
      parseElements element add e.brackets.2 rounds (add out x) rest := by
  rw [parseElements, hskip.blank hw, h]
  simp only [skipWhitespace_blank hw', skipWhitespace_cons rest (rfl : isWhitespace 44 = false),
    if_true]

/-- The round whose element is followed by the closing bracket, with blanks. -/
theorem parseElements_last (hskip : SkipsWhitespace element) {rounds : ℕ} {out : JsonValue}
    {w t w' rest : Bytes} {x : α} (hw : Blank w) (hw' : Blank w')
    (h : element (t ++ (w' ++ e.brackets.2 :: rest)) = some (x, w' ++ e.brackets.2 :: rest)) :
    parseElements element add e.brackets.2 (rounds + 1) out
        (w ++ (t ++ (w' ++ e.brackets.2 :: rest))) = some (add out x, rest) := by
  rw [parseElements, hskip.blank hw, h]
  simp only [skipWhitespace_blank hw', skipWhitespace_cons rest (isWhitespace_close e).1,
    if_neg (isWhitespace_close e).2, if_true]

/-- Brackets around blanks. -/
theorem parseSequence_blank (out : JsonValue) {w : Bytes} (hw : Blank w) (rest : Bytes) :
    parseSequence element add e.brackets.2 out (w ++ e.brackets.2 :: rest) = some (out, rest) := by
  rw [parseSequence, skipWhitespace_blank hw, skipWhitespace_cons rest (isWhitespace_close e).1]
  simp

/-- Brackets around something that starts no bracket are read as the loop reads it. -/
theorem parseSequence_elements (hskip : SkipsWhitespace element) (hprogress : Progresses element)
    {s : Bytes} (hstart : ∀ c ∈ (skipWhitespace s).head?, c ≠ e.brackets.2) (out : JsonValue) :
    parseSequence element add e.brackets.2 out s =
      parseElements element add e.brackets.2 (s.length + 1) out s := by
  have hle := skipWhitespace_length s
  have hne : (skipWhitespace s).head? ≠ some e.brackets.2 := fun h => hstart _ h rfl
  have hrounds := @parseElements_congr _ element element add e.brackets.2 hprogress
    (skipWhitespace s) (fun _ _ => rfl) ((skipWhitespace s).length + 1) (s.length + 1) (by omega)
    (by omega) out
  have hround : parseElements element add e.brackets.2 (s.length + 1) out (skipWhitespace s) =
      parseElements element add e.brackets.2 (s.length + 1) out s := by
    rw [parseElements, parseElements, hskip]
  rw [parseSequence, if_neg hne, hrounds, hround]

end Elements

/-- How an element starts. -/
theorem exists_head_of_derives {G : TokenClasses} {e : Element} {t : Bytes}
    (h : Derives G (.one e) t) :
    ∃ c s, t = c :: s ∧ isWhitespace c = false ∧ c ≠ 93 ∧ c ≠ 125 := by
  cases h with
  | name ht =>
      simp only [names, List.mem_cons, List.not_mem_nil, or_false] at ht
      rcases ht with rfl | rfl | rfl <;> exact ⟨_, _, rfl, rfl, by decide, by decide⟩
  | number ht =>
      obtain ⟨hne, hchars⟩ := G.number_chars ht
      obtain ⟨c, s, rfl⟩ := List.exists_cons_of_ne_nil hne
      have hc : isNumberByte c = true := hchars c List.mem_cons_self
      exact ⟨c, s, rfl, isWhitespace_of_isNumberByte hc, ne_of_isNumberByte hc rfl,
        ne_of_isNumberByte hc rfl⟩
  | string => exact ⟨_, _, rfl, rfl, by decide, by decide⟩
  | empty e' => cases e' <;> exact ⟨_, _, rfl, rfl, by decide, by decide⟩
  | @list e' => cases e' <;> exact ⟨_, _, rfl, rfl, by decide, by decide⟩
  | member => exact ⟨_, _, rfl, rfl, by decide, by decide⟩

/-- A list starts with an element, not with a closing bracket. -/
theorem head_of_derives_many {G : TokenClasses} {e : Element} {t : Bytes}
    (h : Derives G (.many e) t) (e' : Element) (rest : Bytes) :
    ∀ c ∈ (skipWhitespace (t ++ rest)).head?, c ≠ e'.brackets.2 := by
  have hstart {w v : Bytes} (hw : Blank w) (hv : Derives G (.one e) v) (after : Bytes) :
      ∀ c ∈ (skipWhitespace (w ++ (v ++ after))).head?, c ≠ e'.brackets.2 := by
    obtain ⟨c, s, rfl, hwhite, harray, hobject⟩ := exists_head_of_derives hv
    rw [skipWhitespace_blank hw, List.cons_append, skipWhitespace_cons _ hwhite]
    intro d hd
    obtain rfl := Option.some.inj hd
    cases e'
    · exact harray
    · exact hobject
  cases h with
  | last hw ht hw' =>
      simp only [List.append_assoc]
      exact hstart hw ht _
  | more hw ht hw' hrest =>
      simp only [List.append_assoc]
      exact hstart hw ht _

/-- The parser of an element accepts the text up to `rest`. -/
def ReadsElement (depth : ℕ) (s rest : Bytes) : Element → Prop
  | .value => ∃ v, parseValue depth s = some (v, rest)
  | .member => ∃ m, parseMember (parseValue depth) s = some (m, rest)

/-- The loop over the elements of a list accepts the text up to `rest`. -/
def ReadsList (depth rounds : ℕ) (out : JsonValue) (s rest : Bytes) : Element → Prop
  | .value => ∃ v, parseElements (parseValue depth) JsonValue.append 93 rounds out s =
      some (v, rest)
  | .member => ∃ v, parseElements (parseMember (parseValue depth))
      (fun out member => out.set member.1 member.2) 125 rounds out s = some (v, rest)

/-- What completeness says of each symbol of the grammar. -/
def Readable (t : Bytes) : Symbol → Prop
  | .one e => ∀ depth rest, t.length < depth → Delimited rest →
      ReadsElement depth (t ++ rest) rest e
  | .many e => ∀ depth rounds out rest, t.length < depth → t.length < rounds →
      ReadsList depth rounds out (t ++ e.brackets.2 :: rest) rest e

/-- An element is read one level below. -/
theorem readable_one {e : Element} {t : Bytes}
    (h : ∀ depth rest, t.length < depth + 1 → Delimited rest →
      ReadsElement (depth + 1) (t ++ rest) rest e) : Readable t (.one e) := by
  intro depth rest hdepth hrest
  obtain ⟨depth, rfl⟩ : ∃ k, depth = k + 1 := ⟨depth - 1, by omega⟩
  exact h depth rest hdepth hrest

theorem readable_number {t : Bytes} (ht : parserTokens.number t) : Readable t (.one .value) := by
  refine readable_one fun depth rest _ hrest => ?_
  obtain ⟨⟨hne, hchars⟩, hnumber⟩ := ht
  obtain ⟨v, hv⟩ := Option.isSome_iff_exists.1 (isSome_numberOfToken.2 hnumber)
  refine ⟨v, ?_⟩
  have hparse := parseNumber_append hchars hne (endsNumber_of_delimited hrest)
  rw [hv, Option.map_some] at hparse
  obtain ⟨c, s, rfl⟩ := List.exists_cons_of_ne_nil hne
  rw [← hparse]
  exact parseValue_numberByte depth _ (hchars c List.mem_cons_self)

/-- A list between its brackets. -/
theorem readable_list {e : Element} {t : Bytes} (ht : Derives parserTokens (.many e) t)
    (ih : Readable t (.many e)) :
    Readable (e.brackets.1 :: (t ++ [e.brackets.2])) (.one .value) := by
  refine readable_one fun depth rest hdepth _ => ?_
  rw [List.length_cons, List.length_append] at hdepth
  have hstart := head_of_derives_many ht e (e.brackets.2 :: rest)
  have hlength : t.length < (t ++ e.brackets.2 :: rest).length + 1 := by
    rw [List.length_append]
    omega
  rw [List.cons_append, List.append_assoc, List.singleton_append]
  cases e with
  | value =>
      obtain ⟨v, hv⟩ := ih depth _ (.array []) rest (by omega) hlength
      refine ⟨v, (parseValue_array depth _).trans ?_⟩
      exact (parseSequence_elements (e := .value) (skipsWhitespace_parseValue depth)
        (progresses_parseValue depth) hstart _).trans hv
  | member =>
      obtain ⟨v, hv⟩ := ih depth _ (.object []) rest (by omega) hlength
      refine ⟨v, (parseValue_object depth _).trans ?_⟩
      exact (parseSequence_elements (e := .member) (skipsWhitespace_parseMember _)
        (progresses_parseMember (progresses_parseValue depth)) hstart _).trans hv

/-- **Every derivation of the parser's grammar is read**, up to what delimits it. -/
theorem readable_of_derives {x : Symbol} {t : Bytes} (h : Derives parserTokens x t) :
    Readable t x := by
  induction h with
  | name ht => exact readable_one fun depth rest _ _ => parseValue_name depth ht rest
  | number ht => exact readable_number ht
  | @string b hb =>
      refine readable_one fun depth rest _ _ => ?_
      obtain ⟨r, hr⟩ := parseString_body hb [] rest
      refine ⟨.string r, ?_⟩
      rw [List.cons_append, List.append_assoc, List.singleton_append, parseValue_quote, hr]
      rfl
  | @empty e w hw =>
      refine readable_one fun depth rest _ _ => ?_
      rw [List.cons_append, List.append_assoc, List.singleton_append]
      cases e with
      | value => exact ⟨_, (parseValue_array depth _).trans (parseSequence_blank _ hw rest)⟩
      | member => exact ⟨_, (parseValue_object depth _).trans (parseSequence_blank _ hw rest)⟩
  | list ht ih => exact readable_list ht ih
  | @member b w w' v hb hw hw' hv ih =>
      intro depth rest hdepth hrest
      simp only [List.length_cons, List.length_append] at hdepth
      obtain ⟨key, hkey⟩ := parseString_body hb [] (w ++ 58 :: (w' ++ (v ++ rest)))
      obtain ⟨value, hvalue⟩ := ih depth rest (by omega) hrest
      refine ⟨(key, value), ?_⟩
      simp only [List.cons_append, List.append_assoc]
      rw [parseMember, skipWhitespace_cons _ (rfl : isWhitespace 34 = false)]
      have hcolon : ¬ (58 : UInt8) ≠ 58 := not_not.2 rfl
      have hquote : ¬ (34 : UInt8) ≠ 34 := not_not.2 rfl
      simp only [if_neg hquote, hkey, skipWhitespace_blank hw,
        skipWhitespace_cons _ (rfl : isWhitespace 58 = false), if_neg hcolon,
        (skipsWhitespace_parseValue depth).blank hw', hvalue, Option.map_some]
  | @last e w t w' hw ht hw' ih =>
      intro depth rounds out rest hdepth hrounds
      simp only [List.length_append] at hdepth hrounds
      obtain ⟨rounds, rfl⟩ : ∃ k, rounds = k + 1 := ⟨rounds - 1, by omega⟩
      have hrest : Delimited (w' ++ e.brackets.2 :: rest) :=
        (delimited_bracket e rest).blank hw'
      have helement := ih depth _ (by omega) hrest
      simp only [List.append_assoc]
      cases e with
      | value =>
          obtain ⟨v, hv⟩ := helement
          exact ⟨_, parseElements_last (e := .value) (skipsWhitespace_parseValue depth) hw hw' hv⟩
      | member =>
          obtain ⟨m, hm⟩ := helement
          exact ⟨_, parseElements_last (e := .member) (skipsWhitespace_parseMember _) hw hw' hm⟩
  | @more e w t w' tail hw ht hw' htail ih ihtail =>
      intro depth rounds out rest hdepth hrounds
      simp only [List.length_append, List.length_cons] at hdepth hrounds
      obtain ⟨rounds, rfl⟩ : ∃ k, rounds = k + 1 := ⟨rounds - 1, by omega⟩
      have hrest : Delimited (w' ++ 44 :: (tail ++ e.brackets.2 :: rest)) :=
        (delimited_cons _ (Or.inr (Or.inl rfl))).blank hw'
      have helement := ih depth _ (by omega) hrest
      simp only [List.append_assoc, List.cons_append]
      cases e with
      | value =>
          obtain ⟨v, hv⟩ := helement
          obtain ⟨out', hout⟩ := ihtail depth rounds (out.append v) rest (by omega) (by omega)
          exact ⟨out', (parseElements_more (e := .value) (skipsWhitespace_parseValue depth) hw hw'
            hv).trans hout⟩
      | member =>
          obtain ⟨m, hm⟩ := helement
          obtain ⟨out', hout⟩ := ihtail depth rounds (out.set m.1 m.2) rest (by omega) (by omega)
          exact ⟨out', (parseElements_more (e := .member) (skipsWhitespace_parseMember _) hw hw'
            hm).trans hout⟩

/-- **The parser accepts exactly the texts of its grammar.** -/
theorem parseJson_isSome_iff (s : Bytes) : (parseJson s).isSome = true ↔ IsText parserTokens s := by
  obtain ⟨w, hw, hs⟩ := exists_blank s
  constructor
  · intro h
    unfold parseJson at h
    split at h
    · cases h
    next v rest hparse =>
    split at h
    · next hend =>
        obtain ⟨w', hw', hrest⟩ := exists_blank rest
        rw [hend, List.append_nil] at hrest
        obtain ⟨w'', t, hw'', ht, hskip⟩ := consumes_parseValue _ _ _ _ hparse
        refine ⟨w ++ w'', t, rest, List.forall_mem_append.2 ⟨hw, hw''⟩, ht, hrest ▸ hw', ?_⟩
        rw [List.append_assoc, ← hskip]
        exact hs
    · cases h
  · rintro ⟨w', v, w'', hw', hv, hw'', rfl⟩
    have hlength : v.length < (w' ++ (v ++ w'')).length + 1 := by
      simp only [List.length_append]
      omega
    obtain ⟨result, hresult⟩ := readable_of_derives hv _ w'' hlength hw''.delimited
    have hend : skipWhitespace w'' = [] := by
      have hblank := skipWhitespace_blank hw'' []
      rwa [List.append_nil] at hblank
    rw [parseJson, skipsWhitespace_parseValue, (skipsWhitespace_parseValue _).blank hw', hresult]
    simp [hend]

/-! ### The standard -/

/-- A text that is not JSON is rejected, and as a line of the store skipped. -/
structure RejectsMalformed (line : Bytes) : Prop where
  rejects : (parseJson line).isSome = true → IsText rfc8259 line
  skips : ¬ IsText rfc8259 line → ∀ out : MetricsStore, loadLine out line = out

/-- **The parser conforms to the standard on a text exactly when the standard takes the tokens of
that text**, should the parser's grammar derive it at all. -/
theorem rejectsMalformed_iff (line : Bytes) :
    RejectsMalformed line ↔
      (IsText parserTokens line → ∀ token ∈ tokens line, rfc8259.Accepts token) := by
  have hiff : ((parseJson line).isSome = true → IsText rfc8259 line) ↔
      (IsText parserTokens line → ∀ token ∈ tokens line, rfc8259.Accepts token) := by
    rw [parseJson_isSome_iff]
    exact forall_congr' fun h => isText_iff_of_isText h rfc8259
  rw [← hiff]
  refine ⟨RejectsMalformed.rejects, fun h => ⟨h, fun hnot out => ?_⟩⟩
  have hnone : parseJson line = none := by
    cases hparse : parseJson line with
    | none => rfl
    | some v => exact absurd (h (by rw [hparse]; rfl)) hnot
  unfold loadLine
  rw [hnone]
  exact ite_self out

/-- A line of the store in which one digit of the seed was damaged. -/
def damagedLine : Bytes :=
  text "\x7b\"type\":\"metric\",\"test_id\":\"F-01\",\"seed\":1-7\x7d"

/-- **The damaged line is read as a record**, with what stands before the damage as its seed. -/
theorem damagedLine_read :
    ¬ RejectsMalformed damagedLine ∧
      (loadLine {} damagedLine).records.map (fun r => (r.testId, r.seed)) =
        [(text "F-01", 1)] := by
  refine ⟨fun h => ?_, by decide +kernel⟩
  have hstandard := h.rejects (by decide +kernel)
  have hmem : Token.number (text "1-7") ∈ tokens damagedLine := by decide +kernel
  have hnumber : text "1-7" ∈ JsonGrammar.number.matches' := hstandard.tokens.1 _ hmem
  exact absurd hnumber (by decide +kernel)

end TftpHarness
