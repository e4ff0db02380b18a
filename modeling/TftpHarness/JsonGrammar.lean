/-
**The grammar of JSON.**

A JSON text is a value with blanks around it.  The structure of values (names, brackets, commas,
colons) is one thing, and what may stand between two quotes or be called a number is another.  The
grammar takes the second as a parameter, so that a parser that is strict about the structure and lax
about its tokens can be compared with the standard.

The tokens of a text can be listed without a derivation, by one pass that knows no brackets.  Two
grammars that share the structure therefore differ on a text exactly in its tokens.

Main definitions:

* `JsonGrammar.TokenClasses` — what a grammar takes for a byte of a string and for a number;
* `JsonGrammar.Derives`, `JsonGrammar.IsText` — the grammar;
* `JsonGrammar.rfc8259` — the token classes of the standard;
* `JsonGrammar.tokens` — the strings and numbers of a text, in order.

Main results:

* `JsonGrammar.Derives.tokens` — a derivation uses the tokens listed, and no others;
* `JsonGrammar.isText_iff_of_isText` — **a text of one grammar is a text of another exactly when the
  other takes all its tokens**.
-/

import Mathlib.Computability.RegularExpressions

set_option relaxedAutoImplicit false
set_option autoImplicit false

namespace JsonGrammar

/-! ### Regular expressions -/

section Letters

variable {α : Type}

/-- The letters that occur in an expression. -/
def letters : RegularExpression α → List α
  | .zero => []
  | .epsilon => []
  | .char a => [a]
  | .plus P Q => letters P ++ letters Q
  | .comp P Q => letters P ++ letters Q
  | .star P => letters P

/-- A match consists of letters of the expression. -/
theorem mem_letters_of_matches {P : RegularExpression α} :
    ∀ {x : List α}, x ∈ P.matches' → ∀ a ∈ x, a ∈ letters P := by
  induction P with
  | zero => rintro x ⟨⟩
  | epsilon =>
      intro x hx a ha
      obtain rfl : x = [] := hx
      cases ha
  | char b =>
      intro x hx a ha
      obtain rfl : x = [b] := hx
      exact ha
  | plus P Q ihP ihQ =>
      rintro x (hx | hx) a ha
      · exact List.mem_append_left _ (ihP hx a ha)
      · exact List.mem_append_right _ (ihQ hx a ha)
  | comp P Q ihP ihQ =>
      rintro x ⟨y, hy, z, hz, rfl⟩ a ha
      rcases List.mem_append.1 ha with ha | ha
      · exact List.mem_append_left _ (ihP hy a ha)
      · exact List.mem_append_right _ (ihQ hz a ha)
  | star P ih =>
      rintro x ⟨pieces, rfl, hpieces⟩ a ha
      obtain ⟨y, hy, ha⟩ := List.mem_flatten.1 ha
      exact ih (hpieces y hy) a ha

end Letters

/-- Any one of the letters. -/
def oneOf (letters : List UInt8) : RegularExpression UInt8 :=
  (letters.map RegularExpression.char).sum

/-- The expression or nothing. -/
def optional (P : RegularExpression UInt8) : RegularExpression UInt8 := 1 + P

def digits : List UInt8 := [48, 49, 50, 51, 52, 53, 54, 55, 56, 57]

/-- One digit or more. -/
def someDigits : RegularExpression UInt8 := oneOf digits * (oneOf digits).star

/-- `-?(0|[1-9][0-9]*)(\.[0-9]+)?([eE][+-]?[0-9]+)?` -/
def number : RegularExpression UInt8 :=
  optional (.char 45) * (.char 48 + oneOf digits.tail * (oneOf digits).star) *
    optional (.char 46 * someDigits) *
    optional (oneOf [101, 69] * optional (oneOf [43, 45]) * someDigits)

/-! ### The grammar -/

/-- Space, tab, line feed and carriage return. -/
def isBlank (c : UInt8) : Bool := c == 32 || c == 9 || c == 10 || c == 13

def Blank (w : List UInt8) : Prop := ∀ c ∈ w, isBlank c = true

/-- The characters of numbers. -/
def isNumberChar (c : UInt8) : Bool :=
  (48 ≤ c && c ≤ 57) || c == 45 || c == 43 || c == 46 || c == 101 || c == 69

/-- What a grammar takes for an unescaped byte of a string and for a number. -/
structure TokenClasses where
  plain : UInt8 → Prop
  number : List UInt8 → Prop
  number_chars : ∀ {t}, number t → t ≠ [] ∧ ∀ c ∈ t, isNumberChar c = true

/-- The letters that may follow a backslash, apart from `u`. -/
def escapes : List UInt8 := [34, 92, 47, 98, 102, 110, 114, 116]

def isHex (c : UInt8) : Bool :=
  (48 ≤ c && c ≤ 57) || (97 ≤ c && c ≤ 102) || (65 ≤ c && c ≤ 70)

/-- What may stand between two quotes. -/
inductive IsBody (plain : UInt8 → Prop) : List UInt8 → Prop
  | nil : IsBody plain []
  | plain {c : UInt8} {b : List UInt8} (hquote : c ≠ 34) (hbackslash : c ≠ 92) (hc : plain c)
      (hb : IsBody plain b) : IsBody plain (c :: b)
  | escape {c : UInt8} {b : List UInt8} (hc : c ∈ escapes) (hb : IsBody plain b) :
      IsBody plain (92 :: c :: b)
  | unicode {h₀ h₁ h₂ h₃ : UInt8} {b : List UInt8}
      (hhex : ∀ h ∈ [h₀, h₁, h₂, h₃], isHex h = true) (hb : IsBody plain b) :
      IsBody plain (92 :: 117 :: h₀ :: h₁ :: h₂ :: h₃ :: b)

/-- `true`, `false` and `null`. -/
def names : List (List UInt8) :=
  [[116, 114, 117, 101], [102, 97, 108, 115, 101], [110, 117, 108, 108]]

/-- What an array or an object lists. -/
inductive Element
  | value
  | member
  deriving DecidableEq

/-- The brackets of an array and of an object. -/
def Element.brackets : Element → UInt8 × UInt8
  | value => (91, 93)
  | member => (123, 125)

/-- One element, or one or more of them between commas. -/
inductive Symbol
  | one (element : Element)
  | many (element : Element)

/-- **The grammar.** -/
inductive Derives (G : TokenClasses) : Symbol → List UInt8 → Prop
  | name {t : List UInt8} (ht : t ∈ names) : Derives G (.one .value) t
  | number {t : List UInt8} (ht : G.number t) : Derives G (.one .value) t
  | string {b : List UInt8} (hb : IsBody G.plain b) : Derives G (.one .value) (34 :: (b ++ [34]))
  | empty (e : Element) {w : List UInt8} (hw : Blank w) :
      Derives G (.one .value) (e.brackets.1 :: (w ++ [e.brackets.2]))
  | list {e : Element} {t : List UInt8} (ht : Derives G (.many e) t) :
      Derives G (.one .value) (e.brackets.1 :: (t ++ [e.brackets.2]))
  | member {b w w' v : List UInt8} (hb : IsBody G.plain b) (hw : Blank w) (hw' : Blank w')
      (hv : Derives G (.one .value) v) :
      Derives G (.one .member) (34 :: (b ++ 34 :: (w ++ 58 :: (w' ++ v))))
  | last {e : Element} {w t w' : List UInt8} (hw : Blank w) (ht : Derives G (.one e) t)
      (hw' : Blank w') : Derives G (.many e) (w ++ (t ++ w'))
  | more {e : Element} {w t w' rest : List UInt8} (hw : Blank w) (ht : Derives G (.one e) t)
      (hw' : Blank w') (hrest : Derives G (.many e) rest) :
      Derives G (.many e) (w ++ (t ++ (w' ++ 44 :: rest)))

/-- A value with blanks around it, and nothing else. -/
def IsText (G : TokenClasses) (t : List UInt8) : Prop :=
  ∃ w v w', Blank w ∧ Derives G (.one .value) v ∧ Blank w' ∧ t = w ++ (v ++ w')

/-- **The token classes of RFC 8259**: no control byte stands in a string unescaped. -/
def rfc8259 : TokenClasses where
  plain c := 32 ≤ c
  number t := t ∈ number.matches'
  number_chars := by
    intro t ht
    refine ⟨?_, fun c hc => ?_⟩
    · rintro rfl
      exact absurd ht (by decide)
    · have hall : (letters number).all isNumberChar = true := by decide +kernel
      exact List.all_eq_true.1 hall c (mem_letters_of_matches ht c hc)

/-! ### The tokens of a text -/

inductive Token
  | string (body : List UInt8)
  | number (token : List UInt8)
  deriving DecidableEq

/-- The grammar takes the token. -/
def TokenClasses.Accepts (G : TokenClasses) : Token → Prop
  | .string body => IsBody G.plain body
  | .number token => G.number token

/-- Where the pass over a text is, and what it has read of a token. -/
inductive Mode
  | outside
  | name
  | number (read : List UInt8)
  | string (read : List UInt8) (escaped : Bool)

def isLetter (c : UInt8) : Bool := 97 ≤ c && c ≤ 122

/-- The mode after a byte outside of tokens. -/
def begin (c : UInt8) : Mode :=
  if c = 34 then .string [] false
  else if isNumberChar c then .number [c]
  else if isLetter c then .name
  else .outside

/-- The tokens from here on. -/
def tokensFrom : Mode → List UInt8 → List Token
  | .number read, [] => [.number read]
  | _, [] => []
  | .outside, c :: s => tokensFrom (begin c) s
  | .name, c :: s => tokensFrom (if isLetter c then .name else begin c) s
  | .number read, c :: s =>
      if isNumberChar c then tokensFrom (.number (read ++ [c])) s
      else .number read :: tokensFrom (begin c) s
  | .string read true, c :: s => tokensFrom (.string (read ++ [c]) false) s
  | .string read false, c :: s =>
      if c = 34 then .string read :: tokensFrom .outside s
      else tokensFrom (.string (read ++ [c]) (c == 92)) s

/-- **The strings and the numbers of a text**, in order. -/
def tokens (t : List UInt8) : List Token := tokensFrom .outside t

/-- What may follow a value. -/
def Delimited (rest : List UInt8) : Prop :=
  ∀ c ∈ rest.head?, isBlank c = true ∨ c = 44 ∨ c = 93 ∨ c = 125

theorem delimited_nil : Delimited [] := by
  intro c hc
  cases hc

theorem delimited_cons {c : UInt8} (s : List UInt8)
    (hc : isBlank c = true ∨ c = 44 ∨ c = 93 ∨ c = 125) : Delimited (c :: s) := by
  intro d hd
  obtain rfl := Option.some.inj hd
  exact hc

/-- Blanks keep what follows delimited. -/
theorem Delimited.blank {w rest : List UInt8} (hw : Blank w) (h : Delimited rest) :
    Delimited (w ++ rest) := by
  cases w with
  | nil => exact h
  | cons c w => exact delimited_cons _ (Or.inl (hw c List.mem_cons_self))

/-- A byte that begins no token. -/
theorem tokens_outside {c : UInt8} (s : List UInt8) (hc : begin c = .outside) :
    tokens (c :: s) = tokens s := by
  rw [tokens, tokensFrom, hc]
  rfl

theorem begin_blank {c : UInt8} (hc : isBlank c = true) : begin c = .outside := by
  simp only [isBlank, Bool.or_eq_true, beq_iff_eq] at hc
  rcases hc with ((rfl | rfl) | rfl) | rfl <;> rfl

theorem tokens_blank {w : List UInt8} (hw : Blank w) (s : List UInt8) :
    tokens (w ++ s) = tokens s := by
  induction w with
  | nil => rfl
  | cons c w ih =>
      rw [List.cons_append, tokens_outside _ (begin_blank (hw c List.mem_cons_self)),
        ih fun d hd => hw d (List.mem_cons_of_mem _ hd)]

/-- A delimiter belongs to no number and no name. -/
theorem not_char_of_delimiter {c : UInt8}
    (hc : isBlank c = true ∨ c = 44 ∨ c = 93 ∨ c = 125) :
    isNumberChar c = false ∧ isLetter c = false := by
  simp only [isBlank, Bool.or_eq_true, beq_iff_eq] at hc
  rcases hc with (((rfl | rfl) | rfl) | rfl) | rfl | rfl | rfl <;> decide

theorem tokensFrom_number {t : List UInt8} (ht : ∀ c ∈ t, isNumberChar c = true)
    {rest : List UInt8} (hrest : Delimited rest) (read : List UInt8) :
    tokensFrom (.number read) (t ++ rest) = .number (read ++ t) :: tokens rest := by
  induction t generalizing read with
  | nil =>
      rw [List.nil_append, List.append_nil]
      cases rest with
      | nil => rfl
      | cons c s =>
          have hnot := (not_char_of_delimiter (hrest c rfl)).1
          rw [tokensFrom, hnot]
          rfl
  | cons c t ih =>
      rw [List.cons_append, tokensFrom, if_pos (ht c List.mem_cons_self),
        ih fun d hd => ht d (List.mem_cons_of_mem _ hd), List.append_assoc, List.singleton_append]

/-- A number in front is the first token. -/
theorem tokens_number {t : List UInt8} (hne : t ≠ []) (ht : ∀ c ∈ t, isNumberChar c = true)
    {rest : List UInt8} (hrest : Delimited rest) :
    tokens (t ++ rest) = .number t :: tokens rest := by
  cases t with
  | nil => exact absurd rfl hne
  | cons c t =>
      have hc := ht c List.mem_cons_self
      have hquote : c ≠ 34 := by
        rintro rfl
        exact absurd hc (by decide)
      have hbegin : begin c = .number [c] := by rw [begin, if_neg hquote, if_pos hc]
      rw [tokens, List.cons_append, tokensFrom, hbegin,
        tokensFrom_number (fun d hd => ht d (List.mem_cons_of_mem _ hd)) hrest]
      rfl

theorem tokensFrom_name {t : List UInt8} (ht : ∀ c ∈ t, isLetter c = true) {rest : List UInt8}
    (hrest : Delimited rest) : tokensFrom .name (t ++ rest) = tokens rest := by
  induction t with
  | nil =>
      cases rest with
      | nil => rfl
      | cons c s =>
          have hnot := (not_char_of_delimiter (hrest c rfl)).2
          rw [List.nil_append, tokensFrom, hnot]
          rfl
  | cons c t ih =>
      rw [List.cons_append, tokensFrom, if_pos (ht c List.mem_cons_self)]
      exact ih fun d hd => ht d (List.mem_cons_of_mem _ hd)

/-- A name in front is no token. -/
theorem tokens_name {t : List UInt8} (ht : t ∈ names) {rest : List UInt8}
    (hrest : Delimited rest) : tokens (t ++ rest) = tokens rest := by
  have hletters : ∀ t ∈ names, ∃ c s, t = c :: s ∧ begin c = .name ∧
      ∀ d ∈ s, isLetter d = true := by
    intro t ht
    simp only [names, List.mem_cons, List.not_mem_nil, or_false] at ht
    rcases ht with rfl | rfl | rfl
    · exact ⟨_, _, rfl, rfl, List.all_eq_true.1 (by decide)⟩
    · exact ⟨_, _, rfl, rfl, List.all_eq_true.1 (by decide)⟩
    · exact ⟨_, _, rfl, rfl, List.all_eq_true.1 (by decide)⟩
  obtain ⟨c, s, rfl, hbegin, hs⟩ := hletters t ht
  rw [tokens, List.cons_append, tokensFrom, hbegin]
  exact tokensFrom_name hs hrest

theorem tokensFrom_string {plain : UInt8 → Prop} {b : List UInt8} (hb : IsBody plain b)
    (read s : List UInt8) :
    tokensFrom (.string read false) (b ++ 34 :: s) = .string (read ++ b) :: tokens s := by
  induction hb generalizing read with
  | nil => simp [tokensFrom, tokens]
  | @plain c b hquote hbackslash hc hb ih =>
      have hfalse : (c == 92) = false := by simpa using hbackslash
      rw [List.cons_append, tokensFrom, if_neg hquote, hfalse, ih, List.append_assoc,
        List.singleton_append]
  | @escape c b hc hb ih =>
      have htrue : ((92 : UInt8) == 92) = true := rfl
      rw [List.cons_append, List.cons_append, tokensFrom, if_neg (by decide), htrue, tokensFrom, ih]
      simp
  | @unicode h₀ h₁ h₂ h₃ b hhex hb ih =>
      -- the digits are neither a quote nor a backslash
      have hdigit : ∀ h ∈ [h₀, h₁, h₂, h₃], h ≠ 34 ∧ (h == 92) = false := by
        intro h hh
        have hx := hhex h hh
        refine ⟨?_, ?_⟩
        · rintro rfl
          exact absurd hx (by decide)
        · rw [beq_eq_false_iff_ne]
          rintro rfl
          exact absurd hx (by decide)
      have h92 : (92 : UInt8) ≠ 34 := by decide
      have hd₀ := hdigit h₀ (by simp)
      have hd₁ := hdigit h₁ (by simp)
      have hd₂ := hdigit h₂ (by simp)
      have hd₃ := hdigit h₃ (by simp)
      simp only [List.cons_append, tokensFrom, if_neg h92, beq_self_eq_true, if_neg hd₀.1, hd₀.2,
        if_neg hd₁.1, hd₁.2, if_neg hd₂.1, hd₂.2, if_neg hd₃.1, hd₃.2, ih]
      simp

/-- A string in front is the first token. -/
theorem tokens_string {plain : UInt8 → Prop} {b : List UInt8} (hb : IsBody plain b)
    (s : List UInt8) : tokens (34 :: (b ++ 34 :: s)) = .string b :: tokens s :=
  tokensFrom_string hb [] s

/-! ### Grammars that differ in their tokens -/

theorem begin_brackets (e : Element) :
    begin e.brackets.1 = .outside ∧ begin e.brackets.2 = .outside := by
  cases e <;> exact ⟨rfl, rfl⟩

theorem delimited_bracket (e : Element) (rest : List UInt8) :
    Delimited (e.brackets.2 :: rest) := by
  cases e
  · exact delimited_cons rest (by simp [Element.brackets])
  · exact delimited_cons rest (by simp [Element.brackets])

/-- **A derivation uses the tokens listed**, it needs of the grammar only that it takes them, and
the grammar does. -/
theorem Derives.tokens {G : TokenClasses} {x : Symbol} {t : List UInt8} (h : Derives G x t) :
    ∃ ts, (∀ rest, Delimited rest →
        JsonGrammar.tokens (t ++ rest) = ts ++ JsonGrammar.tokens rest) ∧
      (∀ token ∈ ts, G.Accepts token) ∧
      ∀ G' : TokenClasses, (∀ token ∈ ts, G'.Accepts token) → Derives G' x t := by
  induction h with
  | name ht => exact ⟨[], fun rest hrest => tokens_name ht hrest, by simp, fun G' _ => .name ht⟩
  | @number t ht =>
      obtain ⟨hne, hchars⟩ := G.number_chars ht
      exact ⟨[.number t], fun rest hrest => tokens_number hne hchars hrest,
        List.forall_mem_singleton.2 ht, fun G' hG' => .number (hG' _ List.mem_cons_self)⟩
  | @string b hb =>
      refine ⟨[.string b], fun rest _ => ?_, List.forall_mem_singleton.2 hb,
        fun G' hG' => .string (hG' _ List.mem_cons_self)⟩
      rw [List.cons_append, List.append_assoc, List.singleton_append, tokens_string hb]
      rfl
  | @empty e w hw =>
      refine ⟨[], fun rest _ => ?_, by simp, fun G' _ => .empty e hw⟩
      rw [List.cons_append, tokens_outside _ (begin_brackets e).1, List.append_assoc,
        tokens_blank hw, List.singleton_append, tokens_outside _ (begin_brackets e).2]
      rfl
  | @list e t ht ih =>
      obtain ⟨ts, htokens, haccepts, hchange⟩ := ih
      refine ⟨ts, fun rest _ => ?_, haccepts, fun G' hG' => .list (hchange G' hG')⟩
      rw [List.cons_append, tokens_outside _ (begin_brackets e).1, List.append_assoc,
        List.singleton_append, htokens _ (delimited_bracket e rest),
        tokens_outside _ (begin_brackets e).2]
  | @member b w w' v hb hw hw' hv ih =>
      obtain ⟨ts, htokens, haccepts, hchange⟩ := ih
      refine ⟨.string b :: ts, fun rest hrest => ?_, List.forall_mem_cons.2 ⟨hb, haccepts⟩,
        fun G' hG' => ?_⟩
      · have hcolon : begin 58 = .outside := rfl
        simp only [List.cons_append, List.append_assoc]
        rw [tokens_string hb, tokens_blank hw, tokens_outside _ hcolon, tokens_blank hw',
          htokens rest hrest]
      · obtain ⟨hbody, hrest⟩ := List.forall_mem_cons.1 hG'
        exact .member hbody hw hw' (hchange G' hrest)
  | @last e w t w' hw ht hw' ih =>
      obtain ⟨ts, htokens, haccepts, hchange⟩ := ih
      refine ⟨ts, fun rest hrest => ?_, haccepts, fun G' hG' => .last hw (hchange G' hG') hw'⟩
      simp only [List.append_assoc]
      rw [tokens_blank hw, htokens _ (hrest.blank hw'), tokens_blank hw']
  | @more e w t w' rest hw ht hw' hrest ih ihrest =>
      obtain ⟨ts, htokens, haccepts, hchange⟩ := ih
      obtain ⟨ts', htokens', haccepts', hchange'⟩ := ihrest
      refine ⟨ts ++ ts', fun after hafter => ?_, List.forall_mem_append.2 ⟨haccepts, haccepts'⟩,
        fun G' hG' => ?_⟩
      · have hcomma : begin 44 = .outside := rfl
        have hdelimited : Delimited (44 :: (rest ++ after)) :=
          delimited_cons _ (Or.inr (Or.inl rfl))
        simp only [List.cons_append, List.append_assoc]
        rw [tokens_blank hw, htokens _ (hdelimited.blank hw'), tokens_blank hw',
          tokens_outside _ hcomma, htokens' after hafter]
      · obtain ⟨hleft, hright⟩ := List.forall_mem_append.1 hG'
        exact .more hw (hchange G' hleft) hw' (hchange' G' hright)

theorem Blank.delimited {w : List UInt8} (hw : Blank w) : Delimited w := by
  have hblank := delimited_nil.blank hw
  rwa [List.append_nil] at hblank

/-- The tokens of a text are those of its derivation. -/
theorem IsText.tokens {G : TokenClasses} {t : List UInt8} (h : IsText G t) :
    (∀ token ∈ JsonGrammar.tokens t, G.Accepts token) ∧
      ∀ G' : TokenClasses, (∀ token ∈ JsonGrammar.tokens t, G'.Accepts token) → IsText G' t := by
  obtain ⟨w, v, w', hw, hv, hw', rfl⟩ := h
  obtain ⟨ts, htokens, haccepts, hchange⟩ := hv.tokens
  have hafter := tokens_blank hw' []
  rw [List.append_nil] at hafter
  have hall : JsonGrammar.tokens (w ++ (v ++ w')) = ts := by
    rw [tokens_blank hw, htokens w' hw'.delimited, hafter]
    exact List.append_nil ts
  rw [hall]
  exact ⟨haccepts, fun G' hG' => ⟨w, v, w', hw, hchange G' hG', hw', rfl⟩⟩

/-- **A text of one grammar is a text of another exactly when the other takes all its tokens.** -/
theorem isText_iff_of_isText {G : TokenClasses} {t : List UInt8} (h : IsText G t)
    (G' : TokenClasses) : IsText G' t ↔ ∀ token ∈ JsonGrammar.tokens t, G'.Accepts token :=
  ⟨fun h' => h'.tokens.1, h.tokens.2 G'⟩

end JsonGrammar
