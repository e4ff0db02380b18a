/-
**The tags of an HTML text.**

A tokenizer of HTML reads a text byte by byte and finds tags with their attributes, comments and
declarations in it.  The values of the attributes and the text between the tags are not recorded
here, so two texts that differ in nothing else have the same tokens.

When is that so?  Text without angle brackets and quotes leaves the tokenizer where it is, if it is
between tags or in a quoted value.  So a text made of fixed markup with such text in such places has
the tokens of the markup, whatever the text.

Main definitions:

* `HtmlTokens.State`, `HtmlTokens.step`, `HtmlTokens.run` — the tokenizer;
* `HtmlTokens.tokens` — **the tags with the names of their attributes**, comments and declarations;
* `HtmlTokens.Inert` — text without angle brackets and quotes;
* `HtmlTokens.Parallel` — two texts that take the tokenizer through the same tokens;
* `HtmlTokens.Alike` — blocks of markup with the same tokens.

Main results:

* `HtmlTokens.run_append` — a text is read part after part;
* `HtmlTokens.run_inert`, `HtmlTokens.run_raw` — **inert text changes nothing**, nor does text
  without `<` in a style sheet;
* `HtmlTokens.Parallel.literal`, `HtmlTokens.Parallel.hole`, `HtmlTokens.Parallel.raw`,
  `HtmlTokens.Parallel.block` — texts that differ in inert text, put together part by part;
* `HtmlTokens.Alike.tokens_eq` — **alike blocks have the same tokens**.
-/

import Mathlib.Data.List.Forall2

set_option relaxedAutoImplicit false
set_option autoImplicit false

namespace HtmlTokens

/-! ### The tokenizer -/

/-- A tag as far as it is read: the last attribute comes last. -/
structure Tag where
  closing : Bool
  name : List UInt8
  attributes : List (List UInt8) := []
  selfClosing : Bool := false
  deriving DecidableEq

inductive Token
  | tag (tag : Tag)
  | comment
  | declaration
  deriving DecidableEq

/-- Where the tokenizer is. -/
inductive State
  /-- Between tags. -/
  | data
  /-- In an element whose text has no tags but its own end tag; after `<` there; after `</` and some
  letters. -/
  | rawText (element : List UInt8)
  | rawLess (element : List UInt8)
  | rawEnd (element read : List UInt8)
  /-- After `<` and `</`. -/
  | tagOpen
  | endTagOpen
  | tagName (tag : Tag)
  | beforeAttribute (tag : Tag)
  | attributeName (tag : Tag)
  | afterAttributeName (tag : Tag)
  | beforeValue (tag : Tag)
  | quoted (quote : UInt8) (tag : Tag)
  | unquoted (tag : Tag)
  | afterQuoted (tag : Tag)
  | selfClosing (tag : Tag)
  /-- After `<!` and `<!-`. -/
  | markupOpen
  | markupDash
  /-- In a declaration or a malformed comment. -/
  | declaration
  /-- In a comment, after so many dashes or after `--!`. -/
  | comment (dashes : ℕ)
  | commentBang
  deriving DecidableEq

def isSpace (c : UInt8) : Bool := c == 32 || c == 9 || c == 10 || c == 12 || c == 13

def isLetter (c : UInt8) : Bool := (65 ≤ c && c ≤ 90) || (97 ≤ c && c ≤ 122)

/-- Names are compared in lower case. -/
def lower (c : UInt8) : UInt8 := if 65 ≤ c ∧ c ≤ 90 then c + 32 else c

/-- `title`, `textarea`, `style`, `script`, `xmp`, `iframe`, `noembed` and `noframes`. -/
def rawElements : List (List UInt8) :=
  [[116, 105, 116, 108, 101], [116, 101, 120, 116, 97, 114, 101, 97], [115, 116, 121, 108, 101],
    [115, 99, 114, 105, 112, 116], [120, 109, 112], [105, 102, 114, 97, 109, 101],
    [110, 111, 101, 109, 98, 101, 100], [110, 111, 102, 114, 97, 109, 101, 115]]

/-- The tag is complete. -/
def finish (tag : Tag) : State × List Token :=
  (if !tag.closing && rawElements.contains tag.name then .rawText tag.name else .data, [.tag tag])

/-- A new attribute begins. -/
def newAttribute (tag : Tag) (c : UInt8) : State :=
  .attributeName { tag with attributes := tag.attributes ++ [[lower c]] }

/-- The name of the last attribute goes on. -/
def extendAttribute (tag : Tag) (c : UInt8) : Tag :=
  { tag with
    attributes := tag.attributes.dropLast ++ [tag.attributes.getLast?.getD [] ++ [lower c]] }

/-- Before the name of an attribute, or at the end of the tag. -/
def beforeAttributeStep (tag : Tag) (c : UInt8) : State × List Token :=
  if isSpace c then (.beforeAttribute tag, [])
  else if c = 47 then (.selfClosing tag, [])
  else if c = 62 then finish tag
  else (newAttribute tag c, [])

/-- One byte. -/
def step : State → UInt8 → State × List Token
  | .data, c => (if c = 60 then .tagOpen else .data, [])
  | .rawText e, c => (if c = 60 then .rawLess e else .rawText e, [])
  | .rawLess e, c =>
      (if c = 47 then .rawEnd e [] else if c = 60 then .rawLess e else .rawText e, [])
  | .rawEnd e read, c =>
      if isLetter c then (.rawEnd e (read ++ [lower c]), [])
      else if read = e ∧ isSpace c then (.beforeAttribute { closing := true, name := e }, [])
      else if read = e ∧ c = 47 then (.selfClosing { closing := true, name := e }, [])
      else if read = e ∧ c = 62 then finish { closing := true, name := e }
      else (if c = 60 then .rawLess e else .rawText e, [])
  | .tagOpen, c =>
      (if c = 33 then .markupOpen
      else if c = 47 then .endTagOpen
      else if isLetter c then .tagName { closing := false, name := [lower c] }
      else if c = 63 then .declaration
      else if c = 60 then .tagOpen
      else .data, [])
  | .endTagOpen, c =>
      (if isLetter c then .tagName { closing := true, name := [lower c] }
      else if c = 62 then .data
      else .declaration, [])
  | .tagName tag, c =>
      if isSpace c then (.beforeAttribute tag, [])
      else if c = 47 then (.selfClosing tag, [])
      else if c = 62 then finish tag
      else (.tagName { tag with name := tag.name ++ [lower c] }, [])
  | .beforeAttribute tag, c => beforeAttributeStep tag c
  | .attributeName tag, c =>
      if isSpace c then (.afterAttributeName tag, [])
      else if c = 47 then (.selfClosing tag, [])
      else if c = 61 then (.beforeValue tag, [])
      else if c = 62 then finish tag
      else (.attributeName (extendAttribute tag c), [])
  | .afterAttributeName tag, c =>
      if isSpace c then (.afterAttributeName tag, [])
      else if c = 61 then (.beforeValue tag, [])
      else beforeAttributeStep tag c
  | .beforeValue tag, c =>
      if isSpace c then (.beforeValue tag, [])
      else if c = 34 ∨ c = 39 then (.quoted c tag, [])
      else if c = 62 then finish tag
      else (.unquoted tag, [])
  | .quoted quote tag, c => (if c = quote then .afterQuoted tag else .quoted quote tag, [])
  | .unquoted tag, c =>
      if isSpace c then (.beforeAttribute tag, [])
      else if c = 62 then finish tag
      else (.unquoted tag, [])
  | .afterQuoted tag, c => beforeAttributeStep tag c
  | .selfClosing tag, c =>
      if c = 62 then finish { tag with selfClosing := true } else beforeAttributeStep tag c
  | .markupOpen, c =>
      if c = 45 then (.markupDash, [])
      else if c = 62 then (.data, [.declaration])
      else (.declaration, [])
  | .markupDash, c =>
      -- a comment may end at once
      if c = 45 then (.comment 2, [])
      else if c = 62 then (.data, [.declaration])
      else (.declaration, [])
  | .declaration, c => if c = 62 then (.data, [.declaration]) else (.declaration, [])
  | .comment dashes, c =>
      if c = 45 then (.comment (min (dashes + 1) 2), [])
      else if dashes = 2 ∧ c = 62 then (.data, [.comment])
      else if dashes = 2 ∧ c = 33 then (.commentBang, [])
      else (.comment 0, [])
  | .commentBang, c =>
      if c = 62 then (.data, [.comment]) else (.comment (if c = 45 then 1 else 0), [])

/-- A text from a state on: the state after it, and the tokens completed. -/
def run : State → List UInt8 → State × List Token
  | s, [] => (s, [])
  | s, c :: t =>
      let (s, first) := step s c
      let (s, rest) := run s t
      (s, first ++ rest)

/-- **The tokens of a text.** -/
def tokens (t : List UInt8) : List Token := (run .data t).2

theorem run_cons (s : State) (c : UInt8) (t : List UInt8) :
    run s (c :: t) = ((run (step s c).1 t).1, (step s c).2 ++ (run (step s c).1 t).2) := rfl

/-- **A text is read part after part.** -/
theorem run_append (s : State) (t u : List UInt8) :
    run s (t ++ u) = ((run (run s t).1 u).1, (run s t).2 ++ (run (run s t).1 u).2) := by
  induction t generalizing s with
  | nil => rfl
  | cons c t ih => simp only [List.cons_append, run_cons, ih, List.append_assoc]

/-! ### Inert text -/

/-- Between tags or in a value between double quotes. -/
def State.passive : State → Bool
  | .data => true
  | .rawText _ => true
  | .quoted quote _ => quote == 34
  | _ => false

/-- Text without angle brackets and quotes. -/
def Inert (t : List UInt8) : Prop := ∀ c ∈ t, c ≠ 60 ∧ c ≠ 62 ∧ c ≠ 34 ∧ c ≠ 39

theorem inert_nil : Inert [] := by
  intro c hc
  cases hc

theorem Inert.append {t u : List UInt8} (ht : Inert t) (hu : Inert u) : Inert (t ++ u) :=
  List.forall_mem_append.2 ⟨ht, hu⟩

/-- **Inert text changes nothing** where the tokenizer is between tags or in a value. -/
theorem run_inert {s : State} (hs : s.passive = true) {t : List UInt8} (ht : Inert t) :
    run s t = (s, []) := by
  induction t with
  | nil => rfl
  | cons c t ih =>
      obtain ⟨⟨hless, -, hquote, -⟩, hrest⟩ := List.forall_mem_cons.1 ht
      have hstep : step s c = (s, []) := by
        cases s with
        | data => simp [step, hless]
        | rawText e => simp [step, hless]
        | quoted quote tag =>
            obtain rfl : quote = 34 := by simpa [State.passive] using hs
            simp [step, hquote]
        | _ => cases hs
      rw [run_cons, hstep, ih hrest]
      rfl

/-- In an element whose text has no tags. -/
def State.raw : State → Bool
  | .rawText _ => true
  | _ => false

/-- In such an element any text without `<` is text. -/
theorem run_raw {s : State} (hs : s.raw = true) {t : List UInt8} (ht : ∀ c ∈ t, c ≠ 60) :
    run s t = (s, []) := by
  induction t with
  | nil => rfl
  | cons c t ih =>
      obtain ⟨hless, hrest⟩ := List.forall_mem_cons.1 ht
      have hstep : step s c = (s, []) := by
        cases s with
        | rawText e => simp [step, hless]
        | _ => cases hs
      rw [run_cons, hstep, ih hrest]
      rfl

/-! ### Texts with the same tokens -/

/-- **Two texts take the tokenizer through the same tokens**, from the one state to the other.  No
final state means that the texts put inert text where it is not inert. -/
def Parallel (s : State) (t u : List UInt8) (after : Option State) : Prop :=
  ∀ s', after = some s' → ∃ found, run s t = (s', found) ∧ run s u = (s', found)

/-- Blocks of markup: texts with the same tokens, between tags at both ends. -/
def Alike (t u : List UInt8) : Prop := Parallel .data t u (some .data)

theorem Alike.tokens_eq {t u : List UInt8} (h : Alike t u) : tokens t = tokens u := by
  obtain ⟨found, ht, hu⟩ := h _ rfl
  rw [tokens, tokens, ht, hu]

variable {s : State} {after : Option State} {t u : List UInt8}

/-- What follows a block has its own tokens. -/
theorem Alike.tokens_append (h : Alike t u) (x : List UInt8) :
    tokens (t ++ x) = tokens u ++ tokens x := by
  obtain ⟨found, ht, hu⟩ := h _ rfl
  simp only [tokens, run_append, ht, hu]

/-- Texts that follow alike blocks differ in their tokens if they do so alone. -/
theorem Alike.tokens_append_iff (h : Alike t u) {x y : List UInt8} :
    tokens (t ++ x) = tokens (u ++ y) ↔ tokens x = tokens y := by
  obtain ⟨found, ht, hu⟩ := h _ rfl
  simp only [tokens, run_append, ht, hu, List.append_cancel_left_eq]

/-- The same markup on both sides. -/
theorem Parallel.start (s : State) (m : List UInt8) : Parallel s m m (some (run s m).1) := by
  intro s' h
  obtain rfl := Option.some.inj h
  exact ⟨_, rfl, rfl⟩

/-- The same markup follows. -/
theorem Parallel.markup (h : Parallel s t u after) (m : List UInt8) :
    Parallel s (t ++ m) (u ++ m) (after.map fun s' => (run s' m).1) := by
  intro s' hs'
  obtain ⟨mid, hmid, rfl⟩ := Option.map_eq_some_iff.1 hs'
  obtain ⟨found, ht, hu⟩ := h mid hmid
  exact ⟨found ++ (run mid m).2, by rw [run_append, ht], by rw [run_append, hu]⟩

/-- Markup that is written as a string: its characters are at hand, and need not be decoded. -/
theorem Parallel.startLiteral (s : State) (l : List Char) :
    Parallel s ((String.ofList l).toList.flatMap String.utf8EncodeChar)
      ((String.ofList l).toList.flatMap String.utf8EncodeChar)
      (some (run s (l.flatMap String.utf8EncodeChar)).1) := by
  rw [String.toList_ofList]
  exact Parallel.start s _

theorem Parallel.literal (h : Parallel s t u after) (l : List Char) :
    Parallel s (t ++ (String.ofList l).toList.flatMap String.utf8EncodeChar)
      (u ++ (String.ofList l).toList.flatMap String.utf8EncodeChar)
      (after.map fun s' => (run s' (l.flatMap String.utf8EncodeChar)).1) := by
  rw [String.toList_ofList]
  exact h.markup _

/-- Inert text follows, and may differ. -/
theorem Parallel.hole (h : Parallel s t u after) {x y : List UInt8} (hx : Inert x)
    (hy : Inert y) : Parallel s (t ++ x) (u ++ y) (after.filter State.passive) := by
  intro s' hs'
  obtain ⟨hmid, hpassive⟩ := Option.filter_eq_some_iff.1 hs'
  obtain ⟨found, ht, hu⟩ := h s' hmid
  refine ⟨found, ?_, ?_⟩
  · rw [run_append, ht, run_inert hpassive hx, List.append_nil]
  · rw [run_append, hu, run_inert hpassive hy, List.append_nil]

/-- The same inert text follows. -/
theorem Parallel.inert (h : Parallel s t u after) {x : List UInt8} (hx : Inert x) :
    Parallel s (t ++ x) (u ++ x) (after.filter State.passive) :=
  h.hole hx hx

/-- The text of an element without tags follows. -/
theorem Parallel.raw (h : Parallel s t u after) {x : List UInt8} (hx : ∀ c ∈ x, c ≠ 60) :
    Parallel s (t ++ x) (u ++ x) (after.filter State.raw) := by
  intro s' hs'
  obtain ⟨hmid, hraw⟩ := Option.filter_eq_some_iff.1 hs'
  obtain ⟨found, ht, hu⟩ := h s' hmid
  refine ⟨found, ?_, ?_⟩
  · rw [run_append, ht, run_raw hraw hx, List.append_nil]
  · rw [run_append, hu, run_raw hraw hx, List.append_nil]

/-- A block follows. -/
theorem Parallel.block (h : Parallel s t u after) {x y : List UInt8} (hxy : Alike x y) :
    Parallel s (t ++ x) (u ++ y) (after.filter (· = .data)) := by
  intro s' hs'
  obtain ⟨hmid, hdata⟩ := Option.filter_eq_some_iff.1 hs'
  obtain rfl : s' = .data := by simpa using hdata
  obtain ⟨found, ht, hu⟩ := h _ hmid
  obtain ⟨found', hx, hy⟩ := hxy _ rfl
  refine ⟨found ++ found', ?_, ?_⟩
  · rw [run_append, ht, hx]
  · rw [run_append, hu, hy]

/-- The texts are blocks if they lead back between tags. -/
theorem Parallel.alike (h : Parallel .data t u after) (hafter : after = some .data) :
    Alike t u := by
  rw [hafter] at h
  exact h

theorem Alike.append {x y : List UInt8} (h : Alike t u) (hxy : Alike x y) :
    Alike (t ++ x) (u ++ y) :=
  (Parallel.block h hxy).alike rfl

/-- Inert text is a block. -/
theorem alike_of_inert (ht : Inert t) (hu : Inert u) : Alike t u :=
  ((Parallel.start .data []).hole ht hu).alike rfl

/-- Markup that leads back between tags is a block. -/
theorem alike_markup {m : List UInt8} (h : (run .data m).1 = .data) : Alike m m :=
  (Parallel.start .data m).alike (congrArg some h)

/-- Lists of blocks. -/
theorem alike_flatMap {β γ : Type} {f : β → List UInt8} {g : γ → List UInt8} {xs : List β}
    {ys : List γ} (h : List.Forall₂ (fun x y => Alike (f x) (g y)) xs ys) :
    Alike (xs.flatMap f) (ys.flatMap g) := by
  induction h with
  | nil => exact Parallel.start .data []
  | cons hxy _ ih => exact hxy.append ih

/-- Lists of as many blocks, any two of which are alike. -/
theorem alike_flatMap_of_length {β : Type} {f : β → List UInt8} {xs ys : List β}
    (hlength : xs.length = ys.length) (h : ∀ x ∈ xs, ∀ y ∈ ys, Alike (f x) (f y)) :
    Alike (xs.flatMap f) (ys.flatMap f) := by
  refine alike_flatMap (List.forall₂_iff_get.2 ⟨hlength, fun i hx hy => ?_⟩)
  exact h _ (List.get_mem _ _) _ (List.get_mem _ _)

/-- A list of blocks of which each was changed. -/
theorem alike_flatMap_map {β : Type} {f : β → List UInt8} {g : β → β} {xs : List β}
    (h : ∀ x ∈ xs, Alike (f (g x)) (f x)) : Alike ((xs.map g).flatMap f) (xs.flatMap f) :=
  alike_flatMap (List.forall₂_map_left_iff.2 (List.forall₂_same.2 h))

end HtmlTokens
