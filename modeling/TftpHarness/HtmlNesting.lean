/-
**The nesting of an HTML text.**

The tokens of `HtmlTokens` are a flat list.  A document is more: a declaration and one element, and
in an element its content, which is closed before the element is.  Elements like `br` have no
content and are not closed; an element of a drawing may be closed in its own tag.  No tag has an
attribute twice.

The documents are given by a grammar.  Whether a text is one is found out with a stack of the open
elements, and this can be done part after part: a block of markup leaves the elements that are open
around it as they are, whichever these are.

Nothing here is about a particular text.

Main definitions:

* `HtmlTokens.Content`, `HtmlTokens.Document` — **the grammar of documents**;
* `HtmlTokens.Place`, `HtmlTokens.advance`, `HtmlTokens.walk` — the stack of the open elements;
* `HtmlTokens.IsDocument` — a text that is a document;
* `HtmlTokens.Leads`, `HtmlTokens.Nested` — what a part of a text does to the stack, and blocks.

Main results:

* `HtmlTokens.document_iff_walk`, `HtmlTokens.isDocument_iff` — **the stack decides the grammar**;
* `HtmlTokens.Leads.literal`, `HtmlTokens.Leads.inert`, `HtmlTokens.Leads.raw`,
  `HtmlTokens.Leads.block`, `HtmlTokens.nested_flatMap` — texts put together part by part.
-/

import TftpHarness.HtmlTokens

set_option relaxedAutoImplicit false
set_option autoImplicit false

namespace HtmlTokens

/-! ### The grammar -/

/-- `area`, `base`, `br`, `col`, `embed`, `hr`, `img`, `input`, `link`, `meta`, `source`, `track`
and `wbr`. -/
def voidElements : List (List UInt8) :=
  [[97, 114, 101, 97], [98, 97, 115, 101], [98, 114], [99, 111, 108], [101, 109, 98, 101, 100],
    [104, 114], [105, 109, 103], [105, 110, 112, 117, 116], [108, 105, 110, 107],
    [109, 101, 116, 97], [115, 111, 117, 114, 99, 101], [116, 114, 97, 99, 107], [119, 98, 114]]

/-- `svg`. -/
def drawingElement : List UInt8 := [115, 118, 103]

/-- The end tag of an element. -/
def endTag (name : List UInt8) : Token := .tag { closing := true, name := name }

/-- A start tag without an attribute twice. -/
structure Opens (tag : Tag) : Prop where
  opening : tag.closing = false
  distinct : tag.attributes.Nodup

/-- The content of an element, in a drawing or not. -/
inductive Content : Bool → List Token → Prop
  | nil (drawing : Bool) : Content drawing []
  | comment (drawing : Bool) : Content drawing [.comment]
  | append {drawing : Bool} {ts us : List Token} (hts : Content drawing ts)
      (hus : Content drawing us) : Content drawing (ts ++ us)
  | void {tag : Tag} (hopens : Opens tag) (hself : tag.selfClosing = false)
      (hvoid : voidElements.contains tag.name = true) : Content false [.tag tag]
  | selfClosed {tag : Tag} (hopens : Opens tag) (hself : tag.selfClosing = true) :
      Content true [.tag tag]
  | element {drawing : Bool} {tag : Tag} {inner : List Token} (hopens : Opens tag)
      (hself : tag.selfClosing = false)
      (hvoid : drawing = false → voidElements.contains tag.name = false)
      (hinner : Content (drawing || tag.name == drawingElement) inner) :
      Content drawing (.tag tag :: (inner ++ [endTag tag.name]))

/-- **A document**: a declaration and one element. -/
inductive Document : List Token → Prop
  | intro {tag : Tag} {inner : List Token} (hopens : Opens tag) (hself : tag.selfClosing = false)
      (hinner : Content (tag.name == drawingElement) inner) :
      Document (.declaration :: .tag tag :: (inner ++ [endTag tag.name]))

/-! ### The open elements -/

/-- An open element, in a drawing or not. -/
structure Frame where
  drawing : Bool
  name : List UInt8
  deriving DecidableEq

/-- Where in a document a token stands: the innermost open element comes first. -/
inductive Place
  | start
  | prolog
  | within (frame : Frame) (outer : List Frame)
  | finished
  deriving DecidableEq

/-- No name occurs twice. -/
def distinct : List (List UInt8) → Bool
  | [] => true
  | name :: names => !names.contains name && distinct names

theorem distinct_iff {names : List (List UInt8)} : distinct names = true ↔ names.Nodup := by
  induction names with
  | nil => simp [distinct]
  | cons name names ih =>
      rw [distinct, Bool.and_eq_true, Bool.not_eq_true', List.contains_eq_mem,
        decide_eq_false_iff_not, ih, List.nodup_cons]

/-- The element that was open around one that ends. -/
def leave : List Frame → Place
  | [] => .finished
  | frame :: outer => .within frame outer

/-- The place after a token; none where it may not stand. -/
def advance : Place → Token → Option Place
  | .start, .declaration => some .prolog
  | .prolog, .tag tag =>
      if !tag.closing && distinct tag.attributes && !tag.selfClosing then
        some (.within ⟨tag.name == drawingElement, tag.name⟩ [])
      else none
  | .within frame outer, .tag tag =>
      if tag.closing then
        if tag = { closing := true, name := frame.name } then some (leave outer) else none
      else if !distinct tag.attributes then none
      else if tag.selfClosing then
        if frame.drawing then some (.within frame outer) else none
      else if !frame.drawing && voidElements.contains tag.name then some (.within frame outer)
      else
        some (.within ⟨frame.drawing || tag.name == drawingElement, tag.name⟩ (frame :: outer))
  | .within frame outer, .comment => some (.within frame outer)
  | _, _ => none

/-- The place after some tokens. -/
def walk : Place → List Token → Option Place
  | place, [] => some place
  | place, token :: tokens => (advance place token).bind fun place => walk place tokens

theorem walk_append (place : Place) (ts us : List Token) :
    walk place (ts ++ us) = (walk place ts).bind fun place => walk place us := by
  induction ts generalizing place with
  | nil => rfl
  | cons token ts ih =>
      rw [List.cons_append, walk, walk]
      cases advance place token with
      | none => rfl
      | some place => exact ih place

/-! ### What empties the stack -/

/-- What is left of a document in which some elements are open: the content of each and its end
tag. -/
inductive Finishes : Frame → List Frame → List Token → Prop
  | last {frame : Frame} {inner : List Token} (hinner : Content frame.drawing inner) :
      Finishes frame [] (inner ++ [endTag frame.name])
  | outer {frame next : Frame} {outer : List Frame} {inner rest : List Token}
      (hinner : Content frame.drawing inner) (hrest : Finishes next outer rest) :
      Finishes frame (next :: outer) (inner ++ endTag frame.name :: rest)

/-- More content comes first. -/
theorem Finishes.prepend {frame : Frame} {outer : List Frame} {ts rest : List Token}
    (hts : Content frame.drawing ts) (h : Finishes frame outer rest) :
    Finishes frame outer (ts ++ rest) := by
  cases h with
  | last hinner =>
      rw [← List.append_assoc]
      exact .last (hts.append hinner)
  | outer hinner hrest =>
      rw [← List.append_assoc]
      exact .outer (hts.append hinner) hrest

/-- The element that ends is followed by the rest of the one around it. -/
theorem finishes_endTag {frame : Frame} {outer : List Frame} {ts : List Token}
    (h : walk (leave outer) ts = some .finished)
    (ih : ∀ next outer', walk (.within next outer') ts = some .finished →
      Finishes next outer' ts) : Finishes frame outer (endTag frame.name :: ts) := by
  cases outer with
  | nil =>
      cases ts with
      | nil => exact Finishes.last (.nil _)
      | cons token ts => cases h
  | cons next outer => exact Finishes.outer (.nil _) (ih next outer h)

/-- **What empties the stack closes every open element.** -/
theorem finishes_of_walk (ts : List Token) :
    ∀ {frame : Frame} {outer : List Frame},
      walk (.within frame outer) ts = some .finished → Finishes frame outer ts := by
  induction ts with
  | nil =>
      intro frame outer h
      cases h
  | cons token ts ih =>
      intro frame outer h
      rw [walk] at h
      obtain ⟨place, hadvance, h⟩ := Option.bind_eq_some_iff.1 h
      cases token with
      | comment =>
          cases Option.some.inj hadvance
          exact (ih h).prepend (.comment _)
      | declaration => cases hadvance
      | tag tag =>
          simp only [advance] at hadvance
          split at hadvance
          · split at hadvance
            · next htag =>
                cases Option.some.inj hadvance
                rw [htag]
                exact finishes_endTag h fun _ _ => ih
            · cases hadvance
          next hopening =>
          split at hadvance
          · cases hadvance
          next hdistinct =>
          have hopens : Opens tag :=
            ⟨by simpa using hopening, distinct_iff.1 (by simpa using hdistinct)⟩
          split at hadvance
          · next hself =>
              split at hadvance
              · next hdrawing =>
                  cases Option.some.inj hadvance
                  have hcontent := Content.selfClosed hopens hself
                  rw [← hdrawing] at hcontent
                  exact (ih h).prepend hcontent
              · cases hadvance
          next hself =>
          have hself' : tag.selfClosing = false := by simpa using hself
          split at hadvance
          · next hvoid =>
              cases Option.some.inj hadvance
              rw [Bool.and_eq_true, Bool.not_eq_true'] at hvoid
              have hcontent := Content.void hopens hself' hvoid.2
              rw [← hvoid.1] at hcontent
              exact (ih h).prepend hcontent
          · next hvoid =>
              cases Option.some.inj hadvance
              -- the element that begins here ends before the one around it
              obtain ⟨hinner, hrest⟩ : ∃ inner rest, ts = inner ++ endTag tag.name :: rest ∧
                  Content (frame.drawing || tag.name == drawingElement) inner ∧
                    Finishes frame outer rest := by
                cases ih h with
                | outer hinner hrest => exact ⟨_, _, rfl, hinner, hrest⟩
              obtain ⟨rest, rfl, hinner, hrest⟩ := hrest
              have helement := Content.element hopens hself' (by simpa using hvoid) hinner
              have hprepend := hrest.prepend helement
              simpa using hprepend

/-- **What empties the stack is a document.** -/
theorem document_of_walk {ts : List Token} (h : walk .start ts = some .finished) : Document ts := by
  cases ts with
  | nil => cases h
  | cons first ts =>
      cases first with
      | tag _ => cases h
      | comment => cases h
      | declaration =>
          cases ts with
          | nil => cases h
          | cons second ts =>
              cases second with
              | comment => cases h
              | declaration => cases h
              | tag tag =>
                  change (advance .prolog (.tag tag)).bind (fun place => walk place ts) =
                    some .finished at h
                  obtain ⟨place, hadvance, h⟩ := Option.bind_eq_some_iff.1 h
                  simp only [advance] at hadvance
                  split at hadvance
                  · next htag =>
                      cases Option.some.inj hadvance
                      simp only [Bool.and_eq_true, Bool.not_eq_true'] at htag
                      cases finishes_of_walk ts h with
                      | last hinner =>
                          exact .intro ⟨htag.1.1, distinct_iff.1 htag.1.2⟩ htag.2 hinner
                  · cases hadvance

/-- Content leaves the open elements as they are. -/
theorem Content.walk_eq {drawing : Bool} {ts : List Token} (h : Content drawing ts) :
    ∀ name outer, walk (.within ⟨drawing, name⟩ outer) ts =
      some (.within ⟨drawing, name⟩ outer) := by
  induction h with
  | nil drawing => exact fun _ _ => rfl
  | comment drawing => exact fun _ _ => rfl
  | append _ _ hts hus =>
      intro name outer
      rw [walk_append, hts, Option.bind_some, hus]
  | void hopens hself hvoid =>
      intro name outer
      simp [walk, advance, hopens.opening, distinct_iff.2 hopens.distinct, hself,
        List.contains_iff_mem.1 hvoid]
  | selfClosed hopens hself =>
      intro name outer
      simp [walk, advance, hopens.opening, distinct_iff.2 hopens.distinct, hself]
  | @element drawing tag inner hopens hself hvoid _ hinner =>
      intro name outer
      have hopen : advance (.within ⟨drawing, name⟩ outer) (.tag tag) =
          some (.within ⟨drawing || tag.name == drawingElement, tag.name⟩
            (⟨drawing, name⟩ :: outer)) := by
        cases drawing with
        | true => simp [advance, hopens.opening, distinct_iff.2 hopens.distinct, hself]
        | false =>
            rw [advance, hvoid rfl]
            simp [hopens.opening, distinct_iff.2 hopens.distinct, hself]
      rw [walk, hopen, Option.bind_some, walk_append, hinner, Option.bind_some]
      simp [walk, advance, endTag, leave]

/-- **The stack decides the grammar.** -/
theorem document_iff_walk {ts : List Token} : Document ts ↔ walk .start ts = some .finished := by
  refine ⟨?_, document_of_walk⟩
  rintro ⟨hopens, hself, hinner⟩
  rename_i tag inner
  have hopen : advance .prolog (.tag tag) =
      some (.within ⟨tag.name == drawingElement, tag.name⟩ []) := by
    simp [advance, hopens.opening, distinct_iff.2 hopens.distinct, hself]
  change ((advance .prolog (.tag tag)).bind fun place => walk place (inner ++ [endTag tag.name])) =
    some .finished
  rw [hopen, Option.bind_some, walk_append, hinner.walk_eq, Option.bind_some]
  simp [walk, advance, endTag, leave]

/-! ### Texts, part by part -/

/-- A text that is a document, up to its last tag. -/
structure IsDocument (t : List UInt8) : Prop where
  ends : (run .data t).1 = .data
  document : Document (tokens t)

/-- Where markup leads. -/
def through (m : List UInt8) (s : State) (place : Place) : Option (State × Place) :=
  (walk place (run s m).2).map fun place' => ((run s m).1, place')

/-- **A text is a document exactly if it empties the stack.** -/
theorem isDocument_iff {t : List UInt8} :
    IsDocument t ↔ through t .data .start = some (.data, .finished) := by
  rw [through, Option.map_eq_some_iff]
  constructor
  · rintro ⟨hends, hdocument⟩
    exact ⟨_, document_iff_walk.1 hdocument, Prod.ext hends rfl⟩
  · rintro ⟨place, hwalk, heq⟩
    obtain ⟨hends, rfl⟩ := Prod.mk.inj heq
    exact ⟨hends, document_iff_walk.2 hwalk⟩

instance (t : List UInt8) : Decidable (IsDocument t) := decidable_of_iff _ isDocument_iff.symm

/-- Elements that are closed in the wrong order. -/
example : ¬IsDocument "<!DOCTYPE html><p><b></p></b>".toUTF8.data.toList := by decide +kernel

/-- **Where a text leads** from a state of the tokenizer and a place.  No end means that a tag may
not stand where it does, or that inert text is where it is not inert. -/
def Leads (s : State) (place : Place) (t : List UInt8) (after : Option (State × Place)) : Prop :=
  ∀ s' place', after = some (s', place') →
    ∃ found, run s t = (s', found) ∧ walk place found = some place'

/-- **A block of markup**: it leaves the open elements as they are, whichever they are. -/
def Nested (drawing : Bool) (t : List UInt8) : Prop :=
  ∀ name outer, Leads .data (.within ⟨drawing, name⟩ outer) t
    (some (.data, .within ⟨drawing, name⟩ outer))

/-- In an open element, in a drawing or not. -/
def Place.isWithin (drawing : Bool) : Place → Bool
  | .within frame _ => frame.drawing == drawing
  | _ => false

variable {s : State} {place : Place} {t : List UInt8} {after : Option (State × Place)}

theorem Leads.wellFormed (h : Leads .data .start t after)
    (hafter : after = some (.data, .finished)) : IsDocument t := by
  obtain ⟨found, hrun, hwalk⟩ := h _ _ hafter
  rw [isDocument_iff, through, hrun, hwalk]
  rfl

/-- A text is a block if it leads back from every open element. -/
theorem nested_of_leads {drawing : Bool} {after : List UInt8 → List Frame → Option (State × Place)}
    (h : ∀ name outer, Leads .data (.within ⟨drawing, name⟩ outer) t (after name outer))
    (hafter : ∀ name outer, after name outer = some (.data, .within ⟨drawing, name⟩ outer)) :
    Nested drawing t := by
  intro name outer
  rw [← hafter name outer]
  exact h name outer

/-- What follows leads on. -/
theorem Leads.append (h : Leads s place t after) {x : List UInt8}
    (next : State → Place → Option (State × Place))
    (hx : ∀ mid midPlace, Leads mid midPlace x (next mid midPlace)) :
    Leads s place (t ++ x) (after.bind fun p => next p.1 p.2) := by
  intro s' place' h'
  obtain ⟨⟨mid, midPlace⟩, hmid, hnext⟩ := Option.bind_eq_some_iff.1 h'
  obtain ⟨found, hrun, hwalk⟩ := h mid midPlace hmid
  obtain ⟨found', hrun', hwalk'⟩ := hx mid midPlace s' place' hnext
  refine ⟨found ++ found', ?_, ?_⟩
  · rw [run_append, hrun, hrun']
  · rw [walk_append, hwalk]
    exact hwalk'

theorem leads_markup (m : List UInt8) (s : State) (place : Place) :
    Leads s place m (through m s place) := by
  intro s' place' h
  obtain ⟨after, hwalk, heq⟩ := Option.map_eq_some_iff.1 h
  cases heq
  exact ⟨_, rfl, hwalk⟩

/-- Markup follows that is written as a string. -/
theorem Leads.literal (h : Leads s place t after) (l : List Char) :
    Leads s place (t ++ (String.ofList l).toList.flatMap String.utf8EncodeChar)
      (after.bind fun p => through (l.flatMap String.utf8EncodeChar) p.1 p.2) := by
  rw [String.toList_ofList]
  exact h.append _ (leads_markup _)

/-- Markup that is written as a string comes first. -/
theorem leads_literal (s : State) (place : Place) (l : List Char) :
    Leads s place ((String.ofList l).toList.flatMap String.utf8EncodeChar)
      (through (l.flatMap String.utf8EncodeChar) s place) := by
  rw [String.toList_ofList]
  exact leads_markup _ s place

/-- Inert text follows. -/
theorem Leads.inert (h : Leads s place t after) {x : List UInt8} (hx : Inert x) :
    Leads s place (t ++ x) (after.bind fun p => if p.1.passive then some p else none) := by
  refine h.append (fun mid midPlace => if mid.passive then some (mid, midPlace) else none)
    fun mid midPlace s' place' hmid => ?_
  split at hmid
  · next hpassive =>
      cases Option.some.inj hmid
      exact ⟨[], run_inert hpassive hx, rfl⟩
  · cases hmid

/-- The text of an element without tags follows. -/
theorem Leads.raw (h : Leads s place t after) {x : List UInt8} (hx : ∀ c ∈ x, c ≠ 60) :
    Leads s place (t ++ x) (after.bind fun p => if p.1.raw then some p else none) := by
  refine h.append (fun mid midPlace => if mid.raw then some (mid, midPlace) else none)
    fun mid midPlace s' place' hmid => ?_
  split at hmid
  · next hraw =>
      cases Option.some.inj hmid
      exact ⟨[], run_raw hraw hx, rfl⟩
  · cases hmid

/-- A block follows. -/
theorem Leads.block (h : Leads s place t after) {drawing : Bool} {x : List UInt8}
    (hx : Nested drawing x) :
    Leads s place (t ++ x) (after.bind fun p =>
      if p.1 = .data ∧ p.2.isWithin drawing = true then some p else none) := by
  refine h.append (fun mid midPlace =>
    if mid = .data ∧ midPlace.isWithin drawing = true then some (mid, midPlace) else none)
    fun mid midPlace s' place' hmid => ?_
  split at hmid
  · next hwithin =>
      cases Option.some.inj hmid
      obtain ⟨rfl, hwithin⟩ := hwithin
      cases midPlace with
      | within frame outer =>
          obtain rfl : frame.drawing = drawing := by simpa [Place.isWithin] using hwithin
          exact hx frame.name outer _ _ rfl
      | _ => cases hwithin
  · cases hmid

/-- Inert text is a block. -/
theorem nested_inert (drawing : Bool) (ht : Inert t) : Nested drawing t := by
  intro name outer s' place' h
  cases Option.some.inj h
  exact ⟨[], run_inert rfl ht, rfl⟩

theorem nested_append {drawing : Bool} {x : List UInt8} (ht : Nested drawing t)
    (hx : Nested drawing x) : Nested drawing (t ++ x) := by
  intro name outer s' place' h
  refine (ht name outer).block hx s' place' ?_
  rw [Option.bind_some, if_pos ⟨rfl, by simp [Place.isWithin]⟩, h]

/-- **Lists of blocks.** -/
theorem nested_flatMap {β : Type} {drawing : Bool} {f : β → List UInt8} {xs : List β}
    (h : ∀ x ∈ xs, Nested drawing (f x)) : Nested drawing (xs.flatMap f) := by
  induction xs with
  | nil => exact nested_inert drawing inert_nil
  | cons x xs ih =>
      rw [List.flatMap_cons]
      exact nested_append (h x List.mem_cons_self) (ih fun y hy => h y (List.mem_cons_of_mem _ hy))

end HtmlTokens
