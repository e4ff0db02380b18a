/-
**Reading back what was written.**

Parsing the text of a value gives the value again, but for its numbers: a number comes back as what
its printed form denotes, and a value with a number that is not finite does not come back at all,
since neither `inf` nor `nan` is a number to the parser.  `JsonValue.reread` says what comes back,
and the theorem is an equation: the parser fails exactly when `JsonValue.reread` does.

Main definitions:

* `TftpHarness.JsonValue.reread` — the value that comes back.

Main results:

* `TftpHarness.parseString_escape` — **the string parser undoes the escaping**, for all bytes;
* `TftpHarness.parseJson_serialize` — **parsing a serialized value gives its rereading**, in either
  layout.
-/

import TftpHarness.Json

set_option relaxedAutoImplicit false
set_option autoImplicit false

namespace TftpHarness

/-! ### What comes back -/

/-- What is read back for a number. -/
def rereadNumber (value : Double) (isInteger : Bool) : Option JsonValue :=
  if value.isFinite then numberOfToken (formatNumber value isInteger) else none

mutual

/-- What is read back for a value. -/
def JsonValue.reread : JsonValue → Option JsonValue
  | .null => some .null
  | .boolean value => some (.boolean value)
  | .number value isInteger => rereadNumber value isInteger
  | .string value => some (.string value)
  | .array items => rereadItems (.array []) items
  | .object members => rereadMembers (.object []) members

/-- The items read back, added to an array. -/
def rereadItems (out : JsonValue) : List JsonValue → Option JsonValue
  | [] => some out
  | item :: items =>
      match item.reread with
      | none => none
      | some w => rereadItems (out.append w) items

/-- The members read back, set on an object. -/
def rereadMembers (out : JsonValue) : List (Bytes × JsonValue) → Option JsonValue
  | [] => some out
  | (key, value) :: members =>
      match value.reread with
      | none => none
      | some w => rereadMembers (out.set key w) members

end

/-- Induction on a value, with the items and the members of it at hand. -/
theorem JsonValue.tree_induction {P : JsonValue → Prop} (null : P .null)
    (boolean : ∀ value, P (.boolean value))
    (number : ∀ value isInteger, P (.number value isInteger))
    (string : ∀ value, P (.string value))
    (array : ∀ items, (∀ item ∈ items, P item) → P (.array items))
    (object : ∀ members : List (Bytes × JsonValue), (∀ member ∈ members, P member.2) →
      P (.object members)) (v : JsonValue) : P v := by
  refine @JsonValue.rec P (fun items => ∀ item ∈ items, P item)
    (fun members => ∀ member ∈ members, P member.2) (fun member => P member.2)
    null boolean number string array object ?_ ?_ ?_ ?_ ?_ v
  · intro item hitem
    cases hitem
  · intro item items hitem hitems other hother
    rcases List.mem_cons.1 hother with rfl | hother
    · exact hitem
    · exact hitems other hother
  · intro member hmember
    cases hmember
  · intro member members hmember hmembers other hother
    rcases List.mem_cons.1 hother with rfl | hother
    · exact hmember
    · exact hmembers other hother
  · intro key value hvalue
    exact hvalue

/-! ### Strings -/

theorem hexValue_hexDigit {d : ℕ} (h : d < 16) : hexValue (hexDigit d) = some d := by
  interval_cases d <;> rfl

/-- One escaped byte is read as the byte. -/
theorem parseString_escapeByte (out : Bytes) (c : UInt8) (rest : Bytes) :
    parseString out (escapeByte c ++ rest) = parseString (out ++ [c]) rest := by
  unfold escapeByte
  split
  · next h => subst h; rfl
  split
  · next h => subst h; rfl
  split
  · next h => subst h; rfl
  split
  · next h => subst h; rfl
  split
  · next h => subst h; rfl
  split
  · next h => subst h; rfl
  split
  · next h => subst h; rfl
  split
  · next hquote hbackslash _ _ _ _ _ hcontrol =>
      have hlt : c.toNat < 32 := hcontrol
      have hhigh := hexValue_hexDigit (by omega : c.toNat / 16 < 16)
      have hlow := hexValue_hexDigit (by omega : c.toNat % 16 < 16)
      have hcode : hexCode 48 48 (hexDigit (c.toNat / 16)) (hexDigit (c.toNat % 16)) =
          some c.toNat := by
        have hzero : hexValue 48 = some 0 := rfl
        simp only [hexCode, hzero, hhigh, hlow, Option.bind_eq_bind, Option.bind_some]
        congr 1
        omega
      have hencode : encodeCode c.toNat = [c] := by
        rw [encodeCode, if_pos (by omega), UInt8.ofNat_toNat]
      simp only [List.cons_append, List.nil_append]
      rw [parseString]
      simp only [hcode, hencode]
      rfl
  · next hquote hbackslash _ _ _ _ _ _ =>
      rw [List.cons_append, List.nil_append, parseString.eq_def]
      simp only [if_neg hquote, if_neg hbackslash]

/-- **The string parser undoes the escaping**, for all bytes. -/
theorem parseString_escape (out raw rest : Bytes) :
    parseString out (raw.flatMap escapeByte ++ 34 :: rest) = some (out ++ raw, rest) := by
  induction raw generalizing out with
  | nil =>
      rw [List.flatMap_nil, List.nil_append, parseString.eq_def, List.append_nil]
      rfl
  | cons c raw ih =>
      rw [List.flatMap_cons, List.append_assoc, parseString_escapeByte, ih, List.append_assoc,
        List.singleton_append]

/-! ### Numbers -/

theorem isNumberByte_of_isDigit {b : UInt8} (h : isDigit b = true) : isNumberByte b = true := by
  simp [isNumberByte, h]

/-- Only number bytes. -/
def NumberText (s : Bytes) : Prop := ∀ b ∈ s, isNumberByte b = true

theorem numberText_append {s t : Bytes} (hs : NumberText s) (ht : NumberText t) :
    NumberText (s ++ t) := by
  intro b hb
  rcases List.mem_append.1 hb with hb | hb
  · exact hs b hb
  · exact ht b hb

theorem numberText_cons {b : UInt8} {s : Bytes} (hb : isNumberByte b = true) (hs : NumberText s) :
    NumberText (b :: s) := by
  intro c hc
  rcases List.mem_cons.1 hc with rfl | hc
  · exact hb
  · exact hs c hc

theorem numberText_nil : NumberText [] := by
  intro b hb
  cases hb

theorem numberText_toDecimal (n : ℕ) : NumberText (toDecimal n) := by
  intro b hb
  exact isNumberByte_of_isDigit (isDigit_of_mem_toDecimal hb)

theorem numberText_sign (negative : Prop) [Decidable negative] :
    NumberText (if negative then [45] else []) := by
  split
  · exact numberText_cons rfl numberText_nil
  · exact numberText_nil

theorem numberText_signedDecimal (n : ℤ) : NumberText (signedDecimal n) :=
  numberText_append (numberText_sign _) (numberText_toDecimal _)

theorem numberText_placePoint {digits : Bytes} (h : NumberText digits) (k : ℕ) :
    NumberText (placePoint digits k) := by
  refine numberText_append (fun b hb => h b (List.mem_of_mem_take hb)) ?_
  split
  · exact numberText_nil
  · refine numberText_cons rfl fun b hb => ?_
    exact h b (List.mem_of_mem_drop ((List.rdropWhile_prefix _ _).subset hb))

theorem numberText_exponentText (x : ℤ) : NumberText (exponentText x) := by
  refine numberText_cons rfl (numberText_cons ?_ (numberText_append ?_ (numberText_toDecimal _)))
  · split <;> rfl
  · split
    · exact numberText_cons rfl numberText_nil
    · exact numberText_nil

theorem numberText_formatGeneral (p : ℕ) (q : ℚ) : NumberText (formatGeneral p q) := by
  unfold formatGeneral
  split
  · exact numberText_cons rfl numberText_nil
  refine numberText_append (numberText_sign _) ?_
  have hdigits := numberText_toDecimal (significantDigits p q).1
  split
  · split
    · exact numberText_placePoint hdigits _
    · refine numberText_placePoint (numberText_append ?_ hdigits) _
      intro b hb
      rw [(List.mem_replicate.1 hb).2]
      rfl
  · exact numberText_append (numberText_placePoint hdigits _) (numberText_exponentText _)

theorem numberText_formatNumber (x : FiniteDouble) (isInteger : Bool) :
    NumberText (formatNumber (.finite x) isInteger) := by
  unfold formatNumber
  split
  · exact numberText_signedDecimal _
  split
  · exact numberText_signedDecimal _
  · exact numberText_formatGeneral 6 x.value

/-- A numeral is not empty: it is read as a number. -/
theorem formatNumber_ne_nil (x : FiniteDouble) (isInteger : Bool) :
    formatNumber (.finite x) isInteger ≠ [] := by
  have hnil : readNumeral [] = none := rfl
  intro h
  unfold formatNumber at h
  split at h
  · have hread := readNumeral_signedDecimal (Double.toInt64 (.finite x))
    rw [h, hnil] at hread
    cases hread
  split at h
  · have hread := readNumeral_signedDecimal (Double.toInt64 (.finite x))
    rw [h, hnil] at hread
    cases hread
  · have hread := readNumeral_formatGeneral (by decide : 1 ≤ 6) x.value
    rw [Double.format] at h
    rw [h, hnil] at hread
    cases hread

/-- What may follow a number: nothing that could be taken for a part of it. -/
def EndsNumber (rest : Bytes) : Prop := ∀ b ∈ rest.head?, isNumberByte b = false

theorem endsNumber_nil : EndsNumber [] := by
  intro b hb
  cases hb

theorem endsNumber_cons {b : UInt8} (rest : Bytes) (h : isNumberByte b = false) :
    EndsNumber (b :: rest) := by
  intro c hc
  obtain rfl : b = c := by simpa using hc
  exact h

/-- The parser takes the whole of a numeral and no more. -/
theorem parseNumber_append {token rest : Bytes} (htoken : NumberText token) (hne : token ≠ [])
    (hrest : EndsNumber rest) :
    parseNumber (token ++ rest) = (numberOfToken token).map fun v => (v, rest) := by
  have hrest' : rest.takeWhile isNumberByte = [] ∧ rest.dropWhile isNumberByte = rest := by
    cases rest with
    | nil => exact ⟨rfl, rfl⟩
    | cons b rest =>
        have hb : ¬ isNumberByte b = true := by simp [hrest b rfl]
        exact ⟨List.takeWhile_cons_of_neg hb, List.dropWhile_cons_of_neg hb⟩
  obtain ⟨c, token, rfl⟩ := List.exists_cons_of_ne_nil hne
  unfold parseNumber
  rw [List.takeWhile_append_of_pos htoken, List.dropWhile_append_of_pos htoken, hrest'.1, hrest'.2,
    List.append_nil]

theorem ne_of_isNumberByte {c d : UInt8} (hc : isNumberByte c = true)
    (hd : isNumberByte d = false) :
    c ≠ d := by
  rintro rfl
  rw [hc] at hd
  cases hd

theorem isWhitespace_of_isNumberByte {c : UInt8} (h : isNumberByte c = true) :
    isWhitespace c = false := by
  have h₁ : c ≠ 32 := ne_of_isNumberByte h rfl
  have h₂ : c ≠ 9 := ne_of_isNumberByte h rfl
  have h₃ : c ≠ 10 := ne_of_isNumberByte h rfl
  have h₄ : c ≠ 13 := ne_of_isNumberByte h rfl
  simp [isWhitespace, h₁, h₂, h₃, h₄]

/-- No value starts with white space. -/
theorem skipWhitespace_cons {c : UInt8} (s : Bytes) (h : isWhitespace c = false) :
    skipWhitespace (c :: s) = c :: s :=
  List.dropWhile_cons_of_neg (by simp [h])

/-- A number byte leads to the number parser. -/
theorem parseValue_numberByte (depth : ℕ) {c : UInt8} (s : Bytes) (h : isNumberByte c = true) :
    parseValue (depth + 1) (c :: s) = parseNumber (c :: s) := by
  have hobject : c ≠ 123 := ne_of_isNumberByte h rfl
  have harray : c ≠ 91 := ne_of_isNumberByte h rfl
  have hstring : c ≠ 34 := ne_of_isNumberByte h rfl
  have htrue : c ≠ 116 := ne_of_isNumberByte h rfl
  have hfalse : c ≠ 102 := ne_of_isNumberByte h rfl
  have hnull : c ≠ 110 := ne_of_isNumberByte h rfl
  unfold parseValue
  rw [skipWhitespace_cons s (isWhitespace_of_isNumberByte h)]
  simp only [hobject, harray, hstring, htrue, hfalse, hnull, or_self, if_false]

/-- A finite number is read back from its text. -/
theorem parseValue_finite (depth : ℕ) (x : FiniteDouble) (isInteger : Bool) {rest : Bytes}
    (hrest : EndsNumber rest) :
    parseValue (depth + 1) (formatNumber (.finite x) isInteger ++ rest) =
      (rereadNumber (.finite x) isInteger).map fun v => (v, rest) := by
  have htext := numberText_formatNumber x isInteger
  have hne := formatNumber_ne_nil x isInteger
  have hread : rereadNumber (.finite x) isInteger =
      numberOfToken (formatNumber (.finite x) isInteger) := rfl
  rw [hread, ← parseNumber_append htext hne hrest]
  obtain ⟨c, token, htoken⟩ := List.exists_cons_of_ne_nil hne
  rw [htoken] at htext ⊢
  exact parseValue_numberByte depth _ (htext c (List.mem_cons_self ..))

/-- An infinity or a NaN is not read at all. -/
theorem parseValue_not_finite (depth : ℕ) {value : Double} (h : value.isFinite = false)
    (isInteger : Bool) (rest : Bytes) :
    parseValue (depth + 1) (formatNumber value isInteger ++ rest) = none := by
  have hformat : formatNumber value isInteger = value.format 6 := by
    cases value with
    | finite x => cases h
    | infinite negative => simp [formatNumber, Double.isIntegerBelow]
    | notANumber negative => simp [formatNumber, Double.isIntegerBelow]
  rw [hformat]
  cases value with
  | finite x => cases h
  | infinite negative => cases negative <;> rfl
  | notANumber negative => cases negative <;> rfl

/-! ### Layout -/

@[simp] theorem skipWhitespace_indent (pretty : Bool) (depth : ℕ) (s : Bytes) :
    skipWhitespace (indent pretty depth ++ s) = skipWhitespace s := by
  refine List.dropWhile_append_of_pos fun b hb => ?_
  cases pretty with
  | false => cases hb
  | true =>
      rcases List.mem_cons.1 hb with rfl | hb
      · rfl
      · rw [(List.mem_replicate.1 hb).2]
        rfl

/-- The element parser skips white space in front. -/
def SkipsWhitespace {α : Type} (element : Bytes → Option (α × Bytes)) : Prop :=
  ∀ s, element (skipWhitespace s) = element s

theorem skipWhitespace_idem (s : Bytes) : skipWhitespace (skipWhitespace s) = skipWhitespace s :=
  List.dropWhile_idempotent (p := isWhitespace) s

theorem skipsWhitespace_parseValue (depth : ℕ) : SkipsWhitespace (parseValue depth) := by
  intro s
  cases depth with
  | zero => rfl
  | succ depth =>
      unfold parseValue
      rw [skipWhitespace_idem]

theorem skipsWhitespace_parseMember (value : Bytes → Option (JsonValue × Bytes)) :
    SkipsWhitespace (parseMember value) := by
  intro s
  unfold parseMember
  rw [skipWhitespace_idem]

section Elements

variable {α : Type} {element : Bytes → Option (α × Bytes)} {add : JsonValue → α → JsonValue}
  {close : UInt8}

theorem SkipsWhitespace.indent (h : SkipsWhitespace element) (pretty : Bool) (depth : ℕ)
    (s : Bytes) : element (indent pretty depth ++ s) = element s := by
  rw [← h, skipWhitespace_indent, h]

/-- A round whose element is followed by a comma. -/
theorem parseElements_comma {rounds : ℕ} {out : JsonValue} {s rest : Bytes} {x : α}
    (h : element s = some (x, 44 :: rest)) :
    parseElements element add close (rounds + 1) out s =
      parseElements element add close rounds (add out x) rest := by
  simp only [parseElements, h, skipWhitespace_cons rest (rfl : isWhitespace 44 = false), if_true]

/-- The round whose element is followed by the closing bracket. -/
theorem parseElements_close {rounds : ℕ} {out : JsonValue} {s rest : Bytes} {x : α} {pretty : Bool}
    {depth : ℕ} (hclose : isWhitespace close = false ∧ close ≠ 44)
    (h : element s = some (x, indent pretty depth ++ close :: rest)) :
    parseElements element add close (rounds + 1) out s = some (add out x, rest) := by
  simp only [parseElements, h, skipWhitespace_indent, skipWhitespace_cons rest hclose.1, if_true,
    if_neg hclose.2]

theorem parseElements_none {rounds : ℕ} {out : JsonValue} {s : Bytes} (h : element s = none) :
    parseElements element add close (rounds + 1) out s = none := by
  simp only [parseElements, h]

end Elements

/-- What follows an element ends a number. -/
theorem endsNumber_indent (pretty : Bool) (depth : ℕ) {b : UInt8} (rest : Bytes)
    (h : isNumberByte b = false) : EndsNumber (indent pretty depth ++ b :: rest) := by
  cases pretty with
  | false => exact endsNumber_cons rest h
  | true => exact endsNumber_cons _ rfl

/-! ### Sequences -/

/-- Elements one after the other, with a comma before each but the first. -/
def joinElements (pretty : Bool) (depth : ℕ) (first : Bool) : List Bytes → Bytes
  | [] => []
  | piece :: pieces =>
      (if first then [] else [44]) ++ indent pretty (depth + 1) ++ piece ++
        joinElements pretty depth false pieces

theorem joinElements_false_cons (pretty : Bool) (depth : ℕ) (piece : Bytes) (pieces : List Bytes) :
    joinElements pretty depth false (piece :: pieces) =
      44 :: joinElements pretty depth true (piece :: pieces) := by
  simp only [joinElements, if_true, Bool.false_eq_true, if_false, List.nil_append, List.cons_append]

/-- Each element but the first takes a comma. -/
theorem length_le_joinElements (pretty : Bool) (depth : ℕ) (pieces : List Bytes) :
    pieces.length ≤ (joinElements pretty depth false pieces).length := by
  induction pieces with
  | nil => exact Nat.zero_le _
  | cons piece pieces ih =>
      rw [joinElements]
      simp only [List.length_append, List.length_cons]
      simp only [Bool.false_eq_true, if_false, List.length_cons, List.length_nil]
      omega

theorem piece_length_le_joinElements (pretty : Bool) (depth : ℕ) (first : Bool) {piece : Bytes}
    {pieces : List Bytes} (h : piece ∈ pieces) :
    piece.length ≤ (joinElements pretty depth first pieces).length := by
  induction pieces generalizing first with
  | nil => cases h
  | cons next pieces ih =>
      rw [joinElements]
      simp only [List.length_append]
      rcases List.mem_cons.1 h with rfl | h
      · omega
      · have := ih false h
        omega

section Elements

variable {α β : Type} {element : Bytes → Option (α × Bytes)} (add : JsonValue → α → JsonValue)
  {close : UInt8}

/-- The results of the elements added in order; nothing when one of them is missing. -/
def addAll (out : JsonValue) : List (Option α) → Option JsonValue
  | [] => some out
  | none :: _ => none
  | some x :: results => addAll (add out x) results

/-- The element parser reads a text as a result, whatever ends the text. -/
def Reads (element : Bytes → Option (α × Bytes)) (piece : Bytes) (result : Option α) : Prop :=
  ∀ rest, EndsNumber rest → element (piece ++ rest) = result.map fun x => (x, rest)

/-- A bracket that closes a sequence. -/
structure Closes (close : UInt8) : Prop where
  notWhite : isWhitespace close = false
  notNumber : isNumberByte close = false
  notComma : close ≠ 44

variable (pretty : Bool) (depth : ℕ) {piece : β → Bytes} {result : β → Option α}

/-- The loop of the parser reads the elements one by one. -/
theorem parseElements_join (hskip : SkipsWhitespace element) (hclose : Closes close) {e : β}
    {es : List β} (hreads : ∀ x ∈ e :: es, Reads element (piece x) (result x)) {rounds : ℕ}
    (hrounds : es.length < rounds) (out : JsonValue) (rest : Bytes) :
    parseElements element add close rounds out
        (joinElements pretty depth true ((e :: es).map piece) ++
          (indent pretty depth ++ close :: rest)) =
      (addAll add out ((e :: es).map result)).map fun v => (v, rest) := by
  induction es generalizing e rounds out with
  | nil =>
      obtain ⟨rounds, rfl⟩ : ∃ k, rounds = k + 1 := ⟨rounds - 1, by omega⟩
      have hread := hreads e (List.mem_cons_self ..)
      have htext : element (joinElements pretty depth true [piece e] ++
          (indent pretty depth ++ close :: rest)) =
          (result e).map fun x => (x, indent pretty depth ++ close :: rest) := by
        simp only [joinElements, if_true, List.nil_append, List.append_nil, List.append_assoc,
          hskip.indent]
        exact hread _ (endsNumber_indent pretty depth rest hclose.notNumber)
      rw [List.map_singleton, List.map_singleton]
      cases hresult : result e with
      | none =>
          rw [hresult] at htext
          rw [parseElements_none htext, addAll, Option.map_none]
      | some x =>
          rw [hresult] at htext
          rw [parseElements_close ⟨hclose.notWhite, hclose.notComma⟩ htext]
          rfl
  | cons next es ih =>
      rw [List.length_cons] at hrounds
      obtain ⟨rounds, rfl⟩ : ∃ k, rounds = k + 1 := ⟨rounds - 1, by omega⟩
      have hread := hreads e (List.mem_cons_self ..)
      have hrest := fun x hx => hreads x (List.mem_cons_of_mem e hx)
      set tail := joinElements pretty depth true ((next :: es).map piece) ++
        (indent pretty depth ++ close :: rest) with htail
      have htext : element (joinElements pretty depth true ((e :: next :: es).map piece) ++
          (indent pretty depth ++ close :: rest)) =
          (result e).map fun x => (x, 44 :: tail) := by
        rw [List.map_cons, joinElements, List.map_cons, joinElements_false_cons]
        simp only [if_true, List.nil_append, List.append_assoc, List.cons_append, hskip.indent,
          ← List.map_cons, ← htail]
        exact hread _ (endsNumber_cons _ rfl)
      rw [List.map_cons (f := result)]
      cases hresult : result e with
      | none =>
          rw [hresult] at htext
          rw [parseElements_none htext, addAll, Option.map_none]
      | some x =>
          rw [hresult] at htext
          rw [parseElements_comma htext, addAll]
          exact ih hrest (by omega) _

/-- The text of an element starts with a byte that is neither white space nor the closing
bracket. -/
def StartsElement (close : UInt8) (piece : Bytes) : Prop :=
  ∃ c rest, piece = c :: rest ∧ isWhitespace c = false ∧ c ≠ close

/-- A sequence of elements is read back. -/
theorem parseSequence_join (hskip : SkipsWhitespace element) (hclose : Closes close) {e : β}
    {es : List β} (hreads : ∀ x ∈ e :: es, Reads element (piece x) (result x))
    (hstart : StartsElement close (piece e)) (out : JsonValue) (rest : Bytes) :
    parseSequence element add close out
        (joinElements pretty depth true ((e :: es).map piece) ++
          (indent pretty depth ++ close :: rest)) =
      (addAll add out ((e :: es).map result)).map fun v => (v, rest) := by
  obtain ⟨c, piece', hcons, hwhite, hne⟩ := hstart
  set others := joinElements pretty depth false (es.map piece) with hothers
  have hfirst : joinElements pretty depth true ((e :: es).map piece) ++
      (indent pretty depth ++ close :: rest) = indent pretty (depth + 1) ++
        (piece e ++ (others ++ (indent pretty depth ++ close :: rest))) := by
    simp only [List.map_cons, joinElements, if_true, List.nil_append, List.append_assoc, ← hothers]
  have hskipped : skipWhitespace (joinElements pretty depth true ((e :: es).map piece) ++
      (indent pretty depth ++ close :: rest)) =
      piece e ++ (others ++ (indent pretty depth ++ close :: rest)) := by
    rw [hfirst, skipWhitespace_indent, hcons, List.cons_append, skipWhitespace_cons _ hwhite]
  have hrounds : es.length <
      (piece e ++ (others ++ (indent pretty depth ++ close :: rest))).length + 1 := by
    have hcount := length_le_joinElements pretty depth (es.map piece)
    rw [List.length_map, ← hothers] at hcount
    simp only [List.length_append]
    omega
  have hhead : (piece e ++ (others ++ (indent pretty depth ++ close :: rest))).head? ≠
      some close := by
    rw [hcons, List.cons_append, List.head?_cons]
    simpa using hne
  unfold parseSequence
  rw [hskipped]
  dsimp only
  rw [if_neg hhead, ← parseElements_join add pretty depth hskip hclose hreads hrounds out rest,
    hfirst]
  simp only [parseElements, hskip.indent]

end Elements

/-! ### The tree -/

theorem serializeItems_eq (pretty : Bool) (depth : ℕ) (first : Bool) (items : List JsonValue) :
    serializeItems pretty depth first items =
      joinElements pretty depth first
        (items.map fun item => item.serializeInto pretty (depth + 1)) := by
  induction items generalizing first with
  | nil => simp only [serializeItems, List.map_nil, joinElements]
  | cons item items ih => simp only [serializeItems, List.map_cons, joinElements, ih]

/-- The text of a member. -/
def memberText (pretty : Bool) (depth : ℕ) (member : Bytes × JsonValue) : Bytes :=
  escapeJsonString member.1 ++ colon pretty ++ member.2.serializeInto pretty depth

theorem serializeMembers_eq (pretty : Bool) (depth : ℕ) (first : Bool)
    (members : List (Bytes × JsonValue)) :
    serializeMembers pretty depth first members =
      joinElements pretty depth first (members.map (memberText pretty (depth + 1))) := by
  induction members generalizing first with
  | nil => simp only [serializeMembers, List.map_nil, joinElements]
  | cons member members ih =>
      obtain ⟨key, value⟩ := member
      simp only [serializeMembers, List.map_cons, joinElements, memberText, ih, List.append_assoc]

theorem rereadItems_eq (out : JsonValue) (items : List JsonValue) :
    rereadItems out items = addAll JsonValue.append out (items.map JsonValue.reread) := by
  induction items generalizing out with
  | nil => simp only [rereadItems, List.map_nil, addAll]
  | cons item items ih =>
      rw [rereadItems, List.map_cons]
      cases item.reread with
      | none => rfl
      | some w => exact ih _

/-- What is read back for a member. -/
def rereadMember (member : Bytes × JsonValue) : Option (Bytes × JsonValue) :=
  member.2.reread.map fun w => (member.1, w)

theorem rereadMembers_eq (out : JsonValue) (members : List (Bytes × JsonValue)) :
    rereadMembers out members =
      addAll (fun out member => out.set member.1 member.2) out (members.map rereadMember) := by
  induction members generalizing out with
  | nil => simp only [rereadMembers, List.map_nil, addAll]
  | cons member members ih =>
      obtain ⟨key, value⟩ := member
      rw [rereadMembers, List.map_cons, rereadMember]
      cases value.reread with
      | none => rfl
      | some w => exact ih _

theorem closes_array : Closes 93 := ⟨rfl, rfl, by decide⟩

theorem closes_object : Closes 125 := ⟨rfl, rfl, by decide⟩

/-- Parsing a member gives its key and what its value is read as. -/
theorem reads_member {value : Bytes → Option (JsonValue × Bytes)} (hskip : SkipsWhitespace value)
    {pretty : Bool} {depth : ℕ} {member : Bytes × JsonValue}
    (h : Reads value (member.2.serializeInto pretty depth) member.2.reread) :
    Reads (parseMember value) (memberText pretty depth member) (rereadMember member) := by
  intro rest hrest
  have hquote : memberText pretty depth member ++ rest =
      34 :: (member.1.flatMap escapeByte ++
        34 :: (colon pretty ++ (member.2.serializeInto pretty depth ++ rest))) := by
    simp only [memberText, escapeJsonString, List.append_assoc, List.cons_append, List.nil_append]
  have hcolon : ∃ s, colon pretty ++ (member.2.serializeInto pretty depth ++ rest) = 58 :: s ∧
      value s = value (member.2.serializeInto pretty depth ++ rest) := by
    cases pretty with
    | false => exact ⟨_, rfl, rfl⟩
    | true =>
        refine ⟨32 :: (member.2.serializeInto true depth ++ rest), rfl, ?_⟩
        have hspace : skipWhitespace (32 :: (member.2.serializeInto true depth ++ rest)) =
            skipWhitespace (member.2.serializeInto true depth ++ rest) :=
          List.dropWhile_cons_of_pos rfl
        rw [← hskip, hspace, hskip]
  obtain ⟨s, hs, hvalue⟩ := hcolon
  have hread : (value s).map (fun read => ((member.1, read.1), read.2)) =
      (rereadMember member).map fun m => (m, rest) := by
    rw [hvalue, h rest hrest, rereadMember]
    cases member.2.reread <;> rfl
  rw [← hread, hquote]
  simp only [parseMember, skipWhitespace_cons _ (rfl : isWhitespace 34 = false), ne_eq,
    not_true_eq_false, if_false, parseString_escape, List.nil_append, hs,
    skipWhitespace_cons s (rfl : isWhitespace 58 = false)]

/-- The text of a value starts with a byte that is neither white space nor a closing bracket. -/
theorem startsElement_serializeInto (pretty : Bool) (depth : ℕ) (v : JsonValue) :
    StartsElement 93 (v.serializeInto pretty depth) := by
  cases v with
  | null => exact ⟨110, text "ull", rfl, rfl, by decide⟩
  | boolean value =>
      cases value with
      | false => exact ⟨102, text "alse", rfl, rfl, by decide⟩
      | true => exact ⟨116, text "rue", rfl, rfl, by decide⟩
  | number value isInteger =>
      rw [JsonValue.serializeInto]
      cases value with
      | finite x =>
          obtain ⟨c, token, htoken⟩ := List.exists_cons_of_ne_nil (formatNumber_ne_nil x isInteger)
          have hc : isNumberByte c = true := by
            refine numberText_formatNumber x isInteger c ?_
            rw [htoken]
            exact List.mem_cons_self ..
          exact ⟨c, token, htoken, isWhitespace_of_isNumberByte hc, ne_of_isNumberByte hc rfl⟩
      | infinite negative =>
          cases negative with
          | false =>
              exact ⟨105, text "nf", by simp [formatNumber, Double.isIntegerBelow]; rfl, by decide⟩
          | true =>
              exact ⟨45, text "inf", by simp [formatNumber, Double.isIntegerBelow]; rfl, by decide⟩
      | notANumber negative =>
          cases negative with
          | false =>
              exact ⟨110, text "an", by simp [formatNumber, Double.isIntegerBelow]; rfl, by decide⟩
          | true =>
              exact ⟨45, text "nan", by simp [formatNumber, Double.isIntegerBelow]; rfl, by decide⟩
  | string value =>
      rw [JsonValue.serializeInto, escapeJsonString]
      exact ⟨34, _, rfl, rfl, by decide⟩
  | array items =>
      cases items with
      | nil => exact ⟨91, [93], by rw [JsonValue.serializeInto], rfl, by decide⟩
      | cons item items =>
          rw [JsonValue.serializeInto]
          exact ⟨91, _, rfl, rfl, by decide⟩
  | object members =>
      cases members with
      | nil => exact ⟨123, [125], by rw [JsonValue.serializeInto], rfl, by decide⟩
      | cons member members =>
          rw [JsonValue.serializeInto]
          exact ⟨123, _, rfl, rfl, by decide⟩

theorem startsElement_memberText (pretty : Bool) (depth : ℕ) (member : Bytes × JsonValue) :
    StartsElement 125 (memberText pretty depth member) :=
  ⟨34, _, rfl, rfl, by decide⟩

/-- The text of a value is read as the value that comes back, at any depth and in either layout. -/
theorem reads_serializeInto (v : JsonValue) {pretty : Bool} {depth nesting : ℕ}
    (hnesting : (v.serializeInto pretty depth).length < nesting) :
    Reads (parseValue nesting) (v.serializeInto pretty depth) v.reread := by
  obtain ⟨nesting, rfl⟩ : ∃ k, nesting = k + 1 := ⟨nesting - 1, by omega⟩
  induction v using JsonValue.tree_induction generalizing depth nesting with
  | null =>
      intro rest hrest
      rw [JsonValue.serializeInto, JsonValue.reread]
      rfl
  | boolean value =>
      intro rest hrest
      rw [JsonValue.serializeInto, JsonValue.reread]
      cases value <;> rfl
  | number value isInteger =>
      intro rest hrest
      rw [JsonValue.serializeInto, JsonValue.reread]
      cases hvalue : value.isFinite with
      | true =>
          cases value with
          | finite x => exact parseValue_finite nesting x isInteger hrest
          | infinite negative => cases hvalue
          | notANumber negative => cases hvalue
      | false =>
          rw [parseValue_not_finite nesting hvalue, rereadNumber, hvalue]
          rfl
  | string value =>
      intro rest hrest
      rw [JsonValue.serializeInto, JsonValue.reread, escapeJsonString]
      simp only [List.append_assoc, List.cons_append, List.nil_append]
      unfold parseValue
      rw [skipWhitespace_cons _ rfl]
      simp only [parseString_escape, List.nil_append, Option.map_some]
      rfl
  | array items ih =>
      intro rest hrest
      cases items with
      | nil =>
          rw [JsonValue.serializeInto, JsonValue.reread, rereadItems]
          rfl
      | cons item items =>
          rw [JsonValue.serializeInto, serializeItems_eq] at hnesting ⊢
          rw [JsonValue.reread, rereadItems_eq]
          -- a piece is shorter than the whole, so a smaller nesting is enough for it
          have hreads : ∀ e ∈ item :: items, Reads (parseValue nesting)
              (e.serializeInto pretty (depth + 1)) e.reread := by
            intro e he
            have hle := piece_length_le_joinElements pretty depth true
              (List.mem_map_of_mem (f := fun v => v.serializeInto pretty (depth + 1)) he)
            simp only [List.length_append, List.length_cons, List.length_nil] at hnesting
            obtain ⟨k, rfl⟩ : ∃ k, nesting = k + 1 := ⟨nesting - 1, by omega⟩
            exact ih e he k (by omega)
          have hparse := parseSequence_join JsonValue.append pretty depth
            (skipsWhitespace_parseValue nesting) closes_array hreads
            (startsElement_serializeInto pretty (depth + 1) item) (.array []) rest
          simp only [List.append_assoc, List.cons_append, List.nil_append]
          unfold parseValue
          rw [skipWhitespace_cons _ rfl]
          exact hparse
  | object members ih =>
      intro rest hrest
      cases members with
      | nil =>
          rw [JsonValue.serializeInto, JsonValue.reread, rereadMembers]
          rfl
      | cons member members =>
          rw [JsonValue.serializeInto, serializeMembers_eq] at hnesting ⊢
          rw [JsonValue.reread, rereadMembers_eq]
          have hreads : ∀ e ∈ member :: members, Reads (parseMember (parseValue nesting))
              (memberText pretty (depth + 1) e) (rereadMember e) := by
            intro e he
            have hle := piece_length_le_joinElements pretty depth true
              (List.mem_map_of_mem (f := memberText pretty (depth + 1)) he)
            simp only [List.length_append, List.length_cons, List.length_nil] at hnesting
            have hlt : (e.2.serializeInto pretty (depth + 1)).length ≤
                (memberText pretty (depth + 1) e).length := by
              rw [memberText, List.length_append]
              omega
            obtain ⟨k, rfl⟩ : ∃ k, nesting = k + 1 := ⟨nesting - 1, by omega⟩
            exact reads_member (skipsWhitespace_parseValue _) (ih e he k (by omega))
          have hparse := parseSequence_join (fun out m => out.set m.1 m.2) pretty depth
            (skipsWhitespace_parseMember (parseValue nesting)) closes_object hreads
            (startsElement_memberText pretty (depth + 1) member) (.object []) rest
          simp only [List.append_assoc, List.cons_append, List.nil_append]
          unfold parseValue
          rw [skipWhitespace_cons _ rfl]
          exact hparse

/-- **Parsing a serialized value gives its rereading**, in either layout. -/
theorem parseJson_serialize (v : JsonValue) (pretty : Bool) :
    parseJson (v.serialize pretty) = v.reread := by
  obtain ⟨c, rest, hcons, hwhite, -⟩ := startsElement_serializeInto pretty 0 v
  have hskip : skipWhitespace (v.serialize pretty) = v.serialize pretty := by
    rw [JsonValue.serialize, hcons, skipWhitespace_cons _ hwhite]
  have hread := reads_serializeInto v (Nat.lt_succ_self (v.serializeInto pretty 0).length) []
    endsNumber_nil
  rw [List.append_nil] at hread
  rw [parseJson, hskip, JsonValue.serialize, hread]
  cases v.reread with
  | none => rfl
  | some w => rfl

/-! ### Objects with distinct keys -/

namespace JsonValue

/-- A new key goes to the end. -/
theorem setMember_of_notMem {key : Bytes} {value : JsonValue} {members : List (Bytes × JsonValue)}
    (h : key ∉ members.map Prod.fst) : setMember key value members = members ++ [(key, value)] := by
  induction members with
  | nil => rfl
  | cons member members ih =>
      rw [List.map_cons, List.mem_cons, not_or] at h
      rw [setMember, if_neg (Ne.symm h.1), ih h.2, List.cons_append]

/-- Setting new, distinct keys appends them in order. -/
theorem foldl_set {members added : List (Bytes × JsonValue)}
    (h : ((members ++ added).map Prod.fst).Nodup) :
    added.foldl (fun out m => out.set m.1 m.2) (object members) = object (members ++ added) := by
  induction added generalizing members with
  | nil => rw [List.foldl_nil, List.append_nil]
  | cons member added ih =>
      have hnew : member.1 ∉ members.map Prod.fst := by
        rw [List.map_append, List.map_cons, List.nodup_append] at h
        intro hmem
        exact h.2.2 _ hmem _ (List.mem_cons_self ..) rfl
      have hset : (object members).set member.1 member.2 = object (members ++ [member]) :=
        congrArg object (setMember_of_notMem hnew)
      rw [List.foldl_cons, hset, ih (by simpa using h), List.append_assoc, List.singleton_append]

theorem foldl_set_empty {added : List (Bytes × JsonValue)} (h : (added.map Prod.fst).Nodup) :
    added.foldl (fun out m => out.set m.1 m.2) (object []) = object added :=
  @foldl_set [] added h

/-- The value of a key that occurs once. -/
theorem getAt_of_mem {members : List (Bytes × JsonValue)} (hnodup : (members.map Prod.fst).Nodup)
    {key : Bytes} {value : JsonValue} (h : (key, value) ∈ members) :
    (object members).getAt key = value := by
  induction members with
  | nil => cases h
  | cons member members ih =>
      rw [List.map_cons, List.nodup_cons] at hnodup
      rw [getAt, JsonValue.members]
      rcases List.mem_cons.1 h with rfl | h
      · simp
      · have hne : member.1 ≠ key := by
          rintro rfl
          exact hnodup.1 (List.mem_map.2 ⟨_, h, rfl⟩)
        rw [List.find?_cons_of_neg (by simpa using hne)]
        exact ih hnodup.2 h

theorem has_of_mem {members : List (Bytes × JsonValue)} {key : Bytes} {value : JsonValue}
    (h : (key, value) ∈ members) : (object members).has key = true :=
  List.any_eq_true.2 ⟨(key, value), h, by simp⟩

theorem has_of_notMem {members : List (Bytes × JsonValue)} {key : Bytes}
    (h : key ∉ members.map Prod.fst) : (object members).has key = false := by
  refine List.any_eq_false.2 fun member hmember => ?_
  have hne : member.1 ≠ key := by
    rintro rfl
    exact h (List.mem_map.2 ⟨_, hmember, rfl⟩)
  simpa using hne

end JsonValue

/-- A member comes back under its key. -/
def MemberReadsBack (member read : Bytes × JsonValue) : Prop :=
  read.1 = member.1 ∧ member.2.reread = some read.2

theorem addAll_members {members read : List (Bytes × JsonValue)}
    (h : List.Forall₂ MemberReadsBack members read) (out : JsonValue) :
    addAll (fun out m => out.set m.1 m.2) out (members.map rereadMember) =
      some (read.foldl (fun out m => out.set m.1 m.2) out) := by
  induction h generalizing out with
  | nil => rfl
  | cons hmember _ ih =>
      rw [List.map_cons, rereadMember, hmember.2, Option.map_some, addAll, ← hmember.1]
      exact ih _

theorem keys_of_readsBack {members read : List (Bytes × JsonValue)}
    (h : List.Forall₂ MemberReadsBack members read) : read.map Prod.fst = members.map Prod.fst := by
  induction h with
  | nil => rfl
  | cons hmember _ ih => rw [List.map_cons, List.map_cons, ih, hmember.1]

/-- **An object with distinct keys comes back member by member.** -/
theorem reread_object {members read : List (Bytes × JsonValue)}
    (hnodup : (members.map Prod.fst).Nodup) (h : List.Forall₂ MemberReadsBack members read) :
    (JsonValue.object members).reread = some (.object read) := by
  have hread : (read.map Prod.fst).Nodup := by
    rw [keys_of_readsBack h]
    exact hnodup
  rw [JsonValue.reread, rereadMembers_eq, addAll_members h, JsonValue.foldl_set_empty hread]

/-- An object with a member that does not come back does not come back. -/
theorem reread_object_none {members : List (Bytes × JsonValue)} {member : Bytes × JsonValue}
    (hmem : member ∈ members) (h : member.2.reread = none) :
    (JsonValue.object members).reread = none := by
  rw [JsonValue.reread, rereadMembers_eq]
  generalize JsonValue.object [] = out
  induction members generalizing out with
  | nil => cases hmem
  | cons next members ih =>
      rw [List.map_cons]
      cases hnext : rereadMember next with
      | none => rfl
      | some read =>
          rw [addAll]
          refine ih ?_ _
          rcases List.mem_cons.1 hmem with rfl | hmem
          · rw [rereadMember, h] at hnext
            cases hnext
          · exact hmem

end TftpHarness
