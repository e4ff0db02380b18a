/-
**The JSON of the metrics store.**

The store writes its records as JSON, one object a line, and the report and comparison modes read
them back with a small recursive-descent parser.  Both directions live here: the value tree, the
serializer with its string escaping and its three number formats, and the parser.  The position of
the source's parser is the text that is left.

The loops of the parser stop because each round consumes a byte, and its recursion because a nested
value is shorter than the text around it.  The model bounds both by the length of the text.

Main definitions:

* `TftpHarness.JsonValue`, `JsonValue.serialize` — the tree and its text;
* `TftpHarness.parseJson` — the parser.

Main results:

* `TftpHarness.progresses_parseValue` — **a value takes at least one byte**;
* `TftpHarness.parseElements_congr`, `TftpHarness.parseValue_depth` — **the bounds do not matter**.
-/

import TftpHarness.Double

set_option relaxedAutoImplicit false
set_option autoImplicit false

namespace TftpHarness

/-! ### Values -/

/-- A JSON value.  An object keeps its members in insertion order. -/
inductive JsonValue
  | null
  | boolean (value : Bool)
  | number (value : Double) (isInteger : Bool)
  | string (value : Bytes)
  | array (items : List JsonValue)
  | object (members : List (Bytes × JsonValue))

namespace JsonValue

/-- `JsonValue::integer`. -/
def integer (n : ℤ) : JsonValue := number (Double.ofInt n) true

/-- The members of an object with one of them replaced, or added at the end. -/
def setMember (key : Bytes) (value : JsonValue) :
    List (Bytes × JsonValue) → List (Bytes × JsonValue)
  | [] => [(key, value)]
  | member :: rest =>
      if member.1 = key then (member.1, value) :: rest else member :: setMember key value rest

/-- The members; none when the value is not an object. -/
def members : JsonValue → List (Bytes × JsonValue)
  | object members => members
  | _ => []

/-- `JsonValue::set`. -/
def set (v : JsonValue) (key : Bytes) (value : JsonValue) : JsonValue :=
  object (setMember key value v.members)

/-- The items; none when the value is not an array. -/
def asArray : JsonValue → List JsonValue
  | array items => items
  | _ => []

/-- `JsonValue::append`. -/
def append (v value : JsonValue) : JsonValue := array (v.asArray ++ [value])

/-- `JsonValue::at`, which gives null for a key that is not there. -/
def getAt (v : JsonValue) (key : Bytes) : JsonValue :=
  match v.members.find? fun member => member.1 = key with
  | some member => member.2
  | none => null

/-- `JsonValue::has`. -/
def has (v : JsonValue) (key : Bytes) : Bool := v.members.any fun member => member.1 = key

def asBool : JsonValue → Bool
  | boolean value => value
  | _ => false

def asString : JsonValue → Bytes
  | string value => value
  | _ => []

/-- `JsonValue::as_number`; zero when the value is not a number. -/
def asNumber : JsonValue → Double
  | number value _ => value
  | _ => Double.ofInt 0

/-- `JsonValue::as_integer`. -/
def asInteger (v : JsonValue) : ℤ := v.asNumber.toInt64

def isNumber : JsonValue → Bool
  | number _ _ => true
  | _ => false

end JsonValue

/-! ### Printing -/

/-- A hexadecimal digit, in lower case. -/
def hexDigit (n : ℕ) : UInt8 := UInt8.ofNat (if n < 10 then 48 + n else 87 + n)

/-- One byte inside a string literal. -/
def escapeByte (c : UInt8) : Bytes :=
  if c = 34 then [92, 34]
  else if c = 92 then [92, 92]
  else if c = 8 then [92, 98]
  else if c = 12 then [92, 102]
  else if c = 10 then [92, 110]
  else if c = 13 then [92, 114]
  else if c = 9 then [92, 116]
  else if c < 32 then [92, 117, 48, 48, hexDigit (c.toNat / 16), hexDigit (c.toNat % 16)]
  else [c]

/-- `escape_json_string`: the literal with its quotes. -/
def escapeJsonString (raw : Bytes) : Bytes := [34] ++ raw.flatMap escapeByte ++ [34]

/-- `format_number`. -/
def formatNumber (value : Double) (asInteger : Bool) : Bytes :=
  if asInteger ∧ value.isIntegerBelow (2 ^ 53) then signedDecimal value.toInt64
  else if value.isIntegerBelow (10 ^ 15) then signedDecimal value.toInt64
  else value.format 6

/-- A new line with the indentation of a level, in the pretty layout. -/
def indent (pretty : Bool) (depth : ℕ) : Bytes :=
  if pretty then 10 :: List.replicate (2 * depth) 32 else []

/-- What separates a key from its value. -/
def colon (pretty : Bool) : Bytes := if pretty then [58, 32] else [58]

mutual

/-- `serialize_into`. -/
def JsonValue.serializeInto (pretty : Bool) (depth : ℕ) : JsonValue → Bytes
  | .null => text "null"
  | .boolean value => text (if value then "true" else "false")
  | .number value isInteger => formatNumber value isInteger
  | .string value => escapeJsonString value
  | .array [] => [91, 93]
  | .array (item :: items) =>
      [91] ++ serializeItems pretty depth true (item :: items) ++ indent pretty depth ++ [93]
  | .object [] => [123, 125]
  | .object (member :: members) =>
      [123] ++ serializeMembers pretty depth true (member :: members) ++ indent pretty depth ++
        [125]

/-- The items of an array, with a comma before each but the first. -/
def serializeItems (pretty : Bool) (depth : ℕ) (first : Bool) : List JsonValue → Bytes
  | [] => []
  | item :: items =>
      (if first then [] else [44]) ++ indent pretty (depth + 1) ++
        item.serializeInto pretty (depth + 1) ++ serializeItems pretty depth false items

/-- The members of an object, with a comma before each but the first. -/
def serializeMembers (pretty : Bool) (depth : ℕ) (first : Bool) :
    List (Bytes × JsonValue) → Bytes
  | [] => []
  | (key, value) :: members =>
      (if first then [] else [44]) ++ indent pretty (depth + 1) ++ escapeJsonString key ++
        colon pretty ++ value.serializeInto pretty (depth + 1) ++
        serializeMembers pretty depth false members

end

/-- `JsonValue::serialize`. -/
def JsonValue.serialize (v : JsonValue) (pretty : Bool) : Bytes := v.serializeInto pretty 0

/-! ### Parsing -/

/-- The bytes that may stand between two tokens. -/
def isWhitespace (c : UInt8) : Bool := c == 32 || c == 9 || c == 10 || c == 13

/-- `skip_whitespace`. -/
def skipWhitespace (s : Bytes) : Bytes := s.dropWhile isWhitespace

/-- The value of a hexadecimal digit. -/
def hexValue (h : UInt8) : Option ℕ :=
  if 48 ≤ h ∧ h ≤ 57 then some (h.toNat - 48)
  else if 97 ≤ h ∧ h ≤ 102 then some (h.toNat - 87)
  else if 65 ≤ h ∧ h ≤ 70 then some (h.toNat - 55)
  else none

/-- The code point that four hexadecimal digits denote. -/
def hexCode (h₀ h₁ h₂ h₃ : UInt8) : Option ℕ := do
  let d₀ ← hexValue h₀
  let d₁ ← hexValue h₁
  let d₂ ← hexValue h₂
  let d₃ ← hexValue h₃
  some (((d₀ * 16 + d₁) * 16 + d₂) * 16 + d₃)

/-- The UTF-8 encoding of a code point of the basic multilingual plane. -/
def encodeCode (code : ℕ) : Bytes :=
  if code < 0x80 then [UInt8.ofNat code]
  else if code < 0x800 then [UInt8.ofNat (0xC0 + code / 64), UInt8.ofNat (0x80 + code % 64)]
  else
    [UInt8.ofNat (0xE0 + code / 4096), UInt8.ofNat (0x80 + code / 64 % 64),
      UInt8.ofNat (0x80 + code % 64)]

/-- The byte that a letter after a backslash stands for. -/
def unescape (escaped : UInt8) : Option UInt8 :=
  if escaped = 34 ∨ escaped = 92 ∨ escaped = 47 then some escaped
  else if escaped = 98 then some 8
  else if escaped = 102 then some 12
  else if escaped = 110 then some 10
  else if escaped = 114 then some 13
  else if escaped = 116 then some 9
  else none

/-- `parse_string` after the opening quote: the string, and what follows the closing one. -/
def parseString (out : Bytes) : Bytes → Option (Bytes × Bytes)
  | [] => none
  | c :: rest =>
      if c = 34 then some (out, rest)
      else if c = 92 then
        match rest with
        | 117 :: h₀ :: h₁ :: h₂ :: h₃ :: rest =>
            match hexCode h₀ h₁ h₂ h₃ with
            | some code => parseString (out ++ encodeCode code) rest
            | none => none
        | escaped :: rest =>
            match unescape escaped with
            | some b => parseString (out ++ [b]) rest
            | none => none
        | [] => none
      else parseString (out ++ [c]) rest

/-- The bytes that `parse_number` collects. -/
def isNumberByte (c : UInt8) : Bool :=
  isDigit c || c == 45 || c == 43 || c == 46 || c == 101 || c == 69

/-- The number that a token denotes: an integer unless it has a point or an exponent. -/
def numberOfToken (token : Bytes) : Option JsonValue :=
  match stod token with
  | none => none
  | some value =>
      if 46 ∈ token ∨ 101 ∈ token ∨ 69 ∈ token then some (.number value false)
      else some (.integer value.toInt64)

/-- `parse_number`. -/
def parseNumber (s : Bytes) : Option (JsonValue × Bytes) :=
  match s.takeWhile isNumberByte with
  | [] => none
  | c :: token => (numberOfToken (c :: token)).map fun v => (v, s.dropWhile isNumberByte)

/-- A literal name at the start of the text, as `std::string::compare` finds it. -/
def parseName (name : String) (v : JsonValue) (s : Bytes) : Option (JsonValue × Bytes) :=
  if (text name).isPrefixOf s then some (v, s.drop (text name).length) else none

/-- `parse_bool`. -/
def parseBool (s : Bytes) : Option (JsonValue × Bytes) :=
  (parseName "true" (.boolean true) s).or (parseName "false" (.boolean false) s)

/-- `parse_null`. -/
def parseNull (s : Bytes) : Option (JsonValue × Bytes) := parseName "null" .null s

section Elements

variable {α : Type}

/-- The loop of `parse_array` and of `parse_object`, for at most so many rounds: an element is read
and added, and a comma asks for another one. -/
def parseElements (element : Bytes → Option (α × Bytes)) (add : JsonValue → α → JsonValue)
    (close : UInt8) : ℕ → JsonValue → Bytes → Option (JsonValue × Bytes)
  | 0, _, _ => none
  | rounds + 1, out, s =>
      match element s with
      | none => none
      | some (x, s) =>
          match skipWhitespace s with
          | [] => none
          | c :: s =>
              if c = 44 then parseElements element add close rounds (add out x) s
              else if c = close then some (add out x, s)
              else none

/-- The closing bracket at once, or the elements up to it. -/
def parseSequence (element : Bytes → Option (α × Bytes)) (add : JsonValue → α → JsonValue)
    (close : UInt8) (out : JsonValue) (s : Bytes) : Option (JsonValue × Bytes) :=
  let s := skipWhitespace s
  if s.head? = some close then some (out, s.tail)
  else parseElements element add close (s.length + 1) out s

end Elements

/-- `parse_array` after the opening bracket. -/
def parseArray (value : Bytes → Option (JsonValue × Bytes)) (s : Bytes) :
    Option (JsonValue × Bytes) :=
  parseSequence value JsonValue.append 93 (.array []) s

/-- A key, a colon and a value. -/
def parseMember (value : Bytes → Option (JsonValue × Bytes)) (s : Bytes) :
    Option ((Bytes × JsonValue) × Bytes) :=
  match skipWhitespace s with
  | [] => none
  | c :: s =>
      if c ≠ 34 then none
      else
        match parseString [] s with
        | none => none
        | some (key, s) =>
            match skipWhitespace s with
            | [] => none
            | c :: s => if c ≠ 58 then none else (value s).map fun (v, s) => ((key, v), s)

/-- `parse_object` after the opening brace. -/
def parseObject (value : Bytes → Option (JsonValue × Bytes)) (s : Bytes) :
    Option (JsonValue × Bytes) :=
  parseSequence (parseMember value) (fun out member => out.set member.1 member.2) 125 (.object []) s

/-- `parse_value`, for values nested at most so deep. -/
def parseValue : ℕ → Bytes → Option (JsonValue × Bytes)
  | 0, _ => none
  | depth + 1, s =>
      match skipWhitespace s with
      | [] => none
      | c :: rest =>
          if c = 123 then parseObject (parseValue depth) rest
          else if c = 91 then parseArray (parseValue depth) rest
          else if c = 34 then (parseString [] rest).map fun (s, rest) => (.string s, rest)
          else if c = 116 ∨ c = 102 then parseBool (c :: rest)
          else if c = 110 then parseNull (c :: rest)
          else parseNumber (c :: rest)

/-- `parse_json`.  A text nests at most as deep as it is long. -/
def parseJson (s : Bytes) : Option JsonValue :=
  match parseValue (s.length + 1) (skipWhitespace s) with
  | none => none
  | some (v, rest) => if skipWhitespace rest = [] then some v else none

/-! ### Progress -/

theorem skipWhitespace_length (s : Bytes) : (skipWhitespace s).length ≤ s.length :=
  List.length_dropWhile_le _ _

/-- A string takes at least its closing quote. -/
theorem parseString_length {out s t rest : Bytes} (h : parseString out s = some (t, rest)) :
    rest.length < s.length := by
  fun_induction parseString out s with
  | case1 => cases h
  | case2 =>
      cases h
      simp
  | case3 => simp_all; omega
  | case4 => simp_all
  | case5 => simp_all; omega
  | case6 => simp_all
  | case7 => simp_all
  | case8 => simp_all; omega

theorem parseName_length {name : String} {v w : JsonValue} {s rest : Bytes}
    (hname : 0 < (text name).length) (h : parseName name v s = some (w, rest)) :
    rest.length < s.length := by
  unfold parseName at h
  split at h
  · next hbegins =>
      have hle := (List.isPrefixOf_iff_prefix.1 hbegins).length_le
      cases h
      rw [List.length_drop]
      omega
  · cases h

theorem parseNumber_length {s rest : Bytes} {v : JsonValue}
    (h : parseNumber s = some (v, rest)) : rest.length < s.length := by
  have hsplit :
      (s.takeWhile isNumberByte).length + (s.dropWhile isNumberByte).length = s.length := by
    rw [← List.length_append, List.takeWhile_append_dropWhile]
  unfold parseNumber at h
  split at h
  · cases h
  · next c token htoken =>
      obtain ⟨w, -, heq⟩ := Option.map_eq_some_iff.1 h
      cases heq
      rw [htoken, List.length_cons] at hsplit
      omega

section Elements

variable {α : Type} {element element' : Bytes → Option (α × Bytes)}
  {add : JsonValue → α → JsonValue} {close : UInt8}

/-- The element parser consumes something. -/
def Progresses (element : Bytes → Option (α × Bytes)) : Prop :=
  ∀ s x rest, element s = some (x, rest) → rest.length < s.length

theorem parseElements_length (hprogress : Progresses element) {rounds : ℕ} {out v : JsonValue}
    {s rest : Bytes} (h : parseElements element add close rounds out s = some (v, rest)) :
    rest.length < s.length := by
  induction rounds generalizing out s with
  | zero => cases h
  | succ rounds ih =>
      unfold parseElements at h
      split at h
      · cases h
      next x s' helement =>
      have hshorter := hprogress s x s' helement
      have hskip := skipWhitespace_length s'
      split at h
      · cases h
      next c s'' hs'' =>
      rw [hs'', List.length_cons] at hskip
      split at h
      · have := ih h
        omega
      split at h
      · cases h
        omega
      · cases h

theorem parseSequence_length (hprogress : Progresses element) {out v : JsonValue} {s rest : Bytes}
    (h : parseSequence element add close out s = some (v, rest)) : rest.length ≤ s.length := by
  have hskip := skipWhitespace_length s
  unfold parseSequence at h
  dsimp only at h
  split at h
  · cases h
    rw [List.length_tail]
    omega
  · have := parseElements_length hprogress h
    omega

/-- **The count of the rounds does not matter**, and neither does what the element parser does with
longer texts. -/
theorem parseElements_congr (hprogress : Progresses element) {s : Bytes}
    (hagree : ∀ t : Bytes, t.length ≤ s.length → element t = element' t) {rounds rounds' : ℕ}
    (hr : s.length < rounds) (hr' : s.length < rounds') (out : JsonValue) :
    parseElements element add close rounds out s =
      parseElements element' add close rounds' out s := by
  induction rounds generalizing rounds' out s with
  | zero => omega
  | succ rounds ih =>
      obtain ⟨rounds', rfl⟩ : ∃ k, rounds' = k + 1 := ⟨rounds' - 1, by omega⟩
      unfold parseElements
      rw [← hagree s (le_refl _)]
      cases helement : element s with
      | none => rfl
      | some result =>
          obtain ⟨x, s'⟩ := result
          have hshorter := hprogress s x s' helement
          have hskip := skipWhitespace_length s'
          dsimp only
          cases hs' : skipWhitespace s' with
          | nil => rfl
          | cons c s'' =>
              rw [hs', List.length_cons] at hskip
              dsimp only
              split
              · exact ih (fun t ht => hagree t (by omega)) (by omega) (by omega) _
              · rfl

theorem parseSequence_congr (hprogress : Progresses element) {s : Bytes}
    (hagree : ∀ t : Bytes, t.length ≤ s.length → element t = element' t) (out : JsonValue) :
    parseSequence element add close out s = parseSequence element' add close out s := by
  have hskip := skipWhitespace_length s
  unfold parseSequence
  dsimp only
  rw [parseElements_congr hprogress (fun t ht => hagree t (by omega)) (Nat.lt_succ_self _)
    (Nat.lt_succ_self _)]

end Elements

theorem progresses_parseMember {value : Bytes → Option (JsonValue × Bytes)}
    (hprogress : Progresses value) : Progresses (parseMember value) := by
  intro s member rest h
  have hskip := skipWhitespace_length s
  unfold parseMember at h
  split at h
  · cases h
  next c s₁ hs₁ =>
  rw [hs₁, List.length_cons] at hskip
  split at h
  · cases h
  split at h
  · cases h
  next key s₂ hkey =>
  have hstring := parseString_length hkey
  have hskip' := skipWhitespace_length s₂
  split at h
  · cases h
  next c' s₃ hs₃ =>
  rw [hs₃, List.length_cons] at hskip'
  split at h
  · cases h
  · obtain ⟨result, hvalue, heq⟩ := Option.map_eq_some_iff.1 h
    have := hprogress s₃ result.1 result.2 hvalue
    cases heq
    omega

/-- **A value takes at least one byte.** -/
theorem progresses_parseValue (depth : ℕ) : Progresses (parseValue depth) := by
  induction depth with
  | zero =>
      intro s v rest h
      cases h
  | succ depth ih =>
      intro s v rest h
      have hskip := skipWhitespace_length s
      unfold parseValue at h
      split at h
      · cases h
      next c s' hs' =>
      rw [hs', List.length_cons] at hskip
      split at h
      · have := parseSequence_length (progresses_parseMember ih) h
        omega
      split at h
      · have := parseSequence_length ih h
        omega
      split at h
      · obtain ⟨result, hstring, heq⟩ := Option.map_eq_some_iff.1 h
        have := parseString_length hstring
        cases heq
        omega
      split at h
      · have hname : rest.length < (c :: s').length := by
          rcases Option.or_eq_some_iff.1 h with h | ⟨-, h⟩
          · exact parseName_length (by decide) h
          · exact parseName_length (by decide) h
        rw [List.length_cons] at hname
        omega
      split at h
      · have hname := parseName_length (by decide) h
        rw [List.length_cons] at hname
        omega
      · have hnumber := parseNumber_length h
        rw [List.length_cons] at hnumber
        omega

theorem parseMember_congr {value value' : Bytes → Option (JsonValue × Bytes)} {s : Bytes}
    (hagree : ∀ t : Bytes, t.length ≤ s.length → value t = value' t) :
    parseMember value s = parseMember value' s := by
  have hskip := skipWhitespace_length s
  unfold parseMember
  cases hs₁ : skipWhitespace s with
  | nil => rfl
  | cons c s₁ =>
      rw [hs₁, List.length_cons] at hskip
      dsimp only
      cases hkey : parseString [] s₁ with
      | none => rfl
      | some result =>
          obtain ⟨key, s₂⟩ := result
          have hstring := parseString_length hkey
          have hskip' := skipWhitespace_length s₂
          dsimp only
          cases hs₃ : skipWhitespace s₂ with
          | nil => rfl
          | cons c' s₃ =>
              rw [hs₃, List.length_cons] at hskip'
              dsimp only
              rw [hagree s₃ (by omega)]

/-- **The bound on the nesting does not matter**, as long as it exceeds the length of the text. -/
theorem parseValue_depth {s : Bytes} {depth depth' : ℕ} (hd : s.length < depth)
    (hd' : s.length < depth') : parseValue depth s = parseValue depth' s := by
  induction depth generalizing depth' s with
  | zero => omega
  | succ depth ih =>
      obtain ⟨depth', rfl⟩ : ∃ k, depth' = k + 1 := ⟨depth' - 1, by omega⟩
      have hskip := skipWhitespace_length s
      unfold parseValue
      split
      · rfl
      next c rest hrest =>
      rw [hrest, List.length_cons] at hskip
      have hagree : ∀ t : Bytes, t.length ≤ rest.length →
          parseValue depth t = parseValue depth' t :=
        fun t ht => ih (by omega) (by omega)
      rw [parseObject, parseObject, parseSequence_congr
        (progresses_parseMember (progresses_parseValue depth))
        (fun t ht => parseMember_congr fun u hu => hagree u (by omega)), parseArray, parseArray,
        parseSequence_congr (progresses_parseValue depth) hagree]

end TftpHarness
