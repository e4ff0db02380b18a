/-
**The values a program builds, and what the parser makes of them.**

A JSON value is built from the constructors of `JsonValue`, with `append` on arrays and `set` on
objects.  `set` replaces the value of a key that is there, so the keys of an object stay distinct
and the parser, which calls `set` in turn, puts each member back in its place.  A number comes back
as an integer whatever it was marked as; the mark only chooses the format and no accessor shows it,
so two values are compared without it.

Main definitions:

* `TftpHarness.JsonValue.Built` — the values that can be built, with whole numbers below `10 ^ 15`;
* `TftpHarness.JsonValue.Sound` — what they are: whole numbers, and objects with distinct keys;
* `TftpHarness.JsonValue.unmarked` — a value without the marks of its numbers.

Main results:

* `TftpHarness.JsonValue.Built.sound` — **what is built is sound**;
* `TftpHarness.JsonValue.Sound.reread` — what is sound comes back the same;
* `TftpHarness.built_round_trip` — **the round trip**, in either layout.
-/

import TftpHarness.Seed
import TftpHarness.TornText

set_option relaxedAutoImplicit false
set_option autoImplicit false

namespace TftpHarness

namespace JsonValue

/-! ### Values that are built -/

/-- The values that the constructors, `append` and `set` build, with whole numbers below
`10 ^ 15`. -/
inductive Built : JsonValue → Prop
  | null : Built null
  | boolean (value : Bool) : Built (boolean value)
  | integer {n : ℤ} (hn : |n| < 10 ^ 15) : Built (integer n)
  | number {x : FiniteDouble} {n : ℤ} (hx : x.value = n) (hn : |n| < 10 ^ 15) :
      Built (number (.finite x) false)
  | string (value : Bytes) : Built (string value)
  | array : Built (array [])
  | append {items : List JsonValue} {value : JsonValue} (hitems : Built (.array items))
      (hvalue : Built value) : Built ((JsonValue.array items).append value)
  | object : Built (object [])
  | set {members : List (Bytes × JsonValue)} (key : Bytes) {value : JsonValue}
      (hmembers : Built (.object members)) (hvalue : Built value) :
      Built ((JsonValue.object members).set key value)

/-- A value with whole numbers below `10 ^ 15` and distinct keys. -/
inductive Sound : JsonValue → Prop
  | null : Sound null
  | boolean (value : Bool) : Sound (boolean value)
  | number {x : FiniteDouble} {n : ℤ} (isInteger : Bool) (hx : x.value = n) (hn : |n| < 10 ^ 15) :
      Sound (number (.finite x) isInteger)
  | string (value : Bytes) : Sound (string value)
  | array {items : List JsonValue} (hitems : ∀ item ∈ items, Sound item) : Sound (array items)
  | object {members : List (Bytes × JsonValue)} (hkeys : (members.map Prod.fst).Nodup)
      (hmembers : ∀ member ∈ members, Sound member.2) : Sound (object members)

/-- The keys after `set`: the key is added unless it is there. -/
theorem keys_setMember (key : Bytes) (value : JsonValue) (members : List (Bytes × JsonValue)) :
    (setMember key value members).map Prod.fst =
      if key ∈ members.map Prod.fst then members.map Prod.fst
      else members.map Prod.fst ++ [key] := by
  induction members with
  | nil => rfl
  | cons member members ih =>
      rw [setMember]
      by_cases hkey : member.1 = key
      · rw [if_pos hkey, if_pos (by simp [hkey])]
        rfl
      · rw [if_neg hkey, List.map_cons, ih, List.map_cons]
        by_cases hmem : key ∈ members.map Prod.fst
        · rw [if_pos hmem, if_pos (List.mem_cons_of_mem _ hmem)]
        · have hnew : key ∉ member.1 :: members.map Prod.fst :=
            List.not_mem_cons_of_ne_of_not_mem (Ne.symm hkey) hmem
          rw [if_neg hmem, if_neg hnew, List.cons_append]

/-- The members after `set` are those there were and the new one. -/
theorem mem_setMember {key : Bytes} {value : JsonValue} {members : List (Bytes × JsonValue)}
    {member : Bytes × JsonValue} (h : member ∈ setMember key value members) :
    member ∈ members ∨ member.2 = value := by
  induction members with
  | nil => exact Or.inr (by rw [List.mem_singleton.1 h])
  | cons first members ih =>
      rw [setMember] at h
      split at h
      · rcases List.mem_cons.1 h with rfl | h
        · exact Or.inr rfl
        · exact Or.inl (List.mem_cons_of_mem _ h)
      · rcases List.mem_cons.1 h with rfl | h
        · exact Or.inl List.mem_cons_self
        · rcases ih h with h | h
          · exact Or.inl (List.mem_cons_of_mem _ h)
          · exact Or.inr h

/-- **What is built is sound.** -/
theorem Built.sound {v : JsonValue} (h : v.Built) : v.Sound := by
  induction h with
  | null => exact .null
  | boolean value => exact .boolean value
  | @integer n hn =>
      have hdouble : IsDouble (n : ℚ) := isDouble_intCast (by omega)
      rw [JsonValue.integer, Double.ofInt, Double.ofRat_of_isDouble hdouble]
      exact .number true rfl hn
  | number hx hn => exact .number false hx hn
  | string value => exact .string value
  | array => exact .array fun item hitem => absurd hitem List.not_mem_nil
  | append _ _ hitems hvalue =>
      cases hitems with
      | array hitems =>
          refine .array fun item hitem => ?_
          rcases List.mem_append.1 hitem with hitem | hitem
          · exact hitems item hitem
          · rw [List.mem_singleton.1 hitem]
            exact hvalue
  | object => exact .object List.nodup_nil fun member hmember => absurd hmember List.not_mem_nil
  | set key _ _ hmembers hvalue =>
      cases hmembers with
      | object hkeys hmembers =>
          refine .object ?_ fun member hmember => ?_
          · rw [members, keys_setMember]
            split
            · exact hkeys
            · next hnew =>
                rw [← List.concat_eq_append]
                exact List.Nodup.concat hnew hkeys
          · rcases mem_setMember hmember with hmember | hvalue'
            · exact hmembers member hmember
            · rw [hvalue']
              exact hvalue

/-! ### Values without marks -/

mutual

/-- A value without the marks that tell integers from other numbers. -/
def unmarked : JsonValue → JsonValue
  | .number value _ => .number value false
  | .array items => .array (unmarkedItems items)
  | .object members => .object (unmarkedMembers members)
  | .null => .null
  | .boolean value => .boolean value
  | .string value => .string value

def unmarkedItems : List JsonValue → List JsonValue
  | [] => []
  | item :: items => item.unmarked :: unmarkedItems items

def unmarkedMembers : List (Bytes × JsonValue) → List (Bytes × JsonValue)
  | [] => []
  | (key, value) :: members => (key, value.unmarked) :: unmarkedMembers members

end

/-- A value that comes back the same, up to the marks of its numbers. -/
def ComesBack (v w : JsonValue) : Prop := v.reread = some w ∧ w.unmarked = v.unmarked

/-- A choice for each element is a list of choices. -/
theorem exists_forall₂ {α β : Type} {R : α → β → Prop} {l : List α} (h : ∀ a ∈ l, ∃ b, R a b) :
    ∃ choices, List.Forall₂ R l choices := by
  induction l with
  | nil => exact ⟨[], .nil⟩
  | cons a l ih =>
      obtain ⟨b, hb⟩ := h a List.mem_cons_self
      obtain ⟨choices, hchoices⟩ := ih fun a' ha' => h a' (List.mem_cons_of_mem _ ha')
      exact ⟨b :: choices, .cons hb hchoices⟩

/-- Items that come back one by one. -/
theorem comesBack_array {items read : List JsonValue} (h : List.Forall₂ ComesBack items read) :
    ComesBack (.array items) (.array read) := by
  have hitems : ∀ done, rereadItems (.array done) items = some (.array (done ++ read)) ∧
      unmarkedItems read = unmarkedItems items := by
    induction h with
    | nil => exact fun done => ⟨by rw [rereadItems, List.append_nil], rfl⟩
    | @cons item w items read hitem _ ih =>
        intro done
        obtain ⟨hread, hsame⟩ := ih (done ++ [w])
        refine ⟨?_, by rw [unmarkedItems, unmarkedItems, hsame, hitem.2]⟩
        rw [rereadItems, hitem.1]
        simp only [JsonValue.append, asArray]
        rw [hread, List.append_assoc, List.singleton_append]
  obtain ⟨hread, hsame⟩ := hitems []
  exact ⟨by rw [reread, hread, List.nil_append], by rw [unmarked, unmarked, hsame]⟩

/-- Members that come back one by one, under distinct keys. -/
theorem comesBack_object {members read : List (Bytes × JsonValue)}
    (hkeys : (members.map Prod.fst).Nodup)
    (h : List.Forall₂ (fun m r => r.1 = m.1 ∧ ComesBack m.2 r.2) members read) :
    ComesBack (.object members) (.object read) := by
  refine ⟨reread_object hkeys (h.imp fun _ _ hm => ⟨hm.1, hm.2.1⟩), ?_⟩
  have hsame : unmarkedMembers read = unmarkedMembers members := by
    induction h with
    | nil => rfl
    | @cons m r members read hm _ ih =>
        rw [unmarkedMembers, unmarkedMembers, hm.1, hm.2.2,
          ih (List.nodup_cons.1 hkeys).2]
  rw [unmarked, unmarked, hsame]

/-- A whole number below `10 ^ 15` comes back as an integer. -/
theorem comesBack_number {x : FiniteDouble} {n : ℤ} (isInteger : Bool) (hx : x.value = n)
    (hn : |n| < 10 ^ 15) : ComesBack (number (.finite x) isInteger) (number (.finite x) true) := by
  obtain ⟨value, hdouble⟩ := x
  subst hx
  have hread : rereadNumber (.finite ⟨n, hdouble⟩) isInteger = some (.integer n) := by
    rw [rereadNumber, formatNumber_finite_int hdouble (Or.inl hn),
      numberOfToken_signedDecimal (by omega)]
    rfl
  refine ⟨?_, rfl⟩
  rw [reread, hread, JsonValue.integer, Double.ofInt, Double.ofRat_of_isDouble hdouble]

/-- **What is sound comes back the same.** -/
theorem Sound.comesBack {v : JsonValue} (h : v.Sound) : ∃ w, ComesBack v w := by
  induction h with
  | null => exact ⟨.null, rfl, rfl⟩
  | boolean value => exact ⟨.boolean value, rfl, rfl⟩
  | number isInteger hx hn => exact ⟨_, comesBack_number isInteger hx hn⟩
  | string value => exact ⟨.string value, rfl, rfl⟩
  | array _ hitems =>
      obtain ⟨read, hread⟩ := exists_forall₂ hitems
      exact ⟨_, comesBack_array hread⟩
  | object hkeys _ hmembers =>
      obtain ⟨read, hread⟩ := exists_forall₂ fun member hmember => by
        obtain ⟨w, hw⟩ := hmembers member hmember
        exact (⟨(member.1, w), rfl, hw⟩ :
          ∃ r : Bytes × JsonValue, r.1 = member.1 ∧ ComesBack member.2 r.2)
      exact ⟨_, comesBack_object hkeys hread⟩

end JsonValue

/-- **The JSON round trip.**  Whatever is built comes back from either layout with its types,
booleans, numbers, strings and the order of its items and members, and the compact layout holds no
control byte. -/
theorem built_round_trip {v : JsonValue} (h : v.Built) :
    (∀ pretty, ∃ w, parseJson (v.serialize pretty) = some w ∧ w.unmarked = v.unmarked) ∧
      ∀ b ∈ v.serialize false, 32 ≤ b := by
  refine ⟨fun pretty => ?_, printable_serialize v⟩
  rw [parseJson_serialize]
  exact h.sound.comesBack

/-- An object with a control byte, a quote and a high byte in its key, a number and an array. -/
def builtObject : JsonValue :=
  ((JsonValue.object []).set [0, 34, 255] (.integer (-7))).set [10]
    ((JsonValue.array []).append .null)

theorem builtObject_round_trip :
    ∃ w, parseJson (builtObject.serialize true) = some w ∧ w.unmarked = builtObject.unmarked :=
  (built_round_trip (.set _ (.set _ .object (.integer (by decide))) (.append .array .null))).1 true

end TftpHarness
