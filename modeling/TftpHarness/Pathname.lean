/-
**Path names as texts.**

A path name is a text in which a separator sets the names of directories and files apart.  An
absolute one is brought into normal form by walking it from the top: an empty name and a single dot
stay where they are, two dots go one directory up, any other name enters it.  The normal form is
written with one separator before each name, and with one behind the last when the path it comes
from ends in a directory, as `a/`, `a/.` and `a/..` do.

Texts and names do not agree about what lies within a directory.  The text of a directory without a
separator at its end begins the text of everything within it, and also that of everything within a
sibling whose name is longer.

Main definitions:

* `Pathname.join`, `Pathname.components` — joining two paths, and the names of a path;
* `Pathname.normalNames`, `Pathname.normal`, `Pathname.canonical` — the normal form;
* `Pathname.Extends` — the path of a sibling with a longer name, or of something within it.

Main results:

* `Pathname.components_normal` — the names of a normal form are those it is written from;
* `Pathname.prefix_of_render_prefix` — **what the text of a directory begins** is within it or
  within a sibling with a longer name;
* `Pathname.render_prefix_of_extends` — and the text of the sibling does begin so.
-/

import Mathlib.Data.List.Basic

set_option relaxedAutoImplicit false
set_option autoImplicit false

namespace Pathname

variable {α : Type*} [DecidableEq α] (sep dot : α)

/-! ### The normal form -/

/-- Two paths joined: an absolute path replaces what stands before it. -/
def join (base p : List α) : List α :=
  if p.head? = some sep then p
  else if base = [] ∨ base.getLast? = some sep then base ++ p
  else base ++ sep :: p

/-- The names of a path. -/
def components (p : List α) : List (List α) := (p.splitOn sep).filter (· ≠ [])

/-- One step of a walk from the top. -/
def enter (names : List (List α)) (name : List α) : List (List α) :=
  if name = [] ∨ name = [dot] then names
  else if name = [dot, dot] then names.dropLast
  else names ++ [name]

/-- Where the walk along an absolute path leads. -/
def normalNames (p : List α) : List (List α) := (p.splitOn sep).foldl (enter dot) []

/-- A path that ends in a directory. -/
def endsInDirectory (p : List α) : Bool :=
  (p.splitOn sep).getLast?.any fun name => name = [] || name = [dot] || name = [dot, dot]

/-- Names, each after a separator. -/
def write (names : List (List α)) : List α := names.flatMap fun name => sep :: name

/-- The text of an absolute path in normal form. -/
def render (names : List (List α)) (directory : Bool) : List α :=
  if names = [] then [sep] else write sep names ++ if directory then [sep] else []

/-- The normal form of an absolute path. -/
def normal (p : List α) : List α :=
  render sep (normalNames sep dot p) (endsInDirectory sep dot p)

/-- The absolute, normal form of a path in a current directory. -/
def canonical (current p : List α) : List α := normal sep dot (join sep current p)

variable {sep dot}

/-- A name between separators. -/
structure IsName (sep : α) (name : List α) : Prop where
  ne_nil : name ≠ []
  sep_notMem : sep ∉ name

/-- What stands between separators contains none. -/
theorem sep_notMem_of_mem_splitOn {p : List α} : ∀ name ∈ p.splitOn sep, sep ∉ name := by
  induction p with
  | nil => simp
  | cons c p ih =>
      rw [List.splitOn_cons_eq_if_modifyHead]
      split
      · simpa using ih
      · next hne =>
          obtain ⟨first, rest, hsplit⟩ := List.exists_cons_of_ne_nil (List.splitOn_ne_nil sep p)
          rw [hsplit] at ih ⊢
          intro name hname
          rcases List.mem_cons.1 hname with rfl | hname
          · have hfirst := ih first List.mem_cons_self
            simp only [List.mem_cons, not_or]
            exact ⟨fun h => hne (by simp [h]), hfirst⟩
          · exact ih name (List.mem_cons_of_mem _ hname)

/-- A walk enters names only. -/
theorem isName_foldl_enter {steps names : List (List α)} (hsteps : ∀ name ∈ steps, sep ∉ name)
    (hnames : ∀ name ∈ names, IsName sep name) :
    ∀ name ∈ steps.foldl (enter dot) names, IsName sep name := by
  induction steps generalizing names with
  | nil => exact hnames
  | cons step steps ih =>
      refine ih (fun name hname => hsteps name (List.mem_cons_of_mem _ hname)) ?_
      unfold enter
      split
      · exact hnames
      · next hplain =>
          split
          · exact fun name hname => hnames name (List.dropLast_subset _ hname)
          · intro name hname
            rcases List.mem_append.1 hname with hname | hname
            · exact hnames name hname
            · obtain rfl := List.mem_singleton.1 hname
              exact ⟨fun h => hplain (Or.inl h), hsteps name List.mem_cons_self⟩

theorem isName_normalNames (p : List α) : ∀ name ∈ normalNames sep dot p, IsName sep name :=
  isName_foldl_enter sep_notMem_of_mem_splitOn fun _ hname => absurd hname List.not_mem_nil

/-! ### Names and texts -/

@[simp] theorem components_nil : components sep ([] : List α) = [] := by
  simp [components]

@[simp] theorem components_sep_cons (p : List α) :
    components sep (sep :: p) = components sep p := by
  simp [components, List.splitOn_cons_eq_if_modifyHead]

/-- A name in front of a separator, or of nothing, is the first name. -/
theorem components_name_append {name p : List α} (hname : IsName sep name)
    (hp : p = [] ∨ ∃ p', p = sep :: p') :
    components sep (name ++ p) = name :: components sep p := by
  rcases hp with rfl | ⟨p', rfl⟩
  · simp [components, List.splitOn_eq_singleton hname.sep_notMem, hname.ne_nil]
  · rw [components_sep_cons]
    simp [components, List.splitOn_append_cons_self_of_not_mem hname.sep_notMem, hname.ne_nil]

omit [DecidableEq α] in
theorem write_append_cases (names : List (List α)) {ending : List α}
    (hending : ending = [] ∨ ending = [sep]) :
    write sep names ++ ending = [] ∨ ∃ p, write sep names ++ ending = sep :: p := by
  cases names with
  | nil =>
      rcases hending with rfl | rfl
      · exact Or.inl rfl
      · exact Or.inr ⟨[], rfl⟩
  | cons name names => exact Or.inr ⟨name ++ write sep names ++ ending, by simp [write]⟩

/-- The names of a text are those it is written from. -/
theorem components_write {names : List (List α)} (hnames : ∀ name ∈ names, IsName sep name)
    {ending : List α} (hending : ending = [] ∨ ending = [sep]) :
    components sep (write sep names ++ ending) = names := by
  induction names with
  | nil => rcases hending with rfl | rfl <;> simp [write]
  | cons name names ih =>
      have hrest := ih fun name hname => hnames name (List.mem_cons_of_mem _ hname)
      have hwrite : write sep (name :: names) ++ ending =
          sep :: (name ++ (write sep names ++ ending)) := by
        simp [write]
      rw [hwrite, components_sep_cons, components_name_append (hnames name List.mem_cons_self)
        (write_append_cases names hending), hrest]

theorem components_render {names : List (List α)} (hnames : ∀ name ∈ names, IsName sep name)
    (directory : Bool) : components sep (render sep names directory) = names := by
  unfold render
  split
  · next hnil => simp [hnil]
  · cases directory with
    | true => exact components_write hnames (Or.inr rfl)
    | false => exact components_write hnames (Or.inl rfl)

/-- **The names of a normal form.** -/
theorem components_normal (p : List α) :
    components sep (normal sep dot p) = normalNames sep dot p :=
  components_render (isName_normalNames p) _

/-! ### What begins with the text of a directory -/

/-- The last of some names is longer, or something lies within the directory of that name. -/
def Extends (names names' : List (List α)) : Prop :=
  ∃ above last suffix within, suffix ≠ [] ∧ names = above ++ [last] ∧
    names' = above ++ (last ++ suffix) :: within

omit [DecidableEq α] in
theorem Extends.cons {names names' : List (List α)} (h : Extends names names') (name : List α) :
    Extends (name :: names) (name :: names') := by
  obtain ⟨above, last, suffix, within, hne, rfl, rfl⟩ := h
  exact ⟨name :: above, last, suffix, within, hne, rfl, rfl⟩

omit [DecidableEq α] in
/-- A sibling with a longer name is not within the directory. -/
theorem Extends.not_prefix {names names' : List (List α)} (h : Extends names names') :
    ¬ names <+: names' := by
  obtain ⟨above, last, suffix, within, hne, rfl, rfl⟩ := h
  rw [List.prefix_append_right_inj, List.cons_prefix_cons]
  rintro ⟨hlast, -⟩
  exact hne (List.self_eq_append_right.1 hlast)

omit [DecidableEq α] in
/-- Two written texts, one of which goes on behind its names. -/
theorem prefix_or_extends_of_write {names names' : List (List α)} {rest ending : List α}
    (hnames : ∀ name ∈ names, IsName sep name) (hnames' : ∀ name ∈ names', IsName sep name)
    (hending : ending = [] ∨ ending = [sep])
    (heq : write sep names ++ rest = write sep names' ++ ending) :
    names <+: names' ∨ Extends names names' ∧ rest.head? ≠ some sep := by
  induction names generalizing names' with
  | nil => exact Or.inl (List.nil_prefix)
  | cons name names ih =>
      have hname := hnames name List.mem_cons_self
      have htail : ∀ name ∈ names, IsName sep name :=
        fun name hname => hnames name (List.mem_cons_of_mem _ hname)
      cases names' with
      | nil =>
          -- there is no room for a name
          exfalso
          have hlen := congrArg List.length heq
          have hpos := List.length_pos_of_ne_nil hname.ne_nil
          have hending' : ending.length ≤ 1 := by rcases hending with rfl | rfl <;> simp
          simp only [write, List.flatMap_cons, List.flatMap_nil, List.length_append,
            List.length_cons, List.nil_append] at hlen
          omega
      | cons name' names' =>
          have hname' := hnames' name' List.mem_cons_self
          have htail' : ∀ name ∈ names', IsName sep name :=
            fun name hname => hnames' name (List.mem_cons_of_mem _ hname)
          have heq' : name ++ (write sep names ++ rest) =
              name' ++ (write sep names' ++ ending) := by
            simpa [write] using heq
          rcases List.append_eq_append_iff.1 heq' with ⟨suffix, rfl, hrest⟩ | ⟨suffix, rfl, hrest⟩
          · cases suffix with
            | nil =>
                rw [List.append_nil]
                rcases ih htail htail' hrest with hbegins | ⟨hext, hhead⟩
                · exact Or.inl (List.cons_prefix_cons.2 ⟨rfl, hbegins⟩)
                · exact Or.inr ⟨hext.cons name, hhead⟩
            | cons c suffix =>
                -- the first name goes on, so it was the last one
                have hc : c ≠ sep := fun h => hname'.sep_notMem (by simp [h])
                cases names with
                | cons next names =>
                    simp only [write, List.flatMap_cons, List.cons_append, List.cons.injEq] at hrest
                    exact absurd hrest.1.symm hc
                | nil =>
                    refine Or.inr ⟨⟨[], name, c :: suffix, names', by simp, rfl, rfl⟩, ?_⟩
                    have hgoes : rest = c :: (suffix ++ (write sep names' ++ ending)) := by
                      simpa [write] using hrest
                    rw [hgoes, List.head?_cons]
                    exact fun h => hc (Option.some.inj h)
          · cases suffix with
            | nil =>
                rw [List.append_nil]
                rcases ih htail htail' hrest.symm with hbegins | ⟨hext, hhead⟩
                · exact Or.inl (List.cons_prefix_cons.2 ⟨rfl, hbegins⟩)
                · exact Or.inr ⟨hext.cons name', hhead⟩
            | cons c suffix =>
                -- a written text does not begin with a letter of a name
                have hc : c ≠ sep := fun h => hname.sep_notMem (by simp [h])
                rcases write_append_cases names' hending with hnil | ⟨p, hp⟩
                · rw [hnil] at hrest
                  cases hrest
                · rw [hp] at hrest
                  exact absurd (List.cons.inj hrest).1.symm hc

omit [DecidableEq α] in
/-- **What the text of a directory begins**: something within it, or, when the text does not end in
a separator, a sibling with a longer name or something within that. -/
theorem prefix_of_render_prefix {names names' : List (List α)} {directory directory' : Bool}
    (hnames : ∀ name ∈ names, IsName sep name) (hnames' : ∀ name ∈ names', IsName sep name)
    (h : render sep names directory <+: render sep names' directory') :
    names <+: names' ∨ directory = false ∧ Extends names names' := by
  by_cases hnil : names = []
  · rw [hnil]
    exact Or.inl List.nil_prefix
  obtain ⟨rest, hrest⟩ := h
  rw [render, if_neg hnil, List.append_assoc] at hrest
  -- the other text is written as well, the top included
  obtain ⟨ending, hending, hwritten⟩ : ∃ ending, (ending = [] ∨ ending = [sep]) ∧
      render sep names' directory' = write sep names' ++ ending := by
    unfold render
    split
    · next hnil' => exact ⟨[sep], Or.inr rfl, by simp [hnil', write]⟩
    · cases directory' with
      | true => exact ⟨[sep], Or.inr rfl, rfl⟩
      | false => exact ⟨[], Or.inl rfl, rfl⟩
  rw [hwritten] at hrest
  rcases prefix_or_extends_of_write hnames hnames' hending hrest with hbegins | ⟨hext, hhead⟩
  · exact Or.inl hbegins
  · cases directory with
    | true => exact absurd rfl hhead
    | false => exact Or.inr ⟨rfl, hext⟩

omit [DecidableEq α] in
/-- The text of a directory begins that of a sibling with a longer name. -/
theorem render_prefix_of_extends {names names' : List (List α)} (h : Extends names names')
    (directory : Bool) : render sep names false <+: render sep names' directory := by
  obtain ⟨above, last, suffix, within, -, rfl, rfl⟩ := h
  have hne : above ++ [last] ≠ [] := by simp
  have hne' : above ++ (last ++ suffix) :: within ≠ [] := by simp
  rw [render, render, if_neg hne, if_neg hne']
  exact ⟨suffix ++ (write sep within ++ if directory then [sep] else []), by simp [write]⟩

end Pathname
