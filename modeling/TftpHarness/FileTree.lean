/-
**File trees.**

A tree maps locations, the lists of names from the root, to directories and files.  What a tree
holds lies in directories it holds, which is part of the type.  A path is followed from the root,
through directories only; its end need not exist.  There are no links, and whoever writes may.

Main definitions:

* `FileTree.Tree`, `FileTree.Component` — trees, and the components of a path;
* `FileTree.Tree.target`, `FileTree.Tree.write`, `FileTree.Tree.read` — where a path lets a file be
  written, writing it and reading it;
* `FileTree.Tree.createDirectories` — a directory with all above it;
* `FileTree.Tree.overwriteAll` — several files, as far as they can be written.

Main results:

* `FileTree.Tree.target_overwrite` — writing a file moves no path;
* `FileTree.Tree.overwriteAll_eq_iff` — **two trees become equal by writing the same files exactly
  when they differ at most at files written in both**.
-/

import Mathlib.Data.List.Infix
import Mathlib.Logic.Function.Basic

set_option relaxedAutoImplicit false
set_option autoImplicit false

namespace FileTree

variable {α β : Type}

/-! ### Trees -/

/-- What a location holds. -/
inductive Node (β : Type)
  | directory
  | file (contents : β)
  deriving DecidableEq

/-- **A file tree.** -/
structure Tree (α β : Type) where
  node : List α → Option (Node β)
  root : node [] = some .directory
  /-- What there is lies in a directory. -/
  parents : ∀ l name, (node (l ++ [name])).isSome → node l = some .directory

/-- One component of a path. -/
inductive Component (α : Type)
  | here
  | parent
  | child (name : α)
  deriving DecidableEq

namespace Tree

@[ext] theorem ext {t t' : Tree α β} (h : ∀ l, t.node l = t'.node l) : t = t' := by
  cases t
  cases t'
  simp only [mk.injEq]
  exact funext h

/-- The tree that holds nothing but its root. -/
def empty : Tree α β where
  node := fun l => if l.isEmpty then some .directory else none
  root := rfl
  parents := by
    intro l name h
    simp at h

def isDirectory (t : Tree α β) (l : List α) : Bool :=
  match t.node l with
  | some .directory => true
  | _ => false

theorem isDirectory_iff {t : Tree α β} {l : List α} :
    t.isDirectory l = true ↔ t.node l = some .directory := by
  unfold isDirectory
  split
  · next h => simp [h]
  · next h =>
      constructor
      · intro hfalse
        exact absurd hfalse Bool.false_ne_true
      · intro hdir
        exact absurd hdir h

/-! ### Paths -/

/-- The location a path leads to from a directory, when all it passes through is directories. -/
def locate (t : Tree α β) (l : List α) : List (Component α) → Option (List α)
  | [] => some l
  | c :: rest =>
      if t.isDirectory l then
        match c with
        | .here => t.locate l rest
        | .parent => t.locate l.dropLast rest
        | .child name => t.locate (l ++ [name]) rest
      else none

/-- A file can be written at the location: it lies in a directory and is none itself. -/
structure Vacant (t : Tree α β) (l : List α) : Prop where
  inside : l ≠ []
  parent : t.isDirectory l.dropLast = true
  notDirectory : t.isDirectory l = false

instance (t : Tree α β) (l : List α) : Decidable (t.Vacant l) :=
  decidable_of_iff (l ≠ [] ∧ t.isDirectory l.dropLast = true ∧ t.isDirectory l = false)
    ⟨fun h => ⟨h.1, h.2.1, h.2.2⟩, fun h => ⟨h.inside, h.parent, h.notDirectory⟩⟩

/-- The location at which a path lets a file be written. -/
def target (t : Tree α β) (path : List (Component α)) : Option {l : List α // t.Vacant l} :=
  match t.locate [] path with
  | none => none
  | some l => if h : t.Vacant l then some ⟨l, h⟩ else none

/-! ### Directories -/

/-- The two trees have the same directories. -/
def SameDirectories (t t' : Tree α β) : Prop := ∀ l, t.isDirectory l = t'.isDirectory l

theorem locate_congr {t t' : Tree α β} (h : SameDirectories t t') (path : List (Component α)) :
    ∀ l, t.locate l path = t'.locate l path := by
  induction path with
  | nil => intro l; rfl
  | cons c rest ih =>
      intro l
      cases c with
      | here => simp only [locate, h l, ih l]
      | parent => simp only [locate, h l, ih l.dropLast]
      | child name => simp only [locate, h l, ih (l ++ [name])]

theorem vacant_congr {t t' : Tree α β} (h : SameDirectories t t') (l : List α) :
    t.Vacant l ↔ t'.Vacant l := by
  constructor
  · rintro ⟨hin, hparent, hnot⟩
    exact ⟨hin, by rw [← h, hparent], by rw [← h, hnot]⟩
  · rintro ⟨hin, hparent, hnot⟩
    exact ⟨hin, by rw [h, hparent], by rw [h, hnot]⟩

theorem target_val (t : Tree α β) (path : List (Component α)) :
    (t.target path).map Subtype.val =
      (t.locate [] path).bind fun l => if t.Vacant l then some l else none := by
  unfold target
  cases t.locate [] path with
  | none => rfl
  | some l =>
      by_cases hl : t.Vacant l
      · simp [hl]
      · simp [hl]

/-- **Paths depend on the directories only.** -/
theorem target_congr {t t' : Tree α β} (h : SameDirectories t t') (path : List (Component α)) :
    (t.target path).map Subtype.val = (t'.target path).map Subtype.val := by
  rw [target_val, target_val, locate_congr h]
  simp only [vacant_congr h]

/-- One of the files is written at the location. -/
def Written (t : Tree α β) (files : List (List (Component α) × β)) (l : List α) : Prop :=
  ∃ file ∈ files, (t.target file.1).map Subtype.val = some l

theorem written_congr {t t' : Tree α β} (h : SameDirectories t t')
    (files : List (List (Component α) × β)) (l : List α) :
    t.Written files l ↔ t'.Written files l := by
  unfold Written
  simp only [target_congr h]

theorem not_isDirectory_of_written {t : Tree α β} {files : List (List (Component α) × β)}
    {l : List α} (h : t.Written files l) : t.isDirectory l = false := by
  obtain ⟨file, -, htarget⟩ := h
  obtain ⟨l', -, rfl⟩ := Option.map_eq_some_iff.1 htarget
  exact l'.2.notDirectory

/-! ### Writing and reading -/

section Write

variable [DecidableEq α]

/-- A file put at a location where it can be. -/
def put (t : Tree α β) (l : List α) (h : t.Vacant l) (contents : β) : Tree α β where
  node := Function.update t.node l (some (.file contents))
  root := by
    rw [Function.update_of_ne (Ne.symm h.inside), t.root]
  parents := by
    intro l' name hsome
    have hdir : t.node l' = some .directory := by
      by_cases heq : l' ++ [name] = l
      · have hparent := isDirectory_iff.1 h.parent
        rwa [← heq, List.dropLast_concat] at hparent
      · rw [Function.update_of_ne heq] at hsome
        exact t.parents l' name hsome
    have hne : l' ≠ l := by
      rintro rfl
      have hfalse := h.notDirectory
      rw [isDirectory_iff.2 hdir] at hfalse
      exact Bool.noConfusion hfalse
    rw [Function.update_of_ne hne, hdir]

/-- Writing a file: where it exists its contents are replaced. -/
def write (t : Tree α β) (path : List (Component α)) (contents : β) : Option (Tree α β) :=
  (t.target path).map fun l => t.put l.1 l.2 contents

/-- The contents of a file; a directory has none. -/
def read (t : Tree α β) (path : List (Component α)) : Option β :=
  match (t.locate [] path).bind t.node with
  | some (.file contents) => some contents
  | _ => none

/-- A directory with all above it, unless a file is in the way. -/
def createDirectories (t : Tree α β) (l : List α) : Tree α β :=
  if l.inits.all fun p => (t.node p).isNone || t.isDirectory p then
    { node := fun p => if p <+: l then some .directory else t.node p
      root := if_pos (List.nil_prefix)
      parents := by
        intro p name h
        by_cases hp : p <+: l
        · exact if_pos hp
        · have hname : ¬ p ++ [name] <+: l := fun hq => hp ((List.prefix_append p [name]).trans hq)
          rw [if_neg hname] at h
          rw [if_neg hp, t.parents p name h] }
  else t

/-- Writing a file, if it can be. -/
def overwrite (t : Tree α β) (path : List (Component α)) (contents : β) : Tree α β :=
  (t.write path contents).getD t

/-- Writing several files, one after the other, as far as they can be. -/
def overwriteAll (t : Tree α β) (files : List (List (Component α) × β)) : Tree α β :=
  files.foldl (fun t file => t.overwrite file.1 file.2) t

theorem sameDirectories_put {t : Tree α β} {l : List α} (h : t.Vacant l) (contents : β) :
    SameDirectories (t.put l h contents) t := by
  intro l'
  by_cases heq : l' = l
  · rw [heq, h.notDirectory]
    simp [isDirectory, put]
  · simp [isDirectory, put, Function.update_of_ne heq]

/-- Overwriting a file is writing it where its path leads, or nothing. -/
theorem overwrite_cases (t : Tree α β) (path : List (Component α)) (contents : β) :
    (t.target path = none ∧ t.overwrite path contents = t) ∨
      ∃ l, t.target path = some l ∧ t.overwrite path contents = t.put l.1 l.2 contents := by
  unfold overwrite write
  cases htarget : t.target path with
  | none => exact Or.inl ⟨rfl, rfl⟩
  | some l => exact Or.inr ⟨l, rfl, rfl⟩

theorem sameDirectories_overwrite (t : Tree α β) (path : List (Component α)) (contents : β) :
    SameDirectories (t.overwrite path contents) t := by
  rcases overwrite_cases t path contents with ⟨-, h⟩ | ⟨l, -, h⟩
  · rw [h]
    exact fun _ => rfl
  · rw [h]
    exact sameDirectories_put l.2 contents

/-- Writing a file moves no path. -/
theorem target_overwrite (t : Tree α β) (path path' : List (Component α)) (contents : β) :
    ((t.overwrite path contents).target path').map Subtype.val =
      (t.target path').map Subtype.val :=
  target_congr (sameDirectories_overwrite t path contents) path'

theorem node_overwrite (t : Tree α β) (path : List (Component α)) (contents : β) (l : List α) :
    (t.overwrite path contents).node l =
      if (t.target path).map Subtype.val = some l then some (.file contents) else t.node l := by
  rcases overwrite_cases t path contents with ⟨htarget, h⟩ | ⟨l', htarget, h⟩
  · simp [h, htarget]
  · rw [h, htarget]
    by_cases heq : l = l'.1
    · simp [put, heq]
    · simp [put, Function.update_of_ne heq, Ne.symm heq]

/-- Trees that agree above a directory agree elsewhere after it was created exactly if they did
before. -/
theorem node_createDirectories_eq_iff {t t' : Tree α β} {l : List α}
    (h : ∀ p, p <+: l → t.node p = t'.node p) (q : List α) :
    (t.createDirectories l).node q = (t'.createDirectories l).node q ↔ t.node q = t'.node q := by
  have hsame : (l.inits.all fun p => (t.node p).isNone || t.isDirectory p) =
      l.inits.all fun p => (t'.node p).isNone || t'.isDirectory p := by
    rw [Bool.eq_iff_iff, List.all_eq_true, List.all_eq_true]
    refine forall₂_congr fun p hp => ?_
    rw [isDirectory, isDirectory, h p ((List.mem_inits p l).1 hp)]
  unfold createDirectories
  rw [hsame]
  split
  · by_cases hq : q <+: l
    · simp [hq, h q hq]
    · simp [hq]
  · exact Iff.rfl

/-! ### Several files -/

theorem overwriteAll_cons (t : Tree α β) (file : List (Component α) × β)
    (files : List (List (Component α) × β)) :
    t.overwriteAll (file :: files) = (t.overwrite file.1 file.2).overwriteAll files := rfl

theorem sameDirectories_overwriteAll (files : List (List (Component α) × β)) :
    ∀ t : Tree α β, SameDirectories (t.overwriteAll files) t := by
  induction files with
  | nil => exact fun _ _ => rfl
  | cons file files ih =>
      intro t l
      rw [overwriteAll_cons, ih, sameDirectories_overwrite]

/-- A location where nothing is written keeps what it holds. -/
theorem node_overwriteAll_of_not_written (files : List (List (Component α) × β)) :
    ∀ {t : Tree α β} {l : List α}, ¬ t.Written files l →
      (t.overwriteAll files).node l = t.node l := by
  induction files with
  | nil => intro t l _; rfl
  | cons file files ih =>
      intro t l h
      have hrest : ¬ (t.overwrite file.1 file.2).Written files l := by
        rw [written_congr (sameDirectories_overwrite t file.1 file.2)]
        rintro ⟨file', hmem, htarget⟩
        exact h ⟨file', List.mem_cons_of_mem _ hmem, htarget⟩
      have hfirst : (t.target file.1).map Subtype.val ≠ some l := fun htarget =>
        h ⟨file, List.mem_cons_self, htarget⟩
      rw [overwriteAll_cons, ih hrest, node_overwrite, if_neg hfirst]

/-- In trees with the same directories the files end up the same wherever one was written, or the
trees agreed before. -/
theorem node_overwriteAll_congr (files : List (List (Component α) × β)) :
    ∀ {t t' : Tree α β}, SameDirectories t t' → ∀ l, t.Written files l ∨ t.node l = t'.node l →
      (t.overwriteAll files).node l = (t'.overwriteAll files).node l := by
  induction files with
  | nil =>
      intro t t' _ l h
      rcases h with ⟨file, hmem, -⟩ | heq
      · exact absurd hmem List.not_mem_nil
      · exact heq
  | cons file files ih =>
      intro t t' hsame l h
      rw [overwriteAll_cons, overwriteAll_cons]
      have hsame' : SameDirectories (t.overwrite file.1 file.2) (t'.overwrite file.1 file.2) := by
        intro l'
        rw [sameDirectories_overwrite, sameDirectories_overwrite, hsame]
      refine ih hsame' l ?_
      by_cases hfirst : (t.target file.1).map Subtype.val = some l
      · refine Or.inr ?_
        rw [node_overwrite, node_overwrite, ← target_congr hsame, if_pos hfirst, if_pos hfirst]
      · rcases h with ⟨file', hmem, htarget⟩ | heq
        · refine Or.inl ⟨file', ?_, by rw [target_overwrite, htarget]⟩
          rcases List.mem_cons.1 hmem with rfl | hrest
          · exact absurd htarget hfirst
          · exact hrest
        · refine Or.inr ?_
          rw [node_overwrite, node_overwrite, ← target_congr hsame, heq]

/-- **Two trees become equal by writing the same files exactly when they differ at most at files
written in both.** -/
theorem overwriteAll_eq_iff (t t' : Tree α β) (files : List (List (Component α) × β)) :
    t.overwriteAll files = t'.overwriteAll files ↔
      ∀ l, ¬ (t.Written files l ∧ t'.Written files l) → t.node l = t'.node l := by
  constructor
  · intro h l hl
    have hsame : SameDirectories t t' := by
      intro l'
      rw [← sameDirectories_overwriteAll files t, h, sameDirectories_overwriteAll files t']
    have hnot : ¬ t.Written files l := fun hw => hl ⟨hw, (written_congr hsame files l).1 hw⟩
    have hnot' : ¬ t'.Written files l := fun hw => hnot ((written_congr hsame files l).2 hw)
    rw [← node_overwriteAll_of_not_written files hnot, h,
      node_overwriteAll_of_not_written files hnot']
  · intro h
    have hsame : SameDirectories t t' := by
      intro l
      by_cases hl : t.Written files l ∧ t'.Written files l
      · rw [not_isDirectory_of_written hl.1, not_isDirectory_of_written hl.2]
      · rw [isDirectory, isDirectory, h l hl]
    refine Tree.ext fun l => node_overwriteAll_congr files hsame l ?_
    by_cases hl : t.Written files l
    · exact Or.inl hl
    · exact Or.inr (h l fun hboth => hl hboth.1)

end Write

end Tree

end FileTree
