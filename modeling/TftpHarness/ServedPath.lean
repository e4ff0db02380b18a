/-
**Served paths and the served directory.**

`resolve_served_path` joins a requested name to the root, brings both into canonical form and asks
whether the text of the root begins the text of the result.  What is within the root does begin so.
So does a sibling of the root with a longer name, unless the text of the root ends in a slash.

A handler reads and writes the resolved path only, so its files are confined to the served directory
exactly when the path is.

Main definitions:

* `TftpHarness.lexicalDirectory` — a served directory without symbolic links;
* `TftpHarness.Inside` — a path whose components begin with those of the root;
* `TftpHarness.ServedPathConfined` — a request resolves, reads and writes inside only;
* `TftpHarness.EscapesToSibling` — a requested name that leads to a sibling with a longer name.

Main results:

* `TftpHarness.handlerReceive_files` — a handler writes its path or nothing, until it has returned;
* `TftpHarness.servedPathConfined_iff` — **a request is confined unless it leads to a sibling**;
* `TftpHarness.sibling_directory_served` — one that does.
-/

import TftpHarness.Pathname
import TftpHarness.Server

set_option relaxedAutoImplicit false
set_option autoImplicit false

namespace TftpHarness

/-- A served directory without symbolic links: the canonical form of a path is its absolute, normal
form in the current directory. -/
def lexicalDirectory (current root : Bytes) : ServedDirectory where
  root := root
  weaklyCanonical path := (Pathname.canonical 0x2F 0x2E current path, false)

/-- A path inside the served directory. -/
def Inside (served : ServedDirectory) (path : Bytes) : Prop :=
  Pathname.components 0x2F (served.weaklyCanonical served.root).1 <+:
    Pathname.components 0x2F path

section Confined

variable (config : EngineConfig) (served : ServedDirectory) (filename : Bytes)

/-- A handler after some receives, each of which finds the files as other handlers left them. -/
def handlerAfter (h : Handler) : List (Files × SocketEvent) → Handler
  | [] => h
  | (files, event) :: rest => handlerAfter (handlerReceive config files h event).2.1 rest

/-- **A request for the name is confined to the served directory**: it resolves to a path inside,
its handler depends on no file outside, and never changes one. -/
structure ServedPathConfined : Prop where
  resolved : ∀ path, resolveServedPath served filename = some path → Inside served path
  reads : ∀ (config : EngineConfig) (request : TftpPacket) (client : Endpoint)
    (files files' : Files), request.filename = filename →
    (∀ path, Inside served path → files path = files' path) →
    handleRequest config served files request client =
      handleRequest config served files' request client
  writes : ∀ (config : EngineConfig) (request : TftpPacket) (client : Endpoint) (files : Files)
    (before : List (Files × SocketEvent)) (files' : Files) (event : SocketEvent) (path : Bytes),
    request.filename = filename → ¬ Inside served path →
    (handlerReceive config files' (handlerAfter config
      (handleRequest config served files request client).1 before) event).1 path = files' path

variable {config served filename}

theorem oackAttempt_path (h : Handler) (attempt : ℕ) :
    (oackAttempt config h attempt).1.path = h.path := by
  unfold oackAttempt
  split <;> rfl

variable (config) in
/-- **One receive of a handler** keeps its path, does nothing after its return, and writes its path
or nothing. -/
theorem handlerReceive_files (files : Files) (h : Handler) (event : SocketEvent) :
    (handlerReceive config files h event).2.1.path = h.path ∧
      (h.phase = .returned → (handlerReceive config files h event).2.1.phase = .returned) ∧
      ((handlerReceive config files h event).1 = files ∨ h.phase ≠ .returned ∧
        ∃ bytes, (handlerReceive config files h event).1 =
          Function.update files h.path (some bytes)) := by
  unfold handlerReceive
  cases hphase : h.phase with
  | awaitingAck attempt =>
      refine ⟨?_, fun hret => absurd hret (by simp), Or.inl ?_⟩
      · simp only
        split
        · rfl
        · split
          · rfl
          · split
            · rfl
            · exact oackAttempt_path h (attempt + 1)
        · exact oackAttempt_path h (attempt + 1)
      · simp only
        split
        · rfl
        · split
          · rfl
          · split <;> rfl
        · rfl
  | sending s => exact ⟨rfl, fun hret => absurd hret (by simp), Or.inl rfl⟩
  | receiving r =>
      refine ⟨rfl, fun hret => absurd hret (by simp), ?_⟩
      simp only [storeUpload]
      split
      · exact Or.inr ⟨by simp, _, rfl⟩
      · exact Or.inl rfl
  | returned => exact ⟨rfl, fun _ => hphase, Or.inl rfl⟩

variable (config) in
/-- A handler whose request was refused, or whose path is inside, remains one. -/
theorem handlerAfter_inside {h : Handler} (hh : h.phase = .returned ∨ Inside served h.path)
    (before : List (Files × SocketEvent)) :
    (handlerAfter config h before).phase = .returned ∨
      Inside served (handlerAfter config h before).path := by
  induction before generalizing h with
  | nil => exact hh
  | cons step rest ih =>
      obtain ⟨files, event⟩ := step
      obtain ⟨hpath, hret, -⟩ := handlerReceive_files config files h event
      refine ih ?_
      rcases hh with hret' | hinside
      · exact Or.inl (hret hret')
      · exact Or.inr (by rw [hpath]; exact hinside)

variable (config served) in
/-- The path of a handler that goes on after its request is the resolved one. -/
theorem handleRequest_path (files : Files) (request : TftpPacket) (client : Endpoint) :
    (handleRequest config served files request client).1.phase = .returned ∨
      resolveServedPath served request.filename =
        some (handleRequest config served files request client).1.path := by
  unfold handleRequest
  cases hresolve : resolveServedPath served request.filename with
  | none => exact Or.inl rfl
  | some path =>
      simp only
      split
      · split
        · exact Or.inl rfl
        · next bytes _ =>
            right
            unfold handleReadRequest
            simp only
            split
            · rfl
            · rw [oackAttempt_path]
      · split
        · exact Or.inl rfl
        · exact Or.inr rfl

/-- **Reads and writes are confined when the path is.** -/
theorem servedPathConfined_of_resolved
    (h : ∀ path, resolveServedPath served filename = some path → Inside served path) :
    ServedPathConfined served filename := by
  refine ⟨h, ?_, ?_⟩
  · rintro config request client files files' rfl hfiles
    unfold handleRequest
    cases hresolve : resolveServedPath served request.filename with
    | none => rfl
    | some path => simp only [hfiles path (h path hresolve)]
  · rintro config request client files before files' event path rfl houtside
    have hstart : (handleRequest config served files request client).1.phase = .returned ∨
        Inside served (handleRequest config served files request client).1.path := by
      rcases handleRequest_path config served files request client with hret | hresolve
      · exact Or.inl hret
      · exact Or.inr (h _ hresolve)
    have hafter := handlerAfter_inside config hstart before
    generalize handlerAfter config (handleRequest config served files request client).1 before = g
      at hafter ⊢
    rcases (handlerReceive_files config files' g event).2.2 with
      hsame | ⟨hrun, bytes, hwrite⟩
    · rw [hsame]
    · rcases hafter with hret | hinside
      · exact absurd hret hrun
      · rw [hwrite, Function.update_of_ne]
        rintro rfl
        exact houtside hinside

end Confined

/-! ### The comparison of texts -/

section Lexical

variable (current root filename : Bytes)

/-- The names of the root. -/
def rootNames : List Bytes := Pathname.normalNames 0x2F 0x2E (Pathname.join 0x2F current root)

/-- The names that the requested path leads to. -/
def candidateNames : List Bytes :=
  Pathname.normalNames 0x2F 0x2E (Pathname.join 0x2F current (Pathname.join 0x2F root filename))

/-- The requested name leads to a sibling of the root with a longer name, or into it, and the root
is not written as a directory. -/
def EscapesToSibling : Prop :=
  filename ≠ [] ∧
    Pathname.endsInDirectory 0x2F 0x2E (Pathname.join 0x2F current root) = false ∧
    Pathname.Extends (rootNames current root) (candidateNames current root filename)

variable {current root filename}

/-- A name resolves when the text of the root begins that of the candidate. -/
theorem resolveServedPath_lexical {path : Bytes} :
    resolveServedPath (lexicalDirectory current root) filename = some path ↔
      filename ≠ [] ∧
        path = Pathname.canonical 0x2F 0x2E current (Pathname.join 0x2F root filename) ∧
        Pathname.canonical 0x2F 0x2E current root <+: path := by
  have hjoin : joinPath root filename = Pathname.join 0x2F root filename := rfl
  by_cases hempty : filename = []
  · simp [resolveServedPath, hempty]
  · simp only [resolveServedPath, lexicalDirectory, hempty, hjoin, if_false, ne_eq,
      not_false_eq_true, true_and, Bool.false_eq_true, List.isPrefixOf_iff_prefix,
      Option.ite_none_right_eq_some, Option.some.injEq]
    constructor
    · rintro ⟨hbegins, rfl⟩
      exact ⟨rfl, hbegins⟩
    · rintro ⟨rfl, hbegins⟩
      exact ⟨hbegins, rfl⟩

theorem inside_lexical_iff :
    Inside (lexicalDirectory current root)
        (Pathname.canonical 0x2F 0x2E current (Pathname.join 0x2F root filename)) ↔
      rootNames current root <+: candidateNames current root filename := by
  simp only [Inside, lexicalDirectory, Pathname.canonical, Pathname.components_normal, rootNames,
    candidateNames]

/-- **A request is confined to the served directory unless its name leads to a sibling** of the root
with a longer name. -/
theorem servedPathConfined_iff (current root filename : Bytes) :
    ServedPathConfined (lexicalDirectory current root) filename ↔
      ¬ EscapesToSibling current root filename := by
  constructor
  · rintro h ⟨hne, hfile, hext⟩
    -- the text of the root begins that of the sibling
    have hbegins : Pathname.canonical 0x2F 0x2E current root <+:
        Pathname.canonical 0x2F 0x2E current (Pathname.join 0x2F root filename) := by
      unfold Pathname.canonical Pathname.normal
      rw [hfile]
      exact Pathname.render_prefix_of_extends hext _
    have hinside := h.resolved _ (resolveServedPath_lexical.2 ⟨hne, rfl, hbegins⟩)
    exact hext.not_prefix (inside_lexical_iff.1 hinside)
  · intro hescape
    refine servedPathConfined_of_resolved fun path hpath => ?_
    obtain ⟨hne, rfl, hbegins⟩ := resolveServedPath_lexical.1 hpath
    rw [inside_lexical_iff]
    rcases Pathname.prefix_of_render_prefix (Pathname.isName_normalNames _)
      (Pathname.isName_normalNames _) hbegins with hin | ⟨hfile, hext⟩
    · exact hin
    · exact absurd ⟨hne, hfile, hext⟩ hescape

/-- **A sibling directory is served**: with the root `/srv/served`, the name `../served-private/key`
resolves to a path outside. -/
theorem sibling_directory_served :
    resolveServedPath (lexicalDirectory (text "/") (text "/srv/served"))
        (text "../served-private/key") = some (text "/srv/served-private/key") ∧
      ¬ ServedPathConfined (lexicalDirectory (text "/") (text "/srv/served"))
        (text "../served-private/key") := by
  have hresolve : resolveServedPath (lexicalDirectory (text "/") (text "/srv/served"))
      (text "../served-private/key") = some (text "/srv/served-private/key") := by
    decide +kernel
  refine ⟨hresolve, fun h => ?_⟩
  have hinside := h.resolved _ hresolve
  unfold Inside at hinside
  exact absurd hinside (by decide +kernel)

end Lexical

end TftpHarness
