/-
**The content oracle.**

After a transfer the harness compares what was supposed to move with what arrived, by fingerprint,
in netascii mode after normalising the source.  The verdict is silent about how the transfer went:
it looks at two files.

Main definitions:

* `TftpHarness.FileSystem`, `TftpHarness.Path` — the file system of the harness, and a name in one
  of its directories;
* `TftpHarness.IntegrityResult`, `TftpHarness.compareBytes`, `TftpHarness.compareFiles` — the
  oracle.

Main results:

* `TftpHarness.compareBytes_self` — equal bytes match;
* `TftpHarness.compareFiles_missing` — the artifact is missing exactly when one of the files cannot
  be read.
-/

import TftpHarness.FileTree
import TftpHarness.Netascii
import TftpHarness.Sha256
import TftpHarness.Server

set_option relaxedAutoImplicit false
set_option autoImplicit false

namespace TftpHarness

/-! ### Files -/

/-- The file system: names and contents are bytes. -/
abbrev FileSystem := FileTree.Tree Bytes Bytes

/-- `directory / name`, where the directory is given by the names that lead to it. -/
structure Path where
  directory : List Bytes
  name : Bytes
  deriving DecidableEq, Repr

/-- One component of a path between two slashes. -/
def pathComponent (name : Bytes) : FileTree.Component Bytes :=
  if name = [] ∨ name = text "." then .here
  else if name = text ".." then .parent
  else .child name

namespace Path

/-- An absolute name replaces the directory. -/
def components (path : Path) : List (FileTree.Component Bytes) :=
  let components := (path.name.splitOn 0x2F).map pathComponent
  if path.name.head? = some 0x2F then components
  else path.directory.map .child ++ components

/-- `path::string`. -/
def string (path : Path) : Bytes :=
  joinPath (path.directory.flatMap fun name => 0x2F :: name) path.name

end Path

/-! ### The verdict -/

inductive IntegrityVerdict
  | match
  | mismatch
  | missingArtifact
  deriving DecidableEq, Repr

structure IntegrityResult where
  verdict : IntegrityVerdict := .missingArtifact
  sourceHash : Bytes := []
  deliveredHash : Bytes := []
  sourceSize : ℕ := 0
  deliveredSize : ℕ := 0
  detail : Bytes := []
  deriving DecidableEq, Repr

def IntegrityResult.matches (result : IntegrityResult) : Bool := result.verdict = .match

/-- `compare_bytes`. -/
def compareBytes (source delivered : Bytes) (netascii : Bool) : IntegrityResult :=
  let reference := decodeForMode netascii (encodeForMode netascii source)
  let sourceHash := sha256Hex reference
  let deliveredHash := sha256Hex delivered
  let result : IntegrityResult :=
    { sourceHash := sourceHash
      deliveredHash := deliveredHash
      sourceSize := reference.length
      deliveredSize := delivered.length }
  if sourceHash = deliveredHash then
    { result with
      verdict := .match
      detail := text "delivered bytes match the source fingerprint" }
  else
    { result with
      verdict := .mismatch
      detail := text "delivered bytes DIFFER from the source (" ++ toDecimal result.sourceSize ++
        text " source bytes vs " ++ toDecimal result.deliveredSize ++ text " delivered bytes)" }

/-- `compare_files`. -/
def compareFiles (files : FileSystem) (source delivered : Path) (netascii : Bool) :
    IntegrityResult :=
  match files.read source.components, files.read delivered.components with
  | none, _ => { detail := text "source artifact missing: " ++ source.string }
  | some _, none => { detail := text "delivered artifact missing: " ++ delivered.string }
  | some sourceBytes, some deliveredBytes => compareBytes sourceBytes deliveredBytes netascii

/-- The bytes of a source delivered in octet mode match. -/
theorem compareBytes_self (bytes : Bytes) : (compareBytes bytes bytes false).verdict = .match := by
  unfold compareBytes
  exact congrArg IntegrityResult.verdict (if_pos rfl)

theorem compareFiles_self {files : FileSystem} {source delivered : Path} {bytes : Bytes}
    (hsource : files.read source.components = some bytes)
    (hdelivered : files.read delivered.components = some bytes) :
    (compareFiles files source delivered false).verdict = .match := by
  unfold compareFiles
  rw [hsource, hdelivered]
  exact compareBytes_self bytes

theorem compareBytes_not_missing (source delivered : Bytes) (netascii : Bool) :
    (compareBytes source delivered netascii).verdict ≠ .missingArtifact := by
  unfold compareBytes
  dsimp only
  split
  · exact IntegrityVerdict.noConfusion
  · exact IntegrityVerdict.noConfusion

/-- **The artifact is missing exactly when one of the files cannot be read.** -/
theorem compareFiles_missing (files : FileSystem) (source delivered : Path) (netascii : Bool) :
    (compareFiles files source delivered netascii).verdict = .missingArtifact ↔
      files.read source.components = none ∨ files.read delivered.components = none := by
  unfold compareFiles
  cases files.read source.components with
  | none => simp
  | some sourceBytes =>
      cases files.read delivered.components with
      | none => simp
      | some deliveredBytes => simp [compareBytes_not_missing]

end TftpHarness
