import EnvAudit.Error
import EnvAudit.Event
import EnvAudit.Files.Walk
import EnvAudit.FoundNames
import EnvAudit.Registry.Basic

/-!
# EnvAudit.Scan

Searching the files at or below a path for references to variables. Each file whose extension has
an entry in the registry is read, with `U+FFFD` for bytes that are no text, and searched by the
first such entry. The search stops at the first file or directory that cannot be read.
-/

namespace EnvAudit

/-- What a scan has found. -/
structure Scan where
  /-- How many files were read. -/
  files : Nat := 0
  names : FoundNames := ∅
deriving Inhabited

namespace Scan

/-- The extension of a path with its dot. -/
def dottedExtension? (p : Path) : Option String :=
  p.extension?.map fun e => .ofList ('.' :: e)

/-- The entry for a file. -/
def entryFor? (registry : Registry) (p : Path) : Option PatternEntry :=
  dottedExtension? p >>= registry.forExtension?

/-- Scan a file. -/
def visit (registry : Registry) (debug : Bool) (s : Scan) (v : Visit) :
    Traced Event CheckError Scan :=
  match entryFor? registry v.path with
  | none => pure s
  | some entry => do
    .noteIf debug (.scanningFile v.path entry.tag)
    let bytes ← .ofExcept (v.content.mapError (.unreadable v.path))
    let names := entry.extract (Utf8.decodeLossy bytes)
    ⟨if debug then names.map fun n => .foundVariable n v.path else [],
      .ok ⟨s.files + 1, s.names.insertAll names⟩⟩

end Scan

/-- Scan everything at or below a path. -/
def scan (fs : FileSystem) (registry : Registry) (debug : Bool) (root : Path) :
    Traced Event CheckError Scan := do
  let walk := fs.walk root
  let s ← walk.notes.foldlM (Scan.visit registry debug) {}
  match walk.result with
  | .ok () => return s
  | .error b => .fail (.unreadable b.path b.fault)

end EnvAudit
