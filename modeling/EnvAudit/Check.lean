import EnvAudit.Declarations.Source
import EnvAudit.Scan

/-!
# EnvAudit.Check

The two questions this library answers: which variables does a project refer to (`environments`),
and are all of them declared (`check`)? A check reads custom patterns first, then the declarations,
and only then looks at the project.
-/

namespace EnvAudit

/-- How a project is scanned. -/
structure ScanOptions where
  /-- Whether every file read and every variable found is noted. -/
  debug : Bool := false
  customPatterns : List CustomPattern := []
deriving Repr, Inhabited

/-- The registry to scan with. -/
def ScanOptions.registry (o : ScanOptions) : Except CheckError Registry :=
  (Registry.withCustom o.customPatterns).mapError fun (tag, fault) => .invalidPattern tag fault

/-- What a check without missing declarations has found. -/
structure CheckOutcome where
  declared : Variables
  scan : Scan

/-- The names that are not declared, in order. -/
def missing (declared : Variables) (found : FoundNames) : List String :=
  found.toList.filter fun name => !declared.declares name

/-- Check that every variable that a project refers to is declared. -/
def check (fs : FileSystem) (source : Source) (project : Path) (o : ScanOptions) :
    Traced Event CheckError CheckOutcome := do
  .noteIf o.debug (.checking source.describe project)
  let registry ← .ofExcept o.registry
  let declared ← source.load fs
  .noteIf o.debug (.loadedDeclarations declared.size)
  let s ← scan fs registry o.debug project
  match missing declared s.names with
  | [] => return ⟨declared, s⟩
  | names => .fail (.missing names source.describe)

/-- The names of the variables that a project refers to. -/
def environments (fs : FileSystem) (project : Path) (o : ScanOptions) :
    Traced Event CheckError (List String) := do
  .noteIf o.debug (.scanningProject project)
  let registry ← .ofExcept o.registry
  let s ← scan fs registry o.debug project
  return s.names.toList

end EnvAudit
