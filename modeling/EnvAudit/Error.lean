import EnvAudit.Files.Fault
import EnvAudit.Json.Fault
import EnvAudit.Path.Basic
import EnvAudit.Registry.Entry

/-!
# EnvAudit.Error

Why a check or a scan fails. A `CheckError` is a cause; `CheckError.message` is its report in one
line and `CheckError.chain` adds what lies behind it.
-/

namespace EnvAudit

/-- Why the text of a declaration source cannot be used. -/
inductive SourceFault
  /-- The path is empty. -/
  | noPath
  /-- The text is no JSON. -/
  | malformedJson (path : Path) (e : JsonError)
  /-- The JSON value is no object. -/
  | notObject (path : Path)
  /-- The containers of a task definition do not have the shape of containers. -/
  | malformedTaskDefinition (m : Mismatch)
deriving Repr, DecidableEq, Inhabited

/-- The fault in words. -/
def SourceFault.message : SourceFault → String
  | .noPath => "expected a path to a .env/.json file or a mapping"
  | .malformedJson path e => s!"malformed JSON in {path.text}: {e.message}"
  | .notObject path => s!"{path.text} must contain a JSON object at the top level"
  | .malformedTaskDefinition m => s!"malformed task definition: {m.message}"

/-- Why a check or a scan fails. -/
inductive CheckError
  /-- A declaration file is of no known kind. -/
  | unsupportedSource (path : Path) (extension : Option String)
  | invalidSource (fault : SourceFault)
  /-- A file or directory cannot be read. -/
  | unreadable (path : Path) (fault : Fault)
  | invalidPattern (tag : String) (fault : PatternFault)
  /-- Variables are referred to and not declared. -/
  | missing (names : List String) (declaredIn : String)
deriving Repr, DecidableEq, Inhabited

namespace CheckError

/-- How the extension of a file is named. -/
def extensionText : Option String → String
  | some extension => "." ++ extension
  | none => "(none)"

/-- The report of the failure, without what lies behind it. -/
def message : CheckError → String
  | .unsupportedSource path extension =>
    s!"unsupported declaration source {path.text}: extension {extensionText extension}"
  | .invalidSource fault => s!"invalid declaration source: {fault.message}"
  | .unreadable path _ => s!"cannot read {path.text}"
  | .invalidPattern tag fault => "invalid pattern for tag \"" ++ tag ++ "\": " ++ fault.message
  | .missing names declaredIn =>
    s!"{names.length} environment variable(s) not declared in {declaredIn}"

/-- The report of the failure and of what lies behind it. -/
def chain : CheckError → List String
  | .unreadable path fault => [(unreadable path fault).message, fault.message]
  | e => [e.message]

end CheckError

end EnvAudit
