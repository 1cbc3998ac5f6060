import EnvAudit.Declarations.TaskDefinition
import EnvAudit.Dotenv
import EnvAudit.Error
import EnvAudit.Event
import EnvAudit.Files.Resolve
import EnvAudit.Json.Reader
import EnvAudit.Traced

/-!
# EnvAudit.Declarations.Source

Where variables are declared: in a file of assignments, in a JSON file, or in a mapping that is
given. The name of a file says of which kind it is. The members of the object in a JSON file are the
variables, but in a file whose name ends in `taskdef.json` they are those of the first container, if
it lists any.
-/

namespace EnvAudit

/-- Where variables are declared. -/
inductive Source
  | file (path : Path)
  | mapping (vars : Variables)

/-- The kinds of files in which variables are declared. -/
inductive SourceKind
  /-- Lines `KEY=value`. -/
  | dotenv
  | json
deriving Repr, DecidableEq, Inhabited

/-- Loading notes the lines that it skips. -/
abbrev Loading := Traced Event CheckError

namespace Source

/-- The source as it is named in reports. -/
def describe : Source → String
  | .file path => path.text
  | .mapping _ => "the provided mapping"

/-- The kind of a file, by its name. -/
def kind? (path : Path) : Except CheckError SourceKind :=
  if path.chars = [] then .error (.invalidSource .noPath)
  else if path.fileName? = some ".env".toList then .ok .dotenv
  else
    match path.extension?.map String.ofList with
    | some "env" => .ok .dotenv
    | some "json" => .ok .json
    | extension => .error (.unsupportedSource path extension)

/-- The ending of the names of task definitions. -/
def taskDefinitionEnding : String := "taskdef.json"

/-- Whether a file is named like a task definition. -/
def isTaskDefinition (path : Path) : Bool :=
  path.fileName?.any taskDefinitionEnding.toList.isSuffixOf

/-- The variables that a text of assignments declares. -/
def readDotenv (text : String) : Loading Variables :=
  let d := Dotenv.read text
  ⟨d.skipped.map .skippedLine, .ok (.ofPairs d.assignments)⟩

/-- The variables that the members of an object declare. -/
def ofObject (path : Path) : Json → Except CheckError Variables
  | .object members => .ok (.ofPairs (members.map fun m => (m.1, m.2.asText)))
  | _ => .error (.invalidSource (.notObject path))

/-- The variables that a JSON value declares. -/
def ofJson (path : Path) (v : Json) : Except CheckError Variables :=
  if isTaskDefinition path then
    match TaskDefinition.firstContainer? v with
    | .error m => .error (.invalidSource (.malformedTaskDefinition m))
    | .ok (some c) => .ok (.ofPairs c.pairs)
    | .ok none => ofObject path v
  else ofObject path v

/-- The variables that a JSON text declares. -/
def readJson (path : Path) (text : String) : Except CheckError Variables :=
  match Json.read? text with
  | .error e => .error (.invalidSource (.malformedJson path e))
  | .ok v => ofJson path v

/-- The variables that a file declares. -/
def readFile (fs : FileSystem) (path : Path) : Loading Variables := do
  let kind ← .ofExcept (kind? path)
  let text ← .ofExcept ((fs.readText path).mapError (.unreadable path))
  match kind with
  | .dotenv => readDotenv text
  | .json => .ofExcept (readJson path text)

/-- The variables that a source declares. -/
def load (fs : FileSystem) : Source → Loading Variables
  | .file path => readFile fs path
  | .mapping vars => pure vars

end Source

end EnvAudit
