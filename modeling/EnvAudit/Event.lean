import EnvAudit.Path.Basic
import EnvAudit.Text.Quoted

/-!
# EnvAudit.Event

What the program notes on its way, as it appears in the log: a level, the part of the program that
made the note, a message, and fields that each have a name and a value.
-/

namespace EnvAudit

/-- How much a note matters. -/
inductive Level
  | error
  | warn
  | info
  | debug
  | trace
deriving Repr, DecidableEq, Inhabited

namespace Level

/-- How many levels matter at least as much. -/
def rank : Level → Nat
  | .error => 1
  | .warn => 2
  | .info => 3
  | .debug => 4
  | .trace => 5

/-- The level as it is logged. -/
def name : Level → String
  | .error => "ERROR"
  | .warn => "WARN"
  | .info => "INFO"
  | .debug => "DEBUG"
  | .trace => "TRACE"

end Level

/-- What is noted. -/
inductive Event
  /-- A line of a declaration file is no assignment. -/
  | skippedLine (line : String)
  | checking (source : String) (project : Path)
  | loadedDeclarations (count : Nat)
  | scanningProject (project : Path)
  | scanningFile (file : Path) (tag : String)
  | foundVariable (name : String) (file : Path)
  | loadedConfig (config : Path) (patterns : Nat)
  | runningGit (command : List String)
deriving Repr, DecidableEq, Inhabited

/-- The value of a field of a note. -/
inductive FieldValue
  /-- A text that is logged between quotes. -/
  | text (s : String)
  /-- A text that is logged as it is. -/
  | plain (s : String)
deriving Repr, DecidableEq, Inhabited

namespace FieldValue

/-- The value as it is. -/
def content : FieldValue → String
  | .text s => s
  | .plain s => s

/-- The value as it is logged. -/
def logged : FieldValue → String
  | .text s => Quoted.quote s
  | .plain s => s

end FieldValue

namespace Event

/-- How much the note matters. -/
def level : Event → Level
  | .skippedLine _ => .warn
  | _ => .debug

/-- The part of the program that makes the note. -/
def area : Event → String
  | .skippedLine _ => "envcheck::core::declarations"
  | .checking _ _ | .loadedDeclarations _ | .scanningProject _ => "envcheck::core"
  | .scanningFile _ _ | .foundVariable _ _ => "envcheck::core::scanner"
  | .loadedConfig _ _ => "envcheck::cli::commands"
  | .runningGit _ => "envcheck::cli::git"

/-- What the note says. -/
def message : Event → String
  | .skippedLine _ => "skipping unparseable dotenv line"
  | .checking _ _ => "checking environment variables"
  | .loadedDeclarations _ => "loaded declarations"
  | .scanningProject _ => "scanning project directory"
  | .scanningFile _ _ => "scanning file"
  | .foundVariable _ _ => "found variable"
  | .loadedConfig _ _ => "loaded config"
  | .runningGit _ => "running git"

/-- The fields of the note. -/
def fields : Event → List (String × FieldValue)
  | .skippedLine line => [("line", .text line)]
  | .checking source project => [("source", .plain source), ("project", .plain project.text)]
  | .loadedDeclarations count => [("count", .plain (toString count))]
  | .scanningProject project => [("project", .plain project.text)]
  | .scanningFile file tag => [("file", .plain file.text), ("tag", .text tag)]
  | .foundVariable name file => [("name", .text name), ("file", .plain file.text)]
  | .loadedConfig config patterns =>
    [("config", .plain config.text), ("patterns", .plain (toString patterns))]
  | .runningGit command =>
    [("cmd", .plain (" ".intercalate (command.map Quoted.quoteWord)))]

end Event

end EnvAudit
