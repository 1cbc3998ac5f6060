import EnvAudit.CommandLine.Reading
import EnvAudit.Path.Basic

/-!
# EnvAudit.CommandLine.Command

The commands of the program, as read from a command line.
-/

namespace EnvAudit

/-- What all commands that scan have in common. -/
structure ScanSettings where
  debug : Bool := false
  config : Option Path := none
deriving Repr, DecidableEq, Inhabited

/-- Which project is cloned from where. -/
structure GitSource where
  url : String
  branch : Option String := none
  /-- The project's directory within the repository. -/
  path : Option Path := none
deriving Repr, DecidableEq, Inhabited

/-- A command. -/
inductive Command
  /-- Check a project. -/
  | check (envFile project : Path) (settings : ScanSettings)
  /-- Scan a project. -/
  | scan (project : Path) (json : Bool) (settings : ScanSettings)
  /-- Clone a project and check it. -/
  | checkGit (source : GitSource) (envFile : Path) (settings : ScanSettings)
  /-- Clone a project and scan it. -/
  | scanGit (source : GitSource) (json : Bool) (settings : ScanSettings)
  /-- Write a config file without patterns. -/
  | init (dir : Path)
deriving Repr, DecidableEq, Inhabited

/-- Whether the command notes what it does. -/
def Command.debug : Command → Bool
  | .check _ _ s | .scan _ _ s | .checkGit _ _ s | .scanGit _ _ s => s.debug
  | .init _ => false

namespace CommandLine

/-- Arguments with their values. -/
abbrev Given := List (String × String)

namespace Given

/-- The value of an argument, or what it is by default. -/
def value? (g : Given) (a : Arg) : Option String := g.lookup a.name <|> a.default

/-- The text of an argument. -/
def text (g : Given) (a : Arg) : String := (g.value? a).getD ""

/-- The path that an argument is. -/
def path? (g : Given) (a : Arg) : Option Path := (g.value? a).map .ofText

/-- The path that an argument is. -/
def path (g : Given) (a : Arg) : Path := .ofText (g.text a)

/-- Whether a flag is given. -/
def has (g : Given) (a : Arg) : Bool := (g.lookup a.name).isSome

/-- What all commands that scan have in common. -/
def settings (g : Given) : ScanSettings := ⟨g.has debug, g.path? config⟩

/-- Which project is cloned from where. -/
def source (g : Given) : GitSource :=
  ⟨g.text repoUrl, g.value? branch, g.path? CommandLine.path⟩

/-- The command with these arguments. -/
def command (g : Given) (spec : CommandSpec) : Option Command :=
  if spec = checkSpec then some (.check (g.path envFile) (g.path projectDir) g.settings)
  else if spec = scanSpec then some (.scan (g.path projectDir) (g.has json) g.settings)
  else if spec = checkGitSpec then some (.checkGit g.source (g.path repoEnvFile) g.settings)
  else if spec = scanGitSpec then some (.scanGit g.source (g.has json) g.settings)
  else if spec = initSpec then some (.init (g.path dir))
  else none

end Given

/-- The command that words ask for, if they name one. -/
def command (env? : String → Option String) (words : List String) :
    Except Stop (Option Command) := do
  match ← findCommand words with
  | none => return none
  | some (spec, rest) =>
    let given : Given ← read env? spec rest
    return given.command spec

end CommandLine

end EnvAudit
