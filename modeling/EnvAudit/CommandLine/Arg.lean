/-!
# EnvAudit.CommandLine.Arg

What can be given on the command line: the arguments of each command and the commands of the
program.
-/

namespace EnvAudit

/-- How an argument is given. -/
inductive ArgForm
  /-- By its place among the arguments that are no options. -/
  | place (required : Bool)
  /-- By its name alone. -/
  | flag
  /-- By its name and a value. -/
  | option
deriving Repr, DecidableEq, Inhabited

/-- An argument of a command. -/
structure Arg where
  form : ArgForm
  /-- The long name, without dashes. -/
  name : String
  /-- The name of one letter. -/
  short : Option Char := none
  /-- What the value is called. -/
  value : String := ""
  /-- Whether the value is a path, which cannot be empty. -/
  isPath : Bool := false
  about : String
  /-- The value if none is given. -/
  default : Option String := none
  /-- The variable that stands in for a flag. -/
  standIn : Option String := none
deriving Repr, DecidableEq, Inhabited

namespace Arg

/-- Whether the argument is given by its place. -/
def isPlace (a : Arg) : Bool :=
  match a.form with
  | .place _ => true
  | _ => false

/-- The argument as it is named in messages. -/
def display (a : Arg) : String :=
  match a.form with
  | .place true => s!"<{a.value}>"
  | .place false => s!"[{a.value}]"
  | .flag => s!"--{a.name}"
  | .option => s!"--{a.name} <{a.value}>"

end Arg

/-- A command and its arguments. -/
structure CommandSpec where
  name : String
  about : String
  args : List Arg
deriving Repr, DecidableEq, Inhabited

namespace CommandLine

/-! ## Arguments -/

/-- The request for help. -/
def help : Arg := { form := .flag, name := "help", short := some 'h', about := "Print help" }

/-- The request for the version. -/
def version : Arg :=
  { form := .flag, name := "version", short := some 'V', about := "Print version" }

def debug : Arg :=
  { form := .flag, name := "debug", about := "Print every scanned file and discovered variable"
    standIn := some "ENVCHECK_DEBUG" }

def config : Arg :=
  { form := .option, name := "config", value := "CONFIG", isPath := true
    about := "Config file (default: nearest .envcheckrc.json)" }

def json : Arg := { form := .flag, name := "json", about := "Print the variables as a JSON array" }

def projectDir : Arg :=
  { form := .place false, name := "project_dir", value := "PROJECT_DIR", isPath := true
    about := "Project directory to scan", default := some "." }

def repoUrl : Arg :=
  { form := .place true, name := "repo_url", value := "REPO_URL"
    about := "Repository URL (anything \x60git clone\x60 accepts)" }

def branch : Arg :=
  { form := .option, name := "branch", short := some 'b', value := "BRANCH"
    about := "Branch or tag to clone (default: the remote's default branch)" }

def path : Arg :=
  { form := .option, name := "path", value := "PATH", isPath := true
    about := "Project directory inside the repository" }

/-- The declaration file of a project. -/
def envFile : Arg :=
  { form := .place true, name := "env_file", value := "ENV_FILE", isPath := true
    about := "Declaration file (.env or .json)" }

/-- The declaration file of a repository. -/
def repoEnvFile : Arg :=
  { form := .option, name := "env-file", value := "ENV_FILE", isPath := true
    about := "Declaration file, relative to the project directory", default := some ".env" }

def dir : Arg :=
  { form := .place false, name := "dir", value := "DIR", isPath := true
    about := "Directory to create the config file in", default := some "." }

/-! ## Commands -/

def checkSpec : CommandSpec :=
  ⟨"check", "Check that every referenced environment variable is declared",
    [envFile, projectDir, debug, config, help]⟩

def scanSpec : CommandSpec :=
  ⟨"scan", "List environment variables referenced by a project",
    [projectDir, json, debug, config, help]⟩

def checkGitSpec : CommandSpec :=
  ⟨"check-git", "Clone a git repository and check its environment variables",
    [repoUrl, branch, path, repoEnvFile, debug, config, help]⟩

def scanGitSpec : CommandSpec :=
  ⟨"scan-git", "Clone a git repository and list its environment variables",
    [repoUrl, branch, path, json, debug, config, help]⟩

def initSpec : CommandSpec :=
  ⟨"init", "Initialize a new .envcheckrc.json configuration file", [dir, help]⟩

/-- The command that prints help. -/
def helpSpec : CommandSpec :=
  ⟨"help", "Print this message or the help of the given subcommand(s)", []⟩

/-- The commands in the order in which they are listed. -/
def commands : List CommandSpec :=
  [checkSpec, scanSpec, checkGitSpec, scanGitSpec, initSpec, helpSpec]

/-- What can be asked of the program without a command. -/
def general : List Arg := [help, version]

/-- The command with a name. -/
def find? (name : String) : Option CommandSpec := commands.find? fun c => c.name = name

end CommandLine

end EnvAudit
