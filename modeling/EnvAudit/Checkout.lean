import EnvAudit.CommandLine.Command
import EnvAudit.Config
import EnvAudit.Error
import EnvAudit.Event
import EnvAudit.Files.Edit
import EnvAudit.Program.Basic
import EnvAudit.Report
import EnvAudit.Text.Quoted
import EnvAudit.Traced

/-!
# EnvAudit.Checkout

A project that is cloned into a temporary directory for the time of one command. The path of the
project within the repository cannot lead out of it, which is seen to before anything is cloned.
-/

namespace EnvAudit

/-- What a command writes and notes. -/
inductive Output
  /-- Text on the output stream. -/
  | out (text : String)
  /-- Text on the error stream. -/
  | err (text : String)
  | event (e : Event)
deriving Repr, DecidableEq, Inhabited

/-- Why a command fails. -/
inductive CommandError
  | check (e : CheckError)
  | config (e : ConfigError)
  /-- The path of a project may lead out of its repository. -/
  | pathLeaves (path : Path)
  /-- The temporary directory cannot be made. -/
  | noTemporaryDir (path : Path) (fault : Fault)
  /-- `git` cannot be run. -/
  | noGit (fault : Fault)
  | cloneFailed (url : String) (status : RunStatus)
  /-- A repository does not have the directory of the project. -/
  | noProject (path : Path) (url : String)
  /-- A project does not have the declaration file. -/
  | noEnvFile (name : Path)
  | notWritten (path : Path) (fault : Fault)
  /-- The output stream does not take a result. -/
  | notTaken (fault : Fault)
deriving Repr, DecidableEq, Inhabited

namespace CommandError

/-- The report of the failure and of what lies behind it. -/
def chain : CommandError → List String
  | .check e => e.chain
  | .config e => e.chain
  | .pathLeaves path => [s!"--path must be relative to the repository root: {path.text}"]
  | .noTemporaryDir path fault =>
    ["Failed to create temporary directory",
      s!"{fault.message} at path {Quoted.quotePath path.text}"]
  | .noGit fault => ["Failed to run git. Is it installed and on PATH?", fault.message]
  | .cloneFailed url status => [s!"git clone of {url} failed ({status.message})"]
  | .noProject path url => [s!"Path {path.text} does not exist in {url}"]
  | .noEnvFile name => [s!"No env source file found: {name.text}"]
  | .notWritten path fault => [s!"Failed to write {path.text}", fault.message]
  | .notTaken fault => [fault.message]

/-- The report in one line. -/
def message (e : CommandError) : String := ": ".intercalate e.chain

end CommandError

/-- A command that writes and notes things, and may fail. -/
abbrev Run := Traced Output CommandError

/-- What surrounds a command. -/
structure Surroundings where
  /-- Whether colours are shown. -/
  color : Bool
  /-- How programs are run. -/
  launch : Launcher
  /-- Where temporary directories are made. -/
  temporary : Path
  /-- The last name that is tried for the temporary directory. -/
  checkoutName : String
  /-- How much the output stream takes. The error stream takes everything. -/
  stdout : Room := .unlimited
  /-- How much can be written to files. -/
  storage : FileSystem.Storage := fun _ _ => .ok .unlimited

namespace Checkout

/-- The directory into which a repository is cloned. -/
def dir (w : Surroundings) : Path := w.temporary.join (.ofText w.checkoutName)

/-- The command that clones a repository. -/
def cloneCommand (source : GitSource) (target : Path) : List String :=
  ["git", "clone", "--quiet", "--depth", "1"] ++
    (match source.branch with
      | some branch => ["--branch", branch]
      | none => []) ++
    ["--", source.url, target.text]

/-- The line that tells what is cloned. -/
def announcement (color : Bool) (source : GitSource) : String :=
  let branch := match source.branch with
    | some branch => s!" (branch {branch})"
    | none => ""
  Style.boldGreen.paint color "Cloning" ++ " " ++ source.url ++ branch ++ "\n"

/-- The directory of the project within the checkout. -/
def projectDir (w : Surroundings) (source : GitSource) : Path :=
  match source.path with
  | some path => (dir w).join path
  | none => dir w

/-- Refuse a path that may lead out of the repository. -/
def validate (source : GitSource) : Except CommandError Unit :=
  match source.path with
  | some path => if path.mayLeave then .error (.pathLeaves path) else .ok ()
  | none => .ok ()

/-- Clone a repository into an empty directory: the files then, what is written meanwhile, and the
directory of the project. -/
def clone (w : Surroundings) (fs : FileSystem) (source : GitSource) :
    FileSystem × Run Path :=
  let command := cloneCommand source (dir w)
  let begun : Run Unit :=
    ⟨[.err (announcement w.color source), .event (.runningGit command)], .ok ()⟩
  match w.launch fs command with
  | .error fault => (fs, do begun; .fail (.noGit fault))
  | .ok run =>
    (run.files, do
      begun
      .note (.err run.errors)
      if !run.status.isSuccess then .fail (.cloneFailed source.url run.status)
      if !run.files.isDir (projectDir w source) then
        .fail (.noProject (source.path.getD (.ofText ".")) source.url)
      return projectDir w source)

/-- Make the temporary directory. -/
def prepare (w : Surroundings) (fs : FileSystem) : Except CommandError FileSystem :=
  match fs.makeDir w.storage (dir w) with
  | .ok fs => .ok fs
  | .error .taken =>
    .error (.noTemporaryDir w.temporary (.other "too many temporary files exist"))
  | .error fault => .error (.noTemporaryDir (dir w) fault)

/-- Take the temporary directory away. -/
def discard (w : Surroundings) (fs : FileSystem) : FileSystem :=
  match fs.remove (dir w) with
  | .ok fs => fs
  | .error _ => fs

/-- Clone a repository, do something with it, and take it away: the files then, and what was
written meanwhile. -/
def withClone {α : Type} (w : Surroundings) (fs : FileSystem) (source : GitSource)
    (use : FileSystem → Path → Run α) : FileSystem × Run α :=
  match validate source with
  | .error e => (fs, .fail e)
  | .ok () =>
    match prepare w fs with
    | .error e => (fs, .fail e)
    | .ok prepared =>
      let (cloned, project) := clone w prepared source
      (discard w cloned, project >>= use cloned)

/-- The path of a file in the directory of a project. -/
def findFile (fs : FileSystem) (project name : Path) : Run Path :=
  if fs.isFile (project.join name) then pure (project.join name) else .fail (.noEnvFile name)

end Checkout

end EnvAudit
