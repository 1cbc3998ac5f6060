import EnvAudit.Check
import EnvAudit.Checkout
import EnvAudit.CommandLine.Help
import EnvAudit.Log

/-!
# EnvAudit.Commands

Carrying out commands:

1. `Command.run` gives the files after a command, what it wrote and noted, and how it ended;
2. a check that finds undeclared variables is a failure, and so is an `init` that finds a config
   file; a command that cannot be carried out is an error;
3. results go to the output stream and all else to the error stream. An output stream may have no
   more room: a check passes over it, a scan fails, and an `init` crashes.
-/

namespace EnvAudit

/-- How a command ends. -/
inductive ExitStatus
  | success
  /-- Something is amiss with the project. -/
  | failure
  /-- The command could not be carried out. -/
  | error
  /-- The program crashed. -/
  | crashed
deriving Repr, DecidableEq, Inhabited

/-- The number of an exit status. -/
def ExitStatus.code : ExitStatus → Nat
  | .success => 0
  | .failure => 1
  | .error => 2
  | .crashed => 101

namespace Run

/-- A check or a scan as a part of a command. -/
def ofCheck {α : Type} (x : Traced Event CheckError α) : Run α :=
  ⟨x.notes.map .event, x.result.mapError .check⟩

/-- Write to an output stream, which may have no room for all of the text; then this is why. -/
def out (stdout : Room) (text : String) : Run (Option Fault) :=
  ⟨[.out (.ofList (stdout.taken text.toList))], .ok (stdout.refusal? text.toList)⟩

/-- Write to the error stream. -/
def err (text : String) : Run Unit := .note (.err text)

end Run

namespace Command

/-- How a project is scanned, given its config file. -/
def scanOptions (fs : FileSystem) (settings : ScanSettings) (project : Path) : Run ScanOptions := do
  let (config, path) ← .ofExcept ((Config.load fs settings.config project).mapError .config)
  match path with
  | some path => .note (.event (.loadedConfig path config.patterns.length))
  | none => pure ()
  return ⟨settings.debug, config.patterns⟩

/-- Check a project. Reports name the source by `declaredIn`, if it is given. -/
def runCheck (w : Surroundings) (fs : FileSystem) (envFile project : Path)
    (settings : ScanSettings) (declaredIn : Option String) : Run ExitStatus := do
  let options ← scanOptions fs settings project
  let x := EnvAudit.check fs (.file envFile) project options
  match x.result with
  | .error (.missing names described) => do
    Run.ofCheck ⟨x.notes, .ok ()⟩
    Run.err (Report.missing w.color names (declaredIn.getD described))
    return .failure
  | _ => do
    let outcome ← Run.ofCheck x
    let _ ← Run.out w.stdout (Report.success w.color outcome.scan.names.size outcome.scan.files)
    return .success

/-- Scan a project. -/
def runScan (w : Surroundings) (fs : FileSystem) (json : Bool) (project : Path)
    (settings : ScanSettings) : Run ExitStatus := do
  let options ← scanOptions fs settings project
  let names ← Run.ofCheck (environments fs project options)
  match ← Run.out w.stdout (Report.listing json names) with
  | some fault => .fail (.notTaken fault)
  | none => return .success

/-- Write a config file without patterns. -/
def runInit (w : Surroundings) (fs : FileSystem) (dir : Path) : FileSystem × Run ExitStatus :=
  let path := dir.join Config.fileName
  if fs.present path then
    (fs, do
      Run.err s!"Error: {path.text} already exists\n"
      return .failure)
  else
    match fs.save w.storage path (Utf8.encode Config.defaultText.toList) with
    | (files, .error fault) => (files, .fail (.notWritten path fault))
    | (files, .ok ()) =>
      (files, do
        match ← Run.out w.stdout (Report.done w.color s!"Created {path.text}") with
        | some fault =>
          Run.err s!"failed printing to stdout: {fault.message}\n"
          return .crashed
        | none => return .success)

/-- Carry out a command: the files then, and what was written meanwhile. -/
def run (w : Surroundings) (fs : FileSystem) : Command → FileSystem × Run ExitStatus
  | .check envFile project settings => (fs, runCheck w fs envFile project settings none)
  | .scan project json settings => (fs, runScan w fs json project settings)
  | .checkGit source envFile settings =>
    Checkout.withClone w fs source fun fs project => do
      let file ← Checkout.findFile fs project envFile
      runCheck w fs file project settings (some s!"{envFile.text} in {source.url}")
  | .scanGit source json settings =>
    Checkout.withClone w fs source fun fs project => runScan w fs json project settings
  | .init dir => runInit w fs dir

end Command

/-- What is left of the run of a command line. -/
structure Outcome where
  files : FileSystem
  /-- What was written and noted, in order. -/
  output : List Output
  status : ExitStatus

namespace Outcome

/-- The text on the output stream. -/
def stdout (o : Outcome) : String :=
  String.join (o.output.filterMap fun x => match x with
    | .out text => some text
    | _ => none)

/-- The text on the error stream, without the log. -/
def stderr (o : Outcome) : String :=
  String.join (o.output.filterMap fun x => match x with
    | .err text => some text
    | _ => none)

/-- The notes that a filter shows. -/
def events (o : Outcome) (filter : LogFilter) : List Event :=
  o.output.filterMap fun x => match x with
    | .event e => if filter.shows e then some e else none
    | _ => none

/-- The text on the error stream with the log, all notes made at one time. -/
def stderrWithLog (o : Outcome) (filter : LogFilter) (time : String) : String :=
  String.join (o.output.map fun x => match x with
    | .err text => text
    | .event e => if filter.shows e then e.line time else ""
    | .out _ => "")

end Outcome

/-- Carry out a command and report its failure. -/
def Command.outcome (c : Command) (w : Surroundings) (fs : FileSystem) : Outcome :=
  let (files, run) := c.run w fs
  match run.result with
  | .ok status => ⟨files, run.notes, status⟩
  | .error e => ⟨files, run.notes ++ [.err s!"Error: {e.message}\n"], .error⟩

/-! ## Command lines -/

/-- What a command line comes to. -/
inductive Answer
  /-- Help or the version, which was asked for. -/
  | text (text : String)
  /-- Help, since there is no command. -/
  | idle (text : String)
  | misuse (e : UsageError)
  | carriedOut (command : Command) (outcome : Outcome)

/-- Read a command line and carry out its command; without a command there is help. -/
def answer (env? : String → Option String) (w : Surroundings) (fs : FileSystem)
    (words : List String) : Answer :=
  match CommandLine.command env? words with
  | .ok (some c) => .carriedOut c (c.outcome w fs)
  | .ok none => .idle (CommandLine.helpText env? none)
  | .error (.help command) => .text (CommandLine.helpText env? command)
  | .error .version => .text CommandLine.versionText
  | .error (.misuse e) => .misuse e

/-- The filter of the log: the one that `RUST_LOG` asks for, or the one for the debug flag; also
what is written about it. -/
def logFilter (env? : String → Option String) (debug : Bool) : LogFilter × String :=
  match env? "RUST_LOG" with
  | none => (.ofDebug debug, "")
  | some text =>
    let (filter, refused) := LogFilter.read text
    (filter, String.join (refused.map fun r => s!"ignoring \x60{r.1}\x60: {r.2.message}\n"))

end EnvAudit
