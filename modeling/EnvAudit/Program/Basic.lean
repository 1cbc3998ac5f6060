import EnvAudit.Files.Basic

/-!
# EnvAudit.Program.Basic

Running other programs: how a run ends, what it leaves behind, and what a way of running programs
is.
-/

namespace EnvAudit

/-- How the run of a program ends. -/
inductive RunStatus
  | exited (code : Nat)
  /-- Stopped by a signal. -/
  | stopped (signal : Nat)
deriving Repr, DecidableEq, Inhabited

namespace RunStatus

/-- The names of signals. -/
def signalNames : List (Nat × String) :=
  [(1, "SIGHUP"), (2, "SIGINT"), (3, "SIGQUIT"), (4, "SIGILL"), (5, "SIGTRAP"), (6, "SIGABRT"),
    (7, "SIGBUS"), (8, "SIGFPE"), (9, "SIGKILL"), (10, "SIGUSR1"), (11, "SIGSEGV"),
    (12, "SIGUSR2"), (13, "SIGPIPE"), (14, "SIGALRM"), (15, "SIGTERM")]

/-- Whether the run was a success. -/
def isSuccess (s : RunStatus) : Bool := s = .exited 0

/-- The status as it is reported. -/
def message : RunStatus → String
  | .exited code => s!"exit status: {code}"
  | .stopped signal =>
    match signalNames.lookup signal with
    | some name => s!"signal: {signal} ({name})"
    | none => s!"signal: {signal}"

end RunStatus

/-- What the run of a program leaves behind. -/
structure ProgramRun where
  files : FileSystem
  /-- What it wrote to the error stream. -/
  errors : String
  status : RunStatus

/-- A way of running programs: given the words of a command, what is left behind, or why the
program cannot be run. The program is given nothing to read, and what it writes to the output
stream is lost. -/
abbrev Launcher := FileSystem → List String → Except Fault ProgramRun

end EnvAudit
