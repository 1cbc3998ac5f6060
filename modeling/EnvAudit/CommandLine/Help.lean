import EnvAudit.CommandLine.Arg

/-!
# EnvAudit.CommandLine.Help

The help on the program and on each command: what it is for, how it is used, and its commands,
arguments and options, each list in two columns.
-/

namespace EnvAudit.CommandLine

/-- The name of the program. -/
def programName : String := "envcheck"

/-- The version of the program. -/
def programVersion : String := "0.1.0"

/-- What the program is for. -/
def programAbout : String :=
  "A fast CLI tool for checking that every environment variable a project reads is declared"

/-- The line that names the version. -/
def versionText : String := programName ++ " " ++ programVersion ++ "\n"

/-- Lines of two columns under a heading. -/
def columns (heading : String) (rows : List (String × String)) : String :=
  let width := (rows.map fun r => r.1.length).foldl max 0
  let line := fun (r : String × String) =>
    "  " ++ r.1 ++ "".pushn ' ' (width - r.1.length) ++ "  " ++ r.2 ++ "\n"
  heading ++ ":\n" ++ String.join (rows.map line)

/-- An option with its letter, as it is listed. -/
def optionText (a : Arg) : String :=
  (match a.short with
    | some c => .ofList ['-', c, ',', ' ']
    | none => "    ") ++ a.display

/-- What is said of an argument: what it is for, the variable that stands in for it, and what it is
by default. -/
def aboutArg (env? : String → Option String) (a : Arg) : String :=
  let standIn := match a.standIn with
    | some name => s!" [env: {name}=" ++ (env? name).getD "" ++ "]"
    | none => ""
  let default := match a.default with
    | some value => s!" [default: {value}]"
    | none => ""
  a.about ++ standIn ++ default

/-- What is put together under a heading, if there is anything. -/
def listing (heading : String) (rows : List (String × String)) : List String :=
  if rows.isEmpty then [] else [columns heading rows]

/-- Help on a command. -/
def helpOn (env? : String → Option String) (command : CommandSpec) : String :=
  let places := command.args.filter Arg.isPlace
  let options := command.args.filter fun a => !a.isPlace
  let usage := ["Usage:", programName, command.name] ++
    (if options.any fun a => a != help then ["[OPTIONS]"] else []) ++ places.map Arg.display
  let row := fun a => aboutArg env? a
  "\n".intercalate <|
    [command.about ++ "\n", " ".intercalate usage ++ "\n"] ++
    listing "Arguments" (places.map fun a => (a.display, row a)) ++
    listing "Options" (options.map fun a => (optionText a, row a))

/-- Help on the command that prints help. -/
def helpOnHelp : String :=
  "\n".intercalate [
    helpSpec.about ++ "\n", "Usage: " ++ programName ++ " help [COMMAND]...\n",
    columns "Arguments" [("[COMMAND]...", "Print help for the subcommand(s)")]]

/-- Help on the program. -/
def helpOnProgram (env? : String → Option String) : String :=
  "\n".intercalate [
    programAbout ++ "\n", "Usage: " ++ programName ++ " [COMMAND]\n",
    columns "Commands" (commands.map fun c => (c.name, c.about)),
    columns "Options" (general.map fun a => (optionText a, aboutArg env? a))]

/-- The help that is asked for. -/
def helpText (env? : String → Option String) : Option CommandSpec → String
  | none => helpOnProgram env?
  | some command => if command = helpSpec then helpOnHelp else helpOn env? command

end EnvAudit.CommandLine
