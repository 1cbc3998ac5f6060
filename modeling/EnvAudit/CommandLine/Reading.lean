import EnvAudit.CommandLine.Arg

/-!
# EnvAudit.CommandLine.Reading

Reading the arguments of a command from left to right:

1. a word that starts with dashes names options, any other is a value of the option before it or
   takes the next place; behind `--` every word takes a place;
2. an argument is settled when the next one begins: only then is it refused if it has no value, an
   empty path, or was given before; a word that names no argument is refused at once;
3. reading stops at a request for help or at the first refusal.
-/

namespace EnvAudit

/-- Why a command line cannot be used. -/
inductive UsageError
  | unknownArgument (word : String)
  | unknownCommand (word : String)
  | missingArguments (args : List Arg)
  | noValue (arg : Arg)
  | repeated (arg : Arg)
  /-- A value is given to what takes none. -/
  | unneededValue (value : String) (arg : Arg)
deriving Repr, DecidableEq, Inhabited

/-- The first line of the report. -/
def UsageError.message : UsageError → String
  | .unknownArgument word => s!"error: unexpected argument '{word}' found"
  | .unknownCommand word => s!"error: unrecognized subcommand '{word}'"
  | .missingArguments _ => "error: the following required arguments were not provided:"
  | .noValue arg => s!"error: a value is required for '{arg.display}' but none was supplied"
  | .repeated arg => s!"error: the argument '{arg.display}' cannot be used multiple times"
  | .unneededValue value arg =>
    s!"error: unexpected value '{value}' for '{arg.display}' found; no more were expected"

/-- Why reading ends before a command is known. -/
inductive Stop
  /-- Help is asked for, in general or on a command. -/
  | help (command : Option CommandSpec)
  | version
  | misuse (e : UsageError)
deriving Repr, DecidableEq, Inhabited

namespace CommandLine

/-- What has been read so far. -/
structure Reading where
  /-- The arguments settled, with their values. -/
  given : List (String × String) := []
  /-- The argument that is not settled yet, with its value. -/
  pending : Option (Arg × Option String) := none
  /-- The places that are not taken yet. -/
  places : List Arg
  /-- Whether the next word is a value of the argument that is not settled. -/
  expecting : Bool := false
deriving Repr, Inhabited

namespace Reading

/-- Add an argument that was not given before. -/
def give (r : Reading) (arg : Arg) (value : String) : Except Stop Reading :=
  if r.given.any fun g => g.1 == arg.name then .error (.misuse (.repeated arg))
  else .ok { r with given := r.given ++ [(arg.name, value)] }

/-- Settle the argument that is not settled yet. -/
def settle (r : Reading) : Except Stop Reading :=
  match r.pending with
  | none => .ok r
  | some (arg, none) => .error (.misuse (.noValue arg))
  | some (arg, some value) => do
    let r ← { r with pending := none, expecting := false }.give arg value
    if arg.isPath && value.isEmpty then .error (.misuse (.noValue arg)) else return r

/-- An option without its value. -/
def await (r : Reading) (arg : Arg) : Except Stop Reading := do
  let r ← r.settle
  return { r with pending := some (arg, none), expecting := true }

/-- A flag. -/
def flag (command : Option CommandSpec) (r : Reading) (arg : Arg) : Except Stop Reading := do
  let r ← r.settle
  if arg = help then .error (.help command)
  else if arg = version then .error .version
  else r.give arg "true"

/-- An option with its value. -/
def option (r : Reading) (arg : Arg) (value : String) : Except Stop Reading := do
  let r ← r.settle
  { r with pending := some (arg, some value) }.settle

/-- A word that takes the next place. -/
def place (r : Reading) (word : String) : Except Stop Reading :=
  match r.places with
  | [] => .error (.misuse (.unknownArgument word))
  | arg :: places => do
    let r ← r.settle
    return { r with pending := some (arg, some word), places := places }

/-- A word that is the value of the option before it or takes the next place. -/
def word (r : Reading) (w : String) : Except Stop Reading :=
  match r.expecting, r.pending with
  | true, some (arg, _) => .ok { r with pending := some (arg, some w), expecting := false }
  | _, _ => r.place w

/-- A word that starts with two dashes, without them. -/
def long (command : Option CommandSpec) (args : List Arg) (r : Reading) (w : List Char) :
    Except Stop Reading :=
  let name := String.ofList (w.takeWhile (· != '='))
  let value := (w.dropWhile (· != '=')).tail?.map String.ofList
  match args.find? fun a => !a.isPlace && a.name == name, value with
  | none, _ => .error (.misuse (.unknownArgument ("--" ++ name)))
  | some arg, none => if arg.form = .flag then r.flag command arg else r.await arg
  | some arg, some value =>
    if arg.form = .flag then .error (.misuse (.unneededValue value arg)) else r.option arg value

/-- Letters behind one dash. -/
def letters (command : Option CommandSpec) (args : List Arg) (r : Reading) :
    List Char → Except Stop Reading
  | [] => .ok r
  | c :: rest =>
    match args.find? fun a => a.short == some c with
    | none => .error (.misuse (.unknownArgument (.ofList ['-', c])))
    | some arg =>
      if arg.form = .flag then do (← r.flag command arg).letters command args rest
      else
        match rest with
        | [] => r.await arg
        | '=' :: value => r.option arg (.ofList value)
        | value => r.option arg (.ofList value)

/-- Read words that may all take places. -/
def readPlaces (r : Reading) (words : List String) : Except Stop Reading :=
  words.foldlM place r

/-- Read the words behind a command. -/
def readWords (command : Option CommandSpec) (args : List Arg) (r : Reading) :
    List String → Except Stop Reading
  | [] => .ok r
  | w :: rest => do
    match w.toList with
    | ['-', '-'] => r.readPlaces rest
    | '-' :: '-' :: name => (← r.long command args name).readWords command args rest
    | '-' :: c :: cs => (← r.letters command args (c :: cs)).readWords command args rest
    | _ => (← r.word w).readWords command args rest

end Reading

/-- The texts that stand for no, where a variable stands in for a flag; any other stands for
yes. -/
def refusals : List String := ["", "n", "no", "f", "false", "off", "0"]

/-- The arguments given to a command, with their values, and those that variables stand in for. -/
def read (env? : String → Option String) (command : CommandSpec) (words : List String) :
    Except Stop (List (String × String)) := do
  let start : Reading := { places := command.args.filter Arg.isPlace }
  let r ← (← start.readWords (some command) command.args words).settle
  match r.places.filter fun a => a.form = .place true with
  | [] =>
    let stoodIn := command.args.filter fun a =>
      (a.standIn.bind env?).any fun v => !refusals.contains v.toLower
    return r.given ++ stoodIn.map fun a => (a.name, "true")
  | missing => .error (.misuse (.missingArguments missing))

/-- Help on the command that words name. -/
def readHelp : List String → Stop
  | [] => .help none
  | name :: rest =>
    match find? name, rest with
    | none, _ => .misuse (.unknownCommand name)
    | some command, [] => .help (some command)
    | some _, next :: _ => .misuse (.unknownCommand next)

/-- Go past what precedes the command: the command that comes and the words behind it. -/
def findCommand : List String → Except Stop (Option (CommandSpec × List String))
  | [] => .ok none
  | w :: rest =>
    match find? w with
    | some command =>
      if command = helpSpec then .error (readHelp rest) else .ok (some (command, rest))
    | none => do
      let start : Reading := { places := [] }
      match w.toList with
      | ['-', '-'] =>
        match rest with
        | [] => return none
        | next :: _ =>
          let e : UsageError :=
            if (find? next).isSome then .unknownArgument next else .unknownCommand next
          .error (.misuse e)
      | '-' :: '-' :: name =>
        let _ ← start.long none general name
        findCommand rest
      | '-' :: c :: cs =>
        let _ ← start.letters none general (c :: cs)
        findCommand rest
      | _ => .error (.misuse (.unknownCommand w))

end CommandLine

end EnvAudit
