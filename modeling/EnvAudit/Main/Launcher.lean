import EnvAudit.Main.Script
import EnvAudit.Main.Trees
import EnvAudit.Program.Basic
import EnvAudit.Text.Blank

/-!
# EnvAudit.Main.Launcher

Running scripts. A command is one of a few that every script knows, or `/bin/cp`, `/bin/mkdir` or
`/bin/rm`; any other is not found. A script ends with the status of its last command, unless it
exits or is stopped before. `launcher` looks a program up in the directories of a search path.
-/

namespace EnvAudit

namespace Script

/-- What a script has done so far. -/
structure Session where
  files : FileSystem
  /-- The script and its arguments. -/
  name : String
  arguments : List String
  values : List (String × String) := []
  errors : String := ""
  /-- The status of the last command. -/
  status : Nat := 0
  /-- How the script has ended, if it has. -/
  ended : Option RunStatus := none
deriving Inhabited

namespace Session

/-! ## Words -/

/-- The value of a variable. -/
def valueOf (s : Session) (name : String) : String :=
  match name.toNat? with
  | some 0 => s.name
  | some n => (s.arguments[n - 1]?).getD ""
  | none =>
    if name = "?" then toString s.status
    else if name = "#" then toString s.arguments.length
    else if name = "$" then "$"
    else (s.values.lookup name).getD ""

/-- The text of a part of a word. -/
def pieceText (s : Session) : Piece → List Char
  | .text cs => cs
  | .variable name _ => (s.valueOf name).toList
  | .arguments => (" ".intercalate s.arguments).toList

/-- The text of a word that is not cut. -/
def wordText (s : Session) (w : Word) : String := .ofList (w.pieces.flatMap s.pieceText)

/-- The parts of a text between blanks. -/
def cut (text : List Char) : List String :=
  ((splitOnChar ' ' (text.map fun c => if isBlank c then ' ' else c)).filter (!·.isEmpty)).map
    .ofList

/-- The words for which a word stands. -/
def expand (s : Session) (w : Word) : List String :=
  match w.pieces, w.hasQuotes with
  | [.arguments], _ => s.arguments
  | [.variable name false], false => cut (s.valueOf name).toList
  | _, _ => [s.wordText w]

/-! ## Output -/

/-- Where an output stream goes: to a file, to the error stream, or nowhere. -/
inductive Sink
  | file (p : Path)
  | errors
  | nowhere

/-- Where a stream goes after redirections. The files named are made, empty unless appended to. -/
def redirect (s : Session) (redirects : List (Nat × Target)) :
    Except Fault (Session × Sink × Sink) :=
  redirects.foldlM (fun (s, out, err) (n, t) => do
    let (s, sink) ← match t with
      | .stream 1 => pure (s, out)
      | .stream _ => pure (s, err)
      | .file w append =>
        let name := s.wordText w
        let p := Path.ofText name
        if name = "/dev/null" then pure (s, Sink.nowhere)
        else
          let old := if append then (s.files.read p).toOption.getD [] else []
          let files ← s.files.write p old
          pure ({ s with files := files }, Sink.file p)
    return if n = 1 then (s, sink, err) else (s, out, sink)) (s, .nowhere, .errors)

/-- Write a text to where a stream goes. -/
def emit (s : Session) (sink : Sink) (text : String) : Session :=
  match sink with
  | .nowhere => s
  | .errors => { s with errors := s.errors ++ text }
  | .file p =>
    let old := (s.files.read p).toOption.getD []
    match s.files.write p (old ++ Utf8.encode text.toList) with
    | .ok files => { s with files := files }
    | .error _ => s

/-! ## Commands -/

/-- The characters that letters behind a backslash stand for. -/
def escapes : List (Char × Char) :=
  [('a', '\x07'), ('b', '\x08'), ('f', '\x0c'), ('n', '\n'), ('r', '\r'), ('t', '\t'),
    ('v', '\x0b'), ('\\', '\\')]

/-- A text with letters behind backslashes replaced, up to a `\c`; also whether there is none. -/
def unescape : List Char → List Char × Bool
  | [] => ([], true)
  | '\\' :: 'c' :: _ => ([], false)
  | '\\' :: c :: rest =>
    let (text, whole) := unescape rest
    match escapes.lookup c with
    | some e => (e :: text, whole)
    | none => ('\\' :: c :: text, whole)
  | c :: rest =>
    let (text, whole) := unescape rest
    (c :: text, whole)

/-- What `echo` writes. -/
def echo (words : List String) : String :=
  let (words, line) := match words with
    | "-n" :: rest => (rest, false)
    | words => (words, true)
  let (text, whole) := unescape (" ".intercalate words).toList
  .ofList (if whole && line then text ++ ['\n'] else text)

/-- What `printf` writes for a form: `%s` stands for the next word, and the form is used again as
long as words are left, at most `n` times. -/
def printf (form : List Char) : Nat → List String → List Char
  | 0, _ => []
  | n + 1, words =>
    let (text, left) := fill form words
    if left.isEmpty || left.length = words.length then text else text ++ printf form n left
where
  /-- The form with words put in, and the words left. -/
  fill : List Char → List String → List Char × List String
  | '%' :: '%' :: rest, words => let (t, left) := fill rest words; ('%' :: t, left)
  | '%' :: 's' :: rest, words | '%' :: 'd' :: rest, words =>
    let (t, left) := fill rest (words.drop 1)
    ((words.headD "").toList ++ t, left)
  | '\\' :: c :: rest, words =>
    let (t, left) := fill rest words
    match escapes.lookup c with
    | some e => (e :: t, left)
    | none => ('\\' :: c :: t, left)
  | c :: rest, words => let (t, left) := fill rest words; (c :: t, left)
  | [], words => ([], words)

/-- Whether a condition holds. -/
def test (s : Session) : List String → Bool
  | ["!", x] => !test s [x]
  | ["!", x, y] => !test s [x, y]
  | [x] => x != ""
  | ["-n", x] => x != ""
  | ["-z", x] => x = ""
  | ["-e", p] => s.files.present (.ofText p)
  | ["-f", p] => s.files.isFile (.ofText p)
  | ["-d", p] => s.files.isDir (.ofText p)
  | [x, "=", y] => x = y
  | [x, "!=", y] => x != y
  | _ => false

/-- A number of a signal, or its name. -/
def signal? (word : String) : Option Nat :=
  match word.toNat? with
  | some n => some n
  | none => (RunStatus.signalNames.find? fun p => p.2 = "SIG" ++ word).map Prod.fst

/-- Why a file cannot be used, without its number. -/
def plainFault (f : Fault) : String :=
  String.ofList (f.message.toList.takeWhile (· != '(')) |>.trimAsciiEnd.toString

/-- Copy the entries of a directory. -/
def copy (s : Session) (err : Sink) (source target : String) : Session :=
  match s.files.resolve (.ofText source) with
  | .error f =>
    { s.emit err s!"/bin/cp: cannot stat '{source}': {plainFault f}\n" with status := 1 }
  | .ok _ =>
    match s.files.copyInto (.ofText source) (.ofText target) with
    | .ok files => { s with files := files, status := 0 }
    | .error f =>
      { s.emit err s!"/bin/cp: cannot access '{target}': {plainFault f}\n" with status := 1 }

/-- Make directories. -/
def mkdir (s : Session) (err : Sink) (names : List String) : Session :=
  names.foldl (fun s name =>
    match s.files.makeDirs (.ofText name) with
    | .ok (files, _) => { s with files := files, status := 0 }
    | .error f =>
      let text := s!"/bin/mkdir: cannot create directory ‘{name}’: {plainFault f}\n"
      { s.emit err text with status := 1 }) s

/-- Take files and directories away. What is not there is passed over. -/
def rm (s : Session) (names : List String) : Session :=
  names.foldl (fun s name =>
    match s.files.remove (.ofText name) with
    | .ok files => { s with files := files, status := 0 }
    | .error _ => { s with status := 0 }) s

/-- Run a command given by its words. -/
def command (s : Session) (out err : Sink) (line : Nat) : List String → Session
  | [] => s
  | "echo" :: words => { s.emit out (echo words) with status := 0 }
  | "printf" :: form :: words =>
    { s.emit out (.ofList (printf form.toList (words.length + 1) words)) with status := 0 }
  | "[" :: words => { s with status := if s.test words.dropLast then 0 else 1 }
  | "test" :: words => { s with status := if s.test words then 0 else 1 }
  | ":" :: _ | "true" :: _ => { s with status := 0 }
  | "false" :: _ => { s with status := 1 }
  | ["exit"] => { s with ended := some (.exited s.status) }
  | "exit" :: code :: _ => { s with ended := some (.exited (code.toNat?.getD 2 % 256)) }
  | "read" :: names =>
    { s with values := names.map (fun n => (n, "")) ++ s.values, status := 1 }
  | ["kill", flag, "$"] =>
    { s with ended := some (.stopped ((signal? (flag.drop 1).toString).getD 15)) }
  | ["kill", "$"] => { s with ended := some (.stopped 15) }
  | ["/bin/cp", _, source, target] => s.copy err source target
  | "/bin/mkdir" :: names => s.mkdir err (names.filter fun n => !n.startsWith "-")
  | "/bin/rm" :: names => s.rm (names.filter fun n => !n.startsWith "-")
  | name :: _ => { s.emit err s!"{s.name}: {line}: {name}: not found\n" with status := 127 }

end Session

mutual

/-- Run a command of a script. -/
def runStatement (s : Session) : Statement → Session
  | .assign name value =>
    if s.ended.isSome then s
    else { s with values := (name, s.wordText value) :: s.values, status := 0 }
  | .run words redirects line =>
    if s.ended.isSome then s
    else
      match s.redirect redirects with
      | .ok (s, out, err) => s.command out err line (words.flatMap s.expand)
      | .error f =>
        let text := s!"{s.name}: {line}: cannot create file: {Session.plainFault f}\n"
        { s with errors := s.errors ++ text, status := 2 }
  | .forEach name words body =>
    let values := match words with
      | some words => words.flatMap s.expand
      | none => s.arguments
    values.foldl (fun s value =>
      if s.ended.isSome then s
      else runAll { s with values := (name, value) :: s.values } body) s
  | .after success c =>
    if s.ended.isSome || (s.status = 0) != success then s else runStatement s c

/-- Run commands of a script one after the other. -/
def runAll (s : Session) : List Statement → Session
  | [] => s
  | c :: rest => runAll (runStatement s c) rest

end

/-- Run a script. -/
def run (files : FileSystem) (name : String) (arguments : List String) (text : List Char) :
    ProgramRun :=
  let s := runAll { files, name, arguments } (read text)
  ⟨s.files, s.errors, s.ended.getD (.exited s.status)⟩

end Script

/-! ## Looking programs up -/

/-- The interpreter that a script names on its first line. -/
def interpreter? (text : List Char) : Option (List Char) :=
  match text with
  | '#' :: '!' :: rest =>
    some ((trimStart (rest.takeWhile (· != '\n'))).takeWhile fun c => !isBlank c)
  | _ => none

/-- Run the file at a path. -/
def runFile (fs : FileSystem) (p : Path) (arguments : List String) : Except Fault ProgramRun := do
  match (← fs.resolve p).entry with
  | .file (.ok bytes) true =>
    let text := Utf8.decodeLossy bytes
    match interpreter? text with
    | none => .error .notProgram
    | some interpreter =>
      if "sh".toList.isSuffixOf interpreter then return Script.run fs p.text arguments text
      else .error .notFound
  | _ => .error .denied

/-- Run the first file of a name in some directories that can be run; if none can, the fault is
that of a file that is there, if there is one. -/
def runFirst (fs : FileSystem) (name : String) (arguments : List String) (fault : Fault) :
    List Path → Except Fault ProgramRun
  | [] => .error fault
  | dir :: dirs =>
    match runFile fs (dir.join (.ofText name)) arguments with
    | .error .notFound | .error .notDirectory => runFirst fs name arguments fault dirs
    | .error .denied => runFirst fs name arguments .denied dirs
    | result => result

/-- Run programs that are found in the directories of a search path. -/
def launcher (searchPath : String) : Launcher := fun fs words =>
  match words with
  | [] => .error .notFound
  | name :: arguments =>
    let dirs := (splitOnChar ':' searchPath.toList).map fun d => Path.mk d
    runFirst fs name arguments .notFound dirs

end EnvAudit
