/-!
# EnvAudit.Main.Script

Programs written as scripts: commands on lines or set apart by `;`, `&&` or `||`, words with quotes,
variables and the arguments of the script, redirections of the two output streams, and loops over
words.
-/

namespace EnvAudit.Script

/-- A part of a word. -/
inductive Piece
  /-- Characters that stand for themselves. -/
  | text (cs : List Char)
  /-- The value of a variable; within quotes it is not cut at blanks. -/
  | variable (name : String) (quoted : Bool)
  /-- The arguments of the script. -/
  | arguments
deriving Repr, DecidableEq, Inhabited

/-- The characters of a part that stand for themselves. -/
def Piece.text? : Piece → Option (List Char)
  | .text cs => some cs
  | _ => none

/-- A word; it may be empty if it has quotes. -/
structure Word where
  pieces : List Piece
  hasQuotes : Bool
deriving Repr, DecidableEq, Inhabited

/-- Where an output stream goes. -/
inductive Target
  | file (w : Word) (append : Bool)
  /-- Where another stream goes. -/
  | stream (number : Nat)
deriving Repr, DecidableEq, Inhabited

/-- Something that sets words apart from the words behind it, or a word. -/
inductive Token
  | word (w : Word)
  | redirect (stream : Nat) (t : Target)
  /-- The end of a command, on a line of the script. -/
  | stop (line : Nat)
  /-- What comes before a command that is run only after a success, or only after a failure. -/
  | after (success : Bool)
deriving Repr, DecidableEq, Inhabited

/-- A command of a script. -/
inductive Statement
  | assign (name : String) (value : Word)
  | run (words : List Word) (redirects : List (Nat × Target)) (line : Nat)
  /-- Commands run for each of some words, or for each argument of the script. -/
  | forEach (name : String) (words : Option (List Word)) (body : List Statement)
  /-- A command run only if the last one was a success, or only if it was not. -/
  | after (success : Bool) (s : Statement)
deriving Repr, Inhabited

/-! ## Words -/

/-- The characters of a name. -/
def isNameChar (c : Char) : Bool := c.isAlphanum || c = '_'

/-- What stands behind a `$`: a part of a word and the characters left. -/
def readVariable (quoted : Bool) (cs : List Char) : Piece × List Char :=
  match cs with
  | '@' :: rest => (.arguments, rest)
  | '*' :: rest => (.arguments, rest)
  | '$' :: rest => (.variable "$" quoted, rest)
  | '?' :: rest => (.variable "?" quoted, rest)
  | '#' :: rest => (.variable "#" quoted, rest)
  | '\x7b' :: rest =>
    let name := rest.takeWhile (· != '\x7d')
    (.variable (.ofList name) quoted, (rest.dropWhile (· != '\x7d')).drop 1)
  | c :: rest =>
    if c.isDigit then (.variable (.ofList [c]) quoted, rest)
    else if isNameChar c then
      (.variable (.ofList (cs.takeWhile isNameChar)) quoted, cs.dropWhile isNameChar)
    else (.text ['$'], cs)
  | [] => (.text ['$'], [])

/-- What a text between double quotes holds, and the characters behind it. -/
def readQuoted (pieces : List Piece) : Nat → List Char → List Piece × List Char
  | 0, cs => (pieces, cs)
  | _, [] => (pieces, [])
  | _ + 1, '"' :: rest => (pieces, rest)
  | n + 1, '\\' :: c :: rest =>
    if ['$', '"', '\\', '\x60'].contains c then readQuoted (pieces ++ [.text [c]]) n rest
    else if c = '\n' then readQuoted pieces n rest
    else readQuoted (pieces ++ [.text ['\\', c]]) n rest
  | n + 1, '$' :: rest =>
    let (p, rest) := readVariable true rest
    readQuoted (pieces ++ [p]) n rest
  | n + 1, c :: rest => readQuoted (pieces ++ [.text [c]]) n rest

/-- The characters that end a word without quotes. -/
def endsWord (c : Char) : Bool := [' ', '\t', '\n', ';', '>', '<', '&', '|', '(', ')'].contains c

/-- Read a word. -/
def readWord (w : Word) : Nat → List Char → Word × List Char
  | 0, cs => (w, cs)
  | _, [] => (w, [])
  | n + 1, c :: rest =>
    match c with
    | '\'' =>
      let text := rest.takeWhile (· != '\'')
      let w := ⟨w.pieces ++ [.text text], true⟩
      readWord w n ((rest.dropWhile (· != '\'')).drop 1)
    | '"' =>
      let (pieces, rest) := readQuoted [] (rest.length + 1) rest
      readWord ⟨w.pieces ++ pieces, true⟩ n rest
    | '\\' =>
      match rest with
      | '\n' :: rest => readWord w n rest
      | c :: rest => readWord { w with pieces := w.pieces ++ [.text [c]] } n rest
      | [] => ({ w with pieces := w.pieces ++ [.text ['\\']] }, [])
    | '$' =>
      let (p, rest) := readVariable false rest
      readWord { w with pieces := w.pieces ++ [p] } n rest
    | c =>
      if endsWord c then (w, c :: rest)
      else readWord { w with pieces := w.pieces ++ [.text [c]] } n rest

/-! ## Tokens -/

/-- Read where a stream goes, from behind the `>`. -/
def readTarget (cs : List Char) : Target × List Char :=
  let word := fun (append : Bool) (cs : List Char) =>
    let cs := cs.dropWhile fun c => c = ' ' || c = '\t'
    let (w, rest) := readWord ⟨[], false⟩ (cs.length + 1) cs
    (Target.file w append, rest)
  match cs with
  | '&' :: '1' :: rest => (.stream 1, rest)
  | '&' :: '2' :: rest => (.stream 2, rest)
  | '>' :: rest => word true rest
  | cs => word false cs

/-- The tokens of a script, in at most `n` steps, from a line on. -/
def tokens (line : Nat) : Nat → List Char → List Token
  | 0, _ => []
  | _, [] => [.stop line]
  | n + 1, c :: rest =>
    match c, rest with
    | '&', '&' :: rest => .stop line :: .after true :: tokens line n rest
    | '|', '|' :: rest => .stop line :: .after false :: tokens line n rest
    | ' ', _ | '\t', _ | '&', _ | '|', _ | '(', _ | ')', _ | '<', _ => tokens line n rest
    | '\n', _ => .stop line :: tokens (line + 1) n rest
    | ';', _ => .stop line :: tokens line n rest
    | '#', _ => tokens line n (rest.dropWhile (· != '\n'))
    | '>', _ =>
      let (t, rest) := readTarget rest
      .redirect 1 t :: tokens line n rest
    | '1', '>' :: rest =>
      let (t, rest) := readTarget rest
      .redirect 1 t :: tokens line n rest
    | '2', '>' :: rest =>
      let (t, rest) := readTarget rest
      .redirect 2 t :: tokens line n rest
    | _, _ =>
      let (w, rest) := readWord ⟨[], false⟩ (rest.length + 2) (c :: rest)
      .word w :: tokens line n rest

/-! ## Commands -/

/-- The text of a word without variables. -/
def Word.plain? (w : Word) : Option String :=
  (w.pieces.mapM Piece.text?).map fun css => .ofList css.flatten

/-- Whether a word is a word of the language. -/
def Token.isWord (t : Token) (s : String) : Bool :=
  match t with
  | .word w => !w.hasQuotes && w.plain? == some s
  | _ => false

/-- A word that gives a variable a value: the name and the value. -/
def Word.assignment? (w : Word) : Option (String × Word) :=
  let isLetter := fun (p : Piece) => p.text?.any fun cs => cs.length = 1 && cs.all isNameChar
  let name := w.pieces.takeWhile isLetter
  match w.pieces.dropWhile isLetter with
  | .text ['='] :: value =>
    match (Word.mk name false).plain? with
    | some "" => none
    | name => name.map fun n => (n, ⟨value, w.hasQuotes⟩)
  | _ => none

/-- The words and redirections of a command, and what is behind it. -/
def readRun (words : List Word) (redirects : List (Nat × Target)) :
    List Token → Statement × List Token
  | [] => (.run words redirects 0, [])
  | .stop line :: rest => (.run words redirects line, rest)
  | .word w :: rest => readRun (words ++ [w]) redirects rest
  | .redirect n t :: rest => readRun words (redirects ++ [(n, t)]) rest
  | .after _ :: rest => readRun words redirects rest

/-- Tokens without the ends of commands before them. -/
def dropStops : List Token → List Token
  | .stop _ :: rest => dropStops rest
  | ts => ts

/-- The words before the end of a command, and what is behind it. -/
def readWords : List Token → List Word × List Token
  | .word w :: rest => ((w :: (readWords rest).1), (readWords rest).2)
  | .stop _ :: rest => ([], rest)
  | rest => ([], rest)

/-- Read commands up to the end of the script or the loop, in at most `n` steps. -/
def readStatements : Nat → List Token → List Statement × List Token
  | 0, ts => ([], ts)
  | n + 1, ts =>
    match dropStops ts with
    | [] => ([], [])
    | .after success :: rest =>
      match readStatements n rest with
      | (s :: ss, rest) => (.after success s :: ss, rest)
      | ([], rest) => ([], rest)
    | t :: rest =>
      if t.isWord "done" then ([], rest)
      else
        let (statement, rest) :=
          match t.isWord "for", rest with
          | true, .word name :: rest =>
            let (words, rest) :=
              match rest with
              | t :: rest =>
                if t.isWord "in" then
                  let (words, rest) := readWords rest
                  (some words, rest)
                else (none, t :: rest)
              | [] => (none, [])
            let rest := match dropStops rest with
              | t :: rest => if t.isWord "do" then rest else t :: rest
              | [] => []
            let (body, rest) := readStatements n rest
            (Statement.forEach (name.plain?.getD "") words body, rest)
          | _, _ =>
            match t with
            | .word w =>
              match w.assignment? with
              | some (name, value) => (Statement.assign name value, rest)
              | none => readRun [] [] (t :: rest)
            | _ => readRun [] [] (t :: rest)
        let (statements, rest) := readStatements n rest
        (statement :: statements, rest)

/-- The commands of a script. -/
def read (text : List Char) : List Statement :=
  let ts := tokens 1 (text.length + 1) text
  (readStatements (ts.length + 1) ts).1

end EnvAudit.Script
