import EnvAudit.Pattern.Search
import EnvAudit.Text.Blank
import EnvAudit.Text.Lines

/-!
# EnvAudit.Dotenv

Text of `KEY=value` lines:

1. an *assignment* starts a line, maybe behind `export`; its key is a run of word characters, `.`
   and `-`; `=`, or `:` with white space behind it, sets the value apart; the value is quoted by
   `'`, `"` or a backtick, and may then go on over several lines, or else ends before a `#`; a
   comment may follow;
2. a value is taken as written, without the white space around it and without its quotes; between
   double quotes `\n` and `\r` stand for the line end characters;
3. what is neither part of an assignment, nor blank, nor a comment is skipped, line by line.

`Dotenv.read` gives the assignments in order and the lines skipped.
-/

namespace EnvAudit.Dotenv

/-! ## The form of an assignment -/

/-- White space, at least `least` characters of it. -/
def blanks (least : Nat) (greedy : Bool) : Node := .rep least none greedy (.chars .blank)

/-- The characters of a key. -/
def keyChars : CharSet := ⟨(0x2d, 0x2e) :: CharSet.word.ranges⟩

/-- A value between two quotes. A quote behind a backslash may be passed over. -/
def quoted (quote : Char) : Node :=
  .seq [blanks 0 true, .text [quote],
    .rep 0 none true (.alt [.text ['\\', quote], .chars (CharSet.single quote).compl]),
    .text [quote]]

/-- A value without quotes: the rest of the line up to a comment. -/
def bare : Node := .rep 1 none true (.chars (CharSet.ofList ['#', '\r', '\n']).compl)

/-- An assignment. Group 1 is the key and group 2 the value. -/
def assignment : Node :=
  .seq [
    .edge (.lineStart false),
    blanks 0 true,
    .rep 0 (some 1) true (.seq [.text "export".toList, blanks 1 true]),
    .group 1 (.rep 1 none true (.chars keyChars)),
    .alt [.seq [blanks 0 true, .text ['='], blanks 0 false], .seq [.text [':'], blanks 1 false]],
    .rep 0 (some 1) true (.group 2 (.alt [quoted '\'', quoted '"', quoted '\x60', bare])),
    blanks 0 true,
    .rep 0 (some 1) true
      (.seq [.text ['#'], .rep 0 none true (.chars (CharSet.single '\n').compl)]),
    .edge (.lineEnd false)]

/-- The pattern of an assignment. -/
def pattern : Pattern := .ofNode assignment

/-! ## Values -/

/-- The text with `\n` and `\r` read as line end characters. -/
def unescape : List Char → List Char
  | [] => []
  | '\\' :: 'n' :: rest => '\n' :: unescape rest
  | '\\' :: 'r' :: rest => '\r' :: unescape rest
  | c :: rest => c :: unescape rest

/-- The characters that quote a value. -/
def isQuote (c : Char) : Bool := c = '\'' || c = '"' || c = '\x60'

/-- The value that a text stands for. -/
def unquote (raw : List Char) : List Char :=
  match trim raw with
  | [] => []
  | quote :: rest =>
    if isQuote quote && rest.getLast? == some quote then
      if quote = '"' then unescape rest.dropLast else rest.dropLast
    else quote :: rest

/-! ## Reading -/

/-- A name and its value. -/
def pairOf (f : Found) : String × String :=
  let text := fun i => (f.group? i).elim [] Span.text
  (.ofList (text 1), .ofList (unquote (text 2)))

/-- The lines of a text that are neither blank nor comments, without the white space around
them. -/
def strayLines (text : List Char) : List (List Char) :=
  (splitLines text).map trim |>.filter fun line => !line.isEmpty && line.head? != some '#'

/-- The parts of a text that lie before, between and behind matches. -/
def gaps (c : Cursor) : List Found → List (List Char)
  | [] => [c.rest]
  | f :: fs => Span.text ⟨c, f.span.start⟩ :: gaps f.span.stop fs

end Dotenv

/-- What a text of assignments holds. -/
structure Dotenv where
  /-- Each name with its value, in order. -/
  assignments : List (String × String)
  /-- The lines that were skipped, in order. -/
  skipped : List String
deriving Repr, DecidableEq

/-- Read a text of assignments. -/
def Dotenv.read (text : String) : Dotenv :=
  let text := unifyLineEnds text.toList
  let found := pattern.findAll text
  { assignments := found.map pairOf
    skipped := (gaps (.start text) found).flatMap strayLines |>.map .ofList }

end EnvAudit
