import EnvAudit.Text.WordChar

/-!
# EnvAudit.Pattern.Cursor

Positions in a text and what can be said about one without reading on:

1. a `Cursor` knows the character before it, how many characters have been read and which are left;
2. an `Edge` is a condition on a cursor: an end of the text, of a line or of a word;
3. a `Span` is the part of a text between two cursors.
-/

namespace EnvAudit

/-- A position in a text. -/
structure Cursor where
  /-- The character just read. -/
  before : Option Char
  /-- How many characters have been read. -/
  pos : Nat
  /-- The characters left. -/
  rest : List Char
deriving Repr, DecidableEq, Inhabited

namespace Cursor

/-- The position before the first character of a text. -/
def start (text : List Char) : Cursor := ⟨none, 0, text⟩

/-- The position after the next character. -/
def next? (c : Cursor) : Option Cursor :=
  match c.rest with
  | [] => none
  | x :: xs => some ⟨some x, c.pos + 1, xs⟩

/-- How many characters are left. -/
def left (c : Cursor) : Nat := c.rest.length

theorem left_next {c d : Cursor} (h : c.next? = some d) : d.left < c.left := by
  unfold next? at h
  split at h
  · cases h
  · next x xs hr =>
    cases h
    simp [left, hr]

end Cursor

/-! ## Edges -/

/-- Which end of a word an edge asks for. -/
inductive WordEdge
  /-- Either end. -/
  | either
  /-- Neither end. -/
  | neither
  /-- No word before, a word after. -/
  | start
  /-- A word before, no word after. -/
  | stop
  /-- No word before. -/
  | startHalf
  /-- No word after. -/
  | stopHalf
deriving Repr, DecidableEq, Inhabited

/-- A condition on a position that reads nothing. -/
inductive Edge
  | textStart
  | textEnd
  /-- Start of a line; with `crlf`, both `\r` and `\n` end a line and the pair is not split. -/
  | lineStart (crlf : Bool)
  /-- End of a line. -/
  | lineEnd (crlf : Bool)
  /-- End of a word, of ASCII characters only if `ascii` holds. -/
  | word (kind : WordEdge) (ascii : Bool)
deriving Repr, DecidableEq, Inhabited

/-- The ASCII word characters. -/
def CharSet.asciiWord : CharSet := ⟨[(0x30, 0x39), (0x41, 0x5a), (0x5f, 0x5f), (0x61, 0x7a)]⟩

/-- Whether there is a neighbour and it belongs to a word. -/
def inWord (ascii : Bool) (c : Option Char) : Bool :=
  c.any (if ascii then CharSet.asciiWord else CharSet.word).contains

/-- Whether an end of a word is of the wanted kind, given whether a word is before and after. -/
def WordEdge.holds (kind : WordEdge) (before after : Bool) : Bool :=
  match kind with
  | .either => before != after
  | .neither => before == after
  | .start => !before && after
  | .stop => before && !after
  | .startHalf => !before
  | .stopHalf => !after

/-- Whether an edge is at a position. -/
def Edge.holds (e : Edge) (c : Cursor) : Bool :=
  match e with
  | .textStart => c.before.isNone
  | .textEnd => c.rest.isEmpty
  | .lineStart false => c.before.isNone || c.before == some '\n'
  | .lineStart true =>
    c.before.isNone || c.before == some '\n' ||
      (c.before == some '\r' && c.rest.head? != some '\n')
  | .lineEnd false => c.rest.isEmpty || c.rest.head? == some '\n'
  | .lineEnd true =>
    c.rest.isEmpty || c.rest.head? == some '\r' ||
      (c.rest.head? == some '\n' && c.before != some '\r')
  | .word kind ascii => kind.holds (inWord ascii c.before) (inWord ascii c.rest.head?)

/-! ## Spans -/

/-- The part of a text between two positions. -/
structure Span where
  start : Cursor
  stop : Cursor
deriving Repr, DecidableEq, Inhabited

namespace Span

/-- The characters between the two positions. -/
def text (s : Span) : List Char := s.start.rest.take (s.stop.pos - s.start.pos)

/-- Whether nothing is between the two positions. -/
def isEmpty (s : Span) : Bool := s.start.pos == s.stop.pos

end Span

end EnvAudit
