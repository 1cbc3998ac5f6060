import EnvAudit.Text.Lines

/-!
# EnvAudit.Path.Basic

Paths as they are written:

1. a path is cut at each `/`; empty parts and `.` do not count, except that a leading `.` names the
   directory one is in;
2. `fileName?` and `extension?` look at the last part; `join` keeps the text as it is written;
3. `moves` are the moves that lead along the path.
-/

namespace EnvAudit

/-- A path as it is written. -/
structure Path where
  chars : List Char
deriving Repr, DecidableEq, Inhabited

/-- A part of a path. -/
inductive Part
  /-- The root, at the start of an absolute path. -/
  | root
  /-- The directory one is in, at the start of a path. -/
  | here
  /-- The directory above. -/
  | up
  /-- An entry of a directory. -/
  | name (chars : List Char)
deriving Repr, DecidableEq, Inhabited

/-- A move from a directory. -/
inductive Move
  /-- Stay in the directory. -/
  | stay
  /-- Go to the directory above. -/
  | up
  /-- Go to an entry of the directory. -/
  | enter (name : String)
deriving Repr, DecidableEq, Inhabited

namespace Path

/-- The path with a text. -/
def ofText (text : String) : Path := ⟨text.toList⟩

/-- The text of a path. -/
def text (p : Path) : String := .ofList p.chars

/-- The parts of the text between slashes. -/
def segments (p : Path) : List (List Char) := splitOnChar '/' p.chars

/-- Whether the path starts at the root. -/
def isAbsolute (p : Path) : Bool := p.chars.head? == some '/'

/-! ## Parts -/

/-- What a segment stands for where it does not start the path. -/
def partOf? (segment : List Char) : Option Part :=
  if segment = [] ∨ segment = ['.'] then none
  else if segment = ['.', '.'] then some .up
  else some (.name segment)

/-- The parts of a path. -/
def parts (p : Path) : List Part :=
  let body := p.segments.filterMap partOf?
  if p.isAbsolute then .root :: body
  else if p.segments.head? = some ['.'] then .here :: body
  else body

/-- The name at the end of a path. -/
def fileName? (p : Path) : Option (List Char) :=
  match p.parts.getLast? with
  | some (.name cs) => some cs
  | _ => none

/-- What follows the last dot of a name, unless the name starts with that dot. -/
def extensionOf? (name : List Char) : Option (List Char) :=
  let behind := name.reverse.takeWhile (· != '.')
  if behind.length + 1 < name.length then some behind.reverse else none

/-- The extension of the name at the end of a path, without its dot. -/
def extension? (p : Path) : Option (List Char) := p.fileName?.bind extensionOf?

/-- Whether the path goes up from a directory or starts at the root. -/
def mayLeave (p : Path) : Bool := p.parts.any fun part => part == .up || part == .root

/-! ## Joining -/

/-- The path of an entry, given the path of its directory. An absolute path stays as it is. -/
def join (p q : Path) : Path :=
  if q.isAbsolute then q
  else if p.chars = [] ∨ p.chars.getLast? = some '/' then ⟨p.chars ++ q.chars⟩
  else ⟨p.chars ++ '/' :: q.chars⟩

/-! ## Moves -/

/-- The move that a segment asks for. -/
def moveOf (segment : List Char) : Move :=
  match partOf? segment with
  | some (.name cs) => .enter (.ofList cs)
  | some .up => .up
  | _ => .stay

/-- The moves that lead along a path. -/
def moves (p : Path) : List Move := p.segments.map moveOf

end Path

end EnvAudit
