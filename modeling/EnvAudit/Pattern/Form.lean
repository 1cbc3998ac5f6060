import EnvAudit.Pattern.Cursor

/-!
# EnvAudit.Pattern.Form

A pattern as it is written, before flags such as `(?i)` have been applied to what follows them. A
`SetForm` is what stands between brackets, or a name for a set of characters.
-/

namespace EnvAudit

/-- The sets that have an escape of one letter. -/
inductive CommonSet
  | digit
  | blank
  | word
deriving Repr, DecidableEq, Inhabited

/-- The sets of ASCII characters written `[:name:]`. -/
inductive AsciiSet
  | alnum | alpha | ascii | blank | cntrl | digit | graph | lower | print | punct | space | upper
  | word | xdigit
deriving Repr, DecidableEq, Inhabited

/-- How two sets are combined. -/
inductive SetOp
  | inter
  | diff
  | symmDiff
deriving Repr, DecidableEq, Inhabited

/-- A character as it is written. -/
structure Literal where
  char : Char
  /-- Whether it is written as a byte, `\x` with two digits. -/
  asByte : Bool
deriving Repr, DecidableEq, Inhabited

/-- A set of characters as it is written. -/
inductive SetForm
  | one (c : Literal)
  | range (lo hi : Literal)
  | ascii (name : AsciiSet) (negated : Bool)
  | common (name : CommonSet) (negated : Bool)
  /-- The characters that have a property, or for which a property has a value. -/
  | property (name : String) (value : Option String) (negated : Bool)
  | bracket (negated : Bool) (body : SetForm)
  /-- The union of several sets, or no characters. -/
  | all (items : List SetForm)
  | op (kind : SetOp) (first second : SetForm)
deriving Repr, Inhabited

/-- A setting of how patterns are read. -/
inductive Flag
  | caseless
  | multiLine
  | dotAll
  | swapGreed
  | unicode
  | crlf
  | spaced
deriving Repr, DecidableEq, Inhabited

/-- Flags with whether each is switched on. -/
abbrev FlagChanges := List (Flag × Bool)

/-- An edge as it is written. -/
inductive EdgeForm
  | lineStart
  | lineEnd
  | textStart
  | textEnd
  | word (kind : WordEdge)
deriving Repr, DecidableEq, Inhabited

/-- A pattern as it is written. -/
inductive Form
  | empty
  | literal (c : Literal)
  | any
  | edge (e : EdgeForm)
  | set (s : SetForm)
  | flags (changes : FlagChanges)
  | rep (least : Nat) (most : Option Nat) (greedy : Bool) (body : Form)
  /-- A group, with a number if what it reads is remembered. -/
  | group (index : Option Nat) (changes : FlagChanges) (body : Form)
  | seq (parts : List Form)
  | alt (branches : List Form)
deriving Repr, Inhabited

/-! ## Nesting -/

mutual

/-- How deep a set of characters is nested. -/
def SetForm.depth : SetForm → Nat
  | .one _ | .range _ _ | .ascii _ _ | .common _ _ | .property _ _ _ => 0
  | .bracket _ body => body.depth + 1
  | .all [] => 0
  | .all (item :: items) => max item.depth (SetForm.depthAll items) + 1
  | .op _ first second => max first.depth second.depth + 1

/-- How deep the deepest of several sets is nested. -/
def SetForm.depthAll : List SetForm → Nat
  | [] => 0
  | item :: items => max item.depth (SetForm.depthAll items)

end

mutual

/-- How deep a pattern is nested. -/
def Form.depth : Form → Nat
  | .empty | .literal _ | .any | .edge _ | .flags _ => 0
  | .set s => s.depth
  | .rep _ _ _ body => body.depth + 1
  | .group _ _ body => body.depth + 1
  | .seq parts => Form.depthAll parts + 1
  | .alt branches => Form.depthAll branches + 1

/-- How deep the deepest of several patterns is nested. -/
def Form.depthAll : List Form → Nat
  | [] => 0
  | p :: ps => max p.depth (Form.depthAll ps)

end

/-- How deep a pattern may be nested. -/
def Form.maxDepth : Nat := 250

end EnvAudit
