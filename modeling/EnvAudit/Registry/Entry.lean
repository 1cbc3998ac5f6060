import EnvAudit.Pattern.Meaning
import EnvAudit.Pattern.Search

/-!
# EnvAudit.Registry.Entry

How references to variables are recognised in files of one kind. A `CustomPattern` is how a user
asks for it; `CustomPattern.compile` makes it a `PatternEntry` or says why it cannot be one. The
name in a reference is what the first group read that took part in the match and is not empty.
-/

namespace EnvAudit

/-- A pattern as a user writes it. -/
structure CustomPattern where
  tag : String
  pattern : String
  extensions : List String
deriving Repr, DecidableEq, Inhabited

/-- Why a custom pattern cannot be used. -/
inductive PatternFault
  /-- Its pattern cannot be read. -/
  | unreadable (e : PatternError)
  /-- Its pattern has no group that could hold a name. -/
  | noGroup
  /-- One of its extensions does not start with a dot. -/
  | undotted (extension : String)
deriving Repr, DecidableEq, Inhabited

/-- The fault in words. -/
def PatternFault.message : PatternFault → String
  | .unreadable e => e.message
  | .noGroup => "pattern must contain a capture group for the variable name"
  | .undotted extension => "extension \"" ++ extension ++ "\" must start with a dot"

/-- A kind of file: its tag, its extensions with their dots, and the pattern of a reference. -/
structure PatternEntry where
  tag : String
  /-- The pattern as it is written. -/
  text : String
  pattern : Pattern
  extensions : List String
deriving Repr, Inhabited

/-- Whether an extension starts with a dot. -/
def isDotted (extension : String) : Bool := extension.toList.head? == some '.'

/-- Read a custom pattern. -/
def CustomPattern.compile (c : CustomPattern) : Except PatternFault PatternEntry :=
  match Pattern.read? c.pattern with
  | .error e => .error (.unreadable e)
  | .ok pattern =>
    if pattern.groups = 0 then .error .noGroup
    else
      match c.extensions.find? fun e => !isDotted e with
      | some e => .error (.undotted e)
      | none => .ok ⟨c.tag, c.pattern, pattern, c.extensions⟩

/-- The name in a match whose groups are numbered up to `groups`. -/
def Found.name? (f : Found) (groups : Nat) : Option String :=
  (List.range groups).findSome? fun i => do
    let span ← f.group? (i + 1)
    if span.text = [] then none else some (.ofList span.text)

namespace PatternEntry

/-- Whether the entry is for files with an extension. -/
def claims (e : PatternEntry) (extension : String) : Bool := e.extensions.contains extension

/-- The names of the variables that a text refers to, in order and with repetitions. -/
def extract (e : PatternEntry) (text : List Char) : List String :=
  (e.pattern.findAll text).filterMap fun f => f.name? e.pattern.groups

end PatternEntry

end EnvAudit
