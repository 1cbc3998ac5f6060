import EnvAudit.Pattern.Basic
import EnvAudit.Pattern.Reader
import EnvAudit.Text.CaseFold

/-!
# EnvAudit.Pattern.Meaning

What a written pattern means:

1. flags hold from where they stand to the end of the group around them, across its branches;
2. without regard to case a character stands for all its case variants, and so do the members of a
   set, before the set is negated;
3. without the flag `u` only ASCII characters can be meant, so a set that would have other members
   is refused;
4. a pattern whose repetitions written out are too large is refused.

`Pattern.read?` reads a written pattern and gives its meaning.
-/

namespace EnvAudit

/-- The flags that hold at a place of a pattern. -/
structure Flags where
  caseless : Bool := false
  multiLine : Bool := false
  dotAll : Bool := false
  swapGreed : Bool := false
  unicode : Bool := true
  crlf : Bool := false
deriving Repr, DecidableEq, Inhabited

/-- Switch one flag on or off. -/
def Flags.set (f : Flags) (flag : Flag) (on : Bool) : Flags :=
  match flag with
  | .caseless => { f with caseless := on }
  | .multiLine => { f with multiLine := on }
  | .dotAll => { f with dotAll := on }
  | .swapGreed => { f with swapGreed := on }
  | .unicode => { f with unicode := on }
  | .crlf => { f with crlf := on }
  | .spaced => f

/-- Switch flags on or off. -/
def Flags.apply (f : Flags) (changes : FlagChanges) : Flags :=
  changes.foldl (fun f c => f.set c.1 c.2) f

/-! ## Sets -/

/-- The members of a set of ASCII characters. -/
def AsciiSet.set : AsciiSet → CharSet
  | .alnum => ⟨[(0x30, 0x39), (0x41, 0x5a), (0x61, 0x7a)]⟩
  | .alpha => ⟨[(0x41, 0x5a), (0x61, 0x7a)]⟩
  | .ascii => ⟨[(0, 0x7f)]⟩
  | .blank => ⟨[(0x9, 0x9), (0x20, 0x20)]⟩
  | .cntrl => ⟨[(0, 0x1f), (0x7f, 0x7f)]⟩
  | .digit => ⟨[(0x30, 0x39)]⟩
  | .graph => ⟨[(0x21, 0x7e)]⟩
  | .lower => ⟨[(0x61, 0x7a)]⟩
  | .print => ⟨[(0x20, 0x7e)]⟩
  | .punct => ⟨[(0x21, 0x2f), (0x3a, 0x40), (0x5b, 0x60), (0x7b, 0x7e)]⟩
  | .space => ⟨[(0x9, 0xd), (0x20, 0x20)]⟩
  | .upper => ⟨[(0x41, 0x5a)]⟩
  | .word => .asciiWord
  | .xdigit => ⟨[(0x30, 0x39), (0x41, 0x46), (0x61, 0x66)]⟩

/-- The members of a set with an escape of its own. -/
def CommonSet.set (unicode : Bool) : CommonSet → CharSet
  | .digit => if unicode then .digit else AsciiSet.digit.set
  | .blank => if unicode then .blank else AsciiSet.space.set
  | .word => if unicode then .word else .asciiWord

/-- The set with the ASCII case variants of its members added. -/
def CharSet.asciiClosure (s : CharSet) : CharSet :=
  let letters := (List.range 26).flatMap fun i => [(0x41 + i, 0x61 + i), (0x61 + i, 0x41 + i)]
  s.union (.ofRanges ((letters.filter fun p => CharSet.covers s.ranges p.1).map fun p =>
    (p.2, p.2)))

namespace Flags

/-- Add the case variants of a set, if case does not matter. -/
def fold (f : Flags) (s : CharSet) : CharSet :=
  if !f.caseless then s else if f.unicode then CaseFold.closure s else s.asciiClosure

/-- Negate a set, if asked to. -/
def negate (f : Flags) (negated : Bool) (s : CharSet) : Except PatternError CharSet :=
  if !negated then .ok s else if f.unicode then .ok s.compl else .error .notText

/-- The code of a character that stands in a set. -/
def member (f : Flags) (c : Literal) : Except PatternError Nat :=
  if f.unicode || c.char.toNat < 0x80 then .ok c.char.toNat
  else .error (if c.asByte then .notText else .unicodeNeeded)

end Flags

namespace SetForm

mutual

/-- The characters that a written set stands for. -/
def set (f : Flags) : SetForm → Except PatternError CharSet
  | .one c => do
    let n ← f.member c
    return ⟨[(n, n)]⟩
  | .range lo hi => do
    let lo ← f.member lo
    let hi ← f.member hi
    return ⟨[(lo, hi)]⟩
  | .ascii name negated => f.negate negated (f.fold name.set)
  | .common name negated => f.negate negated (name.set f.unicode)
  | .property name value negated => do
    if !f.unicode then throw .unicodeNeeded
    match value.elim (CharSet.named? name) (CharSet.valued? name) with
    | some s => f.negate negated (f.fold s)
    | none => throw .propertyUnknown
  | .bracket negated body => do f.negate negated (f.fold (← set f body))
  | .all items => union f items
  | .op kind first second => do
    let first := f.fold (← set f first)
    let second := f.fold (← set f second)
    return match kind with
      | .inter => first.inter second
      | .diff => first.diff second
      | .symmDiff => first.symmDiff second

/-- The characters that any of several written sets stands for. -/
def union (f : Flags) : List SetForm → Except PatternError CharSet
  | [] => .ok .empty
  | item :: items => do
    let s ← set f item
    return s.union (← union f items)

end

end SetForm

/-! ## Patterns -/

namespace Form

/-- What a character stands for. -/
def literalNode (f : Flags) (c : Literal) : Except PatternError Node :=
  if !f.unicode && c.asByte && 0x80 ≤ c.char.toNat then .error .notText
  else
    let set := f.fold (.single c.char)
    .ok (if set = .single c.char then .text [c.char] else .chars set)

/-- What a `.` stands for. -/
def anyNode (f : Flags) : Except PatternError Node :=
  if !f.unicode then .error .notText
  else if f.dotAll then .ok (.chars .full)
  else if f.crlf then .ok (.chars (CharSet.ofList ['\r', '\n']).compl)
  else .ok (.chars (CharSet.single '\n').compl)

/-- The edge that is meant. -/
def edgeOf (f : Flags) : EdgeForm → Edge
  | .lineStart => if f.multiLine then .lineStart f.crlf else .textStart
  | .lineEnd => if f.multiLine then .lineEnd f.crlf else .textEnd
  | .textStart => .textStart
  | .textEnd => .textEnd
  | .word kind => .word kind !f.unicode

mutual

/-- What a written pattern means under some flags, and the flags that hold behind it. -/
def node (f : Flags) : Form → Except PatternError (Node × Flags)
  | .empty => .ok (.empty, f)
  | .literal c => do return (← literalNode f c, f)
  | .any => do return (← anyNode f, f)
  | .edge e => .ok (.edge (edgeOf f e), f)
  | .set s => do return (.ofSet (← s.set f), f)
  | .flags changes => .ok (.empty, f.apply changes)
  | .rep least most greedy body => do
    let (body, f) ← node f body
    return (.mkRep least most (greedy != f.swapGreed) body, f)
  | .group index changes body => do
    let (body, _) ← node (f.apply changes) body
    return (match index with
      | some i => .group i body
      | none => body, f)
  | .seq parts => do
    let (parts, f) ← nodes f parts
    return (.mkSeq parts, f)
  | .alt branches => do
    let (branches, f) ← nodes f branches
    return (.mkAlt branches, f)

/-- What several written patterns mean, each under the flags that hold behind the one before. -/
def nodes (f : Flags) : List Form → Except PatternError (List Node × Flags)
  | [] => .ok ([], f)
  | p :: ps => do
    let (p, f) ← node f p
    let (ps, f) ← nodes f ps
    return (p :: ps, f)

end

end Form

/-! ## Size -/

namespace Node

/-- The bytes needed for a set. -/
def setBytes (s : CharSet) : Nat :=
  if s.isAscii then 64 + 8 * s.ranges.length else 700 + 58 * s.ranges.length

mutual

/-- The bytes needed for a pattern with its repetitions written out. -/
def bytes : Node → Nat
  | .empty | .edge _ => 32
  | .text cs => 32 * (String.ofList cs).utf8ByteSize
  | .chars s => setBytes s
  | .group _ body => bytes body + 64
  | .seq parts => bytesAll parts
  | .alt branches => bytesAll branches + 4 * branches.length + 64
  | .rep least most _ body =>
    let once := bytes body
    match most with
    | some most => max 32 (least * once) + (most - least) * (once + 40)
    | none => max least 1 * once + 128

/-- The bytes needed for several patterns. -/
def bytesAll : List Node → Nat
  | [] => 0
  | p :: ps => bytes p + bytesAll ps

end

end Node

namespace Pattern

/-- Read a written pattern. -/
def read? (text : String) : Except PatternError Pattern := do
  let (body, _) ← (← Form.read? text.toList).node {}
  if PatternError.sizeLimit < body.bytes then throw .tooLarge
  return .ofNode body

end Pattern

end EnvAudit
