import EnvAudit.Pattern.Cursor

/-!
# EnvAudit.Pattern.Basic

What a pattern can be made of, and the forms in which patterns are kept:

1. `seq` reads its parts one after the other, `alt` tries its branches in order, `rep` repeats its
   body as often as it can or, if lazy, as seldom as it can, and `group` remembers what its body
   read;
2. `mkSeq`, `mkAlt` and `mkRep` build the same things in one form: no sequence within a sequence,
   neighbouring texts joined, branches that are all sets of characters made one set, and what all
   branches begin with read once, before they part.
-/

namespace EnvAudit

/-- What a pattern reads. -/
inductive Node
  /-- Nothing. -/
  | empty
  /-- These characters. -/
  | text (cs : List Char)
  /-- One character of the set. -/
  | chars (set : CharSet)
  /-- Nothing, at such an edge. -/
  | edge (e : Edge)
  /-- What the body reads, remembered under a number. -/
  | group (index : Nat) (body : Node)
  /-- The parts one after the other. -/
  | seq (parts : List Node)
  /-- The first branch that leads to a match. -/
  | alt (branches : List Node)
  /-- The body at least `least` and at most `most` times. -/
  | rep (least : Nat) (most : Option Nat) (greedy : Bool) (body : Node)
deriving Repr, Inhabited

namespace Node

mutual

/-- Whether two patterns are written alike. -/
def same : Node → Node → Bool
  | .empty, .empty => true
  | .text a, .text b => a == b
  | .chars a, .chars b => a == b
  | .edge a, .edge b => a == b
  | .group i a, .group j b => i == j && same a b
  | .seq a, .seq b => sameAll a b
  | .alt a, .alt b => sameAll a b
  | .rep l m g a, .rep l' m' g' b => l == l' && m == m' && g == g' && same a b
  | _, _ => false

/-- Whether two lists hold patterns written alike. -/
def sameAll : List Node → List Node → Bool
  | [], [] => true
  | a :: as, b :: bs => same a b && sameAll as bs
  | _, _ => false

end

mutual

/-- Whether the pattern can match without reading a character. -/
def nullable : Node → Bool
  | .empty | .edge _ => true
  | .text cs => cs.isEmpty
  | .chars _ => false
  | .group _ body => nullable body
  | .seq parts => allNullable parts
  | .alt branches => anyNullable branches
  | .rep least _ _ body => least == 0 || nullable body

/-- Whether all of the patterns can match without reading a character. -/
def allNullable : List Node → Bool
  | [] => true
  | p :: ps => nullable p && allNullable ps

/-- Whether one of the patterns can match without reading a character. -/
def anyNullable : List Node → Bool
  | [] => false
  | p :: ps => nullable p || anyNullable ps

end

mutual

/-- Whether the pattern can read a character. -/
def reads : Node → Bool
  | .empty | .edge _ => false
  | .text cs => !cs.isEmpty
  | .chars _ => true
  | .group _ body => reads body
  | .seq parts => anyReads parts
  | .alt branches => anyReads branches
  | .rep _ most _ body => most != some 0 && reads body

/-- Whether one of the patterns can read a character. -/
def anyReads : List Node → Bool
  | [] => false
  | p :: ps => reads p || anyReads ps

end

mutual

/-- The highest number of a group, zero if there is none. -/
def lastGroup : Node → Nat
  | .empty | .text _ | .chars _ | .edge _ => 0
  | .group i body => max i (lastGroup body)
  | .seq parts => lastGroupAll parts
  | .alt branches => lastGroupAll branches
  | .rep _ _ _ body => lastGroup body

/-- The highest number of a group in any of the patterns. -/
def lastGroupAll : List Node → Nat
  | [] => 0
  | p :: ps => max (lastGroup p) (lastGroupAll ps)

end

/-! ## One form for each pattern -/

/-- One character of the set, written as a text if there is only one. -/
def ofSet (set : CharSet) : Node :=
  match set.single? with
  | some c => .text [c]
  | none => .chars set

/-- Put a part that is no sequence in front of the parts of a sequence. -/
def consPart (p : Node) (ps : List Node) : List Node :=
  match p, ps with
  | .empty, ps => ps
  | .text a, .text b :: rest => .text (a ++ b) :: rest
  | p, ps => p :: ps

/-- The parts of the sequence of two patterns. -/
def appendParts (p : Node) (ps : List Node) : List Node :=
  match p with
  | .seq parts => parts.foldr consPart ps
  | p => consPart p ps

/-- The parts one after the other. -/
def mkSeq (parts : List Node) : Node :=
  match parts.foldr appendParts [] with
  | [] => .empty
  | [p] => p
  | ps => .seq ps

/-- The only character that the pattern reads, if it is a text of one character. -/
def singleChar? : Node → Option Char
  | .text [c] => some c
  | _ => none

/-- The set of which the pattern reads a character. -/
def set? : Node → Option CharSet
  | .chars set => some set
  | _ => none

/-- How many parts two sequences have in common at their start. -/
def commonLength : List Node → List Node → Nat
  | a :: as, b :: bs => if same a b then commonLength as bs + 1 else 0
  | _, _ => 0

/-- The parts of a sequence. -/
def parts? : Node → Option (List Node)
  | .seq parts => some parts
  | _ => none

/-- How many parts all sequences have in common at their start, if they are sequences. -/
def sharedLength (branches : List Node) : Nat :=
  match branches.mapM parts? with
  | some (first :: others) =>
    others.foldl (fun n ps => min n (commonLength first ps)) first.length
  | _ => 0

/-- The branches of an alternative, and any other pattern as its own branch. -/
def branches : Node → List Node
  | .alt bs => bs
  | p => [p]

/-- The alternative of branches that have nothing in common. -/
def altOf (bs : List Node) : Node :=
  match bs with
  | [] => .chars .empty
  | [p] => p
  | bs =>
    match bs.mapM singleChar? with
    | some cs => ofSet (.ofList cs)
    | none =>
      match bs.mapM set? with
      | some sets => ofSet (sets.foldl .union .empty)
      | none => .alt bs

/-- The first branch that leads to a match. What all branches begin with is read once, before they
part; `depth` bounds how often what is left of the branches is taken apart again. -/
def mkAltWithin : Nat → List Node → Node
  | 0, bs => altOf bs
  | depth + 1, bs =>
    let flat := bs.flatMap branches
    match sharedLength flat, flat with
    | n + 1, first :: _ :: _ =>
      let partsOf := fun p => (parts? p).getD [p]
      let tails := flat.map fun p => mkSeq ((partsOf p).drop (n + 1))
      mkSeq ((partsOf first).take (n + 1) ++ [mkAltWithin depth tails])
    | _, _ => altOf flat

mutual

/-- The number of patterns within a pattern, itself included. -/
def size : Node → Nat
  | .empty | .text _ | .chars _ | .edge _ => 1
  | .group _ body => size body + 1
  | .seq parts => sizeAll parts + 1
  | .alt branches => sizeAll branches + 1
  | .rep _ _ _ body => size body + 1

/-- The number of patterns within the patterns. -/
def sizeAll : List Node → Nat
  | [] => 0
  | p :: ps => size p + sizeAll ps

end

/-- The first branch that leads to a match. -/
def mkAlt (bs : List Node) : Node := mkAltWithin (sizeAll bs) bs

/-- The body at least `least` and at most `most` times. Repeating what reads nothing more than
once changes nothing. -/
def mkRep (least : Nat) (most : Option Nat) (greedy : Bool) (body : Node) : Node :=
  let (least, most) :=
    if body.reads then (least, most) else (min least 1, some (min (most.getD 1) 1))
  if least = 0 ∧ most = some 0 then .empty
  else if least = 1 ∧ most = some 1 then body
  else .rep least most greedy body

end Node

/-- A pattern and the number of its groups, counted up to the last one it has. -/
structure Pattern where
  body : Node
  groups : Nat
deriving Repr, Inhabited

/-- The pattern that reads what the node reads. -/
def Pattern.ofNode (body : Node) : Pattern := ⟨body, body.lastGroup⟩

end EnvAudit
