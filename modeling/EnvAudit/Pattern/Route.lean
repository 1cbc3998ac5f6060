import EnvAudit.Pattern.Basic

/-!
# EnvAudit.Pattern.Route

A pattern laid out for searching:

1. counted repetition is written out, so a `Route` has only forks, where one of two ways is tried
   first, and loops;
2. every fork and loop has a `Place` of its own, so that a search can tell where it has been;
3. a place is *watched* if it lies in a loop whose body can match without reading: there a search
   could come back to it at the same position, which it must not.
-/

namespace EnvAudit

/-- The number of a fork or loop, and whether coming back to it without reading is possible. -/
structure Place where
  number : Nat
  watched : Bool
deriving Repr, DecidableEq, Inhabited

/-- A pattern laid out for searching. -/
inductive Route
  | empty
  | chars (set : CharSet)
  | edge (e : Edge)
  | group (index : Nat) (body : Route)
  | seq (first second : Route)
  /-- The first way, or else the second. -/
  | fork (place : Place) (first second : Route)
  /-- The body again and again, at least once if `once` holds. -/
  | loop (place : Place) (once greedy : Bool) (body : Route)
deriving Repr, Inhabited

namespace Route

/-- The number of steps a search can take through the route before it reads a character. -/
def size : Route → Nat
  | .empty | .chars _ | .edge _ => 1
  | .group _ body => body.size + 2
  | .seq first second => first.size + second.size + 1
  | .fork _ first second => first.size + second.size + 1
  | .loop _ _ _ body => body.size + 3

theorem size_pos (r : Route) : 0 < r.size := by cases r <;> simp [size]

/-- The characters of a text one after the other. -/
def ofText : List Char → Route
  | [] => .empty
  | [c] => .chars (.single c)
  | c :: cs => .seq (.chars (.single c)) (ofText cs)

/-- A part of a route, given the number of the next place; with it comes the number of the place
after those of the part. -/
abbrev Layout := Nat → Route × Nat

namespace Layout

/-- Both parts one after the other. -/
def andThen (a b : Layout) : Layout := fun n =>
  let (first, n) := a n
  let (second, n) := b n
  (.seq first second, n)

/-- The part `count` times. -/
def times (a : Layout) : Nat → Layout
  | 0 => fun n => (.empty, n)
  | 1 => a
  | count + 1 => a.andThen (times a count)

/-- The part or nothing. -/
def optional (watched greedy : Bool) (a : Layout) : Layout := fun n =>
  let (body, m) := a (n + 1)
  (if greedy then .fork ⟨n, watched⟩ body .empty else .fork ⟨n, watched⟩ .empty body, m)

/-- The part up to `count` times. -/
def atMost (watched greedy : Bool) (a : Layout) : Nat → Layout
  | 0 => fun n => (.empty, n)
  | 1 => optional watched greedy a
  | count + 1 => optional watched greedy (a.andThen (atMost watched greedy a count))

/-- The part again and again. -/
def looped (watched once greedy : Bool) (a : Layout) : Layout := fun n =>
  let (body, m) := a (n + 1)
  (.loop ⟨n, watched⟩ once greedy body, m)

end Layout

mutual

/-- Lay out a pattern; `watched` says whether it lies in a loop that may read nothing. -/
def layout (watched : Bool) : Node → Layout
  | .empty => fun n => (.empty, n)
  | .text cs => fun n => (ofText cs, n)
  | .chars set => fun n => (.chars set, n)
  | .edge e => fun n => (.edge e, n)
  | .group i body => fun n => let (body, m) := layout watched body n; (.group i body, m)
  | .seq parts => layoutSeq watched parts
  | .alt branches => layoutAlt watched branches
  | .rep least (some most) greedy body =>
    let part := layout watched body
    if most ≤ least then part.times least
    else (part.times least).andThen (.atMost watched greedy part (most - least))
  | .rep least none greedy body =>
    let watched' := watched || body.nullable
    let part := layout watched' body
    match least with
    | 0 =>
      if body.nullable then .optional watched' greedy (.looped watched' true greedy part)
      else .looped watched' false greedy part
    | 1 => .looped watched' true greedy part
    | least + 1 => (part.times least).andThen (.looped watched' true greedy part)

/-- Lay out the parts of a sequence. -/
def layoutSeq (watched : Bool) : List Node → Layout
  | [] => fun n => (.empty, n)
  | [p] => layout watched p
  | p :: ps => Layout.andThen (layout watched p) (layoutSeq watched ps)

/-- Lay out branches tried in order. -/
def layoutAlt (watched : Bool) : List Node → Layout
  | [] => fun n => (.chars .empty, n)
  | [p] => layout watched p
  | p :: ps => fun n =>
    let (first, m) := layout watched p (n + 1)
    let (second, m) := layoutAlt watched ps m
    (.fork ⟨n, watched⟩ first second, m)

end

/-- The route of a pattern. -/
def ofNode (node : Node) : Route := (layout false node 0).1

end Route

end EnvAudit
