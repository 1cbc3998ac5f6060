import EnvAudit.Pattern.Search
import Mathlib.Data.List.Basic

/-!
# EnvAudit.Proofs.Pattern.Ways

What a pattern reads, without a search:

1. a `Way` is a text that a pattern reads, with what its groups read; it does not say where in the
   text it was found;
2. a `Reading` gives the ways at a position, the preferred one first, and each construct of a
   pattern is an operation on readings;
3. `Node.ways` is the reading of a pattern and `Route.ways` that of a route.

Main statements: a pattern and its route have the same ways (`Route.ways_ofNode`), and every way
reads what stands at the position (`Node.local_ways`).
-/

namespace EnvAudit

/-! ## Moving through a text -/

namespace Cursor

/-- The position behind a text that is read from here. -/
def move (c : Cursor) (xs : List Char) : Cursor :=
  ⟨xs.getLast?.or c.before, c.pos + xs.length, c.rest.drop xs.length⟩

@[simp] theorem move_nil (c : Cursor) : c.move [] = c := by
  simp [move]

theorem move_append (c : Cursor) (xs ys : List Char) :
    c.move (xs ++ ys) = (c.move xs).move ys := by
  simp [move, List.getLast?_append, Option.or_assoc, Nat.add_assoc]

@[simp] theorem pos_move (c : Cursor) (xs : List Char) : (c.move xs).pos = c.pos + xs.length := rfl

/-- Past some characters stands what follows them. -/
theorem rest_move {c : Cursor} {xs ys : List Char} (h : c.rest = xs ++ ys) :
    (c.move xs).rest = ys := by
  simp [move, h]

theorem left_move (c : Cursor) (xs : List Char) : (c.move xs).left = c.left - xs.length := by
  simp [move, left]

theorem left_move_le (c : Cursor) (xs : List Char) : (c.move xs).left ≤ c.left := by
  rw [left_move]
  omega

/-- Reading something leaves less. -/
theorem left_move_lt {c : Cursor} {xs : List Char} (h : xs <+: c.rest) (hne : xs ≠ []) :
    (c.move xs).left < c.left := by
  have hle : xs.length ≤ c.left := h.length_le
  have hpos : 0 < xs.length := List.length_pos_iff.2 hne
  rw [left_move]
  omega

theorem next_eq_move {c : Cursor} {x : Char} {xs : List Char} (h : c.rest = x :: xs) :
    c.next? = some (c.move [x]) := by
  simp [next?, move, h]

/-- What lies between a position and the one behind a text is that text. -/
theorem text_move {c : Cursor} {xs : List Char} (h : xs <+: c.rest) :
    Span.text ⟨c, c.move xs⟩ = xs := by
  obtain ⟨ys, hys⟩ := h
  simp [Span.text, move, ← hys]

/-- What stands past the first stretch stands behind it in the text. -/
theorem prefix_append_of_move {c : Cursor} {xs ys : List Char} (hx : xs <+: c.rest)
    (hy : ys <+: (c.move xs).rest) : xs ++ ys <+: c.rest := by
  obtain ⟨rest, hrest⟩ := hx
  rw [rest_move hrest.symm] at hy
  rw [← hrest]
  exact List.prefix_append_right_inj xs |>.2 hy

end Cursor

/-! ## Ways and readings -/

/-- A text that a pattern reads, and what its groups read of it, the latest first. -/
structure Way where
  read : List Char
  groups : List (Nat × List Char)
deriving Repr, DecidableEq, Inhabited

namespace Way

/-- The way that reads nothing. -/
def still : Way := ⟨[], []⟩

/-- One way and another behind it. -/
def append (v w : Way) : Way := ⟨v.read ++ w.read, w.groups ++ v.groups⟩

@[simp] theorem read_still : still.read = [] := rfl
@[simp] theorem groups_still : still.groups = [] := rfl
@[simp] theorem read_append (v w : Way) : (v.append w).read = v.read ++ w.read := rfl
@[simp] theorem groups_append (v w : Way) : (v.append w).groups = w.groups ++ v.groups := rfl
@[simp] theorem append_still (v : Way) : v.append still = v := by simp [append]
@[simp] theorem still_append (v : Way) : still.append v = v := by simp [append]

theorem append_assoc (u v w : Way) : (u.append v).append w = u.append (v.append w) := by
  simp [append]

end Way

/-- The ways at a position, the preferred one first. -/
abbrev Reading := Cursor → List Way

namespace Reading

/-- Read nothing. -/
def still : Reading := fun _ => [.still]

/-- Read one character of a set. -/
def one (set : CharSet) : Reading := fun c =>
  match c.rest with
  | [] => []
  | x :: _ => if set.contains x then [⟨[x], []⟩] else []

/-- Read nothing, at an edge. -/
def edge (e : Edge) : Reading := fun c => if e.holds c then [.still] else []

/-- Read with one reading and then with another. -/
def andThen (a b : Reading) : Reading := fun c =>
  (a c).flatMap fun v => (b (c.move v.read)).map v.append

/-- Read with one reading, or else with another. -/
def orElse (a b : Reading) : Reading := fun c => a c ++ b c

/-- Read, and remember what was read under a number. -/
def remember (index : Nat) (a : Reading) : Reading := fun c =>
  (a c).map fun w => ⟨w.read, (index, w.read) :: w.groups⟩

/-- Read again and again, as long as something is read. -/
def again (greedy : Bool) (a : Reading) : Reading := fun c =>
  let more := (a c).flatMap fun v =>
    if _h : (c.move v.read).left < c.left then (again greedy a (c.move v.read)).map v.append
    else [v]
  if greedy then more ++ [.still] else .still :: more
termination_by c => c.left

/-- Go on reading again and again, if something was read since `left` characters were left. -/
def goOn (greedy : Bool) (a : Reading) (left : Nat) : Reading := fun c =>
  if c.left < left then again greedy a c else [.still]

/-- Read at least once. -/
def again₁ (greedy : Bool) (a : Reading) : Reading := fun c => a.andThen (goOn greedy a c.left) c

/-- Read a given number of times. -/
def times (a : Reading) : Nat → Reading
  | 0 => still
  | 1 => a
  | count + 1 => a.andThen (times a count)

/-- Read or read nothing. -/
def optional (greedy : Bool) (a : Reading) : Reading :=
  if greedy then a.orElse still else still.orElse a

/-- Read up to a given number of times. -/
def atMost (greedy : Bool) (a : Reading) : Nat → Reading
  | 0 => still
  | 1 => optional greedy a
  | count + 1 => optional greedy (a.andThen (atMost greedy a count))

/-- Read the characters of a text. -/
def text : List Char → Reading
  | [] => still
  | [x] => one (.single x)
  | x :: xs => (one (.single x)).andThen (text xs)

/-- Reading again and again is reading at least once, or nothing. -/
theorem again_eq (greedy : Bool) (a : Reading) :
    again greedy a = optional greedy (again₁ greedy a) := by
  funext c
  have hmore : ((a c).flatMap fun v =>
      if _h : (c.move v.read).left < c.left then (again greedy a (c.move v.read)).map v.append
      else [v]) = again₁ greedy a c := by
    unfold again₁ andThen
    congr 1
    funext v
    by_cases h : (c.move v.read).left < c.left <;> simp [goOn, h]
  rw [again, hmore]
  cases greedy <;> rfl

/-- Sequencing does not depend on how it is bracketed. -/
theorem andThen_assoc (a b d : Reading) : (a.andThen b).andThen d = a.andThen (b.andThen d) := by
  funext c
  have hassoc : ∀ u v : Way, (u.append v).append = u.append ∘ v.append :=
    fun u v => funext fun w => Way.append_assoc u v w
  simp [andThen, List.flatMap_assoc, List.map_flatMap, List.flatMap_map, Cursor.move_append, hassoc]

theorem still_andThen (a : Reading) : still.andThen a = a := by
  funext c
  have hid : Way.still.append = id := funext Way.still_append
  simp [andThen, still, hid]

/-- What follows an alternative follows each of its branches. -/
theorem orElse_andThen (a b d : Reading) :
    (a.orElse b).andThen d = (a.andThen d).orElse (b.andThen d) := by
  funext c
  simp [andThen, orElse]

end Reading

/-! ## The ways of a route -/

/-- The ways of a route. -/
def Route.ways : Route → Reading
  | .empty => .still
  | .chars set => .one set
  | .edge e => .edge e
  | .group index body => .remember index body.ways
  | .seq first second => first.ways.andThen second.ways
  | .fork _ first second => first.ways.orElse second.ways
  | .loop _ once greedy body => if once then body.ways.again₁ greedy else body.ways.again greedy

/-! ## The ways of a pattern -/

namespace Node

mutual

/-- The ways of a pattern. -/
def ways : Node → Reading
  | .empty => .still
  | .text cs => .text cs
  | .chars set => .one set
  | .edge e => .edge e
  | .group index body => .remember index body.ways
  | .seq parts => waysSeq parts
  | .alt branches => waysAlt branches
  | .rep least (some most) greedy body =>
    if most ≤ least then body.ways.times least
    else (body.ways.times least).andThen (body.ways.atMost greedy (most - least))
  | .rep least none greedy body =>
    match least with
    | 0 =>
      if body.nullable then .optional greedy (body.ways.again₁ greedy) else body.ways.again greedy
    | 1 => body.ways.again₁ greedy
    | least + 1 => (body.ways.times least).andThen (body.ways.again₁ greedy)

/-- The ways of patterns one after the other. -/
def waysSeq : List Node → Reading
  | [] => .still
  | [p] => p.ways
  | p :: ps => p.ways.andThen (waysSeq ps)

/-- The ways of patterns tried in order. -/
def waysAlt : List Node → Reading
  | [] => fun _ => []
  | [p] => p.ways
  | p :: ps => p.ways.orElse (waysAlt ps)

end

end Node

namespace Route

/-- A text is read as itself. -/
theorem ways_ofText (cs : List Char) : (ofText cs).ways = Reading.text cs := by
  fun_induction ofText cs with
  | case1 => rfl
  | case2 c => rfl
  | case3 c cs hcs ih =>
    cases cs with
    | nil => exact absurd rfl hcs
    | cons d ds =>
      simp only [ways, ih]
      rfl

/-- A layout has the ways of a reading wherever it is placed. -/
def Layout.Reads (a : Layout) (r : Reading) : Prop := ∀ n, (a n).1.ways = r

namespace Layout

theorem Reads.still : Reads (fun n => (.empty, n)) .still := fun _ => rfl

/-- Layouts in sequence read what their patterns do in sequence. -/
theorem Reads.andThen {a b : Layout} {r s : Reading} (ha : a.Reads r) (hb : b.Reads s) :
    (a.andThen b).Reads (r.andThen s) := fun n => by
  simp only [Layout.andThen, ways]
  rw [ha, hb]

theorem Reads.times {a : Layout} {r : Reading} (ha : a.Reads r) (count : Nat) :
    (a.times count).Reads (r.times count) := by
  fun_induction Layout.times a count with
  | case1 => exact .still
  | case2 => exact ha
  | case3 count hcount ih =>
    cases count with
    | zero => exact absurd rfl hcount
    | succ count => exact ha.andThen ih

theorem Reads.optional {a : Layout} {r : Reading} (ha : a.Reads r) (watched greedy : Bool) :
    (a.optional watched greedy).Reads (r.optional greedy) := fun n => by
  cases greedy <;> simp [Layout.optional, Reading.optional, ways, ha (n + 1)]

theorem Reads.atMost {a : Layout} {r : Reading} (ha : a.Reads r) (watched greedy : Bool)
    (count : Nat) : (a.atMost watched greedy count).Reads (r.atMost greedy count) := by
  fun_induction Layout.atMost watched greedy a count with
  | case1 => exact .still
  | case2 => exact ha.optional watched greedy
  | case3 count hcount ih =>
    cases count with
    | zero => exact absurd rfl hcount
    | succ count => exact (ha.andThen ih).optional watched greedy

/-- A layout with a loop reads what its pattern does, repeated. -/
theorem Reads.looped {a : Layout} {r : Reading} (ha : a.Reads r) (watched once greedy : Bool) :
    (a.looped watched once greedy).Reads
      (if once then r.again₁ greedy else r.again greedy) := fun n => by
  simp only [Layout.looped, ways, ha (n + 1)]

end Layout

mutual

/-- The layout of a pattern reads what the pattern means. -/
theorem reads_layout (watched : Bool) : (node : Node) → (layout watched node).Reads node.ways
  | .empty => fun _ => rfl
  | .text cs => fun _ => ways_ofText cs
  | .chars _ => fun _ => rfl
  | .edge _ => fun _ => rfl
  | .group index body => fun n => by
    simp only [layout, ways, Node.ways]
    rw [reads_layout watched body n]
  | .seq parts => by
    simp only [layout, Node.ways]
    exact reads_layoutSeq watched parts
  | .alt branches => by
    simp only [layout, Node.ways]
    exact reads_layoutAlt watched branches
  | .rep least (some most) greedy body => by
    have ih := reads_layout watched body
    simp only [layout, Node.ways]
    split
    · exact ih.times least
    · exact (ih.times least).andThen (ih.atMost watched greedy _)
  | .rep least none greedy body => by
    have ih := reads_layout (watched || body.nullable) body
    have hloop := ih.looped (watched || body.nullable) true greedy
    match least with
    | 0 =>
      simp only [layout, Node.ways]
      split
      · exact hloop.optional _ greedy
      · exact ih.looped _ false greedy
    | 1 =>
      simp only [layout, Node.ways]
      exact hloop
    | least + 2 =>
      simp only [layout, Node.ways]
      exact (ih.times (least + 1)).andThen hloop

theorem reads_layoutSeq (watched : Bool) :
    (parts : List Node) → (layoutSeq watched parts).Reads (Node.waysSeq parts)
  | [] => fun _ => rfl
  | [p] => by
    simp only [layoutSeq, Node.waysSeq]
    exact reads_layout watched p
  | p :: q :: ps => by
    simp only [layoutSeq, Node.waysSeq]
    exact (reads_layout watched p).andThen (reads_layoutSeq watched (q :: ps))

theorem reads_layoutAlt (watched : Bool) :
    (branches : List Node) → (layoutAlt watched branches).Reads (Node.waysAlt branches)
  | [] => fun _ => by
    funext c
    simp only [layoutAlt, ways, Node.waysAlt, Reading.one]
    cases c.rest <;> simp [CharSet.contains, CharSet.empty, CharSet.covers]
  | [p] => by
    simp only [layoutAlt, Node.waysAlt]
    exact reads_layout watched p
  | p :: q :: ps => fun n => by
    simp only [layoutAlt, Node.waysAlt, ways]
    rw [reads_layout watched p, reads_layoutAlt watched (q :: ps)]

end

/-- A route has the ways of its pattern. -/
theorem ways_ofNode (node : Node) : (ofNode node).ways = node.ways := reads_layout false node 0

/-! ## Reading what is there -/

end Route

namespace Reading

/-- Every way reads what stands at the position. -/
def Local (a : Reading) : Prop := ∀ c, ∀ v ∈ a c, v.read <+: c.rest

/-- A way in sequence is one way and then another. -/
theorem mem_andThen {a b : Reading} {c : Cursor} {w : Way} :
    w ∈ a.andThen b c ↔ ∃ u ∈ a c, ∃ v ∈ b (c.move u.read), u.append v = w := by
  simp [andThen]

/-- A repetition is one round and then further ones. -/
theorem mem_again₁ {greedy : Bool} {a : Reading} {c : Cursor} {w : Way} :
    w ∈ a.again₁ greedy c ↔ ∃ u ∈ a c, ∃ v ∈ goOn greedy a c.left (c.move u.read), u.append v = w :=
  mem_andThen

/-- A repetition may have no rounds at all. -/
theorem mem_again {greedy : Bool} {a : Reading} {c : Cursor} {w : Way} :
    w ∈ a.again greedy c ↔ w = .still ∨ w ∈ a.again₁ greedy c := by
  rw [again_eq]
  cases greedy <;> simp [optional, orElse, still, or_comm]

namespace Local

theorem still : Local .still := fun c v hv => by
  simp only [Reading.still, List.mem_singleton] at hv
  simp [hv]

theorem one (set : CharSet) : Local (.one set) := fun c v hv => by
  unfold Reading.one at hv
  split at hv
  · simp at hv
  · next x xs hrest =>
    split at hv
    · simp only [List.mem_singleton] at hv
      simp [hv, hrest]
    · simp at hv

theorem edge (e : Edge) : Local (.edge e) := fun c v hv => by
  unfold Reading.edge at hv
  split at hv
  · exact still c v hv
  · simp at hv

/-- What is local stays so in sequence. -/
theorem andThen {a b : Reading} (ha : Local a) (hb : Local b) : Local (a.andThen b) :=
  fun c w hw => by
    obtain ⟨u, hu, v, hv, rfl⟩ := mem_andThen.1 hw
    exact Cursor.prefix_append_of_move (ha c u hu) (hb _ v hv)

theorem orElse {a b : Reading} (ha : Local a) (hb : Local b) : Local (a.orElse b) :=
  fun c v hv => (List.mem_append.1 hv).elim (ha c v) (hb c v)

theorem remember {a : Reading} (ha : Local a) (index : Nat) : Local (a.remember index) :=
  fun c w hw => by
    obtain ⟨v, hv, rfl⟩ := List.mem_map.1 hw
    exact ha c v hv

/-- Going round a loop any number of times reads what is there. -/
theorem again {a : Reading} (ha : Local a) (greedy : Bool) : Local (a.again greedy) := by
  intro c
  induction hn : c.left using Nat.strongRecOn generalizing c with
  | ind n ih =>
    intro w hw
    rcases mem_again.1 hw with rfl | hw
    · exact still c _ (by simp [Reading.still])
    · obtain ⟨u, hu, v, hv, rfl⟩ := mem_again₁.1 hw
      unfold goOn at hv
      split at hv
      · next hlt => exact Cursor.prefix_append_of_move (ha c u hu) (ih _ (hn ▸ hlt) _ rfl v hv)
      · exact Cursor.prefix_append_of_move (ha c u hu) (still _ v hv)

theorem goOn {a : Reading} (ha : Local a) (greedy : Bool) (left : Nat) :
    Local (goOn greedy a left) := fun c v hv => by
  unfold Reading.goOn at hv
  split at hv
  · exact again ha greedy c v hv
  · exact still c v hv

theorem again₁ {a : Reading} (ha : Local a) (greedy : Bool) : Local (a.again₁ greedy) :=
  fun c => andThen ha (goOn ha greedy c.left) c

end Local

/-- Whether every way reads something that stands at the position. -/
structure Moving (a : Reading) : Prop where
  isLocal : a.Local
  read_ne_nil : ∀ c, ∀ w ∈ a c, w.read ≠ []

/-- What moves on leaves less of the text. -/
theorem Moving.left_lt {a : Reading} (ha : a.Moving) {c : Cursor} {w : Way} (hw : w ∈ a c) :
    (c.move w.read).left < c.left :=
  Cursor.left_move_lt (ha.isLocal c w hw) (ha.read_ne_nil c w hw)

theorem Moving.one (set : CharSet) : Moving (.one set) := by
  refine ⟨.one set, fun c w hw => ?_⟩
  unfold Reading.one at hw
  split at hw
  · simp at hw
  · split at hw <;> simp_all

theorem Moving.orElse {a b : Reading} (ha : a.Moving) (hb : b.Moving) : Moving (a.orElse b) :=
  ⟨ha.isLocal.orElse hb.isLocal, fun c w hw =>
    (List.mem_append.1 hw).elim (ha.read_ne_nil c w) (hb.read_ne_nil c w)⟩

/-- A loop whose rounds read something goes on after each of them. -/
theorem again₁_eq_andThen {a : Reading} (ha : a.Moving) (greedy : Bool) :
    again₁ greedy a = a.andThen (again greedy a) := by
  funext c
  refine List.flatMap_congr fun v hv => ?_
  simp [goOn, ha.left_lt hv]

end Reading

/-- A route reads what is there. -/
theorem Route.local_ways (r : Route) : r.ways.Local := by
  induction r with
  | empty => exact .still
  | chars set => exact .one set
  | edge e => exact .edge e
  | group index body ih => exact ih.remember index
  | seq first second ih₁ ih₂ => exact ih₁.andThen ih₂
  | fork place first second ih₁ ih₂ => exact ih₁.orElse ih₂
  | loop place once greedy body ih =>
    cases once
    · exact ih.again greedy
    · exact ih.again₁ greedy

/-- A pattern reads what is there. -/
theorem Node.local_ways (node : Node) : node.ways.Local :=
  Route.ways_ofNode node ▸ Route.local_ways _

end EnvAudit
