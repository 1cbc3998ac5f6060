import EnvAudit.Pattern.Route
import Std.Data.HashSet

/-!
# EnvAudit.Pattern.Search

Finding a pattern in a text:

1. a `Thread` is one way of matching so far: what is still to do, where it stands, and what its
   groups have read; `Thread.step` takes it one step further, or splits it in two at a fork or loop,
   the preferred way first;
2. `Thread.first?` is the match of the most preferred way that leads to one;
3. `Thread.explore` finds the same match and remembers the forks from which no way led on, so each
   is tried at most once at each position;
4. `Route.search?` starts at each position in turn, and `Pattern.findAll` goes on behind each match
   found; an empty match is not reported where the match before it stopped.

Every step either reads a character or makes what is to do smaller (`Thread.step_smaller`), so all
of these end.
-/

namespace EnvAudit

/-- Something a thread has still to do. -/
inductive Task
  /-- Match a route. -/
  | run (r : Route)
  /-- Remember what a group has read since it was entered. -/
  | close (index : Nat) (entered : Cursor)
  /-- Go round a loop again or leave it; `left` characters were left when the last round began. -/
  | again (place : Place) (greedy : Bool) (body : Route) (left : Nat)
deriving Repr, Inhabited

/-- One way of matching a pattern. -/
structure Thread where
  /-- What is still to do, first task first. -/
  todo : List Task
  /-- Where the thread stands. -/
  here : Cursor
  /-- What the groups have read, the latest first. -/
  groups : List (Nat × Span)
  /-- The watched places passed since the last character was read. -/
  trail : List Nat
deriving Repr, Inhabited

/-- What becomes of a thread. -/
inductive Step
  /-- It has matched. -/
  | done
  /-- It leads to no match. -/
  | dead
  | one (next : Thread)
  /-- It splits at a place, the preferred way first. -/
  | two (place : Place) (first second : Thread)

/-- A match: where it is and what its groups have read. -/
structure Found where
  span : Span
  groups : List (Nat × Span)
deriving Repr, Inhabited

/-- What a group read, if it took part in the match. -/
def Found.group? (f : Found) (index : Nat) : Option Span :=
  (f.groups.find? fun g => g.1 == index).map Prod.snd

namespace Task

/-- The number of steps a task can take before a character is read, when `left` are left. -/
def size (left : Nat) : Task → Nat
  | .run r => r.size
  | .close _ _ => 1
  | .again _ _ body left' => if left < left' then body.size + 2 else 1

/-- The number of steps several tasks can take before a character is read. -/
def sizeAll (left : Nat) : List Task → Nat
  | [] => 0
  | t :: ts => t.size left + sizeAll left ts

end Task

namespace Thread

/-- Go past a place, unless it is watched and was passed since the last character was read. -/
def pass (t : Thread) (place : Place) (onward : Thread → Step) : Step :=
  if place.watched then
    if t.trail.contains place.number then .dead
    else onward { t with trail := place.number :: t.trail }
  else onward t

/-- Go round a loop once more or leave it for `after`. -/
def round (t : Thread) (place : Place) (greedy : Bool) (body : Route) (after : List Task) : Step :=
  let inner := { t with todo := .run body :: .again place greedy body t.here.left :: after }
  let outer := { t with todo := after }
  if greedy then .two place inner outer else .two place outer inner

/-- Take a thread one step further. -/
def step (t : Thread) : Step :=
  match t.todo with
  | [] => .done
  | .close index entered :: after =>
    .one { t with todo := after, groups := (index, ⟨entered, t.here⟩) :: t.groups }
  | .run .empty :: after => .one { t with todo := after }
  | .run (.chars set) :: after =>
    match t.here.rest, t.here.next? with
    | c :: _, some next =>
      if set.contains c then .one { t with todo := after, here := next, trail := [] } else .dead
    | _, _ => .dead
  | .run (.edge e) :: after => if e.holds t.here then .one { t with todo := after } else .dead
  | .run (.group index body) :: after =>
    .one { t with todo := .run body :: .close index t.here :: after }
  | .run (.seq first second) :: after =>
    .one { t with todo := .run first :: .run second :: after }
  | .run (.fork place first second) :: after =>
    t.pass place fun t =>
      .two place { t with todo := .run first :: after } { t with todo := .run second :: after }
  | .run (.loop place once greedy body) :: after =>
    if once then .one { t with todo := .run body :: .again place greedy body t.here.left :: after }
    else t.pass place fun t => t.round place greedy body after
  | .again place greedy body left :: after =>
    t.pass place fun t =>
      if t.here.left < left then t.round place greedy body after
      else .one { t with todo := after }

/-- The number of steps a thread can take before it reads a character. -/
def size (t : Thread) : Nat := Task.sizeAll t.here.left t.todo

end Thread

/-- The threads that a step leads to. -/
def Step.next : Step → List Thread
  | .done | .dead => []
  | .one t => [t]
  | .two _ a b => [a, b]

namespace Thread

/-- A thread is smaller than another if it has read more, or as much and has less to do. -/
def Smaller (a b : Thread) : Prop :=
  a.here.left < b.here.left ∨ a.here.left = b.here.left ∧ a.size < b.size

theorem mem_next_pass {t a : Thread} {place : Place} {onward : Thread → Step}
    (h : a ∈ (t.pass place onward).next) :
    ∃ trail, a ∈ (onward { t with trail := trail }).next := by
  unfold pass at h
  split at h
  · split at h
    · simp [Step.next] at h
    · exact ⟨_, h⟩
  · exact ⟨t.trail, h⟩

theorem round_smaller {t a : Thread} {place : Place} {greedy : Bool} {body : Route}
    {after : List Task} (h : a ∈ (t.round place greedy body after).next) :
    a.here = t.here ∧ a.size ≤ body.size + 1 + Task.sizeAll t.here.left after := by
  unfold round at h
  cases greedy <;>
    simp only [Step.next, if_true, if_false, Bool.false_eq_true, List.mem_cons, List.not_mem_nil,
      or_false] at h <;>
    rcases h with rfl | rfl <;>
    simp [size, Task.sizeAll, Task.size] <;> omega

/-- Every step makes a thread smaller. -/
theorem step_smaller {t a : Thread} (h : a ∈ t.step.next) : a.Smaller t := by
  obtain ⟨todo, here, groups, trail⟩ := t
  match todo with
  | [] => simp [step, Step.next] at h
  | .close index entered :: after =>
    simp only [step, Step.next, List.mem_singleton] at h
    subst h
    right; simp [size, Task.sizeAll, Task.size]
  | .run .empty :: after =>
    simp only [step, Step.next, List.mem_singleton] at h
    subst h
    right; simp [size, Task.sizeAll, Task.size, Route.size]
  | .run (.chars set) :: after =>
    simp only [step] at h
    split at h
    · next c cs next hr hn =>
      split at h
      · simp only [Step.next, List.mem_singleton] at h
        subst h
        exact .inl (Cursor.left_next hn)
      · simp [Step.next] at h
    · simp [Step.next] at h
  | .run (.edge e) :: after =>
    simp only [step] at h
    split at h
    · simp only [Step.next, List.mem_singleton] at h
      subst h
      right; simp [size, Task.sizeAll, Task.size, Route.size]
    · simp [Step.next] at h
  | .run (.group index body) :: after =>
    simp only [step, Step.next, List.mem_singleton] at h
    subst h
    right; simp [size, Task.sizeAll, Task.size, Route.size]; omega
  | .run (.seq first second) :: after =>
    simp only [step, Step.next, List.mem_singleton] at h
    subst h
    right; simp [size, Task.sizeAll, Task.size, Route.size]; omega
  | .run (.fork place first second) :: after =>
    simp only [step] at h
    obtain ⟨trail', h⟩ := mem_next_pass h
    simp only [Step.next, List.mem_cons, List.not_mem_nil, or_false] at h
    have := first.size_pos
    have := second.size_pos
    rcases h with rfl | rfl
    · exact .inr ⟨rfl, by simp only [size, Task.sizeAll, Task.size, Route.size]; omega⟩
    · exact .inr ⟨rfl, by simp only [size, Task.sizeAll, Task.size, Route.size]; omega⟩
  | .run (.loop place once greedy body) :: after =>
    simp only [step] at h
    split at h
    · simp only [Step.next, List.mem_singleton] at h
      subst h
      right; simp [size, Task.sizeAll, Task.size, Route.size]; omega
    · obtain ⟨trail', h⟩ := mem_next_pass h
      obtain ⟨hhere, hsize⟩ := round_smaller h
      right
      refine ⟨by rw [hhere], ?_⟩
      simp [size, Task.sizeAll, Task.size, Route.size] at hsize ⊢
      omega
  | .again place greedy body left :: after =>
    simp only [step] at h
    obtain ⟨trail', h⟩ := mem_next_pass h
    split at h
    · next hl =>
      obtain ⟨hhere, hsize⟩ := round_smaller h
      right
      refine ⟨by rw [hhere], ?_⟩
      simp [size, Task.sizeAll, Task.size] at hl hsize ⊢
      simp [hl]
      omega
    · simp only [Step.next, List.mem_singleton] at h
      subst h
      right
      simp [size, Task.sizeAll, Task.size]
      split <;> omega

theorem lex_of_smaller {a b : Thread} (h : a.Smaller b) :
    Prod.Lex (· < ·) (· < ·) (a.here.left, a.size) (b.here.left, b.size) :=
  Prod.lex_def.2 h

theorem smaller_one {t a : Thread} (h : t.step = .one a) : a.Smaller t :=
  step_smaller (by simp [h, Step.next])

theorem smaller_left {t a b : Thread} {place : Place} (h : t.step = .two place a b) :
    a.Smaller t :=
  step_smaller (by simp [h, Step.next])

theorem smaller_right {t a b : Thread} {place : Place} (h : t.step = .two place a b) :
    b.Smaller t :=
  step_smaller (by simp [h, Step.next])

/-! ## Matching at one position -/

/-- The end of the most preferred way that leads to a match. -/
def first? (t : Thread) : Option Thread :=
  match _h : t.step with
  | .done => some t
  | .dead => none
  | .one a => a.first?
  | .two _ a b => a.first? <|> b.first?
termination_by (t.here.left, t.size)
decreasing_by
  · exact lex_of_smaller (smaller_one _h)
  · exact lex_of_smaller (smaller_left _h)
  · exact lex_of_smaller (smaller_right _h)

/-- The forks, each with a position, from which no way leads to a match. -/
abbrev Seen := Std.HashSet (Nat × Nat)

/-- The end of the most preferred way that leads to a match, found without trying again what is
known to fail, and all that is then known to fail. -/
def explore (t : Thread) (seen : Seen) : Option Thread × Seen :=
  match _h : t.step with
  | .done => (some t, seen)
  | .dead => (none, seen)
  | .one a => a.explore seen
  | .two place a b =>
    if seen.contains (place.number, t.here.pos) then (none, seen)
    else
      match a.explore seen with
      | (some f, seen) => (some f, seen)
      | (none, seen) =>
        match b.explore seen with
        | (some f, seen) => (some f, seen)
        | (none, seen) => (none, seen.insert (place.number, t.here.pos))
termination_by (t.here.left, t.size)
decreasing_by
  · exact lex_of_smaller (smaller_one _h)
  · exact lex_of_smaller (smaller_left _h)
  · exact lex_of_smaller (smaller_right _h)

/-- The thread that is about to match a route at a position. -/
def start (r : Route) (c : Cursor) : Thread := ⟨[.run r], c, [], []⟩

end Thread

/-! ## Searching a text -/

namespace Route

/-- The first match at or after a position. -/
def searchFrom (r : Route) (c : Cursor) (seen : Thread.Seen) : Option Found :=
  match (Thread.start r c).explore seen with
  | (some t, _) => some ⟨⟨c, t.here⟩, t.groups⟩
  | (none, seen) =>
    match _h : c.next? with
    | none => none
    | some next => r.searchFrom next seen
termination_by c.left
decreasing_by exact Cursor.left_next _h

/-- The first match at or after a position. -/
def search? (r : Route) (c : Cursor) : Option Found := r.searchFrom c ∅

/-- All matches from a position on, each behind the one before it. `matched` says whether a match
stopped at the position. -/
def matchesFrom (r : Route) (c : Cursor) (matched : Bool) : List Found :=
  match r.search? c with
  | none => []
  | some f =>
    if _h : f.span.stop.left < c.left then f :: r.matchesFrom f.span.stop true
    else
      let rest := match _hn : c.next? with
        | none => []
        | some next => r.matchesFrom next false
      if matched then rest else f :: rest
termination_by c.left
decreasing_by
  · exact _h
  · exact Cursor.left_next _hn

end Route

namespace Pattern

/-- All matches of a pattern in a text, each behind the one before it. -/
def findAll (p : Pattern) (text : List Char) : List Found :=
  (Route.ofNode p.body).matchesFrom (.start text) false

end Pattern

end EnvAudit
