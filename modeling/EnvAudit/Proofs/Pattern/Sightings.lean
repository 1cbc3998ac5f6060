import EnvAudit.Proofs.Pattern.Explore

/-!
# EnvAudit.Proofs.Pattern.Sightings

All matches of a pattern in a text, told from the ways of the pattern at each position:

1. a pattern is *regular* if its route is plain, no two places have the same number, and it cannot
   be passed without reading; whether it is can be computed;
2. `Reading.sightings` goes through a text from position to position: where there is a way, the
   preferred one is taken and the text goes on behind it.

Main statement: the matches of a regular pattern are its sightings (`Pattern.map_view_findAll`).
-/

namespace EnvAudit

/-! ## Regular routes -/

/-- Whether a search for the route is told by the ways of the route. -/
def Route.regular (r : Route) : Bool := r.plain && !r.nullable && decide r.places.Nodup

/-- Whether a search for the pattern is told by the ways of the pattern. -/
def Node.regular (node : Node) : Bool := (Route.ofNode node).regular

namespace Route

theorem exists_todo {l : List (Nat × List Task)} (h : (l.map Prod.fst).Nodup) :
    ∃ todo : Nat → List Task, ∀ f ∈ l, todo f.1 = f.2 := by
  induction l with
  | nil => exact ⟨fun _ => [], by simp⟩
  | cons f l ih =>
    simp only [List.map_cons, List.nodup_cons] at h
    obtain ⟨todo, htodo⟩ := ih h.2
    refine ⟨fun n => if n = f.1 then f.2 else todo n, fun g hg => ?_⟩
    rcases List.mem_cons.1 hg with rfl | hg
    · simp
    · have hne : g.1 ≠ f.1 := fun heq => h.1 (heq ▸ List.mem_map_of_mem hg)
      simp [hne, htodo g hg]

/-- A thread about to match a plain route is on track. -/
theorem onTrack_start {r : Route} {todo : Nat → List Task} (hplain : r.plain)
    (htodo : ∀ f ∈ r.forks [], todo f.1 = f.2) {origin c : Cursor} (hc : origin.Ahead c) :
    (Thread.start r c).OnTrack todo origin :=
  ⟨hc, by simpa [Thread.start, Task.plain] using hplain, ⟨htodo, trivial⟩, fun _ _ => trivial⟩

/-- A thread that starts on a route ends where the ways of the route do. -/
theorem outcomes_start (r : Route) (c : Cursor) :
    (Thread.start r c).outcomes = (r.ways c).map fun w => (c.move w.read, w.groups) := by
  have hstill : r.ways.andThen .still = r.ways := by
    funext d
    simp [Reading.andThen, Reading.still]
  simp only [Thread.outcomes, Thread.start, Task.waysAll, Task.ways, hstill]
  simp [Thread.outcome, Thread.texts]

end Route

/-! ## Sightings -/

/-- Where a match is, and what its groups have read. -/
abbrev Sighting := Span × List (Nat × List Char)

/-- A match with what its groups have read. -/
def Found.view (f : Found) : Sighting := (f.span, Thread.texts f.groups)

namespace Reading

/-- The first match at or behind a position. -/
def first? (a : Reading) (c : Cursor) : Option Sighting :=
  match (a c).head? with
  | some w => some (⟨c, c.move w.read⟩, w.groups)
  | none =>
    match _h : c.rest with
    | [] => none
    | x :: _ => a.first? (c.move [x])
termination_by c.left
decreasing_by exact Cursor.left_move_lt (by simp [_h]) (by simp)

/-- All matches from a position on, each behind the one before it. -/
def sightings (a : Reading) (c : Cursor) : List Sighting :=
  match (a c).head? with
  | some w =>
    if _h : (c.move w.read).left < c.left then
      (⟨c, c.move w.read⟩, w.groups) :: a.sightings (c.move w.read)
    else []
  | none =>
    match _h : c.rest with
    | [] => []
    | x :: _ => a.sightings (c.move [x])
termination_by c.left
decreasing_by
  · exact _h
  · exact Cursor.left_move_lt (by simp [_h]) (by simp)

variable {a : Reading} {c : Cursor}

/-- Where there is a way, the preferred one is taken. -/
theorem sightings_of_head (ha : a.Moving) {w : Way} (hw : (a c).head? = some w) :
    a.sightings c = (⟨c, c.move w.read⟩, w.groups) :: a.sightings (c.move w.read) := by
  rw [sightings, hw]
  simp [ha.left_lt (List.mem_of_mem_head? hw)]

/-- Where there is no way, the next position is tried. -/
theorem sightings_skip {x : Char} {xs : List Char} (hc : a c = []) (hrest : c.rest = x :: xs) :
    a.sightings c = a.sightings (c.move [x]) := by
  rw [sightings, hc, List.head?_nil]
  simp only
  split
  · next h => simp [h] at hrest
  · next y ys h =>
    rw [hrest, List.cons.injEq] at h
    rw [h.1]

/-- At the end of the text nothing more is sighted. -/
theorem sightings_end (hc : a c = []) (hrest : c.rest = []) : a.sightings c = [] := by
  rw [sightings, hc, List.head?_nil]
  simp only
  split
  · rfl
  · next h => simp [h] at hrest

/-- The sightings are the first one and those behind it. -/
theorem sightings_eq_first (ha : a.Moving) (c : Cursor) :
    a.sightings c = match a.first? c with
      | none => []
      | some s => s :: a.sightings s.1.stop := by
  fun_induction first? a c with
  | case1 c w hw => rw [sightings_of_head ha hw]
  | case2 c hnone hrest => rw [sightings_end (List.head?_eq_none_iff.1 hnone) hrest]
  | case3 c hnone x xs hrest ih =>
    rw [sightings_skip (List.head?_eq_none_iff.1 hnone) hrest, ih]

/-- Behind a sighting less of the text is left. -/
theorem first_left_lt (ha : a.Moving) {s : Sighting} (h : a.first? c = some s) :
    s.1.stop.left < c.left := by
  fun_induction first? a c with
  | case1 c w hw =>
    cases h
    exact ha.left_lt (List.mem_of_mem_head? hw)
  | case2 => cases h
  | case3 c hnone x xs hrest ih => exact Nat.lt_of_lt_of_le (ih h) (c.left_move_le [x])

end Reading

/-! ## Searching -/

namespace Route

/-- A search finds what the ways at each position tell. -/
theorem view_searchFrom {r : Route} {todo : Nat → List Task} (hplain : r.plain)
    (htodo : ∀ f ∈ r.forks [], todo f.1 = f.2) {origin c : Cursor} (hc : origin.Ahead c)
    {seen : Thread.Seen} (hseen : Thread.Barren todo origin seen) :
    (r.searchFrom c seen).map Found.view = r.ways.first? c := by
  induction hn : c.left using Nat.strongRecOn generalizing c seen with
  | ind n ih =>
    have hexplore := Thread.explore_eq (onTrack_start hplain htodo hc) hseen
    rw [outcomes_start, List.head?_map] at hexplore
    rw [searchFrom, Reading.first?]
    cases hways : (r.ways c).head? with
    | some w =>
      rw [hways, Option.map_some, Option.map_eq_some_iff] at hexplore
      obtain ⟨⟨t, ht, hout⟩, -⟩ := hexplore
      simp only [Thread.outcome, Way.read_still, Cursor.move_nil, Way.groups_still,
        List.nil_append, Prod.mk.injEq] at hout
      split
      · next t' seen' heq =>
        obtain rfl : t' = t := by simpa [heq] using ht
        simp [Found.view, hout]
      · next seen' heq => simp [heq] at ht
    | none =>
      rw [hways, Option.map_none, Option.map_eq_none_iff] at hexplore
      obtain ⟨hnone, hseen'⟩ := hexplore
      split
      · next t' seen' heq => simp [heq] at hnone
      · next seen' heq =>
        rw [heq] at hseen'
        split
        · next hnext =>
          have hrest : c.rest = [] := by
            cases hrest : c.rest with
            | nil => rfl
            | cons x xs => simp [Cursor.next_eq_move hrest] at hnext
          simp only
          split
          · rfl
          · next h => simp [h] at hrest
        · next next hnext =>
          simp only
          split
          · next h => simp [Cursor.next?, h] at hnext
          · next x xs hrest =>
            obtain rfl : c.move [x] = next := by
              rw [Cursor.next_eq_move hrest] at hnext
              exact Option.some.inj hnext
            have hx : [x] <+: c.rest := by simp [hrest]
            exact ih _ (hn ▸ Cursor.left_move_lt hx (by simp)) (hc.move hx) (hseen' rfl) rfl

/-- A route that is not nullable moves on. -/
theorem moving_ways {r : Route} (h : r.nullable = false) : r.ways.Moving :=
  ⟨r.local_ways, fun _ _ => read_ne_nil h⟩

variable {r : Route}

/-- The search finds the first sighting. -/
theorem view_search (h : r.regular) (c : Cursor) :
    (r.search? c).map Found.view = r.ways.first? c := by
  simp only [regular, Bool.and_eq_true, decide_eq_true_eq] at h
  obtain ⟨todo, htodo⟩ := exists_todo (l := r.forks []) (by rw [map_fst_forks]; exact h.2)
  exact view_searchFrom h.1.1 htodo (.refl c) .empty

/-- The matches of a regular route are its sightings. -/
theorem map_view_matchesFrom (h : r.regular) (c : Cursor) (matched : Bool) :
    (r.matchesFrom c matched).map Found.view = r.ways.sightings c := by
  have hmoving : r.ways.Moving := moving_ways (by simp_all [regular])
  induction hn : c.left using Nat.strongRecOn generalizing c matched with
  | ind n ih =>
    have hview := view_search h c
    rw [matchesFrom, Reading.sightings_eq_first hmoving]
    cases hsearch : r.search? c with
    | none =>
      rw [hsearch, Option.map_none] at hview
      simp [← hview]
    | some f =>
      rw [hsearch, Option.map_some] at hview
      have hlt : f.span.stop.left < c.left := Reading.first_left_lt hmoving hview.symm
      simp only [← hview, dif_pos hlt, List.map_cons]
      rw [ih _ (hn ▸ hlt) f.span.stop true rfl]
      rfl

end Route

namespace Pattern

/-- A regular pattern matches no empty text. -/
theorem moving_ways {p : Pattern} (h : p.body.regular) : p.body.ways.Moving := by
  rw [← Route.ways_ofNode]
  exact Route.moving_ways (by simp_all [Node.regular, Route.regular])

/-- The matches of a regular pattern are its sightings. -/
theorem map_view_findAll {p : Pattern} (h : p.body.regular) (text : List Char) :
    (p.findAll text).map Found.view = p.body.ways.sightings (.start text) := by
  rw [← Route.ways_ofNode]
  exact Route.map_view_matchesFrom h (.start text) false

end Pattern

end EnvAudit
