import EnvAudit.Proofs.Pattern.Ways
import EnvAudit.Proofs.Text.CharSet

/-!
# EnvAudit.Proofs.Pattern.Runs

Reading a run of characters of one set before something else:

1. if what follows cannot start with a character of the set, the whole run is read
   (`Reading.run_andThen`);
2. if what follows has a way behind the whole run, that is the preferred one
   (`Reading.head_remember_run₁_andThen`), and a lazy run reads as little as it may
   (`Reading.head_lazy_andThen`).
-/

namespace EnvAudit

/-- The way that reads a text without a group taking part. -/
def Way.ofText (xs : List Char) : Way := ⟨xs, []⟩

@[simp] theorem Way.read_ofText (xs : List Char) : (Way.ofText xs).read = xs := rfl
@[simp] theorem Way.groups_ofText (xs : List Char) : (Way.ofText xs).groups = [] := rfl
@[simp] theorem Way.ofText_nil : Way.ofText [] = .still := rfl

@[simp] theorem Way.ofText_append_ofText (xs ys : List Char) :
    (Way.ofText xs).append (.ofText ys) = .ofText (xs ++ ys) := by
  simp [append, ofText]

namespace Reading

/-- The ways of a reading behind a text. -/
def behind (xs : List Char) (a : Reading) : Reading := fun c =>
  (a (c.move xs)).map (Way.ofText xs).append

@[simp] theorem behind_nil (a : Reading) (c : Cursor) : a.behind [] c = a c := by
  have hid : Way.still.append = id := funext Way.still_append
  simp [behind, hid]

theorem behind_eq_andThen (xs : List Char) (a : Reading) :
    a.behind xs = andThen (fun _ => [.ofText xs]) a := by
  funext c
  simp [behind, andThen]

theorem behind_andThen (xs : List Char) (a b : Reading) :
    (a.behind xs).andThen b = (a.andThen b).behind xs := by
  simp only [behind_eq_andThen, andThen_assoc]

/-! ## Texts -/

theorem one_cons {set : CharSet} {c : Cursor} {x : Char} {xs : List Char} (h : c.rest = x :: xs) :
    one set c = if set.contains x then [.ofText [x]] else [] := by
  simp only [one, h]
  rfl

theorem one_nil {set : CharSet} {c : Cursor} (h : c.rest = []) : one set c = [] := by
  simp [one, h]

/-- One character of a set and what follows. -/
theorem one_andThen_cons {set : CharSet} (a : Reading) {c : Cursor} {x : Char} {xs : List Char}
    (h : c.rest = x :: xs) :
    (one set).andThen a c = if set.contains x then a.behind [x] c else [] := by
  simp only [andThen, one_cons h, behind]
  split <;> simp

/-- A text is read where it stands. -/
theorem text_eq (cs : List Char) (c : Cursor) :
    text cs c = if cs <+: c.rest then [.ofText cs] else [] := by
  fun_induction text cs generalizing c with
  | case1 => simp [still]
  | case2 x =>
    cases hrest : c.rest with
    | nil => simp [one_nil hrest]
    | cons y ys =>
      by_cases hy : y = x
      · simp [one_cons hrest, hy]
      · simp [one_cons hrest, hy, Ne.symm hy]
  | case3 x xs hxs ih =>
    cases hrest : c.rest with
    | nil => simp [andThen, one_nil hrest]
    | cons y ys =>
      have hmove : (c.move [y]).rest = ys := Cursor.rest_move (by simp [hrest])
      simp only [one_andThen_cons _ hrest, behind, ih, hmove, CharSet.contains_single, beq_iff_eq,
        List.cons_prefix_cons]
      by_cases hy : y = x
      · subst hy
        by_cases hpre : xs <+: ys <;> simp [hpre]
      · simp [hy, Ne.symm hy]

/-- Behind a text one reads on only where the text stands. -/
theorem text_andThen (cs : List Char) (a : Reading) (c : Cursor) :
    (text cs).andThen a c = if cs <+: c.rest then a.behind cs c else [] := by
  simp only [andThen, text_eq, behind]
  split <;> simp

theorem Moving.text {cs : List Char} (h : cs ≠ []) : Moving (.text cs) := by
  constructor <;> intro c w hw <;> rw [text_eq] at hw <;> split at hw <;> simp_all

/-! ## Runs -/

/-- A run of a set is empty where the next character is not in it. -/
theorem again_one_of_head {set : CharSet} {greedy : Bool} {c : Cursor}
    (h : ∀ x ∈ c.rest.head?, set.contains x = false) : again greedy (one set) c = [.still] := by
  have hone : one set c = [] := by
    cases hrest : c.rest with
    | nil => exact one_nil hrest
    | cons x xs => simp [one_cons hrest, h x (by simp [hrest])]
  rw [again_eq]
  cases greedy <;> simp [optional, orElse, still, again₁, andThen, hone]

/-- Reading at least one character of a run. -/
theorem again₁_one_cons {set : CharSet} {greedy : Bool} {c : Cursor} {x : Char} {xs : List Char}
    (hrest : c.rest = x :: xs) (hx : set.contains x) :
    again₁ greedy (one set) c = (again greedy (one set)).behind [x] c := by
  have hlt : (c.move [x]).left < c.left := Cursor.left_move_lt (by simp [hrest]) (by simp)
  rw [again₁, one_andThen_cons _ hrest, if_pos hx]
  simp [behind, goOn, hlt]

theorem again₁_one_of_head {set : CharSet} {greedy : Bool} {c : Cursor}
    (h : ∀ x ∈ c.rest.head?, set.contains x = false) : again₁ greedy (one set) c = [] := by
  cases hrest : c.rest with
  | nil => simp [again₁, andThen, one_nil hrest]
  | cons x xs => simp [again₁, andThen, one_cons hrest, h x (by simp [hrest])]

theorem again_one_of_nil {set : CharSet} {greedy : Bool} {c : Cursor} (h : c.rest = []) :
    again greedy (one set) c = [.still] :=
  again_one_of_head (by simp [h])

theorem again_one_cons_of_not {set : CharSet} {greedy : Bool} {c : Cursor} {x : Char}
    {xs : List Char} (h : c.rest = x :: xs) (hx : ¬set.contains x) :
    again greedy (one set) c = [.still] :=
  again_one_of_head (by simp [h, hx])

theorem again₁_one_of_nil {set : CharSet} {greedy : Bool} {c : Cursor} (h : c.rest = []) :
    again₁ greedy (one set) c = [] :=
  again₁_one_of_head (by simp [h])

theorem again₁_one_cons_of_not {set : CharSet} {greedy : Bool} {c : Cursor} {x : Char}
    {xs : List Char} (h : c.rest = x :: xs) (hx : ¬set.contains x) :
    again₁ greedy (one set) c = [] :=
  again₁_one_of_head (by simp [h, hx])

/-- A greedy run takes the next character if it can, and may still stop before it. -/
theorem again_one_cons {set : CharSet} {c : Cursor} {x : Char} {xs : List Char}
    (hrest : c.rest = x :: xs) (hx : set.contains x) :
    again true (one set) c = (again true (one set)).behind [x] c ++ [.still] := by
  rw [← again₁_one_cons hrest hx, again_eq]
  rfl

variable {set : CharSet} {a : Reading} {c : Cursor}

/-- A greedy run is read as a whole if nothing leads on from within it. -/
theorem flatMap_run {β : Type} (f : Way → List β)
    (hf : ∀ xs y, xs ++ [y] <+: c.rest → set.contains y → f (.ofText xs) = []) :
    (again true (one set) c).flatMap f = f (.ofText (c.rest.takeWhile set.contains)) := by
  induction hn : c.rest generalizing c f with
  | nil => simp [again_one_of_nil hn]
  | cons x xs ih =>
    by_cases hx : set.contains x
    · have hmove : (c.move [x]).rest = xs := Cursor.rest_move (by simp [hn])
      have hstill : f .still = [] := hf [] x (by simp [hn]) hx
      have hrec := ih (c := c.move [x]) (f := fun w => f ((Way.ofText [x]).append w)) (by
        intro ys y hys hy
        refine hf (x :: ys) y ?_ hy
        simpa [hn, hmove] using hys) hmove
      rw [again_one_cons hn hx, List.flatMap_append]
      simpa [behind, List.flatMap_map, hstill, hx] using hrec
    · simp [again_one_cons_of_not hn hx, hx]

/-- If only the longest run leads on, the others may be left out. -/
theorem flatMap_run₁ {β : Type} (f : Way → List β)
    (hf : ∀ xs y, xs ++ [y] <+: c.rest → set.contains y → f (.ofText xs) = []) :
    (again₁ true (one set) c).flatMap f =
      if c.rest.takeWhile set.contains = [] then []
      else f (.ofText (c.rest.takeWhile set.contains)) := by
  cases hn : c.rest with
  | nil => simp [again₁_one_of_nil hn]
  | cons x xs =>
    by_cases hx : set.contains x
    · have hmove : (c.move [x]).rest = xs := Cursor.rest_move (by simp [hn])
      have hf' : ∀ ys y, ys ++ [y] <+: (c.move [x]).rest → set.contains y →
          f ((Way.ofText [x]).append (.ofText ys)) = [] := by
        intro ys y hys hy
        refine hf (x :: ys) y ?_ hy
        simpa [hn, hmove] using hys
      have hrec := flatMap_run (fun w => f ((Way.ofText [x]).append w)) hf'
      rw [again₁_one_cons hn hx]
      simpa [behind, List.flatMap_map, hx, hmove] using hrec
    · simp [again₁_one_cons_of_not hn hx, hx]

/-- What cannot start with a character of the set leaves nothing of the run unread. -/
def Stops (set : CharSet) (a : Reading) : Prop :=
  ∀ c x xs, c.rest = x :: xs → set.contains x → a c = []

/-- What stops at a set does not start within a run of it. -/
theorem Stops.within (h : Stops set a) {xs : List Char} {y : Char} (hxs : xs ++ [y] <+: c.rest)
    (hy : set.contains y) : a (c.move xs) = [] := by
  obtain ⟨ys, hys⟩ := hxs
  exact h _ y ys (Cursor.rest_move (by simp [← hys])) hy

/-- Before something that stops at a set a greedy run takes all it can. -/
theorem run_andThen (h : Stops set a) :
    (again true (one set)).andThen a c = a.behind (c.rest.takeWhile set.contains) c := by
  refine flatMap_run _ fun xs y hxs hy => ?_
  simp [h.within hxs hy]

/-- The same for runs of at least one character. -/
theorem run₁_andThen (h : Stops set a) :
    (again₁ true (one set)).andThen a c =
      if c.rest.takeWhile set.contains = [] then []
      else a.behind (c.rest.takeWhile set.contains) c := by
  refine flatMap_run₁ _ fun xs y hxs hy => ?_
  simp [h.within hxs hy]

/-- The same for runs that a group remembers. -/
theorem remember_run₁_andThen (h : Stops set a) (index : Nat) :
    (remember index (again₁ true (one set))).andThen a c =
      if c.rest.takeWhile set.contains = [] then []
      else
        let run := c.rest.takeWhile set.contains
        (a (c.move run)).map (Way.mk run [(index, run)]).append := by
  simp only [andThen, remember, List.flatMap_map]
  refine flatMap_run₁ (fun w => (a (c.move w.read)).map
    (Way.mk w.read ((index, w.read) :: w.groups)).append) fun xs y hxs hy => ?_
  simp [h.within hxs hy]

/-- The first way of a greedy run is the longest. -/
theorem head_run :
    (again true (one set) c).head? = some (.ofText (c.rest.takeWhile set.contains)) := by
  induction hn : c.rest generalizing c with
  | nil => simp [again_one_of_nil hn]
  | cons x xs ih =>
    by_cases hx : set.contains x
    · have hmove : (c.move [x]).rest = xs := Cursor.rest_move (by simp [hn])
      simp [again_one_cons hn hx, behind, ih hmove, hx]
    · simp [again_one_cons_of_not hn hx, hx]

/-! ## Preferred ways -/

/-- The first way that leads on is the first of all. -/
theorem head_flatMap {β γ : Type} {l : List β} {w : β} (hw : l.head? = some w) {f : β → List γ}
    (hf : f w ≠ []) : (l.flatMap f).head? = (f w).head? := by
  obtain ⟨t, rfl⟩ := List.head?_eq_some_iff.1 hw
  obtain ⟨y, ys, hy⟩ := List.exists_cons_of_ne_nil hf
  simp [hy]

/-- A run is read as a whole if something leads on from behind it. -/
theorem head_remember_run₁_andThen (index : Nat) (hrun : c.rest.takeWhile set.contains ≠ [])
    (h : a (c.move (c.rest.takeWhile set.contains)) ≠ []) :
    ((remember index (again₁ true (one set))).andThen a c).head? =
      ((a (c.move (c.rest.takeWhile set.contains))).map (Way.mk (c.rest.takeWhile set.contains)
        [(index, c.rest.takeWhile set.contains)]).append).head? := by
  have hhead : (again₁ true (one set) c).head? =
      some (.ofText (c.rest.takeWhile set.contains)) := by
    cases hn : c.rest with
    | nil => simp [hn] at hrun
    | cons x xs =>
      have hx : set.contains x := by
        by_contra hx
        simp [hn, hx] at hrun
      have hmove : (c.move [x]).rest = xs := Cursor.rest_move (by simp [hn])
      simp [again₁_one_cons hn hx, behind, head_run, hmove, hx]
  simp only [andThen, remember, List.flatMap_map]
  exact head_flatMap hhead (f := fun w => (a (c.move w.read)).map
    (Way.mk w.read ((index, w.read) :: w.groups)).append) (by simpa using h)

/-- A lazy run is not read at all if something leads on from before it. -/
theorem head_lazy_andThen (h : a c ≠ []) :
    ((again false (one set)).andThen a c).head? = (a c).head? := by
  have hhead : (again false (one set) c).head? = some .still := by
    rw [again_eq]
    rfl
  have hmap : (a (c.move Way.still.read)).map Way.still.append = a c := behind_nil a c
  exact (head_flatMap hhead (f := fun v => (a (c.move v.read)).map v.append)
    (by rw [hmap]; exact h)).trans (by rw [hmap])

/-- A lazy run of at least one character ends behind the first one if something leads on from
there. -/
theorem head_lazy₁_andThen {x : Char} {xs : List Char} (hrest : c.rest = x :: xs)
    (hx : set.contains x) (h : a (c.move [x]) ≠ []) :
    ((again₁ false (one set)).andThen a c).head? = (a.behind [x] c).head? := by
  have hlazy : ((again false (one set)).andThen a (c.move [x])).head? = (a (c.move [x])).head? :=
    head_lazy_andThen h
  have hunfold : (again₁ false (one set)).andThen a c =
      ((again false (one set)).andThen a).behind [x] c := by
    rw [← behind_andThen]
    simp only [andThen, again₁_one_cons hrest hx]
  rw [hunfold, behind, behind, List.head?_map, List.head?_map, hlazy]

end Reading

end EnvAudit
