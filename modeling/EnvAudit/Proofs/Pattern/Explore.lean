import EnvAudit.Proofs.Pattern.Ways

/-!
# EnvAudit.Proofs.Pattern.Explore

A search that remembers the forks from which no way led on finds the same match as one that tries
every way:

1. a route is *plain* if no place is watched and every round of a loop reads something;
2. the outcomes of a thread are those of the threads that its next step leads to
   (`Thread.outcomes_step`);
3. in a plain route whose places have different numbers, the number of a fork and the position tell
   whether a way leads on from there (`Task.reads_eq_of_bare`), so what is remembered of one thread
   holds of every other.

Main statement: `Thread.explore` ends as the first way at the position does (`Thread.explore_eq`).
-/

namespace EnvAudit

/-! ## Plain routes -/

namespace Route

/-- Whether the route can be passed without reading. -/
def nullable : Route → Bool
  | .empty | .edge _ => true
  | .chars _ => false
  | .group _ body => body.nullable
  | .seq first second => first.nullable && second.nullable
  | .fork _ first second => first.nullable || second.nullable
  | .loop _ once _ body => !once || body.nullable

/-- Whether no place is watched and every round of a loop reads something. -/
def plain : Route → Bool
  | .empty | .chars _ | .edge _ => true
  | .group _ body => body.plain
  | .seq first second => first.plain && second.plain
  | .fork place first second => !place.watched && first.plain && second.plain
  | .loop place _ _ body => !place.watched && !body.nullable && body.plain

/-- A route that is not nullable reads something. -/
theorem read_ne_nil {r : Route} (h : r.nullable = false) {c : Cursor} {w : Way}
    (hw : w ∈ r.ways c) : w.read ≠ [] := by
  induction r generalizing c w with
  | empty => simp [nullable] at h
  | edge => simp [nullable] at h
  | chars set =>
    simp only [ways, Reading.one] at hw
    split at hw
    · simp at hw
    · split at hw <;> simp_all
  | group index body ih =>
    obtain ⟨v, hv, rfl⟩ := List.mem_map.1 hw
    show v.read ≠ []
    exact ih h hv
  | seq first second ih₁ ih₂ =>
    obtain ⟨u, hu, v, hv, rfl⟩ := Reading.mem_andThen.1 hw
    rcases Bool.and_eq_false_iff.1 h with h | h
    · simp [ih₁ h hu]
    · simp [ih₂ h hv]
  | fork place first second ih₁ ih₂ =>
    obtain ⟨h₁, h₂⟩ := Bool.or_eq_false_iff.1 h
    rcases List.mem_append.1 hw with hw | hw
    · exact ih₁ h₁ hw
    · exact ih₂ h₂ hw
  | loop place once greedy body ih =>
    obtain ⟨honce, hbody⟩ := Bool.or_eq_false_iff.1 h
    simp only [Bool.not_eq_false'] at honce
    simp only [ways, honce, if_true] at hw
    obtain ⟨u, hu, v, hv, rfl⟩ := Reading.mem_again₁.1 hw
    simp [ih hbody hu]

/-- The forks and loops of a route, each with what is still to do there, given what is to do after
the route. -/
def forks : Route → List Task → List (Nat × List Task)
  | .empty, _ | .chars _, _ | .edge _, _ => []
  | .group index body, after => body.forks (.close index default :: after)
  | .seq first second, after => first.forks (.run second :: after) ++ second.forks after
  | .fork place first second, after =>
    (place.number, .run (.fork place first second) :: after) ::
      (first.forks after ++ second.forks after)
  | .loop place _ greedy body, after =>
    (place.number, .again place greedy body 0 :: after) ::
      body.forks (.again place greedy body 0 :: after)

/-- The numbers of the places of a route. -/
def places : Route → List Nat
  | .empty | .chars _ | .edge _ => []
  | .group _ body => body.places
  | .seq first second => first.places ++ second.places
  | .fork place first second => place.number :: (first.places ++ second.places)
  | .loop place _ _ body => place.number :: body.places

theorem map_fst_forks (r : Route) (after : List Task) :
    (r.forks after).map Prod.fst = r.places := by
  induction r generalizing after with
  | empty | chars | edge => rfl
  | group index body ih => exact ih _
  | seq first second ih₁ ih₂ => simp [forks, places, ih₁, ih₂]
  | fork place first second ih₁ ih₂ => simp [forks, places, ih₁, ih₂]
  | loop place once greedy body ih => simp [forks, places, ih]

end Route

/-! ## Ways of tasks -/

namespace Task

/-- The ways of a task. -/
def ways : Task → Reading
  | .run r => r.ways
  | .close index entered => fun c => [⟨[], [(index, Span.text ⟨entered, c⟩)]⟩]
  | .again _ greedy body left => .goOn greedy body.ways left

/-- The ways of tasks one after the other. -/
def waysAll : List Task → Reading
  | [] => .still
  | t :: ts => t.ways.andThen (waysAll ts)

/-- The task without what does not matter to whether it leads to a match. -/
def bare : Task → Task
  | .run r => .run r
  | .close index _ => .close index default
  | .again place greedy body _ => .again place greedy body 0

/-- Whether what the task matches is plain. -/
def plain : Task → Bool
  | .run r => r.plain
  | .close _ _ => true
  | .again place _ body _ => !place.watched && !body.nullable && body.plain

/-- Whether each loop to go on with will have read something in its last round, when `left`
characters are left now. -/
def Ready (left : Nat) : List Task → Prop
  | [] => True
  | .run r :: after => ∀ m, m < left ∨ m = left ∧ r.nullable → Ready m after
  | .close _ _ :: after => Ready left after
  | .again _ _ _ left' :: after => left < left' ∧ Ready left after

/-- Whether `todo` tells what is still to do at each fork and loop of the tasks. -/
def Fits (todo : Nat → List Task) : List Task → Prop
  | [] => True
  | .run r :: after => (∀ f ∈ r.forks (after.map bare), todo f.1 = f.2) ∧ Fits todo after
  | .close _ _ :: after => Fits todo after
  | .again place greedy body _ :: after =>
    (∀ f ∈ (Route.loop place false greedy body).forks (after.map bare), todo f.1 = f.2) ∧
      Fits todo after

theorem Ready.mono {m n : Nat} (hmn : m ≤ n) {todo : List Task} (h : Ready n todo) :
    Ready m todo := by
  induction todo with
  | nil => trivial
  | cons t after ih =>
    cases t with
    | run r =>
      intro k hk
      rcases hk with hk | ⟨rfl, hr⟩
      · exact h k (.inl (by omega))
      · rcases Nat.lt_or_eq_of_le hmn with hlt | rfl
        · exact h k (.inl hlt)
        · exact h k (.inr ⟨rfl, hr⟩)
    | close => exact ih h
    | again => exact ⟨by have := h.1; omega, ih h.2⟩

/-- Behind what a route read, the loops to go on with are ready. -/
theorem Ready.behind {r : Route} {after : List Task} {c : Cursor}
    (h : Ready c.left (.run r :: after)) {v : Way} (hv : v ∈ r.ways c) :
    Ready (c.move v.read).left after := by
  have hlocal := r.local_ways c v hv
  by_cases hread : v.read = []
  · refine h _ (.inr ⟨by rw [hread, Cursor.move_nil], ?_⟩)
    cases hnull : r.nullable with
    | true => rfl
    | false => exact absurd hread (Route.read_ne_nil hnull hv)
  · exact h _ (.inl (Cursor.left_move_lt hlocal hread))

/-! ## Reaching the end does not depend on what was passed -/

/-- What is read by tasks that differ only in what does not matter. -/
theorem reads_eq_of_bare {todo todo' : List Task} (h : todo.map bare = todo'.map bare) {c : Cursor}
    (hr : Ready c.left todo) (hr' : Ready c.left todo') :
    (waysAll todo c).map Way.read = (waysAll todo' c).map Way.read := by
  induction todo generalizing todo' c with
  | nil =>
    rw [List.map_nil, eq_comm, List.map_eq_nil_iff] at h
    rw [h]
  | cons t after ih =>
    obtain ⟨t', after', rfl⟩ : ∃ t' after', todo' = t' :: after' := by
      cases todo' with
      | nil => simp at h
      | cons t' after' => exact ⟨t', after', rfl⟩
    simp only [List.map_cons, List.cons.injEq] at h
    obtain ⟨ht, hafter⟩ := h
    have hreads : ∀ d : Cursor, Ready d.left after → Ready d.left after' →
        (waysAll after d).map Way.read = (waysAll after' d).map Way.read :=
      fun d => ih hafter
    simp only [waysAll, Reading.andThen, List.map_flatMap, List.map_map]
    cases t with
    | run r =>
      cases t' with
      | run r' =>
        obtain rfl : r = r' := by simpa [bare] using ht
        refine List.flatMap_congr fun v hv => ?_
        have := congrArg (List.map (v.read ++ ·)) (hreads _ (hr.behind hv) (hr'.behind hv))
        simpa [Function.comp_def] using this
      | close => simp [bare] at ht
      | again => simp [bare] at ht
    | close index entered =>
      cases t' with
      | close index' entered' =>
        have := hreads c hr hr'
        simpa [ways, Function.comp_def] using this
      | run => simp [bare] at ht
      | again => simp [bare] at ht
    | again place greedy body left =>
      cases t' with
      | again place' greedy' body' left' =>
        simp only [bare, again.injEq, and_true] at ht
        obtain ⟨rfl, rfl, rfl⟩ := ht
        simp only [ways, Reading.goOn, hr.1, hr'.1, if_true]
        refine List.flatMap_congr fun v hv => ?_
        have hle := c.left_move_le v.read
        have := congrArg (List.map (v.read ++ ·)) (hreads _ (hr.2.mono hle) (hr'.2.mono hle))
        simpa [Function.comp_def] using this
      | run => simp [bare] at ht
      | close => simp [bare] at ht

end Task

/-! ## Outcomes of a thread -/

namespace Thread

/-- Where a thread ends and what its groups have read then. -/
abbrev Outcome := Cursor × List (Nat × List Char)

/-- What the groups have read, as texts. -/
def texts (groups : List (Nat × Span)) : List (Nat × List Char) :=
  groups.map fun g => (g.1, g.2.text)

/-- How a thread ends that goes a way. -/
def outcome (t : Thread) (w : Way) : Outcome := (t.here.move w.read, w.groups ++ texts t.groups)

/-- How a thread can end, the preferred way first. -/
def outcomes (t : Thread) : List Outcome := (Task.waysAll t.todo t.here).map t.outcome

/-- A place that is not watched is always passed. -/
theorem pass_of_not_watched {t : Thread} {place : Place} (h : place.watched = false)
    (onward : Thread → Step) : t.pass place onward = onward t := by
  simp [pass, h]

/-- Going round a loop, or leaving it. -/
theorem outcomes_round (t : Thread) (place : Place) (greedy : Bool) (body : Route)
    (after : List Task) :
    (t.round place greedy body after).next.flatMap outcomes =
      ((body.ways.again greedy).andThen (Task.waysAll after) t.here).map t.outcome := by
  have hinner : Task.waysAll (.run body :: .again place greedy body t.here.left :: after) t.here =
      (body.ways.again₁ greedy).andThen (Task.waysAll after) t.here := by
    simp only [Task.waysAll, Task.ways, ← Reading.andThen_assoc]
    rfl
  cases greedy with
  | true =>
    simp only [Reading.again_eq, Reading.optional, if_true, Reading.orElse_andThen,
      Reading.still_andThen, round, Step.next, List.flatMap_cons, List.flatMap_nil, List.append_nil,
      outcomes, hinner, Reading.orElse, List.map_append]
    rfl
  | false =>
    simp only [Reading.again_eq, Reading.optional, Bool.false_eq_true, if_false,
      Reading.orElse_andThen, Reading.still_andThen, round, Step.next, List.flatMap_cons,
      List.flatMap_nil, List.append_nil, outcomes, hinner, Reading.orElse, List.map_append]
    rfl

/-- A thread with something to do ends as the threads do that its next step leads to. -/
theorem outcomes_step {t : Thread} (hplain : ∀ task ∈ t.todo, task.plain) (hne : t.todo ≠ []) :
    t.outcomes = t.step.next.flatMap outcomes := by
  obtain ⟨todo, here, groups, trail⟩ := t
  match todo with
  | [] => exact absurd rfl hne
  | .close index entered :: after =>
    simp [step, Step.next, outcomes, Task.waysAll, Task.ways, Reading.andThen, outcome, texts,
      Function.comp_def]
  | .run .empty :: after =>
    simp [step, Step.next, outcomes, Task.waysAll, Task.ways, Route.ways, Reading.still_andThen,
      outcome]
  | .run (.chars set) :: after =>
    simp only [outcomes, Task.waysAll, Task.ways, Route.ways, Reading.andThen, Reading.one, step]
    cases hrest : here.rest with
    | nil => simp [Step.next]
    | cons x xs =>
      simp only [Cursor.next_eq_move hrest]
      cases set.contains x
      · simp [Step.next]
      · simp [Step.next, outcomes, outcome, Function.comp_def]
        exact fun w _ => here.move_append [x] w.read
  | .run (.edge e) :: after =>
    simp only [outcomes, Task.waysAll, Task.ways, Route.ways, Reading.andThen, Reading.edge, step]
    split
    · simp [Step.next, outcomes, outcome, Function.comp_def]
    · simp [Step.next]
  | .run (.group index body) :: after =>
    have hways : Task.waysAll (.run (.group index body) :: after) here =
        Task.waysAll (.run body :: .close index here :: after) here := by
      simp only [Task.waysAll, Task.ways, Route.ways, Reading.andThen, Reading.remember,
        List.flatMap_map]
      refine List.flatMap_congr fun v hv => ?_
      have htext := Cursor.text_move (body.local_ways here v hv)
      simp [htext, Way.append, Function.comp_def]
    simp [step, Step.next, outcomes, hways, outcome]
  | .run (.seq first second) :: after =>
    simp [step, Step.next, outcomes, Task.waysAll, Task.ways, Route.ways, Reading.andThen_assoc,
      outcome]
  | .run (.fork place first second) :: after =>
    have hwatched : place.watched = false := by
      have := hplain _ List.mem_cons_self
      simp_all [Task.plain, Route.plain]
    simp only [step, pass_of_not_watched hwatched, Step.next, outcomes, Task.waysAll, Task.ways,
      Route.ways, Reading.orElse_andThen, Reading.orElse, List.map_append, List.flatMap_cons,
      List.flatMap_nil, List.append_nil]
    rfl
  | .run (.loop place once greedy body) :: after =>
    have hwatched : place.watched = false := by
      have := hplain _ List.mem_cons_self
      simp_all [Task.plain, Route.plain]
    cases once with
    | true =>
      simp only [step, if_true, Step.next, List.flatMap_cons, List.flatMap_nil, List.append_nil,
        outcomes, Task.waysAll, Task.ways, Route.ways, ← Reading.andThen_assoc]
      rfl
    | false =>
      simp only [step, Bool.false_eq_true, if_false, pass_of_not_watched hwatched, outcomes_round]
      rfl
  | .again place greedy body left :: after =>
    have hwatched : place.watched = false := by
      have := hplain _ List.mem_cons_self
      simp_all [Task.plain]
    simp only [step, pass_of_not_watched hwatched]
    split
    · next hlt =>
      rw [outcomes_round]
      simp only [outcomes, Task.waysAll, Task.ways, Reading.andThen, Reading.goOn, hlt, if_true]
    · next hge =>
      have hid : Way.still.append = id := funext Way.still_append
      simp only [Step.next, List.flatMap_cons, List.flatMap_nil, List.append_nil, outcomes,
        Task.waysAll, Task.ways, Reading.andThen, Reading.goOn, hge, if_false]
      simp [hid, outcome]

end Thread

/-! ## Staying on the tasks of a route -/

namespace Cursor

/-- Whether a position is reached from another by reading on. -/
def Ahead (origin c : Cursor) : Prop := ∃ xs, xs <+: origin.rest ∧ c = origin.move xs

theorem Ahead.refl (c : Cursor) : c.Ahead c := ⟨[], List.nil_prefix, c.move_nil.symm⟩

theorem Ahead.move {origin c : Cursor} (h : origin.Ahead c) {xs : List Char} (hxs : xs <+: c.rest) :
    origin.Ahead (c.move xs) := by
  obtain ⟨ys, hys, rfl⟩ := h
  exact ⟨ys ++ xs, prefix_append_of_move hys hxs, (origin.move_append ys xs).symm⟩

/-- How much was read tells the position. -/
theorem Ahead.eq_of_pos {origin c d : Cursor} (hc : origin.Ahead c) (hd : origin.Ahead d)
    (h : c.pos = d.pos) : c = d := by
  obtain ⟨xs, hxs, rfl⟩ := hc
  obtain ⟨ys, hys, rfl⟩ := hd
  have hlength : xs.length = ys.length := by simpa using h
  have : xs = ys := by
    rw [List.prefix_iff_eq_take.1 hxs, List.prefix_iff_eq_take.1 hys, hlength]
  rw [this]

end Cursor

namespace Thread

/-- What stays true of a thread: `todo` tells what is to do at each fork and loop, all of which are
plain, and the loops to go on with are ready. -/
structure OnTrack (todo : Nat → List Task) (origin : Cursor) (t : Thread) : Prop where
  ahead : origin.Ahead t.here
  plain : ∀ task ∈ t.todo, task.plain
  fits : Task.Fits todo t.todo
  ready : Task.Ready t.here.left t.todo

namespace OnTrack

variable {todo : Nat → List Task} {origin : Cursor} {t a b : Thread} {place : Place}

/-- A round of a loop leads from the loop into its body or behind the loop. -/
theorem round {greedy : Bool} {body : Route} {after : List Task} (hahead : origin.Ahead t.here)
    (hbody : (Task.again place greedy body 0).plain) (hplain : ∀ task ∈ after, task.plain)
    (hloop : ∀ f ∈ (Route.loop place false greedy body).forks (after.map Task.bare),
      todo f.1 = f.2)
    (hfits : Task.Fits todo after) (hready : Task.Ready t.here.left after)
    (ha : a ∈ (t.round place greedy body after).next) : a.OnTrack todo origin := by
  have hnull : body.nullable = false := by simp_all [Task.plain]
  have hinner : OnTrack todo origin
      { t with todo := .run body :: .again place greedy body t.here.left :: after } := by
    refine ⟨hahead, ?_, ⟨fun f hf => hloop f (List.mem_cons_of_mem _ hf), hloop, hfits⟩, ?_⟩
    · simp_all [Task.plain]
    · rintro m (hm | ⟨-, hm⟩)
      · exact ⟨hm, hready.mono (Nat.le_of_lt hm)⟩
      · simp [hnull] at hm
  have houter : OnTrack todo origin { t with todo := after } := ⟨hahead, hplain, hfits, hready⟩
  unfold Thread.round at ha
  cases greedy <;> simp only [Step.next, if_true, if_false, Bool.false_eq_true, List.mem_cons,
    List.not_mem_nil, or_false] at ha <;> rcases ha with rfl | rfl <;> assumption

/-- A step keeps a thread on track. -/
theorem step (h : t.OnTrack todo origin) (ha : a ∈ t.step.next) : a.OnTrack todo origin := by
  obtain ⟨tasks, here, groups, trail⟩ := t
  obtain ⟨hahead, hplain, hfits, hready⟩ := h
  cases tasks with
  | nil => simp [Thread.step, Step.next] at ha
  | cons task after =>
    have htask : task.plain := hplain task List.mem_cons_self
    have hafter : ∀ u ∈ after, u.plain := fun u hu => hplain u (List.mem_cons_of_mem _ hu)
    simp only at hahead hfits hready
    cases task with
    | close index entered =>
      simp only [Thread.step, Step.next, List.mem_singleton] at ha
      subst ha
      exact ⟨hahead, hafter, hfits, hready⟩
    | again place greedy body left =>
      have hwatched : place.watched = false := by simp_all [Task.plain]
      simp only [Thread.step, pass_of_not_watched hwatched] at ha
      split at ha
      · exact round hahead htask hafter hfits.1 hfits.2 hready.2 ha
      · simp only [Step.next, List.mem_singleton] at ha
        subst ha
        exact ⟨hahead, hafter, hfits.2, hready.2⟩
    | run r =>
      obtain ⟨hforks, hfits⟩ := hfits
      cases r with
      | empty =>
        simp only [Thread.step, Step.next, List.mem_singleton] at ha
        subst ha
        exact ⟨hahead, hafter, hfits, hready _ (.inr ⟨rfl, rfl⟩)⟩
      | chars set =>
        simp only [Thread.step] at ha
        split at ha
        · next x xs next hrest hnext =>
          split at ha
          · simp only [Step.next, List.mem_singleton] at ha
            subst ha
            have hmove : next = here.move [x] := by
              rw [Cursor.next_eq_move hrest] at hnext
              exact (Option.some.inj hnext).symm
            have hx : [x] <+: here.rest := by simp [hrest]
            refine ⟨hmove ▸ hahead.move hx, hafter, hfits, hready _ (.inl ?_)⟩
            exact hmove ▸ Cursor.left_move_lt hx (by simp)
          · simp [Step.next] at ha
        · simp [Step.next] at ha
      | edge e =>
        simp only [Thread.step] at ha
        split at ha
        · simp only [Step.next, List.mem_singleton] at ha
          subst ha
          exact ⟨hahead, hafter, hfits, hready _ (.inr ⟨rfl, rfl⟩)⟩
        · simp [Step.next] at ha
      | group index body =>
        simp only [Thread.step, Step.next, List.mem_singleton] at ha
        subst ha
        refine ⟨hahead, ?_, ⟨hforks, hfits⟩, hready⟩
        simp_all [Task.plain, Route.plain]
      | seq first second =>
        simp only [Thread.step, Step.next, List.mem_singleton] at ha
        subst ha
        refine ⟨hahead, ?_, ⟨fun f hf => hforks f (List.mem_append_left _ hf),
          fun f hf => hforks f (List.mem_append_right _ hf), hfits⟩, ?_⟩
        · simp_all [Task.plain, Route.plain]
        · rintro m (hm | ⟨rfl, hfirst⟩) k (hk | ⟨rfl, hsecond⟩)
          · exact hready k (.inl (Nat.lt_trans hk hm))
          · exact hready k (.inl hm)
          · exact hready k (.inl hk)
          · exact hready _ (.inr ⟨rfl, by simp [Route.nullable, hfirst, hsecond]⟩)
      | fork place first second =>
        have hwatched : place.watched = false := by simp_all [Task.plain, Route.plain]
        simp only [Thread.step, pass_of_not_watched hwatched, Step.next, List.mem_cons,
          List.not_mem_nil, or_false] at ha
        simp only [Task.plain, Route.plain, Bool.and_eq_true] at htask
        rcases ha with rfl | rfl
        · refine ⟨hahead, ?_, ⟨fun f hf => hforks f ?_, hfits⟩, ?_⟩
          · exact List.forall_mem_cons.2 ⟨htask.1.2, hafter⟩
          · exact List.mem_cons_of_mem _ (List.mem_append_left _ hf)
          · exact fun m hm =>
              hready m (hm.imp_right fun hm => ⟨hm.1, by simp [Route.nullable, hm.2]⟩)
        · refine ⟨hahead, ?_, ⟨fun f hf => hforks f ?_, hfits⟩, ?_⟩
          · exact List.forall_mem_cons.2 ⟨htask.2, hafter⟩
          · exact List.mem_cons_of_mem _ (List.mem_append_right _ hf)
          · exact fun m hm =>
              hready m (hm.imp_right fun hm => ⟨hm.1, by simp [Route.nullable, hm.2]⟩)
      | loop place once greedy body =>
        have hnull : body.nullable = false := by simp_all [Task.plain, Route.plain]
        have hwatched : place.watched = false := by simp_all [Task.plain, Route.plain]
        cases once with
        | true =>
          simp only [Thread.step, if_true, Step.next, List.mem_singleton] at ha
          subst ha
          refine ⟨hahead, ?_, ⟨fun f hf => hforks f (List.mem_cons_of_mem _ hf), hforks, hfits⟩, ?_⟩
          · simp_all [Task.plain, Route.plain]
          · rintro m (hm | ⟨-, hm⟩)
            · exact ⟨hm, hready m (.inl hm)⟩
            · simp [hnull] at hm
        | false =>
          simp only [Thread.step, Bool.false_eq_true, if_false, pass_of_not_watched hwatched] at ha
          exact round hahead htask hafter hforks hfits (hready _ (.inr ⟨rfl, rfl⟩)) ha

/-- Where a thread splits, `todo` tells what it has to do. -/
theorem split (h : t.OnTrack todo origin) (hstep : t.step = .two place a b) :
    ∃ tasks, tasks.map Task.bare = todo place.number ∧ Task.Ready t.here.left tasks ∧
      Task.waysAll tasks t.here = Task.waysAll t.todo t.here := by
  obtain ⟨tasks, here, groups, trail⟩ := t
  obtain ⟨hahead, hplain, hfits, hready⟩ := h
  have hround : ∀ (t : Thread) (q : Place) (greedy : Bool) (body : Route) (after : List Task),
      t.round q greedy body after = .two place a b → q = place := by
    intro t q greedy body after hround
    unfold Thread.round at hround
    cases greedy <;> simp_all
  cases tasks with
  | nil => simp [Thread.step] at hstep
  | cons task after =>
    have htask : task.plain := hplain task List.mem_cons_self
    simp only at hfits hready
    cases task with
    | close => simp [Thread.step] at hstep
    | again q greedy body left =>
      have hwatched : q.watched = false := by simp_all [Task.plain]
      simp only [Thread.step, pass_of_not_watched hwatched] at hstep
      split at hstep
      · obtain rfl := hround _ _ _ _ _ hstep
        exact ⟨.again q greedy body left :: after, (hfits.1 _ List.mem_cons_self).symm, hready, rfl⟩
      · cases hstep
    | run r =>
      obtain ⟨hforks, hfits⟩ := hfits
      cases r with
      | empty => simp [Thread.step] at hstep
      | chars =>
        simp only [Thread.step] at hstep
        split at hstep
        · split at hstep <;> cases hstep
        · cases hstep
      | edge =>
        simp only [Thread.step] at hstep
        split at hstep <;> cases hstep
      | group => simp [Thread.step] at hstep
      | seq => simp [Thread.step] at hstep
      | fork q first second =>
        have hwatched : q.watched = false := by simp_all [Task.plain, Route.plain]
        simp only [Thread.step, pass_of_not_watched hwatched, Step.two.injEq] at hstep
        obtain ⟨rfl, -⟩ := hstep
        exact ⟨.run (.fork q first second) :: after, (hforks _ List.mem_cons_self).symm,
          hready, rfl⟩
      | loop q once greedy body =>
        have hwatched : q.watched = false := by simp_all [Task.plain, Route.plain]
        cases once with
        | true => simp [Thread.step] at hstep
        | false =>
          simp only [Thread.step, Bool.false_eq_true, if_false, pass_of_not_watched hwatched]
            at hstep
          obtain rfl := hround _ _ _ _ _ hstep
          -- Entered from before, the loop goes on like one that has just read something.
          refine ⟨.again q greedy body (here.left + 1) :: after,
            (hforks _ List.mem_cons_self).symm,
            ⟨Nat.lt_succ_self _, hready _ (.inr ⟨rfl, rfl⟩)⟩, ?_⟩
          simp [Task.waysAll, Task.ways, Reading.andThen, Reading.goOn, Route.ways]

end OnTrack

/-! ## Exploring -/

/-- Whether no way leads on from the forks remembered, whichever thread comes to them. -/
def Barren (todo : Nat → List Task) (origin : Cursor) (seen : Seen) : Prop :=
  ∀ n p, (n, p) ∈ seen → ∀ tasks c, origin.Ahead c → c.pos = p → tasks.map Task.bare = todo n →
    Task.Ready c.left tasks → Task.waysAll tasks c = []

variable {todo : Nat → List Task} {origin : Cursor} {t a b : Thread} {place : Place} {seen : Seen}

theorem Barren.empty : Barren todo origin ∅ := by
  intro n p h
  simp at h

/-- A fork from which no way led on may be remembered. -/
theorem Barren.insert (hseen : Barren todo origin seen) (h : t.OnTrack todo origin)
    (hstep : t.step = .two place a b) (hnone : t.outcomes = []) :
    Barren todo origin (seen.insert (place.number, t.here.pos)) := by
  intro n p hmem tasks c hahead hpos htasks hready
  rcases Std.HashSet.mem_insert.1 hmem with heq | hmem
  · simp only [beq_iff_eq, Prod.mk.injEq] at heq
    obtain ⟨rfl, rfl⟩ := heq
    obtain rfl : c = t.here := hahead.eq_of_pos h.ahead hpos
    obtain ⟨tasks', htasks', hready', hways⟩ := h.split hstep
    have hreads := Task.reads_eq_of_bare (htasks.trans htasks'.symm) hready hready'
    rw [hways, List.map_eq_nil_iff.1 hnone] at hreads
    exact List.map_eq_nil_iff.1 hreads
  · exact hseen n p hmem tasks c hahead hpos htasks hready

/-- A thread has matched only when nothing is left to do. -/
theorem step_eq_done_iff : t.step = .done ↔ t.todo = [] := by
  obtain ⟨tasks, here, groups, trail⟩ := t
  have hround : ∀ (t : Thread) (q : Place) (greedy : Bool) (body : Route) (after : List Task),
      t.round q greedy body after ≠ .done := by
    intro t q greedy body after
    cases greedy <;> simp [Thread.round]
  have hpass : ∀ (t : Thread) (q : Place) (onward : Thread → Step),
      (∀ u, onward u ≠ .done) → t.pass q onward ≠ .done := by
    intro t q onward honward
    unfold pass
    split
    · split
      · simp
      · exact honward _
    · exact honward _
  constructor
  · intro h
    match tasks with
    | [] => rfl
    | .close _ _ :: _ | .run .empty :: _ | .run (.group _ _) :: _ | .run (.seq _ _) :: _ =>
      simp [Thread.step] at h
    | .run (.chars _) :: _ =>
      simp only [Thread.step] at h
      split at h
      · split at h <;> cases h
      · cases h
    | .run (.edge _) :: _ =>
      simp only [Thread.step] at h
      split at h <;> cases h
    | .run (.fork _ _ _) :: _ =>
      simp only [Thread.step] at h
      exact (hpass _ _ _ (fun _ => by simp) h).elim
    | .run (.loop _ true _ _) :: _ => simp [Thread.step] at h
    | .run (.loop _ false _ _) :: _ =>
      simp only [Thread.step, Bool.false_eq_true, if_false] at h
      exact (hpass _ _ _ (fun _ => hround _ _ _ _ _) h).elim
    | .again _ _ _ _ :: _ =>
      simp only [Thread.step] at h
      refine (hpass _ _ _ (fun _ => ?_) h).elim
      split
      · exact hround _ _ _ _ _
      · simp
  · rintro rfl
    rfl

/-- Exploring ends as the preferred way does, and remembers only forks from which no way leads
on. -/
theorem explore_eq (h : t.OnTrack todo origin) (hseen : Barren todo origin seen) :
    (t.explore seen).1.map (fun f => f.outcome .still) = t.outcomes.head? ∧
      ((t.explore seen).1 = none → Barren todo origin (t.explore seen).2) := by
  have hsplit : ∀ t : Thread, t.OnTrack todo origin → t.step ≠ .done →
      t.outcomes = t.step.next.flatMap outcomes :=
    fun t h hstep => outcomes_step h.plain fun htodo => hstep (step_eq_done_iff.2 htodo)
  fun_induction Thread.explore t seen with
  | case1 t seen hstep =>
    simp [outcomes, step_eq_done_iff.1 hstep, Task.waysAll, Reading.still]
  | case2 t seen hstep =>
    simp [hsplit t h (by simp [hstep]), hstep, Step.next, hseen]
  | case3 t seen a hstep ih =>
    have ha : a.OnTrack todo origin := h.step (by simp [hstep, Step.next])
    simpa [hsplit t h (by simp [hstep]), hstep, Step.next] using ih ha hseen
  | case4 t seen place a b hstep hmem =>
    obtain ⟨tasks, htasks, hready, hways⟩ := h.split hstep
    have hnone :=
      hseen _ _ (Std.HashSet.mem_iff_contains.2 hmem) tasks t.here h.ahead rfl htasks hready
    simp [outcomes, ← hways, hnone, hseen]
  | case5 t seen place a b hstep hmem f seen' hexplore ih =>
    have ha : a.OnTrack todo origin := h.step (by simp [hstep, Step.next])
    have hfirst := (ih ha hseen).1
    rw [hexplore, Option.map_some, eq_comm] at hfirst
    simp [hsplit t h (by simp [hstep]), hstep, Step.next, List.head?_append, hfirst]
  | case6 t seen place a b hstep hmem seen' hexplore f seen'' hexplore' iha ihb =>
    have ha : a.OnTrack todo origin := h.step (by simp [hstep, Step.next])
    have hb : b.OnTrack todo origin := h.step (by simp [hstep, Step.next])
    have hfirst := iha ha hseen
    rw [hexplore] at hfirst
    have hsecond := ihb hb (hfirst.2 rfl)
    rw [hexplore'] at hsecond
    simp [hsplit t h (by simp [hstep]), hstep, Step.next, List.head?_append, ← hfirst.1,
      ← hsecond.1]
  | case7 t seen place a b hstep hmem seen' hexplore seen'' hexplore' iha ihb =>
    have ha : a.OnTrack todo origin := h.step (by simp [hstep, Step.next])
    have hb : b.OnTrack todo origin := h.step (by simp [hstep, Step.next])
    have hfirst := iha ha hseen
    rw [hexplore] at hfirst
    have hsecond := ihb hb (hfirst.2 rfl)
    rw [hexplore'] at hsecond
    have hnone : t.outcomes = [] := by
      have hanil : a.outcomes = [] := by simpa using hfirst.1.symm
      have hbnil : b.outcomes = [] := by simpa using hsecond.1.symm
      simp [hsplit t h (by simp [hstep]), hstep, Step.next, hanil, hbnil]
    exact ⟨by simp [hnone], fun _ => (hsecond.2 rfl).insert h hstep hnone⟩

end Thread

end EnvAudit
