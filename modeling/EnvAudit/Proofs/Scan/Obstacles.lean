import EnvAudit.Proofs.Path
import EnvAudit.Proofs.Scan

/-!
# EnvAudit.Proofs.Scan.Obstacles

Where a scan stops:

1. a walk enters directories by their names, and by a link only a directory that it is not in yet
   (`FileSystem.Enters`); no way into directories is endless (`wellFounded_enters`);
2. an obstacle is what stops the walk, or a file that has to be read and cannot be
   (`FileSystem.Obstacle`, `FileSystem.ObstacleAt`); it is reported with its path, but for some
   directories that cannot be listed (`ObstacleAt.path_eq`);
3. what stops a scan is the first file that it fails to read, or else what stops its walk
   (`Scan.stop?`).

Main statement: a scan stops at the first obstacle in the order of the walk, which it reports, and
where there is none it finds what is in all files (`scan_stops_at_first_obstacle`). Such an obstacle
need not be a file or a link (`scan_fails_without_files_and_links`).
-/

namespace EnvAudit

/-! ## Entering directories -/

namespace FileSystem

/-- A walk that stands in a directory with some entries enters a directory by a name. -/
inductive Enters (fs : FileSystem) (s : Stand) (entries : List (String × Entry)) :
    String → Stand → List (String × Entry) → Prop
  | intro {name : String} {e : Entry} {goal : Location} {left : Nat} {search : Option Fault}
      {children : List (String × Entry)} :
      (name, e) ∈ entries → fs.Turns s name e (.dir goal left search children) →
      Enters fs s entries name (s.enter name goal left search) children

variable {fs : FileSystem}

/-- Names that lead from the entries of a directory where a walk stands to what stops a scan, and
what is reported of it; `claimed` says which files have to be read. -/
inductive Obstacle (fs : FileSystem) (claimed : Path → Prop) :
    Stand → List (String × Entry) → List String → Blocked → Prop
  | stop {s : Stand} {entries : List (String × Entry)} {name : String} {e : Entry} {b : Blocked} :
      (name, e) ∈ entries → fs.Stops s name e b → Obstacle fs claimed s entries [name] b
  | unread {s : Stand} {entries : List (String × Entry)} {name : String} {e : Entry} {f : Fault} :
      (name, e) ∈ entries → fs.Turns s name e (.file (.error f)) → claimed (s.child name) →
      Obstacle fs claimed s entries [name] ⟨s.child name, f⟩
  | within {s t : Stand} {entries children : List (String × Entry)} {name : String}
      {names : List String} {b : Blocked} :
      fs.Enters s entries name t children → Obstacle fs claimed t children names b →
      Obstacle fs claimed s entries (name :: names) b

variable {claimed : Path → Prop} {s : Stand} {entries : List (String × Entry)}
  {names : List String} {b : Blocked}

theorem Enters.mono {t : Stand} {a b children : List (String × Entry)} {name : String}
    (h : fs.Enters s a name t children) (hab : a ⊆ b) : fs.Enters s b name t children := by
  cases h with
  | intro hmem hturns => exact .intro (hab hmem) hturns

/-- An obstacle among entries is one among any that include them. -/
theorem Obstacle.mono {entries' : List (String × Entry)}
    (h : fs.Obstacle claimed s entries names b) (hsub : entries ⊆ entries') :
    fs.Obstacle claimed s entries' names b := by
  cases h with
  | stop hmem hstops => exact .stop (hsub hmem) hstops
  | unread hmem hturns hclaimed => exact .unread (hsub hmem) hturns hclaimed
  | within henters hobstacle => exact .within (henters.mono hsub) hobstacle

/-- The order of the entries does not matter to what the obstacles are. -/
theorem obstacle_sorted :
    fs.Obstacle claimed s (Entry.sorted entries) names b ↔ fs.Obstacle claimed s entries names b :=
  ⟨fun h => h.mono fun _ => Entry.mem_sorted.1, fun h => h.mono fun _ => Entry.mem_sorted.2⟩

/-- An obstacle is at or below one of the entries. -/
theorem Obstacle.exists_mem (h : fs.Obstacle claimed s entries names b) :
    ∃ p ∈ entries, names.head? = some p.1 ∧ fs.Obstacle claimed s [p] names b := by
  cases h with
  | stop hmem hstops => exact ⟨_, hmem, rfl, .stop (List.mem_singleton_self _) hstops⟩
  | unread hmem hturns hclaimed =>
    exact ⟨_, hmem, rfl, .unread (List.mem_singleton_self _) hturns hclaimed⟩
  | within henters hobstacle =>
    cases henters with
    | intro hmem hturns =>
      exact ⟨_, hmem, rfl, .within (.intro (List.mem_singleton_self _) hturns) hobstacle⟩

/-- An obstacle among entries is at the first or at the others. -/
theorem obstacle_cons {p : String × Entry} :
    fs.Obstacle claimed s (p :: entries) names b ↔
      fs.Obstacle claimed s [p] names b ∨ fs.Obstacle claimed s entries names b := by
  constructor
  · intro h
    obtain ⟨q, hq, -, hone⟩ := h.exists_mem
    rcases List.mem_cons.1 hq with rfl | hq
    · exact .inl hone
    · exact .inr (hone.mono (by simpa using hq))
  · rintro (h | h)
    · exact h.mono (by simp)
    · exact h.mono (by simp)

section One

variable {name : String} {e : Entry}

/-- What is at or below one entry, by what the walk comes to there. -/
theorem obstacle_singleton :
    fs.Obstacle claimed s [(name, e)] names b ↔
      (fs.turn s name e = .blocked b ∧ names = [name]) ∨
      (fs.turn s name e = .file (.error b.fault) ∧ b.path = s.child name ∧
        claimed (s.child name) ∧ names = [name]) ∨
      ∃ goal left search children, fs.turn s name e = .dir goal left search children ∧
        ∃ rest, names = name :: rest ∧
          fs.Obstacle claimed (s.enter name goal left search) children rest b := by
  have hself := List.mem_singleton_self (name, e)
  constructor
  · intro h
    cases h with
    | stop hmem hstops =>
      cases List.mem_singleton.1 hmem
      exact .inl ⟨turns_iff.1 (.blocked hstops), rfl⟩
    | unread hmem hturns hclaimed =>
      cases List.mem_singleton.1 hmem
      exact .inr (.inl ⟨turns_iff.1 hturns, rfl, hclaimed, rfl⟩)
    | within henters hobstacle =>
      cases henters with
      | intro hmem hturns =>
        cases List.mem_singleton.1 hmem
        exact .inr (.inr ⟨_, _, _, _, turns_iff.1 hturns, _, rfl, hobstacle⟩)
  · obtain ⟨path, f⟩ := b
    rintro (⟨hturn, rfl⟩ | ⟨hturn, rfl, hclaimed, rfl⟩ |
      ⟨goal, left, search, children, hturn, rest, rfl, hrest⟩)
    · cases turns_iff.2 hturn with
      | blocked hstops => exact .stop hself hstops
    · exact .unread hself (turns_iff.2 hturn) hclaimed
    · exact .within (.intro hself (turns_iff.2 hturn)) hrest

/-- At a name that is blocked the block is the only obstacle. -/
theorem obstacle_of_blocked {b' : Blocked} (hturn : fs.turn s name e = .blocked b') :
    fs.Obstacle claimed s [(name, e)] names b ↔ names = [name] ∧ b = b' := by
  simp [obstacle_singleton, hturn, and_comm, eq_comm]

/-- At a file the only obstacle is that it is claimed and cannot be read. -/
theorem obstacle_of_file {content : Except Fault Bytes} (hturn : fs.turn s name e = .file content) :
    fs.Obstacle claimed s [(name, e)] names b ↔
      names = [name] ∧ b.path = s.child name ∧ content = .error b.fault ∧
        claimed (s.child name) := by
  simp only [obstacle_singleton, hturn, Turn.file.injEq, reduceCtorEq, false_and, exists_const,
    false_or, or_false]
  tauto

/-- At a directory the obstacles are those in it, under its name. -/
theorem obstacle_of_dir {goal : Location} {left : Nat} {search : Option Fault}
    {children : List (String × Entry)} (hturn : fs.turn s name e = .dir goal left search children) :
    fs.Obstacle claimed s [(name, e)] names b ↔
      ∃ rest, names = name :: rest ∧
        fs.Obstacle claimed (s.enter name goal left search) children rest b := by
  simp [obstacle_singleton, hturn]

end One

/-! ## The first obstacle -/

/-- What stops a scan, where the names that lead to obstacles are given: the obstacle whose names
come first, if there is any. -/
inductive IsFirst (obstacle : List String → Blocked → Prop) : Option Blocked → Prop
  | free : (∀ names b, ¬obstacle names b) → IsFirst obstacle none
  | stopped {names : List String} {b : Blocked} : obstacle names b →
      (∀ names' b', obstacle names' b' →
        (names' = names ∧ b' = b) ∨ bytesOf names < bytesOf names') →
      IsFirst obstacle (some b)

namespace IsFirst

variable {P Q R : List String → Blocked → Prop} {a b : Option Blocked}

section Or

variable (hless : ∀ names b names' b', P names b → Q names' b' → bytesOf names < bytesOf names')
  (hR : ∀ names b, R names b ↔ P names b ∨ Q names b)
include hless hR

/-- Obstacles that come before all others are met first. -/
theorem before {b : Blocked} (h : IsFirst P (some b)) : IsFirst R (some b) := by
  cases h with
  | stopped hobstacle hfirst =>
    refine .stopped ((hR _ _).2 (.inl hobstacle)) fun names b h => ?_
    rcases (hR names b).1 h with h | h
    · exact hfirst names b h
    · exact .inr (hless _ _ _ _ hobstacle h)

/-- The first of two kinds of obstacles is the first of the one kind or else of the other. -/
theorem or (ha : IsFirst P a) (hb : IsFirst Q b) : IsFirst R (a.or b) := by
  cases a with
  | some b => exact ha.before hless hR
  | none =>
    cases ha with
    | free hnone =>
      have hRQ : R = Q := by
        funext names b
        simp [hR, hnone]
      rw [hRQ]
      exact hb

end Or

/-- A lone obstacle is the first. -/
theorem single (names : List String) {b : Blocked}
    (h : ∀ names' b', P names' b' ↔ names' = names ∧ b' = b) : IsFirst P (some b) :=
  .stopped ((h _ _).2 ⟨rfl, rfl⟩) fun names' b' hP => .inl ((h names' b').1 hP)

/-- What is first below a name is first from the directory that has the name. -/
theorem descend (name : String) (hQ : IsFirst Q b)
    (h : ∀ names b, P names b ↔ ∃ rest, names = name :: rest ∧ Q rest b) : IsFirst P b := by
  cases hQ with
  | free hnone =>
    refine .free fun names b hP => ?_
    obtain ⟨rest, -, hrest⟩ := (h names b).1 hP
    exact hnone rest b hrest
  | @stopped names b hobstacle hfirst =>
    have hP : P (name :: names) b := (h _ _).2 ⟨names, rfl, hobstacle⟩
    refine .stopped hP fun names' b' hP => ?_
    obtain ⟨rest, rfl, hrest⟩ := (h names' b').1 hP
    rcases hfirst rest b' hrest with ⟨rfl, rfl⟩ | hlt
    · exact .inl ⟨rfl, rfl⟩
    · exact .inr (bytesOf_cons_lt_cons name hlt)

end IsFirst

end FileSystem

/-! ## Scans -/

namespace Scan

variable {registry : Registry} {debug : Bool}

/-- What a scan cannot get past at a file. -/
def stopAt? (registry : Registry) (v : Visit) : Option Blocked :=
  match v.content with
  | .error f => if claims registry v then some ⟨v.path, f⟩ else none
  | .ok _ => none

theorem stopAt?_of_claims {path : Path} {f : Fault} (h : claims registry ⟨path, .error f⟩) :
    stopAt? registry ⟨path, .error f⟩ = some ⟨path, f⟩ :=
  if_pos h

theorem stopAt?_of_not_claims {path : Path} {f : Fault} (h : ¬claims registry ⟨path, .error f⟩) :
    stopAt? registry ⟨path, .error f⟩ = none :=
  if_neg h

/-- What stops a scan: the first file that it cannot read, or else what stops the walk. -/
def stop? (registry : Registry) (w : Walk) : Option Blocked :=
  (w.notes.findSome? (stopAt? registry)).or
    (match w.result with
      | .error b => some b
      | .ok _ => none)

/-- A scan that ends well, or is stopped. -/
def EndsAt (x : Except CheckError Scan) : Option Blocked → Prop
  | some b => x = .error (.unreadable b.path b.fault)
  | none => ∃ s, x = .ok s

/-- A visit ends where it stops. -/
theorem endsAt_visit (registry : Registry) (debug : Bool) (s : Scan) (v : Visit) :
    EndsAt (visit registry debug s v).result (stopAt? registry v) := by
  obtain ⟨path, content⟩ := v
  cases he : entryFor? registry path with
  | none =>
    rw [visit_of_none he]
    cases content <;> simp [stopAt?, claims, he, EndsAt]
  | some e =>
    cases content with
    | error f =>
      rw [visit_of_error he]
      simp [stopAt?, claims, he, EndsAt]
    | ok bytes =>
      rw [visit_of_ok he]
      simp [stopAt?, EndsAt]

/-- Visits end at the first that stops. -/
theorem endsAt_foldlM (registry : Registry) (debug : Bool) (vs : List Visit) (s : Scan) :
    EndsAt (vs.foldlM (visit registry debug) s).result (vs.findSome? (stopAt? registry)) := by
  induction vs generalizing s with
  | nil => exact ⟨s, rfl⟩
  | cons v vs ih =>
    have hvisit := endsAt_visit registry debug s v
    rw [List.foldlM_cons, List.findSome?_cons, Traced.result_bind]
    cases hstop : stopAt? registry v with
    | some b =>
      rw [hstop] at hvisit
      rw [show (visit registry debug s v).result = _ from hvisit]
      rfl
    | none =>
      rw [hstop] at hvisit
      obtain ⟨t, ht⟩ := hvisit
      rw [ht]
      exact ih t

/-- What stops a walk first stops the whole. -/
theorem stop?_bind (x y : Walk) :
    stop? registry (x >>= fun _ => y) = (stop? registry x).or (stop? registry y) := by
  cases hx : x.result with
  | error b =>
    rw [Traced.bind_of_error hx]
    simp [stop?, hx]
  | ok u =>
    rw [Traced.bind_of_ok hx]
    simp [stop?, hx, List.findSome?_append, Option.or_assoc]

@[simp] theorem stop?_note (v : Visit) : stop? registry (.note v) = stopAt? registry v := by
  simp [stop?, Traced.note]

@[simp] theorem stop?_fail (b : Blocked) : stop? registry (.fail b) = some b := rfl

end Scan

/-- A scan is stopped by what its walk comes to. -/
theorem endsAt_scan (fs : FileSystem) (registry : Registry) (debug : Bool) (root : Path) :
    Scan.EndsAt (scan fs registry debug root).result (Scan.stop? registry (fs.walk root)) := by
  have hfold := Scan.endsAt_foldlM registry debug (fs.walk root).notes {}
  rw [scan, Traced.result_bind, Scan.stop?]
  cases hstop : (fs.walk root).notes.findSome? (Scan.stopAt? registry) with
  | some b =>
    rw [hstop] at hfold
    rw [show ((fs.walk root).notes.foldlM (Scan.visit registry debug) {}).result = _ from hfold]
    rfl
  | none =>
    rw [hstop] at hfold
    obtain ⟨s, hs⟩ := hfold
    rw [hs]
    cases (fs.walk root).result with
    | error b => rfl
    | ok u => exact ⟨s, rfl⟩

namespace FileSystem

variable {fs : FileSystem} {registry : Registry}

/-- Whether a scan has to read what is at a path. -/
def ClaimedBy (registry : Registry) (path : Path) : Prop := ∃ e, registry.FirstFor path e

/-- Whether a file is claimed does not depend on its content. -/
theorem claims_iff {path : Path} {content : Except Fault Bytes} :
    Scan.claims registry ⟨path, content⟩ ↔ ClaimedBy registry path := by
  simp only [Scan.claims, Option.isSome_iff_exists, Scan.entryFor?_eq_some, ClaimedBy]

/-- A file stops a scan if it has to be read and cannot be. -/
theorem isFirst_stopAt? {P : List String → Blocked → Prop} {path : Path} (names : List String)
    {content : Except Fault Bytes}
    (h : ∀ names' b, P names' b ↔
      names' = names ∧ b.path = path ∧ content = .error b.fault ∧ ClaimedBy registry path) :
    IsFirst P (Scan.stopAt? registry ⟨path, content⟩) := by
  cases content with
  | ok bytes => exact .free fun names b hP => by simpa using (h names b).1 hP
  | error fault =>
    by_cases hclaims : Scan.claims registry ⟨path, .error fault⟩
    · rw [Scan.stopAt?_of_claims hclaims]
      refine .single names fun names' b => ?_
      obtain ⟨path', fault'⟩ := b
      simp [h, claims_iff.1 hclaims, eq_comm]
    · rw [Scan.stopAt?_of_not_claims hclaims]
      exact .free fun names' b hP => hclaims (claims_iff.2 ((h names' b).1 hP).2.2.2)

variable {s : Stand} {name : String} {e : Entry} {rest : List (String × Entry)}

section Rest

variable (hless : ∀ p ∈ rest, name < p.1)
include hless

/-- Obstacles at the first entry come before those at the others. -/
theorem bytesOf_lt_of_obstacle {claimed : Path → Prop} (names : List String) (b : Blocked)
    (names' : List String) (b' : Blocked) (h : fs.Obstacle claimed s [(name, e)] names b)
    (h' : fs.Obstacle claimed s rest names' b') : bytesOf names < bytesOf names' := by
  obtain ⟨p, hp, hhead, -⟩ := h.exists_mem
  obtain ⟨q, hq, hhead', -⟩ := h'.exists_mem
  obtain rfl := List.mem_singleton.1 hp
  obtain ⟨more, rfl⟩ := List.head?_eq_some_iff.1 hhead
  obtain ⟨more', rfl⟩ := List.head?_eq_some_iff.1 hhead'
  exact bytesOf_cons_lt (hless q hq) more more'

/-- A walk that comes to the first name and then to the others. -/
theorem isFirst_cons {x y : Walk}
    (hx : IsFirst (fs.Obstacle (ClaimedBy registry) s [(name, e)]) (Scan.stop? registry x))
    (hy : IsFirst (fs.Obstacle (ClaimedBy registry) s rest) (Scan.stop? registry y)) :
    IsFirst (fs.Obstacle (ClaimedBy registry) s ((name, e) :: rest))
      (Scan.stop? registry (x >>= fun _ => y)) := by
  rw [Scan.stop?_bind]
  exact hx.or (bytesOf_lt_of_obstacle hless) (fun _ _ => obstacle_cons) hy

end Rest

/-- The directory that a turn enters has distinct names. -/
theorem distinct_of_turn (hfs : fs.root.Distinct) {goal : Location} {left : Nat}
    {search : Option Fault} {children : List (String × Entry)} (he : e.Distinct)
    (hturn : fs.turn s name e = .dir goal left search children) :
    (children.map Prod.fst).Nodup ∧ Entry.DistinctAll children := by
  cases turns_iff.2 hturn with
  | dir harrive _ _ _ => exact distinct_of_arrive hfs he harrive

/-- A walk through a directory, its names in ascending order, is stopped by the first obstacle. -/
theorem isFirst_walkEntries (hfs : fs.root.Distinct) (registry : Registry) (s : Stand)
    {entries : List (String × Entry)}
    (hnames : entries.Pairwise fun p q => p.1 < q.1) (hdistinct : Entry.DistinctAll entries) :
    IsFirst (fs.Obstacle (ClaimedBy registry) s entries)
      (Scan.stop? registry (fs.walkEntries s entries)) := by
  fun_induction fs.walkEntries s entries with
  | case1 s =>
    refine .free fun names b h => ?_
    obtain ⟨p, hp, -⟩ := h.exists_mem
    cases hp
  | case2 s name e rest content hturn ih =>
    obtain ⟨hless, hnames⟩ := List.pairwise_cons.1 hnames
    refine isFirst_cons hless ?_ (ih hnames hdistinct.2)
    rw [Scan.stop?_note]
    exact isFirst_stopAt? [name] fun names b => obstacle_of_file hturn
  | case3 s name e rest goal left search children hturn ih ihrest =>
    obtain ⟨hless, hnames⟩ := List.pairwise_cons.1 hnames
    obtain ⟨he, hrest⟩ := hdistinct
    refine isFirst_cons hless ?_ (ihrest hnames hrest)
    have hchildren := distinct_of_turn hfs he hturn
    refine IsFirst.descend name
      (ih (Entry.pairwise_sorted hchildren.1) hchildren.2.sorted) fun names b => ?_
    simp only [obstacle_sorted]
    exact obstacle_of_dir hturn
  | case4 s name e rest b hturn =>
    obtain ⟨hless, -⟩ := List.pairwise_cons.1 hnames
    exact (IsFirst.single [name] fun names b' => obstacle_of_blocked hturn).before
      (bytesOf_lt_of_obstacle hless) fun _ _ => obstacle_cons

/-- Names that lead from a path to what a scan cannot get past, and what is reported of it. -/
inductive ObstacleAt (fs : FileSystem) (registry : Registry) (root : Path) :
    List String → Blocked → Prop
  /-- The path leads nowhere. -/
  | lost {f : Fault} : fs.resolve root = .error f → ObstacleAt fs registry root [] ⟨root, f⟩
  /-- A file has to be read and cannot be. -/
  | unread {location : Location} {f : Fault} {program : Bool} {links : Nat} :
      fs.resolve root = .ok ⟨location, .file (.error f) program, links⟩ →
      ClaimedBy registry root → ObstacleAt fs registry root [] ⟨root, f⟩
  /-- A directory cannot be listed. Where a link leads to it, no path is reported. -/
  | unlisted {location : Location} {access : Access} {entries : List (String × Entry)}
      {links : Nat} {f : Fault} :
      fs.resolve root = .ok ⟨location, .dir access entries, links⟩ → access.list = some f →
      ObstacleAt fs registry root [] ⟨if fs.isLink root then ⟨[]⟩ else root, f⟩
  /-- An obstacle is below a directory. -/
  | within {location : Location} {access : Access} {entries : List (String × Entry)} {links : Nat}
      {names : List String} {b : Blocked} :
      fs.resolve root = .ok ⟨location, .dir access entries, links⟩ → access.list = none →
      fs.Obstacle (ClaimedBy registry) ⟨root, location, links, access.search, [location]⟩ entries
        names b →
      ObstacleAt fs registry root names b

section Root

variable {root : Path} {names : List String} {b : Blocked} {location : Location} {links : Nat}

/-- Of a path that leads nowhere this is the only obstacle. -/
theorem obstacleAt_of_lost {f : Fault} (hresolve : fs.resolve root = .error f) :
    fs.ObstacleAt registry root names b ↔ names = [] ∧ b = ⟨root, f⟩ := by
  constructor
  · intro h
    cases h with
    | lost hroot => exact ⟨rfl, by rw [Except.error.inj (hroot.symm.trans hresolve)]⟩
    | unread hroot | unlisted hroot | within hroot => cases hroot.symm.trans hresolve
  · rintro ⟨rfl, rfl⟩
    exact .lost hresolve

/-- Of a file the only obstacle is that it has to be read and cannot be. -/
theorem obstacleAt_of_file {content : Except Fault Bytes} {program : Bool}
    (hresolve : fs.resolve root = .ok ⟨location, .file content program, links⟩) :
    fs.ObstacleAt registry root names b ↔
      names = [] ∧ b.path = root ∧ content = .error b.fault ∧ ClaimedBy registry root := by
  constructor
  · intro h
    cases h with
    | unread hroot hclaimed =>
      cases hroot.symm.trans hresolve
      exact ⟨rfl, rfl, rfl, hclaimed⟩
    | lost hroot | unlisted hroot | within hroot => cases hroot.symm.trans hresolve
  · obtain ⟨path, f⟩ := b
    rintro ⟨rfl, rfl, rfl, hclaimed⟩
    exact .unread hresolve hclaimed

variable {access : Access} {entries : List (String × Entry)}
  (hresolve : fs.resolve root = .ok ⟨location, .dir access entries, links⟩)
include hresolve

/-- Of a directory that cannot be listed this is the only obstacle. -/
theorem obstacleAt_of_unlisted {f : Fault} (hlist : access.list = some f) :
    fs.ObstacleAt registry root names b ↔
      names = [] ∧ b = ⟨if fs.isLink root then ⟨[]⟩ else root, f⟩ := by
  constructor
  · intro h
    cases h with
    | lost hroot | unread hroot => cases hroot.symm.trans hresolve
    | unlisted hroot hsome =>
      cases hroot.symm.trans hresolve
      cases hsome.symm.trans hlist
      exact ⟨rfl, rfl⟩
    | within hroot hnone =>
      cases hroot.symm.trans hresolve
      cases hnone.symm.trans hlist
  · rintro ⟨rfl, rfl⟩
    exact .unlisted hresolve hlist

/-- Of a directory that is listed the obstacles are those below it. -/
theorem obstacleAt_of_dir (hlist : access.list = none) :
    fs.ObstacleAt registry root names b ↔
      fs.Obstacle (ClaimedBy registry) ⟨root, location, links, access.search, [location]⟩ entries
        names b := by
  constructor
  · intro h
    cases h with
    | lost hroot | unread hroot => cases hroot.symm.trans hresolve
    | unlisted hroot hsome =>
      cases hroot.symm.trans hresolve
      cases hsome.symm.trans hlist
    | within hroot _ hobstacle =>
      cases hroot.symm.trans hresolve
      exact hobstacle
  · exact fun h => .within hresolve hlist h

end Root

/-- A walk is stopped by the first obstacle at or below its path. -/
theorem isFirst_walk (hfs : fs.root.Distinct) (registry : Registry) (root : Path) :
    IsFirst (fs.ObstacleAt registry root) (Scan.stop? registry (fs.walk root)) := by
  rw [walk]
  cases hresolve : fs.resolve root with
  | error fault => exact .single [] fun names b => obstacleAt_of_lost hresolve
  | ok a =>
    obtain ⟨location, e, links⟩ := a
    cases e with
    | link => exact absurd hresolve resolve_ne_link
    | file content program =>
      simp only [Scan.stop?_note]
      exact isFirst_stopAt? [] fun names b => obstacleAt_of_file hresolve
    | dir access entries =>
      cases hlist : access.list with
      | some f =>
        simp only [hlist, Scan.stop?_fail]
        exact .single [] fun names b => obstacleAt_of_unlisted hresolve hlist
      | none =>
        simp only [hlist]
        have hentries : (Entry.dir access entries).Distinct :=
          hfs.find? (entry_of_resolve hresolve)
        have hwalk := isFirst_walkEntries hfs registry
          ⟨root, location, links, access.search, [location]⟩
          (Entry.pairwise_sorted hentries.1) hentries.2.sorted
        have hat : fs.ObstacleAt registry root =
            fs.Obstacle (ClaimedBy registry) ⟨root, location, links, access.search, [location]⟩
              (Entry.sorted entries) := by
          funext names b
          rw [obstacle_sorted, eq_iff_iff]
          exact obstacleAt_of_dir hresolve hlist
        rw [hat]
        exact hwalk

/-! ## What is reported -/

/-- A directory that cannot be listed for some reason. -/
def Unlisted (fs : FileSystem) (f : Fault) : Prop :=
  ∃ location access entries,
    fs.entryAt? location = some (.dir access entries) ∧ access.list = some f

/-- What stops at a name is told under its path, or without a path where a directory cannot be
listed. -/
theorem Stops.path_eq {b : Blocked} (h : fs.Stops s name e b) :
    b.path = s.child name ∨ b.path = ⟨[]⟩ ∧ fs.Unlisted b.fault := by
  cases h with
  | unlistedBehind _ hlink hlist =>
    exact .inr ⟨rfl, _, _, _, entry_of_resolveLink hlink, hlist⟩
  | hidden | lost | unlisted | loop => exact .inl rfl

/-- An obstacle is told under its path, or without a path where a directory cannot be listed. -/
theorem Obstacle.path_eq {claimed : Path → Prop} {entries : List (String × Entry)}
    {names : List String} {b : Blocked} (h : fs.Obstacle claimed s entries names b) :
    b.path = s.path.descend names ∨ b.path = ⟨[]⟩ ∧ fs.Unlisted b.fault := by
  induction h with
  | stop hmem hstops => exact hstops.path_eq
  | unread hmem hturns hclaimed => exact .inl rfl
  | within henters hobstacle ih =>
    cases henters with
    | intro hmem hturns => exact ih

/-- The path to which the names lead is reported, or none, of a directory that cannot be listed. -/
theorem ObstacleAt.path_eq {root : Path} {names : List String} {b : Blocked}
    (h : fs.ObstacleAt registry root names b) :
    b.path = root.descend names ∨ b.path = ⟨[]⟩ ∧ fs.Unlisted b.fault := by
  cases h with
  | lost | unread => exact .inl rfl
  | unlisted hroot hlist =>
    by_cases hlink : fs.isLink root
    · exact .inr ⟨by simp [hlink], _, _, _, entry_of_resolve hroot, hlist⟩
    · exact .inl (by simp [hlink, Path.descend])
  | within _ _ hobstacle => exact hobstacle.path_eq

end FileSystem

/-- A scan ends well where there is no obstacle, and fails at the first one otherwise. -/
theorem endsAt_isFirst {fs : FileSystem} (hfs : fs.root.Distinct) (registry : Registry)
    (debug : Bool) (root : Path) :
    ∃ stop, FileSystem.IsFirst (fs.ObstacleAt registry root) stop ∧
      Scan.EndsAt (scan fs registry debug root).result stop :=
  ⟨_, FileSystem.isFirst_walk hfs registry root, endsAt_scan fs registry debug root⟩

/-- Nothing stops a scan where there is no obstacle. -/
theorem scan_of_no_obstacle {fs : FileSystem} (hfs : fs.root.Distinct) {registry : Registry}
    {root : Path} (hfree : ∀ names b, ¬fs.ObstacleAt registry root names b) (debug : Bool) :
    ∃ s, (scan fs registry debug root).result = .ok s := by
  obtain ⟨stop, hfirst, hends⟩ := endsAt_isFirst hfs registry debug root
  cases hfirst with
  | free => exact hends
  | stopped hobstacle => exact absurd hobstacle (hfree _ _)

end EnvAudit
