import EnvAudit.Proofs.Files.Below
import EnvAudit.Proofs.Files.Lead
import EnvAudit.Proofs.Files.Walk
import EnvAudit.Proofs.Traced.Like

/-!
# EnvAudit.Proofs.Files.Within

A tree within another one:

1. moves may go up from the top of a tree (`Entry.Escapes`); in a tree that is closed no link does
   so (`Entry.Closed`), and so no moves do that do not go up themselves (`Closed.not_escapes`);
2. moves that stay in a tree lead to the same entries, wherever the tree is (`follow_within`);
3. a walk comes to the same names and contents and ends in the same way, unless it comes to a path
   that is too long in one place only (`walkEntries_within`).
-/

namespace EnvAudit

/-! ## Closed trees -/

namespace Entry

/-- Moves in a tree that go up from its top. -/
inductive Escapes (tree : Entry) : Location → List Move → Prop
  | above (moves : List Move) : Escapes tree [] (.up :: moves)
  | stay {location : Location} {access : Access} {entries : List (String × Entry)}
      {moves : List Move} :
      tree.find? location = some (.dir access entries) → Escapes tree location moves →
      Escapes tree location (.stay :: moves)
  | up {location : Location} {access : Access} {entries : List (String × Entry)}
      {moves : List Move} :
      tree.find? location = some (.dir access entries) → Escapes tree location.dropLast moves →
      Escapes tree location (.up :: moves)
  | enter {location : Location} {name : String} {moves : List Move} :
      Escapes tree (location ++ [name]) moves → Escapes tree location (.enter name :: moves)
  | link {location : Location} {name : String} {target : Path} {moves : List Move} :
      tree.find? (location ++ [name]) = some (.link target) →
      Escapes tree location (target.moves ++ moves) → Escapes tree location (.enter name :: moves)

/-- Moves that go up from the top do so at first or later on. -/
theorem Escapes.append_cases {tree : Entry} {location : Location} {a b : List Move}
    (h : tree.Escapes location (a ++ b)) :
    tree.Escapes location a ∨ ∃ mid, tree.Escapes mid b := by
  generalize hmoves : a ++ b = moves at h
  induction h generalizing a with
  | above moves =>
    rcases List.append_eq_cons_iff.1 hmoves with ⟨rfl, rfl⟩ | ⟨a, rfl, -⟩
    · exact .inr ⟨_, .above moves⟩
    · exact .inl (.above a)
  | stay hdir h ih =>
    rcases List.append_eq_cons_iff.1 hmoves with ⟨rfl, rfl⟩ | ⟨a, rfl, rfl⟩
    · exact .inr ⟨_, .stay hdir h⟩
    · exact (ih rfl).imp_left (.stay hdir)
  | up hdir h ih =>
    rcases List.append_eq_cons_iff.1 hmoves with ⟨rfl, rfl⟩ | ⟨a, rfl, rfl⟩
    · exact .inr ⟨_, .up hdir h⟩
    · exact (ih rfl).imp_left (.up hdir)
  | enter h ih =>
    rcases List.append_eq_cons_iff.1 hmoves with ⟨rfl, rfl⟩ | ⟨a, rfl, rfl⟩
    · exact .inr ⟨_, .enter h⟩
    · exact (ih rfl).imp_left .enter
  | link hlink h ih =>
    rcases List.append_eq_cons_iff.1 hmoves with ⟨rfl, rfl⟩ | ⟨a, rfl, rfl⟩
    · exact .inr ⟨_, .link hlink h⟩
    · exact (ih (List.append_assoc _ _ _)).imp_left (.link hlink)

/-- A tree as systems keep it, whose directories can be used and whose links stay in it. -/
structure Closed (tree : Entry) : Prop where
  distinct : tree.Distinct
  usable : ∀ location access entries, tree.find? location = some (.dir access entries) →
    access = {}
  isName : ∀ location name e, tree.find? (location ++ [name]) = some e → Path.IsName name
  relative : ∀ location name target, tree.find? (location ++ [name]) = some (.link target) →
    ¬target.isAbsolute
  inside : ∀ location name target, tree.find? (location ++ [name]) = some (.link target) →
    ¬tree.Escapes location target.moves

/-- What may be in a closed tree, and where. -/
def Fits (tree : Entry) (location : Location) : Entry → Prop
  | .file _ _ => True
  | .dir access _ => access = {}
  | .link target => ¬target.isAbsolute ∧ ¬tree.Escapes location target.moves

/-- A directory is closed if what is in each of its directories fits. -/
theorem closed_of_fits {top : List (String × Entry)} (hdistinct : (dir {} top).Distinct)
    (hfits : ∀ location ∈ (dir {} top).directories [], ∀ access entries,
      (dir {} top).find? location = some (.dir access entries) →
        ∀ p ∈ entries, Path.IsName p.1 ∧ (dir {} top).Fits location p.2) : (dir {} top).Closed := by
  have hentry : ∀ {location name e}, (dir {} top).find? (location ++ [name]) = some e →
      Path.IsName name ∧ (dir {} top).Fits location e := by
    intro location name e h
    obtain ⟨access, entries, hdir, hlookup⟩ := exists_dir_of_find?_concat h
    have hmem : location ∈ (dir {} top).directories [] := by
      simpa using @mem_directories _ [] _ _ _ hdir
    exact hfits location hmem access entries hdir (name, e) (mem_of_lookup hlookup)
  refine ⟨hdistinct, fun location access entries h => ?_, fun _ _ _ h => (hentry h).1,
    fun _ _ _ h => (hentry h).2.1, fun _ _ _ h => (hentry h).2.2⟩
  cases location using List.reverseRecOn with
  | nil =>
    cases h
    rfl
  | append_singleton location name => exact (hentry h).2

/-- Moves that do not go up themselves stay in a closed tree. -/
theorem Closed.not_escapes {tree : Entry} (htree : tree.Closed) {moves : List Move}
    (hup : .up ∉ moves) (location : Location) : ¬tree.Escapes location moves := by
  induction moves generalizing location with
  | nil => exact fun h => by cases h
  | cons move moves ih =>
    have hmoves := ih (fun h => hup (List.mem_cons_of_mem _ h))
    intro h
    cases h with
    | above => exact hup List.mem_cons_self
    | up => exact hup List.mem_cons_self
    | stay _ h => exact hmoves _ h
    | enter h => exact hmoves _ h
    | link hlink h =>
      rcases h.append_cases with h | ⟨mid, h⟩
      · exact htree.inside _ _ _ hlink h
      · exact hmoves _ h

end Entry

/-! ## Moves within a tree -/

/-- An arrival in a tree that is within another one. -/
def Arrival.within (base : Location) (a : Arrival) : Arrival :=
  { a with location := base ++ a.location }

/-- A lead in a tree that is within another one. -/
def Lead.within (base : Location) : Lead → Lead
  | .arrived a => .arrived (a.within base)
  | .vacant dir name => .vacant (base ++ dir) name

namespace FileSystem

/-- A tree on its own. -/
def alone (tree : Entry) : FileSystem := ⟨tree, []⟩

variable {fs : FileSystem} {base : Location} {tree : Entry}

/-- Below the place where a tree stands one finds what is in the tree. -/
theorem entryAt?_within (hbase : fs.entryAt? base = some tree) (location : Location) :
    fs.entryAt? (base ++ location) = FileSystem.entryAt? (alone tree) location := by
  unfold entryAt? at hbase ⊢
  rw [Entry.find?_append, hbase]
  rfl

/-- Moves that stay in a closed tree lead to the same place within it wherever it stands. -/
theorem follow_within (hbase : fs.entryAt? base = some tree) (htree : tree.Closed) {links : Nat}
    {location : Location} {moves : List Move} (h : ¬tree.Escapes location moves) :
    fs.follow links (base ++ location) moves =
      ((alone tree).follow links location moves).map (Lead.within base) := by
  have hentry := entryAt?_within hbase
  fun_induction (alone tree).follow links location moves with
  | case1 links location e he =>
    rw [follow, hentry, he]
    rfl
  | case2 links location he =>
    rw [follow, hentry, he]
    rfl
  | case3 links location move moves he =>
    rw [follow_cons_of_none ((hentry location).trans he)]
    rfl
  | case4 links location move moves access entries he f hsearch =>
    rw [follow_cons_of_search ((hentry location).trans he) hsearch]
    rfl
  | case5 links location moves access entries he hsearch ih =>
    rw [follow_stay_cons ((hentry location).trans he) hsearch]
    exact ih fun hescapes => h (.stay he hescapes)
  | case6 links location moves access entries he hsearch ih =>
    -- To go up from the top would lead out of the tree.
    have hne : location ≠ [] := by
      rintro rfl
      exact h (.above moves)
    rw [follow_up_cons ((hentry location).trans he) hsearch, List.dropLast_append_of_ne_nil hne]
    exact ih fun hescapes => h (.up he hescapes)
  | case7 links location moves access entries he hsearch name hlong =>
    rw [follow_enter_of_long ((hentry location).trans he) hsearch hlong]
    rfl
  | case8 links location access entries he hsearch name hlong hname =>
    rw [follow_enter_of_none ((hentry location).trans he) hsearch hlong hname, if_pos rfl]
    rfl
  | case9 links location moves access entries he hsearch name hlong hname hmoves =>
    rw [follow_enter_of_none ((hentry location).trans he) hsearch hlong hname, if_neg hmoves]
    rfl
  | case10 location moves access entries he hsearch name hlong target hname =>
    rw [follow_enter_of_link_zero ((hentry location).trans he) hsearch hlong hname]
    rfl
  | case11 location moves access entries he hsearch name hlong target hname links ih =>
    have hlink : tree.find? (location ++ [name]) = some (.link target) :=
      Entry.find?_concat he hname
    have hrelative := htree.relative location name target hlink
    rw [follow_enter_of_link ((hentry location).trans he) hsearch hlong hname, if_neg hrelative,
      if_neg hrelative]
    simp only [dif_neg hrelative] at ih
    exact ih fun hescapes => h (.link hlink hescapes)
  | case12 links location moves access entries he hsearch name hlong e hlink hname ih =>
    rw [follow_enter_of_some ((hentry location).trans he) hsearch hlong hname hlink,
      List.append_assoc]
    exact ih fun hescapes => h (.enter hescapes)
  | case13 links location move moves e hdir he =>
    rw [follow_cons_of_not_dir ((hentry location).trans he) hdir]
    rfl

theorem arrival_map_within (lead : Except Fault Lead) :
    arrival (lead.map (Lead.within base)) = (arrival lead).map (Arrival.within base) := by
  rcases lead with f | (a | ⟨dir, name⟩) <;> rfl

/-- A link is followed like a path, with one link fewer to go. -/
theorem resolveLink_eq (fs : FileSystem) (links : Nat) (location : Location) (target : Path) :
    fs.resolveLink (links + 1) location target =
      arrival (fs.follow links (if target.isAbsolute then [] else location) target.moves) := by
  rw [resolveLink]
  rcases fs.follow links _ target.moves with f | (a | ⟨dir, name⟩) <;> rfl

/-- The links of a closed tree lead to the same entries, wherever the tree is. -/
theorem resolveLink_within (hbase : fs.entryAt? base = some tree) (htree : tree.Closed)
    {location : Location} {name : String} {target : Path}
    (hlink : tree.find? (location ++ [name]) = some (.link target)) (links : Nat) :
    fs.resolveLink links (base ++ location) target =
      ((alone tree).resolveLink links location target).map (Arrival.within base) := by
  cases links with
  | zero => rfl
  | succ links =>
    have hrelative := htree.relative location name target hlink
    rw [resolveLink_eq, resolveLink_eq, if_neg hrelative, if_neg hrelative,
      follow_within hbase htree (htree.inside location name target hlink), arrival_map_within]

end FileSystem

/-! ## Walks -/

/-- Visits of files with one name and one content, at places that correspond. -/
structure Visit.Like (same : Path → Path → Prop) (v w : Visit) : Prop where
  place : same v.path w.path
  fileName? : v.path.fileName? = w.path.fileName?
  content : v.content = w.content

/-- Walks that stop for one reason, at places that correspond. -/
structure Blocked.Like (same : Path → Path → Prop) (b c : Blocked) : Prop where
  place : same b.path c.path
  fault : b.fault = c.fault

/-- Walks that come to the same files, but for where they are, and that end in the same way. -/
abbrev Walk.Like (same : Path → Path → Prop) : Walk → Walk → Prop :=
  Traced.Like (fun _ => true) (fun _ => true) (Visit.Like same) (Blocked.Like same) fun _ _ => True

namespace Walk

theorem Like.mono {same same' : Path → Path → Prop} {x y : Walk} (h : Like same x y)
    (hsame : ∀ {p q}, same p q → same' p q) : Like same' x y where
  notes := h.notes.imp fun _ _ hv => ⟨hsame hv.place, hv.fileName?, hv.content⟩
  result := h.result.mono fun hb => ⟨hsame hb.place, hb.fault⟩

/-- Walks that come to the same places are the same. -/
theorem eq_of_like {x y : Walk} (h : Like (· = ·) x y) : x = y := by
  obtain ⟨visits, result⟩ := x
  obtain ⟨visits', result'⟩ := y
  obtain ⟨hvisits, hresult⟩ := h
  obtain rfl : visits = visits' := by
    rw [List.filter_true, List.filter_true] at hvisits
    refine List.forall₂_eq_eq_eq ▸ hvisits.imp fun v w hv => ?_
    obtain ⟨path, content⟩ := v
    obtain ⟨rfl, -, rfl⟩ := hv
    rfl
  cases hresult with
  | ok _ => rfl
  | @error b c hb =>
    obtain ⟨path, fault⟩ := b
    obtain ⟨rfl, rfl⟩ := hb
    rfl

end Walk

/-- A path that is not too long to be looked up. -/
def Path.Short (p : Path) : Prop := p.text.utf8ByteSize ≤ FileSystem.maxPath

instance (p : Path) : Decidable p.Short := inferInstanceAs (Decidable (_ ≤ _))

/-- A walk that comes to no path that is too long. -/
structure Walk.Short (x : Walk) : Prop where
  visits : ∀ v ∈ x.notes, v.path.Short
  stop : ∀ b, x.result = .error b → b.path.Short

namespace Walk.Short

theorem left {x : Walk} {f : Unit → Walk} (h : Short (x >>= f)) : x.Short := by
  cases hx : x.result with
  | error b =>
    rw [Traced.bind_of_error hx] at h
    exact ⟨h.visits, fun c hc => h.stop c (hx ▸ hc)⟩
  | ok u =>
    rw [Traced.bind_of_ok hx] at h
    refine ⟨fun v hv => h.visits v (List.mem_append_left _ hv), fun c hc => ?_⟩
    cases hx.symm.trans hc

theorem right {x : Walk} {f : Unit → Walk} (h : Short (x >>= f)) {u : Unit}
    (hx : x.result = .ok u) : (f u).Short := by
  rw [Traced.bind_of_ok hx] at h
  exact ⟨fun v hv => h.visits v (List.mem_append_right _ hv), h.stop⟩

end Walk.Short

/-- Walks of which neither comes to a path that is too long, or whose places correspond only if both
have paths that are too long or neither has. -/
def Walk.Fit (same : Path → Path → Prop) (x y : Walk) : Prop :=
  (∀ {p q}, same p q → (p.Short ↔ q.Short)) ∨ x.Short ∧ y.Short

namespace Walk.Fit

variable {same : Path → Path → Prop} {x y : Walk} {f g : Unit → Walk}

theorem left (h : Fit same (x >>= f) (y >>= g)) : Fit same x y :=
  h.imp_right fun h => ⟨h.1.left, h.2.left⟩

theorem right (h : Fit same (x >>= f) (y >>= g)) {u v : Unit} (hx : x.result = .ok u)
    (hy : y.result = .ok v) : Fit same (f u) (g v) :=
  h.imp_right fun h => ⟨h.1.right hx, h.2.right hy⟩

end Walk.Fit

/-- A stand in a tree, and the same one where the tree is within another. -/
structure Stand.Within (base : Location) (s t : Stand) : Prop where
  location : t.location = base ++ s.location
  links : t.links = s.links
  search : t.search = s.search
  entered : t.entered = s.entered.map (base ++ ·)

/-- What a walk comes to under a path in a tree, and in the same one that is within another. -/
inductive Turn.Within (base : Location) (p q : Path) : Turn → Turn → Prop
  | file (content : Except Fault Bytes) : Turn.Within base p q (.file content) (.file content)
  | dir (location : Location) (links : Nat) (search : Option Fault)
      (entries : List (String × Entry)) :
      Turn.Within base p q (.dir location links search entries)
        (.dir (base ++ location) links search entries)
  | blocked (f : Fault) : Turn.Within base p q (.blocked ⟨p, f⟩) (.blocked ⟨q, f⟩)

theorem Stand.Within.enter {base : Location} {s t : Stand} (h : s.Within base t) (name : String)
    (location : Location) (links : Nat) (search : Option Fault) :
    (s.enter name location links search).Within base
      (t.enter name (base ++ location) links search) where
  location := rfl
  links := rfl
  search := rfl
  entered := by rw [Stand.enter, Stand.enter, h.entered, List.map_cons]

/-- A directory was entered in the one walk exactly when it was in the other. -/
theorem Stand.Within.contains_entered {base : Location} {s t : Stand} (h : s.Within base t)
    (location : Location) :
    t.entered.contains (base ++ location) = s.entered.contains location := by
  rw [h.entered]
  simp [List.contains_eq_mem]

/-- A name is obstructed in both or in neither, if its path is short in both or in neither. -/
theorem Stand.Within.obstruction?_eq {base : Location} {s t : Stand} (h : s.Within base t)
    {name : String} (hshort : (s.child name).Short ↔ (t.child name).Short) :
    t.obstruction? name = s.obstruction? name := by
  have hlong : FileSystem.maxPath < (t.child name).text.utf8ByteSize ↔
      FileSystem.maxPath < (s.child name).text.utf8ByteSize := by
    rw [← Nat.not_le, ← Nat.not_le]
    exact (not_congr hshort).symm
  simp only [Stand.obstruction?, h.search, hlong]

/-- Where names are distinct, each entry of a directory is found by its name. -/
theorem Entry.find?_of_mem {tree : Entry} (htree : tree.Distinct) {location : Location}
    {access : Access} {entries : List (String × Entry)}
    (hdir : tree.find? location = some (.dir access entries)) {p : String × Entry}
    (hp : p ∈ entries) : tree.find? (location ++ [p.1]) = some p.2 := by
  have hnodup : (entries.map Prod.fst).Nodup := (htree.find? hdir).1
  refine Entry.find?_concat hdir ?_
  obtain ⟨before, behind, rfl⟩ := List.append_of_mem hp
  refine List.lookup_eq_some_iff.2 ⟨before, behind, rfl, fun q hq => ?_⟩
  rw [List.map_append, List.map_cons, List.nodup_append] at hnodup
  have hne : q.1 ≠ p.1 := hnodup.2.2 q.1 (List.mem_map_of_mem hq) p.1 List.mem_cons_self
  exact bne_iff_ne.2 hne.symm

namespace FileSystem

variable {fs : FileSystem} {base : Location} {tree : Entry}

/-- An entry that a walk comes to is under a path that the walk comes to, or is looked up. -/
theorem short_child {s : Stand} {name : String} {e : Entry} {rest : List (String × Entry)}
    (h : (fs.walkEntries s ((name, e) :: rest)).Short) : (s.child name).Short := by
  have hnone : s.obstruction? name = none → (s.child name).Short := fun hnone => by
    unfold Stand.obstruction? at hnone
    split at hnone
    · cases hnone
    · next hshort => exact Nat.le_of_not_lt hshort
  have hturns := fs.turns s name e
  generalize hturn : fs.turn s name e = t at hturns
  cases hturns with
  | file harrive hlink =>
    rw [walkEntries_of_file rest hturn] at h
    exact h.left.visits _ (List.mem_singleton_self _)
  | dir harrive hobstruction => exact hnone hobstruction
  | blocked hstops =>
    rw [walkEntries_of_blocked rest hturn] at h
    have hstop := h.stop _ rfl
    cases hstops with
    | hidden => exact hstop
    | lost hobstruction | unlisted hobstruction | unlistedBehind hobstruction
      | loop hobstruction => exact hnone hobstruction

/-- Where walks fit, entries are under paths of which both are too long or neither is. -/
theorem short_child_iff {fs fs' : FileSystem} {same : Path → Path → Prop} {s t : Stand}
    {name : String} {e f : Entry} {rest rest' : List (String × Entry)}
    (h : Walk.Fit same (fs.walkEntries s ((name, e) :: rest))
      (fs'.walkEntries t ((name, f) :: rest')))
    (hsame : same (s.child name) (t.child name)) :
    (s.child name).Short ↔ (t.child name).Short := by
  rcases h with h | ⟨hs, ht⟩
  · exact h hsame
  · exact iff_of_true (short_child hs) (short_child ht)

/-- A relation of paths that holds for entries of one name if it does for their directories. -/
def KeptByNames (same : Path → Path → Prop) : Prop :=
  ∀ {p q : Path} {name : String}, Path.IsName name → same p q →
    same (p.join (.ofText name)) (q.join (.ofText name))

/-- A walk comes to the same at an entry of a closed tree, wherever the tree is. -/
theorem turn_within (hbase : fs.entryAt? base = some tree) (htree : tree.Closed) {s t : Stand}
    (ht : s.Within base t) {name : String} {e : Entry}
    (hentry : tree.find? (s.location ++ [name]) = some e)
    (hshort : (s.child name).Short ↔ (t.child name).Short) :
    Turn.Within base (s.child name) (t.child name) ((alone tree).turn s name e)
      (fs.turn t name e) := by
  have hobstruction := ht.obstruction?_eq hshort
  cases e with
  | file content program =>
    simp only [turn, Stand.reading, hobstruction]
    exact .file _
  | dir access entries =>
    simp only [turn, hobstruction]
    split
    · exact .blocked _
    · rw [ht.location, ht.links, List.append_assoc]
      exact .dir _ _ _ _
  | link target =>
    simp only [turn, hobstruction]
    split
    · exact .blocked _
    · have hlink : fs.resolveLink t.links t.location target =
          ((alone tree).resolveLink s.links s.location target).map (Arrival.within base) := by
        rw [ht.location, ht.links, resolveLink_within hbase htree hentry]
      simp only [turnAlong, hlink]
      cases hgoal : (alone tree).resolveLink s.links s.location target with
      | error f => exact .blocked f
      | ok a =>
        obtain ⟨location, found, links⟩ := a
        cases found with
        | link next => exact .blocked _
        | file content program => exact .file content
        | dir access entries =>
          obtain rfl := htree.usable location access entries (entry_of_resolveLink hgoal)
          simp only [Except.map, Arrival.within, ht.contains_entered]
          split
          · exact .blocked _
          · exact .dir _ _ _ _

/-- The directory that a turn enters stands in the tree. -/
theorem find?_of_turn (htree : tree.Closed) {s : Stand} {name : String} {e : Entry}
    {location : Location} {links : Nat} {search : Option Fault} {entries : List (String × Entry)}
    (hentry : tree.find? (s.location ++ [name]) = some e)
    (h : (alone tree).turn s name e = .dir location links search entries) :
    ∀ p ∈ Entry.sorted entries, tree.find? (location ++ [p.1]) = some p.2 := by
  cases turns_iff.2 h with
  | @dir _ access _ _ harrive _ _ _ =>
    have hdir : tree.find? location = some (.dir access entries) := by
      cases e with
      | file => cases harrive
      | dir =>
        cases harrive
        exact hentry
      | link target => exact entry_of_resolveLink harrive
    exact fun p hp => Entry.find?_of_mem htree.distinct hdir (Entry.mem_sorted.1 hp)

/-- From places that correspond, a walk through a directory of a closed tree comes to the same files
wherever the tree is, if it does not come to paths that are too long in one place only. -/
theorem walkEntries_within (hbase : fs.entryAt? base = some tree) (htree : tree.Closed)
    {same : Path → Path → Prop} (hsame : KeptByNames same) {s t : Stand} (ht : s.Within base t)
    (hpath : same s.path t.path) {entries : List (String × Entry)}
    (hentries : ∀ p ∈ entries, tree.find? (s.location ++ [p.1]) = some p.2)
    (hfit : Walk.Fit same ((alone tree).walkEntries s entries) (fs.walkEntries t entries)) :
    ((alone tree).walkEntries s entries).Like same (fs.walkEntries t entries) := by
  fun_induction (alone tree).walkEntries s entries generalizing t with
  | case1 s =>
    rw [walkEntries]
    exact .pure trivial
  | case2 s name e rest content hturn ih =>
    obtain ⟨hentry, hrest⟩ := List.forall_mem_cons.1 hentries
    have hname : Path.IsName name := htree.isName _ _ _ hentry
    have hchild : same (s.child name) (t.child name) := hsame hname hpath
    rw [← walkEntries_of_file rest hturn] at hfit
    have hturns := turn_within hbase htree ht hentry (short_child_iff hfit hchild)
    rw [hturn] at hturns
    generalize hturn' : fs.turn t name e = turn at hturns
    cases hturns
    rw [walkEntries_of_file rest hturn, walkEntries_of_file rest hturn'] at hfit
    rw [walkEntries_of_file rest hturn']
    refine .bind_of_ends (.note rfl rfl ⟨hchild, ?_, rfl⟩) fun hx hy _ =>
      ih ht hpath hrest (hfit.right hx hy)
    exact (Path.fileName?_join hname s.path).trans (Path.fileName?_join hname t.path).symm
  | case3 s name e rest location links search children hturn ih ihrest =>
    obtain ⟨hentry, hrest⟩ := List.forall_mem_cons.1 hentries
    have hchild : same (s.child name) (t.child name) := hsame (htree.isName _ _ _ hentry) hpath
    rw [← walkEntries_of_dir rest hturn] at hfit
    have hturns := turn_within hbase htree ht hentry (short_child_iff hfit hchild)
    rw [hturn] at hturns
    generalize hturn' : fs.turn t name e = turn at hturns
    cases hturns
    rw [walkEntries_of_dir rest hturn, walkEntries_of_dir rest hturn'] at hfit
    rw [walkEntries_of_dir rest hturn']
    exact .bind_of_ends
      (ih (ht.enter name location links search) hchild (find?_of_turn htree hentry hturn) hfit.left)
      fun hx hy _ => ihrest ht hpath hrest (hfit.right hx hy)
  | case4 s name e rest b hturn =>
    obtain ⟨hentry, -⟩ := List.forall_mem_cons.1 hentries
    have hchild : same (s.child name) (t.child name) := hsame (htree.isName _ _ _ hentry) hpath
    rw [← walkEntries_of_blocked rest hturn] at hfit
    have hturns := turn_within hbase htree ht hentry (short_child_iff hfit hchild)
    rw [hturn] at hturns
    generalize hturn' : fs.turn t name e = turn at hturns
    cases hturns
    rw [walkEntries_of_blocked rest hturn']
    exact .fail ⟨hchild, rfl⟩

end FileSystem

end EnvAudit
