import EnvAudit.Proofs.Files.Walk
import Mathlib.Data.List.Forall2

/-!
# EnvAudit.Proofs.Files.Alike

Trees that differ in what their files hold, and in nothing else:

1. in such trees names stand for entries of the same kind (`Entry.Alike`), and paths lead to the
   same places (`FileSystem.Alike.lead`);
2. a walk comes to the same files in the same order and ends in the same way
   (`FileSystem.Alike.walk`).
-/

namespace EnvAudit

/-! ## Entries -/

mutual

/-- Entries that differ in what their files hold only; `P` says how contents may differ. -/
inductive Entry.Alike (P : Except Fault Bytes → Except Fault Bytes → Prop) : Entry → Entry → Prop
  | file {c d : Except Fault Bytes} (program : Bool) :
      P c d → Entry.Alike P (.file c program) (.file d program)
  | link (target : Path) : Entry.Alike P (.link target) (.link target)
  | dir {a b : List (String × Entry)} (access : Access) :
      Entry.AlikeAll P a b → Entry.Alike P (.dir access a) (.dir access b)

/-- Entries of directories with the same names in the same order. -/
inductive Entry.AlikeAll (P : Except Fault Bytes → Except Fault Bytes → Prop) :
    List (String × Entry) → List (String × Entry) → Prop
  | nil : Entry.AlikeAll P [] []
  | cons {e f : Entry} {a b : List (String × Entry)} (name : String) :
      Entry.Alike P e f → Entry.AlikeAll P a b → Entry.AlikeAll P ((name, e) :: a) ((name, f) :: b)

end

variable {P : Except Fault Bytes → Except Fault Bytes → Prop}

theorem rel_none_iff {α β : Type} {r : α → β → Prop} {o : Option β} :
    Option.Rel r none o ↔ o = none :=
  ⟨fun h => by cases h; rfl, by rintro rfl; exact .none⟩

theorem rel_some_iff {α β : Type} {r : α → β → Prop} {a : α} {o : Option β} :
    Option.Rel r (some a) o ↔ ∃ b, o = some b ∧ r a b :=
  ⟨fun h => by cases h with | some h => exact ⟨_, rfl, h⟩, by rintro ⟨b, rfl, h⟩; exact .some h⟩

namespace Entry

mutual

theorem Alike.refl (h : ∀ c, P c c) : (e : Entry) → Alike P e e
  | .file _ program => .file program (h _)
  | .link target => .link target
  | .dir access entries => .dir access (AlikeAll.refl h entries)

theorem AlikeAll.refl (h : ∀ c, P c c) :
    (entries : List (String × Entry)) → AlikeAll P entries entries
  | [] => .nil
  | (name, e) :: rest => .cons name (Alike.refl h e) (AlikeAll.refl h rest)

end

theorem alikeAll_iff {a b : List (String × Entry)} :
    AlikeAll P a b ↔ List.Forall₂ (fun p q => p.1 = q.1 ∧ Alike P p.2 q.2) a b := by
  constructor
  · intro h
    induction a generalizing b with
    | nil =>
      cases h
      exact .nil
    | cons p a ih =>
      cases h with
      | cons name he ha => exact .cons ⟨rfl, he⟩ (ih ha)
  · intro h
    induction h with
    | nil => exact .nil
    | @cons p q a b hpq _ ih =>
      obtain ⟨name, e⟩ := p
      obtain ⟨name', f⟩ := q
      obtain ⟨rfl, he⟩ := hpq
      exact .cons name he ih

theorem Alike.ne_link {e f : Entry} (h : Alike P e f) (he : ∀ target, e ≠ .link target)
    (target : Path) : f ≠ .link target := by
  rintro rfl
  cases h
  exact he target rfl

theorem Alike.ne_dir {e f : Entry} (h : Alike P e f)
    (he : ∀ access entries, e ≠ .dir access entries) (access : Access)
    (entries : List (String × Entry)) : f ≠ .dir access entries := by
  rintro rfl
  cases h
  exact he access _ rfl

theorem Alike.isLink {e f : Entry} (h : Alike P e f) : f.isLink = e.isLink := by
  cases h <;> rfl

/-- A name stands for alike entries. -/
theorem AlikeAll.lookup {a b : List (String × Entry)} (h : AlikeAll P a b) (name : String) :
    Option.Rel (Alike P) (a.lookup name) (b.lookup name) := by
  induction a generalizing b with
  | nil =>
    cases h
    exact .none
  | cons p a ih =>
    cases h with
    | @cons _ _ _ _ name' he ha =>
      simp only [List.lookup_cons]
      split
      · exact .some he
      · exact ih ha

/-- A name that is a link in the one directory is the same link in the other. -/
theorem AlikeAll.lookup_link {a b : List (String × Entry)} (h : AlikeAll P a b) {name : String}
    {target : Path} (ha : a.lookup name = some (.link target)) :
    b.lookup name = some (.link target) := by
  obtain ⟨f, hf, hlink⟩ := rel_some_iff.1 (ha ▸ h.lookup name)
  cases hlink
  exact hf

/-- At one location in trees that are alike stand entries that are alike. -/
theorem Alike.find? {e f : Entry} (h : Alike P e f) (location : Location) :
    Option.Rel (Alike P) (e.find? location) (f.find? location) := by
  induction location generalizing e f with
  | nil =>
    simp only [Entry.find?]
    exact .some h
  | cons name rest ih =>
    cases h with
    | file => simp only [Entry.find?]; exact .none
    | link => simp only [Entry.find?]; exact .none
    | @dir a b access ha =>
      simp only [Entry.find?]
      have hlookup := ha.lookup name
      cases hname : a.lookup name with
      | none =>
        rw [hname, rel_none_iff] at hlookup
        rw [hlookup]
        exact .none
      | some e =>
        rw [hname, rel_some_iff] at hlookup
        obtain ⟨f, hf, he⟩ := hlookup
        rw [hf]
        exact ih he

/-- Entries that correspond under the same names still do so when they are sorted. -/
theorem forall₂_sorted {r : Entry → Entry → Prop} {a b : List (String × Entry)}
    (h : List.Forall₂ (fun p q => p.1 = q.1 ∧ r p.2 q.2) a b) :
    List.Forall₂ (fun p q => p.1 = q.1 ∧ r p.2 q.2) (sorted a) (sorted b) := by
  -- Both lists are sorted as one list of pairs, whose names are the same on both sides.
  have hpairs := fun p (hp : p ∈ a.zip b) => List.forall₂_zip h (a := p.1) (b := p.2) hp
  have hfst : (a.zip b).map Prod.fst = a := List.map_fst_zip (Nat.le_of_eq h.length_eq)
  have hsnd : (a.zip b).map Prod.snd = b := List.map_snd_zip (Nat.le_of_eq h.length_eq.symm)
  generalize a.zip b = pairs at hpairs hfst hsnd
  subst hfst
  subst hsnd
  rw [sorted, sorted, ← List.map_mergeSort (r := fun p q => p.1.1 ≤ q.1.1) (by simp),
    ← List.map_mergeSort (r := fun p q => p.1.1 ≤ q.1.1)]
  · rw [List.forall₂_map_left_iff, List.forall₂_map_right_iff, List.forall₂_same]
    exact fun p hp => hpairs p (List.mem_mergeSort.1 hp)
  · intro p hp q hq
    rw [(hpairs p hp).1, (hpairs q hq).1]

theorem AlikeAll.sorted {a b : List (String × Entry)} (h : AlikeAll P a b) :
    AlikeAll P (Entry.sorted a) (Entry.sorted b) :=
  alikeAll_iff.2 (forall₂_sorted (alikeAll_iff.1 h))

end Entry

/-! ## Walks -/

/-- Visits of one path, with alike contents. -/
structure Visit.Alike (P : Except Fault Bytes → Except Fault Bytes → Prop) (v w : Visit) :
    Prop where
  path : v.path = w.path
  content : P v.content w.content

/-- Walks to the same files that end in the same way. -/
structure Walk.Alike (P : Except Fault Bytes → Except Fault Bytes → Prop) (x y : Walk) : Prop where
  notes : List.Forall₂ (Visit.Alike P) x.notes y.notes
  result : x.result = y.result

namespace Walk.Alike

theorem fail (b : Blocked) : Walk.Alike P (.fail b) (.fail b) := ⟨.nil, rfl⟩

theorem note {c d : Except Fault Bytes} (path : Path) (h : P c d) :
    Walk.Alike P (.note ⟨path, c⟩) (.note ⟨path, d⟩) :=
  ⟨.cons ⟨rfl, h⟩ .nil, rfl⟩

/-- One walk and another behind it. -/
theorem bind {x y v w : Walk} (h : x.Alike P y) (hv : v.Alike P w) :
    Walk.Alike P (x >>= fun _ => v) (y >>= fun _ => w) := by
  cases hx : x.result with
  | error e =>
    rw [Traced.bind_of_error hx, Traced.bind_of_error (h.result ▸ hx)]
    exact ⟨h.notes, rfl⟩
  | ok u =>
    rw [Traced.bind_of_ok hx, Traced.bind_of_ok (h.result ▸ hx)]
    exact ⟨List.rel_append h.notes hv.notes, hv.result⟩

end Walk.Alike

/-- What a walk comes to, the same but for what files hold. -/
inductive Turn.Alike (P : Except Fault Bytes → Except Fault Bytes → Prop) : Turn → Turn → Prop
  | file {c d : Except Fault Bytes} : P c d → Turn.Alike P (.file c) (.file d)
  | dir (location : Location) (links : Nat) (search : Option Fault)
      {a b : List (String × Entry)} : Entry.AlikeAll P a b →
      Turn.Alike P (.dir location links search a) (.dir location links search b)
  | blocked (b : Blocked) : Turn.Alike P (.blocked b) (.blocked b)

/-! ## Where paths lead -/

/-- Both fail in the same way, or what they give is related. -/
inductive Agree {ε α β : Type} (r : α → β → Prop) : Except ε α → Except ε β → Prop
  | ok {a : α} {b : β} : r a b → Agree r (.ok a) (.ok b)
  | error (e : ε) : Agree r (.error e) (.error e)

/-- Arrivals at one location, at alike entries. -/
structure Arrival.Alike (P : Except Fault Bytes → Except Fault Bytes → Prop) (a b : Arrival) :
    Prop where
  location : a.location = b.location
  entry : a.entry.Alike P b.entry
  links : a.links = b.links

/-- Leads to the same place. -/
inductive Lead.Alike (P : Except Fault Bytes → Except Fault Bytes → Prop) : Lead → Lead → Prop
  | arrived {a b : Arrival} : a.Alike P b → Lead.Alike P (.arrived a) (.arrived b)
  | vacant (dir : Location) (name : String) : Lead.Alike P (.vacant dir name) (.vacant dir name)

namespace FileSystem

/-- Trees that differ in what their files hold only. -/
structure Alike (P : Except Fault Bytes → Except Fault Bytes → Prop) (fs fs' : FileSystem) :
    Prop where
  root : fs.root.Alike P fs'.root
  current : fs'.current = fs.current

namespace Alike

variable {fs fs' : FileSystem} (h : fs.Alike P fs')
include h

/-- At one location the two file systems have entries that are alike. -/
theorem entryAt? (location : Location) :
    Option.Rel (Entry.Alike P) (fs.entryAt? location) (fs'.entryAt? location) :=
  h.root.find? location

theorem entryAt?_eq_none {location : Location} (ha : fs.entryAt? location = none) :
    fs'.entryAt? location = none :=
  rel_none_iff.1 (ha ▸ h.entryAt? location)

theorem entries {location : Location} {access : Access} {a : List (String × Entry)}
    (ha : fs.entryAt? location = some (.dir access a)) :
    ∃ b, fs'.entryAt? location = some (.dir access b) ∧ Entry.AlikeAll P a b := by
  obtain ⟨f, hf, halike⟩ := rel_some_iff.1 (ha ▸ h.entryAt? location)
  cases halike with
  | dir _ hab => exact ⟨_, hf, hab⟩

/-- The same moves lead to entries that are alike, or to the same fault. -/
theorem follow (links : Nat) (location : Location) (moves : List Move) :
    Agree (Lead.Alike P) (fs.follow links location moves) (fs'.follow links location moves) := by
  fun_induction fs.follow links location moves with
  | case1 links location e he =>
    obtain ⟨f, hf, halike⟩ := rel_some_iff.1 (he ▸ h.entryAt? location)
    rw [FileSystem.follow, hf]
    exact .ok (.arrived ⟨rfl, halike, rfl⟩)
  | case2 links location he =>
    rw [FileSystem.follow, h.entryAt?_eq_none he]
    exact .error _
  | case3 links location move moves he =>
    rw [follow_cons_of_none (h.entryAt?_eq_none he)]
    exact .error _
  | case4 links location move moves access entries he f hsearch =>
    obtain ⟨entries', he', -⟩ := h.entries he
    rw [follow_cons_of_search he' hsearch]
    exact .error _
  | case5 links location moves access entries he hsearch ih =>
    obtain ⟨entries', he', -⟩ := h.entries he
    rw [follow_stay_cons he' hsearch]
    exact ih
  | case6 links location moves access entries he hsearch ih =>
    obtain ⟨entries', he', -⟩ := h.entries he
    rw [follow_up_cons he' hsearch]
    exact ih
  | case7 links location moves access entries he hsearch name hlong =>
    obtain ⟨entries', he', -⟩ := h.entries he
    rw [follow_enter_of_long he' hsearch hlong]
    exact .error _
  | case8 links location access entries he hsearch name hlong hname =>
    obtain ⟨entries', he', halike⟩ := h.entries he
    rw [follow_enter_of_none he' hsearch hlong (rel_none_iff.1 (hname ▸ halike.lookup name))]
    exact .ok (.vacant _ _)
  | case9 links location moves access entries he hsearch name hlong hname hmoves =>
    obtain ⟨entries', he', halike⟩ := h.entries he
    rw [follow_enter_of_none he' hsearch hlong (rel_none_iff.1 (hname ▸ halike.lookup name)),
      if_neg hmoves]
    exact .error _
  | case10 location moves access entries he hsearch name hlong target hname =>
    obtain ⟨entries', he', halike⟩ := h.entries he
    rw [follow_enter_of_link_zero he' hsearch hlong (halike.lookup_link hname)]
    exact .error _
  | case11 location moves access entries he hsearch name hlong target hname links ih =>
    obtain ⟨entries', he', halike⟩ := h.entries he
    rw [follow_enter_of_link he' hsearch hlong (halike.lookup_link hname)]
    exact ih
  | case12 links location moves access entries he hsearch name hlong e hlink hname ih =>
    obtain ⟨entries', he', halike⟩ := h.entries he
    obtain ⟨f, hf, hef⟩ := rel_some_iff.1 (hname ▸ halike.lookup name)
    rw [follow_enter_of_some he' hsearch hlong hf (hef.ne_link hlink)]
    exact ih
  | case13 links location move moves e hdir he =>
    obtain ⟨f, hf, hef⟩ := rel_some_iff.1 (he ▸ h.entryAt? location)
    rw [follow_cons_of_not_dir hf (hef.ne_dir hdir)]
    exact .error _

theorem lead (p : Path) : Agree (Lead.Alike P) (fs.lead p) (fs'.lead p) := by
  simp only [FileSystem.lead, h.current]
  split
  · exact .error _
  · split
    · exact .error _
    · split
      · exact .error _
      · exact h.follow _ _ _

/-- A path resolves to entries that are alike, or to the same fault. -/
theorem resolve (p : Path) : Agree (Arrival.Alike P) (fs.resolve p) (fs'.resolve p) := by
  have hlead := h.lead p
  simp only [FileSystem.resolve]
  generalize fs.lead p = x at hlead ⊢
  generalize fs'.lead p = y at hlead ⊢
  rcases hlead with (ha | _) | _
  · exact .ok ha
  · exact .error _
  · exact .error _

/-- A link resolves to entries that are alike, or to the same fault. -/
theorem resolveLink (links : Nat) (location : Location) (target : Path) :
    Agree (Arrival.Alike P) (fs.resolveLink links location target)
      (fs'.resolveLink links location target) := by
  cases links with
  | zero => exact .error _
  | succ links =>
    have hlead := h.follow links (if target.isAbsolute then [] else location) target.moves
    simp only [FileSystem.resolveLink]
    generalize fs.follow links _ _ = x at hlead ⊢
    generalize fs'.follow links _ _ = y at hlead ⊢
    rcases hlead with (ha | _) | _
    · exact .ok ha
    · exact .error _
    · exact .error _

/-- A path is a link in both or in neither. -/
theorem isLink (p : Path) : fs'.isLink p = fs.isLink p := by
  rw [FileSystem.isLink, FileSystem.isLink, h.current]
  cases p.moves.getLast? with
  | none => rfl
  | some move =>
    cases move with
    | stay | up => rfl
    | enter name =>
      have hfollow := h.follow maxLinks (if p.isAbsolute then [] else fs.current) p.moves.dropLast
      simp only
      generalize fs.follow maxLinks _ p.moves.dropLast = x at hfollow ⊢
      generalize fs'.follow maxLinks _ p.moves.dropLast = y at hfollow ⊢
      rcases hfollow with (@⟨⟨_, e, _⟩, ⟨_, f, _⟩, _, he, _⟩ | _) | _
      · cases he with
        | file | link => rfl
        | @dir a b access hab =>
          have hlookup := hab.lookup name
          simp only
          generalize a.lookup name = x at hlookup ⊢
          generalize b.lookup name = y at hlookup ⊢
          cases hlookup with
          | none => rfl
          | some he => exact he.isLink
      · rfl
      · rfl

/-- A walk comes to the same at alike entries. -/
theorem turn (hP : ∀ f, P (.error f) (.error f)) (s : Stand) (name : String) {e f : Entry}
    (he : e.Alike P f) : Turn.Alike P (fs.turn s name e) (fs'.turn s name f) := by
  cases he with
  | file _ hcontent =>
    cases hobstruction : s.obstruction? name with
    | none =>
      simp only [FileSystem.turn, reading_of_none hobstruction]
      exact .file hcontent
    | some f =>
      simp only [FileSystem.turn, reading_of_some hobstruction]
      exact .file (hP f)
  | dir access hab =>
    simp only [FileSystem.turn]
    split
    · exact .blocked _
    · exact .dir _ _ _ hab
  | link target =>
    simp only [FileSystem.turn]
    split
    · exact .blocked _
    · have hlink := h.resolveLink s.links s.location target
      simp only [turnAlong]
      generalize fs.resolveLink s.links s.location target = x at hlink ⊢
      generalize fs'.resolveLink s.links s.location target = y at hlink ⊢
      rcases hlink with ha | f
      · next a b =>
        obtain ⟨location, e, links⟩ := a
        obtain ⟨location', e', links'⟩ := b
        obtain ⟨rfl, he, rfl⟩ := ha
        cases he with
        | file _ hcontent => exact .file hcontent
        | link => exact .blocked _
        | dir access hab =>
          simp only
          split
          · exact .blocked _
          · split
            · exact .blocked _
            · exact .dir _ _ _ hab
      · exact .blocked _

/-- From one stand the walks through directories that are alike are alike. -/
theorem walkEntries (hP : ∀ f, P (.error f) (.error f)) (s : Stand)
    {a b : List (String × Entry)} (hab : Entry.AlikeAll P a b) :
    Walk.Alike P (fs.walkEntries s a) (fs'.walkEntries s b) := by
  have hturns := fun s name {e f : Entry} (he : e.Alike P f) => h.turn hP s name he
  fun_induction fs.walkEntries s a generalizing b with
  | case1 s =>
    cases hab
    rw [FileSystem.walkEntries]
    exact ⟨.nil, rfl⟩
  | case2 s name e rest content hturn ih =>
    cases hab with
    | @cons _ f _ _ _ he hrest =>
      have hturn' := hturn ▸ hturns s name he
      generalize hf : fs'.turn s name f = t at hturn'
      cases hturn' with
      | file hcontent =>
        rw [walkEntries_of_file _ hf]
        exact .bind (.note _ hcontent) (ih hrest)
  | case3 s name e rest location links search entries hturn ih ihrest =>
    cases hab with
    | @cons _ f _ _ _ he hrest =>
      have hturn' := hturn ▸ hturns s name he
      generalize hf : fs'.turn s name f = t at hturn'
      cases hturn' with
      | dir _ _ _ hentries =>
        rw [walkEntries_of_dir _ hf]
        exact .bind (ih hentries.sorted) (ihrest hrest)
  | case4 s name e rest stop hturn =>
    cases hab with
    | @cons _ f _ _ _ he hrest =>
      have hturn' := hturn ▸ hturns s name he
      generalize hf : fs'.turn s name f = t at hturn'
      cases hturn'
      rw [walkEntries_of_blocked _ hf]
      exact .fail _

/-- Walks from one path are alike. -/
theorem walk (hP : ∀ f, P (.error f) (.error f)) (p : Path) :
    Walk.Alike P (fs.walk p) (fs'.walk p) := by
  have hresolve := h.resolve p
  simp only [FileSystem.walk, h.isLink]
  generalize fs.resolve p = x at hresolve ⊢
  generalize fs'.resolve p = y at hresolve ⊢
  rcases hresolve with ha | f
  · next a b =>
    obtain ⟨location, e, links⟩ := a
    obtain ⟨location', e', links'⟩ := b
    obtain ⟨rfl, he, rfl⟩ := ha
    cases he with
    | file _ hcontent => exact .note p hcontent
    | link => exact .fail _
    | dir access hentries =>
      simp only
      split
      · exact .fail _
      · exact h.walkEntries hP _ hentries.sorted
  · exact .fail _

end Alike

end FileSystem

end EnvAudit
