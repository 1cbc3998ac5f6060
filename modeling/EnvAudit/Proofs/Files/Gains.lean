import EnvAudit.Files.Edit
import EnvAudit.Proofs.Files.Alike
import EnvAudit.Proofs.Files.Below
import EnvAudit.Proofs.Files.Lead
import EnvAudit.Proofs.Files.Within
import EnvAudit.Proofs.Files.Write

/-!
# EnvAudit.Proofs.Files.Gains

A tree and the same tree with a file made in one of its directories, under a name that the directory
did not have:

1. what is found somewhere in the first tree is found there in the second one, and beyond this
   nothing is found but the file (`Entry.Gains.find?`);
2. so it is with what paths lead to (`FileSystem.Gains.follow`), and what can be read is still read
   (`FileSystem.Gains.read`);
3. a walk that comes to an end does so in the second tree too, and then all that it may come to
   besides are paths that end in the name of the file (`FileSystem.Gains.walk`).
-/

namespace EnvAudit

namespace Entry

variable {name : String} {content : Except Fault Bytes}

/-- An entry, and the same with a file made under a name that one of its directories did not
have. -/
inductive Gains (name : String) (content : Except Fault Bytes) : Entry → Entry → Prop
  | same (e : Entry) : Gains name content e e
  | here {access : Access} {entries : List (String × Entry)} : entries.lookup name = none →
      Gains name content (.dir access entries)
        (.dir access (putEntry entries name (.file content false)))
  | inside {access : Access} {entries : List (String × Entry)} {n : String} {e f : Entry} :
      entries.lookup n = some e → Gains name content e f →
        Gains name content (.dir access entries) (.dir access (putEntry entries n f))

/-- What is found in one place of such entries. -/
inductive GainsAt (name : String) (content : Except Fault Bytes) :
    Option Entry → Option Entry → Prop
  | neither : GainsAt name content none none
  | both {e f : Entry} : e.Gains name content f → GainsAt name content (some e) (some f)
  | made : GainsAt name content none (some (.file content false))

/-- Entries of a directory, and the same with the made file among them. -/
inductive GainsAll (name : String) (content : Except Fault Bytes) :
    List (String × Entry) → List (String × Entry) → Prop
  | nil : GainsAll name content [] []
  | cons {e f : Entry} {a b : List (String × Entry)} (n : String) : e.Gains name content f →
      GainsAll name content a b → GainsAll name content ((n, e) :: a) ((n, f) :: b)
  | made {a b : List (String × Entry)} : GainsAll name content a b →
      GainsAll name content a ((name, .file content false) :: b)

/-! ## Gaining a file -/

theorem GainsAt.refl : (found : Option Entry) → GainsAt name content found found
  | none => .neither
  | some e => .both (.same e)

theorem GainsAll.refl (entries : List (String × Entry)) :
    GainsAll name content entries entries := by
  induction entries with
  | nil => exact .nil
  | cons p entries ih => exact .cons p.1 (.same p.2) ih

/-- A file that was there stays as it is. -/
theorem Gains.eq_file {c : Except Fault Bytes} {program : Bool} {f : Entry}
    (h : (Entry.file c program).Gains name content f) : f = .file c program := by
  cases h
  rfl

/-- A directory that was there stays one. -/
theorem Gains.exists_dir {access : Access} {a : List (String × Entry)} {f : Entry}
    (h : (Entry.dir access a).Gains name content f) : ∃ b, f = .dir access b := by
  cases h <;> exact ⟨_, rfl⟩

theorem Gains.ne_link {e f : Entry} (h : e.Gains name content f)
    (he : ∀ target, e ≠ .link target) (target : Path) : f ≠ .link target := by
  rintro rfl
  cases h
  exact he target rfl

theorem Gains.ne_dir {e f : Entry} (h : e.Gains name content f)
    (he : ∀ access entries, e ≠ .dir access entries) (access : Access)
    (entries : List (String × Entry)) : f ≠ .dir access entries := by
  rintro rfl
  cases h <;> exact he _ _ rfl

/-- What a name stands for. -/
theorem Gains.lookup {access : Access} {a b : List (String × Entry)}
    (h : (Entry.dir access a).Gains name content (.dir access b)) (n : String) :
    GainsAt name content (a.lookup n) (b.lookup n) := by
  cases h with
  | same => exact .refl _
  | here hnone =>
    by_cases hn : n = name
    · subst hn
      rw [hnone, lookup_putEntry]
      exact .made
    · rw [lookup_putEntry_of_ne hn]
      exact .refl _
  | @inside _ _ m e f hlookup he =>
    by_cases hn : n = m
    · subst hn
      rw [hlookup, lookup_putEntry]
      exact .both he
    · rw [lookup_putEntry_of_ne hn]
      exact .refl _

/-- At every location stands what was there, or the file gained. -/
theorem Gains.find? {e f : Entry} (h : e.Gains name content f) (location : Location) :
    GainsAt name content (e.find? location) (f.find? location) := by
  induction location generalizing e f with
  | nil => exact .both h
  | cons n rest ih =>
    have hdir : ∀ {access : Access} {a b : List (String × Entry)},
        (Entry.dir access a).Gains name content (.dir access b) →
          GainsAt name content ((Entry.dir access a).find? (n :: rest))
            ((Entry.dir access b).find? (n :: rest)) := by
      intro access a b hab
      have hlookup := hab.lookup n
      simp only [Entry.find?]
      generalize a.lookup n = x at hlookup
      generalize b.lookup n = y at hlookup
      cases hlookup with
      | neither => exact .neither
      | both he => exact ih he
      | made =>
        cases rest with
        | nil => exact .made
        | cons => exact .neither
    cases h with
    | same => exact .refl _
    | here hnone => exact hdir (.here hnone)
    | inside hlookup he => exact hdir (.inside hlookup he)

theorem gainsAll_of_forall₂ {a b : List (String × Entry)}
    (h : List.Forall₂ (fun p q => p.1 = q.1 ∧ p.2.Gains name content q.2) a b) :
    GainsAll name content a b := by
  induction h with
  | nil => exact .nil
  | @cons p q a b hpq _ ih =>
    obtain ⟨n, e⟩ := p
    obtain ⟨n', f⟩ := q
    obtain ⟨rfl, he⟩ := hpq
    exact .cons n he ih

/-- Entries of which some are left out, all of them the made file. -/
theorem gainsAll_of_filter {b : List (String × Entry)}
    (h : ∀ p ∈ b, p.1 = name → p.2 = .file content false) :
    GainsAll name content (b.filter fun p => p.1 ≠ name) b := by
  induction b with
  | nil => exact .nil
  | cons p b ih =>
    obtain ⟨n, e⟩ := p
    obtain ⟨hp, hb⟩ := List.forall_mem_cons.1 h
    by_cases hn : n = name
    · obtain rfl := hp hn
      rw [List.filter_cons_of_neg (by simpa using hn), hn]
      exact .made (ih hb)
    · rw [List.filter_cons_of_pos (by simpa using hn)]
      exact .cons n (.same e) (ih hb)

/-- The entries stay sorted around the file gained. -/
theorem Gains.sorted {access : Access} {a b : List (String × Entry)}
    (h : (Entry.dir access a).Gains name content (.dir access b)) :
    GainsAll name content (Entry.sorted a) (Entry.sorted b) := by
  cases h with
  | same => exact .refl _
  | here hnone =>
    have hne : a.filter (fun p => p.1 ≠ name) = a :=
      List.filter_eq_self.2 fun p hp => by simpa using ne_of_lookup_eq_none hnone hp
    have hkept : (a ++ [(name, Entry.file content false)]).filter (fun p => p.1 ≠ name) = a := by
      rw [List.filter_append, hne]
      simp
    rw [putEntry_of_lookup_eq_none hnone]
    have hmade : ∀ p ∈ Entry.sorted (a ++ [(name, Entry.file content false)]),
        p.1 = name → p.2 = .file content false := by
      intro p hp hn
      rcases List.mem_append.1 (mem_sorted.1 hp) with hp | hp
      · exact absurd hn (ne_of_lookup_eq_none hnone hp)
      · rw [List.mem_singleton.1 hp]
    have hall := gainsAll_of_filter hmade
    rwa [filter_sorted, hkept] at hall
  | inside hlookup he =>
    exact gainsAll_of_forall₂ (forall₂_sorted (forall₂_putEntry (fun e => .same e) hlookup he))

/-- Making a file in a directory that has nothing of its name. -/
theorem gains_changeDir {root : Entry} {place : Location} {access : Access}
    {entries : List (String × Entry)} (hdir : root.find? place = some (.dir access entries))
    (hnone : entries.lookup name = none) :
    root.Gains name content
      (root.changeDir (fun es => putEntry es name (.file content false)) place) := by
  induction place generalizing root with
  | nil =>
    cases hdir
    exact .here hnone
  | cons n place ih =>
    cases root with
    | file => simp [Entry.find?] at hdir
    | link => simp [Entry.find?] at hdir
    | dir access es =>
      simp only [Entry.find?, Option.bind_eq_some_iff] at hdir
      obtain ⟨child, hchild, hdir⟩ := hdir
      simp only [changeDir, hchild]
      exact .inside hchild (ih hdir)

end Entry

/-! ## Trees -/

variable {name : String} {content : Except Fault Bytes}

/-- What paths lead to in such trees. -/
inductive Arrival.Gains (name : String) (content : Except Fault Bytes) :
    Except Fault Arrival → Except Fault Arrival → Prop
  | neither (f g : Fault) : Arrival.Gains name content (.error f) (.error g)
  | both {e f : Entry} (location : Location) (links : Nat) : e.Gains name content f →
      Arrival.Gains name content (.ok ⟨location, e, links⟩) (.ok ⟨location, f, links⟩)
  | made (f : Fault) (location : Location) (links : Nat) :
      Arrival.Gains name content (.error f) (.ok ⟨location, .file content false, links⟩)

/-- What a walk comes to in such trees. Nothing is said of where the first walk is stopped. -/
inductive Turn.Gains (name : String) (content : Except Fault Bytes) : Turn → Turn → Prop
  | blocked (b : Blocked) (t : Turn) : Turn.Gains name content (.blocked b) t
  | file (c : Except Fault Bytes) : Turn.Gains name content (.file c) (.file c)
  | dir {access : Access} {a b : List (String × Entry)} (location : Location) (links : Nat)
      (search : Option Fault) : (Entry.dir access a).Gains name content (.dir access b) →
      Turn.Gains name content (.dir location links search a) (.dir location links search b)

/-- Trees of which the second one has one file more. -/
structure FileSystem.Gains (name : String) (content : Except Fault Bytes) (fs fs' : FileSystem) :
    Prop where
  root : fs.root.Gains name content fs'.root
  current : fs'.current = fs.current

namespace FileSystem.Gains

variable {fs fs' : FileSystem} (h : fs.Gains name content fs')
include h

/-- At every location the file system has what it had, or the file gained. -/
theorem entryAt? (location : Location) :
    Entry.GainsAt name content (fs.entryAt? location) (fs'.entryAt? location) :=
  h.root.find? location

/-- A directory keeps its entries and may gain the file. -/
theorem entries {location : Location} {access : Access} {a : List (String × Entry)}
    (ha : fs.entryAt? location = some (.dir access a)) :
    ∃ b, fs'.entryAt? location = some (.dir access b) ∧
      (Entry.dir access a).Gains name content (.dir access b) := by
  have hentry := h.entryAt? location
  rw [ha] at hentry
  generalize hb : fs'.entryAt? location = y at hentry
  cases hentry with
  | both he =>
    obtain ⟨b, rfl⟩ := he.exists_dir
    exact ⟨b, rfl, he⟩

/-- What a name stands for in a directory. -/
theorem lookup {location : Location} {access : Access} {a : List (String × Entry)}
    (ha : fs.entryAt? location = some (.dir access a)) (n : String) :
    ∃ b, fs'.entryAt? location = some (.dir access b) ∧
      Entry.GainsAt name content (a.lookup n) (b.lookup n) := by
  obtain ⟨b, hb, hab⟩ := h.entries ha
  exact ⟨b, hb, hab.lookup n⟩

/-- From where there is nothing, or only the made file, moves lead nowhere. -/
theorem exists_error_of_none {location : Location} (hnone : fs.entryAt? location = none)
    (links : Nat) (move : Move) (moves : List Move) :
    ∃ f, fs'.follow links location (move :: moves) = .error f := by
  have hentry := h.entryAt? location
  rw [hnone] at hentry
  rw [FileSystem.follow]
  generalize fs'.entryAt? location = y at hentry
  cases hentry with
  | neither => exact ⟨_, rfl⟩
  | made => exact ⟨_, rfl⟩

/-- Links stay in their places. -/
theorem lookup_link {location : Location} {access : Access} {a : List (String × Entry)}
    {n : String} {target : Path} (ha : fs.entryAt? location = some (.dir access a))
    (hn : a.lookup n = some (.link target)) :
    ∃ b, fs'.entryAt? location = some (.dir access b) ∧ b.lookup n = some (.link target) := by
  obtain ⟨b, hb, hlookup⟩ := h.lookup ha n
  rw [hn] at hlookup
  generalize hm : b.lookup n = y at hlookup
  cases hlookup with
  | both he =>
    cases he
    exact ⟨b, hb, hm⟩

/-- Other entries stay in their places. -/
theorem lookup_some {location : Location} {access : Access} {a : List (String × Entry)}
    {n : String} {e : Entry} (ha : fs.entryAt? location = some (.dir access a))
    (hn : a.lookup n = some e) (hlink : ∀ target, e ≠ .link target) :
    ∃ b f, fs'.entryAt? location = some (.dir access b) ∧ b.lookup n = some f ∧
      ∀ target, f ≠ .link target := by
  obtain ⟨b, hb, hlookup⟩ := h.lookup ha n
  rw [hn] at hlookup
  generalize hm : b.lookup n = y at hlookup
  cases hlookup with
  | both he => exact ⟨b, _, hb, hm, he.ne_link hlink⟩

/-- Moves that led somewhere lead to what was there. -/
theorem follow (links : Nat) (location : Location) (moves : List Move) :
    Arrival.Gains name content (arrival (fs.follow links location moves))
      (arrival (fs'.follow links location moves)) := by
  fun_induction fs.follow links location moves with
  | case1 links location e he =>
    have hentry := h.entryAt? location
    rw [he] at hentry
    rw [FileSystem.follow]
    generalize fs'.entryAt? location = y at hentry
    cases hentry with
    | both hef => exact .both location links hef
  | case2 links location he =>
    have hentry := h.entryAt? location
    rw [he] at hentry
    rw [FileSystem.follow]
    generalize fs'.entryAt? location = y at hentry
    cases hentry with
    | neither => exact .neither _ _
    | made => exact .made _ location links
  | case3 links location move moves he =>
    obtain ⟨f, hf⟩ := h.exists_error_of_none he links move moves
    rw [hf]
    exact .neither _ _
  | case4 links location move moves access a he f hsearch =>
    obtain ⟨b, hb, -⟩ := h.entries he
    rw [follow_cons_of_search hb hsearch]
    exact .neither _ _
  | case5 links location moves access a he hsearch ih =>
    obtain ⟨b, hb, -⟩ := h.entries he
    rw [follow_stay_cons hb hsearch]
    exact ih
  | case6 links location moves access a he hsearch ih =>
    obtain ⟨b, hb, -⟩ := h.entries he
    rw [follow_up_cons hb hsearch]
    exact ih
  | case7 links location moves access a he hsearch n hlong =>
    obtain ⟨b, hb, -⟩ := h.entries he
    rw [follow_enter_of_long hb hsearch hlong]
    exact .neither _ _
  | case8 links location access a he hsearch n hlong hn =>
    obtain ⟨b, hb, hlookup⟩ := h.lookup he n
    rw [hn] at hlookup
    generalize hm : b.lookup n = y at hlookup
    cases hlookup with
    | neither =>
      rw [follow_enter_of_none hb hsearch hlong hm]
      exact .neither _ _
    | made =>
      have hmade : fs'.entryAt? (location ++ [n]) = some (.file content false) :=
        Entry.find?_concat hb hm
      rw [follow_enter_of_some hb hsearch hlong hm (fun _ => by simp)]
      simp only [FileSystem.follow, hmade]
      exact .made _ _ links
  | case9 links location moves access a he hsearch n hlong hn hmoves =>
    obtain ⟨b, hb, hlookup⟩ := h.lookup he n
    rw [hn] at hlookup
    generalize hm : b.lookup n = y at hlookup
    cases hlookup with
    | neither =>
      rw [follow_enter_of_none hb hsearch hlong hm, if_neg hmoves]
      exact .neither _ _
    | made =>
      have hmade : fs'.entryAt? (location ++ [n]) = some (.file content false) :=
        Entry.find?_concat hb hm
      obtain ⟨move, moves, rfl⟩ := List.exists_cons_of_ne_nil hmoves
      rw [follow_enter_of_some hb hsearch hlong hm (fun _ => by simp),
        follow_cons_of_not_dir hmade (fun _ _ => by simp)]
      exact .neither _ _
  | case10 location moves access a he hsearch n hlong target hn =>
    obtain ⟨b, hb, hm⟩ := h.lookup_link he hn
    rw [follow_enter_of_link_zero hb hsearch hlong hm]
    exact .neither _ _
  | case11 location moves access a he hsearch n hlong target hn links ih =>
    obtain ⟨b, hb, hm⟩ := h.lookup_link he hn
    rw [follow_enter_of_link hb hsearch hlong hm]
    exact ih
  | case12 links location moves access a he hsearch n hlong e hlink hn ih =>
    obtain ⟨b, f, hb, hm, hf⟩ := h.lookup_some he hn hlink
    rw [follow_enter_of_some hb hsearch hlong hm hf]
    exact ih
  | case13 links location move moves e hdir he =>
    have hentry := h.entryAt? location
    rw [he] at hentry
    generalize hy : fs'.entryAt? location = y at hentry
    cases hentry with
    | both hef =>
      rw [follow_cons_of_not_dir hy (hef.ne_dir hdir)]
      exact .neither _ _

theorem lead (p : Path) :
    Arrival.Gains name content (arrival (fs.lead p)) (arrival (fs'.lead p)) := by
  unfold FileSystem.lead
  split
  · exact .neither _ _
  · split
    · exact .neither _ _
    · split
      · exact .neither _ _
      · rw [h.current]
        exact h.follow _ _ _

/-- A path that resolved resolves to what was there. -/
theorem resolve (p : Path) : Arrival.Gains name content (fs.resolve p) (fs'.resolve p) := by
  rw [resolve_eq, resolve_eq]
  exact h.lead p

/-- A link that resolved resolves to what was there. -/
theorem resolveLink (links : Nat) (location : Location) (target : Path) :
    Arrival.Gains name content (fs.resolveLink links location target)
      (fs'.resolveLink links location target) := by
  cases links with
  | zero => exact .neither _ _
  | succ links =>
    rw [resolveLink_eq, resolveLink_eq]
    exact h.follow _ _ _

/-- What is there is still there. -/
theorem exists_resolve {p : Path} {location : Location} {e : Entry} {links : Nat}
    (hp : fs.resolve p = .ok ⟨location, e, links⟩) :
    ∃ f, fs'.resolve p = .ok ⟨location, f, links⟩ ∧ e.Gains name content f := by
  have hresolve := h.resolve p
  rw [hp] at hresolve
  generalize fs'.resolve p = y at hresolve
  cases hresolve with
  | both _ _ he => exact ⟨_, rfl, he⟩

/-- What was there is there. -/
theorem present {p : Path} (hp : fs.present p) : fs'.present p := by
  unfold FileSystem.present at hp ⊢
  cases hresolve : fs.resolve p with
  | error f =>
    rw [hresolve] at hp
    cases hp
  | ok a =>
    obtain ⟨f, hf, -⟩ := h.exists_resolve hresolve
    rw [hf]
    rfl

/-- What is there only now is the file. -/
theorem exists_made {p : Path} (hp : ¬fs.present p) (hp' : fs'.present p) :
    ∃ location links, fs'.resolve p = .ok ⟨location, .file content false, links⟩ := by
  unfold FileSystem.present at hp hp'
  have hresolve := h.resolve p
  generalize fs.resolve p = x at hp hresolve
  generalize fs'.resolve p = y at hp' hresolve
  cases hresolve with
  | neither => cases hp'
  | both => exact absurd rfl hp
  | made _ location links => exact ⟨location, links, rfl⟩

/-- What can be read is still read. -/
theorem read {p : Path} {bytes : Bytes} (hp : fs.read p = .ok bytes) : fs'.read p = .ok bytes := by
  obtain ⟨location, program, links, hresolve⟩ := read_eq_ok hp
  obtain ⟨f, hf, he⟩ := h.exists_resolve hresolve
  obtain rfl := he.eq_file
  rw [FileSystem.read, hf]
  rfl

/-- A text that could be read is read as it was. -/
theorem readText {p : Path} {text : String} (hp : fs.readText p = .ok text) :
    fs'.readText p = .ok text := by
  obtain ⟨bytes, hread, hdecode⟩ := readText_eq_ok hp
  rw [FileSystem.readText, h.read hread]
  simp only [bind, Except.bind, hdecode, String.ofList_toList]

end FileSystem.Gains

/-! ## Walks -/

/-- Whether the path of a file ends in another name. -/
def Visit.isNot (name : String) (v : Visit) : Bool := v.path.fileName? != some name.toList

/-- A walk that comes to an end where another one does, with the same files but for those of a
name. -/
def Walk.KeepsBut (name : String) (x y : Walk) : Prop :=
  x.result = .ok () → y.result = .ok () ∧
    y.notes.filter (Visit.isNot name) = x.notes.filter (Visit.isNot name)

namespace Walk.KeepsBut

theorem refl (x : Walk) : x.KeepsBut name x := fun hx => ⟨hx, rfl⟩

/-- A walk that is stopped is not compared. -/
theorem of_fail {x y : Walk} {b : Blocked} (h : x = .fail b) : x.KeepsBut name y := by
  rintro hx
  rw [h] at hx
  cases hx

theorem bind {x y v w : Walk} (h : x.KeepsBut name y) (hv : v.KeepsBut name w) :
    Walk.KeepsBut name (x >>= fun _ => v) (y >>= fun _ => w) := by
  intro hx
  obtain ⟨u, hxu, hvu, hnotes⟩ := Traced.bind_eq_ok hx
  obtain ⟨hy, hyx⟩ := h hxu
  obtain ⟨hw, hwv⟩ := hv hvu
  rw [hnotes, Traced.bind_of_ok hy]
  exact ⟨hw, by rw [List.filter_append, List.filter_append, hyx, hwv]⟩

/-- One file more of the name. -/
theorem note {x y : Walk} {v : Visit} (h : x.KeepsBut name y)
    (hv : v.path.fileName? = some name.toList) :
    x.KeepsBut name (Traced.note v >>= fun _ => y) := by
  intro hx
  obtain ⟨hy, hyx⟩ := h hx
  have hnote : (Traced.note v : Walk).result = .ok () := rfl
  rw [Traced.bind_of_ok hnote]
  refine ⟨hy, ?_⟩
  rw [List.filter_append, hyx]
  simp [Traced.note, Visit.isNot, hv]

end Walk.KeepsBut

namespace FileSystem.Gains

variable {fs fs' : FileSystem} (h : fs.Gains name content fs')
include h

/-- What a walk comes to and is not stopped at, it comes to in the second tree too. -/
theorem turn (s : Stand) (n : String) {e f : Entry} (he : e.Gains name content f) :
    Turn.Gains name content (fs.turn s n e) (fs'.turn s n f) := by
  cases e with
  | file c program =>
    obtain rfl := he.eq_file
    exact .file _
  | dir access a =>
    obtain ⟨b, rfl⟩ := he.exists_dir
    simp only [FileSystem.turn]
    split
    · exact .blocked _ _
    · exact .dir _ _ _ he
  | link target =>
    cases he
    simp only [FileSystem.turn]
    split
    · exact .blocked _ _
    · have hlink := h.resolveLink s.links s.location target
      simp only [turnAlong]
      generalize fs.resolveLink s.links s.location target = x at hlink ⊢
      generalize fs'.resolveLink s.links s.location target = y at hlink ⊢
      cases hlink with
      | neither | made => exact .blocked _ _
      | @both e f location links he =>
        cases e with
        | file c program =>
          obtain rfl := he.eq_file
          exact .file _
        | link target => exact .blocked _ _
        | dir access a =>
          obtain ⟨b, rfl⟩ := he.exists_dir
          simp only
          split
          · exact .blocked _ _
          · split
            · exact .blocked _ _
            · exact .dir _ _ _ he

/-- From one stand the walk keeps everything but the file gained. -/
theorem walkEntries (hname : Path.IsName name) (s : Stand) {a b : List (String × Entry)}
    (hab : Entry.GainsAll name content a b) :
    (fs.walkEntries s a).KeepsBut name (fs'.walkEntries s b) := by
  have hturns := fun s n {e f : Entry} (he : e.Gains name content f) => h.turn s n he
  -- The induction is on the second walk, which comes to the made file.
  fun_induction fs'.walkEntries s b generalizing a with
  | case1 s =>
    cases hab
    rw [FileSystem.walkEntries]
    exact .refl _
  | case2 s n f rest c hturn ih =>
    cases hab with
    | made hrest => exact (ih hrest).note (Path.fileName?_join hname s.path)
    | @cons e _ a _ _ he hrest =>
      have hgains := hturn ▸ hturns s n he
      generalize hx : fs.turn s n e = x at hgains
      cases hgains with
      | blocked => exact .of_fail (walkEntries_of_blocked a hx)
      | file =>
        rw [walkEntries_of_file a hx]
        exact .bind (.refl _) (ih hrest)
  | case3 s n f rest location links search entries hturn ih ihrest =>
    cases hab with
    | made => cases hturn
    | @cons e _ a _ _ he hrest =>
      have hgains := hturn ▸ hturns s n he
      generalize hx : fs.turn s n e = x at hgains
      cases hgains with
      | blocked => exact .of_fail (walkEntries_of_blocked a hx)
      | dir _ _ _ hentries =>
        rw [walkEntries_of_dir a hx]
        exact .bind (ih hentries.sorted) (ihrest hrest)
  | case4 s n f rest stop hturn =>
    cases hab with
    | made => cases hturn
    | @cons e _ a _ _ he hrest =>
      have hgains := hturn ▸ hturns s n he
      generalize hx : fs.turn s n e = x at hgains
      cases hgains with
      | blocked => exact .of_fail (walkEntries_of_blocked a hx)

/-- A walk keeps everything but the file gained. -/
theorem walk (hname : Path.IsName name) (p : Path) : (fs.walk p).KeepsBut name (fs'.walk p) := by
  unfold FileSystem.walk
  cases hp : fs.resolve p with
  | error f => exact .of_fail rfl
  | ok a =>
    obtain ⟨location, e, links⟩ := a
    obtain ⟨f, hf, he⟩ := h.exists_resolve hp
    rw [hf]
    cases e with
    | file =>
      cases he
      exact .refl _
    | link =>
      cases he
      exact .refl _
    | dir access a =>
      obtain ⟨b, rfl⟩ := he.exists_dir
      simp only
      split
      · exact .of_fail rfl
      · exact h.walkEntries hname _ he.sorted

end FileSystem.Gains

end EnvAudit
