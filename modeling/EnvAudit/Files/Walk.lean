import EnvAudit.Files.Resolve
import EnvAudit.Traced

/-!
# EnvAudit.Files.Walk

Every file at or below a path, links followed:

1. the entries of a directory are visited in ascending order of their names, and a directory's own
   entries before the entry behind it;
2. `turn` says what the walk comes to at an entry, which is looked up under its path: a file, a
   directory to go through, or what stops the walk, and that is a link that leads nowhere, a
   directory that cannot be listed, or a link to a directory that the walk is already in;
3. the walk comes to an end: a link leads to a directory that was not yet entered on the way from
   the root, and any other step to a smaller part of the tree.
-/

namespace EnvAudit

/-- A file that a walk comes to. -/
structure Visit where
  path : Path
  content : Except Fault Bytes

/-- Why a walk stops, and at which path. -/
structure Blocked where
  path : Path
  fault : Fault
deriving Repr, DecidableEq, Inhabited

/-- The visits of a walk in order. -/
abbrev Walk := Traced Visit Blocked Unit

/-- A directory that a walk is in. -/
structure Stand where
  path : Path
  location : Location
  /-- How many links may still be followed on the way from here. -/
  links : Nat
  /-- Why no name can be looked up in the directory, if so. -/
  search : Option Fault
  /-- The directories entered on the way from the start of the walk, the last one first. -/
  entered : List Location

/-- What a walk comes to at an entry. -/
inductive Turn
  | file (content : Except Fault Bytes)
  /-- A directory to go through; `links` is how many links may still be followed in it. -/
  | dir (location : Location) (links : Nat) (search : Option Fault)
      (entries : List (String × Entry))
  | blocked (b : Blocked)

namespace Stand

/-- The path of an entry of the directory. -/
def child (s : Stand) (name : String) : Path := s.path.join (.ofText name)

/-- The stand in a directory to which an entry leads. -/
def enter (s : Stand) (name : String) (location : Location) (links : Nat)
    (search : Option Fault) : Stand :=
  ⟨s.child name, location, links, search, location :: s.entered⟩

/-- Why an entry cannot be looked up under its path, if so. -/
def obstruction? (s : Stand) (name : String) : Option Fault :=
  if FileSystem.maxPath < (s.child name).text.utf8ByteSize then some .nameTooLong
  else if s.search.isSome then s.search
  else if FileSystem.maxName < name.utf8ByteSize then some .nameTooLong
  else none

/-- What reading a file of the directory gives. -/
def reading (s : Stand) (name : String) (content : Except Fault Bytes) : Except Fault Bytes :=
  (s.obstruction? name).elim content .error

end Stand

namespace FileSystem

/-- How many directories have not been entered. -/
def unentered (fs : FileSystem) (entered : List Location) : Nat :=
  (fs.directories.filter fun d => !entered.contains d).length

theorem unentered_cons_le (fs : FileSystem) (d : Location) (entered : List Location) :
    fs.unentered (d :: entered) ≤ fs.unentered entered := by
  unfold unentered
  simp only [← List.countP_eq_length_filter]
  exact List.countP_mono_left fun x _ hx => by simp_all

theorem unentered_cons_lt {fs : FileSystem} {d : Location} {entered : List Location}
    (hd : d ∈ fs.directories) (hnew : ¬entered.contains d) :
    fs.unentered (d :: entered) < fs.unentered entered := by
  unfold unentered
  generalize fs.directories = ds at hd
  induction ds with
  | nil => cases hd
  | cons x ds ih =>
    have hle : (ds.filter fun y => !(d :: entered).contains y).length ≤
        (ds.filter fun y => !entered.contains y).length := by
      simp only [← List.countP_eq_length_filter]
      exact List.countP_mono_left fun y _ hy => by simp_all
    by_cases hx : x = d
    · subst hx
      simp only [List.filter_cons]
      simp at hle hnew ⊢
      simp [hnew]
      omega
    · have := ih ((List.mem_cons.1 hd).resolve_left (Ne.symm hx))
      simp only [List.filter_cons]
      by_cases hc : entered.contains x <;> simp_all

/-- Where the entry of a name in a directory leads; a link is followed. -/
def arrive (fs : FileSystem) (links : Nat) (dir : Location) (name : String) :
    Entry → Except Fault Arrival
  | .link target => fs.resolveLink links dir target
  | e => .ok ⟨dir ++ [name], e, links⟩

/-- What a walk comes to at a link that can be looked up. Of a directory behind a link that cannot
be listed no path is reported. -/
def turnAlong (fs : FileSystem) (s : Stand) (name : String) (target : Path) : Turn :=
  match fs.resolveLink s.links s.location target with
  | .error f => .blocked ⟨s.child name, f⟩
  | .ok ⟨_, .link _, _⟩ => .blocked ⟨s.child name, .tooManyLinks⟩
  | .ok ⟨_, .file content _, _⟩ => .file content
  | .ok ⟨location, .dir access entries, links⟩ =>
    match access.list with
    | some f => .blocked ⟨⟨[]⟩, f⟩
    | none =>
      if s.entered.contains location then .blocked ⟨s.child name, .linkLoop⟩
      else .dir location links access.search entries

/-- What a walk comes to at an entry of the directory where it stands. -/
def turn (fs : FileSystem) (s : Stand) (name : String) : Entry → Turn
  | .file content _ => .file (s.reading name content)
  | .dir access entries =>
    match (s.obstruction? name).or access.list with
    | some f => .blocked ⟨s.child name, f⟩
    | none => .dir (s.location ++ [name]) s.links access.search entries
  | .link target =>
    match s.obstruction? name with
    | some f => .blocked ⟨s.child name, f⟩
    | none => fs.turnAlong s name target

/-- A walk goes into an entry that is a directory, or along a link into a directory that it has not
entered. -/
theorem turn_eq_dir {fs : FileSystem} {s : Stand} {name : String} {e : Entry}
    {location : Location} {links : Nat} {search : Option Fault} {entries : List (String × Entry)}
    (h : fs.turn s name e = .dir location links search entries) :
    (∃ access, e = .dir access entries ∧ location = s.location ++ [name]) ∨
      location ∈ fs.directories ∧ ¬s.entered.contains location := by
  cases e with
  | file content program => cases h
  | dir access children =>
    rw [turn] at h
    split at h
    · cases h
    · cases h
      exact .inl ⟨access, rfl, rfl⟩
  | link target =>
    rw [turn] at h
    split at h
    · cases h
    · unfold turnAlong at h
      split at h
      · cases h
      · cases h
      · cases h
      · next hlink =>
        split at h
        · cases h
        · split at h
          · cases h
          · next hin =>
            cases h
            exact .inr ⟨mem_directories (entry_of_resolveLink hlink), hin⟩

/-- Walk through entries of the directory where the walk stands. -/
def walkEntries (fs : FileSystem) (s : Stand) : List (String × Entry) → Walk
  | [] => pure ()
  | (name, e) :: rest =>
    match _h : fs.turn s name e with
    | .file content => do
      .note ⟨s.child name, content⟩
      fs.walkEntries s rest
    | .dir location links search entries => do
      fs.walkEntries (s.enter name location links search) (Entry.sorted entries)
      fs.walkEntries s rest
    | .blocked b => .fail b
termination_by todo => (fs.unentered s.entered, Entry.sizeAll todo)
decreasing_by
  · exact Prod.Lex.right _ (by simp [Entry.sizeAll, Entry.size_pos])
  · rcases turn_eq_dir _h with ⟨access, rfl, rfl⟩ | ⟨hdir, hnew⟩
    · have hsize : Entry.sizeAll (Entry.sorted entries) <
          Entry.sizeAll ((name, .dir access entries) :: rest) := by
        rw [Entry.sizeAll_sorted]
        simp only [Entry.sizeAll, Entry.size]
        omega
      rcases Nat.lt_or_eq_of_le (fs.unentered_cons_le (s.location ++ [name]) s.entered) with h | h
      · exact Prod.Lex.left _ _ h
      · simp only [Stand.enter, h]
        exact Prod.Lex.right _ hsize
    · exact Prod.Lex.left _ _ (unentered_cons_lt hdir hnew)
  · exact Prod.Lex.right _ (by simp [Entry.sizeAll, Entry.size_pos])

/-- Walk through everything at or below a path. -/
def walk (fs : FileSystem) (p : Path) : Walk :=
  match fs.resolve p with
  | .error f => .fail ⟨p, f⟩
  | .ok ⟨_, .file content _, _⟩ => .note ⟨p, content⟩
  | .ok ⟨_, .link _, _⟩ => .fail ⟨p, .tooManyLinks⟩
  | .ok ⟨location, .dir access entries, links⟩ =>
    match access.list with
    | some f => .fail ⟨if fs.isLink p then ⟨[]⟩ else p, f⟩
    | none =>
      fs.walkEntries ⟨p, location, links, access.search, [location]⟩ (Entry.sorted entries)

end FileSystem

end EnvAudit
