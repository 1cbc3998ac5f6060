import EnvAudit.Files.Fault
import EnvAudit.Path.Basic
import EnvAudit.Text.Utf8

/-!
# EnvAudit.Files.Basic

A tree of files, directories and links:

1. an `Entry` is what a name stands for; the entries of a directory are listed in no particular
   order, each name once, and an `Access` says how far they can be used at all;
2. a `Location` says which names lead from the root to an entry, links not followed, and
   `Entry.find?` gives the entry there;
3. `Entry.directories` lists the locations of all directories (`mem_directories`);
4. a `FileSystem` is a tree and the directory in which relative paths start.
-/

namespace EnvAudit

/-- What keeps a directory from being used, if anything does. -/
structure Access where
  /-- Why its names cannot be listed. -/
  list : Option Fault := none
  /-- Why no name can be looked up in it. -/
  search : Option Fault := none
deriving Repr, DecidableEq, Inhabited

/-- What a name in a directory stands for. -/
inductive Entry
  /-- A file: what reading it gives, and whether it is a program. -/
  | file (content : Except Fault Bytes) (program : Bool)
  /-- A link to where a path leads. -/
  | link (target : Path)
  /-- A directory and its entries. -/
  | dir (access : Access) (entries : List (String × Entry))
deriving Inhabited

/-- The names that lead from the root to an entry. -/
abbrev Location := List String

namespace Entry

/-- Whether the entry is a directory. -/
def isDir : Entry → Bool
  | .dir _ _ => true
  | _ => false

/-- Whether the entry is a file. -/
def isFile : Entry → Bool
  | .file _ _ => true
  | _ => false

/-- Whether the entry is a link. -/
def isLink : Entry → Bool
  | .link _ => true
  | _ => false

/-! ## Looking up -/

/-- The entry at a location. -/
def find? : Entry → Location → Option Entry
  | e, [] => some e
  | .dir _ entries, name :: rest => (entries.lookup name).bind fun e => e.find? rest
  | _, _ :: _ => none

mutual

/-- The locations of the directories within an entry that is itself at a location. -/
def directories (location : Location) : Entry → List Location
  | .dir _ entries => location :: directoriesAll location entries
  | _ => []

/-- The locations of the directories within the entries of a directory. -/
def directoriesAll (location : Location) : List (String × Entry) → List Location
  | [] => []
  | (name, e) :: rest => directories (location ++ [name]) e ++ directoriesAll location rest

end

theorem mem_of_lookup {entries : List (String × Entry)} {name : String} {e : Entry}
    (h : entries.lookup name = some e) : (name, e) ∈ entries := by
  induction entries with
  | nil => simp at h
  | cons p rest ih =>
    rw [List.lookup_cons] at h
    split at h
    · next heq =>
      simp only [beq_iff_eq] at heq
      cases h
      simp [heq]
    · exact List.mem_cons_of_mem _ (ih h)

theorem directories_subset {location : Location} {entries : List (String × Entry)} {name : String}
    {e : Entry} (h : (name, e) ∈ entries) :
    directories (location ++ [name]) e ⊆ directoriesAll location entries := by
  induction entries with
  | nil => simp at h
  | cons p rest ih =>
    simp only [directoriesAll]
    rcases List.mem_cons.1 h with rfl | h
    · exact List.subset_append_left _ _
    · exact List.subset_append_of_subset_right _ (ih h)

/-- Where a directory is found, there is one on the list. -/
theorem mem_directories {e : Entry} {start location : Location} {access : Access}
    {entries : List (String × Entry)} (h : e.find? location = some (.dir access entries)) :
    start ++ location ∈ e.directories start := by
  induction location generalizing e start with
  | nil =>
    simp only [find?, Option.some.injEq] at h
    subst h
    simp [directories]
  | cons name rest ih =>
    cases e with
    | file => simp [find?] at h
    | link => simp [find?] at h
    | dir _ es =>
      simp only [find?, Option.bind_eq_some_iff] at h
      obtain ⟨c, hc, h⟩ := h
      have : start ++ [name] ++ rest ∈ directoriesAll start es :=
        directories_subset (mem_of_lookup hc) (ih h)
      simpa [directories] using this

/-! ## Size -/

mutual

/-- The number of entries within an entry, itself included. -/
def size : Entry → Nat
  | .dir _ entries => sizeAll entries + 1
  | _ => 1

/-- The number of entries within the entries of a directory. -/
def sizeAll : List (String × Entry) → Nat
  | [] => 0
  | (_, e) :: rest => size e + sizeAll rest

end

theorem size_pos (e : Entry) : 0 < e.size := by
  cases e <;> simp [size]

/-- The order of entries does not matter to their size. -/
theorem sizeAll_perm {a b : List (String × Entry)} (h : a.Perm b) : sizeAll a = sizeAll b := by
  induction h with
  | nil => rfl
  | cons p _ ih => simp [sizeAll, ih]
  | swap p q l => simp [sizeAll, Nat.add_left_comm]
  | trans _ _ ih₁ ih₂ => exact ih₁.trans ih₂

/-- The entries in ascending order of their names. -/
def sorted (entries : List (String × Entry)) : List (String × Entry) :=
  entries.mergeSort fun a b => a.1 ≤ b.1

theorem sizeAll_sorted (entries : List (String × Entry)) :
    sizeAll (sorted entries) = sizeAll entries :=
  sizeAll_perm (List.mergeSort_perm entries _)

end Entry

/-- A tree of files and the directory in which relative paths start. -/
structure FileSystem where
  /-- The root, a directory. -/
  root : Entry
  /-- The working directory. -/
  current : Location
deriving Inhabited

namespace FileSystem

/-- The entry at a location. -/
def entryAt? (fs : FileSystem) (location : Location) : Option Entry := fs.root.find? location

/-- The locations of all directories. -/
def directories (fs : FileSystem) : List Location := fs.root.directories []

theorem mem_directories {fs : FileSystem} {location : Location} {access : Access}
    {entries : List (String × Entry)} (h : fs.entryAt? location = some (.dir access entries)) :
    location ∈ fs.directories := by
  simpa [directories] using @Entry.mem_directories fs.root [] location access entries h

end FileSystem

end EnvAudit
