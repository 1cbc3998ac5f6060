import EnvAudit.Files.Basic

/-!
# EnvAudit.Files.Resolve

Where a path leads:

1. each name is looked up in the directory reached so far, if this can be searched; a link is
   followed from the directory that it is in, at most forty of them along one path;
2. a path leads to an entry that is no link, or, if only its last name is missing, to a vacant
   place in a directory;
3. `present`, `isDir`, `isFile`, `isLink` and `read` look at what is there.
-/

namespace EnvAudit

/-- An entry to which a path leads; `links` is how many links may still be followed. -/
structure Arrival where
  location : Location
  entry : Entry
  links : Nat
deriving Inhabited

/-- Where a path leads. -/
inductive Lead
  /-- To an entry. -/
  | arrived (a : Arrival)
  /-- To a name that a directory does not have. -/
  | vacant (dir : Location) (name : String)
deriving Inhabited

namespace FileSystem

/-- How many links may be followed along one path. -/
def maxLinks : Nat := 40

/-- The longest name, in bytes. -/
def maxName : Nat := 255

/-- The longest path, in bytes. -/
def maxPath : Nat := 4095

/-- Make moves from a location. An empty name at the end of a path is looked up like `.`. -/
def follow (fs : FileSystem) (links : Nat) (location : Location) :
    List Move → Except Fault Lead
  | [] =>
    match fs.entryAt? location with
    | some e => .ok (.arrived ⟨location, e, links⟩)
    | none => .error .notFound
  | move :: moves =>
    match fs.entryAt? location with
    | none => .error .notFound
    | some (.dir access entries) =>
      match access.search with
      | some f => .error f
      | none =>
        match move with
        | .stay => fs.follow links location moves
        | .up => fs.follow links location.dropLast moves
        | .enter name =>
          if maxName < name.utf8ByteSize then .error .nameTooLong
          else
            match entries.lookup name with
            | none => if moves = [] then .ok (.vacant location name) else .error .notFound
            | some (.link target) =>
              match links with
              | 0 => .error .tooManyLinks
              | links + 1 =>
                fs.follow links (if target.isAbsolute then [] else location) (target.moves ++ moves)
            | some _ => fs.follow links (location ++ [name]) moves
    | some _ => .error .notDirectory
termination_by moves => (links, moves.length)

theorem entry_of_follow {fs : FileSystem} {links : Nat} {location : Location} {moves : List Move}
    {a : Arrival} (h : fs.follow links location moves = .ok (.arrived a)) :
    fs.entryAt? a.location = some a.entry := by
  fun_induction fs.follow links location moves with
  | case1 _ _ e he => cases h; exact he
  | _ => simp_all

/-- Where a path leads. -/
def lead (fs : FileSystem) (p : Path) : Except Fault Lead :=
  if p.chars = [] then .error .notFound
  else if p.chars.contains '\x00' then .error .nulInName
  else if maxPath < p.text.utf8ByteSize then .error .nameTooLong
  else fs.follow maxLinks (if p.isAbsolute then [] else fs.current) p.moves

/-- The entry to which a path leads. -/
def resolve (fs : FileSystem) (p : Path) : Except Fault Arrival :=
  match fs.lead p with
  | .ok (.arrived a) => .ok a
  | .ok (.vacant _ _) => .error .notFound
  | .error f => .error f

/-- The entry to which a link in a directory leads. -/
def resolveLink (fs : FileSystem) (links : Nat) (location : Location) (target : Path) :
    Except Fault Arrival :=
  match links with
  | 0 => .error .tooManyLinks
  | links + 1 =>
    match fs.follow links (if target.isAbsolute then [] else location) target.moves with
    | .ok (.arrived a) => .ok a
    | .ok (.vacant _ _) => .error .notFound
    | .error f => .error f

theorem entry_of_resolve {fs : FileSystem} {p : Path} {a : Arrival} (h : fs.resolve p = .ok a) :
    fs.entryAt? a.location = some a.entry := by
  unfold resolve lead at h
  split at h
  · next hl =>
    cases h
    split at hl
    · cases hl
    · split at hl
      · cases hl
      · split at hl
        · cases hl
        · exact entry_of_follow hl
  · cases h
  · cases h

theorem entry_of_resolveLink {fs : FileSystem} {links : Nat} {location : Location} {target : Path}
    {a : Arrival} (h : fs.resolveLink links location target = .ok a) :
    fs.entryAt? a.location = some a.entry := by
  unfold resolveLink at h
  split at h
  · cases h
  · split at h
    · next hl => cases h; exact entry_of_follow hl
    · cases h
    · cases h

/-! ## What is there -/

/-- Whether a path leads to anything. -/
def present (fs : FileSystem) (p : Path) : Bool := (fs.resolve p).toOption.isSome

/-- Whether a path leads to a directory. -/
def isDir (fs : FileSystem) (p : Path) : Bool :=
  (fs.resolve p).toOption.any fun a => a.entry.isDir

/-- Whether a path leads to a file. -/
def isFile (fs : FileSystem) (p : Path) : Bool :=
  (fs.resolve p).toOption.any fun a => a.entry.isFile

/-- Whether the last name of a path is that of a link. -/
def isLink (fs : FileSystem) (p : Path) : Bool :=
  match p.moves.getLast? with
  | some (.enter name) =>
    match fs.follow maxLinks (if p.isAbsolute then [] else fs.current) p.moves.dropLast with
    | .ok (.arrived ⟨_, .dir _ entries, _⟩) => (entries.lookup name).any Entry.isLink
    | _ => false
  | _ => false

/-- The bytes of the file to which a path leads. -/
def read (fs : FileSystem) (p : Path) : Except Fault Bytes := do
  match (← fs.resolve p).entry with
  | .file content _ => content
  | .dir access _ => .error (access.list.getD .isDirectory)
  | .link _ => .error .tooManyLinks

/-- The text of the file to which a path leads. -/
def readText (fs : FileSystem) (p : Path) : Except Fault String := do
  match Utf8.decode? (← fs.read p) with
  | some cs => .ok (.ofList cs)
  | none => .error .notText

end FileSystem

end EnvAudit
