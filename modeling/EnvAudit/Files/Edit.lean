import EnvAudit.Files.Resolve
import EnvAudit.Files.Room

/-!
# EnvAudit.Files.Edit

Changing a tree of files:

1. `put` gives a name in a directory a new meaning and `erase` takes it away; nothing else changes;
2. `write` writes where a path leads, also through links, and makes a new file if nothing is there;
   `save` does so as far as there is room for what is written;
3. `makeDir` makes a directory where nothing is, and `remove` takes away what a path names.
-/

namespace EnvAudit

namespace Entry

/-- Give a name a meaning. -/
def putEntry (entries : List (String × Entry)) (name : String) (e : Entry) :
    List (String × Entry) :=
  match entries with
  | [] => [(name, e)]
  | p :: rest => if p.1 = name then (name, e) :: rest else p :: putEntry rest name e

/-- Take a name away. -/
def eraseEntry (entries : List (String × Entry)) (name : String) : List (String × Entry) :=
  entries.filter fun p => p.1 != name

/-- Change the entries of the directory at a location, if there is one. -/
def changeDir (change : List (String × Entry) → List (String × Entry)) : Entry → Location → Entry
  | .dir access entries, [] => .dir access (change entries)
  | .dir access entries, name :: rest =>
    match entries.lookup name with
    | some e => .dir access (putEntry entries name (e.changeDir change rest))
    | none => .dir access entries
  | e, _ => e

end Entry

namespace FileSystem

/-- Give a name in a directory a meaning. -/
def put (fs : FileSystem) (dir : Location) (name : String) (e : Entry) : FileSystem :=
  { fs with root := fs.root.changeDir (fun es => Entry.putEntry es name e) dir }

/-- Take a name away from a directory. -/
def erase (fs : FileSystem) (dir : Location) (name : String) : FileSystem :=
  { fs with root := fs.root.changeDir (fun es => Entry.eraseEntry es name) dir }

/-! ## Writing -/

/-- Write a file where a path leads. A file that is there stays a program if it was one. -/
def write (fs : FileSystem) (p : Path) (content : Bytes) : Except Fault FileSystem := do
  match ← fs.lead p with
  | .vacant dir name => return fs.put dir name (.file (.ok content) false)
  | .arrived ⟨_, .dir _ _, _⟩ => .error .isDirectory
  | .arrived ⟨_, .link _, _⟩ => .error .tooManyLinks
  | .arrived ⟨location, .file _ program, _⟩ =>
    match location.getLast? with
    | some name => return fs.put location.dropLast name (.file (.ok content) program)
    | none => .error .isDirectory

/-- Write text where a path leads. -/
def writeText (fs : FileSystem) (p : Path) (text : String) : Except Fault FileSystem :=
  fs.write p (Utf8.encode text.toList)

/-- How much can be written at a path, or why nothing can be made or opened to be written there. -/
abbrev Storage := FileSystem → Path → Except Fault Room

/-- Write a file where a path leads: the files then, and whether all was written. The file is there
before its content, of which it keeps what there was room for. -/
def save (storage : Storage) (fs : FileSystem) (p : Path) (content : Bytes) :
    FileSystem × Except Fault Unit :=
  match storage fs p with
  | .error f => (fs, .error f)
  | .ok room =>
    match fs.write p (room.taken content) with
    | .error f => (fs, .error f)
    | .ok files =>
      (files, match room.refusal? content with
        | some f => .error f
        | none => .ok ())

/-! ## Directories -/

/-- Make an empty directory where a path leads to nothing, not even to a link. -/
def makeDir (storage : Storage) (fs : FileSystem) (p : Path) : Except Fault FileSystem := do
  if fs.isLink p then .error .taken
  match ← fs.lead p with
  | .arrived _ => .error .taken
  | .vacant dir name =>
    let _ ← storage fs p
    return fs.put dir name (.dir {} [])

/-- Take away what a path names, links not followed. -/
def remove (fs : FileSystem) (p : Path) : Except Fault FileSystem := do
  match (p.moves.filter (· != .stay)).getLast? with
  | some (.enter name) =>
    match ← fs.follow maxLinks (if p.isAbsolute then [] else fs.current) p.moves.dropLast with
    | .arrived ⟨dir, .dir _ entries, _⟩ =>
      if (entries.lookup name).isSome then return fs.erase dir name else .error .notFound
    | .arrived _ => .error .notDirectory
    | .vacant _ _ => .error .notFound
  | _ => .error .isDirectory

end FileSystem

end EnvAudit
