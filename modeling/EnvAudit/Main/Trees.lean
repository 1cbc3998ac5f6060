import EnvAudit.Files.Edit

/-!
# EnvAudit.Main.Trees

Building trees of files:

1. `makeDirs` makes the directories that are missing along a path, and `plant` puts an entry at a
   path in directories that are made if they are missing;
2. `copyInto` adds the entries of one directory to another.
-/

namespace EnvAudit.FileSystem

/-- Make the directories that are missing along moves from a location; also where they lead. -/
def makeDirsFrom (fs : FileSystem) (location : Location) :
    List Move → Except Fault (FileSystem × Location)
  | [] => .ok (fs, location)
  | move :: moves => do
    match ← fs.follow maxLinks location [move] with
    | .arrived ⟨location, .dir _ _, _⟩ => fs.makeDirsFrom location moves
    | .arrived _ => .error .notDirectory
    | .vacant dir name => (fs.put dir name (.dir {} [])).makeDirsFrom (dir ++ [name]) moves

/-- Make the directories that are missing along a path; also where it leads. -/
def makeDirs (fs : FileSystem) (p : Path) : Except Fault (FileSystem × Location) :=
  fs.makeDirsFrom (if p.isAbsolute then [] else fs.current) p.moves

/-- Put an entry at a path, in directories that are made if they are missing. -/
def plant (fs : FileSystem) (p : Path) (e : Entry) : Except Fault FileSystem := do
  let moves := p.moves.filter (· != .stay)
  match moves.getLast? with
  | some (.enter name) =>
    let (fs, dir) ← fs.makeDirsFrom (if p.isAbsolute then [] else fs.current) moves.dropLast
    return fs.put dir name e
  | _ => .error .isDirectory

/-- Add the entries of a directory to the entries of another. -/
def merge (target source : List (String × Entry)) : List (String × Entry) :=
  source.foldl (fun es p => Entry.putEntry es p.1 p.2) target

/-- Add the entries of the directory to which a path leads to those of another. -/
def copyInto (fs : FileSystem) (source target : Path) : Except Fault FileSystem := do
  let s ← fs.resolve source
  let t ← fs.resolve target
  match s.entry, t.entry with
  | .dir _ entries, .dir _ _ =>
    return { fs with root := fs.root.changeDir (merge · entries) t.location }
  | _, _ => .error .notDirectory

end EnvAudit.FileSystem
