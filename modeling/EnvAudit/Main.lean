import EnvAudit.Commands
import EnvAudit.Main.Launcher
import Std.Time

/-!
# EnvAudit.Main

The program: it reads the part of the disk that a command can look at into a tree of files, carries
the command out on the tree, writes what the command wrote, and makes the config file on the disk if
the command made it in the tree. Programs other than scripts are not run.
-/

namespace EnvAudit.Disk

/-- The part of the disk that has been read. -/
structure Image where
  files : FileSystem
  /-- The directories read with all that is in them. -/
  whole : List String := []

/-- Where a path leads, as an absolute path without links, if it leads anywhere. -/
def realPath? (path : String) : IO (Option String) := do
  try
    let p ← IO.FS.realPath path
    return some p.toString
  catch _ => return none

/-- What reading a file gives. -/
def content (path : String) : IO (Except Fault Bytes) := do
  try
    return .ok (← IO.FS.readBinFile path).toList
  catch e => return .error (.other (toString e))

/-- The path of an entry of a directory. -/
def child (dir name : String) : String := if dir = "/" then "/" ++ name else dir ++ "/" ++ name

/-- Put an entry into a tree at an absolute path. -/
def place (fs : FileSystem) (path : String) (e : Entry) : FileSystem :=
  (fs.plant (.ofText path) e).toOption.getD fs

/-- The names in a directory. -/
def names (dir : String) : IO (List String) := do
  let entries ← (← IO.FS.realPath dir).readDir
  return entries.toList.map fun e => e.fileName

/-- Whether an absolute path without links is that of a directory. -/
def isDir (path : String) : IO Bool := do
  let p ← IO.FS.realPath path
  p.isDir

/-- A directory with what each of its names stands for, or why they cannot be listed. -/
def directory (path : String) (entry : String → IO Entry) : IO Entry := do
  try
    return .dir {} (← (← names path).mapM fun n => do return (n, ← entry n))
  catch e => return .dir { list := some (.other (toString e)) } []

/-- What a name in a directory stands for: a link if the path changes when links are followed, and a
link to a name that no file has if it leads nowhere. A directory is read with all that is in it, and
`later` gathers where links lead. -/
partial def entry (dir name : String) (later : IO.Ref (List String)) : IO Entry := do
  let path := child dir name
  match ← realPath? path with
  | none => return .link (.ofText "\x00")
  | some real =>
    if real != path then
      later.modify (real :: ·)
      return .link (.ofText real)
    else if ← isDir real then directory real fun n => entry real n later
    else return .file (← content real) true

/-- Read what is at an absolute path without links, and wherever links in it lead. -/
partial def readWhole (image : Image) (path : String) : IO Image := do
  if image.whole.any fun w => w = path || (w ++ "/").toList.isPrefixOf path.toList then return image
  let later ← IO.mkRef []
  let e ← if ← isDir path then directory path fun n => entry path n later
    else pure (.file (← content path) true)
  let image := { image with files := place image.files path e, whole := path :: image.whole }
  (← later.get).foldlM readWhole image

/-- Read what is on the way along a path: each link, and of a file its content, but of a directory
only that it is there. -/
def readWay (image : Image) (path : Path) : IO Image := do
  let start := if path.isAbsolute then "/" else "."
  let mut image := image
  let mut dir ← realPath? start
  for move in path.moves do
    match dir, move with
    | some d, .enter name =>
      match ← realPath? (child d name) with
      | some real =>
        if real != child d name then
          image := { image with files := place image.files (child d name) (.link (.ofText real)) }
        if ← isDir real then
          let made := (image.files.makeDirs (.ofText real)).toOption
          image := { image with files := made.elim image.files Prod.fst }
        else
          image := { image with files := place image.files real (.file (← content real) true) }
        dir := some real
      | none => dir := none
    | some d, .up => dir ← realPath? (child d "..")
    | _, _ => pure ()
  return image

/-- Read what config discovery looks at from a directory upwards. -/
partial def readConfigs (image : Image) (dir : Path) : IO Image := do
  let image ← readWay image dir
  let image ← readWay image (dir.join Config.fileName)
  let image ← readWay image (dir.join Config.repositoryMark)
  match dir.parent? with
  | some above => readConfigs image above
  | none => return image

/-- Read all of a project and what config discovery looks at. -/
def readProject (image : Image) (project : Path) (s : ScanSettings) : IO Image := do
  let image ← readConfigs image project
  let image ← s.config.elim (pure image) (readWay image)
  match ← realPath? project.text with
  | some real => readWhole image real
  | none => return image

/-- Read what a command can look at. -/
def read (c : Command) (searchPath : String) : IO FileSystem := do
  let cwd := (← IO.currentDir).toString
  let empty : FileSystem := ⟨.dir {} [], []⟩
  let fs := match empty.makeDirs (.ofText cwd) with
    | .ok (fs, location) => { fs with current := location }
    | .error _ => empty
  let image : Image := { files := fs }
  let image ← match c with
    | .check envFile project s => do readProject (← readWay image envFile) project s
    | .scan project _ s => readProject image project s
    | .init dir => readConfigs image dir
    | .checkGit _ _ s | .scanGit _ _ s => do
      let dirs := splitOnChar ':' searchPath.toList
      let image ← dirs.foldlM (fun i d => readWay i ((Path.mk d).join (.ofText "git"))) image
      let image ← s.config.elim (pure image) (readWay image)
      match ← realPath? "." with
      | some real => readWhole image real
      | none => pure image
  return image.files

/-- The time as it is logged. -/
def time : IO String := do
  let now := Std.Time.DateTime.ofTimestamp (← Std.Time.Timestamp.now) .UTC
  return now.format "uuuu-MM-dd'T'HH:mm:ss.SSSSSS'Z'"

end EnvAudit.Disk

namespace EnvAudit

/-- Write something that a command wrote or noted. -/
def emit (filter : LogFilter) : Output → IO Unit
  | .out text => IO.print text
  | .err text => IO.eprint text
  | .event e => do if filter.shows e then IO.eprint (e.line (← Disk.time))

/-- Write what a command wrote, in order. Where the output stream refuses it, the command ends as it
does for such a stream. -/
def emitAll (filter : LogFilter) (c : Command) (w : Surroundings) (fs : FileSystem)
    (o : Outcome) : IO ExitStatus := do
  try
    o.output.forM (emit filter)
    return o.status
  catch e =>
    let refused := c.outcome { w with stdout := .upTo 0 (.other (toString e)) } fs
    let behind := refused.output.dropWhile fun x => match x with
      | .out _ => false
      | _ => true
    (behind.drop 1).forM (emit filter)
    return refused.status

/-- Carry out a command on the disk. -/
def perform (env? : String → Option String) (color : Bool) (c : Command) : IO UInt32 := do
  let searchPath := (env? "PATH").getD "/bin:/usr/bin"
  let fs ← Disk.read c searchPath
  let (filter, preface) := logFilter env? c.debug
  IO.eprint preface
  let w : Surroundings := {
    color, launch := launcher searchPath, temporary := .ofText "/tmp"
    checkoutName := s!"envcheck-{(← IO.rand 100000 999999)}" }
  let fs := match fs.makeDirs w.temporary with
    | .ok (fs, _) => fs
    | .error _ => fs
  let o := c.outcome w fs
  let o ← match c, o.status with
    | .init dir, .success =>
      try
        IO.FS.writeFile (dir.join Config.fileName).text Config.defaultText
        pure o
      catch e => pure (c.outcome { w with storage := fun _ _ => .error (.other (toString e)) } fs)
    | _, _ => pure o
  return (← emitAll filter c w fs o).code.toUInt32

/-- The variables of the surroundings that the program looks at. -/
def variableNames : List String :=
  ["ENVCHECK_DEBUG", "RUST_LOG", "PATH", "NO_COLOR", "CLICOLOR_FORCE"]

/-- Carry out a command line. -/
def start (words : List String) : IO UInt32 := do
  let values ← variableNames.filterMapM fun n => do return (← IO.getEnv n).map fun v => (n, v)
  let env? := fun n => values.lookup n
  let color := (env? "CLICOLOR_FORCE").any (· != "0") && (env? "NO_COLOR").isNone
  match CommandLine.command env? words with
  | .ok (some c) => perform env? color c
  | .ok none =>
    IO.eprint (logFilter env? false).2
    IO.print (CommandLine.helpText env? none)
    return 0
  | .error (.help command) => IO.print (CommandLine.helpText env? command); return 0
  | .error .version => IO.print CommandLine.versionText; return 0
  | .error (.misuse e) =>
    IO.eprint (e.message ++ "\n\nFor more information, try '--help'.\n")
    return 2

end EnvAudit

def main (words : List String) : IO UInt32 := EnvAudit.start words
