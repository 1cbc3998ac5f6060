import EnvAudit.Files.Resolve
import EnvAudit.Json.Typed
import EnvAudit.Path.Parent
import EnvAudit.Registry.Entry

/-!
# EnvAudit.Config

The config file of a project, which lists custom patterns:

1. without an explicit path it is the nearest `.envcheckrc.json` in a directory or one above it, but
   not above a directory with a `.git` (`Config.find?`);
2. it is a JSON object with a list `patterns`, each with a tag, a pattern and extensions;
3. every pattern has to be usable.
-/

namespace EnvAudit

/-- What a config file holds. -/
structure Config where
  patterns : List CustomPattern := []
deriving Repr, DecidableEq, Inhabited

/-- Why a config file cannot be used. -/
inductive ConfigError
  | unreadable (path : Path) (fault : Fault)
  | malformed (path : Path) (e : JsonError)
  | invalidPattern (tag : String) (fault : PatternFault)
deriving Repr, DecidableEq, Inhabited

/-- The report of the failure and of what lies behind it. -/
def ConfigError.chain : ConfigError → List String
  | .unreadable path fault => [s!"Failed to read config file: {path.text}", fault.message]
  | .malformed path e => [s!"Failed to parse config file: {path.text}", e.message]
  | .invalidPattern tag fault =>
    ["Invalid entry in 'patterns': \"" ++ tag ++ "\"",
      "invalid pattern for tag \"" ++ tag ++ "\": " ++ fault.message]

namespace Config

/-- The name of a config file. -/
def fileName : Path := .ofText ".envcheckrc.json"

/-- The entry that marks the top directory of a repository. -/
def repositoryMark : Path := .ofText ".git"

/-- The text of a config file without patterns. -/
def defaultText : String := "\x7b\n  \"patterns\": []\n\x7d"

/-! ## Discovery -/

/-- The nearest config file at or above a directory. -/
def find? (fs : FileSystem) (dir : Path) : Option Path :=
  if fs.present (dir.join fileName) then some (dir.join fileName)
  else if fs.present (dir.join repositoryMark) then none
  else
    match _h : dir.parent? with
    | none => none
    | some above => find? fs above
termination_by dir.parts.length
decreasing_by exact Path.length_parts_parent _h

/-! ## Reading -/

/-- Read a custom pattern. -/
def readPattern : JsonReader CustomPattern :=
  JsonReader.record "CustomPattern" [
    ⟨"tag", true, fun c => do return { c with tag := ← JsonReader.text }⟩,
    ⟨"pattern", true, fun c => do return { c with pattern := ← JsonReader.text }⟩,
    ⟨"extensions", true, fun c => do
      return { c with extensions := ← JsonReader.list JsonReader.text }⟩] ⟨"", "", []⟩

/-- Read a config. -/
def reader : JsonReader Config :=
  JsonReader.record "Config" [
    ⟨"patterns", false, fun c => do
      return { c with patterns := ← JsonReader.list readPattern }⟩] {}

/-- Refuse a pattern that cannot be used. -/
def validate (c : Config) : Except ConfigError Unit :=
  c.patterns.forM fun p =>
    match p.compile with
    | .ok _ => .ok ()
    | .error fault => .error (.invalidPattern p.tag fault)

/-- Read a config file. -/
def readFile (fs : FileSystem) (path : Path) : Except ConfigError Config := do
  let text ← (fs.readText path).mapError (.unreadable path)
  let config ← (reader.whole? text).mapError (.malformed path)
  config.validate
  return config

/-- Read the config file at a path, or else the nearest one; with the path of the file read. -/
def load (fs : FileSystem) (explicit : Option Path) (dir : Path) :
    Except ConfigError (Config × Option Path) :=
  match explicit <|> find? fs dir with
  | some path => (readFile fs path).map fun c => (c, some path)
  | none => .ok ({}, none)

end Config

end EnvAudit
