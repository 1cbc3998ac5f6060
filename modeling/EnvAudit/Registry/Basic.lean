import EnvAudit.Registry.Entry

/-!
# EnvAudit.Registry.Basic

The kinds of files that are searched, each under its tag. The default ones are files of JavaScript,
.NET and Flutter; others come behind them, and one with a tag that is there already takes the place
of that entry. Of the entries for an extension the first counts.
-/

namespace EnvAudit

/-- The kinds of files that are searched. -/
structure Registry where
  entries : List PatternEntry
deriving Repr, Inhabited

namespace Registry

/-! ## Default entries -/

/-- The characters of a name, and `-`. -/
def dashedWord : CharSet := ⟨(0x2d, 0x2d) :: CharSet.word.ranges⟩

/-- A run of characters, remembered under a number. -/
def nameOf (index : Nat) (set : CharSet) : Node := .group index (.rep 1 none true (.chars set))

/-- A name between two texts. -/
def enclosed (before : String) (index : Nat) (after : String) : Node :=
  .seq [.text before.toList, nameOf index dashedWord, .text after.toList]

/-- References like `process.env.NAME` and `process.env["NAME"]`. -/
def javascript : PatternEntry where
  tag := "javascript"
  text := r#"process\.env(?:\["([\w-]+)"\]|\.(\w+))"#
  pattern := .ofNode <| .seq [
    .text "process.env".toList,
    .alt [enclosed "[\"" 1 "\"]", .seq [.text ".".toList, nameOf 2 .word]]]
  extensions := [".js", ".jsx", ".ts", ".tsx"]

/-- References like `GetEnvironmentVariable("NAME")`. -/
def dotnet : PatternEntry where
  tag := "dotnet"
  text := r#"GetEnvironmentVariable\("([\w-]+)"\)"#
  pattern := .ofNode (enclosed "GetEnvironmentVariable(\"" 1 "\")")
  extensions := [".cs"]

/-- References like `String.fromEnvironment("NAME")`. -/
def flutter : PatternEntry where
  tag := "flutter"
  text := r#"String\.fromEnvironment\("([\w-]+)"\)"#
  pattern := .ofNode (enclosed "String.fromEnvironment(\"" 1 "\")")
  extensions := [".dart"]

/-- The registry without custom entries. -/
def default : Registry := ⟨[javascript, dotnet, flutter]⟩

/-- The registry without entries. -/
def empty : Registry := ⟨[]⟩

/-! ## Looking up -/

/-- The entry with a tag. -/
def get? (r : Registry) (tag : String) : Option PatternEntry := r.entries.find? fun e => e.tag = tag

/-- The first entry for an extension. -/
def forExtension? (r : Registry) (extension : String) : Option PatternEntry :=
  r.entries.find? fun e => e.claims extension

/-! ## Adding entries -/

/-- Put an entry in the place of the one with its tag, or behind all others. -/
def put (entries : List PatternEntry) (new : PatternEntry) : List PatternEntry :=
  match entries with
  | [] => [new]
  | e :: rest => if e.tag = new.tag then new :: rest else e :: put rest new

/-- Put entries in one after the other. -/
def merge (r : Registry) (new : List PatternEntry) : Registry := ⟨new.foldl put r.entries⟩

/-- Read custom patterns; on failure with the tag of the first that cannot be used. -/
def compileAll (custom : List CustomPattern) :
    Except (String × PatternFault) (List PatternEntry) :=
  custom.mapM fun c => c.compile.mapError fun fault => (c.tag, fault)

/-- The default registry with custom patterns put in. -/
def withCustom (custom : List CustomPattern) : Except (String × PatternFault) Registry :=
  (compileAll custom).map default.merge

end Registry

end EnvAudit
