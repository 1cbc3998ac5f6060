import EnvAudit.Proofs.Declarations.Containers
import EnvAudit.Proofs.Environments
import EnvAudit.Proofs.Json.ReadWritten

/-!
# EnvAudit.Proofs.Declarations.Formats

The forms in which variables are declared:

1. the entries of a container are read as the names and values that they give, in the order in which
   they are listed, those of secrets last (`ContainerDefinition.exists_of_lists`);
2. the first container of a task definition is read if all of them can be
   (`TaskDefinition.firstContainer?_eq`);
3. a file that is named like a task definition is a JSON file (`Source.kind?_of_isTaskDefinition`),
   so that its text is read as the value it stands for (`Source.load_json`).

Main statement: variables are loaded alike in all forms, and checks end alike
(`declared_alike_in_any_format`).
-/

namespace EnvAudit

/-! ## Containers -/

/-- An entry gives a name a value, in a member whose name is `field`. -/
def Json.GivesPair (field : String) (entry : Json) (p : String × String) : Prop :=
  entry.member? "name" = some (.text p.1) ∧ entry.member? field = some (.text p.2)

/-- The entries of a list, if there is one, give names values. -/
inductive Json.ListsPairs (field : String) : Option Json → List (String × String) → Prop
  | none : ListsPairs field none []
  | array {entries : List Json} {pairs : List (String × String)} :
      List.Forall₂ (GivesPair field) entries pairs → ListsPairs field (some (.array entries)) pairs

/-- A container lists names with values in its environment, and others as secrets. -/
structure Json.Lists (container : Json) (environment secrets : List (String × String)) : Prop where
  isObject : ∃ members, container = .object members
  environment : ListsPairs "value" (container.member? "environment") environment
  secrets : ListsPairs "valueFrom" (container.member? "secrets") secrets

section

variable {field : String} {isValue : Json → Prop} (hvalue : ∀ s, isValue (.text s))

/-- An entry that gives a pair declares it. -/
theorem Json.GivesPair.declares {entry : Json} {p : String × String} (h : entry.GivesPair field p) :
    entry.Declares field p := by
  obtain ⟨hname, hvalue⟩ := h
  obtain ⟨ms, rfl⟩ := Json.exists_of_member? hname
  exact ⟨by rw [entryName?, field?, hname], by rw [entryText, field?, hvalue]; rfl⟩

/-- A list of entries that give pairs declares these in order. -/
theorem Json.ListsPairs.declares {ms : List (String × Json)} {name : String}
    {pairs : List (String × String)} (h : ListsPairs field ((Json.object ms).member? name) pairs)
    (index : Nat) : List.Forall₂ (Declares field) ((Json.object ms).entries index name) pairs := by
  rw [entries, field?]
  generalize (Json.object ms).member? name = v at h
  cases h with
  | none => exact .nil
  | array h => exact h.imp fun _ _ h => h.declares

include hvalue

theorem Json.GivesPair.isEntry {entry : Json} {p : String × String} (h : entry.GivesPair field p) :
    entry.IsEntry field isValue := by
  obtain ⟨hname, hgiven⟩ := h
  obtain ⟨ms, rfl⟩ := Json.exists_of_member? hname
  refine ⟨.object ms, ⟨p.1, hname⟩, fun v hv => ?_⟩
  obtain rfl := Option.some.inj (hgiven.symm.trans hv)
  exact hvalue p.2

theorem Json.ListsPairs.isEntryList {listed : Option Json} {pairs : List (String × String)}
    (h : ListsPairs field listed pairs) : ∀ v, listed = some v → v.IsEntryList field isValue := by
  cases h with
  | none => simp
  | @array entries pairs h =>
    rintro v ⟨⟩
    refine ⟨entries, rfl, fun entry hentry => ?_⟩
    obtain ⟨p, hp⟩ := exists_of_forall₂ h entry hentry
    exact hp.isEntry hvalue

end

/-- A container that lists names with values is well-formed. -/
theorem Json.Lists.isContainer {container : Json} {environment secrets : List (String × String)}
    (h : container.Lists environment secrets) : container.IsContainer := by
  obtain ⟨⟨ms, rfl⟩, henvironment, hsecrets⟩ := h
  exact ⟨.object ms, henvironment.isEntryList fun _ => trivial,
    hsecrets.isEntryList fun s => .inr ⟨s, rfl⟩⟩

/-- A container that lists names with values is read so. -/
theorem ContainerDefinition.exists_of_lists {container : Json}
    {environment secrets : List (String × String)} (hd : container.Distinct)
    (h : container.Lists environment secrets) :
    ∃ c, ofJson? container = .ok c ∧ c.pairs = environment ++ secrets := by
  obtain ⟨c, hc, henvironment, hsecrets⟩ := exists_of_isContainer hd h.isContainer
  obtain ⟨⟨ms, rfl⟩, henvironment', hsecrets'⟩ := h
  have hunique := fun field => (Json.Declares.right_unique field).forall₂
  refine ⟨c, hc, ?_⟩
  rw [pairs, hunique _ henvironment (henvironment'.declares 0),
    hunique _ hsecrets (hsecrets'.declares 1)]

/-! ## Sources -/

namespace Source

variable {fs : FileSystem} {path : Path} {text : String} {v : Json}

/-- A file that is named like a task definition is named like a JSON file. -/
theorem kind?_of_isTaskDefinition (h : isTaskDefinition path) : kind? path = .ok .json := by
  obtain ⟨name, hname, hending⟩ := (Option.any_eq_true _ _).1 h
  obtain ⟨start, rfl⟩ := List.isSuffixOf_iff_suffix.1 hending
  have hchars : path.chars ≠ [] := by
    rintro hnil
    obtain rfl : path = ⟨[]⟩ := by rw [← hnil]
    cases hname
  have henv : path.fileName? ≠ some ".env".toList := by
    intro henv
    have hlength := congrArg List.length (Option.some.inj (hname.symm.trans henv))
    simp [taskDefinitionEnding] at hlength
  have hextension : path.extension? = some "json".toList := by
    rw [Path.extension?, hname]
    simp [Path.extensionOf?, taskDefinitionEnding]
  rw [kind?, if_neg hchars, if_neg henv, hextension]
  rfl

/-- A readable file of JSON declares what its value declares. -/
theorem load_json (hkind : kind? path = .ok .json) (htext : fs.readText path = .ok text)
    (hv : Json.read? text = .ok v) : load fs (.file path) = .ofExcept (ofJson path v) := by
  rw [load, readFile, hkind, htext]
  change Traced.ofExcept (readJson path text) = _
  rw [readJson, hv]

/-- A source that holds variables in one of three forms: as a mapping, as the members of a JSON
object, or as what the first container of a task definition lists, before other containers. -/
inductive Holds (fs : FileSystem) (vars : Variables) : Source → List Json → Prop
  | mapping : Holds fs vars (.mapping vars) []
  | object {path : Path} {text : String} {pairs : List (String × String)} :
      kind? path = .ok .json → isTaskDefinition path = false → fs.readText path = .ok text →
      Json.Written text (.object (pairs.map fun p => (p.1, .text p.2))) →
      pairs.Perm vars.toList → Holds fs vars (.file path) []
  | taskDefinition {path : Path} {text : String} {document container : Json}
      {others : List Json} {environment secrets : List (String × String)} :
      isTaskDefinition path → fs.readText path = .ok text → Json.Written text document →
      document.member? "containerDefinitions" = some (.array (container :: others)) →
      container.Lists environment secrets → (environment ++ secrets).Perm vars.toList →
      Holds fs vars (.file path) others

variable {vars : Variables} {source : Source} {others : List Json}

/-- What a source holds is loaded if the other containers of a task definition can be read. -/
theorem Holds.result_load (h : source.Holds fs vars others) :
    ∃ loaded, loaded.toList = vars.toList ∧
      (source.load fs).result = match others.mapM ContainerDefinition.ofJson? with
        | .ok _ => .ok loaded
        | .error m => .error (.invalidSource (.malformedTaskDefinition m)) := by
  cases h with
  | mapping => exact ⟨vars, rfl, rfl⟩
  | @object path text pairs hkind htask htext hv hperm =>
    refine ⟨.ofPairs pairs, Variables.toList_ofPairs_of_perm hperm, ?_⟩
    have hpairs : (pairs.map fun p => (p.1, Json.text p.2)).map (fun m => (m.1, m.2.asText)) =
        pairs := by simp [Json.asText, Function.comp_def]
    rw [load_json hkind htext (Json.read?_of_written hv), Traced.result_ofExcept, ofJson, htask]
    exact congrArg (fun ps => Except.ok (Variables.ofPairs ps)) hpairs
  | @taskDefinition path text document container _ environment secrets htask htext hv hmember
      hlists hperm =>
    have hread := Json.read?_of_written hv
    have hd := Json.distinct_of_read? hread
    have hcontainer := (hd.of_member? hmember).of_mem container List.mem_cons_self
    obtain ⟨c, hc, hpairs⟩ := ContainerDefinition.exists_of_lists hcontainer hlists
    refine ⟨.ofPairs c.pairs, ?_, ?_⟩
    · rw [hpairs]
      exact Variables.toList_ofPairs_of_perm hperm
    · rw [load_json (kind?_of_isTaskDefinition htask) htext hread, Traced.result_ofExcept, ofJson,
        if_pos htask, TaskDefinition.firstContainer?_eq hd hmember, hc]
      cases others.mapM ContainerDefinition.ofJson? with
      | error m => rfl
      | ok cs => rfl

end Source

/-! ## Checks -/

/-- Checks that end alike, but for the name of the source in which declarations are missing. -/
inductive EndsAlike : Except CheckError CheckOutcome → Except CheckError CheckOutcome → Prop
  | ok {a b : CheckOutcome} : a.declared.toList = b.declared.toList → a.scan = b.scan →
      EndsAlike (.ok a) (.ok b)
  | missing {names : List String} {d d' : String} :
      EndsAlike (.error (.missing names d)) (.error (.missing names d'))
  | error {e : CheckError} : EndsAlike (.error e) (.error e)

variable {fs : FileSystem} {vars : Variables} {source : Source} {others : List Json}

/-- A check depends on its source only by the variables that are declared. -/
theorem check_endsAlike {source' : Source} {declared declared' : Variables}
    (hload : (source.load fs).result = .ok declared)
    (hload' : (source'.load fs).result = .ok declared')
    (h : declared.toList = declared'.toList) (project : Path) (o : ScanOptions) :
    EndsAlike (check fs source project o).result (check fs source' project o).result := by
  cases hregistry : o.registry with
  | error e =>
    rw [result_check_of_invalid hregistry, result_check_of_invalid hregistry]
    exact .error
  | ok registry =>
    cases hscan : (scan fs registry o.debug project).result with
    | error e =>
      rw [result_check_of_unscanned hregistry hload hscan,
        result_check_of_unscanned hregistry hload' hscan]
      exact .error
    | ok s =>
      have hmissing : missing declared s.names = missing declared' s.names := by
        simp only [missing, Variables.declares_congr h]
      rw [result_check_of_scanned hregistry hload hscan,
        result_check_of_scanned hregistry hload' hscan, hmissing]
      split
      · exact .ok h rfl
      · exact .missing

/-- Variables are loaded alike from a mapping, from the members of a JSON object and from the lists
of the first container of a task definition, in whatever order they come there and however the text
is written; and checks end alike with all sources from which they are loaded. Only a task definition
with another container that cannot be read is refused. -/
theorem declared_alike_in_any_format (h : source.Holds fs vars others) :
    (∀ containers, others.mapM ContainerDefinition.ofJson? = .ok containers →
      ∃ loaded, (source.load fs).result = .ok loaded ∧ loaded.toList = vars.toList ∧
        ∀ source' loaded', (source'.load fs).result = .ok loaded' →
          loaded'.toList = vars.toList → ∀ project o,
            EndsAlike (check fs source project o).result (check fs source' project o).result) ∧
    ∀ mismatch, others.mapM ContainerDefinition.ofJson? = .error mismatch →
      (source.load fs).result = .error (.invalidSource (.malformedTaskDefinition mismatch)) := by
  obtain ⟨loaded, hvars, hload⟩ := h.result_load
  constructor
  · intro containers hcontainers
    rw [hcontainers] at hload
    exact ⟨loaded, hload, hvars, fun source' loaded' hload' hvars' =>
      check_endsAlike hload hload' (hvars.trans hvars'.symm)⟩
  · intro mismatch hmismatch
    rw [hload, hmismatch]

/-! ## A task definition with a second container -/

section

open Json

/-- A smile as it may be written, by two code units. -/
def smileText : List Char :=
  '"' :: (['\\', 'u', 'd', '8', '3', 'd', '\\', 'u', 'D', 'E', '0', '0'] ++ []) ++ ['"']

theorem writesText_smileText : WritesText smileText "😀" := by
  have hhigh := @WritesUnit.intro 'd' '8' '3' 'd' 13 8 3 13 ⟨by decide, by decide⟩
    ⟨by decide, by decide⟩ ⟨by decide, by decide⟩ ⟨by decide, by decide⟩
  have hlow := @WritesUnit.intro 'D' 'E' '0' '0' 13 14 0 0 ⟨by decide, by decide⟩
    ⟨by decide, by decide⟩ ⟨by decide, by decide⟩ ⟨by decide, by decide⟩
  exact .intro (.cons (.units (c := '😀') (by decide) hhigh hlow) .nil)

/-- A member of an object as it is printed. -/
def memberText (name : String) (w : List Char) : List Char := encodeText name.toList ++ ':' :: w

theorem writesMember_memberText {writes : List Char → Json → Prop} {w : List Char} {v : Json}
    (name : String) (h : writes w v) : WritesMember writes (memberText name w) (name, v) :=
  .intro (b := []) (e := []) (writesText_encodeText name) (by decide) (by decide) h

/-- An object with one member, blanks included, reads back. -/
theorem writes_object_single {depth : Nat} {w : List Char} {v : Json} (name : String)
    (h : Writes depth w v) :
    Writes (depth + 1) ('\x7b' :: (memberText name w ++ [' ']) ++ ['\x7d']) (.object [(name, v)]) :=
  .object (.last (b := []) (by decide) (writesMember_memberText name h) (by decide))

/-- A task definition with a secret `A` in its first container, before a second container. -/
def taskText (second : List Char) : List Char :=
  let secret := memberText "name" (encodeText "A".toList) ++ ',' ::
    (memberText "valueFrom" smileText ++ [' '])
  let secrets := '[' :: (('\x7b' :: secret ++ ['\x7d']) ++ [' ']) ++ [']']
  let first := '\x7b' :: (memberText "secrets" secrets ++ [' ']) ++ ['\x7d']
  let containers := '[' :: (first ++ ',' :: (second ++ [' '])) ++ [']']
  '\x7b' :: (memberText "containerDefinitions" containers ++ [' ']) ++ ['\x7d']

/-- A container with a secret `A`. -/
def secretContainer : Json :=
  .object [("secrets", .array [.object [("name", .text "A"), ("valueFrom", .text "😀")]])]

/-- The task definition with a second container reads back. -/
theorem written_taskText {w : List Char} {second : Json} (h : Writes 125 w second) :
    Written (.ofList (taskText w))
      (.object [("containerDefinitions", .array [secretContainer, second])]) := by
  have hname := writesMember_memberText "name" (writes_text (writesText_encodeText "A") 122)
  have hvalue := writesMember_memberText "valueFrom" (writes_text writesText_smileText 122)
  have hsecret : Writes 123 _ (.object [("name", .text "A"), ("valueFrom", .text "😀")]) :=
    .object (.more (b := []) (e := []) (by decide) hname (by decide)
      (.last (b := []) (e := [' ']) (by decide) hvalue (by decide)))
  have hsecrets : Writes 124 _ (.array [_]) :=
    .array (.last (b := []) (e := [' ']) (by decide) hsecret (by decide))
  have hcontainers : Writes 126 _ (.array [secretContainer, second]) :=
    .array (.more (b := []) (e := []) (by decide) (writes_object_single "secrets" hsecrets)
      (by decide) (.last (b := []) (e := [' ']) (by decide) h (by decide)))
  refine .intro (b := []) (e := []) (by decide)
    (writes_object_single "containerDefinitions" hcontainers) (by decide) ?_
  simp [taskText]

/-- A project with two task definitions, of which one has a second container that is malformed. -/
def taskTree : FileSystem where
  root := .dir {} [
    ("a.js", .file (.ok (Utf8.encode "process.env.A; process.env.B".toList)) false),
    ("prod-taskdef.json", .file (.ok (Utf8.encode (taskText
      ('\x7b' :: (memberText "environment" "null".toList ++ [' ']) ++ ['\x7d'])))) false),
    ("taskdef.json", .file (.ok (Utf8.encode (taskText
      ('\x7b' :: (memberText "image" (encodeText "b".toList) ++ [' ']) ++ ['\x7d'])))) false)]
  current := []

/-- A file with that text holds the pair in every format. -/
theorem holds_taskText {fs : FileSystem} (path : Path) {w : List Char} {second : Json}
    (hpath : Source.isTaskDefinition path) (hw : Writes 125 w second)
    (hread : fs.read path = .ok (Utf8.encode (taskText w))) :
    Source.Holds fs (.ofPairs [("A", "😀")]) (.file path) [second] := by
  have htext : fs.readText path = .ok (.ofList (taskText w)) :=
    FileSystem.readText_of_read (by rw [hread, String.toList_ofList])
  have hsecret : GivesPair "valueFrom" (.object [("name", .text "A"), ("valueFrom", .text "😀")])
      ("A", "😀") := ⟨by simp [member?], by simp [member?]⟩
  have hlists : secretContainer.Lists [] [("A", "😀")] :=
    ⟨⟨_, rfl⟩, .none, .array (.cons hsecret .nil)⟩
  exact .taskDefinition hpath htext (written_taskText hw) rfl hlists (.refl _)

theorem declared_alike_in_any_format_taskTree :
    (∃ loaded, (Source.load taskTree (.file (.ofText "taskdef.json"))).result = .ok loaded ∧
      loaded.toList = [("A", "😀")] ∧
      EndsAlike (check taskTree (.file (.ofText "taskdef.json")) (.ofText ".") {}).result
        (.error (.missing ["B"] "the provided mapping"))) ∧
      (Source.load taskTree (.file (.ofText "prod-taskdef.json"))).result =
        .error (.invalidSource (.malformedTaskDefinition (.type .null "a sequence"))) := by
  have himage : Writes 125 _ (.object [("image", .text "b")]) :=
    writes_object_single "image" (writes_text (writesText_encodeText "b") 124)
  have hnull : Writes 125 _ (.object [("environment", .null)]) :=
    writes_object_single "environment" (.plain .null)
  have hgood := holds_taskText (.ofText "taskdef.json") (by decide) himage
    (by cbv : taskTree.read _ = _)
  have hbad := holds_taskText (.ofText "prod-taskdef.json") (by decide) hnull
    (by cbv : taskTree.read _ = _)
  constructor
  · obtain ⟨loaded, hload, hvars, hchecks⟩ := (declared_alike_in_any_format hgood).1 [{}] rfl
    have hcheck := hchecks (.mapping (.ofPairs [("A", "😀")])) _ rfl rfl (.ofText ".") {}
    refine ⟨loaded, hload, hvars, ?_⟩
    have hmissing : (check taskTree (.mapping (.ofPairs [("A", "😀")])) (.ofText ".") {}).result =
      .error (.missing ["B"] "the provided mapping") := by cbv
    rwa [hmissing] at hcheck
  · exact (declared_alike_in_any_format hbad).2 (.type .null "a sequence") rfl

end

end EnvAudit
