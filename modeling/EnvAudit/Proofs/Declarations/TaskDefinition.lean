import EnvAudit.Proofs.Declarations.Formats

/-!
# EnvAudit.Proofs.Declarations.TaskDefinition

What task definitions declare. Main statements:

1. what a task definition declares is what its first container declares if all its containers can be
   read, and what its members declare if it lists none (`task_definition_declares_first_container`);
2. two task definitions with the same first container are loaded alike if and only if this one
   cannot be read or the first mismatch behind it is the same
   (`later_containers_count_by_mismatch`).
-/

namespace EnvAudit

open Json ContainerDefinition

namespace Source

variable {fs fs' : FileSystem} {path : Path} {text text' : String} {document document' : Json}
  {container : Json} {others others' : List Json}

section

variable (htask : isTaskDefinition path) (htext : fs.readText path = .ok text)
  (hread : Json.read? text = .ok document)

include htask htext hread

/-- A task definition whose first container is decoded declares its pairs unless a later container
is a mismatch. -/
theorem load_of_container
    (h : document.member? "containerDefinitions" = some (.array (container :: others)))
    {c : ContainerDefinition} (hc : ContainerDefinition.ofJson? container = .ok c) :
    load fs (.file path) = .ofExcept (match firstMismatch? others with
      | none => .ok (.ofPairs c.pairs)
      | some m => .error (.invalidSource (.malformedTaskDefinition m))) := by
  rw [load_json (kind?_of_isTaskDefinition htask) htext hread, ofJson, if_pos htask,
    TaskDefinition.firstContainer?_of_member? (Json.distinct_of_read? hread) h, hc]
  cases firstMismatch? others <;> rfl

/-- A first container that is a mismatch is what the loading fails with. -/
theorem load_of_mismatch
    (h : document.member? "containerDefinitions" = some (.array (container :: others)))
    {m : Mismatch} (hc : ContainerDefinition.ofJson? container = .error m) :
    load fs (.file path) = .fail (.invalidSource (.malformedTaskDefinition m)) := by
  rw [load_json (kind?_of_isTaskDefinition htask) htext hread, ofJson, if_pos htask,
    TaskDefinition.firstContainer?_of_member? (Json.distinct_of_read? hread) h, hc]
  rfl

/-- Without a first container the document is read as an object of variables. -/
theorem load_of_no_container
    (h : ∀ container others,
      document.member? "containerDefinitions" ≠ some (.array (container :: others))) :
    load fs (.file path) = .ofExcept (ofObject path document) := by
  rw [load_json (kind?_of_isTaskDefinition htask) htext hread, ofJson, if_pos htask,
    TaskDefinition.firstContainer?_of_not_member? (Json.distinct_of_read? hread) h]

end

/-- A task definition whose containers are all well-formed declares what its first one does, and no
other name. One that lists no container declares what it would under the name of any other JSON
file. -/
theorem task_definition_declares_first_container {members : List (String × Json)}
    (htask : isTaskDefinition path) (htext : fs.readText path = .ok text)
    (hread : Json.read? text = .ok (.object members)) :
    (∀ container others,
      (Json.object members).member? "containerDefinitions" = some (.array (container :: others)) →
      (∀ c ∈ container :: others, c.IsContainer) →
      ∃ vars, load fs (.file path) = pure vars ∧
        ∀ name : String, container.GivesValue name vars[name]?) ∧
    ((∀ container others,
      (Json.object members).member? "containerDefinitions" ≠ some (.array (container :: others))) →
      ∀ fs' other text', kind? other = .ok .json → isTaskDefinition other = false →
        fs'.readText other = .ok text' → Json.read? text' = .ok (.object members) →
        load fs (.file path) = load fs' (.file other)) := by
  have hregular := Json.regular_of_read? hread
  constructor
  · intro container others h hcontainers
    obtain ⟨hcontainer, hothers⟩ := List.forall_mem_cons.1 hcontainers
    obtain ⟨hfirst, hrest⟩ := List.forall_mem_cons.1 (hregular.of_member? h).of_mem
    obtain ⟨c, hc, henvironment, hsecrets⟩ := exists_of_isContainer hfirst.distinct hcontainer
    refine ⟨.ofPairs c.pairs, ?_, fun name => ?_⟩
    · have hnone := (firstMismatch?_eq_none_iff fun c hc => (hrest c hc).distinct).2 hothers
      rw [load_of_container htask htext hread h hc, hnone]
      rfl
    · rw [getElem?_ofPairs_pairs henvironment hsecrets]
      exact givesValue_valueIn? hcontainer hfirst name
  · intro h fs' other text' hkind hother htext' hread'
    rw [load_of_no_container htask htext hread h, load_json hkind htext' hread', ofJson, hother]
    rfl

section

/-- A directory with a file under the name of a task definition and under another one. -/
def twoNamesDir (bytes : Except Fault (List UInt8)) : FileSystem where
  root := .dir {} [("taskdef.json", .file bytes false), ("vars.json", .file bytes false)]
  current := []

/-- A directory with a text under two names. -/
def twoNamesTree (text : String) : FileSystem := twoNamesDir (.ok (Utf8.encode text.toList))

theorem readText_twoNamesTree (text : String) :
    (twoNamesTree text).readText (.ofText "taskdef.json") = .ok text ∧
      (twoNamesTree text).readText (.ofText "vars.json") = .ok text := by
  have hread : ∀ bytes, (twoNamesDir bytes).read (.ofText "taskdef.json") = bytes ∧
      (twoNamesDir bytes).read (.ofText "vars.json") = bytes :=
    fun bytes => ⟨by cbv, by cbv⟩
  obtain ⟨htask, hother⟩ := hread (.ok (Utf8.encode text.toList))
  exact ⟨FileSystem.readText_of_read htask, FileSystem.readText_of_read hother⟩

theorem member?_containers (second : Json) :
    (Json.object [("containerDefinitions", .array [secretContainer, second])]).member?
      "containerDefinitions" = some (.array [secretContainer, second]) := rfl

theorem writes_emptyList : Writes 125 ['[', ']'] (.array []) :=
  .array (w := []) (.none (by decide))

theorem task_definition_declares_first_container_taskText :
    (∃ vars, load (twoNamesTree (.ofList (taskText ['[', ']']))) (.file (.ofText "taskdef.json")) =
        pure vars ∧ vars["A"]? = some "😀" ∧ vars["containerDefinitions"]? = none) ∧
    load (twoNamesTree "\x7b\"A\": []\x7d") (.file (.ofText "taskdef.json")) =
      load (twoNamesTree "\x7b\"A\": []\x7d") (.file (.ofText "vars.json")) := by
  constructor
  · have hread := Json.read?_of_written (written_taskText writes_emptyList)
    have hds := ((Json.distinct_of_read? hread).of_member? (member?_containers _)).of_mem
    obtain ⟨vars, hload, hvalues⟩ := (task_definition_declares_first_container (by decide)
      (readText_twoNamesTree _).1 hread).1 _ _ (member?_containers _)
      ((firstMismatch?_eq_none_iff hds).1 rfl)
    exact ⟨vars, hload, (hvalues "A").eq_of_secret rfl,
      (hvalues "containerDefinitions").eq_none rfl rfl⟩
  · have hread : Json.read? "\x7b\"A\": []\x7d" = .ok (.object [("A", .array [])]) := by cbv
    exact (task_definition_declares_first_container (by decide)
      (readText_twoNamesTree _).1 hread).2 (by simp [member?]) _ _ _ (by cbv) (by decide)
      (readText_twoNamesTree _).2 hread

end

/-- Task definitions with the same first container are loaded alike if and only if this one cannot
be read or the first mismatch in the containers behind it is the same; there is none if and only if
all of them are well-formed. -/
theorem later_containers_count_by_mismatch
    (htask : isTaskDefinition path) (htext : fs.readText path = .ok text)
    (htext' : fs'.readText path = .ok text') (hread : Json.read? text = .ok document)
    (hread' : Json.read? text' = .ok document')
    (h : document.member? "containerDefinitions" = some (.array (container :: others)))
    (h' : document'.member? "containerDefinitions" = some (.array (container :: others'))) :
    (load fs (.file path) = load fs' (.file path) ↔
      ¬ container.IsContainer ∨ firstMismatch? others = firstMismatch? others') ∧
    (firstMismatch? others = none ↔ ∀ c ∈ others, c.IsContainer) := by
  have hds := ((Json.distinct_of_read? hread).of_member? h).of_mem
  obtain ⟨hd, hds⟩ := List.forall_mem_cons.1 hds
  refine ⟨?_, firstMismatch?_eq_none_iff hds⟩
  rw [← exists_iff_isContainer hd]
  cases hc : ContainerDefinition.ofJson? container with
  | error m =>
    -- The first container is read before the others, so its mismatch is reported in any case.
    simp [load_of_mismatch htask htext hread h hc, load_of_mismatch htask htext' hread' h' hc]
  | ok c =>
    rw [load_of_container htask htext hread h hc, load_of_container htask htext' hread' h' hc]
    cases firstMismatch? others <;> cases firstMismatch? others' <;> simp [Traced.ofExcept]

theorem later_containers_count_by_mismatch_taskText :
    load (twoNamesTree (.ofList (taskText ['[', ']']))) (.file (.ofText "taskdef.json")) =
      load (twoNamesTree (.ofList (taskText ['\x7b', '\x7d']))) (.file (.ofText "taskdef.json")) ∧
    load (twoNamesTree (.ofList (taskText ['[', ']']))) (.file (.ofText "taskdef.json")) ≠
      load (twoNamesTree (.ofList (taskText "null".toList))) (.file (.ofText "taskdef.json")) := by
  have hlist := Json.read?_of_written (written_taskText writes_emptyList)
  have hobject := Json.read?_of_written (written_taskText
    (.object (w := []) (.none (by decide)) : Writes 125 ['\x7b', '\x7d'] (.object [])))
  have hnull := Json.read?_of_written (written_taskText
    (.plain .null : Writes 125 "null".toList .null))
  constructor
  · exact (later_containers_count_by_mismatch (by decide) (readText_twoNamesTree _).1
      (readText_twoNamesTree _).1 hlist hobject (member?_containers _)
      (member?_containers _)).1.2 (.inr rfl)
  · have hds := ((Json.distinct_of_read? hlist).of_member? (member?_containers _)).of_mem
    have hfirst := (exists_iff_isContainer (hds _ List.mem_cons_self)).1
      ⟨⟨[], [⟨"A", some "😀"⟩]⟩, rfl⟩
    refine mt (later_containers_count_by_mismatch (by decide) (readText_twoNamesTree _).1
      (readText_twoNamesTree _).1 hlist hnull (member?_containers _)
      (member?_containers _)).1.1 ?_
    exact not_or.2 ⟨not_not.2 hfirst, by decide⟩

end Source

end EnvAudit
