import EnvAudit.Proofs.Checkout

/-!
# EnvAudit.Proofs.Checkout.EnvFile

Where the declaration file of a cloned project is, in a clone without links:

1. moves may climb above the place where they start (`Location.climbs`); those that do not lead to a
   place below it (`Location.along_append`);
2. moves that do not climb out of a tree without links lead where reckoning with names does
   (`FileSystem.follow_along`), and so do paths (`FileSystem.resolve_join_along`).

Main statement: the declaration file is where its name leads from the project
(`env_file_lies_where_its_name_leads`). Nothing keeps the name from climbing out of the project, or
from starting at the root.
-/

namespace EnvAudit

/-! ## Moves that climb -/

namespace Location

/-- Whether moves go up from a place with a number of names above it. -/
def climbs : Nat → List Move → Bool
  | _, [] => false
  | depth, .stay :: moves => climbs depth moves
  | 0, .up :: _ => true
  | depth + 1, .up :: moves => climbs depth moves
  | depth, .enter _ :: moves => climbs (depth + 1) moves

variable {location : Location} {moves : List Move}

theorem climbs_of_not_up (hup : .up ∉ moves) (depth : Nat) : climbs depth moves = false := by
  induction moves generalizing depth with
  | nil => rfl
  | cons move moves ih =>
    have hmoves := ih fun h => hup (List.mem_cons_of_mem _ h)
    cases move with
    | stay => exact hmoves depth
    | up => exact absurd List.mem_cons_self hup
    | enter name => exact hmoves (depth + 1)

/-- Further down there is more room to go up. -/
theorem climbs_mono {depth depth' : Nat} (hle : depth ≤ depth') (h : climbs depth moves = false) :
    climbs depth' moves = false := by
  induction moves generalizing depth depth' with
  | nil => rfl
  | cons move moves ih =>
    cases move with
    | stay => exact ih hle h
    | up =>
      cases depth with
      | zero => cases h
      | succ depth =>
        obtain ⟨depth', rfl⟩ := Nat.exists_eq_add_of_lt hle
        exact ih (Nat.le_add_right _ _) h
    | enter name => exact ih (Nat.succ_le_succ hle) h

/-- Where moves do not climb, what is above their start stays as it is. -/
theorem along_append (h : climbs location.length moves = false) (base : Location) :
    (base ++ location).along moves = base ++ location.along moves := by
  induction moves generalizing location with
  | nil => rfl
  | cons move moves ih =>
    cases move with
    | stay => exact ih h
    | up =>
      rcases List.eq_nil_or_concat location with rfl | ⟨above, name, rfl⟩
      · cases h
      · rw [List.concat_eq_append, List.length_append] at h
        have habove : (base ++ above).along moves = base ++ along above moves := ih h
        simpa [along, go] using habove
    | enter name =>
      have hbelow : (base ++ (location ++ [name])).along moves =
          base ++ (location ++ [name]).along moves := ih (by rwa [List.length_append])
      simpa [along, go] using hbelow

/-- Moves that never climb above the start end below it. -/
theorem prefix_along (h : climbs 0 moves = false) : location <+: location.along moves := by
  have hbelow := @along_append [] moves h location
  rw [List.append_nil] at hbelow
  exact hbelow ▸ List.prefix_append _ _

end Location

/-! ## Trees without links -/

namespace FileSystem

variable {fs : FileSystem} {base location : Location} {tree : Entry} {p q : Path}

/-- Moves that do not climb out of a tree without links lead where reckoning with names does. -/
theorem follow_along (hbase : fs.entryAt? base = some tree) (hfree : tree.LinkFree) {links : Nat}
    {moves : List Move} {a : Arrival} (hclimbs : Location.climbs location.length moves = false)
    (h : fs.follow links (base ++ location) moves = .ok (.arrived a)) :
    a.location = base ++ location.along moves ∧ a.links = links := by
  induction moves generalizing location with
  | nil =>
    rw [follow] at h
    split at h
    · cases h
      exact ⟨rfl, rfl⟩
    · cases h
  | cons move moves ih =>
    obtain ⟨access, entries, hdir, hsearch⟩ := exists_dir_of_follow_cons h
    cases move with
    | stay =>
      rw [follow_stay_cons hdir hsearch] at h
      exact ih hclimbs h
    | up =>
      rw [follow_up_cons hdir hsearch] at h
      rcases List.eq_nil_or_concat location with rfl | ⟨above, name, rfl⟩
      · cases hclimbs
      · rw [List.concat_eq_append, List.length_append] at hclimbs
        simp only [List.concat_eq_append, ← List.append_assoc, List.dropLast_concat] at h
        simpa [Location.along, Location.go] using @ih above hclimbs h
    | enter name =>
      have hbelow := @ih (location ++ [name]) (by rwa [List.length_append])
      by_cases hlong : maxName < name.utf8ByteSize
      · rw [follow_enter_of_long hdir hsearch hlong] at h
        cases h
      cases hlookup : entries.lookup name with
      | none =>
        rw [follow_enter_of_none hdir hsearch hlong hlookup] at h
        split at h <;> cases h
      | some e =>
        -- There is no link on the way.
        have hlink : ∀ target, e ≠ .link target := by
          rintro target rfl
          have hentry := Entry.find?_concat hdir hlookup
          rw [List.append_assoc] at hentry
          exact hfree _ target ((entryAt?_within hbase _).symm.trans hentry)
        rw [follow_enter_of_some hdir hsearch hlong hlookup hlink, List.append_assoc] at h
        simpa [Location.along, Location.go] using hbelow h

/-- What a path leads to behind a directory of a tree without links. -/
theorem resolve_join_along (hbase : fs.entryAt? base = some tree) (hfree : tree.LinkFree)
    {e : Entry} {links : Nat} (hp : fs.resolve p = .ok ⟨base ++ location, e, links⟩)
    (hq : ¬q.isAbsolute) (hclimbs : Location.climbs location.length q.moves = false) {a : Arrival}
    (h : fs.resolve (p.join q) = .ok a) :
    a.location = base ++ location.along q.moves ∧ a.links = links := by
  have hfollow : fs.follow maxLinks (fs.start p) (p.steps ++ q.moves) = .ok (.arrived a) := by
    rw [← (takes_of_resolve h).lead_join hq]
    exact lead_of_resolve h
  rw [follow_steps_of_resolve hp q.moves_ne_nil] at hfollow
  exact follow_along hbase hfree hclimbs hfollow

end FileSystem

/-! ## The declaration file -/

namespace Checkout

variable {w : Surroundings} {fs : FileSystem} {source : GitSource} {run : ProgramRun}

/-- The file that is found is the name joined to the project, as it is written. -/
theorem result_findFile {project name path : Path} :
    (findFile fs project name).result = .ok path ↔ path = project.join name ∧ fs.isFile path := by
  unfold findFile
  split
  · next hfile =>
    constructor
    · rintro ⟨⟩
      exact ⟨rfl, hfile⟩
    · rintro ⟨rfl, -⟩
      rfl
  · next hfile =>
    refine iff_of_false (fun h => by cases h) ?_
    rintro ⟨rfl, h⟩
    exact hfile h

/-- The project is a directory of the clone. -/
theorem Cloned.exists_inner {base : Location} {tree : Entry} {links : Nat}
    (h : Cloned w fs source run) (hclone : run.files.resolve (dir w) = .ok ⟨base, tree, links⟩)
    (hfree : tree.LinkFree) (hproject : run.files.isDir (projectDir w source)) :
    ∃ inner access entries, run.files.resolve (projectDir w source) =
      .ok ⟨base ++ inner, .dir access entries, links⟩ := by
  obtain ⟨location, access, entries, left, hdir⟩ := FileSystem.exists_of_isDir hproject
  have hbase : run.files.entryAt? base = some tree := FileSystem.entry_of_resolve hclone
  rw [projectDir_eq] at hdir ⊢
  cases hpath : source.path with
  | none =>
    rw [hpath, Option.elim] at hdir
    cases hclone.symm.trans hdir
    exact ⟨[], access, entries, by rwa [Option.elim, List.append_nil]⟩
  | some path =>
    obtain ⟨hrelative, hup⟩ := h.stays path hpath
    rw [hpath, Option.elim] at hdir
    have hstart : run.files.resolve (dir w) = .ok ⟨base ++ [], tree, links⟩ := by
      rwa [List.append_nil]
    obtain ⟨rfl, rfl⟩ := FileSystem.resolve_join_along hbase hfree hstart hrelative
      (Location.climbs_of_not_up hup _) hdir
    exact ⟨_, access, entries, hdir⟩

end Checkout

/-- In a clone without links the declaration file that is found for a project is where its name
leads from the project. If the name is relative and does not climb out of the clone, its moves tell
the place; if it does not climb above the project either, this lies in the project. But nothing
makes names stay there: an absolute name is taken as it is, and so any file can be found. -/
theorem env_file_lies_where_its_name_leads {w : Surroundings} {fs : FileSystem}
    {source : GitSource} {run : ProgramRun} {base : Location} {tree : Entry} {links : Nat}
    (hcloned : Checkout.Cloned w fs source run)
    (hclone : run.files.resolve (Checkout.dir w) = .ok ⟨base, tree, links⟩)
    (hfree : tree.LinkFree) (hproject : run.files.isDir (Checkout.projectDir w source)) :
    ∃ inner access entries, run.files.resolve (Checkout.projectDir w source) =
        .ok ⟨base ++ inner, .dir access entries, links⟩ ∧
      (∀ name path,
        (Checkout.findFile run.files (Checkout.projectDir w source) name).result = .ok path →
          ∃ location content program left,
            run.files.resolve path = .ok ⟨location, .file content program, left⟩ ∧
            (¬name.isAbsolute → Location.climbs inner.length name.moves = false →
              location = base ++ inner.along name.moves) ∧
            (¬name.isAbsolute → Location.climbs 0 name.moves = false →
              base ++ inner <+: location)) ∧
      ∀ name, name.isAbsolute → run.files.isFile name →
        (Checkout.findFile run.files (Checkout.projectDir w source) name).result = .ok name := by
  obtain ⟨inner, access, entries, hdir⟩ := hcloned.exists_inner hclone hfree hproject
  refine ⟨inner, access, entries, hdir, fun name path hfound => ?_, fun name habs hfile => ?_⟩
  · obtain ⟨rfl, hfile⟩ := Checkout.result_findFile.1 hfound
    obtain ⟨location, content, program, left, hresolve⟩ := FileSystem.exists_of_isFile hfile
    have hplace : ¬name.isAbsolute → Location.climbs inner.length name.moves = false →
        location = base ++ inner.along name.moves := fun hrelative hclimbs =>
      (FileSystem.resolve_join_along (FileSystem.entry_of_resolve hclone) hfree hdir hrelative
        hclimbs hresolve).1
    refine ⟨location, content, program, left, hresolve, hplace, fun hrelative hclimbs => ?_⟩
    rw [hplace hrelative (Location.climbs_mono (Nat.zero_le _) hclimbs)]
    exact (List.prefix_append_right_inj base).2 (Location.prefix_along hclimbs)
  · refine Checkout.result_findFile.2 ⟨?_, hfile⟩
    rw [Path.join, if_pos habs]

/-- A repository with a declaration file beside the directory of the project. -/
def outerFileRepository : List (String × Entry) :=
  [(".git", .dir {} []), (".env", .file (.ok (Utf8.encode "A=1".toList)) false),
    ("sub", .dir {} [("app.js", .file (.ok (Utf8.encode "process.env.A".toList)) false)])]

/-- Surroundings in which the repository is cloned. -/
def outerFileSurroundings : Surroundings where
  color := false
  launch := gitWith outerFileRepository
  temporary := .ofText "/tmp"
  checkoutName := "envcheck-1"

/-- The project beside the declaration file. -/
def outerFileSource : GitSource where
  url := "url"
  path := some (.ofText "sub")

/-- What is left behind when the repository is cloned. -/
def outerFileClone : FileSystem :=
  ⟨.dir {} [("tmp", .dir {} [("envcheck-1", .dir {} outerFileRepository)])], []⟩

theorem linkFree_outerFileRepository : (Entry.dir {} outerFileRepository).LinkFree := by
  refine .dir fun p hp => ?_
  simp only [outerFileRepository, List.mem_cons, List.not_mem_nil, or_false] at hp
  obtain rfl | rfl | rfl := hp
  · exact .dir fun q hq => absurd hq List.not_mem_nil
  · exact .file _ _
  · refine .dir fun q hq => ?_
    obtain rfl := List.mem_singleton.1 hq
    exact .file _ _

/-- The file above the project is found, though it is not in it. -/
theorem env_file_lies_where_its_name_leads_outerFileClone :
    (Checkout.findFile outerFileClone (.ofText "/tmp/envcheck-1/sub") (.ofText "../.env")).result =
        .ok (.ofText "/tmp/envcheck-1/sub/../.env") ∧
      ∃ content program left, outerFileClone.resolve (.ofText "/tmp/envcheck-1/sub/../.env") =
          .ok ⟨["tmp", "envcheck-1", ".env"], .file content program, left⟩ ∧
        (∃ entries links, outerFileClone.resolve (.ofText "/tmp/envcheck-1/sub") =
          .ok ⟨["tmp", "envcheck-1", "sub"], .dir {} entries, links⟩) ∧
        ¬["tmp", "envcheck-1", "sub"] <+: ["tmp", "envcheck-1", ".env"] := by
  have hcloned : Checkout.Cloned outerFileSurroundings ⟨.dir {} [("tmp", .dir {} [])], []⟩
      outerFileSource ⟨outerFileClone, "", .exited 0⟩ :=
    { valid := by decide
      launched := ⟨⟨.dir {} [("tmp", .dir {} [("envcheck-1", .dir {} [])])], []⟩, by cbv, by cbv⟩
      success := by decide }
  have hclone : outerFileClone.resolve (Checkout.dir outerFileSurroundings) =
      .ok ⟨["tmp", "envcheck-1"], .dir {} outerFileRepository, 40⟩ := by cbv
  have hproject : Checkout.projectDir outerFileSurroundings outerFileSource =
      .ofText "/tmp/envcheck-1/sub" := by decide
  have hdir : outerFileClone.isDir (Checkout.projectDir outerFileSurroundings outerFileSource) := by
    cbv
  have hfile : outerFileClone.isFile (.ofText "/tmp/envcheck-1/sub/../.env") := by cbv
  have hfound : (Checkout.findFile outerFileClone (.ofText "/tmp/envcheck-1/sub")
      (.ofText "../.env")).result = .ok (.ofText "/tmp/envcheck-1/sub/../.env") :=
    Checkout.result_findFile.2 ⟨by decide, hfile⟩
  obtain ⟨inner, access, entries, hinner, hplaces, -⟩ :=
    env_file_lies_where_its_name_leads hcloned hclone linkFree_outerFileRepository hdir
  rw [hproject] at hinner hplaces
  have hsub : outerFileClone.resolve (.ofText "/tmp/envcheck-1/sub") =
      .ok ⟨["tmp", "envcheck-1", "sub"],
        .dir {} [("app.js", .file (.ok (Utf8.encode "process.env.A".toList)) false)], 40⟩ := by cbv
  obtain ⟨rfl, -⟩ : inner = ["sub"] ∧ access = _ ∧ entries = _ := by
    simpa using hinner.symm.trans hsub
  obtain ⟨location, content, program, left, hresolve, hplace, -⟩ := hplaces _ _ hfound
  obtain rfl := hplace (by decide) (by decide)
  exact ⟨hfound, content, program, left, hresolve, ⟨_, _, hsub⟩, by decide⟩

end EnvAudit
