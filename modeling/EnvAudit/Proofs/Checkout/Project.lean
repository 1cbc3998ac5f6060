import EnvAudit.Proofs.Checkout.EnvFile

/-!
# EnvAudit.Proofs.Checkout.Project

Where the project of a clone can be:

1. a path that never goes up is names one after the other (`Path.exists_names`);
2. behind a directory such a path, if it is relative, leads to the place that its names tell, by
   reckoning with names (`Path.place_join`), and in a tree without links
   (`FileSystem.resolve_join_names`);
3. so a path that leads out of a directory starts at the root or goes up
   (`Path.mayLeave_of_leadsOut`).

Main statement: a path that is accepted for a project stays in the checkout, and one that leads out
of any checkout is refused before anything is done (`accepted_path_stays_in_checkout`).
-/

namespace EnvAudit

namespace Path

variable {p q : Path}

/-- The steps along a path that never goes up are names. -/
theorem exists_names (hup : .up ∉ p.moves) : ∃ names : Location, p.steps = names.map .enter :=
  FileSystem.exists_names (by simp [steps]) fun h => hup (List.mem_of_mem_filter h)

/-- Where a path leads from the root, by reckoning with names. -/
def place (p : Path) : Location := Location.along [] p.moves

/-- Staying leads nowhere, so the steps of a path lead where its moves lead. -/
theorem along_moves (location : Location) (p : Path) :
    location.along p.moves = location.along p.steps :=
  (location.along_filter p.moves).symm

/-- Names behind a path lead on from its place. -/
theorem place_join (hq : ¬q.isAbsolute) {names : Location} (hnames : q.steps = names.map .enter)
    (p : Path) : (p.join q).place = p.place ++ names := by
  have hsteps : (p.join q).steps = p.steps ++ names.map Move.enter := by rw [steps_join hq, hnames]
  calc (p.join q).place
      = Location.along [] (p.steps ++ names.map Move.enter) := by rw [place, along_moves, hsteps]
    _ = (Location.along [] p.steps).along (names.map Move.enter) := List.foldl_append
    _ = p.place ++ names := by rw [Location.along_map_enter, place, along_moves]

/-- By reckoning with names a path leads out of the directory at another path. -/
def LeadsOut (top path : Path) : Prop :=
  top.isAbsolute ∧ ¬top.place <+: (top.join path).place

end Path

namespace FileSystem

variable {fs : FileSystem} {top q : Path} {base names : Location} {tree : Entry} {links : Nat}

/-- In a tree without links names lead on from its top. -/
theorem resolve_join_names (htop : fs.resolve top = .ok ⟨base, tree, links⟩)
    (hfree : tree.LinkFree) (hq : ¬q.isAbsolute) (hup : .up ∉ q.moves)
    (hnames : q.steps = names.map .enter) {a : Arrival} (h : fs.resolve (top.join q) = .ok a) :
    a.location = base ++ names := by
  have hstart : fs.resolve top = .ok ⟨base ++ [], tree, links⟩ := by rwa [List.append_nil]
  obtain ⟨hplace, -⟩ := resolve_join_along (entry_of_resolve htop) hfree hstart hq
    (Location.climbs_of_not_up hup _) h
  rw [hplace, Path.along_moves, hnames, Location.along_map_enter, List.nil_append]

/-- A path leads out of the tree at another path, though there are no links in it. -/
def LeadsOut (fs : FileSystem) (top path : Path) : Prop :=
  top.isAbsolute ∧ ∃ base tree links a, fs.resolve top = .ok ⟨base, tree, links⟩ ∧ tree.LinkFree ∧
    fs.resolve (top.join path) = .ok a ∧ ¬base <+: a.location

end FileSystem

/-- A path that leads out of some directory may leave. -/
theorem Path.mayLeave_of_leadsOut {path : Path}
    (h : (∃ top : Path, top.LeadsOut path) ∨ ∃ fs top, FileSystem.LeadsOut fs top path) :
    path.mayLeave := by
  refine mayLeave_iff.2 (Decidable.byContradiction fun hstays => ?_)
  obtain ⟨hrelative, hup⟩ := not_or.1 hstays
  obtain ⟨names, hnames⟩ := exists_names hup
  rcases h with ⟨top, -, hout⟩ | ⟨fs, top, -, base, tree, links, a, htop, hfree, ha, hout⟩
  · refine hout ?_
    rw [place_join hrelative hnames]
    exact List.prefix_append _ _
  · refine hout ?_
    rw [FileSystem.resolve_join_names htop hfree hrelative hup hnames ha]
    exact List.prefix_append _ _

namespace Checkout

variable {source : GitSource} {path : Path}

/-- A path that may leave is refused: the files are as they were, and nothing is written or
noted, whatever `git` would do. -/
theorem withClone_of_mayLeave {α : Type} (hpath : source.path = some path) (hleave : path.mayLeave)
    (w : Surroundings) (fs : FileSystem) (use : FileSystem → Path → Run α) :
    withClone w fs source use = (fs, .fail (.pathLeaves path)) := by
  have hrefused : validate source = .error (.pathLeaves path) := by
    rw [validate, hpath]
    exact if_pos hleave
  rw [withClone, hrefused]

end Checkout

/-- The path of a project is accepted if it is relative and never goes up. Behind any directory it
then leads to the place that its names tell, in the directory or below it: by reckoning with names,
and, if there are no links in the directory, where there is anything at the path. A path that leads
out of any directory, in either sense, is refused: no temporary directory is made, and `git` is not
run. -/
theorem accepted_path_stays_in_checkout {source : GitSource} {path : Path}
    (hpath : source.path = some path) :
    (Checkout.validate source = .ok () ↔ ¬path.isAbsolute ∧ .up ∉ path.moves) ∧
      (Checkout.validate source = .ok () → ∃ names : Location, path.steps = names.map .enter ∧
        (∀ top : Path, (top.join path).place = top.place ++ names) ∧
        ∀ fs top base tree links a, FileSystem.resolve fs top = .ok ⟨base, tree, links⟩ →
          tree.LinkFree → fs.resolve (top.join path) = .ok a → a.location = base ++ names) ∧
      ((∃ top : Path, top.LeadsOut path) ∨ (∃ fs top, FileSystem.LeadsOut fs top path) →
        ∀ {α : Type} (w : Surroundings) (fs : FileSystem) (use : FileSystem → Path → Run α),
          Checkout.withClone w fs source use = (fs, .fail (.pathLeaves path))) := by
  refine ⟨Checkout.validate_eq_ok_iff hpath, fun haccepted => ?_, fun hout α w fs use => ?_⟩
  · obtain ⟨hrelative, hup⟩ := (Checkout.validate_eq_ok_iff hpath).1 haccepted
    obtain ⟨names, hnames⟩ := Path.exists_names hup
    exact ⟨names, hnames, Path.place_join hrelative hnames,
      fun fs top base tree links a htop hfree =>
        FileSystem.resolve_join_names htop hfree hrelative hup hnames⟩
  · exact Checkout.withClone_of_mayLeave hpath (Path.mayLeave_of_leadsOut hout) w fs use

/-- A project with its path spelled in another way. -/
def spelledSource : GitSource := { outerFileSource with path := some (.ofText ".//sub/.") }

/-- A project with a path that leads through the clone and out of it. -/
def outwardSource : GitSource := { outerFileSource with path := some (.ofText "sub/../../x") }

theorem accepted_path_stays_in_checkout_outerFileClone :
    Checkout.validate spelledSource = .ok () ∧
      (∃ names a, (Path.ofText ".//sub/.").steps = names.map .enter ∧
        outerFileClone.resolve (.ofText "/tmp/envcheck-1/.//sub/.") = .ok a ∧
        a.location = ["tmp", "envcheck-1"] ++ names) ∧
      (Path.ofText "/tmp/envcheck-1").LeadsOut (.ofText "sub/../../x") ∧
      (Command.scanGit outwardSource false {}).run outerFileSurroundings outerFileClone =
        (outerFileClone, .fail (.pathLeaves (.ofText "sub/../../x"))) := by
  have hvalid : Checkout.validate spelledSource = .ok () := by decide
  have hclone : outerFileClone.resolve (.ofText "/tmp/envcheck-1") =
      .ok ⟨["tmp", "envcheck-1"], .dir {} outerFileRepository, 40⟩ := by cbv
  have hout : (Path.ofText "/tmp/envcheck-1").LeadsOut (.ofText "sub/../../x") :=
    ⟨by decide, by decide⟩
  have hspelled : spelledSource.path = some (.ofText ".//sub/.") := rfl
  have houtward : outwardSource.path = some (.ofText "sub/../../x") := rfl
  obtain ⟨-, hstays, -⟩ := accepted_path_stays_in_checkout hspelled
  obtain ⟨-, -, hrefused⟩ := accepted_path_stays_in_checkout houtward
  obtain ⟨names, hnames, -, hplace⟩ := hstays hvalid
  have hjoin : (Path.ofText "/tmp/envcheck-1").join (.ofText ".//sub/.") =
      .ofText "/tmp/envcheck-1/.//sub/." := by decide
  have hproject : outerFileClone.isDir (.ofText "/tmp/envcheck-1/.//sub/.") := by cbv
  obtain ⟨location, access, entries, links, ha⟩ := FileSystem.exists_of_isDir hproject
  have hinside := hplace _ _ _ _ _ _ hclone linkFree_outerFileRepository (hjoin ▸ ha)
  refine ⟨hvalid, ⟨names, _, hnames, ha, hinside⟩, hout, ?_⟩
  exact hrefused (.inl ⟨_, hout⟩) outerFileSurroundings outerFileClone fun fs project =>
    Command.runScan outerFileSurroundings fs false project {}

end EnvAudit
