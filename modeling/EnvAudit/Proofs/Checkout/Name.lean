import EnvAudit.Proofs.Checkout
import EnvAudit.Proofs.Checkout.Cloning

/-!
# EnvAudit.Proofs.Checkout.Name

Two runs of a command on a clone that differ in the name of the checkout:

1. what the runs come to is at places that correspond, or outside of the checkouts
   (`Path.Renamed`), and failures there have the paths to the checkouts in their reports
   (`message_of_renamed`);
2. in the two clones the project is configured, declares variables and is walked through alike
   (`Twins.scanOptions_like`, `Twins.load_like`, `Twins.walk_like`).

Main statement: the name of the checkout shows in the report of a failure at a place in the
checkout, and in nothing else (`checkout_name_shows_in_failures`).
-/

namespace EnvAudit

/-! ## Places in two checkouts -/

/-- The same surroundings, but for the name of the temporary directory. -/
def Surroundings.renamed (w : Surroundings) (name : String) : Surroundings :=
  { w with checkoutName := name }

namespace Path

/-- Places that two runs come to: behind the paths to the two checkouts, or one outside. -/
inductive Renamed (top top' : Path) : Path → Path → Prop
  | inside {p q : Path} : Moved top top' p q → Renamed top top' p q
  | outside {p : Path} : ¬top.Behind p → Renamed top top' p p

end Path

/-- The report of a temporary directory that cannot be made ends in its quoted path. -/
theorem CommandError.exists_message_noTemporaryDir (fault : Fault) : ∃ before, ∀ path : Path,
    (noTemporaryDir path fault).message = before ++ Quoted.quotePath path.text := by
  refine ⟨"Failed to create temporary directory: " ++ fault.message ++ " at path ", fun path => ?_⟩
  simp only [message, chain]
  simp [toString, String.append_assoc]

/-- Two failures at a place in the checkouts have the paths to these in their reports; any other
failures have the same report. -/
theorem CommandError.Like.message_of_renamed {top top' : Path} {e f : CommandError}
    (h : e.Like (Path.Renamed top top') f) :
    ((¬∃ path, e.place? = some path ∧ top.Behind path) → e.message = f.message) ∧
      ((∃ path, e.place? = some path ∧ top.Behind path) → ∃ before behind,
        e.message = before ++ top.text ++ behind ∧ f.message = before ++ top'.text ++ behind) := by
  obtain ⟨hplace, rfl⟩ | ⟨p, q, hpq, hplace, before, behind, he, hf⟩ := h.exists_place
  · refine ⟨fun _ => rfl, ?_⟩
    rintro ⟨path, hpath, -⟩
    cases hplace.symm.trans hpath
  · cases hpq with
    | outside hp =>
      refine ⟨fun _ => he.trans hf.symm, ?_⟩
      rintro ⟨path, hpath, hbehind⟩
      cases hplace.symm.trans hpath
      exact absurd hbehind hp
    | inside hmoved =>
      refine ⟨fun hnot => absurd ⟨p, hplace, hmoved.behind⟩ hnot, fun _ => ?_⟩
      obtain ⟨rest, hp, hq⟩ := hmoved.exists_text
      refine ⟨before, rest ++ behind, ?_, ?_⟩
      · rw [he, hp]
        simp only [String.append_assoc]
      · rw [hf, hq]
        simp only [String.append_assoc]

/-! ## The project in two clones -/

/-- One closed tree with the mark of a repository, in two places. -/
structure Clone (fs fs' : FileSystem) (top top' : Path) (tree : Entry) (base base' : Location)
    (links : Nat) : Prop where
  closed : tree.Closed
  left : fs.resolve top = .ok ⟨base, tree, links⟩
  right : fs'.resolve top' = .ok ⟨base', tree, links⟩
  mark : fs'.present (top'.join Config.repositoryMark)

/-- A project in a tree that is in two places. The paths to the project go on alike behind the paths
to the tree, which have one size. -/
structure Twins (fs fs' : FileSystem) (top top' p p' : Path) (tree : Entry)
    (base base' location : Location) (inner : List Move) (entries : List (String × Entry))
    (links more : Nat) : Prop extends Clone fs fs' top top' tree base base' links where
  extended : top.Extends p inner
  extended' : top'.Extends p' inner
  down : .up ∉ inner
  dir : FileSystem.SameDir fs fs' base base' p p' location entries more
  ends : top.EndsInPart
  ends' : top'.EndsInPart
  size : top.text.utf8ByteSize = top'.text.utf8ByteSize
  moved : Path.Moved top top' p p'

namespace Twins

variable {fs fs' : FileSystem} {top top' p p' q : Path} {tree : Entry}
  {base base' location : Location} {inner : List Move} {entries : List (String × Entry)}
  {links more : Nat}
  (h : Twins fs fs' top top' p p' tree base base' location inner entries links more)
include h

/-- Going to an entry keeps paths moved alike. -/
theorem keptByNames : FileSystem.KeptByNames (Path.Moved top top') := fun hname hmoved =>
  hmoved.join h.ends h.ends' hname.not_isAbsolute

/-- Going to the parent keeps paths moved alike. -/
theorem keptByParents : FileSystem.KeptByParents top top' (Path.Moved top top') :=
  fun hp _ hinner hmoved habove habove' => hmoved.parent? h.ends h.ends' hp hinner habove habove'

/-- The walks from the two places come to the same files, each under its own name. -/
theorem walk_like : (fs.walk p).Like (Path.Renamed top top') (fs'.walk p') := by
  have hfit : Walk.Fit (Path.Moved top top') (fs.walk p) (fs'.walk p') :=
    .inl fun hmoved => by rw [Path.Short, Path.Short, hmoved.size_eq h.size]
  have hwalk := h.dir.walk_like h.closed h.left h.right h.keptByNames h.moved hfit
  exact hwalk.mono .inside

/-- The options a scan is run with are read alike at the two places. -/
theorem scanOptions_like {settings : ScanSettings}
    (hshort : (p.join Config.fileName).text.utf8ByteSize ≤ FileSystem.maxPath)
    (hconfig : ∀ c ∈ settings.config, ¬top.Behind c ∧ fs.readText c = fs'.readText c) :
    (Command.scanOptions fs settings p).QuietLike (Path.Renamed top top') (· = ·)
      (Command.scanOptions fs' settings p') := by
  have hrelative : ¬Config.fileName.isAbsolute := by decide
  have hnul : '\x00' ∉ Config.fileName.chars := by decide
  have hsize := (h.moved.join h.ends h.ends' hrelative).size_eq h.size
  have htakes := (FileSystem.takes_of_resolve h.dir.left).join hrelative hnul hshort
  have htakes' := (FileSystem.takes_of_resolve h.dir.right).join hrelative hnul (hsize ▸ hshort)
  have hfind := FileSystem.find?_like h.closed h.left h.right h.keptByNames h.keptByParents h.mark
    h.extended h.extended' h.down htakes htakes' h.moved
  refine Command.scanOptions_like (Config.load_like ?_ ?_)
  · exact fun c hc => ⟨.outside (hconfig c hc).1, (hconfig c hc).2⟩
  · generalize Config.find? fs p = found, Config.find? fs' p' = found' at hfind
    cases hfind with
    | none => exact .none
    | some hc => exact .some ⟨.inside hc.1, hc.2⟩

/-- Inside the tree paths lead to the same entries, however long they are. -/
theorem look_join (hq : ¬q.isAbsolute) (hup : .up ∉ q.moves) :
    fs.look (p.join q) = fs'.look (p'.join q) :=
  FileSystem.look_join_of_size_eq h.closed h.left h.right h.extended h.extended' h.down
    (FileSystem.takes_of_resolve h.dir.left) (FileSystem.takes_of_resolve h.dir.right) hq hup
    ((h.moved.join h.ends h.ends' hq).size_eq h.size)

/-- A declaration file that looks the same in both declares the same. -/
theorem load_like (hlook : fs.look (p.join q) = fs'.look (p'.join q))
    (hplace : q.isAbsolute → ¬top.Behind q) (hfile : fs.isFile (p.join q)) :
    ((Source.file (p.join q)).load fs).QuietLike (CheckError.Like (Path.Renamed top top')) (· = ·)
      ((Source.file (p'.join q)).load fs') := by
  have hread := FileSystem.readText_congr hlook
  by_cases hq : q.isAbsolute
  · have hjoin : ∀ p : Path, p.join q = q := fun p => if_pos hq
    have hempty : q.chars ≠ [] := by
      intro hnil
      rw [Path.isAbsolute, hnil] at hq
      cases hq
    rw [hjoin, hjoin] at hread ⊢
    exact Source.load_like rfl hempty hempty (.outside (hplace hq)) hread
  · have hsteps : q.steps ≠ [] := fun hsteps =>
      FileSystem.not_isFile_join h.dir.left hq hsteps hfile
    have hempty : ∀ {fs : FileSystem} {p : Path} {a : Arrival}, fs.resolve p = .ok a →
        (p.join q).chars ≠ [] := fun hp =>
      Path.chars_join_ne_nil hq (.inl (FileSystem.takes_of_resolve hp).not_empty)
    exact Source.load_like (Path.fileName?_join_congr hq hsteps p p') (hempty h.dir.left)
      (hempty h.dir.right) (.inside (h.moved.join h.ends h.ends' hq)) hread

end Twins

namespace Checkout

/-- Another name for the checkout, and paths that are given and do not lead into it. -/
structure Renaming (w : Surroundings) (name : String) (settings : ScanSettings)
    (envFile : Option Path) : Prop where
  isName : Path.IsName w.checkoutName
  isName' : Path.IsName name
  size : w.checkoutName.utf8ByteSize = name.utf8ByteSize
  config : ∀ c ∈ settings.config, ¬(dir w).Behind c
  envFile : ∀ q ∈ envFile, q.isAbsolute → ¬(dir w).Behind q

/-- Runs of `git` that tell the same, leave the same, and leave alone what else is looked at. -/
structure SameRun (w w' : Surroundings) (source : GitSource) (settings : ScanSettings)
    (envFile : Option Path) (run run' : ProgramRun) : Prop where
  errors : run.errors = run'.errors
  status : run.status = run'.status
  clone : run.status.isSuccess →
    ∃ tree base base' links, Clone run.files run'.files (dir w) (dir w') tree base base' links
  config : ∀ c ∈ settings.config, run.files.readText c = run'.files.readText c
  outside : ∀ q ∈ envFile, q.mayLeave →
    run.files.look ((projectDir w source).join q) = run'.files.look ((projectDir w' source).join q)

section Twins

variable {w : Surroundings} {name : String} {settings : ScanSettings} {envFile : Option Path}
  {source : GitSource} {fs fs' : FileSystem} {tree : Entry} {base base' : Location} {links : Nat}

/-- The two checkouts have names of one length. -/
theorem Renaming.size_dir (h : Renaming w name settings envFile) :
    (dir w).text.utf8ByteSize = (dir (w.renamed name)).text.utf8ByteSize := by
  have hname : (Path.ofText w.checkoutName).text.utf8ByteSize =
      (Path.ofText name).text.utf8ByteSize := by
    simpa [Path.ofText, Path.text] using h.size
  have habs := h.isName.not_isAbsolute
  have habs' := h.isName'.not_isAbsolute
  exact Nat.le_antisymm (Path.size_join_le_of_size_le habs' habs (Nat.le_of_eq hname))
    (Path.size_join_le_of_size_le habs habs' (Nat.le_of_eq hname.symm))

variable (hrenaming : Renaming w name settings envFile) (hvalid : validate source = .ok ())
  (hclone : Clone fs fs' (dir w) (dir (w.renamed name)) tree base base' links)
include hrenaming hvalid

/-- The project directory moves with the checkout. -/
theorem Renaming.moved_projectDir : Path.Moved (dir w) (dir (w.renamed name))
    (projectDir w source) (projectDir (w.renamed name) source) := by
  have hends := hrenaming.isName.endsInPart w.temporary
  have hends' := hrenaming.isName'.endsInPart w.temporary
  rw [projectDir_eq, projectDir_eq]
  cases hpath : source.path with
  | none => exact .top
  | some path => exact Path.Moved.top.join hends hends' (stays_of_validate hvalid path hpath).1

include hclone

/-- The project is a directory in both clones or in neither. -/
theorem isDir_projectDir_eq : fs.isDir (projectDir w source) =
    fs'.isDir (projectDir (w.renamed name) source) := by
  have hsize := (hrenaming.moved_projectDir hvalid).size_eq hrenaming.size_dir
  rw [projectDir_eq, projectDir_eq] at hsize ⊢
  refine FileSystem.isDir_congr ?_
  cases hpath : source.path with
  | none =>
    rw [Option.elim, Option.elim, FileSystem.look_eq_ok.2 ⟨_, _, hclone.left⟩,
      FileSystem.look_eq_ok.2 ⟨_, _, hclone.right⟩]
  | some path =>
    obtain ⟨hrelative, hup⟩ := stays_of_validate hvalid path hpath
    rw [hpath] at hsize
    exact FileSystem.look_join_of_size_eq hclone.closed hclone.left hclone.right (.refl _)
      (.refl _) List.not_mem_nil (FileSystem.takes_of_resolve hclone.left)
      (FileSystem.takes_of_resolve hclone.right) hrelative hup hsize

/-- A project that is in one of the clones is in both. -/
theorem exists_twins (hdir : fs.isDir (projectDir w source)) :
    ∃ location inner entries more, Twins fs fs' (dir w) (dir (w.renamed name))
      (projectDir w source) (projectDir (w.renamed name) source) tree base base' location inner
      entries links more := by
  have hmoved := hrenaming.moved_projectDir hvalid
  have hshort : (projectDir (w.renamed name) source).text.utf8ByteSize ≤ FileSystem.maxPath := by
    obtain ⟨location, access, entries, more, hresolve⟩ := FileSystem.exists_of_isDir hdir
    rw [← hmoved.size_eq hrenaming.size_dir]
    exact (FileSystem.takes_of_resolve hresolve).short
  rw [projectDir_eq] at hdir hshort
  rw [projectDir_eq, projectDir_eq] at hmoved ⊢
  obtain ⟨inner, location, entries, more, hinner, hextends, hextends', hsame⟩ :=
    FileSystem.exists_sameDir hclone.closed hclone.left hclone.right (stays_of_validate hvalid)
      hdir hshort
  exact ⟨location, inner, entries, more, { hclone with
    extended := hextends
    extended' := hextends'
    down := hinner
    dir := hsame
    ends := hrenaming.isName.endsInPart w.temporary
    ends' := hrenaming.isName'.endsInPart w.temporary
    size := hrenaming.size_dir
    moved := hmoved }⟩

end Twins

end Checkout

/-! ## Commands -/

namespace Command

/-- The commands that clone a project, with the declaration file that they are given. -/
inductive Clones (source : GitSource) (settings : ScanSettings) : Option Path → Command → Prop
  | check (envFile : Path) :
      Clones source settings (some envFile) (.checkGit source envFile settings)
  | scan (json : Bool) : Clones source settings none (.scanGit source json settings)

open Checkout (Renaming SameRun Unprepared projectDir launched dir)

variable {w : Surroundings} {name : String} {settings : ScanSettings} {envFile : Option Path}
  {source : GitSource} {fs : FileSystem} {c : Command}

/-- Under both names a command on a clone is carried out alike. -/
theorem Clones.run_like (hc : Clones source settings envFile c)
    (hrenaming : Renaming w name settings envFile)
    (hshort : ((projectDir w source).join Config.fileName).text.utf8ByteSize ≤ FileSystem.maxPath)
    (hlaunched : Checkout.validate source = .ok () → Ends (fun f f' => f = .taken ∧ f' = .taken)
      (Ends (· = ·) (SameRun w (w.renamed name) source settings envFile)) (launched w fs source)
      (launched (w.renamed name) fs source)) :
    (c.run w fs).2.QuietLike (Path.Renamed (dir w) (dir (w.renamed name))) (· = ·)
      (c.run (w.renamed name) fs).2 := by
  have hdir : ∀ {run run'}, SameRun w (w.renamed name) source settings envFile run run' →
      Checkout.validate source = .ok () → run.status.isSuccess →
        run.files.isDir (projectDir w source) =
          run'.files.isDir (projectDir (w.renamed name) source) := by
    intro run run' hrun hvalid hsuccess
    obtain ⟨tree, base, base', links, hclone⟩ := hrun.clone hsuccess
    exact Checkout.isDir_projectDir_eq hrenaming hvalid hclone
  cases hc with
  | check envFile =>
    refine Checkout.withClone_like rfl rfl hlaunched (fun h => ⟨h.errors, h.status⟩) hdir ?_
    intro run run' hrun hvalid hsuccess hproject
    obtain ⟨tree, base, base', links, hclone⟩ := hrun.clone hsuccess
    obtain ⟨location, inner, entries, more, htwins⟩ :=
      Checkout.exists_twins hrenaming hvalid hclone hproject
    have hlook : run.files.look ((projectDir w source).join envFile) =
        run'.files.look ((projectDir (w.renamed name) source).join envFile) := by
      by_cases hleave : envFile.mayLeave
      · exact hrun.outside envFile rfl hleave
      · obtain ⟨hrelative, hup⟩ := Path.stays_of_not_mayLeave hleave
        exact htwins.look_join hrelative hup
    refine .bind (Checkout.findFile_like hlook) ?_
    rintro _ _ ⟨rfl, rfl, hfile⟩
    refine runCheck_like rfl (htwins.scanOptions_like hshort fun c hc =>
      ⟨hrenaming.config c hc, hrun.config c hc⟩) rfl (fun o => ?_) _
    exact check_like (fun registry => scan_like htwins.walk_like registry o.debug)
      (htwins.load_like hlook (hrenaming.envFile envFile rfl) hfile)
  | scan json =>
    refine Checkout.withClone_like rfl rfl hlaunched (fun h => ⟨h.errors, h.status⟩) hdir ?_
    intro run run' hrun hvalid hsuccess hproject
    obtain ⟨tree, base, base', links, hclone⟩ := hrun.clone hsuccess
    obtain ⟨location, inner, entries, more, htwins⟩ :=
      Checkout.exists_twins hrenaming hvalid hclone hproject
    refine runScan_like rfl (htwins.scanOptions_like hshort fun c hc =>
      ⟨hrenaming.config c hc, hrun.config c hc⟩) (fun o => ?_) json
    exact environments_like fun registry => scan_like htwins.walk_like registry o.debug

/-- Without a temporary directory a command on a clone fails at once. -/
theorem Clones.run_of_unprepared {fault : Fault} (hc : Clones source settings envFile c)
    (h : Unprepared w fs source fault) :
    (c.run w fs).2 = .fail (.noTemporaryDir (dir w) fault) := by
  cases hc with
  | check envFile => exact Checkout.withClone_of_unprepared h _
  | scan json => exact Checkout.withClone_of_unprepared h _

/-- A command that fails at a place in the checkout. -/
def Reveals (w : Surroundings) (fs : FileSystem) (c : Command) : Prop :=
  ∃ e, (c.run w fs).2.result = .error e ∧ ∃ path, e.place? = some path ∧ (dir w).Behind path

end Command

open Checkout (Renaming SameRun Unprepared projectDir launched dir) in
/-- The name of the checkout shows in the report of a failure at a place in the checkout, and in
nothing else. Two runs of a command on a clone differ in this name: the names are of one size, no
path that is given leads into the checkout, and `git` cannot be run, fails, or leaves one closed
tree with the mark of a repository in both runs, telling the same. Then both runs end in the same
way and have the same output. Without debugging they write the same to the error stream too, unless
a file or directory in the checkout cannot be used: then the path to the checkout stands in the
report of this, in each run its own, and all else is the same. If the temporary directory cannot be
made, and not because its name is taken, then its path stands in the report in quotes. -/
theorem checkout_name_shows_in_failures {w : Surroundings} {name : String}
    {settings : ScanSettings} {envFile : Option Path} {source : GitSource} {fs : FileSystem}
    {c : Command} (hc : c.Clones source settings envFile)
    (hrenaming : Renaming w name settings envFile)
    (hshort : ((projectDir w source).join Config.fileName).text.utf8ByteSize ≤ FileSystem.maxPath)
    (hlaunched : Ends (· = ·) (Ends (· = ·) (SameRun w (w.renamed name) source settings envFile))
      (launched w fs source) (launched (w.renamed name) fs source)) :
    (c.outcome w fs).status = (c.outcome (w.renamed name) fs).status ∧
      (c.outcome w fs).stdout = (c.outcome (w.renamed name) fs).stdout ∧
      ∀ time,
        (¬c.Reveals w fs → (¬∃ fault, Unprepared w fs source fault) →
          (c.outcome w fs).stderrWithLog (.ofDebug false) time =
            (c.outcome (w.renamed name) fs).stderrWithLog (.ofDebug false) time) ∧
        (c.Reveals w fs → ∃ before behind,
          (c.outcome w fs).stderrWithLog (.ofDebug false) time =
              before ++ (dir w).text ++ behind ∧
            (c.outcome (w.renamed name) fs).stderrWithLog (.ofDebug false) time =
              before ++ (dir (w.renamed name)).text ++ behind) ∧
        ((∃ fault, Unprepared w fs source fault) → ∃ before behind,
          (c.outcome w fs).stderrWithLog (.ofDebug false) time =
              before ++ Quoted.quotePath (dir w).text ++ behind ∧
            (c.outcome (w.renamed name) fs).stderrWithLog (.ofDebug false) time =
              before ++ Quoted.quotePath (dir (w.renamed name)).text ++ behind) := by
  by_cases hunprepared : ∃ fault, Unprepared w fs source fault
  · obtain ⟨fault, h⟩ := hunprepared
    have h' : Unprepared (w.renamed name) fs source fault := by
      rw [Checkout.launched_eq_error.2 h.2.1] at hlaunched
      generalize hresult : launched (w.renamed name) fs source = result at hlaunched
      cases hlaunched with
      | error heq => exact ⟨h.1, Checkout.launched_eq_error.1 (heq ▸ hresult), h.2.2⟩
    have hrun := hc.run_of_unprepared h
    obtain ⟨hstatus, hstdout, hstderr⟩ := Command.shown_of_fail hrun
    obtain ⟨hstatus', hstdout', hstderr'⟩ := Command.shown_of_fail (hc.run_of_unprepared h')
    refine ⟨hstatus.trans hstatus'.symm, hstdout.trans hstdout'.symm, fun time =>
      ⟨fun _ hnot => absurd ⟨fault, h⟩ hnot, ?_, fun _ => ?_⟩⟩
    · rintro ⟨e, he, path, hpath, -⟩
      rw [hrun] at he
      cases he
      cases hpath
    · obtain ⟨before, hmessage⟩ := CommandError.exists_message_noTemporaryDir fault
      refine ⟨"Error: " ++ before, "\n", (hstderr time).trans ?_, (hstderr' time).trans ?_⟩
      · rw [hmessage]
        simp only [String.append_assoc]
      · rw [hmessage]
        simp only [String.append_assoc]
  have hready : Checkout.validate source = .ok () → Ends (fun f f' => f = .taken ∧ f' = .taken)
      (Ends (· = ·) (SameRun w (w.renamed name) source settings envFile)) (launched w fs source)
      (launched (w.renamed name) fs source) := by
    intro hvalid
    have htaken : ∀ fault, launched w fs source = .error fault → fault = .taken := by
      intro fault hresult
      by_contra hne
      exact hunprepared ⟨fault, hvalid, Checkout.launched_eq_error.1 hresult, hne⟩
    generalize launched w fs source = result, launched (w.renamed name) fs source = result'
      at hlaunched htaken
    cases hlaunched with
    | error heq => exact .error ⟨htaken _ rfl, heq ▸ htaken _ rfl⟩
    | ok hruns => exact .ok hruns
  obtain ⟨hstatus, hstdout, hstderr⟩ := Command.shown_of_like (hc.run_like hrenaming hshort hready)
  refine ⟨hstatus, hstdout, fun time => ?_⟩
  obtain ⟨status, hr, heq⟩ | ⟨e, f, shown, hr, hlike, he, hf⟩ := hstderr time
  · refine ⟨fun _ _ => heq, ?_, fun h => absurd h hunprepared⟩
    rintro ⟨e, he, -⟩
    cases hr.symm.trans he
  · obtain ⟨hhidden, hnamed⟩ := hlike.message_of_renamed
    refine ⟨fun hnot _ => ?_, ?_, fun h => absurd h hunprepared⟩
    · rw [he, hf, hhidden fun hplace => hnot ⟨e, hr, hplace⟩]
    · rintro ⟨e', hr', hplace⟩
      cases hr.symm.trans hr'
      obtain ⟨before, behind, hmessage, hmessage'⟩ := hnamed hplace
      refine ⟨shown ++ ("Error: " ++ before), behind ++ "\n", ?_, ?_⟩
      · rw [he, hmessage]
        simp only [String.append_assoc]
      · rw [hf, hmessage']
        simp only [String.append_assoc]

/-- A repository whose declaration file has a list in it. -/
def listRepository : List (String × Entry) :=
  [(".git", .dir {} []), ("t.json", .file (.ok (Utf8.encode "[]".toList)) false)]

/-- What is left behind when the repository is cloned. -/
def listClone (name : String) : FileSystem :=
  ⟨.dir {} [("tmp", .dir {} [(name, .dir {} listRepository)])], []⟩

/-- Surroundings in which the repository is cloned. -/
def listSurroundings : Surroundings where
  color := false
  launch := gitWith listRepository
  temporary := .ofText "/tmp"
  checkoutName := "envcheck-a"

/-- A check of the repository. -/
def checkList : Command := .checkGit ⟨"url", none, none⟩ (.ofText "t.json") {}

/-- Files with a directory for temporary ones. -/
def temporaryTree : FileSystem := ⟨.dir {} [("tmp", .dir {} [])], []⟩

theorem closed_listRepository : (Entry.dir {} listRepository).Closed := by
  refine Entry.closed_of_fits (by simp [listRepository, Entry.Distinct, Entry.DistinctAll])
    fun location hlocation access entries hdir p hp => ?_
  simp only [listRepository, Entry.directories, Entry.directoriesAll, List.nil_append,
    List.append_nil, List.mem_cons, List.not_mem_nil, or_false] at hlocation
  rcases hlocation with rfl | rfl
  · obtain ⟨rfl, rfl⟩ : {} = access ∧ listRepository = entries := by simpa [Entry.find?] using hdir
    simp only [listRepository, List.mem_cons, List.not_mem_nil, or_false] at hp
    rcases hp with rfl | rfl
    · exact ⟨by decide, rfl⟩
    · exact ⟨by decide, trivial⟩
  · obtain ⟨rfl, rfl⟩ : {} = access ∧ [] = entries := by
      simpa [Entry.find?, listRepository] using hdir
    cases hp

/-- Where the repository is cloned its declaration file can be seen, and no config file. -/
theorem result_scanOptions_listClone : (Command.scanOptions (listClone "envcheck-a") {}
    (.ofText "/tmp/envcheck-a")).result = .ok {} := by
  have hfile : ¬(listClone "envcheck-a").present
      ((Path.ofText "/tmp/envcheck-a").join Config.fileName) := by
    cbv
    decide
  have hmark : (listClone "envcheck-a").present
      ((Path.ofText "/tmp/envcheck-a").join Config.repositoryMark) := by cbv
  have hfind : Config.find? (listClone "envcheck-a") (.ofText "/tmp/envcheck-a") = none := by
    rw [Config.find?_eq, if_neg hfile, if_pos hmark]
  have hload : Config.load (listClone "envcheck-a") none (.ofText "/tmp/envcheck-a") =
      .ok ({}, none) := by
    rw [Config.load, hfind]
    rfl
  rw [Command.scanOptions, hload]
  rfl

/-- The file of the clone is an array and not an object, and the failure names its full path. -/
theorem result_load_listClone : ((Source.file (.ofText "/tmp/envcheck-a/t.json")).load
    (listClone "envcheck-a")).result =
      .error (.invalidSource (.notObject (.ofText "/tmp/envcheck-a/t.json"))) := by
  have hkind : Source.kind? (.ofText "/tmp/envcheck-a/t.json") = .ok .json := by decide
  have hread : (listClone "envcheck-a").readText (.ofText "/tmp/envcheck-a/t.json") =
      .ok "[]" := by cbv
  have hjson : Json.read? "[]" = .ok (.array []) := by cbv
  rw [Source.load, Source.readFile, hkind, hread]
  change Source.readJson _ "[]" = _
  rw [Source.readJson, hjson]
  rfl

/-- The check passes that failure on. -/
theorem result_runCheck_listClone (declaredIn : String) :
    (Command.runCheck listSurroundings (listClone "envcheck-a") (.ofText "/tmp/envcheck-a/t.json")
      (.ofText "/tmp/envcheck-a") {} (some declaredIn)).result =
        .error (.check (.invalidSource (.notObject (.ofText "/tmp/envcheck-a/t.json")))) := by
  have hcheck : (check (listClone "envcheck-a") (.file (.ofText "/tmp/envcheck-a/t.json"))
      (.ofText "/tmp/envcheck-a") {}).result =
        .error (.invalidSource (.notObject (.ofText "/tmp/envcheck-a/t.json"))) :=
    result_check_of_unloaded rfl result_load_listClone _
  rw [Command.runCheck, Traced.result_bind, result_scanOptions_listClone]
  change (pure ({} : ScanOptions) >>= fun _ => _) = _
  rw [pure_bind]
  generalize check (listClone "envcheck-a") _ _ {} = x at hcheck
  obtain ⟨notes, result⟩ := x
  obtain rfl := hcheck
  rfl

/-- The failure is one of those that name a place in the checkout. -/
theorem reveals_checkList : checkList.Reveals listSurroundings temporaryTree := by
  have hlaunched : Checkout.launched listSurroundings temporaryTree ⟨"url", none, none⟩ =
      .ok (.ok ⟨listClone "envcheck-a", "", .exited 0⟩) := by cbv
  have hdir : (listClone "envcheck-a").isDir (.ofText "/tmp/envcheck-a") := by cbv
  have hfile : (listClone "envcheck-a").isFile (.ofText "/tmp/envcheck-a/t.json") := by cbv
  have harrive : (Checkout.arrive listSurroundings ⟨"url", none, none⟩
      ⟨listClone "envcheck-a", "", .exited 0⟩).result = .ok (.ofText "/tmp/envcheck-a") :=
    Checkout.result_arrive (by decide) hdir
  have hfound : Checkout.findFile (listClone "envcheck-a") (.ofText "/tmp/envcheck-a")
      (.ofText "t.json") = pure (.ofText "/tmp/envcheck-a/t.json") := if_pos hfile
  have hrun : (checkList.run listSurroundings temporaryTree).2.result =
      .error (.check (.invalidSource (.notObject (.ofText "/tmp/envcheck-a/t.json")))) := by
    rw [checkList, Command.run, Checkout.withClone_eq_cloning rfl, hlaunched, Checkout.cloning,
      Traced.result_bind, Traced.result_bind, harrive]
    change (Checkout.findFile _ _ _ >>= fun _ => _).result = _
    rw [hfound]
    exact result_runCheck_listClone _
  exact ⟨_, hrun, _, rfl, .inr (by decide)⟩

theorem checkout_name_shows_in_failures_checkList : ∃ before behind,
    (checkList.outcome listSurroundings temporaryTree).stderrWithLog (.ofDebug false) "" =
        before ++ "/tmp/envcheck-a" ++ behind ∧
      (checkList.outcome (listSurroundings.renamed "envcheck-b") temporaryTree).stderrWithLog
        (.ofDebug false) "" = before ++ "/tmp/envcheck-b" ++ behind := by
  have hlaunched : Checkout.launched listSurroundings temporaryTree ⟨"url", none, none⟩ =
      .ok (.ok ⟨listClone "envcheck-a", "", .exited 0⟩) := by cbv
  have hlaunched' : Checkout.launched (listSurroundings.renamed "envcheck-b") temporaryTree
      ⟨"url", none, none⟩ = .ok (.ok ⟨listClone "envcheck-b", "", .exited 0⟩) := by cbv
  have hclone : Clone (listClone "envcheck-a") (listClone "envcheck-b")
      (Checkout.dir listSurroundings) (Checkout.dir (listSurroundings.renamed "envcheck-b"))
      (.dir {} listRepository) ["tmp", "envcheck-a"] ["tmp", "envcheck-b"] 40 :=
    ⟨closed_listRepository, by cbv, by cbv, by cbv⟩
  have hrenaming : Checkout.Renaming listSurroundings "envcheck-b" {}
      (some (.ofText "t.json")) :=
    { isName := by decide
      isName' := by decide
      size := by decide
      config := fun c hc => by cases hc
      envFile := fun q hq habs => by
        cases hq
        exact absurd habs (by decide) }
  have hruns : Ends (· = ·) (Ends (· = ·) (Checkout.SameRun listSurroundings
      (listSurroundings.renamed "envcheck-b") ⟨"url", none, none⟩ {} (some (.ofText "t.json"))))
      (Checkout.launched listSurroundings temporaryTree ⟨"url", none, none⟩)
      (Checkout.launched (listSurroundings.renamed "envcheck-b") temporaryTree
        ⟨"url", none, none⟩) := by
    rw [hlaunched, hlaunched']
    refine .ok (.ok ⟨rfl, rfl, fun _ => ⟨_, _, _, _, hclone⟩, (fun c hc => by cases hc), ?_⟩)
    intro q hq hleave
    cases hq
    exact absurd hleave (by decide)
  obtain ⟨-, -, hstderr⟩ := checkout_name_shows_in_failures (.check (.ofText "t.json")) hrenaming
    (by decide) hruns
  exact (hstderr "").2.1 reveals_checkList

end EnvAudit
