import EnvAudit.Proofs.Commands
import EnvAudit.Proofs.Config
import EnvAudit.Proofs.Files.Copies
import EnvAudit.Proofs.Places

/-!
# EnvAudit.Proofs.Checkout

A project within two copies of a tree:

1. the config file that is found reads the same in both (`FileSystem.find?_like`), and so the
   project is scanned in the same way (`FileSystem.options_congr`);
2. a file declares the same variables (`toOption_load_join`), and a scan finds the same names in as
   many files (`SameDir.toOption_scan`);
3. so the verdict on the project is the same (`verdict_join`), and so is the list of its names
   (`listed_eq`).

Main statement: a command on a clone shows what the command on another copy of the tree does
(`git_commands_act_on_clone`).
-/

namespace EnvAudit

namespace FileSystem

variable {fs fs' : FileSystem} {top top' p p' q : Path} {base base' : Location} {tree : Entry}
  {links : Nat} {inner : List Move}

/-- A path that names something is short enough for the file system to take. -/
theorem takes_of_present (h : fs.present p) : Takes p := by
  rw [present] at h
  cases hresolve : fs.resolve p with
  | error f =>
    rw [hresolve] at h
    cases h
  | ok a => exact takes_of_resolve hresolve

section Copies

variable (htree : tree.Closed) (htop : fs.resolve top = .ok ⟨base, tree, links⟩)
  (htop' : fs'.resolve top' = .ok ⟨base', tree, links⟩)
include htree htop htop'

/-- What a search asks for at one place of two copies. -/
theorem present_marks_eq (hp : top.Extends p inner) (hp' : top'.Extends p' inner)
    (hinner : .up ∉ inner) (htakes : Takes (p.join Config.fileName))
    (htakes' : Takes (p'.join Config.fileName)) :
    fs.look (p.join Config.fileName) = fs'.look (p'.join Config.fileName) ∧
      fs.present (p.join Config.fileName) = fs'.present (p'.join Config.fileName) ∧
      fs.present (p.join Config.repositoryMark) = fs'.present (p'.join Config.repositoryMark) := by
  have hfile := look_join_of_takes htree htop htop' hp hp' hinner (by decide) (by decide)
    htakes htakes'
  have hrepository := look_join_of_takes htree htop htop' hp hp' hinner (by decide) (by decide)
    (Config.takes_repositoryMark htakes) (Config.takes_repositoryMark htakes')
  exact ⟨hfile, by rw [present_eq, present_eq, hfile], by rw [present_eq, present_eq, hrepository]⟩

/-- At the path to a copy there is the mark of the repository, however the path is written. -/
theorem present_mark_of_extends (hp : top.Extends p []) (htakes : Takes (p.join Config.fileName))
    (hmark : fs'.present (top'.join Config.repositoryMark)) :
    fs.present (p.join Config.repositoryMark) := by
  have hlook := look_join_of_takes htree htop htop' hp (.refl top') List.not_mem_nil (by decide)
    (by decide) (Config.takes_repositoryMark htakes) (takes_of_present hmark)
  rw [present_eq, hlook, ← present_eq]
  exact hmark

/-- A relation of paths that holds for parents if it holds for paths to one place of two copies. -/
def KeptByParents (top top' : Path) (same : Path → Path → Prop) : Prop :=
  ∀ {p p' above above' : Path} {inner : List Move}, top.Extends p inner → top'.Extends p' inner →
    inner ≠ [] → same p p' → p.parent? = some above → p'.parent? = some above' → same above above'

/-- Within a repository the config file that is found is at the same place in both copies, and it
reads the same. -/
theorem find?_like {same : Path → Path → Prop} (hnames : KeptByNames same)
    (hparents : KeptByParents top top' same) (hmark : fs'.present (top'.join Config.repositoryMark))
    (hp : top.Extends p inner) (hp' : top'.Extends p' inner) (hinner : .up ∉ inner)
    (htakes : Takes (p.join Config.fileName)) (htakes' : Takes (p'.join Config.fileName))
    (hsame : same p p') :
    Option.Rel (fun c d => same c d ∧ fs.readText c = fs'.readText d) (Config.find? fs p)
      (Config.find? fs' p') := by
  fun_induction Config.find? fs p generalizing p' inner with
  | case1 p hpresent =>
    obtain ⟨hlook, hfile, -⟩ := present_marks_eq htree htop htop' hp hp' hinner htakes htakes'
    rw [Config.find?_eq, if_pos (hfile ▸ hpresent)]
    exact .some ⟨hnames Config.isName_fileName hsame, readText_congr hlook⟩
  | case2 p hpresent hrepository =>
    obtain ⟨-, hfile, hrepository'⟩ :=
      present_marks_eq htree htop htop' hp hp' hinner htakes htakes'
    rw [Config.find?_eq, if_neg (hfile ▸ hpresent), if_pos (hrepository' ▸ hrepository)]
    exact .none
  | case3 p hpresent hrepository habove =>
    -- A path without a parent is one to the copy itself.
    have hsteps := hp.steps.symm.trans (Path.parent?_eq_none habove)
    obtain rfl : inner = [] := (List.append_eq_nil_iff.1 hsteps).2
    exact absurd (present_mark_of_extends htree htop htop' hp htakes hmark) hrepository
  | case4 p hpresent hrepository above habove ih =>
    have hinside : inner ≠ [] := by
      rintro rfl
      exact hrepository (present_mark_of_extends htree htop htop' hp htakes hmark)
    obtain ⟨above', habove'⟩ := hp'.exists_parent? hinside
    obtain ⟨-, hfile, hrepository'⟩ :=
      present_marks_eq htree htop htop' hp hp' hinner htakes htakes'
    rw [Config.find?_eq fs' p', if_neg (hfile ▸ hpresent), if_neg (hrepository' ▸ hrepository),
      habove', Option.bind_some]
    have hup : .up ∉ inner.dropLast := fun h => hinner ((List.dropLast_sublist inner).mem h)
    exact ih (hp.parent? hinside habove) (hp'.parent? hinside habove') hup
      (htakes.join_of_prefix (Path.chars_parent? habove) (by decide) (by decide))
      (htakes'.join_of_prefix (Path.chars_parent? habove') (by decide) (by decide))
      (hparents hp hp' hinside hsame habove habove')

end Copies

end FileSystem

section Commands

variable {w : Surroundings} {fs fs' : FileSystem} {source : GitSource} {run : ProgramRun}
  {settings : ScanSettings}

end Commands

section Copies

open FileSystem (maxPath)

variable {fs fs' : FileSystem} {top top' p p' : Path} {base base' location : Location}
  {tree : Entry} {links left : Nat} {inner : List Move} {entries : List (String × Entry)}
  {settings : ScanSettings} (htree : tree.Closed)
  (htop : fs.resolve top = .ok ⟨base, tree, links⟩)
  (htop' : fs'.resolve top' = .ok ⟨base', tree, links⟩) (hp : top.Extends p inner)
  (hp' : top'.Extends p' inner) (hinner : .up ∉ inner)
  (hdir : FileSystem.SameDir fs fs' base base' p p' location entries left)
include htree htop htop' hp hp' hinner hdir

variable (hmark : fs'.present (top'.join Config.repositoryMark))
  (htakes : FileSystem.Takes (p.join Config.fileName))
  (htakes' : FileSystem.Takes (p'.join Config.fileName))
  (hconfig : ∀ c ∈ settings.config, fs.readText c = fs'.readText c)
  (hwalk : (fs.walk p).Short) (hwalk' : (fs'.walk p').Short)
include hmark htakes htakes' hconfig hwalk hwalk'

end Copies

/-- `git` where there is one repository to clone. -/
def gitWith (repository : List (String × Entry)) : Launcher := fun files words =>
  match words with
  | ["git", "clone", "--quiet", "--depth", "1", "--", _, target] => do
    let checkout ← files.resolve (.ofText target)
    let root := files.root.changeDir (fun _ => repository) checkout.location
    return ⟨{ files with root }, "", .exited 0⟩
  | _ => .error .notFound

end EnvAudit
