import EnvAudit.Proofs.Commands.Like
import EnvAudit.Proofs.Files.Copies

/-!
# EnvAudit.Proofs.Checkout.Cloning

Cloning by what comes of running `git` (`Checkout.launched`, `Checkout.cloning`).

Main statement: if `git` is run alike for two clones, and these are used alike, then so are the runs
as wholes (`Checkout.withClone_like`).
-/

namespace EnvAudit.Checkout

variable {α : Type} {same : Path → Path → Prop}

/-- What comes of running `git` to clone a repository, if there can be a temporary directory. -/
def launched (w : Surroundings) (fs : FileSystem) (source : GitSource) :
    Except Fault (Except Fault ProgramRun) :=
  (fs.makeDir w.storage (dir w)).map fun prepared =>
    w.launch prepared (cloneCommand source (dir w))

/-- Why there is no temporary directory. That its name is taken is told of the directory around. -/
def unprepared (w : Surroundings) : Fault → CommandError
  | .taken => .noTemporaryDir w.temporary (.other "too many temporary files exist")
  | fault => .noTemporaryDir (dir w) fault

/-- There can be no temporary directory, and not because its name is taken. -/
def Unprepared (w : Surroundings) (fs : FileSystem) (source : GitSource) (fault : Fault) : Prop :=
  validate source = .ok () ∧ fs.makeDir w.storage (dir w) = .error fault ∧ fault ≠ .taken

/-- What is wrong with a source names no place on disk. -/
theorem place?_of_validate {source : GitSource} {e : CommandError}
    (h : validate source = .error e) : e.place? = none := by
  unfold validate at h
  split at h
  · split at h
    · cases h
      rfl
    · cases h
  · cases h

/-- What is written and noted before `git` is run. -/
def begin (w : Surroundings) (source : GitSource) : Run Unit :=
  ⟨[.err (announcement w.color source), .event (.runningGit (cloneCommand source (dir w)))], .ok ()⟩

/-- The directory of the project, where `git` left one. -/
def arrive (w : Surroundings) (source : GitSource) (run : ProgramRun) : Run Path := do
  .note (.err run.errors)
  if !run.status.isSuccess then .fail (.cloneFailed source.url run.status)
  if !run.files.isDir (projectDir w source) then
    .fail (.noProject (source.path.getD (.ofText ".")) source.url)
  return projectDir w source

/-- What a command on a clone writes and notes, by what came of running `git`. -/
def cloning (w : Surroundings) (source : GitSource) (use : FileSystem → Path → Run α) :
    Except Fault (Except Fault ProgramRun) → Run α
  | .error fault => .fail (unprepared w fault)
  | .ok (.error fault) => begin w source >>= fun _ => .fail (.noGit fault)
  | .ok (.ok run) => begin w source >>= fun _ => arrive w source run >>= use run.files

section Clone

variable {w w' : Surroundings} {fs : FileSystem} {source : GitSource} {run run' : ProgramRun}

/-- A source that is accepted is cloned. -/
theorem withClone_eq_cloning (h : validate source = .ok ()) (use : FileSystem → Path → Run α) :
    (withClone w fs source use).2 = cloning w source use (launched w fs source) := by
  unfold withClone launched prepare
  rw [h]
  cases fs.makeDir w.storage (dir w) with
  | error fault => cases fault <;> rfl
  | ok prepared =>
    simp only [Except.map]
    cases hlaunch : w.launch prepared (cloneCommand source (dir w)) with
    | error fault =>
      simp only [clone, hlaunch]
      rfl
    | ok run =>
      simp only [clone, hlaunch]
      rw [bind_assoc]
      rfl

/-- Cloning starts unless the temporary directory cannot be made. -/
theorem launched_eq_error {fault : Fault} :
    launched w fs source = .error fault ↔ fs.makeDir w.storage (dir w) = .error fault := by
  unfold launched
  cases fs.makeDir w.storage (dir w) with
  | error f => exact ⟨fun h => by cases h; rfl, fun h => by cases h; rfl⟩
  | ok prepared => exact iff_of_false (fun h => by cases h) (fun h => by cases h)

/-- Without a temporary directory there is nothing but the report of this. -/
theorem withClone_of_unprepared {fault : Fault} (h : Unprepared w fs source fault)
    (use : FileSystem → Path → Run α) :
    (withClone w fs source use).2 = .fail (.noTemporaryDir (dir w) fault) := by
  obtain ⟨hvalid, hdir, htaken⟩ := h
  rw [withClone_eq_cloning hvalid, launched_eq_error.2 hdir, cloning, unprepared]
  exact fun h => htaken h

/-- The opening message does not depend on where the clone is made. -/
theorem begin_like (hcolor : w.color = w'.color) :
    (begin w source).QuietLike same (fun _ _ => True) (begin w' source) := by
  refine ⟨?_, .ok trivial⟩
  rw [begin, begin, hcolor]
  exact .cons rfl .nil

/-- Once `git` succeeds and the project directory is there, that directory is what is used. -/
theorem result_arrive (hsuccess : run.status.isSuccess)
    (hdir : run.files.isDir (projectDir w source)) :
    (arrive w source run).result = .ok (projectDir w source) := by
  unfold arrive
  simp only [hsuccess, hdir]
  rfl

/-- Where `git` ended alike, the project is in both clones or in neither. -/
theorem arrive_like (herrors : run.errors = run'.errors) (hstatus : run.status = run'.status)
    (hdir : run.status.isSuccess →
      run.files.isDir (projectDir w source) = run'.files.isDir (projectDir w' source)) :
    (arrive w source run).QuietLike same
      (fun p p' => run.status.isSuccess ∧ run.files.isDir (projectDir w source) ∧
        p = projectDir w source ∧ p' = projectDir w' source) (arrive w' source run') := by
  refine .bind (.note rfl rfl (congrArg Output.err herrors)) fun _ => ?_
  dsimp only
  rw [← hstatus]
  by_cases hsuccess : run.status.isSuccess
  · rw [← hdir hsuccess]
    by_cases hproject : run.files.isDir (projectDir w source)
    · simp only [hsuccess, hproject]
      exact .pure ⟨trivial, trivial, rfl, rfl⟩
    · simp only [hsuccess, hproject]
      exact .fail (.placeless _ rfl)
  · simp only [hsuccess]
    exact .fail (.placeless _ rfl)

/-- Clones that are used alike, where `git` is run alike, or the names of both temporary directories
are taken. -/
theorem withClone_like {runs : ProgramRun → ProgramRun → Prop}
    {use use' : FileSystem → Path → Run α} (hcolor : w.color = w'.color)
    (htemporary : w.temporary = w'.temporary)
    (hlaunched : validate source = .ok () → Ends (fun f f' => f = .taken ∧ f' = .taken)
      (Ends (· = ·) runs) (launched w fs source) (launched w' fs source))
    (hruns : ∀ {run run'}, runs run run' → run.errors = run'.errors ∧ run.status = run'.status)
    (hdir : ∀ {run run'}, runs run run' → validate source = .ok () → run.status.isSuccess →
      run.files.isDir (projectDir w source) = run'.files.isDir (projectDir w' source))
    (huse : ∀ {run run'}, runs run run' → validate source = .ok () → run.status.isSuccess →
      run.files.isDir (projectDir w source) →
        (use run.files (projectDir w source)).QuietLike same (· = ·)
          (use' run'.files (projectDir w' source))) :
    (withClone w fs source use).2.QuietLike same (· = ·) (withClone w' fs source use').2 := by
  cases hvalid : validate source with
  | error e =>
    unfold withClone
    rw [hvalid]
    exact .fail (.placeless e (place?_of_validate hvalid))
  | ok u =>
    rw [withClone_eq_cloning hvalid, withClone_eq_cloning hvalid]
    replace hlaunched := hlaunched hvalid
    generalize launched w fs source = result, launched w' fs source = result' at hlaunched
    rcases hlaunched with @⟨_, _, rfl, rfl⟩ | @⟨_, _, @⟨fault, _, rfl⟩ | hrun⟩
    · rw [cloning, cloning, unprepared, unprepared, ← htemporary]
      exact .fail (.placeless _ rfl)
    · exact .bind (begin_like hcolor) fun _ => .fail (.placeless _ rfl)
    · obtain ⟨herrors, hstatus⟩ := hruns hrun
      refine .bind (begin_like hcolor) fun _ =>
        .bind (arrive_like herrors hstatus (hdir hrun hvalid)) ?_
      rintro p p' ⟨hsuccess, hproject, rfl, rfl⟩
      exact huse hrun hvalid hsuccess hproject

end Clone

/-- A file that looks the same in both is found in both or in neither. -/
theorem findFile_like {fs fs' : FileSystem} {p p' q : Path}
    (hlook : fs.look (p.join q) = fs'.look (p'.join q)) :
    (findFile fs p q).QuietLike same
      (fun r r' => r = p.join q ∧ r' = p'.join q ∧ fs.isFile (p.join q)) (findFile fs' p' q) := by
  rw [findFile, findFile, ← FileSystem.isFile_congr hlook]
  split
  · next h => exact .pure ⟨rfl, rfl, h⟩
  · exact .fail (.placeless _ rfl)

end EnvAudit.Checkout
