import EnvAudit.Commands
import EnvAudit.Proofs.Environments
import EnvAudit.Proofs.Path

/-!
# EnvAudit.Proofs.Commands

What commands show, and how they end:

1. a run shows texts on both streams and ends in some way (`Run.Shows`), a run behind another one
   what both show (`Shows.bind`);
2. a check shows its verdict (`shows_runCheck`), a scan its list of names (`shows_runScan`); the
   verdict is told by the patterns, the declarations and what the scan finds (`verdict_congr`);
3. a project that is cloned is shown as it is there, behind what cloning shows (`shows_withClone`).
-/

namespace EnvAudit

/-! ## What runs show -/

/-- What an output stream takes of a text. -/
def Room.takenText (room : Room) (text : String) : String := .ofList (room.taken text.toList)

theorem Room.takenText_unlimited (text : String) : Room.unlimited.takenText text = text :=
  String.ofList_toList

namespace Output

/-- The text on the output stream. -/
def out? : Output → Option String
  | .out text => some text
  | _ => none

/-- The text on the error stream. -/
def err? : Output → Option String
  | .err text => some text
  | _ => none

end Output

namespace Run

variable {α β : Type}

/-- A run that writes some texts to the output stream and some to the error stream, and what it
ends with, unless it fails. -/
structure Shows (r : Run α) (outs errs : List String) (result : Option α) : Prop where
  outs : r.notes.filterMap Output.out? = outs
  errs : r.notes.filterMap Output.err? = errs
  result : r.result.toOption = result

namespace Shows

variable {x : Run α} {f : α → Run β} {outs errs outs' errs' : List String} {result : Option β}

theorem pure (a : α) : Shows (Pure.pure a : Run α) [] [] (some a) := ⟨rfl, rfl, rfl⟩

theorem fail (e : CommandError) : Shows (.fail e : Run α) [] [] none := ⟨rfl, rfl, rfl⟩

/-- Writing to standard output shows what was taken of the text and ends with the refusal. -/
theorem out (room : Room) (text : String) :
    Shows (Run.out room text) [room.takenText text] [] (some (room.refusal? text.toList)) :=
  ⟨rfl, rfl, rfl⟩

theorem err (text : String) : Shows (Run.err text) [] [text] (some ()) := ⟨rfl, rfl, rfl⟩

theorem event (e : Event) : Shows (.note (.event e) : Run Unit) [] [] (some ()) := ⟨rfl, rfl, rfl⟩

theorem ofExcept (r : Except CommandError α) : Shows (.ofExcept r : Run α) [] [] r.toOption :=
  ⟨rfl, rfl, rfl⟩

theorem ofCheck (x : Traced Event CheckError α) :
    Shows (Run.ofCheck x) [] [] x.result.toOption := by
  refine ⟨?_, ?_, ?_⟩
  · simp [Run.ofCheck, List.filterMap_map, Function.comp_def, Output.out?]
  · simp [Run.ofCheck, List.filterMap_map, Function.comp_def, Output.err?]
  · rw [Run.ofCheck]
    cases x.result <;> rfl

/-- A run behind one that does not fail. -/
theorem bind {a : α} (h : Shows x outs errs (some a)) (hf : Shows (f a) outs' errs' result) :
    Shows (x >>= f) (outs ++ outs') (errs ++ errs') result := by
  have hresult := h.result
  cases hx : x.result with
  | error e =>
    rw [hx] at hresult
    cases hresult
  | ok a' =>
    rw [hx] at hresult
    cases hresult
    rw [Traced.bind_of_ok hx]
    exact ⟨by rw [List.filterMap_append, h.outs, hf.outs],
      by rw [List.filterMap_append, h.errs, hf.errs], hf.result⟩

/-- Behind a failure there is nothing. -/
theorem bind_none (h : Shows x outs errs none) (f : α → Run β) :
    Shows (x >>= f) outs errs none := by
  have hresult := h.result
  cases hx : x.result with
  | error e =>
    rw [Traced.bind_of_error hx]
    exact ⟨h.outs, h.errs, rfl⟩
  | ok a' =>
    rw [hx] at hresult
    cases hresult

end Shows

end Run

/-! ## How a command ends -/

/-- Standard output is what was put there, in the order in which it was put. -/
theorem Outcome.stdout_eq (o : Outcome) :
    o.stdout = String.join (o.output.filterMap Output.out?) := by
  rw [stdout]
  congr 2

/-- Standard error is what was put there, in the order in which it was put. -/
theorem Outcome.stderr_eq (o : Outcome) :
    o.stderr = String.join (o.output.filterMap Output.err?) := by
  rw [stderr]
  congr 2

namespace Command

section Outcome

variable {c : Command} {w : Surroundings} {fs : FileSystem}

/-- A command that can be carried out. -/
theorem outcome_of_ok {status : ExitStatus} (h : (c.run w fs).2.result = .ok status) :
    c.outcome w fs = ⟨(c.run w fs).1, (c.run w fs).2.notes, status⟩ := by
  unfold outcome
  simp only [h]

/-- A command that cannot be carried out is reported. -/
theorem outcome_of_error {e : CommandError} (h : (c.run w fs).2.result = .error e) :
    c.outcome w fs =
      ⟨(c.run w fs).1, (c.run w fs).2.notes ++ [.err s!"Error: {e.message}\n"], .error⟩ := by
  unfold outcome
  simp only [h]

variable {outs errs : List String} {result : Option ExitStatus}

/-- A run that ends without a status ends in an error. -/
theorem status_outcome (h : Run.Shows (c.run w fs).2 outs errs result) :
    (c.outcome w fs).status = result.getD .error := by
  rw [← h.result]
  cases hresult : (c.run w fs).2.result with
  | ok status => rw [outcome_of_ok hresult]; rfl
  | error e => rw [outcome_of_error hresult]; rfl

/-- Standard output holds what the run shows there and nothing else. -/
theorem stdout_outcome (h : Run.Shows (c.run w fs).2 outs errs result) :
    (c.outcome w fs).stdout = String.join outs := by
  rw [← h.outs, Outcome.stdout_eq]
  cases hresult : (c.run w fs).2.result with
  | ok status => rw [outcome_of_ok hresult]
  | error e =>
    rw [outcome_of_error hresult, List.filterMap_append]
    simp only [List.filterMap_cons, List.filterMap_nil, Output.out?, List.append_nil]

/-- A run that ends with a status puts nothing on standard error beyond what it shows. -/
theorem stderr_outcome {status : ExitStatus}
    (h : Run.Shows (c.run w fs).2 outs errs (some status)) :
    (c.outcome w fs).stderr = String.join errs := by
  rw [← h.errs, Outcome.stderr_eq]
  have hstatus := h.result
  cases hresult : (c.run w fs).2.result with
  | ok status => rw [outcome_of_ok hresult]
  | error e =>
    rw [hresult] at hstatus
    cases hstatus

end Outcome

/-! ## Checks and scans -/

/-- What a check tells about a project. -/
inductive Verdict
  /-- The check cannot be carried out. -/
  | unable
  /-- Names are found that are not declared. -/
  | undeclared (names : List String)
  /-- All names are declared; so many are found in so many files. -/
  | declared (names files : Nat)

namespace Verdict

/-- What the end of a check tells. -/
def ofResult : Except CheckError CheckOutcome → Verdict
  | .ok outcome => .declared outcome.scan.names.size outcome.scan.files
  | .error (.missing names _) => .undeclared names
  | .error _ => .unable

/-- A check that fails for anything but missing names cannot be carried out. -/
theorem ofResult_error {e : CheckError} (h : ∀ names d, e ≠ .missing names d) :
    ofResult (.error e) = .unable := by
  cases e with
  | missing names d => exact absurd rfl (h names d)
  | _ => rfl

/-- What is shown on the output stream. -/
def outs (color : Bool) : Verdict → List String
  | .declared names files => [Report.success color names files]
  | _ => []

/-- What is shown on the error stream, given where to declare variables. -/
def errs (color : Bool) (declaredIn : String) : Verdict → List String
  | .undeclared names => [Report.missing color names declaredIn]
  | _ => []

/-- How the command ends, if it can be carried out. -/
def status? : Verdict → Option ExitStatus
  | .unable => none
  | .undeclared _ => some .failure
  | .declared _ _ => some .success

end Verdict

/-- The options with which a project is scanned, if its config file can be used. -/
def options? (fs : FileSystem) (settings : ScanSettings) (project : Path) : Option ScanOptions :=
  (Config.load fs settings.config project).toOption.map fun found =>
    ⟨settings.debug, found.1.patterns⟩

/-- What a check tells about a project. -/
def verdict (fs : FileSystem) (envFile project : Path) (settings : ScanSettings) : Verdict :=
  match options? fs settings project with
  | some options => .ofResult (EnvAudit.check fs (.file envFile) project options).result
  | none => .unable

/-- The names that a scan of a project lists. -/
def listed? (fs : FileSystem) (project : Path) (settings : ScanSettings) : Option (List String) :=
  (options? fs settings project).bind fun options =>
    (environments fs project options).result.toOption

variable {fs : FileSystem} {project : Path} {settings : ScanSettings}

/-- Reading the options of a scan shows nothing. -/
theorem shows_scanOptions (fs : FileSystem) (settings : ScanSettings) (project : Path) :
    Run.Shows (scanOptions fs settings project) [] [] (options? fs settings project) := by
  unfold scanOptions options?
  cases Config.load fs settings.config project with
  | error e => exact (Run.Shows.ofExcept _).bind_none _
  | ok found =>
    obtain ⟨config, path⟩ := found
    refine (Run.Shows.ofExcept (.ok (config, path))).bind ?_
    cases path with
    | none => exact .pure _
    | some path => exact (Run.Shows.event _).bind (.pure _)

/-- Undeclared names are reported for the source that is checked. -/
theorem eq_describe_of_check {source : Source} {o : ScanOptions} {names : List String} {d : String}
    (h : (EnvAudit.check fs source project o).result = .error (.missing names d)) :
    d = source.describe := by
  obtain ⟨registry, declared, s, hregistry, hload, hscan, hnames, hne⟩ :=
    check_eq_error_missing h
  rw [result_check_of_scanned hregistry hload hscan, hnames, if_neg hne] at h
  cases h
  rfl

/-- A check shows its verdict, as far as the output stream takes it. -/
theorem shows_runCheck (w : Surroundings) (fs : FileSystem) (envFile project : Path)
    (settings : ScanSettings) (declaredIn : Option String) :
    Run.Shows (runCheck w fs envFile project settings declaredIn)
      (((verdict fs envFile project settings).outs w.color).map w.stdout.takenText)
      ((verdict fs envFile project settings).errs w.color (declaredIn.getD envFile.text))
      (verdict fs envFile project settings).status? := by
  have hoptions := shows_scanOptions fs settings project
  unfold runCheck verdict
  cases hload : options? fs settings project with
  | none =>
    rw [hload] at hoptions
    exact hoptions.bind_none _
  | some options =>
    rw [hload] at hoptions
    refine hoptions.bind ?_
    simp only
    split
    · next names d hmissing =>
      have hnotes : Run.Shows (Run.ofCheck ⟨(EnvAudit.check fs (.file envFile) project
          options).notes, .ok ()⟩) [] [] (some ()) := .ofCheck _
      obtain rfl := eq_describe_of_check hmissing
      rw [hmissing]
      exact hnotes.bind ((Run.Shows.err _).bind (.pure _))
    · next hother =>
      have hcheck := Run.Shows.ofCheck (EnvAudit.check fs (.file envFile) project options)
      cases hresult : (EnvAudit.check fs (.file envFile) project options).result with
      | ok outcome =>
        rw [hresult] at hcheck
        exact hcheck.bind ((Run.Shows.out _ _).bind (.pure _))
      | error e =>
        have hne : ∀ names d, e ≠ .missing names d := by
          rintro names d rfl
          exact hother names d hresult
        rw [hresult] at hcheck
        rw [Verdict.ofResult_error hne]
        exact hcheck.bind_none _

/-- How a command ends whose result is a text, by what the output stream does not take of it. -/
def statusOf (room : Room) (text : String) : Option ExitStatus :=
  match room.refusal? text.toList with
  | some _ => none
  | none => some .success

/-- A scan shows its list of names, as far as the output stream takes it, and fails if this does not
take all of it. -/
theorem shows_runScan (w : Surroundings) (fs : FileSystem) (json : Bool) (project : Path)
    (settings : ScanSettings) :
    Run.Shows (runScan w fs json project settings)
      ((listed? fs project settings).toList.map fun names =>
        w.stdout.takenText (Report.listing json names)) []
      ((listed? fs project settings).bind fun names =>
        statusOf w.stdout (Report.listing json names)) := by
  have hoptions := shows_scanOptions fs settings project
  unfold runScan listed?
  cases hload : options? fs settings project with
  | none =>
    rw [hload] at hoptions
    exact hoptions.bind_none _
  | some options =>
    rw [hload] at hoptions
    refine hoptions.bind ?_
    have hscan := Run.Shows.ofCheck (environments fs project options)
    rw [Option.bind_some]
    cases hresult : (environments fs project options).result with
    | error e =>
      rw [hresult] at hscan
      exact hscan.bind_none _
    | ok names =>
      rw [hresult] at hscan
      have hout := Run.Shows.out w.stdout (Report.listing json names)
      cases hrefusal : w.stdout.refusal? (Report.listing json names).toList with
      | some f =>
        rw [hrefusal] at hout
        have hstatus : statusOf w.stdout (Report.listing json names) = none := by
          rw [statusOf, hrefusal]
        simp only [Except.toOption, Option.bind_some, hstatus]
        exact hscan.bind (hout.bind (.fail _))
      | none =>
        rw [hrefusal] at hout
        have hstatus : statusOf w.stdout (Report.listing json names) = some .success := by
          rw [statusOf, hrefusal]
        simp only [Except.toOption, Option.bind_some, hstatus]
        exact hscan.bind (hout.bind (.pure _))

end Command

/-! ## Verdicts that agree -/

section Verdict

open Command (Verdict)

variable {fs fs' : FileSystem} {source source' : Source} {project project' : Path}
  {o : ScanOptions} {registry : Registry}

/-- A check whose declarations do not load cannot be carried out. -/
theorem verdict_of_unloaded (hregistry : o.registry = .ok registry)
    (h : (source.load fs).result.toOption = none) :
    .ofResult (check fs source project o).result = Verdict.unable := by
  cases hload : (source.load fs).result with
  | ok declared =>
    rw [hload] at h
    cases h
  | error e =>
    rw [result_check_of_unloaded hregistry hload]
    exact Verdict.ofResult_error fun names d he => load_ne_missing (hload.trans (by rw [he]))

/-- A check whose project cannot be scanned cannot be carried out. -/
theorem verdict_of_unscanned (hregistry : o.registry = .ok registry) {declared : Variables}
    (hload : (source.load fs).result = .ok declared)
    (h : (scan fs registry o.debug project).result.toOption = none) :
    .ofResult (check fs source project o).result = Verdict.unable := by
  cases hscan : (scan fs registry o.debug project).result with
  | ok s =>
    rw [hscan] at h
    cases h
  | error e =>
    obtain ⟨path, f, rfl⟩ := scan_eq_error hscan
    rw [result_check_of_unscanned hregistry hload hscan]
    rfl

end Verdict

/-! ## Cloned projects -/

namespace Checkout

/-- Cloning a repository succeeds, and leaves something behind. -/
structure Cloned (w : Surroundings) (fs : FileSystem) (source : GitSource) (run : ProgramRun) :
    Prop where
  valid : validate source = .ok ()
  launched : ∃ prepared, prepare w fs = .ok prepared ∧
    w.launch prepared (cloneCommand source (dir w)) = .ok run
  success : run.status.isSuccess

variable {w : Surroundings} {fs : FileSystem} {source : GitSource} {run : ProgramRun}

/-- The project is the path below the checkout, or the checkout itself. -/
theorem projectDir_eq (w : Surroundings) (source : GitSource) :
    projectDir w source = source.path.elim (dir w) (dir w).join := by
  rw [projectDir]
  cases source.path <;> rfl

/-- The path of a project is accepted if it is relative and never goes up. -/
theorem validate_eq_ok_iff {path : Path} (hpath : source.path = some path) :
    validate source = .ok () ↔ ¬path.isAbsolute ∧ .up ∉ path.moves := by
  rw [validate, hpath, ← not_or, ← Path.mayLeave_iff]
  dsimp only
  split
  · next hleave => exact iff_of_false (fun h => by cases h) (not_not_intro hleave)
  · next hstays => exact iff_of_true rfl hstays

/-- The path of the project does not lead out of the repository. -/
theorem stays_of_validate (hvalid : validate source = .ok ()) :
    ∀ path ∈ source.path, ¬path.isAbsolute ∧ .up ∉ path.moves := fun _ hpath =>
  (validate_eq_ok_iff hpath).1 hvalid

/-- The path of a source that was cloned is relative and does not climb. -/
theorem Cloned.stays (h : Cloned w fs source run) :
    ∀ path ∈ source.path, ¬path.isAbsolute ∧ .up ∉ path.moves := stays_of_validate h.valid

end Checkout

end EnvAudit
