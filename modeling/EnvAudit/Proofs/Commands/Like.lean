import EnvAudit.Proofs.Commands
import EnvAudit.Proofs.Places

/-!
# EnvAudit.Proofs.Commands.Like

Two runs of commands side by side:

1. failures of commands are alike if they do not differ but for the places they name
   (`CommandError.Like`); their reports have these places in them once (`Like.exists_place`);
2. runs are alike if what they write and note without debugging is the same and if they end alike
   (`Run.QuietLike`); a check and a scan of a project are alike if what they are made of is
   (`runCheck_like`, `runScan_like`).

Main statement: commands whose runs are alike have one status and one output, and without debugging
they differ on the error stream in the report of a failure at most (`shown_of_like`).
-/

namespace EnvAudit

/-! ## Failures -/

namespace CommandError

/-- The file or directory in a project that a failure is about. -/
def place? : CommandError → Option Path
  | .check e => e.place?
  | .config e => e.place?
  | _ => none

/-- Failures that are the same but for the places they name. -/
inductive Like (same : Path → Path → Prop) : CommandError → CommandError → Prop
  | check {e f : CheckError} : e.Like same f → Like same (.check e) (.check f)
  | config {e f : ConfigError} : e.Like same f → Like same (.config e) (.config f)
  | placeless (e : CommandError) : e.place? = none → Like same e e

/-- In one line the report of a failure has its place in it once. -/
theorem exists_message {p q : Path} {report report' : List String}
    (h : ReportsAt p q report report') : ∃ before behind,
      ": ".intercalate report = before ++ p.text ++ behind ∧
        ": ".intercalate report' = before ++ q.text ++ behind := by
  obtain ⟨before, behind, rest, rfl, rfl⟩ := h
  exact ⟨before, ": ".intercalate (behind :: rest), String.intercalate_cons_append,
    String.intercalate_cons_append⟩

/-- Failures that are alike differ in at most the one place they name. -/
theorem Like.exists_place {same : Path → Path → Prop} {e f : CommandError} (h : e.Like same f) :
    (e.place? = none ∧ f = e) ∨ ∃ p q, same p q ∧ e.place? = some p ∧ ∃ before behind,
      e.message = before ++ p.text ++ behind ∧ f.message = before ++ q.text ++ behind := by
  cases h with
  | placeless e hplace => exact .inl ⟨hplace, rfl⟩
  | check he =>
    obtain ⟨hplace, rfl⟩ | ⟨p, q, hpq, hplace, hreports⟩ := he.exists_place
    · exact .inl ⟨hplace, rfl⟩
    · exact .inr ⟨p, q, hpq, hplace, exists_message hreports⟩
  | config he =>
    obtain ⟨hplace, rfl⟩ | ⟨p, q, hpq, hplace, hreports⟩ := he.exists_place
    · exact .inl ⟨hplace, rfl⟩
    · exact .inr ⟨p, q, hpq, hplace, exists_message hreports⟩

end CommandError

/-! ## Runs -/

/-- What is written, and what is noted without debugging. -/
def Output.isPlain : Output → Bool
  | .event e => e.level ≠ .debug
  | _ => true

/-- Runs that are alike but for the places that failures name and for notes for debugging. -/
abbrev Run.QuietLike {α β : Type} (same : Path → Path → Prop) (results : α → β → Prop) :
    Run α → Run β → Prop :=
  Traced.Like Output.isPlain Output.isPlain (· = ·) (CommandError.Like same) results

variable {α β : Type} {results : α → β → Prop} {same : Path → Path → Prop}

/-- Checks that are alike are alike as runs. -/
theorem Run.ofCheck_like {x : Traced Event CheckError α} {y : Traced Event CheckError β}
    (h : x.QuietLike (CheckError.Like same) results y) :
    (Run.ofCheck x).QuietLike same results (Run.ofCheck y) := by
  refine ⟨?_, h.result.mapError .check⟩
  have hnotes := h.notes
  rw [List.forall₂_eq_eq_eq] at hnotes ⊢
  have hplain : Output.isPlain ∘ Output.event = fun e => decide (e.level ≠ .debug) := rfl
  simp only [Run.ofCheck, List.filter_map, hplain, hnotes]

/-- What is written to an output stream is the same if the streams take as much. -/
theorem Run.out_like (room : Room) (text : String) :
    (Run.out room text).QuietLike same (· = ·) (Run.out room text) :=
  ⟨List.forall₂_eq_eq_eq ▸ rfl, .ok rfl⟩

namespace Command

variable {w w' : Surroundings} {fs fs' : FileSystem} {p p' q q' : Path} {settings : ScanSettings}

/-- Where configurations load alike, the options of a scan are alike. -/
theorem scanOptions_like (h : Ends (ConfigError.Like same) (fun c d => c.1 = d.1)
      (Config.load fs settings.config p) (Config.load fs' settings.config p')) :
    (scanOptions fs settings p).QuietLike same (· = ·) (scanOptions fs' settings p') := by
  refine .bind (.ofExcept (h.mapError .config)) ?_
  rintro ⟨config, path⟩ ⟨_, path'⟩ rfl
  -- Which file was read is noted for debugging only.
  cases path <;> cases path' <;> exact ⟨.nil, .ok rfl⟩

section Commands

variable (hstdout : w.stdout = w'.stdout) (hoptions : (scanOptions fs settings p).QuietLike same
  (· = ·) (scanOptions fs' settings p'))
include hstdout hoptions

/-- Projects that are checked alike are so by a command that names the source itself. -/
theorem runCheck_like (hcolor : w.color = w'.color)
    (hcheck : ∀ o, (EnvAudit.check fs (.file q) p o).QuietLike (CheckError.LikeOrMissing same)
      (· = ·) (EnvAudit.check fs' (.file q') p' o)) (declaredIn : String) :
    (runCheck w fs q p settings (some declaredIn)).QuietLike same (· = ·)
      (runCheck w' fs' q' p' settings (some declaredIn)) := by
  unfold runCheck
  rw [← hcolor, ← hstdout]
  refine .bind_eq hoptions fun o => ?_
  obtain ⟨hnotes, hresult⟩ := hcheck o
  dsimp only
  generalize EnvAudit.check fs (.file q) p o = x at hnotes hresult
  generalize EnvAudit.check fs' (.file q') p' o = y at hnotes hresult
  obtain ⟨notes, result⟩ := x
  obtain ⟨notes', result'⟩ := y
  cases hresult with
  | ok houtcome =>
    obtain rfl := houtcome
    refine .bind_eq (Run.ofCheck_like ⟨hnotes, .ok rfl⟩) fun outcome => ?_
    exact .bind_eq (Run.out_like _ _) fun _ => .pure rfl
  | @error e f hfailures =>
    cases hfailures with
    | missing names d d' =>
      have hsilent : (Run.ofCheck ⟨notes, .ok ()⟩).QuietLike same (· = ·)
        (Run.ofCheck ⟨notes', .ok ()⟩) := Run.ofCheck_like ⟨hnotes, .ok rfl⟩
      exact .bind_eq hsilent fun _ => .bind (.note rfl rfl rfl) fun _ => .pure rfl
    | like hlike =>
      have hfail : (Run.ofCheck ⟨notes, .error e⟩ : Run CheckOutcome).QuietLike same (· = ·)
          (Run.ofCheck ⟨notes', .error f⟩) := Run.ofCheck_like ⟨hnotes, .error hlike⟩
      -- None of these says that names are missing, which would be reported in its own way.
      cases hlike <;>
        exact .bind_eq hfail fun _ => .bind_eq (Run.out_like _ _) fun _ => .pure rfl

/-- Projects that are scanned alike are so by a command. -/
theorem runScan_like (hscan : ∀ o, (environments fs p o).QuietLike (CheckError.Like same) (· = ·)
      (environments fs' p' o)) (json : Bool) :
    (runScan w fs json p settings).QuietLike same (· = ·) (runScan w' fs' json p' settings) := by
  unfold runScan
  rw [← hstdout]
  refine .bind_eq hoptions fun o => .bind_eq (Run.ofCheck_like (hscan o)) fun names => ?_
  refine .bind_eq (Run.out_like _ _) fun refused => ?_
  cases refused with
  | some fault => exact .fail (.placeless _ rfl)
  | none => exact .pure rfl

end Commands

end Command

/-! ## What is shown -/

/-- Without debugging all notes but those for debugging are shown. -/
theorem LogFilter.shows_ofDebug_false (e : Event) :
    (LogFilter.ofDebug false).shows e = decide (e.level ≠ .debug) := by
  let rule : LogRule := ⟨"envcheck", none, false, Level.warn.rank⟩
  have harea : "envcheck".toList.isPrefixOf e.area.toList := by
    cases e <;> simp only [Event.area] <;> decide
  have hfor : rule.isFor e := by
    rw [LogRule.isFor, harea]
    rfl
  have hrule : (LogFilter.ofDebug false).ruleFor? e = some rule := by
    have hrules : (LogFilter.ofDebug false).rules.filter (·.isFor e) = [rule] :=
      List.filter_cons_of_pos hfor
    rw [ruleFor?, hrules]
    rfl
  rw [shows, hrule]
  cases e <;> rfl

namespace Outcome

/-- The output but for notes for debugging. -/
def plain (o : Outcome) : List Output := o.output.filter Output.isPlain

/-- What an output adds to the error stream without debugging. -/
def errText (time : String) : Output → String
  | .err text => text
  | .event e => e.line time
  | .out _ => ""

/-- Events do not show on standard output. -/
theorem stdout_eq_plain (o : Outcome) :
    o.stdout = String.join (o.plain.filterMap Output.out?) := by
  rw [stdout_eq, plain, List.filterMap_filter]
  congr 2
  funext x
  cases x with
  | event e =>
    simp only [Output.out?]
    split <;> rfl
  | _ => rfl

theorem join_map_filter {f g : Output → String} {p : Output → Bool} (hp : ∀ x, p x → f x = g x)
    (hn : ∀ x, ¬p x → f x = "") (l : List Output) :
    String.join (l.map f) = String.join ((l.filter p).map g) := by
  induction l with
  | nil => rfl
  | cons x l ih =>
    rw [List.map_cons, String.join_cons, ih, List.filter_cons]
    split
    · next h => rw [List.map_cons, String.join_cons, hp x h]
    · next h => rw [hn x h, String.empty_append]

/-- With the log turned off, standard error is told by what is not an event. -/
theorem stderrWithLog_eq_plain (o : Outcome) (time : String) :
    o.stderrWithLog (.ofDebug false) time = String.join (o.plain.map (errText time)) := by
  rw [stderrWithLog, plain]
  refine join_map_filter (fun x hx => ?_) (fun x hx => ?_) o.output
  · cases x with
    | event e => exact if_pos ((LogFilter.shows_ofDebug_false e).trans hx)
    | _ => rfl
  · cases x with
    | event e => exact if_neg fun h => hx ((LogFilter.shows_ofDebug_false e).symm.trans h)
    | _ => exact absurd rfl hx

end Outcome

namespace Command

variable {c c' : Command} {w w' : Surroundings} {fs fs' : FileSystem}

/-- The report of a failure comes after all other output. -/
theorem shown_of_error {e : CommandError} (h : (c.run w fs).2.result = .error e) :
    (c.outcome w fs).stdout =
        String.join (((c.run w fs).2.notes.filter Output.isPlain).filterMap Output.out?) ∧
      ∀ time, (c.outcome w fs).stderrWithLog (.ofDebug false) time =
        String.join (((c.run w fs).2.notes.filter Output.isPlain).map (Outcome.errText time)) ++
          ("Error: " ++ e.message ++ "\n") := by
  have hplain : (c.outcome w fs).plain = (c.run w fs).2.notes.filter Output.isPlain ++
      [.err s!"Error: {e.message}\n"] := by
    rw [outcome_of_error h, Outcome.plain, List.filter_append]
    rfl
  constructor
  · rw [Outcome.stdout_eq_plain, hplain, List.filterMap_append]
    exact congrArg String.join (List.append_nil _)
  · intro time
    rw [Outcome.stderrWithLog_eq_plain, hplain, List.map_append, String.join_append,
      List.map_singleton, String.join_cons, String.join_nil, String.append_empty]
    rfl

/-- Of a command that fails at once there is the report only. -/
theorem shown_of_fail {e : CommandError} (h : (c.run w fs).2 = .fail e) :
    (c.outcome w fs).status = .error ∧ (c.outcome w fs).stdout = "" ∧
      ∀ time, (c.outcome w fs).stderrWithLog (.ofDebug false) time =
        "Error: " ++ e.message ++ "\n" := by
  have hresult : (c.run w fs).2.result = .error e := by rw [h]; rfl
  obtain ⟨hstdout, hstderr⟩ := shown_of_error hresult
  rw [h] at hstdout hstderr
  refine ⟨by rw [outcome_of_error hresult], hstdout, fun time => ?_⟩
  rw [hstderr time]
  exact String.empty_append

/-- Commands whose runs are alike end in the same way and have the same output. Without debugging
they write the same to the error stream, but for reports of failures that are alike. -/
theorem shown_of_like (h : (c.run w fs).2.QuietLike same (· = ·) (c'.run w' fs').2) :
    (c.outcome w fs).status = (c'.outcome w' fs').status ∧
      (c.outcome w fs).stdout = (c'.outcome w' fs').stdout ∧
      ∀ time,
        (∃ status, (c.run w fs).2.result = .ok status ∧
          (c.outcome w fs).stderrWithLog (.ofDebug false) time =
            (c'.outcome w' fs').stderrWithLog (.ofDebug false) time) ∨
        ∃ e f shown, (c.run w fs).2.result = .error e ∧ e.Like same f ∧
          (c.outcome w fs).stderrWithLog (.ofDebug false) time =
              shown ++ ("Error: " ++ e.message ++ "\n") ∧
            (c'.outcome w' fs').stderrWithLog (.ofDebug false) time =
              shown ++ ("Error: " ++ f.message ++ "\n") := by
  obtain ⟨hnotes, hresult⟩ := h
  rw [List.forall₂_eq_eq_eq] at hnotes
  cases hr : (c.run w fs).2.result <;> cases hr' : (c'.run w' fs').2.result <;>
    rw [hr, hr'] at hresult
  case ok.ok status status' =>
    have hstatus : status = status' := by
      cases hresult with
      | ok heq => exact heq
    have hplain : (c.outcome w fs).plain = (c'.outcome w' fs').plain := by
      rw [outcome_of_ok hr, outcome_of_ok hr']
      exact hnotes
    refine ⟨?_, ?_, fun time => .inl ⟨status, rfl, ?_⟩⟩
    · rw [outcome_of_ok hr, outcome_of_ok hr', hstatus]
    · rw [Outcome.stdout_eq_plain, Outcome.stdout_eq_plain, hplain]
    · rw [Outcome.stderrWithLog_eq_plain, Outcome.stderrWithLog_eq_plain, hplain]
  case error.error e f =>
    have hlike : e.Like same f := by
      cases hresult with
      | error hef => exact hef
    obtain ⟨hout, herr⟩ := shown_of_error hr
    obtain ⟨hout', herr'⟩ := shown_of_error hr'
    refine ⟨?_, ?_, fun time => .inr ⟨e, f, _, rfl, hlike, herr time, ?_⟩⟩
    · rw [outcome_of_error hr, outcome_of_error hr']
    · rw [hout, hout', hnotes]
    · rw [herr' time, hnotes]
  all_goals cases hresult

end Command

end EnvAudit
