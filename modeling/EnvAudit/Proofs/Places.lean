import EnvAudit.Check
import EnvAudit.Config
import EnvAudit.Proofs.Files.Within
import EnvAudit.Proofs.Scan

/-!
# EnvAudit.Proofs.Places

A project in two places, with paths that correspond:

1. failures that name places are alike if they do not differ in anything else
   (`CheckError.Like`, `ConfigError.Like`);
2. files of one name that read the same declare the same variables (`Source.load_like`), and walks
   that come to the same files are scanned with the same outcome (`scan_like`);
3. so a check and a scan of the project end alike, and all their notes but those for debugging are
   the same (`check_like`, `environments_like`).
-/

namespace EnvAudit

/-! ## Failures at places -/

/-- Reports that are the same but for the places that they name, once each. -/
def ReportsAt (p q : Path) (report report' : List String) : Prop :=
  ∃ before behind rest, report = (before ++ p.text ++ behind) :: rest ∧
    report' = (before ++ q.text ++ behind) :: rest

namespace SourceFault

/-- The file that a fault is about. -/
def place? : SourceFault → Option Path
  | .malformedJson path _ | .notObject path => some path
  | .noPath | .malformedTaskDefinition _ => none

/-- Faults that are the same but for the places they name. -/
inductive Like (same : Path → Path → Prop) : SourceFault → SourceFault → Prop
  | noPath : Like same .noPath .noPath
  | malformedJson {p q : Path} (e : JsonError) :
      same p q → Like same (.malformedJson p e) (.malformedJson q e)
  | notObject {p q : Path} : same p q → Like same (.notObject p) (.notObject q)
  | malformedTaskDefinition (m : Mismatch) :
      Like same (.malformedTaskDefinition m) (.malformedTaskDefinition m)

/-- In words a fault has its place in it once. -/
theorem Like.exists_place {same : Path → Path → Prop} {f g : SourceFault} (h : f.Like same g) :
    (f.place? = none ∧ g = f) ∨ ∃ p q, same p q ∧ f.place? = some p ∧ ∃ before behind,
      f.message = before ++ p.text ++ behind ∧ g.message = before ++ q.text ++ behind := by
  cases h with
  | noPath => exact .inl ⟨rfl, rfl⟩
  | malformedTaskDefinition m => exact .inl ⟨rfl, rfl⟩
  | @malformedJson p q e hpq =>
    refine .inr ⟨p, q, hpq, rfl, "malformed JSON in ", ": " ++ e.message, ?_, ?_⟩
    · rw [← String.append_assoc]
      rfl
    · rw [← String.append_assoc]
      rfl
  | @notObject p q hpq =>
    refine .inr ⟨p, q, hpq, rfl, "", " must contain a JSON object at the top level", ?_, ?_⟩
    · rw [String.empty_append]
      rfl
    · rw [String.empty_append]
      rfl

end SourceFault

namespace CheckError

/-- The file or directory that a failure is about. -/
def place? : CheckError → Option Path
  | .unsupportedSource path _ | .unreadable path _ => some path
  | .invalidSource fault => fault.place?
  | .invalidPattern _ _ | .missing _ _ => none

/-- Failures that are the same but for the places they name. -/
inductive Like (same : Path → Path → Prop) : CheckError → CheckError → Prop
  | unsupportedSource {p q : Path} (extension : Option String) :
      same p q → Like same (.unsupportedSource p extension) (.unsupportedSource q extension)
  | invalidSource {f g : SourceFault} :
      f.Like same g → Like same (.invalidSource f) (.invalidSource g)
  | unreadable {p q : Path} (fault : Fault) :
      same p q → Like same (.unreadable p fault) (.unreadable q fault)
  | invalidPattern (tag : String) (fault : PatternFault) :
      Like same (.invalidPattern tag fault) (.invalidPattern tag fault)

/-- The report of a failure has its place in it once. -/
theorem Like.exists_place {same : Path → Path → Prop} {e f : CheckError} (h : e.Like same f) :
    (e.place? = none ∧ f = e) ∨
      ∃ p q, same p q ∧ e.place? = some p ∧ ReportsAt p q e.chain f.chain := by
  cases h with
  | invalidPattern tag fault => exact .inl ⟨rfl, rfl⟩
  | @unsupportedSource p q extension hpq =>
    refine .inr ⟨p, q, hpq, rfl, "unsupported declaration source ",
      ": extension " ++ extensionText extension, [], ?_, ?_⟩
    · rw [← String.append_assoc]
      rfl
    · rw [← String.append_assoc]
      rfl
  | @unreadable p q fault hpq =>
    refine .inr ⟨p, q, hpq, rfl, "cannot read ", "", [fault.message], ?_, ?_⟩
    · rw [String.append_empty]
      rfl
    · rw [String.append_empty]
      rfl
  | invalidSource hfault =>
    obtain ⟨hplace, rfl⟩ | ⟨p, q, hpq, hplace, before, behind, hf, hg⟩ := hfault.exists_place
    · exact .inl ⟨hplace, rfl⟩
    · have hchain : ∀ fault : SourceFault, (CheckError.invalidSource fault).chain =
          ["invalid declaration source: " ++ fault.message] := fun _ => rfl
      refine .inr ⟨p, q, hpq, hplace, "invalid declaration source: " ++ before, behind, [], ?_, ?_⟩
      · simp only [hchain, hf, String.append_assoc]
      · simp only [hchain, hg, String.append_assoc]

/-- Failures of checks: they are alike, or the same names are missing. -/
inductive LikeOrMissing (same : Path → Path → Prop) : CheckError → CheckError → Prop
  | like {e f : CheckError} : e.Like same f → LikeOrMissing same e f
  | missing (names : List String) (declaredIn declaredIn' : String) :
      LikeOrMissing same (.missing names declaredIn) (.missing names declaredIn')

end CheckError

namespace ConfigError

/-- The config file that a failure is about. -/
def place? : ConfigError → Option Path
  | .unreadable path _ | .malformed path _ => some path
  | .invalidPattern _ _ => none

/-- Failures that are the same but for the places they name. -/
inductive Like (same : Path → Path → Prop) : ConfigError → ConfigError → Prop
  | unreadable {p q : Path} (fault : Fault) :
      same p q → Like same (.unreadable p fault) (.unreadable q fault)
  | malformed {p q : Path} (e : JsonError) :
      same p q → Like same (.malformed p e) (.malformed q e)
  | invalidPattern (tag : String) (fault : PatternFault) :
      Like same (.invalidPattern tag fault) (.invalidPattern tag fault)

/-- The report of a failure has its place in it once. -/
theorem Like.exists_place {same : Path → Path → Prop} {e f : ConfigError} (h : e.Like same f) :
    (e.place? = none ∧ f = e) ∨
      ∃ p q, same p q ∧ e.place? = some p ∧ ReportsAt p q e.chain f.chain := by
  cases h with
  | invalidPattern tag fault => exact .inl ⟨rfl, rfl⟩
  | @unreadable p q fault hpq =>
    refine .inr ⟨p, q, hpq, rfl, "Failed to read config file: ", "", [fault.message], ?_, ?_⟩
    · rw [String.append_empty]
      rfl
    · rw [String.append_empty]
      rfl
  | @malformed p q e hpq =>
    refine .inr ⟨p, q, hpq, rfl, "Failed to parse config file: ", "", [e.message], ?_, ?_⟩
    · rw [String.append_empty]
      rfl
    · rw [String.append_empty]
      rfl

end ConfigError

/-- Computations that are alike but for notes for debugging. -/
abbrev Traced.QuietLike {α β : Type} (failures : CheckError → CheckError → Prop)
    (results : α → β → Prop) : Traced Event CheckError α → Traced Event CheckError β → Prop :=
  Like (fun e => e.level ≠ .debug) (fun e => e.level ≠ .debug) (· = ·) failures results

variable {fs fs' : FileSystem} {same : Path → Path → Prop} {p q : Path}

/-! ## Declarations -/

namespace Source

/-- The kind of a source depends on the name of its file alone. -/
theorem kind?_like (h : p.fileName? = q.fileName?) (hp : p.chars ≠ []) (hq : q.chars ≠ [])
    (hsame : same p q) : Ends (CheckError.Like same) (· = ·) (kind? p) (kind? q) := by
  have hextension : p.extension? = q.extension? := by
    rw [Path.extension?, h]
    rfl
  rw [kind?, kind?, if_neg hp, if_neg hq, h, hextension]
  split
  · exact .ok rfl
  · split
    · exact .ok rfl
    · exact .ok rfl
    · exact .error (.unsupportedSource _ hsame)

/-- One value declares alike at the two places. -/
theorem ofObject_like (hsame : same p q) (v : Json) :
    Ends (CheckError.Like same) (· = ·) (ofObject p v) (ofObject q v) := by
  cases v with
  | object members => exact .ok rfl
  | _ => exact .error (.invalidSource (.notObject hsame))

/-- One text of JSON declares alike at the two places. -/
theorem readJson_like (h : p.fileName? = q.fileName?) (hsame : same p q) (text : String) :
    Ends (CheckError.Like same) (· = ·) (readJson p text) (readJson q text) := by
  have htask : isTaskDefinition p = isTaskDefinition q := by
    rw [isTaskDefinition, h]
    rfl
  rw [readJson, readJson]
  cases Json.read? text with
  | error e => exact .error (.invalidSource (.malformedJson e hsame))
  | ok v =>
    simp only [ofJson, htask]
    split
    · split
      · exact .error (.invalidSource (.malformedTaskDefinition _))
      · exact .ok rfl
      · exact ofObject_like hsame v
    · exact ofObject_like hsame v

/-- Files of one name that read the same declare the same variables. -/
theorem load_like (h : p.fileName? = q.fileName?) (hp : p.chars ≠ []) (hq : q.chars ≠ [])
    (hsame : same p q) (hread : fs.readText p = fs'.readText q) :
    ((file p).load fs).QuietLike (CheckError.Like same) (· = ·) ((file q).load fs') := by
  refine .bind_eq (.ofExcept (kind?_like h hp hq hsame)) fun kind => ?_
  refine .bind_eq (.ofExcept ?_) fun text => ?_
  · rw [hread]
    cases fs'.readText q with
    | error f => exact .error (.unreadable f hsame)
    | ok text => exact .ok rfl
  · cases kind with
    | json => exact .ofExcept (readJson_like h hsame text)
    | dotenv => exact ⟨List.forall₂_eq_eq_eq ▸ rfl, .ok rfl⟩

end Source

/-! ## Scans -/

namespace Scan

variable {registry : Registry} {debug : Bool} {v w : Visit}

/-- The entry for a file depends on its name alone. -/
theorem entryFor?_congr (h : p.fileName? = q.fileName?) :
    entryFor? registry p = entryFor? registry q := by
  rw [entryFor?, entryFor?, dottedExtension?, dottedExtension?, Path.extension?, Path.extension?, h]

/-- What is noted of a file is for debugging. -/
theorem level_of_mem_notesAt {e : Event} (h : e ∈ notesAt registry v) : e.level = .debug := by
  unfold notesAt at h
  split at h
  · rcases List.mem_cons.1 h with rfl | h
    · rfl
    · obtain ⟨name, -, rfl⟩ := List.mem_map.1 h
      rfl
  · cases h

/-- A file is scanned in the same way wherever it is. -/
theorem visit_like (h : v.Like same w) (s : Scan) :
    (visit registry debug s v).QuietLike (CheckError.Like same) (· = ·)
      (visit registry debug s w) := by
  obtain ⟨path, content⟩ := v
  obtain ⟨path', content'⟩ := w
  obtain ⟨hplace, hname, rfl⟩ := h
  have hentry : entryFor? registry path = entryFor? registry path' := entryFor?_congr hname
  cases he : entryFor? registry path' with
  | none =>
    rw [visit_of_none (hentry.trans he), visit_of_none he]
    exact .pure rfl
  | some e =>
    cases content with
    | error f =>
      rw [visit_of_error (hentry.trans he), visit_of_error he]
      exact ⟨by cases debug <;> simp [Event.level], .error (.unreadable f hplace)⟩
    | ok bytes =>
      have hnames : namesIn registry ⟨path, .ok bytes⟩ = namesIn registry ⟨path', .ok bytes⟩ := by
        simp only [namesIn, hentry]
      have hnotes : ∀ v, (if debug then notesAt registry v else []).filter
          (fun e => e.level ≠ .debug) = [] := fun v => by
        cases debug
        · rfl
        · simpa [List.filter_eq_nil_iff] using fun e => level_of_mem_notesAt
      rw [visit_of_ok (hentry.trans he), visit_of_ok he, hnames]
      exact ⟨by rw [hnotes, hnotes]; exact .nil, .ok rfl⟩

end Scan

/-- From walks that come to the same files a scan finds the same. -/
theorem scan_like (h : (fs.walk p).Like same (fs'.walk q)) (registry : Registry) (debug : Bool) :
    (scan fs registry debug p).QuietLike (CheckError.Like same) (· = ·)
      (scan fs' registry debug q) := by
  obtain ⟨hvisits, hresult⟩ := h
  rw [List.filter_true, List.filter_true] at hvisits
  refine Traced.Like.bind_eq (.foldlM hvisits ?_ rfl) fun s => ?_
  · rintro s _ v w rfl hv
    exact Scan.visit_like hv s
  · cases hx : (fs.walk p).result <;> cases hy : (fs'.walk q).result <;> rw [hx, hy] at hresult
    · cases hresult with
      | error hb =>
        simp only [hb.fault]
        exact .fail (.unreadable _ hb.place)
    · cases hresult
    · cases hresult
    · exact .pure rfl

/-! ## Checks -/

section Checks

variable {source source' : Source} {o : ScanOptions}

/-- The registry does not depend on the place. -/
theorem registry_like (o : ScanOptions) :
    Ends (CheckError.Like same) (· = ·) o.registry o.registry := by
  rw [ScanOptions.registry]
  cases Registry.withCustom o.customPatterns with
  | error e => exact .error (.invalidPattern _ _)
  | ok registry => exact .ok rfl

variable (hscan : ∀ registry, (scan fs registry o.debug p).QuietLike (CheckError.Like same) (· = ·)
    (scan fs' registry o.debug q))
include hscan

/-- Where declarations load alike and scans end alike, checks end alike. -/
theorem check_like (hload : (source.load fs).QuietLike (CheckError.Like same) (· = ·)
      (source'.load fs')) :
    (check fs source p o).QuietLike (CheckError.LikeOrMissing same) (· = ·)
      (check fs' source' q o) := by
  refine .bind (.noteIf (by simp [Event.level]) (by simp [Event.level])) fun _ => ?_
  refine .bind_eq (.ofExcept ((registry_like o).mono .like)) fun registry => ?_
  refine .bind_eq (hload.mono .like) fun declared => ?_
  refine .bind (.noteIf (by simp [Event.level]) (by simp [Event.level])) fun _ => ?_
  refine .bind_eq ((hscan registry).mono .like) fun s => ?_
  cases missing declared s.names with
  | nil => exact .pure rfl
  | cons name names => exact .fail (.missing _ _ _)

/-- Where scans end alike, listings end alike. -/
theorem environments_like :
    (environments fs p o).QuietLike (CheckError.Like same) (· = ·) (environments fs' q o) := by
  refine .bind (.noteIf (by simp [Event.level]) (by simp [Event.level])) fun _ => ?_
  refine .bind_eq (.ofExcept (registry_like o)) fun registry => ?_
  exact .bind_eq (hscan registry) fun s => .pure rfl

end Checks

/-! ## Config files -/

namespace Config

theorem validate_like (c : Config) :
    Ends (ConfigError.Like same) (· = ·) c.validate c.validate := by
  unfold validate
  induction c.patterns with
  | nil => exact .ok rfl
  | cons p patterns ih =>
    refine Ends.bind_eq ?_ fun _ => ih
    dsimp only
    cases p.compile with
    | ok e => exact .ok rfl
    | error fault => exact .error (.invalidPattern p.tag fault)

/-- Config files that read the same are read as the same config. -/
theorem readFile_like (hsame : same p q) (hread : fs.readText p = fs'.readText q) :
    Ends (ConfigError.Like same) (· = ·) (readFile fs p) (readFile fs' q) := by
  refine .bind_eq ?_ fun text => ?_
  · rw [hread]
    cases fs'.readText q with
    | error f => exact .error (.unreadable f hsame)
    | ok text => exact .ok rfl
  · refine .bind_eq ?_ fun config => (validate_like config).bind_eq fun _ => .ok rfl
    cases reader.whole? text with
    | error e => exact .error (.malformed e hsame)
    | ok config => exact .ok rfl

/-- Where the config files that are found read the same, so do the configs that are loaded. -/
theorem load_like {explicit : Option Path}
    (hexplicit : ∀ c ∈ explicit, same c c ∧ fs.readText c = fs'.readText c)
    (hfind : Option.Rel (fun c d => same c d ∧ fs.readText c = fs'.readText d) (find? fs p)
      (find? fs' q)) :
    Ends (ConfigError.Like same) (fun c d => c.1 = d.1) (load fs explicit p)
      (load fs' explicit q) := by
  have hfound : Option.Rel (fun c d => same c d ∧ fs.readText c = fs'.readText d)
      (explicit <|> find? fs p) (explicit <|> find? fs' q) := by
    cases explicit with
    | none => exact hfind
    | some c => exact .some (hexplicit c rfl)
  rw [load, load]
  generalize (explicit <|> find? fs p) = found, (explicit <|> find? fs' q) = found' at hfound
  cases hfound with
  | none => exact .ok rfl
  | some h => exact (readFile_like h.1 h.2).map fun hc => hc

end Config

end EnvAudit
