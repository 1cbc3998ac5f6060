import EnvAudit.Proofs.Check

/-!
# EnvAudit.Proofs.Environments

A check and a scan of one project, side by side:

1. a scan ends as told by the custom patterns and the project alone (`result_environments`), and a
   check by these and the declarations, in this order: patterns, declarations, project;
2. a name is missing if it is found and not declared; each is missing once, in the order in which
   the names were found, and where more is declared less is missing (`sublist_missing`).

Main statement: the two agree on every project, source and choice of options, whether they succeed
or fail (`check_agrees_with_environments`).
-/

namespace EnvAudit

variable {fs : FileSystem} {source : Source} {project : Path} {o : ScanOptions}

/-- The names listed are those of the scan, in the order in which they were found. -/
theorem result_environments (fs : FileSystem) (project : Path) (o : ScanOptions) :
    (environments fs project o).result = (do
      let registry ← o.registry
      let s ← (scan fs registry o.debug project).result
      return s.names.toList) := by
  simp only [environments, Traced.result_bind, Traced.result_noteIf, Traced.result_ofExcept]
  rfl

/-! ## Missing names -/

variable {declared declared' : Variables} {found : FoundNames}

/-- What is missing was found and is not declared. -/
theorem mem_missing {name : String} :
    name ∈ missing declared found ↔ name ∈ found.toList ∧ ¬declared.declares name := by
  simp [missing]

/-- Nothing is missing exactly when every name found is declared. -/
theorem missing_eq_nil : missing declared found = [] ↔ ∀ name ∈ found.toList,
    declared.declares name := by
  simp [missing]

/-- What is missing stands in the order in which it was found. -/
theorem missing_sublist (declared : Variables) (found : FoundNames) :
    (missing declared found).Sublist found.toList :=
  List.filter_sublist

/-- No name is missing twice. -/
theorem nodup_missing (declared : Variables) (found : FoundNames) :
    (missing declared found).Nodup :=
  (missing_sublist declared found).nodup found.nodup

/-- Where more is declared, less is missing. -/
theorem sublist_missing (h : ∀ name, declared.declares name → declared'.declares name)
    (found : FoundNames) : (missing declared' found).Sublist (missing declared found) := by
  refine List.monotone_filter_right _ fun name hname => ?_
  rw [Bool.not_eq_true', Bool.eq_false_iff] at hname ⊢
  exact fun hdeclares => hname (h name hdeclares)

/-! ## How a check ends, by what comes first -/

/-- Patterns that are unusable are reported as such. -/
theorem registry_eq_error {e : CheckError} (h : o.registry = .error e) :
    ∃ tag fault, e = .invalidPattern tag fault := by
  unfold ScanOptions.registry at h
  cases hcustom : Registry.withCustom o.customPatterns with
  | error p =>
    rw [hcustom] at h
    cases h
    exact ⟨_, _, rfl⟩
  | ok registry =>
    rw [hcustom] at h
    cases h

/-- With a custom pattern that does not compile a check fails before it reads anything. -/
theorem result_check_of_invalid {e : CheckError} (h : o.registry = .error e) (fs : FileSystem)
    (source : Source) (project : Path) : (check fs source project o).result = .error e := by
  rw [result_check, h]
  rfl

/-- With a custom pattern that does not compile nothing is listed. -/
theorem result_environments_of_invalid {e : CheckError} (h : o.registry = .error e)
    (fs : FileSystem) (project : Path) : (environments fs project o).result = .error e := by
  rw [result_environments, h]
  rfl

variable {registry : Registry}

/-- A check fails as the loading of the declarations does. -/
theorem result_check_of_unloaded (hregistry : o.registry = .ok registry) {e : CheckError}
    (h : (source.load fs).result = .error e) (project : Path) :
    (check fs source project o).result = .error e := by
  rw [result_check, hregistry, h]
  rfl

/-- A check whose declarations load fails as the scan does. -/
theorem result_check_of_unscanned (hregistry : o.registry = .ok registry)
    (hload : (source.load fs).result = .ok declared) {e : CheckError}
    (h : (scan fs registry o.debug project).result = .error e) :
    (check fs source project o).result = .error e := by
  rw [result_check, hregistry, hload]
  change ((scan fs registry o.debug project).result >>= _) = _
  rw [h]
  rfl

/-- Once the project is scanned, a check looks for what is missing. -/
theorem result_check_of_scanned (hregistry : o.registry = .ok registry)
    (hload : (source.load fs).result = .ok declared) {s : Scan}
    (h : (scan fs registry o.debug project).result = .ok s) :
    (check fs source project o).result =
      if missing declared s.names = [] then .ok ⟨declared, s⟩
      else .error (.missing (missing declared s.names) source.describe) := by
  rw [result_check, hregistry, hload]
  change ((scan fs registry o.debug project).result >>= _) = _
  rw [h]
  simp only [bind, Except.bind]
  cases missing declared s.names with
  | nil => exact (if_pos rfl).symm
  | cons name names => exact (if_neg (List.cons_ne_nil name names)).symm

/-- With patterns that compile a listing ends as the scan does. -/
theorem result_environments_of_registry (hregistry : o.registry = .ok registry)
    (fs : FileSystem) (project : Path) :
    (environments fs project o).result =
      (scan fs registry o.debug project).result.map fun s => s.names.toList := by
  rw [result_environments, hregistry]
  change ((scan fs registry o.debug project).result >>= fun s => Except.ok s.names.toList) = _
  cases (scan fs registry o.debug project).result <;> rfl

/-! ## What an end of a check comes from -/

/-- Declarations that are loaded badly do not count as missing. -/
theorem load_ne_missing {names : List String} {d : String} :
    (source.load fs).result ≠ .error (.missing names d) := by
  intro h
  cases source with
  | mapping vars => cases h
  | file path =>
    rcases Traced.bind_eq_error h with hkind | ⟨kind, -, h⟩
    · unfold Source.kind? at hkind
      simp only [Traced.result_ofExcept] at hkind
      split at hkind
      · cases hkind
      · split at hkind
        · cases hkind
        · split at hkind <;> cases hkind
    rcases Traced.bind_eq_error h with htext | ⟨text, -, h⟩
    · simp only [Traced.result_ofExcept] at htext
      cases hread : fs.readText path <;> rw [hread] at htext <;> cases htext
    cases kind with
    | dotenv => cases h
    | json =>
      simp only [Traced.result_ofExcept, Source.readJson] at h
      split at h
      · cases h
      · unfold Source.ofJson Source.ofObject at h
        repeat' split at h
        all_goals cases h

/-- A check succeeds when no name that the scan finds is missing. -/
theorem check_eq_ok {outcome : CheckOutcome}
    (h : (check fs source project o).result = .ok outcome) :
    ∃ registry, o.registry = .ok registry ∧ (source.load fs).result = .ok outcome.declared ∧
      (scan fs registry o.debug project).result = .ok outcome.scan ∧
      missing outcome.declared outcome.scan.names = [] := by
  cases hregistry : o.registry with
  | error e =>
    rw [result_check_of_invalid hregistry] at h
    cases h
  | ok registry =>
    cases hload : (source.load fs).result with
    | error e =>
      rw [result_check_of_unloaded hregistry hload] at h
      cases h
    | ok declared =>
      cases hscan : (scan fs registry o.debug project).result with
      | error e =>
        rw [result_check_of_unscanned hregistry hload hscan] at h
        cases h
      | ok s =>
        rw [result_check_of_scanned hregistry hload hscan] at h
        split at h
        · next hnone =>
          cases h
          exact ⟨registry, rfl, rfl, hscan, hnone⟩
        · cases h

/-- A check reports names as missing when the scan finds them and they are not declared. -/
theorem check_eq_error_missing {names : List String} {d : String}
    (h : (check fs source project o).result = .error (.missing names d)) :
    ∃ registry declared s, o.registry = .ok registry ∧ (source.load fs).result = .ok declared ∧
      (scan fs registry o.debug project).result = .ok s ∧ missing declared s.names = names ∧
      names ≠ [] := by
  cases hregistry : o.registry with
  | error e =>
    rw [result_check_of_invalid hregistry] at h
    obtain ⟨tag, fault, rfl⟩ := registry_eq_error hregistry
    cases h
  | ok registry =>
    cases hload : (source.load fs).result with
    | error e =>
      rw [result_check_of_unloaded hregistry hload] at h
      cases h
      exact absurd hload load_ne_missing
    | ok declared =>
      cases hscan : (scan fs registry o.debug project).result with
      | error e =>
        rw [result_check_of_unscanned hregistry hload hscan] at h
        obtain ⟨path, f, rfl⟩ := scan_eq_error hscan
        cases h
      | ok s =>
        rw [result_check_of_scanned hregistry hload hscan] at h
        split at h
        · cases h
        · next hne =>
          cases h
          exact ⟨registry, declared, s, rfl, rfl, hscan, rfl, hne⟩

/-! ## Agreement -/

/-- A check and a scan of one project agree. Where the check succeeds, the scan finds the same
names, and all of them are declared; where it reports missing names, the scan succeeds, and these
are the names it finds that are not declared, in the same order and each once. A failure of the scan
is one of the check, if the patterns are usable and the declarations can be loaded; declarations
that cannot be loaded are reported whatever the project is, and unusable patterns whatever the
project and the source are. Where more is declared, less is missing. -/
theorem check_agrees_with_environments (fs : FileSystem) (source : Source) (project : Path)
    (o : ScanOptions) :
    (∀ outcome, (check fs source project o).result = .ok outcome →
      (environments fs project o).result = .ok outcome.scan.names.toList ∧
        (source.load fs).result = .ok outcome.declared ∧
        ∀ name ∈ outcome.scan.names.toList, outcome.declared.declares name) ∧
    (∀ names d, (check fs source project o).result = .error (.missing names d) →
      ∃ found declared, (environments fs project o).result = .ok found ∧
        (source.load fs).result = .ok declared ∧ names ≠ [] ∧ names.Nodup ∧
        names.Sublist found ∧ ∀ name, name ∈ names ↔ name ∈ found ∧ ¬declared.declares name) ∧
    (∀ registry declared e, o.registry = .ok registry → (source.load fs).result = .ok declared →
      (environments fs project o).result = .error e →
        (check fs source project o).result = .error e) ∧
    (∀ registry e, o.registry = .ok registry → (source.load fs).result = .error e →
      ∀ project, (check fs source project o).result = .error e) ∧
    (∀ e, o.registry = .error e → (∃ tag fault, e = .invalidPattern tag fault) ∧
      ∀ fs source project, (check fs source project o).result = .error e ∧
        (environments fs project o).result = .error e) ∧
    ∀ source' declared declared', (source.load fs).result = .ok declared →
      (source'.load fs).result = .ok declared' →
      (∀ name, declared.declares name → declared'.declares name) →
        (∀ outcome, (check fs source project o).result = .ok outcome →
          ∃ outcome', (check fs source' project o).result = .ok outcome') ∧
        ∀ names' d', (check fs source' project o).result = .error (.missing names' d') →
          ∃ names d, (check fs source project o).result = .error (.missing names d) ∧
            names'.Sublist names := by
  refine ⟨?_, ?_, ?_, ?_, ?_, ?_⟩
  · intro outcome h
    obtain ⟨registry, hregistry, hload, hscan, hnone⟩ := check_eq_ok h
    refine ⟨?_, hload, missing_eq_nil.1 hnone⟩
    rw [result_environments_of_registry hregistry, hscan]
    rfl
  · intro names d h
    obtain ⟨registry, declared, s, hregistry, hload, hscan, rfl, hne⟩ := check_eq_error_missing h
    refine ⟨s.names.toList, declared, ?_, hload, hne, nodup_missing _ _, missing_sublist _ _,
      fun name => mem_missing⟩
    rw [result_environments_of_registry hregistry, hscan]
    rfl
  · intro registry declared e hregistry hload h
    rw [result_environments_of_registry hregistry] at h
    cases hscan : (scan fs registry o.debug project).result with
    | ok s =>
      rw [hscan] at h
      cases h
    | error e' =>
      rw [hscan] at h
      cases h
      exact result_check_of_unscanned hregistry hload hscan
  · exact fun registry e hregistry hload project => result_check_of_unloaded hregistry hload project
  · exact fun e h => ⟨registry_eq_error h, fun fs source project =>
      ⟨result_check_of_invalid h fs source project, result_environments_of_invalid h fs project⟩⟩
  · intro source' declared declared' hload hload' hmore
    constructor
    · intro outcome h
      obtain ⟨registry, hregistry, hload₀, hscan, hnone⟩ := check_eq_ok h
      obtain rfl : declared = outcome.declared := Except.ok.inj (hload.symm.trans hload₀)
      have hnone' : missing declared' outcome.scan.names = [] :=
        List.sublist_nil.1 (hnone ▸ sublist_missing hmore outcome.scan.names)
      exact ⟨_, (result_check_of_scanned hregistry hload' hscan).trans (if_pos hnone')⟩
    · intro names' d' h
      obtain ⟨registry, declared₀, s, hregistry, hload₀, hscan, rfl, hne⟩ :=
        check_eq_error_missing h
      obtain rfl : declared' = declared₀ := Except.ok.inj (hload'.symm.trans hload₀)
      have hsublist := sublist_missing hmore s.names
      have hne' : missing declared s.names ≠ [] := fun hnil =>
        hne (List.sublist_nil.1 (hnil ▸ hsublist))
      exact ⟨_, _, (result_check_of_scanned hregistry hload hscan).trans (if_neg hne'), hsublist⟩

/-- A project that refers to three names. -/
def threeNamesTree : FileSystem where
  root := .dir {} [
    ("a.js", .file (.ok (Utf8.encode "process.env.C; process.env.B; process.env.A".toList)) false)]
  current := []

theorem check_agrees_with_environments_threeNamesTree :
    (check threeNamesTree (.mapping (.ofPairs [("A", ""), ("B", "1")])) (.ofText ".") {}).result =
        .error (.missing ["C"] "the provided mapping") ∧
      (∃ found, (environments threeNamesTree (.ofText ".") {}).result = .ok found ∧
        ["C"].Sublist found) ∧
      ∃ names d, (check threeNamesTree (.mapping (.ofPairs [("A", "")])) (.ofText ".") {}).result =
          .error (.missing names d) ∧ ["C"].Sublist names := by
  have hmissing : (check threeNamesTree (.mapping (.ofPairs [("A", ""), ("B", "1")])) (.ofText ".")
      {}).result = .error (.missing ["C"] "the provided mapping") := by cbv
  have hmore : ∀ name, (Variables.ofPairs [("A", "")]).declares name →
      (Variables.ofPairs [("A", ""), ("B", "1")]).declares name := by
    intro name h
    simp only [Variables.declares, Variables.ofPairs, List.foldl, Std.TreeMap.contains_insert,
      Bool.or_eq_true] at h ⊢
    exact .inr h
  obtain ⟨-, hfound, -⟩ := check_agrees_with_environments threeNamesTree
    (.mapping (.ofPairs [("A", ""), ("B", "1")])) (.ofText ".") {}
  obtain ⟨-, -, -, -, -, hless⟩ := check_agrees_with_environments threeNamesTree
    (.mapping (.ofPairs [("A", "")])) (.ofText ".") {}
  obtain ⟨found, declared, hfound, -, -, -, hsublist, -⟩ := hfound _ _ hmissing
  exact ⟨hmissing, ⟨found, hfound, hsublist⟩,
    (hless _ _ _ rfl rfl hmore).2 _ _ hmissing⟩

end EnvAudit
