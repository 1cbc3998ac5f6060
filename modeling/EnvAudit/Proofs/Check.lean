import EnvAudit.Check
import EnvAudit.Proofs.Dotenv.Appended
import EnvAudit.Proofs.Files.Write
import EnvAudit.Proofs.Registry.Default
import EnvAudit.Proofs.Scan
import EnvAudit.Proofs.Text.Utf8

/-!
# EnvAudit.Proofs.Check

Declaring what a check finds missing:

1. how a check ends is told by the declarations and the names in the project (`result_check`);
2. lines that declare names are no references, whatever text they are appended to
   (`sameNames_declaring`), so that the project refers to the same names as before.

Main statement: after a line `NAME=1` for every missing name is appended to the file of
declarations, the check succeeds, and no declaration is lost (`check_declaring`).
-/

namespace EnvAudit

/-! ## How a check ends -/

/-- A check reads the registry, the declarations and the project in this order, and the first
failure is its own. -/
theorem result_check (fs : FileSystem) (source : Source) (project : Path) (o : ScanOptions) :
    (check fs source project o).result = (do
      let registry ← o.registry
      let declared ← (source.load fs).result
      let s ← (scan fs registry o.debug project).result
      match missing declared s.names with
      | [] => .ok ⟨declared, s⟩
      | names => .error (.missing names source.describe)) := by
  simp only [check, Traced.result_bind, Traced.result_noteIf, Traced.result_ofExcept]
  cases o.registry with
  | error e => rfl
  | ok registry =>
    cases (source.load fs).result with
    | error e => rfl
    | ok declared =>
      cases hscan : (scan fs registry o.debug project).result with
      | error e => simp [hscan, bind, Except.bind]
      | ok s =>
        simp only [hscan, bind, Except.bind]
        cases missing declared s.names <;> rfl

variable {fs : FileSystem} {path project : Path} {debug : Bool} {text : String}

/-- A readable dotenv file declares what its text declares. -/
theorem result_load_dotenv (hkind : Source.kind? path = .ok .dotenv)
    (htext : fs.readText path = .ok text) :
    (Source.load fs (.file path)).result = .ok (Dotenv.declared text) := by
  simp only [Source.load, Source.readFile, hkind, htext, Traced.result_bind, Traced.result_ofExcept]
  rfl

/-- A check of a file of assignments without custom patterns. -/
theorem result_check_dotenv (hkind : Source.kind? path = .ok .dotenv)
    (htext : fs.readText path = .ok text) :
    (check fs (.file path) project ⟨debug, []⟩).result = (do
      let s ← (scan fs .default debug project).result
      match missing (Dotenv.declared text) s.names with
      | [] => .ok ⟨Dotenv.declared text, s⟩
      | names => .error (.missing names path.text)) := by
  rw [result_check, result_load_dotenv hkind htext]
  rfl

/-- What a check finds missing are the names that were found and are not declared. -/
theorem check_eq_missing {names : List String} {d : String}
    (hkind : Source.kind? path = .ok .dotenv) (htext : fs.readText path = .ok text)
    (h : (check fs (.file path) project ⟨debug, []⟩).result = .error (.missing names d)) :
    ∃ s, (scan fs .default debug project).result = .ok s ∧ names ≠ [] ∧
      missing (Dotenv.declared text) s.names = names := by
  rw [result_check_dotenv hkind htext] at h
  cases hscan : (scan fs .default debug project).result with
  | error e =>
    obtain ⟨path', f, rfl⟩ := scan_eq_error hscan
    rw [hscan] at h
    cases h
  | ok s =>
    rw [hscan] at h
    refine ⟨s, rfl, ?_⟩
    simp only [bind, Except.bind] at h
    split at h
    · cases h
    · next hne =>
      cases h
      exact ⟨hne, rfl⟩

/-! ## Declaring lines -/

namespace Registry

/-- What is found as a name can be declared. -/
theorem IsName.isKey {name : String} (h : IsName name) : Dotenv.IsKey name := by
  refine ⟨h.1, fun c hc => ?_⟩
  have hcontains := h.2 c hc
  have hdash : ∀ r ∈ CharSet.word.ranges.head?, 0x2d < r.1 := by
    rintro r ⟨⟩
    decide
  have hdot : ∀ r ∈ CharSet.word.ranges.head?, 0x2e < r.1 := by
    rintro r ⟨⟩
    decide
  rw [CharSet.contains, dashedWord, CharSet.covers_cons (Nat.le_refl _) hdash] at hcontains
  rw [Dotenv.isKeyChar, CharSet.contains, Dotenv.keyChars, CharSet.covers_cons (by decide) hdot]
  simp only [Bool.or_eq_true, decide_eq_true_eq] at hcontains ⊢
  refine hcontains.imp_left fun hc => ?_
  omega

variable {e : PatternEntry} {names : List String}

/-- Lines that declare names do not refer to them. -/
theorem Inline.extract_declaring (h : Inline e) (hnames : ∀ name ∈ names, IsName name) :
    e.extract (Dotenv.declaring names).toList = [] := by
  induction names with
  | nil => rw [Dotenv.toList_declaring_nil, h.extract_nil]
  | cons name names ih =>
    have hline : e.extract (name.toList ++ ['=', '1']) = [] := by
      refine h.extract_eq_nil fun x hx hmem => ?_
      have hmark : ∀ x ∈ marks, dashedWord.contains x = false ∧ x ∉ ['=', '1'] :=
        forall_mem_of_all (by decide)
      obtain ⟨hword, hline⟩ := hmark x hx
      rcases List.mem_append.1 hmem with hname | hrest
      · simp [(hnames name (by simp)).2 x hname] at hword
      · exact hline hrest
    rw [Dotenv.toList_declaring_cons, show name.toList ++ '=' :: '1' :: '\n' :: _ =
      (name.toList ++ ['=', '1']) ++ '\n' :: (Dotenv.declaring names).toList by simp,
      h.extract_append (by decide) (by decide), hline, ih fun n hn => hnames n (by simp [hn])]
    rfl

/-- No default entry tells a text from the same text with declaring lines behind it. -/
theorem sameNames_declaring (hnames : ∀ name ∈ names, IsName name) {bytes : Bytes} {text : String}
    (h : Utf8.decode? bytes = some text.toList) :
    default.SameNames (.ok bytes)
      (.ok (Utf8.encode (text ++ "\n\n" ++ Dotenv.declaring names).toList)) := by
  refine .ok fun e he => ?_
  have hinline := inline_of_mem_default he
  have happend : ∀ text more,
      e.extract (text ++ '\n' :: more) = e.extract text ++ e.extract more :=
    hinline.extract_append (by decide) (by decide)
  have hblank : e.extract ('\n' :: (Dotenv.declaring names).toList) = [] := by
    rw [← List.nil_append ('\n' :: _), happend, hinline.extract_nil,
      hinline.extract_declaring hnames]
    rfl
  rw [Utf8.decodeLossy_of_decode? h, Utf8.decodeLossy_of_decode? (Utf8.decode?_encode _),
    String.toList_append, String.toList_append, List.append_assoc]
  exact (List.append_nil _).symm.trans ((congrArg _ hblank.symm).trans (happend _ _).symm)

end Registry

/-! ## Following the report -/

/-- When every name reported missing is added as a declaration below the text, none is missing any
more. -/
theorem missing_declared_append {names : List String} {found : FoundNames}
    (hnames : missing (Dotenv.declared text) found = names) (hne : names ≠ [])
    (hkey : ∀ name ∈ names, Dotenv.IsKey name) :
    missing (Dotenv.declared (text ++ "\n\n" ++ Dotenv.declaring names)) found = [] := by
  rw [missing, List.filter_eq_nil_iff]
  intro name hfound
  rw [Bool.not_eq_true, Bool.not_eq_false']
  cases hold : (Dotenv.declared text).declares name with
  | true => exact Dotenv.declares_declared_append hne hkey text hold
  | false =>
    have hmem : name ∈ names := by
      rw [← hnames]
      exact List.mem_filter.2 ⟨hfound, by simp [hold]⟩
    rw [Variables.declares, ← Std.TreeMap.isSome_getElem?_eq_contains,
      Dotenv.getElem?_declared_append hkey text hmem]
    rfl

/-- Whatever the file of declarations holds: when a line `NAME=1` is appended to it for every
variable that a check finds missing, and an empty line before them, the check succeeds; the names
are declared then with the value `1`, and what was declared before still is. -/
theorem check_declaring {names : List String} {d : String}
    (hkind : Source.kind? path = .ok .dotenv) (htext : fs.readText path = .ok text)
    (hmissing : (check fs (.file path) project ⟨debug, []⟩).result = .error (.missing names d)) :
    ∃ fs' outcome,
      fs.writeText path (text ++ "\n\n" ++ Dotenv.declaring names) = .ok fs' ∧
        (check fs' (.file path) project ⟨debug, []⟩).result = .ok outcome ∧
        (Source.readDotenv (text ++ "\n\n" ++ Dotenv.declaring names)).result =
          .ok outcome.declared ∧
        (∀ name ∈ names, outcome.declared[name]? = some "1") ∧
        ∃ old, (Source.readDotenv text).result = .ok old ∧
          ∀ name, old.declares name → outcome.declared.declares name := by
  obtain ⟨s, hscan, hne, hnames⟩ := check_eq_missing hkind htext hmissing
  have hname : ∀ name ∈ names, Registry.IsName name := by
    intro name hmem
    rw [← hnames] at hmem
    obtain ⟨e, he, found, hextract⟩ := mem_extract_of_scan hscan (List.mem_of_mem_filter hmem)
    exact (Registry.inline_of_mem_default he).isName_of_mem_extract hextract
  have hkey : ∀ name ∈ names, Dotenv.IsKey name := fun name hmem => (hname name hmem).isKey
  obtain ⟨bytes, hread, hdecode⟩ := FileSystem.readText_eq_ok htext
  obtain ⟨fs', hwrite, halike, hread'⟩ := FileSystem.write_of_read (P := Registry.default.SameNames)
    (fun c => by cases c with | error f => exact .error f | ok b => exact .ok fun _ _ => rfl)
    hread (Registry.sameNames_declaring hname hdecode)
  have htext' := FileSystem.readText_of_read hread'
  refine ⟨fs', ⟨Dotenv.declared (text ++ "\n\n" ++ Dotenv.declaring names), s⟩, hwrite, ?_, rfl,
    fun name hmem => Dotenv.getElem?_declared_append hkey text hmem, ?_⟩
  · have hnone := missing_declared_append hnames hne hkey
    rw [result_check_dotenv hkind htext', ← scan_congr halike, hscan]
    simp only [bind, Except.bind, hnone]
  · exact ⟨_, rfl, fun name hold => Dotenv.declares_declared_append hne hkey text hold⟩

/-- A project that refers to a name, with declarations whose last value is left open. -/
def openQuoteTree : FileSystem where
  root := .dir {} [
    ("a.js", .file (.ok (Utf8.encode "process.env.NEW".toList)) false),
    (".env", .file (.ok (Utf8.encode "OLD='".toList)) false)]
  current := []

theorem readText_openQuoteTree : openQuoteTree.readText (.ofText ".env") = .ok "OLD='" := by cbv

/-- The names added stand below a value that was left open, and still count. -/
theorem check_declaring_openQuoteTree :
    (check openQuoteTree (.file (.ofText ".env")) (.ofText ".") ⟨false, []⟩).result =
        .error (.missing ["NEW"] ".env") ∧
      ∃ fs' outcome,
        openQuoteTree.writeText (.ofText ".env") ("OLD='" ++ "\n\n" ++ Dotenv.declaring ["NEW"]) =
            .ok fs' ∧
          (check fs' (.file (.ofText ".env")) (.ofText ".") ⟨false, []⟩).result = .ok outcome ∧
          outcome.declared["NEW"]? = some "1" := by
  have hmissing : (check openQuoteTree (.file (.ofText ".env")) (.ofText ".") ⟨false, []⟩).result =
      .error (.missing ["NEW"] ".env") := by cbv
  have hkind : Source.kind? (.ofText ".env") = .ok .dotenv := by decide
  obtain ⟨fs', outcome, hwrite, hcheck, -, hdeclared, -⟩ :=
    check_declaring hkind readText_openQuoteTree hmissing
  exact ⟨hmissing, fs', outcome, hwrite, hcheck, hdeclared "NEW" (List.mem_singleton_self _)⟩

end EnvAudit
