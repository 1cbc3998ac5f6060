import EnvAudit.Proofs.Files.Alike
import EnvAudit.Proofs.Files.Below
import EnvAudit.Proofs.FoundNames
import EnvAudit.Scan
import Mathlib

-- The runs on concrete trees, here and in what builds on this module, are evaluated by `cbv`. It
-- opens core functions whose equations no one part of the library brings in.

/-!
# EnvAudit.Proofs.Scan

What a scan makes of the files that a walk comes to:

1. it counts those that have an entry in the registry, and finds the names that the entries extract
   from them (`foldlM_visit_eq_ok`);
2. it is the same for trees that differ only in what no entry of the registry can tell apart
   (`scan_congr`).
-/

namespace EnvAudit

/-- Contents from which the entries of a registry extract the same names. -/
def Registry.SameNames (registry : Registry) : Except Fault Bytes → Except Fault Bytes → Prop :=
  Agree fun a b => ∀ e ∈ registry.entries,
    e.extract (Utf8.decodeLossy a) = e.extract (Utf8.decodeLossy b)

namespace Scan

variable {registry : Registry} {debug : Bool}

/-- The entry for a file is one of the registry. -/
theorem mem_of_entryFor? {path : Path} {e : PatternEntry} (h : entryFor? registry path = some e) :
    e ∈ registry.entries := by
  obtain ⟨extension, -, hfind⟩ := Option.bind_eq_some_iff.1 h
  exact List.mem_of_find?_eq_some hfind

/-! ## Files -/

/-- Whether a file has an entry in a registry. -/
def claims (registry : Registry) (v : Visit) : Bool := (entryFor? registry v.path).isSome

/-- The names in a file. -/
def namesIn (registry : Registry) (v : Visit) : List String :=
  match entryFor? registry v.path, v.content with
  | some e, .ok bytes => e.extract (Utf8.decodeLossy bytes)
  | _, _ => []

/-- What a scan notes at a file. -/
def notesAt (registry : Registry) (v : Visit) : List Event :=
  match entryFor? registry v.path with
  | some e =>
    .scanningFile v.path e.tag :: (namesIn registry v).map fun n => .foundVariable n v.path
  | none => []

/-- A file that no entry claims is passed over. -/
theorem visit_of_none {path : Path} (h : entryFor? registry path = none) (s : Scan)
    (content : Except Fault Bytes) : visit registry debug s ⟨path, content⟩ = ⟨[], .ok s⟩ := by
  simp [visit, h]

/-- A claimed file that cannot be read ends the scan. -/
theorem visit_of_error {path : Path} {e : PatternEntry} (h : entryFor? registry path = some e)
    (s : Scan) (f : Fault) :
    visit registry debug s ⟨path, .error f⟩ =
      ⟨if debug then [.scanningFile path e.tag] else [], .error (.unreadable path f)⟩ := by
  cases debug <;> simp [visit, h, Traced.noteIf, Traced.note, Traced.ofExcept, Except.mapError,
    Traced.bind_def, Traced.bind]

/-- A claimed file that is read counts, and its names are added. -/
theorem visit_of_ok {path : Path} {e : PatternEntry} (h : entryFor? registry path = some e)
    (s : Scan) (bytes : Bytes) :
    visit registry debug s ⟨path, .ok bytes⟩ =
      ⟨if debug then notesAt registry ⟨path, .ok bytes⟩ else [],
        .ok ⟨s.files + 1, s.names.insertAll (namesIn registry ⟨path, .ok bytes⟩)⟩⟩ := by
  cases debug <;> simp [visit, h, notesAt, namesIn, Traced.noteIf, Traced.note, Traced.ofExcept,
    Except.mapError, Traced.bind_def, Traced.bind]

/-- A file without an entry is passed over, and one with an entry is read. -/
theorem visit_eq_ok {s t : Scan} {v : Visit} (h : (visit registry debug s v).result = .ok t) :
    (claims registry v → ∃ bytes, v.content = .ok bytes) ∧
      visit registry debug s v = ⟨if debug then notesAt registry v else [], .ok t⟩ ∧
      t.files = s.files + (if claims registry v then 1 else 0) ∧
      t.names = s.names.insertAll (namesIn registry v) := by
  obtain ⟨path, content⟩ := v
  cases he : entryFor? registry path with
  | none =>
    rw [visit_of_none he] at h ⊢
    cases h
    simp [claims, namesIn, notesAt, he, FoundNames.insertAll]
  | some e =>
    cases content with
    | error f =>
      rw [visit_of_error he] at h
      cases h
    | ok bytes =>
      rw [visit_of_ok he] at h ⊢
      cases h
      simp [claims, he]

/-! ## Walks -/

/-- Files are counted, and the names in them are found, one after the other. -/
theorem foldlM_visit_eq_ok {vs : List Visit} {s t : Scan}
    (h : (vs.foldlM (visit registry debug) s).result = .ok t) :
    (∀ v ∈ vs, claims registry v → ∃ bytes, v.content = .ok bytes) ∧
      (vs.foldlM (visit registry debug) s).notes =
        (if debug then vs.flatMap (notesAt registry) else []) ∧
      t.files = s.files + (vs.filter (claims registry)).length ∧
      t.names = s.names.insertAll (vs.flatMap (namesIn registry)) := by
  induction vs generalizing s with
  | nil =>
    cases h
    simp [FoundNames.insertAll]
  | cons v vs ih =>
    rw [List.foldlM_cons] at h ⊢
    obtain ⟨u, hv, hvs, hnotes⟩ := Traced.bind_eq_ok h
    obtain ⟨hcontent, hvisit, hfiles, hnames⟩ := visit_eq_ok hv
    obtain ⟨hcontents, hnotes', hfiles', hnames'⟩ := ih hvs
    refine ⟨?_, ?_, ?_, ?_⟩
    · intro w hw
      rcases List.mem_cons.1 hw with rfl | hw
      · exact hcontent
      · exact hcontents w hw
    · rw [hnotes, hvisit, hnotes']
      cases debug <;> simp
    · rw [hfiles', hfiles, List.filter_cons]
      split <;> simp [Nat.add_assoc, Nat.add_comm]
    · rw [hnames', hnames]
      simp [FoundNames.insertAll]

/-- From files in which a registry finds the same names, a scan goes on in the same way. -/
theorem visit_congr {s : Scan} {v w : Visit} (h : v.Alike registry.SameNames w) :
    visit registry debug s v = visit registry debug s w := by
  obtain ⟨path, content⟩ := v
  obtain ⟨path', content'⟩ := w
  obtain ⟨rfl, hsame⟩ := h
  cases he : entryFor? registry path with
  | none => rw [visit_of_none he, visit_of_none he]
  | some e =>
    cases hsame with
    | error f => rfl
    | ok hnames =>
      rw [visit_of_ok he, visit_of_ok he]
      simp [namesIn, notesAt, he, hnames e (mem_of_entryFor? he)]

/-- Visits that no entry can tell apart are scanned alike. -/
theorem foldlM_visit_congr {vs ws : List Visit}
    (h : List.Forall₂ (Visit.Alike registry.SameNames) vs ws) (s : Scan) :
    vs.foldlM (visit registry debug) s = ws.foldlM (visit registry debug) s := by
  induction h generalizing s with
  | nil => rfl
  | cons hv _ ih => simp only [List.foldlM_cons, visit_congr hv, ih]

end Scan

/-- A scan does not tell trees apart that differ only in what no entry can tell apart. -/
theorem scan_congr {fs fs' : FileSystem} {registry : Registry} (h : fs.Alike registry.SameNames fs')
    (debug : Bool) (root : Path) : scan fs registry debug root = scan fs' registry debug root := by
  have hwalk := h.walk .error root
  simp only [scan, Scan.foldlM_visit_congr hwalk.notes, hwalk.result]

/-- A scan that ends well has walked to the end. -/
theorem scan_eq_ok {fs : FileSystem} {registry : Registry} {debug : Bool} {root : Path} {s : Scan}
    (h : (scan fs registry debug root).result = .ok s) :
    (fs.walk root).result = .ok () ∧
      ((fs.walk root).notes.foldlM (Scan.visit registry debug) {}).result = .ok s ∧
      (scan fs registry debug root).notes =
        ((fs.walk root).notes.foldlM (Scan.visit registry debug) {}).notes := by
  obtain ⟨t, hfold, ht, hnotes⟩ := Traced.bind_eq_ok h
  cases hwalk : (fs.walk root).result with
  | ok u =>
    rw [hwalk] at ht
    cases ht
    refine ⟨rfl, hfold, ?_⟩
    rw [scan, hnotes, hwalk]
    simp
  | error b =>
    rw [hwalk] at ht
    cases ht

/-- Only a file that cannot be read makes visits fail. -/
theorem foldlM_visit_eq_error {registry : Registry} {debug : Bool} {vs : List Visit} {s : Scan}
    {e : CheckError} (h : (vs.foldlM (Scan.visit registry debug) s).result = .error e) :
    ∃ path f, e = .unreadable path f := by
  induction vs generalizing s with
  | nil => cases h
  | cons v vs ih =>
    rw [List.foldlM_cons] at h
    rcases Traced.bind_eq_error h with hv | ⟨t, -, hvs⟩
    · obtain ⟨path, content⟩ := v
      cases he : Scan.entryFor? registry path with
      | none =>
        rw [Scan.visit_of_none he] at hv
        cases hv
      | some entry =>
        cases content with
        | error f =>
          rw [Scan.visit_of_error he] at hv
          cases hv
          exact ⟨_, _, rfl⟩
        | ok bytes =>
          rw [Scan.visit_of_ok he] at hv
          cases hv
    · exact ih hvs

/-- A scan fails at something that cannot be read. -/
theorem scan_eq_error {fs : FileSystem} {registry : Registry} {debug : Bool} {root : Path}
    {e : CheckError} (h : (scan fs registry debug root).result = .error e) :
    ∃ path f, e = .unreadable path f := by
  rcases Traced.bind_eq_error h with hfold | ⟨s, -, hs⟩
  · exact foldlM_visit_eq_error hfold
  · cases hwalk : (fs.walk root).result with
    | ok u =>
      rw [hwalk] at hs
      cases hs
    | error b =>
      rw [hwalk] at hs
      cases hs
      exact ⟨_, _, rfl⟩

/-- What a scan finds, the entries of the registry have extracted. -/
theorem mem_extract_of_scan {fs : FileSystem} {registry : Registry} {debug : Bool} {root : Path}
    {s : Scan} (h : (scan fs registry debug root).result = .ok s) {name : String}
    (hname : name ∈ s.names.toList) : ∃ e ∈ registry.entries, ∃ text, name ∈ e.extract text := by
  obtain ⟨-, hfold, -⟩ := scan_eq_ok h
  obtain ⟨-, -, -, hnames⟩ := Scan.foldlM_visit_eq_ok hfold
  rw [hnames, FoundNames.mem_toList_insertAll] at hname
  obtain ⟨v, -, hv⟩ := List.mem_flatMap.1 (hname.resolve_left (List.not_mem_nil))
  unfold Scan.namesIn at hv
  split at hv
  · next e bytes he _ => exact ⟨e, Scan.mem_of_entryFor? he, _, hv⟩
  · cases hv

/-! ## What a scan reads -/

/-- An entry lists an extension, and none before it does. -/
def Registry.FirstToList (registry : Registry) (extension : String) (e : PatternEntry) : Prop :=
  ∃ before behind, registry.entries = before ++ e :: behind ∧ extension ∈ e.extensions ∧
    ∀ b ∈ before, extension ∉ b.extensions

/-- The entry for an extension is the first that lists it. -/
theorem Registry.forExtension?_eq_some {registry : Registry} {extension : String}
    {e : PatternEntry} :
    registry.forExtension? extension = some e ↔ registry.FirstToList extension e := by
  simp only [forExtension?, List.find?_eq_some_iff_append, PatternEntry.claims,
    List.contains_iff_mem, Bool.not_eq_true', FirstToList]
  constructor
  · rintro ⟨hmem, before, behind, hentries, hbefore⟩
    exact ⟨before, behind, hentries, hmem, fun b hb hin => by simpa [hin] using hbefore b hb⟩
  · rintro ⟨before, behind, hentries, hmem, hbefore⟩
    exact ⟨hmem, before, behind, hentries, fun b hb => by simpa using hbefore b hb⟩

/-- The first entry that lists the extension of a path. -/
def Registry.FirstFor (registry : Registry) (path : Path) (e : PatternEntry) : Prop :=
  ∃ extension before behind, Scan.dottedExtension? path = some extension ∧
    registry.entries = before ++ e :: behind ∧ extension ∈ e.extensions ∧
    ∀ b ∈ before, extension ∉ b.extensions

theorem Scan.entryFor?_eq_some {registry : Registry} {path : Path} {e : PatternEntry} :
    entryFor? registry path = some e ↔ registry.FirstFor path e := by
  simp only [entryFor?, Option.bind_eq_bind, Option.bind_eq_some_iff,
    Registry.forExtension?_eq_some, Registry.FirstToList, Registry.FirstFor, exists_and_left]

/-- A file that is read: the names that lead to it, the entry that claims it, and its bytes. -/
structure FileRead where
  names : List String
  entry : PatternEntry
  bytes : Bytes

/-- The names of variables in the file. -/
def FileRead.found (f : FileRead) : List String := f.entry.extract (Utf8.decodeLossy f.bytes)

/-- What is noted of the file, when the scan started at a path. -/
def FileRead.notes (f : FileRead) (root : Path) : List Event :=
  .scanningFile (root.descend f.names) f.entry.tag ::
    f.found.map fun name => .foundVariable name (root.descend f.names)

/-- A file as it is read, if an entry claims it. -/
def Located.read? (registry : Registry) (root : Path) (f : Located) : Option FileRead :=
  match Scan.entryFor? registry (root.descend f.1), f.2 with
  | some e, .ok bytes => some ⟨f.1, e, bytes⟩
  | _, _ => none

/-- A file is read if an entry claims it and its content is there. -/
theorem Located.read?_eq_some {registry : Registry} {root : Path} {f : Located} {r : FileRead} :
    f.read? registry root = some r ↔
      f = (r.names, .ok r.bytes) ∧ registry.FirstFor (root.descend r.names) r.entry := by
  obtain ⟨names, content⟩ := f
  obtain ⟨names', e', bytes'⟩ := r
  rw [← Scan.entryFor?_eq_some]
  unfold read?
  constructor
  · intro h
    split at h
    · next e bytes he hcontent =>
      cases h
      cases hcontent
      exact ⟨rfl, he⟩
    · cases h
  · rintro ⟨heq, he⟩
    cases heq
    simp only [he]

theorem flatMap_filterMap {α β γ : Type} (f : α → Option β) (g : β → List γ) (l : List α) :
    (l.filterMap f).flatMap g = l.flatMap fun a => (f a).elim [] g := by
  induction l with
  | nil => rfl
  | cons a l ih => cases h : f a <;> simp [h, ih]

section Reading

variable {registry : Registry} {root : Path} {f : Located}

theorem namesIn_eq : Scan.namesIn registry ⟨root.descend f.1, f.2⟩ =
    (f.read? registry root).elim [] FileRead.found := by
  obtain ⟨names, content⟩ := f
  unfold Scan.namesIn Located.read?
  cases Scan.entryFor? registry (root.descend names) <;> cases content <;> rfl

variable (h : Scan.claims registry ⟨root.descend f.1, f.2⟩ → ∃ bytes, f.2 = .ok bytes)
include h

theorem claims_eq :
    Scan.claims registry ⟨root.descend f.1, f.2⟩ = (f.read? registry root).isSome := by
  obtain ⟨names, content⟩ := f
  unfold Scan.claims Located.read? at *
  cases he : Scan.entryFor? registry (root.descend names) with
  | none => simp
  | some e =>
    obtain ⟨bytes, rfl⟩ := h (by simp [he])
    simp

theorem notesAt_eq : Scan.notesAt registry ⟨root.descend f.1, f.2⟩ =
    (f.read? registry root).elim [] fun r => r.notes root := by
  obtain ⟨names, content⟩ := f
  unfold Scan.claims at h
  unfold Scan.notesAt Located.read? Scan.namesIn
  cases he : Scan.entryFor? registry (root.descend names) with
  | none => simp
  | some e =>
    obtain ⟨bytes, rfl⟩ := h (by simp [he])
    simp [FileRead.notes, FileRead.found]

end Reading

/-- Which files a scan of a path reads, and in which order: those at or below the path whose
extension an entry of the registry lists, each once and in ascending order of the names that lead to
it. -/
structure FilesRead (fs : FileSystem) (registry : Registry) (root : Path) (files : List FileRead) :
    Prop where
  mem_iff : ∀ f, f ∈ files ↔ fs.FileAt root f.names (.ok f.bytes) ∧
    registry.FirstFor (root.descend f.names) f.entry
  exists_of_firstFor : ∀ names content, fs.FileAt root names content →
    (∃ e, registry.FirstFor (root.descend names) e) → ∃ f ∈ files, f.names = names
  pairwise : files.Pairwise fun f g => bytesOf f.names < bytesOf g.names

/-- What a scan that ends well has read, counted, found and noted. -/
theorem exists_filesRead {fs : FileSystem} {registry : Registry} {debug : Bool} {root : Path}
    {s : Scan} (hfs : fs.root.Distinct) (h : (scan fs registry debug root).result = .ok s) :
    ∃ files : List FileRead, FilesRead fs registry root files ∧ s.files = files.length ∧
      s.names.toList = (files.flatMap FileRead.found).eraseDups ∧
      (scan fs registry debug root).notes =
        if debug then files.flatMap fun f => f.notes root else [] := by
  obtain ⟨hwalk, hfold, hnotes⟩ := scan_eq_ok h
  obtain ⟨found, hvisits, hmem, hpairwise⟩ := FileSystem.exists_of_walk hfs hwalk
  obtain ⟨hcontents, hfoldNotes, hfiles, hnames⟩ := Scan.foldlM_visit_eq_ok hfold
  rw [hvisits] at hcontents hfoldNotes hfiles hnames
  have hreadable : ∀ f ∈ found, Scan.claims registry ⟨root.descend f.1, f.2⟩ →
      ∃ bytes, f.2 = .ok bytes := fun f hf => hcontents _ (List.mem_map_of_mem hf)
  refine ⟨found.filterMap (Located.read? registry root), ⟨fun r => ?_, ?_, ?_⟩, ?_, ?_, ?_⟩
  · simp only [List.mem_filterMap, Located.read?_eq_some]
    constructor
    · rintro ⟨f, hf, rfl, hfirst⟩
      exact ⟨(hmem _).1 hf, hfirst⟩
    · rintro ⟨hfile, hfirst⟩
      exact ⟨_, (hmem _).2 hfile, rfl, hfirst⟩
  · rintro names content hfile ⟨e, hfirst⟩
    have hf := (hmem (names, content)).2 hfile
    obtain ⟨bytes, rfl⟩ :=
      hreadable _ hf (Option.isSome_of_eq_some (Scan.entryFor?_eq_some.2 hfirst))
    exact ⟨⟨names, e, bytes⟩,
      List.mem_filterMap.2 ⟨_, hf, Located.read?_eq_some.2 ⟨rfl, hfirst⟩⟩, rfl⟩
  · refine List.pairwise_filterMap.2 (hpairwise.imp fun hlt r hr r' hr' => ?_)
    obtain ⟨rfl, -⟩ := Located.read?_eq_some.1 hr
    obtain ⟨rfl, -⟩ := Located.read?_eq_some.1 hr'
    exact hlt
  · rw [hfiles, List.length_filterMap_eq_countP, ← List.countP_eq_length_filter, List.countP_map,
      Nat.zero_add]
    exact List.countP_congr fun f hf => by simp [claims_eq (hreadable f hf)]
  · rw [hnames, FoundNames.toList_insertAll, List.flatMap_map, flatMap_filterMap]
    simp only [namesIn_eq]
    rfl
  · rw [hnotes, hvisits, hfoldNotes, List.flatMap_map, flatMap_filterMap,
      List.flatMap_congr fun f hf => notesAt_eq (hreadable f hf)]

/-- A scan that ends well has read the files at or below its path whose extension an entry of the
registry lists, each once and in ascending order of the names that lead to it; it has counted them,
and it has found what the first entry for each extracts from it, each name where it comes first. -/
theorem scan_reads {fs : FileSystem} {registry : Registry} {debug : Bool} {root : Path} {s : Scan}
    (hfs : fs.root.Distinct) (h : (scan fs registry debug root).result = .ok s) :
    ∃ files : List FileRead,
      (∀ f, f ∈ files ↔ fs.FileAt root f.names (.ok f.bytes) ∧
        registry.FirstFor (root.descend f.names) f.entry) ∧
      (∀ names content, fs.FileAt root names content →
        (∃ e, registry.FirstFor (root.descend names) e) → ∃ f ∈ files, f.names = names) ∧
      (files.Pairwise fun f g => bytesOf f.names < bytesOf g.names) ∧
      s.files = files.length ∧
      s.names.toList = (files.flatMap FileRead.found).eraseDups ∧
      (scan fs registry debug root).notes =
        if debug then files.flatMap fun f => f.notes root else [] := by
  obtain ⟨files, hread, hrest⟩ := exists_filesRead hfs h
  exact ⟨files, hread.mem_iff, hread.exists_of_firstFor, hread.pairwise, hrest⟩

/-- A directory and a file with the same stem: the path `src.js` is the smaller text, but what is in
`src` comes first. -/
def stemTree : FileSystem where
  root := .dir {} [
    ("src.js", .file (.ok (Utf8.encode "process.env.A".toList)) false),
    ("src", .dir {} [("a.js", .file (.ok (Utf8.encode "process.env.B".toList)) false)])]
  current := []

/-- The scan reads `src/a.js` before `src.js`. -/
theorem result_scan_stemTree :
    (scan stemTree .default false (.ofText ".")).result.map (fun s => (s.files, s.names.toList)) =
      .ok (2, ["B", "A"]) := by
  cbv

theorem scan_reads_stemTree :
    stemTree.root.Distinct ∧ ∃ s, (scan stemTree .default false (.ofText ".")).result = .ok s ∧
      ∃ files : List FileRead,
        (∀ f, f ∈ files ↔ stemTree.FileAt (.ofText ".") f.names (.ok f.bytes) ∧
          Registry.default.FirstFor (Path.descend (.ofText ".") f.names) f.entry) ∧
        (files.Pairwise fun f g => bytesOf f.names < bytesOf g.names) ∧
        files.length = 2 ∧ (files.flatMap FileRead.found).eraseDups = ["B", "A"] := by
  have hdistinct : stemTree.root.Distinct := by
    simp [stemTree, Entry.Distinct, Entry.DistinctAll]
  have hresult := result_scan_stemTree
  cases hscan : (scan stemTree .default false (.ofText ".")).result with
  | error e =>
    rw [hscan] at hresult
    cases hresult
  | ok s =>
    rw [hscan] at hresult
    obtain ⟨hfiles, hnames⟩ := Prod.mk.inj (Except.ok.inj hresult)
    obtain ⟨files, hmem, -, hpairwise, hlength, hfound, -⟩ := scan_reads hdistinct hscan
    exact ⟨hdistinct, s, rfl, files, hmem, hpairwise, hlength ▸ hfiles, hfound ▸ hnames⟩

end EnvAudit
