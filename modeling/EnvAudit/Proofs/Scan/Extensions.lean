import EnvAudit.Proofs.Path
import EnvAudit.Proofs.Scan

/-!
# EnvAudit.Proofs.Scan.Extensions

Which files the extensions in a registry are for:

1. every extension in a registry that is made of custom patterns starts with a dot
   (`Registry.isDotted_of_withCustom`);
2. a file whose name is a stem and such an extension is known by what begins at the last dot of it
   (`Scan.dottedExtension?_of_fileName?`), which is all of the extension only if it has one dot
   (`lastDotted_eq_self_iff`);
3. a scan that ends well leaves each readable file to the entry for it, if there is one
   (`leavesTo_of_scan`).

Main statement: a file with an extension that has one dot is read by the first entry that lists it,
and an extension with more dots is never what a file is known by
(`extension_with_one_dot_is_live`).
-/

namespace EnvAudit

/-! ## Extensions that are accepted -/

namespace Registry

variable {entries more : List PatternEntry} {e new : PatternEntry} {registry : Registry}
  {extension : String}

theorem mem_put (h : e ∈ put entries new) : e ∈ entries ∨ e = new := by
  induction entries with
  | nil => exact .inr (List.mem_singleton.1 h)
  | cons other entries ih =>
    unfold put at h
    split at h
    · exact (List.mem_cons.1 h).symm.imp_left (List.mem_cons_of_mem _)
    · rcases List.mem_cons.1 h with rfl | h
      · exact .inl List.mem_cons_self
      · exact (ih h).imp_left (List.mem_cons_of_mem _)

/-- No entry is in a registry but those that were there or were merged into it. -/
theorem mem_foldl_put (h : e ∈ more.foldl put entries) : e ∈ entries ∨ e ∈ more := by
  induction more generalizing entries with
  | nil => exact .inl h
  | cons new more ih =>
    rcases ih h with h | h
    · exact (mem_put h).imp_right fun hnew => List.mem_cons.2 (.inl hnew)
    · exact .inr (List.mem_cons_of_mem _ h)

/-- The extensions of an entry that compiles start with a dot. -/
theorem isDotted_of_compile {c : CustomPattern} (h : c.compile = .ok e) :
    ∀ extension ∈ e.extensions, isDotted extension := by
  unfold CustomPattern.compile at h
  repeat' split at h
  all_goals cases h
  next hdotted =>
  exact fun extension hmem => by simpa using List.find?_eq_none.1 hdotted extension hmem

theorem exists_compile_of_mem {cs : List CustomPattern} (h : compileAll cs = .ok more)
    (he : e ∈ more) : ∃ c : CustomPattern, c.compile = .ok e := by
  obtain ⟨c, hc⟩ := exists_of_forall₂ (mapM_eq_ok_iff.1 h).flip e he
  exact ⟨c, mapError_eq_ok.1 hc⟩

/-- The extensions of the default registry start with a dot. -/
theorem isDotted_of_default :
    ∀ e ∈ default.entries, ∀ extension ∈ e.extensions, isDotted extension := by decide

/-- Every extension in a registry that is made of custom patterns starts with a dot. -/
theorem isDotted_of_withCustom {cs : List CustomPattern} (h : withCustom cs = .ok registry)
    (he : e ∈ registry.entries) : ∀ extension ∈ e.extensions, isDotted extension := by
  obtain ⟨more, hmore, rfl⟩ := exists_of_map_eq_ok h
  rcases mem_foldl_put he with he | he
  · exact isDotted_of_default e he
  · obtain ⟨c, hcompile⟩ := exists_compile_of_mem hmore he
    exact isDotted_of_compile hcompile

/-- Of the entries that list an extension one is the first. -/
theorem exists_firstToList (he : e ∈ registry.entries) (hmem : extension ∈ e.extensions) :
    ∃ first, registry.FirstToList extension first := by
  have hsome : (registry.forExtension? extension).isSome :=
    List.find?_isSome.2 ⟨e, he, List.contains_iff_mem.2 hmem⟩
  obtain ⟨first, hfirst⟩ := Option.isSome_iff_exists.1 hsome
  exact ⟨first, forExtension?_eq_some.1 hfirst⟩

/-- The first entry to list an extension is one that lists it. -/
theorem FirstToList.mem (h : registry.FirstToList extension e) :
    e ∈ registry.entries ∧ extension ∈ e.extensions := by
  obtain ⟨before, behind, hentries, hmem, -⟩ := h
  exact ⟨hentries ▸ List.mem_append_right before List.mem_cons_self, hmem⟩

end Registry

/-! ## The last dot -/

section LastDot

variable {before last : List Char} {extension : String}

/-- What stands behind the last dot is found from the end. -/
theorem takeWhile_reverse_append (hlast : '.' ∉ last) (before : List Char) :
    (before ++ '.' :: last).reverse.takeWhile (· != '.') = last.reverse := by
  have hreverse : (before ++ '.' :: last).reverse = last.reverse ++ '.' :: before.reverse := by simp
  have hall : ∀ c ∈ last.reverse, (c != '.') = true := fun c hc => by
    have hne : c ≠ '.' := by
      rintro rfl
      exact hlast (List.mem_reverse.1 hc)
    simpa using hne
  rw [hreverse, List.takeWhile_append_of_pos hall, List.takeWhile_cons_of_neg (by simp),
    List.append_nil]

/-- Behind a stem the extension of a name is what follows its last dot. -/
theorem Path.extensionOf?_append (hbefore : before ≠ []) (hlast : '.' ∉ last) :
    extensionOf? (before ++ '.' :: last) = some last := by
  have hlength : last.reverse.length + 1 < (before ++ '.' :: last).length := by
    have := List.length_pos_iff.2 hbefore
    simp only [List.length_reverse, List.length_append, List.length_cons]
    omega
  simp only [extensionOf?, takeWhile_reverse_append hlast, if_pos hlength, List.reverse_reverse]

/-- What begins at the last dot of an extension. -/
def lastDotted (extension : String) : String :=
  .ofList ('.' :: (extension.toList.reverse.takeWhile (· != '.')).reverse)

/-- The last dotted part of an extension starts at its last dot. -/
theorem lastDotted_eq (h : extension.toList = before ++ '.' :: last) (hlast : '.' ∉ last) :
    lastDotted extension = .ofList ('.' :: last) := by
  rw [lastDotted, h, takeWhile_reverse_append hlast, List.reverse_reverse]

theorem exists_cons_of_isDotted (h : isDotted extension) :
    ∃ rest, extension.toList = '.' :: rest := by
  rw [isDotted, beq_iff_eq] at h
  exact List.head?_eq_some_iff.1 h

/-- An extension with a dot has a last one. -/
theorem exists_last_of_isDotted (h : isDotted extension) :
    ∃ before last, extension.toList = before ++ '.' :: last ∧ '.' ∉ last := by
  obtain ⟨rest, hrest⟩ := exists_cons_of_isDotted h
  have hdot : '.' ∈ extension.toList.reverse := by simp [hrest]
  obtain ⟨last, before, hreverse, hlast⟩ := List.eq_append_cons_of_mem hdot
  refine ⟨before.reverse, last.reverse, ?_, by simpa using hlast⟩
  rw [← List.reverse_reverse extension.toList, hreverse]
  simp

/-- It is all of the extension only if that has no other dot. -/
theorem lastDotted_eq_self_iff (h : isDotted extension) :
    lastDotted extension = extension ↔ '.' ∉ extension.toList.tail := by
  obtain ⟨before, last, heq, hlast⟩ := exists_last_of_isDotted h
  rw [lastDotted_eq heq hlast, ← String.toList_inj, String.toList_ofList, heq]
  cases before with
  | nil => simpa using hlast
  | cons c before =>
    refine iff_of_false (fun hself => ?_) fun hnot => hnot (by simp)
    have hlength := congrArg List.length hself
    simp only [List.length_append, List.length_cons] at hlength
    omega

/-- What ends in an accepted extension, behind a stem, is known by the last dot in it. -/
theorem Scan.dottedExtension?_of_fileName? {p : Path} {stem : String} (hstem : stem ≠ "")
    (hdotted : isDotted extension) (h : p.fileName? = some (stem ++ extension).toList) :
    dottedExtension? p = some (lastDotted extension) := by
  obtain ⟨before, last, heq, hlast⟩ := exists_last_of_isDotted hdotted
  have hne : stem.toList ++ before ≠ [] := fun hnil =>
    hstem (String.toList_inj.1 (List.append_eq_nil_iff.1 hnil).1)
  have hname : (stem ++ extension).toList = (stem.toList ++ before) ++ '.' :: last := by
    rw [String.toList_append, heq, List.append_assoc]
  rw [dottedExtension?, Path.extension?, h, Option.bind_some, hname,
    Path.extensionOf?_append hne hlast, Option.map_some, lastDotted_eq heq hlast]

end LastDot

/-! ## Files in a scan -/

/-- Names lead from a path to what has a name: it is the last of them, or, if there are none, the
name in the path. -/
def Path.LeadsToName (root : Path) (names : List String) (name : String) : Prop :=
  names.getLast? = some name ∨ names = [] ∧ root.fileName? = some name.toList

/-- A path that goes down to a name ends in it. -/
theorem Path.LeadsToName.fileName?_descend {root : Path} {names : List String} {name : String}
    (h : root.LeadsToName names name) (hname : Path.IsName name) :
    (root.descend names).fileName? = some name.toList := by
  rcases h with h | ⟨rfl, h⟩
  · obtain ⟨inner, rfl⟩ := List.getLast?_eq_some_iff.1 h
    rw [descend, List.foldl_append]
    exact fileName?_join hname _
  · exact h

/-- A readable file with a name. The tree is as systems keep it: no directory has a name twice, and
the name is one that an entry can have. -/
structure FileSystem.HasFile (fs : FileSystem) (root : Path) (names : List String) (name : String)
    (bytes : Bytes) : Prop where
  distinct : fs.root.Distinct
  isName : Path.IsName name
  leads : root.LeadsToName names name
  isFile : fs.FileAt root names (.ok bytes)

/-- A scan comes to a file between others and leaves it to an entry, or to none. If there is one,
the file is counted once, and what the entry extracts from it is found behind the names in the
files before; both are noted. If not, nothing comes of the file. -/
def Scan.LeavesTo (fs : FileSystem) (registry : Registry) (debug : Bool) (root : Path) (s : Scan)
    (names : List String) (bytes : Bytes) (reader? : Option PatternEntry) : Prop :=
  ∃ before behind, (fs.walk root).notes = before ++ ⟨root.descend names, .ok bytes⟩ :: behind ∧
    s.files = (before.filter (claims registry)).length + (if reader?.isSome then 1 else 0) +
      (behind.filter (claims registry)).length ∧
    s.names.toList = (before.flatMap (namesIn registry) ++
      reader?.elim [] (fun e => e.extract (Utf8.decodeLossy bytes)) ++
      behind.flatMap (namesIn registry)).eraseDups ∧
    (scan fs registry debug root).notes =
      if debug then before.flatMap (notesAt registry) ++
        reader?.elim [] (fun e => FileRead.notes ⟨names, e, bytes⟩ root) ++
        behind.flatMap (notesAt registry)
      else []

/-- A scan that ends well leaves each readable file to the entry for it, if there is one. -/
theorem leavesTo_of_scan {fs : FileSystem} {registry : Registry} {debug : Bool} {root : Path}
    {s : Scan} (hfs : fs.root.Distinct) (h : (scan fs registry debug root).result = .ok s)
    {names : List String} {bytes : Bytes} (hfile : fs.FileAt root names (.ok bytes)) :
    Scan.LeavesTo fs registry debug root s names bytes
      (Scan.entryFor? registry (root.descend names)) := by
  obtain ⟨hwalk, hfold, hnotes⟩ := scan_eq_ok h
  obtain ⟨found, hvisits, hmem, -⟩ := FileSystem.exists_of_walk hfs hwalk
  obtain ⟨-, hfoldNotes, hfiles, hnames⟩ := Scan.foldlM_visit_eq_ok hfold
  have hvisit : ⟨root.descend names, .ok bytes⟩ ∈ (fs.walk root).notes := by
    rw [hvisits]
    exact List.mem_map.2 ⟨(names, .ok bytes), (hmem _).2 hfile, rfl⟩
  obtain ⟨before, behind, hsplit⟩ := List.append_of_mem hvisit
  rw [hsplit] at hfoldNotes hfiles hnames
  refine ⟨before, behind, hsplit, ?_, ?_, ?_⟩
  · rw [hfiles, List.filter_append, List.length_append, List.filter_cons]
    cases he : Scan.entryFor? registry (root.descend names) with
    | none => simp [Scan.claims, he]
    | some e =>
      simp only [Scan.claims, he, Option.isSome_some, if_true, List.length_cons]
      omega
  · rw [hnames, FoundNames.toList_insertAll, List.flatMap_append, List.flatMap_cons]
    cases he : Scan.entryFor? registry (root.descend names) <;> simp [Scan.namesIn, he]
  · rw [hnotes, hsplit, hfoldNotes, List.flatMap_append, List.flatMap_cons]
    cases he : Scan.entryFor? registry (root.descend names) <;>
      simp [Scan.notesAt, Scan.namesIn, he, FileRead.found, FileRead.notes]

/-- In every scan that ends well, each readable file whose name is a stem and an extension is left
to an entry, or to none. -/
def Registry.LeavesFilesTo (registry : Registry) (extension : String)
    (reader? : Option PatternEntry) : Prop :=
  ∀ (stem : String) (fs : FileSystem) (root : Path) (names : List String) (bytes : Bytes),
    stem ≠ "" → fs.HasFile root names (stem ++ extension) bytes →
      ∀ debug s, (scan fs registry debug root).result = .ok s →
        Scan.LeavesTo fs registry debug root s names bytes reader?

/-- What begins at the last dot of an accepted extension tells to which entry its files are left. -/
theorem Registry.leavesFilesTo_lastDotted (registry : Registry) {extension : String}
    (hdotted : isDotted extension) :
    registry.LeavesFilesTo extension (registry.forExtension? (lastDotted extension)) := by
  intro stem fs root names bytes hstem hfile debug s h
  have hentry : Scan.entryFor? registry (root.descend names) =
      registry.forExtension? (lastDotted extension) := by
    rw [Scan.entryFor?, Scan.dottedExtension?_of_fileName? hstem hdotted
      (hfile.leads.fileName?_descend hfile.isName)]
    rfl
  rw [← hentry]
  exact leavesTo_of_scan hfile.distinct h hfile.isFile

/-- In a registry that is made of custom patterns each extension with one dot is live: in every scan
that ends well each readable file whose name is a stem and the extension is read by the first entry
that lists it. An extension with more dots is not: such a file is left to the first entry that lists
what begins at the last dot, or to none. -/
theorem extension_with_one_dot_is_live {cs : List CustomPattern} {registry : Registry}
    (hregistry : Registry.withCustom cs = .ok registry) {entry : PatternEntry}
    (hentry : entry ∈ registry.entries) {extension : String}
    (hextension : extension ∈ entry.extensions) :
    ('.' ∉ extension.toList.tail → ∃ first, registry.FirstToList extension first ∧
        registry.LeavesFilesTo extension (some first)) ∧
      ('.' ∈ extension.toList.tail → lastDotted extension ≠ extension ∧
        registry.LeavesFilesTo extension (registry.forExtension? (lastDotted extension))) := by
  have hdotted := Registry.isDotted_of_withCustom hregistry hentry extension hextension
  have hself := lastDotted_eq_self_iff hdotted
  have hleaves := registry.leavesFilesTo_lastDotted hdotted
  constructor
  · intro hone
    obtain ⟨first, hfirst⟩ := Registry.exists_firstToList hentry hextension
    rw [hself.2 hone, Registry.forExtension?_eq_some.2 hfirst] at hleaves
    exact ⟨first, hfirst, hleaves⟩
  · intro hmore
    exact ⟨fun heq => hself.1 heq hmore, hleaves⟩

/-- A pattern for an extension with two dots. -/
def pagePatterns : List CustomPattern := [⟨"page", "v ([A-Z])", [".html.erb"]⟩]

/-- A file with this extension and references of two kinds. -/
def pageTree : FileSystem where
  root := .dir {} [("a.html.erb", .file (.ok (Utf8.encode "e A v B".toList)) false)]
  current := []

theorem hasFile_pageTree : pageTree.HasFile (.ofText ".") ["a.html.erb"] "a.html.erb"
    (Utf8.encode "e A v B".toList) where
  distinct := by simp [pageTree, Entry.Distinct, Entry.DistinctAll]
  isName := by decide
  leads := .inl rfl
  isFile := by
    have hroot : pageTree.resolve (.ofText ".") = .ok ⟨[], pageTree.root, 40⟩ := by cbv
    exact .below hroot (.file List.mem_cons_self rfl rfl)

set_option maxRecDepth 2000 in
/-- The extension is accepted, and its entry finds a name in the file, but the file is not read. -/
theorem extension_with_two_dots_is_dead :
    ∃ registry e s, Registry.withCustom pagePatterns = .ok registry ∧
      registry.FirstToList ".html.erb" e ∧
      pageTree.HasFile (.ofText ".") ["a.html.erb"] ("a" ++ ".html.erb")
        (Utf8.encode "e A v B".toList) ∧
      e.extract "e A v B".toList = ["B"] ∧
      (scan pageTree registry false (.ofText ".")).result = .ok s ∧ s.files = 0 ∧
      s.names.toList = [] := by
  have hentry : (Registry.withCustom pagePatterns).map (fun r =>
      (r.forExtension? ".html.erb").map fun e => e.extract "e A v B".toList) =
        .ok (some ["B"]) := by cbv
  have hscan : ((Registry.withCustom pagePatterns).toOption.map fun r =>
      (scan pageTree r false (.ofText ".")).result.map fun s => (s.files, s.names.toList)) =
        some (.ok (0, [])) := by cbv
  obtain ⟨registry, hregistry, hfirst⟩ := exists_of_map_eq_ok hentry
  obtain ⟨e, he, hextract⟩ := Option.map_eq_some_iff.1 hfirst
  rw [hregistry] at hscan
  obtain ⟨s, hs, hresult⟩ := exists_of_map_eq_ok (Option.some.inj hscan)
  obtain ⟨hfiles, hnames⟩ := Prod.mk.inj hresult
  exact ⟨registry, e, s, hregistry, Registry.forExtension?_eq_some.1 he, hasFile_pageTree, hextract,
    hs, hfiles, hnames⟩

/-- A pattern for the second of the two dots beside that for both. -/
def erbPatterns : List CustomPattern := ⟨"erb", "e ([A-Z])", [".erb"]⟩ :: pagePatterns

set_option maxRecDepth 2000 in
/-- With both patterns the file is read by the entry for `.erb`, whichever stem its name is taken to
have. -/
theorem extension_with_one_dot_is_live_pageTree :
    ∃ registry s first, Registry.withCustom erbPatterns = .ok registry ∧
      (scan pageTree registry true (.ofText ".")).result = .ok s ∧
      registry.FirstToList ".erb" first ∧
      Scan.LeavesTo pageTree registry true (.ofText ".") s ["a.html.erb"]
        (Utf8.encode "e A v B".toList) (some first) ∧
      Scan.LeavesTo pageTree registry true (.ofText ".") s ["a.html.erb"]
        (Utf8.encode "e A v B".toList) (registry.forExtension? ".erb") ∧
      s.files = 1 ∧ s.names.toList = ["A"] := by
  have hentries : (Registry.withCustom erbPatterns).map (fun r =>
      ((r.forExtension? ".erb").map PatternEntry.tag,
        (r.forExtension? ".html.erb").map PatternEntry.tag)) =
          .ok (some "erb", some "page") := by cbv
  have hscan : ((Registry.withCustom erbPatterns).toOption.map fun r =>
      (scan pageTree r true (.ofText ".")).result.map fun s => (s.files, s.names.toList)) =
        some (.ok (1, ["A"])) := by cbv
  obtain ⟨registry, hregistry, htags⟩ := exists_of_map_eq_ok hentries
  obtain ⟨herb, hpage⟩ := Prod.mk.inj htags
  obtain ⟨e, he, -⟩ := Option.map_eq_some_iff.1 herb
  obtain ⟨f, hf, -⟩ := Option.map_eq_some_iff.1 hpage
  rw [hregistry] at hscan
  obtain ⟨s, hs, hresult⟩ := exists_of_map_eq_ok (Option.some.inj hscan)
  obtain ⟨hfiles, hnames⟩ := Prod.mk.inj hresult
  obtain ⟨hmem, hlists⟩ := (Registry.forExtension?_eq_some.1 he).mem
  obtain ⟨hmem', hlists'⟩ := (Registry.forExtension?_eq_some.1 hf).mem
  obtain ⟨first, hfirst, hlive⟩ :=
    (extension_with_one_dot_is_live hregistry hmem hlists).1 (by decide)
  obtain ⟨-, hleft⟩ := (extension_with_one_dot_is_live hregistry hmem' hlists').2 (by decide)
  have hlast : lastDotted ".html.erb" = ".erb" := by decide
  refine ⟨registry, s, first, hregistry, hs, hfirst, ?_, ?_, hfiles, hnames⟩
  · exact hlive "a.html" _ _ _ _ (by decide) hasFile_pageTree true s hs
  · rw [← hlast]
    exact hleft "a" _ _ _ _ (by decide) hasFile_pageTree true s hs

end EnvAudit
