import EnvAudit.Proofs.Scan
import EnvAudit.Registry.Basic

/-!
# EnvAudit.Proofs.Registry.Additions

What more custom patterns do to a registry:

1. an entry with a new tag is put in behind all others, and what is put in with it afterwards
   changes none of them (`foldl_put_append`);
2. so patterns with new tags leave the entries of a registry as they are, and come behind them
   (`withCustom_append`);
3. in a registry that others extend, an entry that is the first for an extension stays so, and a
   scan reads each file by the same entry as before, if it had one (`Extends.entryFor?`).

Main statement: with patterns under new tags added, each extension keeps its entry, and a scan finds
all that it found before (`added_patterns_lose_nothing`).
-/

namespace EnvAudit

namespace Registry

/-! ## Tags -/

/-- The tags of entries. -/
def tags (entries : List PatternEntry) : List String := entries.map PatternEntry.tag

variable {entries more : List PatternEntry} {new : PatternEntry}

/-- Putting an entry adds its tag. -/
theorem mem_tags_put {tag : String} : tag ∈ tags (put entries new) ↔
    tag ∈ tags entries ∨ tag = new.tag := by
  induction entries with
  | nil => simp [put, tags]
  | cons e entries ih =>
    unfold put
    split
    · next htag =>
      simp only [tags, List.map_cons, List.mem_cons, htag]
      tauto
    · simp only [tags, List.map_cons, List.mem_cons] at ih ⊢
      rw [ih, or_assoc]

theorem mem_tags_foldl_put {tag : String} : tag ∈ tags (more.foldl put entries) ↔
    tag ∈ tags entries ∨ tag ∈ tags more := by
  induction more generalizing entries with
  | nil => simp [tags]
  | cons new more ih =>
    rw [List.foldl_cons, ih, mem_tags_put, or_assoc]
    simp [tags]

/-! ## Entries with new tags -/

/-- An entry whose tag is not among the first entries is put behind them. -/
theorem put_append (h : new.tag ∉ tags entries) (behind : List PatternEntry) :
    put (entries ++ behind) new = entries ++ put behind new := by
  induction entries with
  | nil => rfl
  | cons e entries ih =>
    obtain ⟨hne, htags⟩ := not_or.1 fun hmem => h (List.mem_cons.2 hmem)
    rw [List.cons_append, put, if_neg (Ne.symm hne), ih htags, List.cons_append]

/-- Entries with new tags are put in behind the others, in whatever way they replace each other. -/
theorem foldl_put_append (h : ∀ tag ∈ tags more, tag ∉ tags entries)
    (behind : List PatternEntry) :
    more.foldl put (entries ++ behind) = entries ++ more.foldl put behind := by
  induction more generalizing behind with
  | nil => rfl
  | cons new more ih =>
    rw [List.foldl_cons, put_append (h _ (List.mem_cons_self ..)),
      ih fun tag htag => h tag (List.mem_cons_of_mem _ htag), List.foldl_cons]

/-! ## Custom patterns -/

/-- An entry has the tag of the pattern it was compiled from. -/
theorem tag_of_compile {c : CustomPattern} {e : PatternEntry} (h : c.compile = .ok e) :
    e.tag = c.tag := by
  unfold CustomPattern.compile at h
  repeat' split at h
  all_goals cases h
  rfl

theorem compileAll_cons {c : CustomPattern} {e : PatternEntry} (h : c.compile = .ok e)
    (cs : List CustomPattern) : compileAll (c :: cs) = (compileAll cs).map (e :: ·) := by
  rw [compileAll, List.mapM_cons, h]
  rfl

/-- Patterns that can all be used make entries under their tags. -/
theorem exists_compileAll {cs : List CustomPattern} (h : ∀ c ∈ cs, ∃ e, c.compile = .ok e) :
    ∃ es, compileAll cs = .ok es ∧ tags es = cs.map CustomPattern.tag := by
  induction cs with
  | nil => exact ⟨[], rfl, rfl⟩
  | cons c cs ih =>
    obtain ⟨e, he⟩ := h c (List.mem_cons_self ..)
    obtain ⟨es, hes, htags⟩ := ih fun d hd => h d (List.mem_cons_of_mem _ hd)
    refine ⟨e :: es, ?_, ?_⟩
    · rw [compileAll_cons he, hes]
      rfl
    · simpa [tags, tag_of_compile he] using htags

/-- Patterns that compile in two lots compile together. -/
theorem compileAll_append {cs ds : List CustomPattern} {es fs : List PatternEntry}
    (hc : compileAll cs = .ok es) (hd : compileAll ds = .ok fs) :
    compileAll (cs ++ ds) = .ok (es ++ fs) := by
  unfold compileAll at hc hd ⊢
  rw [List.mapM_append, hc, hd]
  rfl

/-- A registry whose entries are those of another one with others behind them. -/
def Extends (r r' : Registry) : Prop := ∃ behind, r'.entries = r.entries ++ behind

/-- More patterns with new tags extend a registry. -/
theorem withCustom_append {cs ds : List CustomPattern}
    (hcompile : ∀ c ∈ cs ++ ds, ∃ e, c.compile = .ok e)
    (hnew : ∀ d ∈ ds, d.tag ∉ tags default.entries ∧ ∀ c ∈ cs, c.tag ≠ d.tag) :
    ∃ r r', withCustom cs = .ok r ∧ withCustom (cs ++ ds) = .ok r' ∧ r.Extends r' := by
  obtain ⟨es, hes, hestags⟩ := exists_compileAll fun c hc => hcompile c (List.mem_append_left _ hc)
  obtain ⟨fs, hfs, hfstags⟩ := exists_compileAll fun c hc => hcompile c (List.mem_append_right _ hc)
  refine ⟨default.merge es, default.merge (es ++ fs), ?_, ?_, fs.foldl put [], ?_⟩
  · rw [withCustom, hes]
    rfl
  · rw [withCustom, compileAll_append hes hfs]
    rfl
  · have htags : ∀ tag ∈ tags fs, tag ∉ tags (es.foldl put default.entries) := by
      intro tag htag hold
      rw [hfstags] at htag
      obtain ⟨d, hd, rfl⟩ := List.mem_map.1 htag
      obtain ⟨hdefault, hcustom⟩ := hnew d hd
      rcases mem_tags_foldl_put.1 hold with hold | hold
      · exact hdefault hold
      · rw [hestags] at hold
        obtain ⟨c, hc, htag⟩ := List.mem_map.1 hold
        exact hcustom c hc htag
    have happend := foldl_put_append htags []
    rw [List.append_nil] at happend
    rw [merge, merge, List.foldl_append, happend]

/-! ## Registries that extend others -/

variable {r r' : Registry}

/-- More entries behind take no extension away. -/
theorem Extends.forExtension? (h : r.Extends r') {extension : String} {e : PatternEntry}
    (he : r.forExtension? extension = some e) : r'.forExtension? extension = some e := by
  obtain ⟨behind, hentries⟩ := h
  rw [Registry.forExtension?] at he ⊢
  rw [hentries, List.find?_append, he, Option.some_or]

theorem Extends.entryFor? (h : r.Extends r') {path : Path} {e : PatternEntry}
    (he : Scan.entryFor? r path = some e) : Scan.entryFor? r' path = some e := by
  obtain ⟨extension, hextension, he⟩ := Option.bind_eq_some_iff.1 he
  exact Option.bind_eq_some_iff.2 ⟨extension, hextension, h.forExtension? he⟩

/-- A file that is claimed stays so. -/
theorem Extends.claims (h : r.Extends r') {v : Visit} (hv : Scan.claims r v) :
    Scan.claims r' v := by
  obtain ⟨e, he⟩ := Option.isSome_iff_exists.1 hv
  exact Option.isSome_of_eq_some (h.entryFor? he)

/-- The names found in a file are found with more entries too. -/
theorem Extends.namesIn_subset (h : r.Extends r') (v : Visit) :
    Scan.namesIn r v ⊆ Scan.namesIn r' v := by
  unfold Scan.namesIn
  cases he : Scan.entryFor? r v.path with
  | none => exact List.nil_subset _
  | some e =>
    rw [h.entryFor? he]
    exact List.Subset.refl _

/-- With a registry that extends another one, a scan reads no less and finds no less. -/
theorem Extends.scan_mono (h : r.Extends r') {fs : FileSystem} {debug debug' : Bool} {root : Path}
    {s s' : Scan} (hs : (scan fs r debug root).result = .ok s)
    (hs' : (scan fs r' debug' root).result = .ok s') :
    s.names.toList ⊆ s'.names.toList ∧ s.files ≤ s'.files := by
  obtain ⟨-, hfold, -⟩ := scan_eq_ok hs
  obtain ⟨-, hfold', -⟩ := scan_eq_ok hs'
  obtain ⟨-, -, hfiles, hnames⟩ := Scan.foldlM_visit_eq_ok hfold
  obtain ⟨-, -, hfiles', hnames'⟩ := Scan.foldlM_visit_eq_ok hfold'
  refine ⟨fun name hname => ?_, ?_⟩
  · rw [hnames, FoundNames.mem_toList_insertAll] at hname
    rw [hnames', FoundNames.mem_toList_insertAll]
    refine hname.imp_right fun hname => ?_
    obtain ⟨v, hv, hin⟩ := List.mem_flatMap.1 hname
    exact List.mem_flatMap.2 ⟨v, hv, h.namesIn_subset v hin⟩
  · rw [hfiles, hfiles', ← List.countP_eq_length_filter, ← List.countP_eq_length_filter]
    exact Nat.add_le_add_left (List.countP_mono_left fun v _ => h.claims) _

end Registry

/-! ## More patterns -/

/-- Custom patterns that come behind others under new tags lose nothing, whatever extensions they
are for and however often tags are repeated: every extension that had an entry keeps it, and when a
scan ends well with the first patterns and with all of them, what was found is found again and no
fewer files are read. -/
theorem added_patterns_lose_nothing {cs ds : List CustomPattern}
    (hcompile : ∀ c ∈ cs ++ ds, ∃ e, c.compile = .ok e)
    (hnew : ∀ d ∈ ds, (∀ e ∈ Registry.default.entries, e.tag ≠ d.tag) ∧ ∀ c ∈ cs, c.tag ≠ d.tag) :
    ∃ r r', Registry.withCustom cs = .ok r ∧ Registry.withCustom (cs ++ ds) = .ok r' ∧
      (∀ extension e, r.forExtension? extension = some e →
        r'.forExtension? extension = some e) ∧
      ∀ fs debug root s s', (scan fs r debug root).result = .ok s →
        (scan fs r' debug root).result = .ok s' →
          (∀ name ∈ s.names.toList, name ∈ s'.names.toList) ∧ s.files ≤ s'.files := by
  obtain ⟨r, r', hr, hr', hextends⟩ := Registry.withCustom_append hcompile fun d hd =>
    ⟨fun hmem => by
      obtain ⟨e, he, htag⟩ := List.mem_map.1 hmem
      exact (hnew d hd).1 e he htag, (hnew d hd).2⟩
  exact ⟨r, r', hr, hr', fun _ _ => hextends.forExtension?,
    fun _ _ _ _ _ hs hs' => hextends.scan_mono hs hs'⟩

/-- Patterns of which the second takes the place of the first. -/
def shellPatterns : List CustomPattern := [⟨"sh", "x()", [".sh"]⟩, ⟨"sh", "e ([A-Z])", [".sh"]⟩]

/-- Patterns under a new tag, also for an extension that has an entry. -/
def makePatterns : List CustomPattern :=
  [⟨"mk", "x()", [".mk"]⟩, ⟨"mk", "v ([A-Z])", [".sh", ".mk"]⟩]

/-- A file with a reference that only the patterns under the new tag recognise, and one with both
kinds of references. -/
def scriptsTree : FileSystem where
  root := .dir {} [
    ("a.mk", .file (.ok (Utf8.encode "v A".toList)) false),
    ("b.sh", .file (.ok (Utf8.encode "e B v C".toList)) false)]
  current := []

set_option maxRecDepth 2000 in
theorem added_patterns_lose_nothing_scriptsTree :
    ∃ r r', Registry.withCustom shellPatterns = .ok r ∧
      Registry.withCustom (shellPatterns ++ makePatterns) = .ok r' ∧
      (r'.forExtension? ".sh").map PatternEntry.tag = some "sh" ∧
      ∃ s s', (scan scriptsTree r false (.ofText ".")).result = .ok s ∧
        (scan scriptsTree r' false (.ofText ".")).result = .ok s' ∧ s.names.toList = ["B"] ∧
        s'.names.toList = ["A", "B"] ∧ (∀ name ∈ s.names.toList, name ∈ s'.names.toList) := by
  have hcompile : (shellPatterns ++ makePatterns).all (fun c => c.compile.toBool) := by cbv
  have hnew : ∀ d ∈ makePatterns, (∀ e ∈ Registry.default.entries, e.tag ≠ d.tag) ∧
      ∀ c ∈ shellPatterns, c.tag ≠ d.tag := by
    simp [makePatterns, shellPatterns, Registry.default, Registry.javascript, Registry.dotnet,
      Registry.flutter]
  have hshell : (Registry.withCustom shellPatterns).map (fun r =>
      (r.forExtension? ".sh").map PatternEntry.tag) = .ok (some "sh") := by cbv
  have hscan : ((Registry.withCustom shellPatterns).toOption.map fun r =>
      (scan scriptsTree r false (.ofText ".")).result.map fun s => s.names.toList) =
        some (.ok ["B"]) := by cbv
  have hscan' : ((Registry.withCustom (shellPatterns ++ makePatterns)).toOption.map fun r =>
      (scan scriptsTree r false (.ofText ".")).result.map fun s => s.names.toList) =
        some (.ok ["A", "B"]) := by cbv
  obtain ⟨r, r', hr, hr', hkeeps, hscans⟩ := added_patterns_lose_nothing (fun c hc => by
    have hc := List.all_eq_true.1 hcompile c hc
    cases h : c.compile with
    | error f => simp [h, Except.toBool] at hc
    | ok e => exact ⟨e, rfl⟩) hnew
  rw [hr] at hscan hshell
  rw [hr'] at hscan'
  obtain ⟨e, he, htag⟩ := Option.map_eq_some_iff.1 (Except.ok.inj hshell)
  obtain ⟨s, hs, hnames⟩ := exists_of_map_eq_ok (Option.some.inj hscan)
  obtain ⟨s', hs', hnames'⟩ := exists_of_map_eq_ok (Option.some.inj hscan')
  exact ⟨r, r', hr, hr', by rw [hkeeps _ e he, Option.map_some, htag], s, s', hs, hs', hnames,
    hnames', (hscans _ _ _ s s' hs hs').1⟩

end EnvAudit
