import EnvAudit.Check
import EnvAudit.Proofs.Scan
import EnvAudit.Proofs.Traced.Like

/-!
# EnvAudit.Proofs.Debugging

What the notes for debugging change, and what they tell:

1. with them and without them a file is scanned with the same outcome (`Scan.visit_quieted`), and so
   is a project (`scan_quieted`); loading declarations never makes such notes (`load_quieted`);
2. the notes of a scan name the files that it reads, with the entries by which they are read, and
   the variables that it finds (`toldBy_scan`).

Main statement: notes for debugging change neither results nor other notes, and they tell what was
scanned (`debugging_tells_and_changes_nothing`).
-/

namespace EnvAudit

/-! ## Notes for debugging -/

namespace Event

/-- The file that is scanned by what a note says, and the tag of the entry for it. -/
def scanned? : Event → Option (Path × String)
  | .scanningFile file tag => some (file, tag)
  | _ => none

/-- The variable that is found by what a note says. -/
def found? : Event → Option String
  | .foundVariable name _ => some name
  | _ => none

end Event

variable {α β : Type}

/-- A computation with notes for debugging, and one without: both end in the same way, and what the
second one notes are the other notes of the first. -/
structure Traced.SameButDebugging (loud quiet : Traced Event CheckError α) : Prop where
  result : loud.result = quiet.result
  silent : ∀ e ∈ quiet.notes, e.level ≠ .debug
  others : quiet.notes = loud.notes.filter fun e => e.level ≠ .debug

/-- Computations that differ in notes for debugging at most, which only the first one makes. -/
abbrev Traced.Quieted : Traced Event CheckError α → Traced Event CheckError α → Prop :=
  Like (fun e => e.level ≠ .debug) (fun _ => true) (· = ·) (· = ·) (· = ·)

namespace Traced.Quieted

variable {loud quiet : Traced Event CheckError α}

theorem same (h : loud.Quieted quiet) : loud.SameButDebugging quiet := by
  have hnotes : quiet.notes = loud.notes.filter fun e => e.level ≠ .debug := by
    simpa only [List.forall₂_eq_eq_eq, List.filter_true, eq_comm] using h.notes
  refine ⟨Ends.eq.1 h.result, fun e he => ?_, hnotes⟩
  rw [hnotes] at he
  simpa using (List.mem_filter.1 he).2

/-- A computation without notes for debugging is its own quiet form. -/
theorem refl {x : Traced Event CheckError α} (h : ∀ e ∈ x.notes, e.level ≠ .debug) :
    x.Quieted x := by
  refine ⟨?_, Ends.eq.2 rfl⟩
  rw [List.forall₂_eq_eq_eq, List.filter_true, List.filter_eq_self]
  simpa using h

theorem bind {f g : α → Traced Event CheckError β} (h : loud.Quieted quiet)
    (hf : ∀ a, (f a).Quieted (g a)) : (loud >>= f).Quieted (quiet >>= g) :=
  Like.bind_eq h hf

theorem noteIf {e : Event} (h : e.level = .debug) :
    (Traced.noteIf true e).Quieted (Traced.noteIf false e) :=
  ⟨by simp [Traced.noteIf, Traced.note, h], .ok rfl⟩

end Traced.Quieted

/-! ## Two runs -/

/-- Debugging one file adds events and changes nothing else. -/
theorem Scan.visit_quieted (registry : Registry) (s : Scan) (v : Visit) :
    (visit registry true s v).Quieted (visit registry false s v) := by
  obtain ⟨path, content⟩ := v
  cases he : entryFor? registry path with
  | none =>
    rw [visit_of_none he, visit_of_none he]
    exact .pure rfl
  | some e =>
    cases content with
    | error f =>
      rw [visit_of_error he, visit_of_error he]
      exact ⟨by simp [Event.level], .error rfl⟩
    | ok bytes =>
      rw [visit_of_ok he, visit_of_ok he]
      exact ⟨by simp [notesAt, he, Event.level], .ok rfl⟩

/-- Debugging a scan adds events and changes nothing else. -/
theorem scan_quieted (fs : FileSystem) (registry : Registry) (root : Path) :
    (scan fs registry true root).Quieted (scan fs registry false root) := by
  refine Traced.Quieted.bind (.foldlM (List.forall₂_same.2 fun v _ => rfl) ?_ rfl) fun s => ?_
  · rintro s _ v _ rfl rfl
    exact Scan.visit_quieted registry s v
  · cases (fs.walk root).result with
    | ok u => exact .pure rfl
    | error b => exact .fail rfl

/-- Loading declarations notes which lines are skipped, and nothing else. -/
theorem exists_skippedLine_of_mem_load {fs : FileSystem} {source : Source} {e : Event}
    (h : e ∈ (source.load fs).notes) : ∃ line, e = .skippedLine line := by
  cases source with
  | mapping vars => cases h
  | file path =>
    rcases Traced.mem_notes_bind h with hkind | ⟨kind, -, h⟩
    · cases hkind
    rcases Traced.mem_notes_bind h with htext | ⟨text, -, h⟩
    · cases htext
    cases kind with
    | json => cases h
    | dotenv =>
      obtain ⟨line, -, rfl⟩ := List.mem_map.1 h
      exact ⟨line, rfl⟩

/-- Loading declarations tells nothing at debug level. -/
theorem load_quieted (fs : FileSystem) (source : Source) :
    (source.load fs).Quieted (source.load fs) := by
  refine .refl fun e he => ?_
  obtain ⟨line, rfl⟩ := exists_skippedLine_of_mem_load he
  exact Level.noConfusion

variable (fs : FileSystem) (source : Source) (project : Path) (custom : List CustomPattern)

/-- Debugging a check adds events and changes nothing else. -/
theorem check_quieted :
    (check fs source project ⟨true, custom⟩).Quieted (check fs source project ⟨false, custom⟩) := by
  refine .bind (.noteIf rfl) fun _ => .bind (.refl (by simp [Traced.ofExcept])) fun registry => ?_
  refine .bind (load_quieted fs source) fun declared => .bind (.noteIf rfl) fun _ => ?_
  refine .bind (scan_quieted fs registry project) fun s => ?_
  cases missing declared s.names with
  | nil => exact .pure rfl
  | cons name names => exact .fail rfl

/-- Debugging a listing adds events and changes nothing else. -/
theorem environments_quieted :
    (environments fs project ⟨true, custom⟩).Quieted (environments fs project ⟨false, custom⟩) :=
  .bind (.noteIf rfl) fun _ => .bind (.refl (by simp [Traced.ofExcept])) fun registry =>
    .bind (scan_quieted fs registry project) fun _ => .pure rfl

/-! ## What the notes tell -/

/-- The file of a visit, and the tag of the entry that a registry has for it. -/
def Scan.claimed? (registry : Registry) (v : Visit) : Option (Path × String) :=
  (entryFor? registry v.path).map fun e => (v.path, e.tag)

/-- Notes tell what a scan made of visits: the files that it counts are noted in the order of the
visits, each with the tag of its entry, and the names that it finds are those that are noted, each
where it comes first. -/
structure Scan.ToldBy (registry : Registry) (visits : List Visit) (s : Scan) (notes : List Event) :
    Prop where
  files : notes.filterMap Event.scanned? = visits.filterMap (claimed? registry)
  count : (notes.filterMap Event.scanned?).length = s.files
  names : (notes.filterMap Event.found?).eraseDups = s.names.toList

namespace Scan

variable {registry : Registry}

/-- The notes at a visit tell that the file was scanned if an entry claims it. -/
theorem filterMap_scanned?_notesAt (v : Visit) :
    (notesAt registry v).filterMap Event.scanned? = (claimed? registry v).toList := by
  unfold notesAt claimed?
  cases entryFor? registry v.path with
  | none => rfl
  | some e => simp [Event.scanned?, List.filterMap_map, Function.comp_def]

/-- The notes at a visit tell each name found there. -/
theorem filterMap_found?_notesAt (v : Visit) :
    (notesAt registry v).filterMap Event.found? = namesIn registry v := by
  unfold notesAt
  cases he : entryFor? registry v.path with
  | none => simp [namesIn, he]
  | some e =>
    rw [List.filterMap_cons_none rfl, List.filterMap_map]
    exact List.filterMap_some

/-- Notes that come before those of a scan and are not about files tell nothing else of it. -/
theorem ToldBy.append {visits : List Visit} {s : Scan} {before notes : List Event}
    (h : s.ToldBy registry visits notes)
    (hbefore : ∀ e ∈ before, e.scanned? = none ∧ e.found? = none) :
    s.ToldBy registry visits (before ++ notes) := by
  have hscanned : before.filterMap Event.scanned? = [] :=
    List.filterMap_eq_nil_iff.2 fun e he => (hbefore e he).1
  have hfound : before.filterMap Event.found? = [] :=
    List.filterMap_eq_nil_iff.2 fun e he => (hbefore e he).2
  obtain ⟨hfiles, hcount, hnames⟩ := h
  refine ⟨?_, ?_, ?_⟩
  · rwa [List.filterMap_append, hscanned, List.nil_append]
  · rwa [List.filterMap_append, hscanned, List.nil_append]
  · rwa [List.filterMap_append, hfound, List.nil_append]

end Scan

/-- The notes of a scan tell what it did. -/
theorem toldBy_scan {fs : FileSystem} {registry : Registry} {root : Path} {s : Scan}
    (h : (scan fs registry true root).result = .ok s) :
    s.ToldBy registry (fs.walk root).notes (scan fs registry true root).notes := by
  obtain ⟨-, hfold, hnotes⟩ := scan_eq_ok h
  obtain ⟨-, hfoldNotes, hfiles, hnames⟩ := Scan.foldlM_visit_eq_ok hfold
  have hscanned : (scan fs registry true root).notes.filterMap Event.scanned? =
      (fs.walk root).notes.filterMap (Scan.claimed? registry) := by
    simp only [hnotes, hfoldNotes, if_true, List.filterMap_flatMap, Scan.filterMap_scanned?_notesAt]
    exact (List.filterMap_eq_flatMap_toList _ _).symm
  refine ⟨hscanned, ?_, ?_⟩
  · rw [hscanned, hfiles, List.length_filterMap_eq_countP, ← List.countP_eq_length_filter,
      Nat.zero_add]
    exact List.countP_congr fun v _ => by simp [Scan.claimed?, Scan.claims]
  · rw [hnotes, hfoldNotes, hnames, FoundNames.toList_insertAll]
    simp only [if_true, List.filterMap_flatMap, Scan.filterMap_found?_notesAt]
    rfl

section

variable {fs source project custom} {registry : Registry} {s : Scan}

theorem registry_eq_ok (h : Registry.withCustom custom = .ok registry) (debug : Bool) :
    ScanOptions.registry ⟨debug, custom⟩ = .ok registry := by
  rw [ScanOptions.registry, h]
  rfl

/-- The notes of a listing tell what its scan did. -/
theorem toldBy_environments (hregistry : Registry.withCustom custom = .ok registry)
    (hscan : (scan fs registry true project).result = .ok s) :
    s.ToldBy registry (fs.walk project).notes
      (environments fs project ⟨true, custom⟩).notes := by
  have hnotes : (environments fs project ⟨true, custom⟩).notes =
      [.scanningProject project] ++ (scan fs registry true project).notes := by
    rw [environments, Traced.bind_of_ok (a := ()) rfl,
      Traced.bind_of_ok (registry_eq_ok hregistry true), Traced.bind_of_ok hscan]
    simp [Traced.noteIf, Traced.note, Traced.ofExcept]
  rw [hnotes]
  refine (toldBy_scan hscan).append fun e he => ?_
  obtain rfl := List.mem_singleton.1 he
  exact ⟨rfl, rfl⟩

/-- The notes of a check tell what its scan did. -/
theorem toldBy_check {declared : Variables} (hregistry : Registry.withCustom custom = .ok registry)
    (hload : (source.load fs).result = .ok declared)
    (hscan : (scan fs registry true project).result = .ok s) :
    s.ToldBy registry (fs.walk project).notes
      (check fs source project ⟨true, custom⟩).notes := by
  have hnotes : (check fs source project ⟨true, custom⟩).notes =
      (.checking source.describe project :: (source.load fs).notes ++
        [.loadedDeclarations declared.size]) ++ (scan fs registry true project).notes := by
    rw [check, Traced.bind_of_ok (a := ()) rfl,
      Traced.bind_of_ok (registry_eq_ok hregistry true), Traced.bind_of_ok hload,
      Traced.bind_of_ok (a := ()) rfl, Traced.bind_of_ok hscan]
    cases missing declared s.names <;>
      simp [Traced.noteIf, Traced.note, Traced.ofExcept, Traced.fail]
  rw [hnotes]
  refine (toldBy_scan hscan).append fun e he => ?_
  simp only [List.cons_append, List.mem_cons, List.mem_append, List.not_mem_nil, or_false] at he
  rcases he with rfl | he | rfl
  · exact ⟨rfl, rfl⟩
  · obtain ⟨line, rfl⟩ := exists_skippedLine_of_mem_load he
    exact ⟨rfl, rfl⟩
  · exact ⟨rfl, rfl⟩

end

/-! ## Debugging -/

/-- Whether notes are made for debugging changes nothing else: a check and a scan of a project end
in the same way, whatever the source, the project and the custom patterns are, and all other notes
are the same; without debugging no such note is made. With it, once the project is scanned, there is
one note for each file counted, in the order of the walk and with the tag of the entry by which the
file was read, and the variables noted are those that were found. -/
theorem debugging_tells_and_changes_nothing :
    (check fs source project ⟨true, custom⟩).SameButDebugging
        (check fs source project ⟨false, custom⟩) ∧
      (environments fs project ⟨true, custom⟩).SameButDebugging
        (environments fs project ⟨false, custom⟩) ∧
      ∀ registry s, Registry.withCustom custom = .ok registry →
        (scan fs registry true project).result = .ok s →
          s.ToldBy registry (fs.walk project).notes
              (environments fs project ⟨true, custom⟩).notes ∧
            ∀ declared, (source.load fs).result = .ok declared →
              s.ToldBy registry (fs.walk project).notes
                (check fs source project ⟨true, custom⟩).notes :=
  ⟨(check_quieted fs source project custom).same, (environments_quieted fs project custom).same,
    fun _ _ hregistry hscan => ⟨toldBy_environments hregistry hscan,
      fun _ hload => toldBy_check hregistry hload hscan⟩⟩

/-- Two files of different kinds, with repeated names, and one that no entry claims. -/
def twoKindsTree : FileSystem where
  root := .dir {} [
    ("a.js", .file (.ok (Utf8.encode "process.env.B; process.env.A; process.env.B".toList)) false),
    ("b.cs", .file (.ok (Utf8.encode "GetEnvironmentVariable(\"A\")".toList)) false),
    ("c.txt", .file (.ok (Utf8.encode "process.env.C".toList)) false)]
  current := []

theorem debugging_tells_and_changes_nothing_twoKindsTree :
    ∃ s, (scan twoKindsTree .default true (.ofText ".")).result = .ok s ∧ s.files = 2 ∧
      s.names.toList = ["B", "A"] ∧
      s.ToldBy .default (twoKindsTree.walk (.ofText ".")).notes
        (environments twoKindsTree (.ofText ".") ⟨true, []⟩).notes ∧
      s.ToldBy .default (twoKindsTree.walk (.ofText ".")).notes
        (check twoKindsTree (.mapping ∅) (.ofText ".") ⟨true, []⟩).notes := by
  have hresult : (scan twoKindsTree .default true (.ofText ".")).result.map
      (fun s => (s.files, s.names.toList)) = .ok (2, ["B", "A"]) := by cbv
  obtain ⟨s, hscan, hs⟩ := exists_of_map_eq_ok hresult
  obtain ⟨hfiles, hnames⟩ := Prod.mk.inj hs
  obtain ⟨-, -, htold⟩ :=
    debugging_tells_and_changes_nothing twoKindsTree (.mapping ∅) (.ofText ".") []
  obtain ⟨henvironments, hcheck⟩ := htold .default s rfl hscan
  exact ⟨s, hscan, hfiles, hnames, henvironments, hcheck ∅ rfl⟩

end EnvAudit
