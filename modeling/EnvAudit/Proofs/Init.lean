import EnvAudit.Proofs.Commands
import EnvAudit.Proofs.Config
import EnvAudit.Proofs.Files.Made

/-!
# EnvAudit.Proofs.Init

Making a config file:

1. a command that looks at projects changes nothing, and `init` makes one file or changes nothing
   (`Command.run_init`), so that no sequence of such commands changes a file (`keeps_runAll`); where
   there is no room for the text, only the first part of it is in the file;
2. a project from which no config file was found is still scanned without patterns of its own
   (`options?_gains`), with the same outcome (`check_gains`, `scan_gains`).

Main statement: `init` overwrites nothing, and where it makes a file, checks and scans of projects
without a config file go on as before (`init_keeps_files_and_results`). A file that is made where a
link leads may be scanned, and where there is no room an empty file is left
(`init_makes_files_elsewhere_and_empty_ones`).
-/

namespace EnvAudit

/-! ## The file that is made -/

namespace Config

/-- The bytes of a config file without patterns. -/
def defaultBytes : Bytes := Utf8.encode defaultText.toList

/-- The text that is written reads as the configuration without patterns. -/
theorem whole?_defaultText : reader.whole? defaultText = .ok {} := by cbv

variable {fs : FileSystem} {path : Path} {name : String} {content : Except Fault Bytes}

/-- What is made is read as a config without patterns. -/
theorem readFile_of_made {location : Location} {links : Nat}
    (h : fs.resolve path = .ok ⟨location, .file (.ok defaultBytes) false, links⟩) :
    readFile fs path = .ok {} := by
  have hread : fs.read path = .ok defaultBytes := by
    rw [FileSystem.read, h]
    rfl
  rw [readFile, FileSystem.readText_of_read hread]
  simp only [Except.mapError, bind, Except.bind, whole?_defaultText]
  rfl

/-- Where no config file was found, at most the one that is made is found. -/
theorem find?_gains {fs' : FileSystem} (h : fs.Gains name content fs') {p file : Path}
    (hfind : find? fs p = none) (hfind' : find? fs' p = some file) :
    ∃ location links, fs'.resolve file = .ok ⟨location, .file content false, links⟩ := by
  fun_induction find? fs' p with
  | case1 p hpresent =>
    rw [find?_eq] at hfind
    split at hfind
    · cases hfind
    · next habsent =>
      cases hfind'
      exact h.exists_made habsent hpresent
  | case2 p hpresent hrepository => cases hfind'
  | case3 p hpresent hrepository habove => cases hfind'
  | case4 p hpresent hrepository above habove ih =>
    rw [find?_eq, if_neg fun hfile => hpresent (h.present hfile),
      if_neg fun hmark => hrepository (h.present hmark), habove] at hfind
    exact ih hfind hfind'

end Config

/-! ## Making it -/

section Ends

variable (w : Surroundings) (fs : FileSystem)

/-- How an `init` may end: with the files that are left. -/
inductive Command.InitEnd (path : Path) : FileSystem → Except CommandError ExitStatus → Prop
  /-- There is a config file. -/
  | found : fs.present path → InitEnd path fs (.ok .failure)
  /-- No file can be made or opened. -/
  | unwritten (fault : Fault) : ¬fs.present path → InitEnd path fs (.error (.notWritten path fault))
  /-- There is no room for the text. -/
  | cut {place : Location} {name : String} {room : Room} {fault : Fault} :
      fs.lead path = .ok (.vacant place name) → w.storage fs path = .ok room →
      room.refusal? Config.defaultBytes = some fault →
      InitEnd path (fs.put place name (.file (.ok (room.taken Config.defaultBytes)) false))
        (.error (.notWritten path fault))
  /-- The file is made, which may still be impossible to tell. -/
  | made {place : Location} {name : String} {status : ExitStatus} :
      fs.lead path = .ok (.vacant place name) → status = .success ∨ status = .crashed →
      InitEnd path (fs.put place name (.file (.ok Config.defaultBytes) false)) (.ok status)

namespace Command

variable {w fs} {dir : Path} {files : FileSystem}

/-- An `init` that cannot write fails. -/
theorem runInit_of_save_error (hpresent : ¬fs.present (dir.join Config.fileName)) {fault : Fault}
    (hsave : fs.save w.storage (dir.join Config.fileName) Config.defaultBytes =
      (files, .error fault)) :
    runInit w fs dir = (files, .fail (.notWritten (dir.join Config.fileName) fault)) := by
  rw [Config.defaultBytes] at hsave
  simp only [runInit, if_neg hpresent, hsave]

/-- An `init` that can write ends well, or crashes where the output stream does not take all of what
it tells. -/
theorem runInit_of_save_ok (hpresent : ¬fs.present (dir.join Config.fileName))
    (hsave : fs.save w.storage (dir.join Config.fileName) Config.defaultBytes = (files, .ok ())) :
    (runInit w fs dir).1 = files ∧ ∃ status, (runInit w fs dir).2.result = .ok status ∧
      (status = .success ∨ status = .crashed) ∧ (w.stdout = .unlimited → status = .success) := by
  rw [Config.defaultBytes] at hsave
  simp only [runInit, if_neg hpresent, hsave, true_and]
  rw [Traced.result_bind, Run.out]
  dsimp only [bind, Except.bind]
  split
  · next fault hfault =>
    refine ⟨.crashed, rfl, .inr rfl, fun hroom => ?_⟩
    rw [hroom] at hfault
    cases hfault
  · exact ⟨.success, rfl, .inl rfl, fun _ => rfl⟩

end Command

/-- An `init` makes a file where the path of the config file led to a vacant place, and otherwise it
changes nothing. -/
theorem Command.run_init (dir : Path) :
    InitEnd w fs (dir.join Config.fileName) (run w fs (.init dir)).1
      (run w fs (.init dir)).2.result := by
  rw [run]
  by_cases hpresent : fs.present (dir.join Config.fileName)
  · simp only [runInit, if_pos hpresent]
    exact .found hpresent
  · cases hlead : fs.lead (dir.join Config.fileName) with
    | error f =>
      obtain ⟨fault, hsave⟩ := FileSystem.save_of_error w.storage hlead Config.defaultBytes
      rw [runInit_of_save_error hpresent hsave]
      exact .unwritten fault hpresent
    | ok lead =>
      cases lead with
      | arrived a =>
        refine absurd ?_ hpresent
        rw [FileSystem.present, FileSystem.resolve_eq, hlead]
        rfl
      | vacant place name =>
        cases hstorage : w.storage fs (dir.join Config.fileName) with
        | error fault =>
          have hsave : fs.save w.storage (dir.join Config.fileName) Config.defaultBytes =
              (fs, .error fault) := by
            rw [FileSystem.save, hstorage]
          rw [runInit_of_save_error hpresent hsave]
          exact .unwritten fault hpresent
        | ok room =>
          have hsave := FileSystem.save_of_vacant hlead hstorage Config.defaultBytes
          cases hrefusal : room.refusal? Config.defaultBytes with
          | some fault =>
            rw [hrefusal] at hsave
            rw [runInit_of_save_error hpresent hsave]
            exact .cut hlead hstorage hrefusal
          | none =>
            rw [hrefusal, Room.taken_of_refusal? hrefusal] at hsave
            obtain ⟨hfiles, status, hstatus, hends, -⟩ := runInit_of_save_ok hpresent hsave
            rw [hfiles, hstatus]
            exact .made hlead hends

end Ends

/-! ## Files that are kept -/

/-- Every file is where it was with the content that it had, and can be read under the same
paths. -/
structure FileSystem.Keeps (fs fs' : FileSystem) : Prop where
  files : ∀ location content program, fs.entryAt? location = some (.file content program) →
    fs'.entryAt? location = some (.file content program)
  reads : ∀ path bytes, fs.read path = .ok bytes → fs'.read path = .ok bytes

namespace FileSystem

variable {fs fs' : FileSystem}

theorem Keeps.refl (fs : FileSystem) : fs.Keeps fs := ⟨fun _ _ _ h => h, fun _ _ h => h⟩

theorem Keeps.trans {fs'' : FileSystem} (h : fs.Keeps fs') (h' : fs'.Keeps fs'') :
    fs.Keeps fs'' :=
  ⟨fun _ _ _ hfile => h'.files _ _ _ (h.files _ _ _ hfile),
    fun _ _ hread => h'.reads _ _ (h.reads _ _ hread)⟩

/-- Gaining a file keeps all that was there. -/
theorem Gains.keeps {name : String} {content : Except Fault Bytes}
    (h : fs.Gains name content fs') : fs.Keeps fs' where
  files location c program hfile := by
    have hentry := h.entryAt? location
    rw [hfile] at hentry
    generalize fs'.entryAt? location = y at hentry
    cases hentry with
    | both he => rw [he.eq_file]
  reads _ _ := h.read

end FileSystem

namespace Command

variable {w : Surroundings} {fs : FileSystem}

/-- Whether the command clones a project. -/
def clones : Command → Bool
  | .checkGit _ _ _ | .scanGit _ _ _ => true
  | _ => false

/-- The files after commands, one carried out after the other. -/
def runAll (w : Surroundings) (fs : FileSystem) (cs : List Command) : FileSystem :=
  cs.foldl (fun fs c => (c.run w fs).1) fs

/-- A command that does not clone keeps all that was there. -/
theorem keeps_run {c : Command} (h : ¬c.clones) : fs.Keeps (c.run w fs).1 := by
  cases c with
  | check => exact .refl fs
  | scan => exact .refl fs
  | checkGit => exact absurd rfl h
  | scanGit => exact absurd rfl h
  | init dir =>
    have hinit := run_init w fs dir
    generalize (run w fs (.init dir)).1 = fs', (run w fs (.init dir)).2.result = r at hinit
    cases hinit with
    | found => exact .refl fs
    | unwritten => exact .refl fs
    | cut hlead | made hlead => exact (FileSystem.exists_put_of_vacant hlead).1.keeps

/-- Commands that do not clone keep all that was there. -/
theorem keeps_runAll {cs : List Command} (h : ∀ c ∈ cs, ¬c.clones) : fs.Keeps (runAll w fs cs) := by
  induction cs generalizing fs with
  | nil => exact .refl fs
  | cons c cs ih =>
    obtain ⟨hc, hcs⟩ := List.forall_mem_cons.1 h
    exact (keeps_run hc).trans (ih hcs)

end Command

/-! ## Projects without a config file -/

section Gains

variable {fs fs' : FileSystem} {name : String} {content : Except Fault Bytes}
  {registry : Registry}

/-- Whether a registry passes over every file of a name. -/
def Registry.Ignores (registry : Registry) (name : String) : Prop :=
  ∀ path : Path, path.fileName? = some name.toList → Scan.entryFor? registry path = none

/-- Visits to a file that no entry claims change nothing in a scan. -/
theorem Scan.foldlM_visit_filter (hignores : registry.Ignores name) (debug : Bool)
    (vs : List Visit) (s : Scan) :
    (vs.filter (Visit.isNot name)).foldlM (visit registry debug) s =
      vs.foldlM (visit registry debug) s := by
  induction vs generalizing s with
  | nil => rfl
  | cons v vs ih =>
    by_cases hv : v.isNot name
    · rw [List.filter_cons_of_pos hv, List.foldlM_cons, List.foldlM_cons]
      simp only [ih]
    · have hnone : entryFor? registry v.path = none :=
        hignores v.path (by simpa [Visit.isNot] using hv)
      rw [List.filter_cons_of_neg hv, List.foldlM_cons, ih, visit_of_none hnone,
        Traced.bind_of_ok (a := s) rfl]
      rfl

/-- A scan that ends well does not come upon the file. -/
theorem scan_gains (h : fs.Gains name content fs') (hname : Path.IsName name)
    (hignores : registry.Ignores name) {debug : Bool} {root : Path} {s : Scan}
    (hs : (scan fs registry debug root).result = .ok s) :
    scan fs' registry debug root = scan fs registry debug root := by
  obtain ⟨hwalk, -, -⟩ := scan_eq_ok hs
  obtain ⟨hwalk', hnotes⟩ := h.walk hname root hwalk
  rw [scan, scan, hwalk, hwalk', ← Scan.foldlM_visit_filter hignores,
    ← Scan.foldlM_visit_filter hignores debug (fs.walk root).notes, hnotes]

/-- Declarations that can be loaded are loaded in the same way. -/
theorem load_gains (h : fs.Gains name content fs') {source : Source} {declared : Variables}
    (hload : (source.load fs).result = .ok declared) : source.load fs' = source.load fs := by
  cases source with
  | mapping vars => rfl
  | file path =>
    obtain ⟨kind, hkind, hrest, -⟩ := Traced.bind_eq_ok hload
    obtain ⟨text, htext, -, -⟩ := Traced.bind_eq_ok hrest
    cases hread : fs.readText path with
    | error f =>
      rw [hread] at htext
      cases htext
    | ok text => simp only [Source.load, Source.readFile, hread, h.readText hread]

/-- A check that is no failure to read something ends in the same way. -/
theorem check_gains (h : fs.Gains name content fs') (hname : Path.IsName name) {source : Source}
    {project : Path} {o : ScanOptions}
    (hignores : ∀ registry, o.registry = .ok registry → registry.Ignores name)
    (hcheck : Command.Verdict.ofResult (check fs source project o).result ≠ .unable) :
    (check fs' source project o).result = (check fs source project o).result := by
  cases hregistry : o.registry with
  | error e => rw [result_check_of_invalid hregistry, result_check_of_invalid hregistry]
  | ok registry =>
    cases hload : (source.load fs).result with
    | error e => exact absurd (verdict_of_unloaded hregistry (by rw [hload]; rfl)) hcheck
    | ok declared =>
      cases hscan : (scan fs registry o.debug project).result with
      | error e =>
        exact absurd (verdict_of_unscanned hregistry hload (by rw [hscan]; rfl)) hcheck
      | ok s =>
        have hload' : (source.load fs').result = .ok declared := by rw [load_gains h hload, hload]
        have hscan' : (scan fs' registry o.debug project).result = .ok s := by
          rw [scan_gains h hname (hignores registry hregistry) hscan, hscan]
        rw [result_check_of_scanned hregistry hload hscan,
          result_check_of_scanned hregistry hload' hscan']

/-- Gaining a file that no entry claims changes nothing in the names listed. -/
theorem environments_gains (h : fs.Gains name content fs') (hname : Path.IsName name)
    {project : Path} {o : ScanOptions} {names : List String}
    (hignores : ∀ registry, o.registry = .ok registry → registry.Ignores name)
    (hnames : (environments fs project o).result = .ok names) :
    (environments fs' project o).result = .ok names := by
  cases hregistry : o.registry with
  | error e =>
    rw [result_environments_of_invalid hregistry] at hnames
    cases hnames
  | ok registry =>
    rw [result_environments_of_registry hregistry] at hnames ⊢
    obtain ⟨s, hscan, -⟩ := exists_of_map_eq_ok hnames
    rw [scan_gains h hname (hignores registry hregistry) hscan, hnames]

end Gains

/-- No default entry is for config files. -/
theorem Registry.ignores_fileName : Registry.default.Ignores Config.fileName.text := by
  intro path hpath
  have hextension : Scan.dottedExtension? path = some ".json" := by
    rw [Scan.dottedExtension?, Path.extension?, hpath]
    decide
  rw [Scan.entryFor?, hextension]
  rfl

namespace Command

/-- A check or a scan of a project, with the config file that is found if there is one. -/
inductive Examines (project : Path) : Command → Prop
  | check (envFile : Path) (debug : Bool) : Examines project (.check envFile project ⟨debug, none⟩)
  | scan (json debug : Bool) : Examines project (.scan project json ⟨debug, none⟩)

variable {w : Surroundings} {fs fs' : FileSystem} {project : Path}

section Gains

variable (h : fs.Gains Config.fileName.text (.ok Config.defaultBytes) fs')
  (hfind : Config.find? fs project = none)
include h hfind

/-- With and without the file the options of a scan are the default ones. -/
theorem options?_gains (debug : Bool) :
    options? fs ⟨debug, none⟩ project = some ⟨debug, []⟩ ∧
      options? fs' ⟨debug, none⟩ project = some ⟨debug, []⟩ := by
  simp only [options?, Config.load_none, hfind]
  refine ⟨rfl, ?_⟩
  cases hfind' : Config.find? fs' project with
  | none => rfl
  | some file =>
    obtain ⟨location, links, hfile⟩ := Config.find?_gains h hfind hfind'
    simp only [Config.readFile_of_made hfile]
    rfl

/-- Gaining the config file changes no verdict. -/
theorem verdict_gains {envFile : Path} {debug : Bool}
    (hverdict : verdict fs envFile project ⟨debug, none⟩ ≠ .unable) :
    verdict fs' envFile project ⟨debug, none⟩ = verdict fs envFile project ⟨debug, none⟩ := by
  obtain ⟨hoptions, hoptions'⟩ := options?_gains h hfind debug
  simp only [verdict, hoptions, hoptions'] at hverdict ⊢
  rw [check_gains h Config.isName_fileName ?_ hverdict]
  rintro registry ⟨⟩
  exact Registry.ignores_fileName

/-- Gaining the config file changes no listing. -/
theorem listed?_gains {debug : Bool} {names : List String}
    (hnames : listed? fs project ⟨debug, none⟩ = some names) :
    listed? fs' project ⟨debug, none⟩ = some names := by
  obtain ⟨hoptions, hoptions'⟩ := options?_gains h hfind debug
  simp only [listed?, hoptions, hoptions', Option.bind_some] at hnames ⊢
  cases hresult : (environments fs project ⟨debug, []⟩).result with
  | error e =>
    rw [hresult] at hnames
    cases hnames
  | ok names' =>
    rw [hresult] at hnames
    rw [environments_gains h Config.isName_fileName ?_ hresult]
    · exact hnames
    · rintro registry ⟨⟩
      exact Registry.ignores_fileName

/-- A check or a scan that could be carried out shows the same and ends in the same way. -/
theorem exists_shows_gains {c : Command} (hc : c.Examines project)
    (hstatus : (c.outcome w fs).status ≠ .error) :
    ∃ outs errs status, Run.Shows (c.run w fs).2 outs errs (some status) ∧
      Run.Shows (c.run w fs').2 outs errs (some status) := by
  cases hc with
  | check envFile debug =>
    have hshows := shows_runCheck w fs envFile project ⟨debug, none⟩ none
    have hshows' := shows_runCheck w fs' envFile project ⟨debug, none⟩ none
    rw [status_outcome (c := .check envFile project ⟨debug, none⟩) hshows] at hstatus
    have hable : verdict fs envFile project ⟨debug, none⟩ ≠ .unable := fun hunable =>
      hstatus (by rw [hunable]; rfl)
    rw [verdict_gains h hfind hable] at hshows'
    cases hresult : (verdict fs envFile project ⟨debug, none⟩).status? with
    | none =>
      rw [hresult] at hstatus
      exact absurd rfl hstatus
    | some status =>
      rw [hresult] at hshows hshows'
      exact ⟨_, _, status, hshows, hshows'⟩
  | scan json debug =>
    have hshows := shows_runScan w fs json project ⟨debug, none⟩
    have hshows' := shows_runScan w fs' json project ⟨debug, none⟩
    rw [status_outcome (c := .scan project json ⟨debug, none⟩) hshows] at hstatus
    cases hlisted : listed? fs project ⟨debug, none⟩ with
    | none =>
      rw [hlisted] at hstatus
      exact absurd rfl hstatus
    | some names =>
      rw [hlisted] at hshows hstatus
      rw [listed?_gains h hfind hlisted] at hshows'
      rw [Option.bind_some] at hshows hshows' hstatus
      cases hends : statusOf w.stdout (Report.listing json names) with
      | none =>
        rw [hends] at hstatus
        exact absurd rfl hstatus
      | some status =>
        rw [hends] at hshows hshows'
        exact ⟨_, _, status, hshows, hshows'⟩

end Gains

end Command

/-! ## Making a config file -/

/-- Nothing stands where the config file of a directory would be, not even a link. -/
def Config.Lacks (fs : FileSystem) (dir : Path) : Prop :=
  ∃ place access entries links, fs.StepsTo dir place access entries links ∧
    entries.lookup fileName.text = none

/-- Where the file is missing, its own name is what is vacant. -/
theorem Config.Lacks.lead {fs : FileSystem} {dir : Path} (h : Lacks fs dir) {place : Location}
    {name : String} (hlead : fs.lead (dir.join fileName) = .ok (.vacant place name)) :
    name = fileName.text := by
  obtain ⟨dir', access, entries, links, hsteps, hnone⟩ := h
  have htakes := FileSystem.takes_of_lead hlead
  have hdir : fs.entryAt? dir' = some (.dir access entries) := FileSystem.entry_of_follow hsteps
  rw [htakes.lead_join (by decide), show fileName.moves = [.enter fileName.text] by decide,
    FileSystem.follow_append_of_arrived hsteps] at hlead
  cases hsearch : access.search with
  | some f =>
    rw [FileSystem.follow_cons_of_search hdir hsearch] at hlead
    cases hlead
  | none =>
    rw [FileSystem.follow_enter_of_none hdir hsearch (by decide) hnone, if_pos rfl] at hlead
    cases hlead
    rfl

/-- An `init` that ends well. -/
structure Config.Made (fs fs' : FileSystem) (path : Path) : Prop where
  vacant : ¬fs.present path
  makes : ∃ location, fs.Makes location (.ok defaultBytes) fs'
  readable : readFile fs' path = .ok {}

/-- What is made where a path led to a vacant place is a config file there. -/
theorem Config.made_put {fs : FileSystem} {path : Path} {place : Location} {name : String}
    (h : fs.lead path = .ok (.vacant place name)) :
    Made fs (fs.put place name (.file (.ok defaultBytes) false)) path := by
  obtain ⟨-, hmakes, left, hresolve⟩ := FileSystem.exists_put_of_vacant h
  exact ⟨FileSystem.not_present_of_vacant h, ⟨_, hmakes⟩, readFile_of_made hresolve⟩

/-- What a file can be read from is there. -/
theorem Config.present_of_readFile {fs : FileSystem} {path : Path} {config : Config}
    (h : readFile fs path = .ok config) : fs.present path := by
  obtain ⟨text, htext, -, -⟩ := readFile_eq_ok_iff.1 h
  obtain ⟨bytes, hread, -⟩ := FileSystem.readText_eq_ok htext
  obtain ⟨location, program, links, hresolve⟩ := FileSystem.read_eq_ok hread
  rw [FileSystem.present, hresolve]
  rfl

/-- An `init` that could not write all of the text: one file is made, with the first part of it. -/
structure Config.CutOff (fs fs' : FileSystem) (path : Path) : Prop where
  vacant : ¬fs.present path
  makes : ∃ location content, fs.Makes location (.ok content) fs' ∧ content <+: defaultBytes ∧
    content ≠ defaultBytes
  present : fs'.present path

/-- What is cut off where a path led to a vacant place is there. -/
theorem Config.cutOff_put {fs : FileSystem} {path : Path} {place : Location} {name : String}
    (h : fs.lead path = .ok (.vacant place name)) {room : Room} {fault : Fault}
    (hrefusal : room.refusal? defaultBytes = some fault) :
    CutOff fs (fs.put place name (.file (.ok (room.taken defaultBytes)) false)) path := by
  obtain ⟨-, hmakes, left, hresolve⟩ := FileSystem.exists_put_of_vacant h
  refine ⟨FileSystem.not_present_of_vacant h, ⟨_, _, hmakes, room.taken_prefix _,
    Room.taken_ne_of_refusal? hrefusal⟩, ?_⟩
  rw [FileSystem.present, hresolve]
  rfl

/-- Where there is a config file, `init` is a failure. -/
theorem Command.result_init_of_present {w : Surroundings} {fs : FileSystem} {dir : Path}
    (h : fs.present (dir.join Config.fileName)) :
    (run w fs (.init dir)).2.result = .ok .failure := by
  rw [run, runInit, if_pos h]
  rfl

/-- Checks, scans and `init`, in whatever order, overwrite no file. An `init` that finds a config
file changes nothing. One that fails changes nothing either, unless there was no room for the text;
then it may have made one file with the first part of it, so that `init` fails there afterwards. One
that ends well makes one file and nothing else; this is read as a config without patterns, so that
`init` fails there afterwards, too. A project from which no config file was found gets the same
result from a check or a scan as before, if this could be carried out and nothing, not even a link,
stood where the file is made. -/
theorem init_keeps_files_and_results (w : Surroundings) (fs : FileSystem) :
    (∀ cs : List Command, (∀ c ∈ cs, ¬c.clones) → fs.Keeps (Command.runAll w fs cs)) ∧
      ∀ dir fs' run, Command.run w fs (.init dir) = (fs', run) →
        (fs.present (dir.join Config.fileName) → fs' = fs ∧ run.result = .ok .failure) ∧
        (∀ e, run.result = .error e → fs' = fs ∨
          Config.CutOff fs fs' (dir.join Config.fileName) ∧
            (Command.run w fs' (.init dir)).2.result = .ok .failure) ∧
        ((∀ room, w.storage fs (dir.join Config.fileName) = .ok room →
            room.refusal? Config.defaultBytes = none) →
          ∀ e, run.result = .error e → fs' = fs) ∧
        (run.result = .ok .success ∨ run.result = .ok .crashed →
          Config.Made fs fs' (dir.join Config.fileName) ∧
          (Command.run w fs' (.init dir)).2.result = .ok .failure ∧
          (Config.Lacks fs dir → ∀ project, Config.find? fs project = none →
            ∀ c : Command, c.Examines project → (c.outcome w fs).status ≠ .error →
              (c.outcome w fs').status = (c.outcome w fs).status ∧
              (c.outcome w fs').stdout = (c.outcome w fs).stdout ∧
              (c.outcome w fs').stderr = (c.outcome w fs).stderr)) := by
  refine ⟨fun cs => Command.keeps_runAll, fun dir fs' run hrun => ?_⟩
  have hinit := Command.run_init w fs dir
  rw [hrun] at hinit
  simp only at hinit
  generalize run.result = result at hinit
  cases hinit with
  | found hpresent =>
    refine ⟨fun _ => ⟨rfl, rfl⟩, ?_, ?_, ?_⟩
    · rintro e ⟨⟩
    · rintro - e ⟨⟩
    · rintro (⟨⟨⟩⟩ | ⟨⟨⟩⟩)
  | unwritten fault habsent =>
    refine ⟨fun hpresent => absurd hpresent habsent, fun _ _ => .inl rfl, fun _ _ _ => rfl, ?_⟩
    rintro (⟨⟨⟩⟩ | ⟨⟨⟩⟩)
  | cut hlead hstorage hrefusal =>
    have hcut := Config.cutOff_put hlead hrefusal
    refine ⟨fun hpresent => absurd hpresent hcut.vacant,
      fun _ _ => .inr ⟨hcut, Command.result_init_of_present hcut.present⟩, fun hroom => ?_, ?_⟩
    · cases hrefusal.symm.trans (hroom _ hstorage)
    · rintro (⟨⟨⟩⟩ | ⟨⟨⟩⟩)
  | @made place name status hlead hstatus =>
    have hmade := Config.made_put hlead
    refine ⟨fun hpresent => absurd hpresent hmade.vacant, ?_, ?_, fun _ => ⟨hmade,
      Command.result_init_of_present (Config.present_of_readFile hmade.readable), ?_⟩⟩
    · rintro e ⟨⟩
    · rintro - e ⟨⟩
    · intro hlacks project hfind c hc hstatus
      obtain rfl := hlacks.lead hlead
      obtain ⟨hgains, -, -⟩ : fs.Gains _ (.ok Config.defaultBytes) _ ∧ _ :=
        FileSystem.exists_put_of_vacant hlead
      obtain ⟨outs, errs, status, hshows, hshows'⟩ :=
        Command.exists_shows_gains hgains hfind hc hstatus
      exact ⟨by rw [Command.status_outcome hshows, Command.status_outcome hshows'],
        by rw [Command.stdout_outcome hshows, Command.stdout_outcome hshows'],
        by rw [Command.stderr_outcome hshows, Command.stderr_outcome hshows']⟩

/-! ## Examples -/

/-- Surroundings in which no program can be run. -/
def bareSurroundings : Surroundings where
  color := false
  launch := fun _ _ => .error .notFound
  temporary := .ofText "/tmp"
  checkoutName := "clone"

/-- A check of the directory `app`. -/
def checkApp (envFile : Path) : Command := .check envFile (.ofText "app") ⟨false, none⟩

section App

variable {fs : FileSystem} (h : ∀ name ∈ [Config.fileName, Config.repositoryMark],
  ¬fs.present ((Path.ofText "app").join name) ∧ ¬fs.present (Path.join ⟨[]⟩ name))
include h

theorem find?_app : Config.find? fs (.ofText "app") = none := by
  obtain ⟨⟨hfile, hfile'⟩, ⟨hmark, hmark'⟩, -⟩ := by simpa only [List.forall_mem_cons] using h
  have hparent : (Path.ofText "app").parent? = some ⟨[]⟩ := by decide
  rw [Config.find?_eq, if_neg hfile, if_neg hmark, hparent, Option.bind_some, Config.find?_eq,
    if_neg hfile', if_neg hmark']
  rfl

/-- A check of a project without a config file tells how many variables are in how many files. -/
theorem outcome_checkApp {envFile : Path} {names files : Nat}
    (hcheck : Command.Verdict.ofResult
      (check fs (.file envFile) (.ofText "app") ⟨false, []⟩).result = .declared names files) :
    ((checkApp envFile).outcome bareSurroundings fs).status = .success ∧
      ((checkApp envFile).outcome bareSurroundings fs).stdout =
        Report.success false names files := by
  have hoptions : Command.options? fs ⟨false, none⟩ (.ofText "app") = some ⟨false, []⟩ := by
    simp only [Command.options?, Config.load_none, find?_app h]
    rfl
  have hverdict : Command.verdict fs envFile (.ofText "app") ⟨false, none⟩ =
      .declared names files := by
    rw [Command.verdict, hoptions]
    exact hcheck
  have hshows : Run.Shows ((checkApp envFile).run bareSurroundings fs).2 _ _ _ :=
    Command.shows_runCheck bareSurroundings fs envFile (.ofText "app") ⟨false, none⟩ none
  rw [hverdict] at hshows
  refine ⟨Command.status_outcome hshows, (Command.stdout_outcome hshows).trans ?_⟩
  simp [Command.Verdict.outs, bareSurroundings, Room.takenText_unlimited, String.join_cons]

end App

/-- What a project without a config file has in it. -/
def appEntries : List (String × Entry) :=
  [("a.js", .file (.ok (Utf8.encode "process.env.A".toList)) false),
    (".env", .file (.ok (Utf8.encode "A=1".toList)) false)]

def appTree : FileSystem := ⟨.dir {} [("app", .dir {} appEntries)], []⟩

theorem lead_appTree : appTree.lead ((Path.ofText "app").join Config.fileName) =
    .ok (.vacant ["app"] Config.fileName.text) := by cbv

/-- The directory lacks the config file, and none is found above it. -/
theorem lacks_appTree : Config.Lacks appTree (.ofText "app") := by
  have hsteps : Path.steps (.ofText "app") = [.enter "app"] := by decide
  refine ⟨["app"], {}, appEntries, 40, ?_, by decide⟩
  rw [FileSystem.StepsTo, hsteps]
  cbv

theorem absent_appTree : ∀ name ∈ [Config.fileName, Config.repositoryMark],
    ¬appTree.present ((Path.ofText "app").join name) ∧
      ¬appTree.present (Path.join ⟨[]⟩ name) := by
  simp only [List.forall_mem_cons, Bool.not_eq_true]
  refine ⟨⟨by cbv, by cbv⟩, ⟨by cbv, by cbv⟩, by simp⟩

/-- Before the file is made the check succeeds. -/
theorem outcome_checkApp_appTree :
    ((checkApp (.ofText "app/.env")).outcome bareSurroundings appTree).status = .success ∧
      ((checkApp (.ofText "app/.env")).outcome bareSurroundings appTree).stdout =
        Report.success false 1 1 :=
  outcome_checkApp absent_appTree (by cbv)

/-- Where the path of the config file leads to a vacant place, `init` makes it there. -/
theorem init_of_vacant {fs : FileSystem} {dir : Path} {place : Location} {name : String}
    (hlead : fs.lead (dir.join Config.fileName) = .ok (.vacant place name)) :
    ∃ run, Command.run bareSurroundings fs (.init dir) =
        (fs.put place name (.file (.ok Config.defaultBytes) false), run) ∧
      run.result = .ok .success := by
  have hroom : bareSurroundings.storage fs (dir.join Config.fileName) = .ok .unlimited := rfl
  obtain ⟨hfiles, status, hstatus, -, hunlimited⟩ := Command.runInit_of_save_ok
    (Config.made_put hlead).vacant (FileSystem.save_of_vacant hlead hroom Config.defaultBytes)
  refine ⟨(Command.runInit bareSurroundings fs dir).2, Prod.ext hfiles rfl, ?_⟩
  rw [hstatus, hunlimited rfl]

theorem init_keeps_files_and_results_appTree :
    ∃ fs' run, Command.run bareSurroundings appTree (.init (.ofText "app")) = (fs', run) ∧
      run.result = .ok .success ∧
      Config.Made appTree fs' ((Path.ofText "app").join Config.fileName) ∧
      ((checkApp (.ofText "app/.env")).outcome bareSurroundings appTree).status = .success ∧
      ((checkApp (.ofText "app/.env")).outcome bareSurroundings fs').status = .success ∧
      appTree.Keeps (Command.runAll bareSurroundings appTree
        [.init (.ofText "app"), checkApp (.ofText "app/.env"), .init (.ofText "app")]) := by
  obtain ⟨run, hrun, hresult⟩ := init_of_vacant lead_appTree
  obtain ⟨hkeeps, hinit⟩ := init_keeps_files_and_results bareSurroundings appTree
  obtain ⟨-, -, -, hmade⟩ := hinit (.ofText "app") _ _ hrun
  obtain ⟨hmade, -, hsame⟩ := hmade (.inl hresult)
  have hstatus := outcome_checkApp_appTree.1
  obtain ⟨hafter, -, -⟩ := hsame lacks_appTree (.ofText "app") (find?_app absent_appTree)
    (checkApp (.ofText "app/.env")) (.check _ false) (by rw [hstatus]; decide)
  refine ⟨_, run, hrun, hresult, hmade, hstatus, hafter.trans hstatus, hkeeps _ fun c hc => ?_⟩
  simp only [List.mem_cons, List.not_mem_nil, or_false] at hc
  rcases hc with rfl | rfl | rfl <;> exact Bool.false_ne_true

/-- A link to where there is no file in a project. -/
def elsewhereTree : FileSystem where
  root := .dir {} [
    ("x", .dir {} [
      (".envcheckrc.json", .link (.ofText "../app/new.js")),
      (".env", .file (.ok (Utf8.encode "A=1".toList)) false)]),
    ("app", .dir {} [("a.js", .file (.ok (Utf8.encode "process.env.A".toList)) false)])]
  current := []

/-- The tree when a config file is made where the link leads. -/
def filledTree : FileSystem :=
  elsewhereTree.put ["app"] "new.js" (.file (.ok Config.defaultBytes) false)

/-- Through the link the config file would be made under another name. -/
theorem lead_elsewhereTree : elsewhereTree.lead ((Path.ofText "x").join Config.fileName) =
    .ok (.vacant ["app"] "new.js") := by cbv

theorem absent_elsewhereTree : ∀ name ∈ [Config.fileName, Config.repositoryMark],
    ¬elsewhereTree.present ((Path.ofText "app").join name) ∧
      ¬elsewhereTree.present (Path.join ⟨[]⟩ name) := by
  simp only [List.forall_mem_cons, Bool.not_eq_true]
  refine ⟨⟨by cbv, by cbv⟩, ⟨by cbv, by cbv⟩, by simp⟩

theorem absent_filledTree : ∀ name ∈ [Config.fileName, Config.repositoryMark],
    ¬filledTree.present ((Path.ofText "app").join name) ∧
      ¬filledTree.present (Path.join ⟨[]⟩ name) := by
  simp only [List.forall_mem_cons, Bool.not_eq_true]
  refine ⟨⟨by cbv, by cbv⟩, ⟨by cbv, by cbv⟩, by simp⟩

/-- Before the file is made, one name is found in one file. -/
theorem check_elsewhereTree : Command.Verdict.ofResult (check elsewhereTree
    (.file (.ofText "x/.env")) (.ofText "app") ⟨false, []⟩).result = .declared 1 1 := by cbv

set_option maxRecDepth 2000 in
/-- The file made through the link is itself scanned from then on. -/
theorem check_filledTree : Command.Verdict.ofResult (check filledTree
    (.file (.ofText "x/.env")) (.ofText "app") ⟨false, []⟩).result = .declared 1 2 := by cbv

/-- The surroundings where files can be made, and there is no room in them. -/
def fullSurroundings : Surroundings :=
  { bareSurroundings with storage := fun _ _ => .ok (.upTo 0 (.other "No space left on device")) }

/-- Where the path of the config file is that of a link, and nothing is where it leads, `init` makes
a file that is scanned with the project there. Where there is no room it fails and leaves an empty
file. -/
theorem init_makes_files_elsewhere_and_empty_ones :
    (¬elsewhereTree.present ((Path.ofText "x").join Config.fileName) ∧
      Config.find? elsewhereTree (.ofText "app") = none ∧
      ((checkApp (.ofText "x/.env")).outcome bareSurroundings elsewhereTree).status = .success ∧
      ∃ fs' run, Command.run bareSurroundings elsewhereTree (.init (.ofText "x")) = (fs', run) ∧
        run.result = .ok .success ∧
        ((checkApp (.ofText "x/.env")).outcome bareSurroundings fs').stdout ≠
          ((checkApp (.ofText "x/.env")).outcome bareSurroundings elsewhereTree).stdout) ∧
    ∃ fs' run, Command.run fullSurroundings appTree (.init (.ofText "app")) = (fs', run) ∧
      (∃ e, run.result = .error e) ∧
      appTree.entryAt? ["app", Config.fileName.text] = none ∧
      fs'.entryAt? ["app", Config.fileName.text] = some (.file (.ok []) false) := by
  constructor
  · obtain ⟨hstatus, hstdout⟩ := outcome_checkApp absent_elsewhereTree check_elsewhereTree
    obtain ⟨-, hstdout'⟩ := outcome_checkApp absent_filledTree check_filledTree
    obtain ⟨run, hrun, hresult⟩ := init_of_vacant lead_elsewhereTree
    refine ⟨(Config.made_put lead_elsewhereTree).vacant, find?_app absent_elsewhereTree, hstatus,
      filledTree, run, hrun, hresult, ?_⟩
    rw [hstdout, hstdout']
    decide
  · have hroom : fullSurroundings.storage appTree ((Path.ofText "app").join Config.fileName) =
        .ok (.upTo 0 (.other "No space left on device")) := rfl
    have hinit := Command.runInit_of_save_error (Config.made_put lead_appTree).vacant
      (FileSystem.save_of_vacant lead_appTree hroom Config.defaultBytes)
    obtain ⟨-, hmakes, -⟩ := FileSystem.exists_put_of_vacant lead_appTree
    exact ⟨_, _, hinit, ⟨_, rfl⟩, hmakes.vacant, hmakes.made⟩

end EnvAudit
