import EnvAudit.Config
import EnvAudit.Proofs.Files.Lead
import EnvAudit.Proofs.Traced
import Mathlib.Data.List.Induction
import Mathlib.Data.List.Infix

/-!
# EnvAudit.Proofs.Config

Where a config file is found, in a tree without links:

1. making moves is reckoning with names: each one enters, leaves or stays (`follow_of_linkFree`);
2. from a path the config file is looked for in the directories along its steps, the last one first
   (`find?_along`);
3. if the path never goes up, these are the directories at and above the one that it leads to, down
   from where it starts (`trail_of_not_up`).

Main statement: the config file that is found is the first one along the path as it is written; if
the path does not go up, it is the nearest one at or above the directory, unless that one is above
the place where the path starts (`config_found_along_spelling`).
-/

namespace EnvAudit

/-! ## Trees without links -/

/-- A tree in which there are no links. -/
def Entry.LinkFree (e : Entry) : Prop := ∀ location target, e.find? location ≠ some (.link target)

theorem Entry.LinkFree.file (content : Except Fault Bytes) (program : Bool) :
    (Entry.file content program).LinkFree := by
  intro location target h
  cases location <;> simp [find?] at h

theorem Entry.LinkFree.dir {access : Access} {entries : List (String × Entry)}
    (h : ∀ p ∈ entries, p.2.LinkFree) : (Entry.dir access entries).LinkFree := by
  intro location target hfind
  cases location with
  | nil => simp [find?] at hfind
  | cons name rest =>
    rw [find?, Option.bind_eq_some_iff] at hfind
    obtain ⟨e, he, hfind⟩ := hfind
    exact h _ (mem_of_lookup he) rest target hfind

namespace Location

/-- Where a move goes. -/
def go : Location → Move → Location
  | location, .stay => location
  | location, .up => location.dropLast
  | location, .enter name => location ++ [name]

/-- Where moves go. -/
def along (location : Location) (moves : List Move) : Location := moves.foldl go location

/-- A location and those above it, the nearest one first. -/
def upwards (location : Location) : List Location := location.inits.reverse

/-- Moves that stay can be left out. -/
theorem along_filter (location : Location) (moves : List Move) :
    location.along (moves.filter (· != .stay)) = location.along moves := by
  induction moves generalizing location with
  | nil => rfl
  | cons move moves ih =>
    by_cases hmove : move = .stay
    · subst hmove
      simpa [along, go] using ih location
    · simpa [along, hmove] using ih (location.go move)

/-- Entering names one after the other appends them. -/
theorem along_map_enter (location names : Location) :
    location.along (names.map .enter) = location ++ names := by
  induction names generalizing location with
  | nil => simp [along]
  | cons name names ih => simpa [along, go] using ih (location ++ [name])

/-- Above a directory stand the directory itself and what is above its parent. -/
theorem upwards_concat (location : Location) (name : String) :
    (location ++ [name]).upwards = (location ++ [name]) :: location.upwards := by
  simp [upwards, List.inits_append]

/-- The locations above one are its beginnings. -/
theorem mem_upwards {location above : Location} :
    above ∈ location.upwards ↔ above <+: location := by
  simp [upwards]

/-- Each location on the way up is above those before it. -/
theorem pairwise_upwards (location : Location) :
    location.upwards.Pairwise fun below above => above <+: below := by
  induction location using List.reverseRecOn with
  | nil => simp [upwards]
  | append_singleton location name ih =>
    rw [upwards_concat]
    refine List.pairwise_cons.2 ⟨fun above habove => ?_, ih⟩
    exact (mem_upwards.1 habove).trans (List.prefix_append location [name])

/-- Above a location, down from one of those, are the ways to it from there. -/
theorem filter_upwards_append (location names : Location) :
    (location ++ names).upwards.filter location.isPrefixOf =
      names.inits.reverse.map (location ++ ·) := by
  induction names using List.reverseRecOn with
  | nil =>
    rcases List.eq_nil_or_concat location with rfl | ⟨above, name, rfl⟩
    · rfl
    · have hnone : (upwards above).filter (above ++ [name]).isPrefixOf = [] := by
        refine List.filter_eq_nil_iff.2 fun other hother hpre => ?_
        have hlength := (mem_upwards.1 hother).length_le
        have := (List.isPrefixOf_iff_prefix.1 hpre).length_le
        simp only [List.length_append, List.length_singleton] at this
        omega
      simp [upwards_concat, hnone]
  | append_singleton names name ih =>
    rw [← List.append_assoc, upwards_concat, List.filter_cons_of_pos, ih]
    · simp [List.inits_append]
    · simp

end Location

namespace FileSystem

variable {fs : FileSystem} {p : Path}

/-- In a tree without links the moves alone say where a path leads. -/
theorem follow_of_linkFree (hfree : fs.root.LinkFree) {links : Nat} {location : Location}
    {moves : List Move} {a : Arrival} (h : fs.follow links location moves = .ok (.arrived a)) :
    a.location = location.along moves ∧ a.links = links := by
  fun_induction fs.follow links location moves with
  | case1 links location e he =>
    cases h
    exact ⟨rfl, rfl⟩
  | case5 links location moves access entries he hsearch ih => exact ih h
  | case6 links location moves access entries he hsearch ih => exact ih h
  | case11 location moves access entries he hsearch name hlong target hname links ih =>
    exact absurd (Entry.find?_concat he hname) (hfree _ target)
  | case12 links location moves access entries he hsearch name hlong e hlink hname ih => exact ih h
  | _ => cases h

/-- What stands under a name in a directory that can be searched. -/
def entryIn? (fs : FileSystem) (dir : Location) (name : String) : Option Entry :=
  match fs.entryAt? dir with
  | some (.dir ⟨_, none⟩ entries) => entries.lookup name
  | _ => none

/-- In a directory that can be searched every entry is found. -/
theorem entryIn?_of_search {location : Location} {access : Access}
    {entries : List (String × Entry)} (hdir : fs.entryAt? location = some (.dir access entries))
    (hsearch : access.search = none) (name : String) :
    fs.entryIn? location name = entries.lookup name := by
  obtain ⟨list, search⟩ := access
  cases hsearch
  rw [entryIn?, hdir]

/-- In a directory that cannot be searched no entry is found. -/
theorem entryIn?_of_not_search {location : Location} {access : Access}
    {entries : List (String × Entry)} (hdir : fs.entryAt? location = some (.dir access entries))
    {f : Fault} (hsearch : access.search = some f) (name : String) :
    fs.entryIn? location name = none := by
  obtain ⟨list, search⟩ := access
  cases hsearch
  rw [entryIn?, hdir]

/-- A name leads from a directory to what is there under this name. -/
theorem follow_enter_of_linkFree (hfree : fs.root.LinkFree) {location : Location} {access : Access}
    {entries : List (String × Entry)} (hdir : fs.entryAt? location = some (.dir access entries))
    {name : String} (hname : name.utf8ByteSize ≤ maxName) (links : Nat) :
    arrival (fs.follow links location [.enter name]) =
      match fs.entryIn? location name with
      | some e => .ok ⟨location ++ [name], e, links⟩
      | none => .error (access.search.getD .notFound) := by
  have hshort := Nat.not_lt.2 hname
  cases hsearch : access.search with
  | some f =>
    rw [follow_cons_of_search hdir hsearch, entryIn?_of_not_search hdir hsearch]
    rfl
  | none =>
    rw [entryIn?_of_search hdir hsearch]
    cases hlookup : entries.lookup name with
    | none =>
      rw [follow_enter_of_none hdir hsearch hshort hlookup]
      rfl
    | some e =>
      have hsome : fs.entryAt? (location ++ [name]) = some e := Entry.find?_concat hdir hlookup
      have hlink : ∀ target, e ≠ .link target := by
        rintro target rfl
        exact hfree _ target hsome
      rw [follow_enter_of_some hdir hsearch hshort hlookup hlink, follow, hsome]
      rfl

/-! ## Along a path -/

/-- The directories along a path, the last one first. -/
def trail (fs : FileSystem) (p : Path) : List Location :=
  p.steps.inits.reverse.map (fs.start p).along

theorem trail_of_steps_nil (h : p.steps = []) : fs.trail p = [fs.start p] := by
  simp [trail, h, Location.along]

/-- The parent of a path starts where the path does. -/
theorem start_parent? {q : Path} (h : p.parent? = some q) : fs.start q = fs.start p := by
  rw [start, Path.isAbsolute_parent? h]
  rfl

/-- Above the last directory along a path are those along the path without its last part. -/
theorem trail_of_parent? {q : Path} (h : p.parent? = some q) (hsteps : p.steps ≠ []) :
    fs.trail p = (fs.start p).along p.steps :: fs.trail q := by
  have hp : p.steps = q.steps ++ [p.steps.getLast hsteps] := by
    rw [Path.steps_parent? h, List.dropLast_append_getLast]
  rw [trail, trail, start_parent? h, hp, List.inits_append]
  simp

/-- Moves that neither stay nor climb enter names. -/
theorem exists_names {moves : List Move} (hstay : .stay ∉ moves) (hup : .up ∉ moves) :
    ∃ names : Location, moves = names.map .enter := by
  induction moves with
  | nil => exact ⟨[], rfl⟩
  | cons move moves ih =>
    obtain ⟨names, rfl⟩ := ih (fun h => hstay (List.mem_cons_of_mem _ h))
      (fun h => hup (List.mem_cons_of_mem _ h))
    cases move with
    | stay => exact absurd List.mem_cons_self hstay
    | up => exact absurd List.mem_cons_self hup
    | enter name => exact ⟨name :: names, rfl⟩

/-- Where the path to a directory lacks its last part it leads to a directory too. -/
theorem StepsTo.parent? {q : Path} (h : p.parent? = some q) {dir : Location}
    {access : Access} {entries : List (String × Entry)} {links : Nat}
    (hdir : fs.StepsTo p dir access entries links) :
    ∃ above access entries left, fs.StepsTo q above access entries left := by
  unfold StepsTo at hdir ⊢
  rw [start_parent? h, Path.steps_parent? h]
  by_cases hsteps : p.steps = []
  · rw [hsteps] at hdir ⊢
    exact ⟨_, _, _, _, hdir⟩
  · rw [← List.dropLast_append_getLast hsteps] at hdir
    obtain ⟨above, access, entries, left, -, habove⟩ :=
      exists_dir_of_append hdir (List.cons_ne_nil _ _)
    exact ⟨above, access, entries, left, habove⟩

/-- Without moves up the directories along a path are those above its end, down from its start. -/
theorem trail_of_not_up (hup : .up ∉ p.steps) :
    fs.trail p = ((fs.start p).along p.steps).upwards.filter (fs.start p).isPrefixOf := by
  have hstay : .stay ∉ p.steps := by simp [Path.steps]
  obtain ⟨names, hnames⟩ := exists_names hstay hup
  rw [trail, hnames, Location.along_map_enter, Location.filter_upwards_append, List.map_inits,
    ← List.map_reverse, List.map_map]
  simp [Location.along_map_enter]

end FileSystem

namespace Config

variable {fs : FileSystem} {p : Path}

/-- The first place with a config file, but none behind one with a repository mark. -/
def firstIn (fs : FileSystem) : List Location → Option Location
  | [] => none
  | dir :: dirs =>
    if (fs.entryIn? dir fileName.text).isSome then some dir
    else if (fs.entryIn? dir repositoryMark.text).isSome then none
    else firstIn fs dirs

/-- Where the config file is that is found from a path. -/
def foundAt (fs : FileSystem) (p : Path) : Option Location :=
  (find? fs p).bind fun file => (fs.resolve file).toOption.map Arrival.location

theorem text_fileName : fileName.text = ".envcheckrc.json" := String.ofList_toList

theorem text_repositoryMark : repositoryMark.text = ".git" := String.ofList_toList

theorem isName_fileName : Path.IsName fileName.text := by decide

theorem isName_repositoryMark : Path.IsName repositoryMark.text := by decide

/-- Where the name of the config file fits, that of the repository mark fits too. -/
theorem takes_repositoryMark (h : FileSystem.Takes (p.join fileName)) :
    FileSystem.Takes (p.join repositoryMark) :=
  h.join_of_shorter (by decide) (by decide) (by decide) (by decide) (by decide)

/-- What stands under a name in the last directory along a path. -/
theorem resolve_join (hfree : fs.root.LinkFree) {name : String} (hname : Path.IsName name)
    (hshort : name.utf8ByteSize ≤ FileSystem.maxName)
    (htakes : FileSystem.Takes (p.join (.ofText name)))
    {dir : Location} {access : Access} {entries : List (String × Entry)} {links : Nat}
    (hdir : fs.StepsTo p dir access entries links) :
    fs.resolve (p.join (.ofText name)) =
      match fs.entryIn? dir name with
      | some e => .ok ⟨dir ++ [name], e, links⟩
      | none => .error (access.search.getD .notFound) := by
  rw [FileSystem.resolve_eq, htakes.lead_join hname.not_isAbsolute, hname.moves,
    FileSystem.follow_append_of_arrived hdir]
  exact FileSystem.follow_enter_of_linkFree hfree (FileSystem.entry_of_follow hdir) hshort links

/-- What a search asks for in the last directory along a path. -/
theorem present_marks (hfree : fs.root.LinkFree) {dir : Location} {access : Access}
    {entries : List (String × Entry)} {links : Nat} (htakes : FileSystem.Takes (p.join fileName))
    (hdir : fs.StepsTo p dir access entries links) :
    fs.present (p.join fileName) =
        (fs.entryIn? ((fs.start p).along p.steps) fileName.text).isSome ∧
      fs.present (p.join repositoryMark) =
        (fs.entryIn? ((fs.start p).along p.steps) repositoryMark.text).isSome := by
  have hfileAt := resolve_join hfree isName_fileName (by decide) htakes hdir
  have hmarkAt := resolve_join hfree isName_repositoryMark (by decide)
    (takes_repositoryMark htakes) hdir
  obtain ⟨rfl, -⟩ := FileSystem.follow_of_linkFree hfree hdir
  constructor
  · rw [FileSystem.present, show fs.resolve (p.join fileName) = _ from hfileAt]
    cases fs.entryIn? ((fs.start p).along p.steps) fileName.text <;> rfl
  · rw [FileSystem.present, show fs.resolve (p.join repositoryMark) = _ from hmarkAt]
    cases fs.entryIn? ((fs.start p).along p.steps) repositoryMark.text <;> rfl

/-- The places along a path begin where it leads to. -/
theorem firstIn_trail (fs : FileSystem) (p : Path) :
    firstIn fs (fs.trail p) =
      if (fs.entryIn? ((fs.start p).along p.steps) fileName.text).isSome then
        some ((fs.start p).along p.steps)
      else if (fs.entryIn? ((fs.start p).along p.steps) repositoryMark.text).isSome then none
      else p.parent?.bind fun above => firstIn fs (fs.trail above) := by
  by_cases hsteps : p.steps = []
  · have hat : (fs.start p).along p.steps = fs.start p := by rw [hsteps]; rfl
    rw [FileSystem.trail_of_steps_nil hsteps, hat, firstIn]
    split
    · rfl
    · next hfile =>
      split
      · rfl
      · next hmark =>
        cases habove : p.parent? with
        | none => rfl
        | some above =>
          have hnil : above.steps = [] := by rw [Path.steps_parent? habove, hsteps]; rfl
          rw [Option.bind_some, FileSystem.trail_of_steps_nil hnil,
            FileSystem.start_parent? habove]
          simp only [firstIn, if_neg hfile, if_neg hmark]
  · cases habove : p.parent? with
    | none => exact absurd (Path.parent?_eq_none habove) hsteps
    | some above => rw [FileSystem.trail_of_parent? habove hsteps, firstIn]; rfl

/-- A config file is found where one is met first along the path. -/
theorem find?_along (hfree : fs.root.LinkFree) {dir : Location} {access : Access}
    {entries : List (String × Entry)} {links : Nat} (htakes : FileSystem.Takes (p.join fileName))
    (hdir : fs.StepsTo p dir access entries links) :
    match find? fs p with
    | none => firstIn fs (fs.trail p) = none
    | some file => ∃ found e links, firstIn fs (fs.trail p) = some found ∧
        fs.resolve file = .ok ⟨found ++ [fileName.text], e, links⟩ := by
  fun_induction find? fs p generalizing dir access entries links with
  | case1 p hpresent =>
    rw [(present_marks hfree htakes hdir).1] at hpresent
    obtain ⟨e, he⟩ := Option.isSome_iff_exists.1 hpresent
    have hfile := resolve_join hfree isName_fileName (by decide) htakes hdir
    obtain ⟨rfl, -⟩ := FileSystem.follow_of_linkFree hfree hdir
    rw [he] at hfile
    exact ⟨_, e, links, by rw [firstIn_trail, if_pos hpresent], hfile⟩
  | case2 p hpresent hrepository =>
    rw [(present_marks hfree htakes hdir).1] at hpresent
    rw [(present_marks hfree htakes hdir).2] at hrepository
    show firstIn fs (fs.trail p) = none
    rw [firstIn_trail, if_neg hpresent, if_pos hrepository]
  | case3 p hpresent hrepository habove =>
    rw [(present_marks hfree htakes hdir).1] at hpresent
    rw [(present_marks hfree htakes hdir).2] at hrepository
    show firstIn fs (fs.trail p) = none
    rw [firstIn_trail, if_neg hpresent, if_neg hrepository, habove, Option.bind_none]
  | case4 p hpresent hrepository above habove ih =>
    rw [(present_marks hfree htakes hdir).1] at hpresent
    rw [(present_marks hfree htakes hdir).2] at hrepository
    have hstep : firstIn fs (fs.trail p) = firstIn fs (fs.trail above) := by
      rw [firstIn_trail, if_neg hpresent, if_neg hrepository, habove, Option.bind_some]
    rw [hstep]
    have htakesAbove : FileSystem.Takes (above.join fileName) :=
      htakes.join_of_prefix (Path.chars_parent? habove) (by decide) (by decide)
    obtain ⟨dir', access', entries', links', hdirAbove⟩ := FileSystem.StepsTo.parent? habove hdir
    exact ih htakesAbove hdirAbove

/-! ## Loading -/

/-- The search looks in one directory, and goes on to the parent unless the directory holds the
config file or the repository mark. -/
theorem find?_eq (fs : FileSystem) (p : Path) :
    find? fs p =
      if fs.present (p.join fileName) then some (p.join fileName)
      else if fs.present (p.join repositoryMark) then none
      else p.parent?.bind (find? fs) := by
  rw [find?]
  split
  · rfl
  · split
    · rfl
    · split
      · next h => rw [h]; rfl
      · next h => rw [h]; rfl

/-- A config can be used if each of its patterns can be. -/
theorem validate_eq_ok_iff {c : Config} :
    c.validate = .ok () ↔ ∀ p ∈ c.patterns, ∃ e, p.compile = .ok e := by
  rw [validate, forM_eq_ok_iff]
  refine forall₂_congr fun p _ => ?_
  cases p.compile <;> simp

/-- A config file is read if its text is that of a config whose patterns can be used. -/
theorem readFile_eq_ok_iff {path : Path} {c : Config} :
    readFile fs path = .ok c ↔ ∃ text, fs.readText path = .ok text ∧
      reader.whole? text = .ok c ∧ ∀ p ∈ c.patterns, ∃ e, p.compile = .ok e := by
  constructor
  · intro h
    obtain ⟨text, htext, h⟩ := exists_of_bind_eq_ok h
    obtain ⟨config, hconfig, h⟩ := exists_of_bind_eq_ok h
    obtain ⟨⟨⟩, hvalid, h⟩ := exists_of_bind_eq_ok h
    cases h
    exact ⟨text, mapError_eq_ok.1 htext, mapError_eq_ok.1 hconfig, validate_eq_ok_iff.1 hvalid⟩
  · rintro ⟨text, htext, hconfig, hvalid⟩
    simp [readFile, htext, hconfig, validate_eq_ok_iff.2 hvalid, Except.mapError, Bind.bind,
      Except.bind, pure, Except.pure]

/-- Without an explicit path the file that is found is read, and the defaults stand for none. -/
theorem load_none (fs : FileSystem) (dir : Path) :
    load fs none dir = match find? fs dir with
      | some path => (readFile fs path).map fun c => (c, some path)
      | none => .ok ({}, none) := rfl

/-! ## The nearest one -/

/-- The directory that is found first is one of those searched. -/
theorem mem_of_firstIn {dirs : List Location} {dir : Location} (h : firstIn fs dirs = some dir) :
    dir ∈ dirs := by
  fun_induction firstIn fs dirs with
  | case1 => cases h
  | case2 dir' dirs hfile =>
    cases h
    exact List.mem_cons_self
  | case3 => cases h
  | case4 dir' dirs hfile hmark ih => exact List.mem_cons_of_mem _ (ih h)

/-- Where no place behind a left out one is kept, the first of those kept is the first one of all
or none. -/
theorem firstIn_filter (fs : FileSystem) {keep : Location → Bool} {dirs : List Location}
    (h : dirs.Pairwise fun a b => keep b → keep a) :
    firstIn fs (dirs.filter keep) = (firstIn fs dirs).filter keep := by
  induction dirs with
  | nil => rfl
  | cons dir dirs ih =>
    obtain ⟨hdir, hdirs⟩ := List.pairwise_cons.1 h
    by_cases hkeep : keep dir
    · rw [List.filter_cons_of_pos hkeep, firstIn, firstIn]
      split
      · rw [Option.filter_some, if_pos hkeep]
      · split
        · rfl
        · exact ih hdirs
    · have hnone : ∀ other ∈ dir :: dirs, ¬keep other := by
        rintro other (_ | ⟨_, hother⟩)
        · exact hkeep
        · exact fun h => hkeep (hdir other hother h)
      rw [List.filter_eq_nil_iff.2 hnone]
      cases hfirst : firstIn fs (dir :: dirs) with
      | none => rfl
      | some found => rw [Option.filter_some, if_neg (hnone found (mem_of_firstIn hfirst))]; rfl

end Config

/-- Without links the config file that is found is the first one along the path as it is written,
from its last directory on, and it is found whenever there is one. Where the path does not go up, it
is the nearest one at or above the directory that the path leads to, unless that one is above the
place where the path starts: so all such paths to a directory that start at one place find the same
file, and those that start at the root the nearest one. -/
theorem config_found_along_spelling {fs : FileSystem} {p : Path} {location : Location}
    {access : Access} {entries : List (String × Entry)} {links : Nat} (hfree : fs.root.LinkFree)
    (hp : fs.resolve p = .ok ⟨location, .dir access entries, links⟩)
    (hshort : (p.join Config.fileName).text.utf8ByteSize ≤ FileSystem.maxPath) :
    Config.foundAt fs p = (Config.firstIn fs (fs.trail p)).map (· ++ [Config.fileName.text]) ∧
      (Config.find? fs p).isSome = (Config.foundAt fs p).isSome ∧
      (.up ∉ p.steps → Config.firstIn fs (fs.trail p) =
        (Config.firstIn fs location.upwards).filter (fs.start p).isPrefixOf) := by
  have htakes : FileSystem.Takes (p.join Config.fileName) :=
    (FileSystem.takes_of_resolve hp).join (by decide) (by decide) hshort
  have halong := Config.find?_along hfree htakes (FileSystem.stepsTo_of_resolve hp)
  have hat : location = (fs.start p).along p.steps := by
    rw [Path.steps, Location.along_filter]
    exact (FileSystem.follow_of_linkFree hfree (FileSystem.follow_of_resolve hp)).1
  have hfound : Config.foundAt fs p =
      (Config.firstIn fs (fs.trail p)).map (· ++ [Config.fileName.text]) ∧
        (Config.find? fs p).isSome = (Config.foundAt fs p).isSome := by
    rw [Config.foundAt]
    cases hfind : Config.find? fs p with
    | none =>
      rw [hfind] at halong
      exact ⟨by rw [halong]; rfl, rfl⟩
    | some file =>
      rw [hfind] at halong
      obtain ⟨found, e, links', hfirst, hfile⟩ := halong
      rw [hfirst, Option.bind_some, hfile]
      exact ⟨rfl, rfl⟩
  refine ⟨hfound.1, hfound.2, fun hup => ?_⟩
  rw [FileSystem.trail_of_not_up hup, ← hat]
  refine Config.firstIn_filter fs ((Location.pairwise_upwards location).imp ?_)
  intro below above habove hstart
  rw [List.isPrefixOf_iff_prefix] at hstart ⊢
  exact hstart.trans habove

/-- Two directories side by side, a config file in one of them. -/
def sideTree : FileSystem :=
  ⟨.dir {} [("src", .dir {} [(".envcheckrc.json", .file (.ok []) false)]), ("lib", .dir {} [])], []⟩

/-- On the way to `lib` through `src` the config file in `src` is found, though none is above
`lib`. -/
theorem config_found_along_spelling_sideTree :
    sideTree.root.LinkFree ∧
      sideTree.resolve (.ofText "src/../lib") = .ok ⟨["lib"], .dir {} [], 40⟩ ∧
      Config.foundAt sideTree (.ofText "src/../lib") = some ["src", ".envcheckrc.json"] ∧
      Config.firstIn sideTree (Location.upwards ["lib"]) = none := by
  have hfree : sideTree.root.LinkFree := by
    refine .dir fun p hp => ?_
    simp only [List.mem_cons, List.not_mem_nil, or_false] at hp
    obtain rfl | rfl := hp
    · refine .dir fun q hq => ?_
      obtain rfl := List.mem_singleton.1 hq
      exact .file _ _
    · exact .dir fun q hq => absurd hq List.not_mem_nil
  have hlead : sideTree.lead (.ofText "src/../lib") =
      sideTree.follow 40 [] [.enter "src", .up, .enter "lib"] := by
    rw [FileSystem.lead, if_neg (by decide), if_neg (by decide), if_neg (by decide)]
    rfl
  have hresolve : sideTree.resolve (.ofText "src/../lib") = .ok ⟨["lib"], .dir {} [], 40⟩ := by
    have hsrc : "src".utf8ByteSize = 3 := by decide
    have hlib : "lib".utf8ByteSize = 3 := by decide
    rw [FileSystem.resolve, hlead]
    simp [sideTree, FileSystem.follow, FileSystem.entryAt?, Entry.find?, List.lookup_cons,
      FileSystem.maxName, hsrc, hlib]
  have hfound := (config_found_along_spelling hfree hresolve (by decide)).1
  have htrail : sideTree.trail (.ofText "src/../lib") = [["lib"], [], ["src"], []] := by decide
  have hfirst : Config.firstIn sideTree [["lib"], [], ["src"], []] = some ["src"] := by
    simp [Config.firstIn, Config.text_fileName, Config.text_repositoryMark, sideTree,
      FileSystem.entryIn?, FileSystem.entryAt?, Entry.find?, List.lookup_cons]
  have hnone : Config.firstIn sideTree [["lib"], []] = none := by
    simp [Config.firstIn, Config.text_fileName, Config.text_repositoryMark, sideTree,
      FileSystem.entryIn?, FileSystem.entryAt?, Entry.find?, List.lookup_cons]
  refine ⟨hfree, hresolve, ?_, hnone⟩
  rw [hfound, htrail, hfirst, Option.map_some, Config.text_fileName]
  rfl

end EnvAudit
