import EnvAudit.Proofs.Files.Within
import EnvAudit.Proofs.Path.Behind

/-!
# EnvAudit.Proofs.Files.Copies

Two copies of a closed tree, in one place each:

1. what can be told of a path is told by the entry that it leads to (`FileSystem.look`);
2. paths that go on in the same way behind the paths to the copies lead to the same entries
   (`look_join`), and to the same directories (`exists_sameDir`);
3. walks through a directory of the tree come to the same files in both copies
   (`SameDir.walk_like`).
-/

namespace EnvAudit

namespace FileSystem

variable {fs fs' : FileSystem} {p p' q : Path}

/-! ## What a path leads to -/

/-- The entry that a path leads to. -/
def look (fs : FileSystem) (p : Path) : Except Fault Entry := (fs.resolve p).map Arrival.entry

/-- What one sees along a path is the entry to which it leads. -/
theorem look_eq_ok {e : Entry} :
    fs.look p = .ok e ↔ ∃ location links, fs.resolve p = .ok ⟨location, e, links⟩ := by
  rw [look]
  constructor
  · intro h
    cases hresolve : fs.resolve p with
    | error f =>
      rw [hresolve] at h
      cases h
    | ok a =>
      rw [hresolve] at h
      cases h
      exact ⟨_, _, rfl⟩
  · rintro ⟨location, links, h⟩
    rw [h]
    rfl

theorem present_eq (fs : FileSystem) (p : Path) :
    fs.present p = (fs.look p).toOption.isSome := by
  rw [present, look]
  cases fs.resolve p <;> rfl

theorem isDir_eq (fs : FileSystem) (p : Path) :
    fs.isDir p = (fs.look p).toOption.any Entry.isDir := by
  rw [isDir, look]
  cases fs.resolve p <;> rfl

theorem isFile_eq (fs : FileSystem) (p : Path) :
    fs.isFile p = (fs.look p).toOption.any Entry.isFile := by
  rw [isFile, look]
  cases fs.resolve p <;> rfl

/-- What looks the same is a directory in both or in neither. -/
theorem isDir_congr (h : fs.look p = fs'.look p') : fs.isDir p = fs'.isDir p' := by
  rw [isDir_eq, isDir_eq, h]

/-- What looks the same is a file in both or in neither. -/
theorem isFile_congr (h : fs.look p = fs'.look p') : fs.isFile p = fs'.isFile p' := by
  rw [isFile_eq, isFile_eq, h]

theorem exists_arrival {kind : Arrival → Bool} (h : (fs.resolve p).toOption.any kind) :
    ∃ a, fs.resolve p = .ok a ∧ kind a := by
  cases hresolve : fs.resolve p with
  | error f =>
    rw [hresolve] at h
    cases h
  | ok a =>
    rw [hresolve] at h
    exact ⟨a, rfl, h⟩

/-- A path is a directory when it leads to one. -/
theorem exists_of_isDir (h : fs.isDir p) :
    ∃ location access entries links,
      fs.resolve p = .ok ⟨location, .dir access entries, links⟩ := by
  obtain ⟨⟨location, e, links⟩, hresolve, hdir⟩ := exists_arrival h
  cases e with
  | dir access entries => exact ⟨location, access, entries, links, hresolve⟩
  | file => cases hdir
  | link => cases hdir

/-- A path is a file when it leads to one. -/
theorem exists_of_isFile (h : fs.isFile p) :
    ∃ location content program links,
      fs.resolve p = .ok ⟨location, .file content program, links⟩ := by
  obtain ⟨⟨location, e, links⟩, hresolve, hfile⟩ := exists_arrival h
  cases e with
  | file content program => exact ⟨location, content, program, links, hresolve⟩
  | dir => cases hfile
  | link => cases hfile

/-- What looks the same reads the same. -/
theorem read_congr (h : fs.look p = fs'.look p') : fs.read p = fs'.read p' := by
  rw [look, look] at h
  rw [read, read]
  cases hp : fs.resolve p with
  | error f =>
    cases hp' : fs'.resolve p' with
    | error f' =>
      rw [hp, hp'] at h
      cases h
      rfl
    | ok a' =>
      rw [hp, hp'] at h
      cases h
  | ok a =>
    cases hp' : fs'.resolve p' with
    | error f' =>
      rw [hp, hp'] at h
      cases h
    | ok a' =>
      rw [hp, hp'] at h
      obtain ⟨location, e, links⟩ := a
      obtain ⟨location', e', links'⟩ := a'
      obtain rfl : e = e' := Except.ok.inj h
      cases e <;> rfl

/-- What looks the same has the same text. -/
theorem readText_congr (h : fs.look p = fs'.look p') : fs.readText p = fs'.readText p' := by
  rw [readText, readText, read_congr h]

end FileSystem

/-! ## Where paths behind a path lead -/

namespace FileSystem

variable {fs fs' : FileSystem} {top top' p p' q : Path} {base base' : Location} {tree : Entry}
  {links : Nat} {inner : List Move}

/-- Behind the path to a closed tree a path leads where its steps lead in the tree alone. -/
theorem lead_within (htree : tree.Closed) (htop : fs.resolve top = .ok ⟨base, tree, links⟩)
    (hp : top.Extends p inner) (hinner : .up ∉ inner) (hq : ¬q.isAbsolute) (hup : .up ∉ q.moves)
    (htakes : Takes (p.join q)) :
    fs.lead (p.join q) =
      ((alone tree).follow links [] (inner ++ q.moves)).map (Lead.within base) := by
  have hstart : fs.start p = fs.start top := by
    rw [start, hp.start]
    rfl
  have hmoves : inner ++ q.moves ≠ [] := fun h => q.moves_ne_nil (List.append_eq_nil_iff.1 h).2
  have hescapes : ¬tree.Escapes [] (inner ++ q.moves) :=
    htree.not_escapes (fun h => (List.mem_append.1 h).elim hinner hup) []
  rw [htakes.lead_join hq, hstart, hp.steps, List.append_assoc,
    follow_steps_of_resolve htop hmoves, ← follow_within (entry_of_resolve htop) htree hescapes,
    List.append_nil]

/-- A name with a NUL leads nowhere. -/
theorem lead_of_nul (hempty : p.chars ≠ []) (hnul : '\x00' ∈ p.chars) :
    fs.lead p = .error .nulInName := by
  rw [lead, if_neg hempty, if_pos (by simpa using hnul)]

/-- Behind a path a name with a NUL leads nowhere. -/
theorem look_join_of_nul (hempty : p.chars ≠ []) (hq : ¬q.isAbsolute) (hnul : '\x00' ∈ q.chars) :
    fs.look (p.join q) = .error .nulInName := by
  have hjoin : '\x00' ∈ (p.join q).chars := (Path.mem_chars_join hq (by decide)).2 (.inr hnul)
  rw [look, resolve_eq, lead_of_nul (Path.chars_join_ne_nil hq (.inl hempty)) hjoin]
  rfl

/-- Behind a path that can be looked up a path that is too long leads nowhere. -/
theorem look_join_of_long (htakes : Takes p) (hq : ¬q.isAbsolute) (hnul : '\x00' ∉ q.chars)
    (hlong : maxPath < (p.join q).text.utf8ByteSize) :
    fs.look (p.join q) = .error .nameTooLong := by
  have hjoin : '\x00' ∉ (p.join q).chars := by
    rw [Path.mem_chars_join hq (by decide)]
    exact fun h => h.elim htakes.no_nul hnul
  rw [look, resolve_eq, lead, if_neg (Path.chars_join_ne_nil hq (.inl htakes.not_empty)),
    if_neg (by simpa using hjoin), if_pos hlong]
  rfl

/-- A path that stays at a directory leads to no file. -/
theorem not_isFile_join {location : Location} {access : Access} {entries : List (String × Entry)}
    (hp : fs.resolve p = .ok ⟨location, .dir access entries, links⟩) (hq : ¬q.isAbsolute)
    (hsteps : q.steps = []) : ¬fs.isFile (p.join q) := by
  intro hfile
  rw [isFile_eq] at hfile
  cases hlook : fs.look (p.join q) with
  | error f =>
    rw [hlook] at hfile
    cases hfile
  | ok e =>
    obtain ⟨goal, left, hgoal⟩ := look_eq_ok.1 hlook
    have hlead := lead_of_resolve hgoal
    rw [(takes_of_resolve hgoal).lead_join hq, follow_steps_of_resolve hp q.moves_ne_nil] at hlead
    have hstay := follow_filter_stay_of_arrived hlead
    have hnil : q.moves.filter (· != .stay) = [] := hsteps
    rw [hnil, follow, entry_of_resolve hp] at hstay
    cases hstay
    rw [hlook] at hfile
    cases hfile

section Copies

variable (htree : tree.Closed) (htop : fs.resolve top = .ok ⟨base, tree, links⟩)
  (htop' : fs'.resolve top' = .ok ⟨base', tree, links⟩) (hp : top.Extends p inner)
  (hp' : top'.Extends p' inner) (hinner : .up ∉ inner)
include htree htop htop' hp hp' hinner

/-- Below the two copies a path leads to the same place within each, as long as both file systems
take it. -/
theorem resolve_join_of_takes (hq : ¬q.isAbsolute) (hup : .up ∉ q.moves)
    (htakes : Takes (p.join q)) (htakes' : Takes (p'.join q)) :
    ∃ r : Except Fault Arrival, fs.resolve (p.join q) = r.map (Arrival.within base) ∧
      fs'.resolve (p'.join q) = r.map (Arrival.within base') := by
  refine ⟨arrival ((alone tree).follow links [] (inner ++ q.moves)), ?_, ?_⟩
  · rw [resolve_eq, lead_within htree htop hp hinner hq hup htakes, arrival_map_within]
  · rw [resolve_eq, lead_within htree htop' hp' hinner hq hup htakes', arrival_map_within]

/-- Below the two copies a path shows the same, as long as both file systems take it. -/
theorem look_join_of_takes (hq : ¬q.isAbsolute) (hup : .up ∉ q.moves) (htakes : Takes (p.join q))
    (htakes' : Takes (p'.join q)) : fs.look (p.join q) = fs'.look (p'.join q) := by
  obtain ⟨r, hr, hr'⟩ :=
    resolve_join_of_takes htree htop htop' hp hp' hinner hq hup htakes htakes'
  rw [look, look, hr, hr']
  cases r <;> rfl

/-- Paths that go on in the same way behind the paths to two copies lead to the same entry. -/
theorem look_join (htakes : Takes p) (htakes' : Takes p') (hq : ¬q.isAbsolute)
    (hup : .up ∉ q.moves) (hshort : (p.join q).text.utf8ByteSize ≤ maxPath)
    (hshort' : (p'.join q).text.utf8ByteSize ≤ maxPath) :
    fs.look (p.join q) = fs'.look (p'.join q) := by
  by_cases hnul : '\x00' ∈ q.chars
  · rw [look_join_of_nul htakes.not_empty hq hnul, look_join_of_nul htakes'.not_empty hq hnul]
  · exact look_join_of_takes htree htop htop' hp hp' hinner hq hup
      (htakes.join hq hnul hshort) (htakes'.join hq hnul hshort')

/-- Where the paths are of one size, it does not matter whether they are too long. -/
theorem look_join_of_size_eq (htakes : Takes p) (htakes' : Takes p') (hq : ¬q.isAbsolute)
    (hup : .up ∉ q.moves)
    (hsize : (p.join q).text.utf8ByteSize = (p'.join q).text.utf8ByteSize) :
    fs.look (p.join q) = fs'.look (p'.join q) := by
  by_cases hshort : (p.join q).text.utf8ByteSize ≤ maxPath
  · exact look_join htree htop htop' hp hp' hinner htakes htakes' hq hup hshort (hsize ▸ hshort)
  · by_cases hnul : '\x00' ∈ q.chars
    · rw [look_join_of_nul htakes.not_empty hq hnul, look_join_of_nul htakes'.not_empty hq hnul]
    · have hlong := Nat.lt_of_not_le hshort
      rw [look_join_of_long htakes hq hnul hlong,
        look_join_of_long htakes' hq hnul (hsize ▸ hlong)]

end Copies

/-! ## Directories of the tree -/

/-- Paths to one directory of two copies of a tree. -/
structure SameDir (fs fs' : FileSystem) (base base' : Location) (p p' : Path)
    (location : Location) (entries : List (String × Entry)) (links : Nat) : Prop where
  left : fs.resolve p = .ok ⟨base ++ location, .dir {} entries, links⟩
  right : fs'.resolve p' = .ok ⟨base' ++ location, .dir {} entries, links⟩

section Copies

variable (htree : tree.Closed) (htop : fs.resolve top = .ok ⟨base, tree, links⟩)
  (htop' : fs'.resolve top' = .ok ⟨base', tree, links⟩)
include htree htop htop'

/-- A directory of the tree is one in both copies. -/
theorem exists_sameDir {sub : Option Path} (hsub : ∀ q ∈ sub, ¬q.isAbsolute ∧ .up ∉ q.moves)
    (hdir : fs.isDir (sub.elim top top.join))
    (hshort : (sub.elim top' top'.join).text.utf8ByteSize ≤ maxPath) :
    ∃ inner location entries left, .up ∉ inner ∧ top.Extends (sub.elim top top.join) inner ∧
      top'.Extends (sub.elim top' top'.join) inner ∧
      SameDir fs fs' base base' (sub.elim top top.join) (sub.elim top' top'.join) location entries
        left := by
  obtain ⟨goal, access, entries, left, hgoal⟩ := exists_of_isDir hdir
  cases sub with
  | none =>
    cases htop.symm.trans hgoal
    obtain rfl := htree.usable [] access entries rfl
    refine ⟨[], [], entries, links, List.not_mem_nil, .refl top, .refl top', ?_, ?_⟩
    · simpa using htop
    · simpa using htop'
  | some q =>
    obtain ⟨hq, hup⟩ := hsub q rfl
    have hsteps : .up ∉ q.steps := fun h => hup (List.mem_filter.1 h).1
    rw [Option.elim] at hgoal hshort
    have htakes : Takes (top.join q) := takes_of_resolve hgoal
    have hnul : '\x00' ∉ q.chars := fun h =>
      htakes.no_nul ((Path.mem_chars_join hq (by decide)).2 (.inr h))
    obtain ⟨r, hr, hr'⟩ := resolve_join_of_takes htree htop htop' (.refl top) (.refl top')
      List.not_mem_nil hq hup htakes ((takes_of_resolve htop').join hq hnul hshort)
    cases r with
    | error f => cases hgoal.symm.trans hr
    | ok a =>
      obtain ⟨location, found, left⟩ := a
      cases hgoal.symm.trans hr
      have hfound : tree.find? location = some (.dir access entries) :=
        (entryAt?_within (entry_of_resolve htop) location).symm.trans (entry_of_resolve hgoal)
      obtain rfl := htree.usable location access entries hfound
      exact ⟨q.steps, location, entries, left, hsteps, Path.extends_join hq,
        Path.extends_join hq, hgoal, hr'⟩

/-- From places that correspond, walks through a directory of the tree come to the same files in
both copies, if they fit. -/
theorem SameDir.walk_like {location : Location} {entries : List (String × Entry)} {left : Nat}
    (h : SameDir fs fs' base base' p p' location entries left) {same : Path → Path → Prop}
    (hsame : KeptByNames same) (hp : same p p') (hfit : Walk.Fit same (fs.walk p) (fs'.walk p')) :
    (fs.walk p).Like same (fs'.walk p') := by
  have hbase := entry_of_resolve htop
  have hbase' := entry_of_resolve htop'
  have hdir : tree.find? location = some (.dir {} entries) :=
    (entryAt?_within hbase location).symm.trans (entry_of_resolve h.left)
  have hentries : ∀ q ∈ Entry.sorted entries, tree.find? (location ++ [q.1]) = some q.2 :=
    fun q hq => Entry.find?_of_mem htree.distinct hdir (Entry.mem_sorted.1 hq)
  let s : Stand := ⟨p, location, left, none, [location]⟩
  have hs : s.Within base ⟨p, base ++ location, left, none, [base ++ location]⟩ :=
    ⟨rfl, rfl, rfl, rfl⟩
  have hs' : s.Within base' ⟨p', base' ++ location, left, none, [base' ++ location]⟩ :=
    ⟨rfl, rfl, rfl, rfl⟩
  have hnames : KeptByNames (· = ·) := fun _ heq => by rw [heq]
  have hequal : ∀ {p q : Path}, p = q → (p.Short ↔ q.Short) := fun heq => by rw [heq]
  have halone := Walk.eq_of_like
    (walkEntries_within hbase htree hnames hs rfl hentries (.inl hequal))
  simp only [walk, h.left, h.right] at hfit ⊢
  rw [← halone] at hfit ⊢
  exact walkEntries_within hbase' htree hsame hs' hp hentries hfit

end Copies

end FileSystem

end EnvAudit
