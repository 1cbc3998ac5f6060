import EnvAudit.Proofs.Config

/-!
# EnvAudit.Proofs.Config.Nearest

Which config file is found, in any tree, by the paths that the search takes:

1. leaving out the last part again and again, a path has as many paths above it as it has parts,
   where the root stays (`Path.isSome_above?`, `Path.parts_above?`);
2. whether a name was met before some round of the search is told by the first round and by the
   rounds from the parent on (`metBefore_succ`), and so is the nearest config file
   (`nearestAt_succ`);
3. so a config file is reached from a path as the search goes on from it (`reaches_of_present`,
   `reaches_of_not_present`).

Main statement: the config file that is found is the nearest one, unless a repository mark was met
before it (`config_found_nearest`).
-/

namespace EnvAudit

namespace Path

variable {p q : Path} {n : Nat}

/-- The path without its last parts, as many as a number says. -/
def above? (p : Path) : Nat → Option Path
  | 0 => some p
  | n + 1 => (p.above? n).bind parent?

/-- What is `n + 1` levels up is `n` levels above the parent. -/
theorem above?_succ (p : Path) (n : Nat) :
    p.above? (n + 1) = p.parent?.bind fun q => q.above? n := by
  induction n with
  | zero => simp [above?]
  | succ n ih =>
    rw [above?, ih, Option.bind_assoc]
    rfl

/-- The parts are left out from the end on. -/
theorem parts_above? (h : p.above? n = some q) :
    q.parts = p.parts.take (p.parts.length - n) := by
  induction n generalizing q with
  | zero =>
    cases h
    simp
  | succ n ih =>
    obtain ⟨below, hbelow, hq⟩ := Option.bind_eq_some_iff.1 h
    rw [(parts_parent hq).1, ih hbelow, List.dropLast_eq_take, List.take_take, List.length_take]
    congr 1
    omega

/-- The root is never left out, so it comes to an end there or where no part is left. -/
theorem isSome_above? (p : Path) (n : Nat) :
    (p.above? n).isSome ↔ n + p.isAbsolute.toNat ≤ p.parts.length := by
  induction n generalizing p with
  | zero => simpa [above?] using p.isAbsolute_le_length_parts
  | succ n ih =>
    rw [above?_succ]
    cases h : p.parent? with
    | none =>
      have hlast := mt p.isSome_parent?.2 (by simp [h])
      simp only [Option.bind_none, Option.isSome_none, Bool.false_eq_true, false_iff]
      omega
    | some q =>
      have hlength := congrArg List.length (parts_parent h).1
      have hpos := List.length_pos_iff.2 (parts_parent h).2
      rw [List.length_dropLast] at hlength
      rw [Option.bind_some, ih, isAbsolute_parent? h, hlength]
      omega

end Path

namespace Config

variable {fs : FileSystem} {p start dir : Path} {name : Path} {n : Nat}

/-- There is an entry of a name in one of the first paths from a path upwards, as many as a number
says. -/
def MetBefore (fs : FileSystem) (start name : Path) (n : Nat) : Prop :=
  ∃ j < n, ∃ dir, start.above? j = some dir ∧ fs.present (dir.join name)

/-- The first path with a config file, from a path upwards, and how many rounds up it is. -/
structure NearestAt (fs : FileSystem) (start : Path) (n : Nat) (dir : Path) : Prop where
  above : start.above? n = some dir
  present : fs.present (dir.join fileName)
  first : ¬MetBefore fs start fileName n

theorem not_metBefore_zero : ¬MetBefore fs p name 0 := fun ⟨_, hj, _⟩ => Nat.not_lt_zero _ hj

/-- A name is met on the way up in the first directory or in one above it. -/
theorem metBefore_succ : MetBefore fs p name (n + 1) ↔
    fs.present (p.join name) ∨ ∃ above, p.parent? = some above ∧ MetBefore fs above name n := by
  constructor
  · rintro ⟨j, hj, dir, hdir, hpresent⟩
    cases j with
    | zero =>
      cases hdir
      exact .inl hpresent
    | succ j =>
      rw [Path.above?_succ] at hdir
      obtain ⟨above, habove, hdir⟩ := Option.bind_eq_some_iff.1 hdir
      exact .inr ⟨above, habove, j, Nat.lt_of_succ_lt_succ hj, dir, hdir, hpresent⟩
  · rintro (hpresent | ⟨above, habove, j, hj, dir, hdir, hpresent⟩)
    · exact ⟨0, Nat.succ_pos n, p, rfl, hpresent⟩
    · refine ⟨j + 1, Nat.succ_lt_succ hj, dir, ?_, hpresent⟩
      rw [Path.above?_succ, habove]
      exact hdir

/-- At level 0 the nearest directory is the start. -/
theorem nearestAt_zero : NearestAt fs p 0 dir ↔ dir = p ∧ fs.present (p.join fileName) := by
  constructor
  · rintro ⟨habove, hpresent, -⟩
    cases habove
    exact ⟨rfl, hpresent⟩
  · rintro ⟨rfl, hpresent⟩
    exact ⟨rfl, hpresent, not_metBefore_zero⟩

/-- Further up, the start has no config file and the nearest is found from the parent. -/
theorem nearestAt_succ : NearestAt fs p (n + 1) dir ↔
    ¬fs.present (p.join fileName) ∧ ∃ above, p.parent? = some above ∧ NearestAt fs above n dir := by
  constructor
  · rintro ⟨hdir, hpresent, hfirst⟩
    rw [metBefore_succ, not_or] at hfirst
    rw [Path.above?_succ] at hdir
    obtain ⟨above, habove, hdir⟩ := Option.bind_eq_some_iff.1 hdir
    exact ⟨hfirst.1, above, habove, hdir, hpresent, fun hmet => hfirst.2 ⟨above, habove, hmet⟩⟩
  · rintro ⟨hnone, above, habove, hdir, hpresent, hfirst⟩
    refine ⟨by rw [Path.above?_succ, habove]; exact hdir, hpresent, fun hmet => ?_⟩
    rcases metBefore_succ.1 hmet with hhere | ⟨other, hother, hmet⟩
    · exact hnone hhere
    · cases habove.symm.trans hother
      exact hfirst hmet

/-- A config file is the one in the first path that has one, and no repository mark was met
before. -/
def Reaches (fs : FileSystem) (start file : Path) : Prop :=
  ∃ n dir, NearestAt fs start n dir ∧ ¬MetBefore fs start repositoryMark n ∧
    file = dir.join fileName

/-- Where the start has a config file, this is the one reached. -/
theorem reaches_of_present {file : Path} (hfile : fs.present (p.join fileName)) :
    Reaches fs p file ↔ file = p.join fileName := by
  constructor
  · rintro ⟨n, dir, hnearest, -, rfl⟩
    cases n with
    | zero => rw [(nearestAt_zero.1 hnearest).1]
    | succ n => exact absurd hfile (nearestAt_succ.1 hnearest).1
  · rintro rfl
    exact ⟨0, p, nearestAt_zero.2 ⟨rfl, hfile⟩, not_metBefore_zero, rfl⟩

/-- Where there is no config file, one is reached from the parent, unless there is a repository
mark. -/
theorem reaches_of_not_present {file : Path} (hfile : ¬fs.present (p.join fileName)) :
    Reaches fs p file ↔ ¬fs.present (p.join repositoryMark) ∧
      ∃ above, p.parent? = some above ∧ Reaches fs above file := by
  constructor
  · rintro ⟨n, dir, hnearest, hclear, rfl⟩
    cases n with
    | zero => exact absurd (nearestAt_zero.1 hnearest).2 hfile
    | succ n =>
      obtain ⟨-, above, habove, hnearest⟩ := nearestAt_succ.1 hnearest
      rw [metBefore_succ, not_or] at hclear
      exact ⟨hclear.1, above, habove, n, dir, hnearest,
        fun hmet => hclear.2 ⟨above, habove, hmet⟩, rfl⟩
  · rintro ⟨hmark, above, habove, n, dir, hnearest, hclear, rfl⟩
    refine ⟨n + 1, dir, nearestAt_succ.2 ⟨hfile, above, habove, hnearest⟩, fun hmet => ?_, rfl⟩
    rcases metBefore_succ.1 hmet with hhere | ⟨other, hother, hmet⟩
    · exact hmark hhere
    · cases habove.symm.trans hother
      exact hclear hmet

/-- The search finds a file exactly when the file is the nearest within reach. -/
theorem find?_eq_some_iff {file : Path} : find? fs start = some file ↔ Reaches fs start file := by
  fun_induction find? fs start with
  | case1 p hfile => rw [reaches_of_present hfile, Option.some.injEq, eq_comm]
  | case2 p hfile hmark => simp [reaches_of_not_present hfile, hmark]
  | case3 p hfile hmark hnone => simp [reaches_of_not_present hfile, hnone]
  | case4 p hfile hmark above habove ih =>
    rw [ih, reaches_of_not_present hfile, habove]
    simp [hmark]

/-- The default configuration without a path is loaded exactly when the search finds nothing. -/
theorem load_eq_defaults_iff {c : Config} :
    load fs none start = .ok (c, none) ↔ find? fs start = none ∧ c = {} := by
  rw [load_none]
  cases find? fs start with
  | none => simp [eq_comm]
  | some file =>
    refine iff_of_false (fun h => ?_) (fun h => Option.some_ne_none file h.1)
    obtain ⟨config, -, hconfig⟩ := exists_of_map_eq_ok h
    cases hconfig

end Config

/-- From any path the search goes up part by part and comes to an end at the root or where no part
is left. It finds the config file in the first of these paths that has one, unless a repository mark
was met before: one beside the file does not hide it. Where it finds one, this one is read, and the
defaults are used, with the path of no file, exactly where it finds none. A file is read if its text
is that of a config whose patterns can be used, and then as this config. -/
theorem config_found_nearest (fs : FileSystem) (start : Path) :
    (∀ n, (start.above? n).isSome ↔ n + start.isAbsolute.toNat ≤ start.parts.length) ∧
      (∀ n dir, start.above? n = some dir →
        dir.parts = start.parts.take (start.parts.length - n)) ∧
      (∀ file, Config.find? fs start = some file ↔
        ∃ n dir, Config.NearestAt fs start n dir ∧
          ¬Config.MetBefore fs start Config.repositoryMark n ∧ file = dir.join Config.fileName) ∧
      (Config.find? fs start = none ↔ ∀ n dir, Config.NearestAt fs start n dir →
        Config.MetBefore fs start Config.repositoryMark n) ∧
      (∀ file, Config.find? fs start = some file →
        Config.load fs none start = (Config.readFile fs file).map fun c => (c, some file)) ∧
      (∀ c, Config.load fs none start = .ok (c, none) ↔ Config.find? fs start = none ∧ c = {}) ∧
      ∀ file c, Config.readFile fs file = .ok c ↔ ∃ text, fs.readText file = .ok text ∧
        Config.reader.whole? text = .ok c ∧ ∀ p ∈ c.patterns, ∃ e, p.compile = .ok e := by
  refine ⟨start.isSome_above?, fun n dir => Path.parts_above?, fun file => Config.find?_eq_some_iff,
    ?_, fun file hfile => ?_, fun c => Config.load_eq_defaults_iff,
    fun file c => Config.readFile_eq_ok_iff⟩
  · rw [Option.eq_none_iff_forall_ne_some]
    constructor
    · intro hnone n dir hnearest
      by_contra hclear
      exact hnone _ (Config.find?_eq_some_iff.2 ⟨n, dir, hnearest, hclear, rfl⟩)
    · intro hmet file hfile
      obtain ⟨n, dir, hnearest, hclear, -⟩ := Config.find?_eq_some_iff.1 hfile
      exact hclear (hmet n dir hnearest)
  · rw [Config.load_none, hfile]

end EnvAudit
