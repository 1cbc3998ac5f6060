import EnvAudit.Proofs.Files.Follow
import EnvAudit.Proofs.Path

/-!
# EnvAudit.Proofs.Files.Lead

Where joined paths lead:

1. a path that systems take at all (`FileSystem.Takes`) leads where its moves lead (`Takes.lead`);
2. a joined path leads where the moves along the second path lead behind the steps along the first
   one (`Takes.lead_join`); from a directory that is there they start in it
   (`follow_steps_of_resolve`);
3. what stands behind a start of a path, or under a shorter name, can be looked up too
   (`Takes.join_of_prefix`, `Takes.join_of_shorter`).
-/

namespace EnvAudit.FileSystem

variable {fs : FileSystem} {p q : Path}

/-- A path that can be looked up. -/
structure Takes (p : Path) : Prop where
  not_empty : p.chars ≠ []
  no_nul : '\x00' ∉ p.chars
  short : p.text.utf8ByteSize ≤ maxPath

/-- Where the moves along a path start. -/
def start (fs : FileSystem) (p : Path) : Location := if p.isAbsolute then [] else fs.current

/-- A path that is taken is followed from its start. -/
theorem Takes.lead (h : Takes p) (fs : FileSystem) :
    fs.lead p = fs.follow maxLinks (fs.start p) p.moves := by
  rw [FileSystem.lead, if_neg h.not_empty, if_neg (by simpa using h.no_nul),
    if_neg (Nat.not_lt.2 h.short)]
  rfl

/-- What a lead comes to if an entry is asked for. -/
def arrival : Except Fault Lead → Except Fault Arrival
  | .ok (.arrived a) => .ok a
  | .ok (.vacant _ _) => .error .notFound
  | .error f => .error f

theorem resolve_eq (fs : FileSystem) (p : Path) : fs.resolve p = arrival (fs.lead p) := by
  rw [resolve]
  rcases fs.lead p with f | (a | ⟨dir, name⟩) <;> rfl

/-- What leads anywhere can be looked up. -/
theorem takes_of_lead {l : Lead} (h : fs.lead p = .ok l) : Takes p := by
  unfold lead at h
  split at h
  · cases h
  · next hempty =>
    split at h
    · cases h
    · next hnul =>
      split at h
      · cases h
      · next hlong => exact ⟨hempty, by simpa using hnul, Nat.le_of_not_lt hlong⟩

theorem takes_of_resolve {a : Arrival} (h : fs.resolve p = .ok a) : Takes p :=
  takes_of_lead (lead_of_resolve h)

/-- A path that resolves has moves that arrive. -/
theorem follow_of_resolve {a : Arrival} (h : fs.resolve p = .ok a) :
    fs.follow maxLinks (fs.start p) p.moves = .ok (.arrived a) := by
  rw [← (takes_of_resolve h).lead fs]
  exact lead_of_resolve h

/-! ## Steps -/

/-- Before other moves only the steps along a path matter. -/
theorem follow_moves_append (fs : FileSystem) (links : Nat) (location : Location) (p : Path)
    {behind : List Move} (h : behind ≠ []) :
    fs.follow links location (p.moves ++ behind) = fs.follow links location (p.steps ++ behind) :=
  fs.follow_filter_stay links location [] p.moves h

/-- Behind the steps to a directory moves start in it. -/
theorem follow_steps_of_resolve {a : Arrival} (h : fs.resolve p = .ok a) {behind : List Move}
    (hbehind : behind ≠ []) :
    fs.follow maxLinks (fs.start p) (p.steps ++ behind) = fs.follow a.links a.location behind := by
  rw [← fs.follow_moves_append maxLinks _ p hbehind]
  exact follow_append_of_arrived (follow_of_resolve h) behind

/-- A joined path leads on behind the steps along the first path. -/
theorem Takes.lead_join (h : Takes (p.join q)) (hq : ¬q.isAbsolute) (fs : FileSystem) :
    fs.lead (p.join q) = fs.follow maxLinks (fs.start p) (p.steps ++ q.moves) := by
  have hstart : fs.start (p.join q) = fs.start p := by
    rw [start, Path.isAbsolute_join hq]
    rfl
  obtain ⟨before, hjoin, hp⟩ := Path.moves_join (p := p) hq
  have hsteps : p.steps = before.filter (· != .stay) := by
    rcases hp with hp | hp <;> simp [Path.steps, hp]
  rw [h.lead, hstart, hjoin, hsteps]
  exact fs.follow_filter_stay maxLinks _ [] before q.moves_ne_nil

/-- Moves that arrive start in a directory that can be searched. -/
theorem exists_dir_of_follow_cons {links : Nat} {location : Location} {move : Move}
    {moves : List Move} {a : Arrival}
    (h : fs.follow links location (move :: moves) = .ok (.arrived a)) :
    ∃ access entries, fs.entryAt? location = some (.dir access entries) ∧ access.search = none := by
  cases he : fs.entryAt? location with
  | none =>
    rw [follow_cons_of_none he] at h
    cases h
  | some e =>
    cases e with
    | file | link =>
      rw [follow_cons_of_not_dir he (fun _ _ => by simp)] at h
      cases h
    | dir access entries =>
      cases hsearch : access.search with
      | none => exact ⟨access, entries, rfl, hsearch⟩
      | some f =>
        rw [follow_cons_of_search he hsearch] at h
        cases h

/-- On the way to an entry all moves but the last lead to directories that can be searched. -/
theorem exists_dir_of_append {links : Nat} {location : Location} {moves more : List Move}
    {a : Arrival} (h : fs.follow links location (moves ++ more) = .ok (.arrived a))
    (hmore : more ≠ []) :
    ∃ dir access entries left, access.search = none ∧
      fs.follow links location moves = .ok (.arrived ⟨dir, .dir access entries, left⟩) := by
  obtain ⟨⟨dir, e, left⟩, hmid⟩ := exists_arrived_of_append h
  rw [follow_append_of_arrived hmid] at h
  obtain ⟨move, more, rfl⟩ := List.exists_cons_of_ne_nil hmore
  obtain ⟨access, entries, hdir, hsearch⟩ := exists_dir_of_follow_cons h
  obtain rfl : e = .dir access entries := Option.some.inj ((entry_of_follow hmid).symm.trans hdir)
  exact ⟨dir, access, entries, left, hsearch, hmid⟩

/-- The steps along a path lead to a directory. -/
abbrev StepsTo (fs : FileSystem) (p : Path) (dir : Location) (access : Access)
    (entries : List (String × Entry)) (links : Nat) : Prop :=
  fs.follow maxLinks (fs.start p) p.steps = .ok (.arrived ⟨dir, .dir access entries, links⟩)

/-- The steps along a path to a directory lead to it. -/
theorem stepsTo_of_resolve {location : Location} {access : Access}
    {entries : List (String × Entry)} {links : Nat}
    (h : fs.resolve p = .ok ⟨location, .dir access entries, links⟩) :
    fs.StepsTo p location access entries links :=
  follow_filter_stay_of_arrived (follow_of_resolve h)

/-- Behind a path that can be looked up so can a name, unless both are too long. -/
theorem Takes.join (h : Takes p) (hq : ¬q.isAbsolute) (hnul : '\x00' ∉ q.chars)
    (hshort : (p.join q).text.utf8ByteSize ≤ maxPath) : Takes (p.join q) where
  not_empty := Path.chars_join_ne_nil hq (.inl h.not_empty)
  no_nul := by
    rw [Path.mem_chars_join hq (by decide)]
    exact fun hmem => hmem.elim h.no_nul hnul
  short := hshort

/-- Behind a start of a path a name can be looked up if this is so behind all of it. -/
theorem Takes.join_of_prefix {above name : Path} (h : Takes (p.join name))
    (habove : above.chars <+: p.chars) (hname : ¬name.isAbsolute) (hempty : name.chars ≠ []) :
    Takes (above.join name) where
  not_empty := Path.chars_join_ne_nil hname (.inr hempty)
  no_nul := by
    have hslash : '\x00' ≠ '/' := by decide
    have hnul := h.no_nul
    rw [Path.mem_chars_join hname hslash] at hnul ⊢
    exact fun hmem => hnul (hmem.imp_left (habove.subset ·))
  short := Nat.le_trans (Path.size_join_le_of_prefix habove hname) h.short

/-- A shorter name can be looked up behind a path if a longer one can. -/
theorem Takes.join_of_shorter {name other : Path} (h : Takes (p.join name))
    (hname : ¬name.isAbsolute) (hother : ¬other.isAbsolute) (hempty : other.chars ≠ [])
    (hnul : '\x00' ∉ other.chars) (hshort : other.text.utf8ByteSize ≤ name.text.utf8ByteSize) :
    Takes (p.join other) where
  not_empty := Path.chars_join_ne_nil hother (.inr hempty)
  no_nul := by
    have hslash : '\x00' ≠ '/' := by decide
    have hjoin := h.no_nul
    rw [Path.mem_chars_join hname hslash] at hjoin
    rw [Path.mem_chars_join hother hslash]
    exact fun hmem => hmem.elim (fun hp => hjoin (.inl hp)) hnul
  short := Nat.le_trans (Path.size_join_le_of_size_le hname hother hshort) h.short

end EnvAudit.FileSystem
