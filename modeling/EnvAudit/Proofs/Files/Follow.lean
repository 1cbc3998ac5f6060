import EnvAudit.Files.Resolve
import Mathlib.Data.List.Induction

/-!
# EnvAudit.Proofs.Files.Follow

Making moves one after the other:

1. where moves lead is where the later ones lead from where the earlier ones do
   (`follow_append_of_arrived`), there is an entry after each of them (`exists_arrived_of_append`),
   and staying matters only at the end (`follow_filter_stay`);
2. what a path leads to is no link (`resolve_ne_link`).
-/

namespace EnvAudit

theorem Path.moves_ne_nil (p : Path) : p.moves ≠ [] := by
  simp [moves, segments, splitOnChar_ne_nil]

namespace Entry

/-- Going down in two stretches is going down at once. -/
theorem find?_append (e : Entry) (a b : Location) :
    e.find? (a ++ b) = (e.find? a).bind fun found => found.find? b := by
  induction a generalizing e with
  | nil => rfl
  | cons name a ih =>
    cases e with
    | file => rfl
    | link => rfl
    | dir access entries =>
      simp only [List.cons_append, find?]
      cases entries.lookup name with
      | none => rfl
      | some child => exact ih child

/-- What is above an entry is a directory. -/
theorem exists_dir_of_find?_concat {e found : Entry} {location : Location} {name : String}
    (h : e.find? (location ++ [name]) = some found) :
    ∃ access entries, e.find? location = some (.dir access entries) ∧
      entries.lookup name = some found := by
  rw [find?_append, Option.bind_eq_some_iff] at h
  obtain ⟨above, habove, hfound⟩ := h
  cases above with
  | file => simp [find?] at hfound
  | link => simp [find?] at hfound
  | dir access entries =>
    refine ⟨access, entries, habove, ?_⟩
    simpa [find?] using hfound

/-- Above an entry of a tree there is a directory, and above the tree itself nothing. -/
theorem find?_dropLast {e : Entry} {location : Location} {access : Access}
    {entries : List (String × Entry)} (h : e.find? location = some (.dir access entries)) :
    ∃ access above, e.find? location.dropLast = some (.dir access above) := by
  rcases List.eq_nil_or_concat location with rfl | ⟨above, name, rfl⟩
  · exact ⟨access, entries, h⟩
  · obtain ⟨access, es, hes, -⟩ := exists_dir_of_find?_concat (by simpa using h)
    exact ⟨access, es, by simpa using hes⟩

/-- The entry with a name in a directory stands one level further down. -/
theorem find?_concat {e child : Entry} {location : Location} {access : Access}
    {entries : List (String × Entry)} {name : String}
    (h : e.find? location = some (.dir access entries))
    (hchild : entries.lookup name = some child) : e.find? (location ++ [name]) = some child := by
  simp [find?_append, h, find?, hchild]

end Entry

namespace FileSystem

variable {fs : FileSystem}

/-! ## One move

What a move from a directory comes to; all moves need that names can be looked up in it. -/

section Steps

variable {links : Nat} {location : Location} {access : Access} {entries : List (String × Entry)}
  {name : String} {moves : List Move}

/-- No move leads out of a directory that cannot be searched. -/
theorem follow_cons_of_search {f : Fault} (he : fs.entryAt? location = some (.dir access entries))
    (hsearch : access.search = some f) (move : Move) :
    fs.follow links location (move :: moves) = .error f := by
  simp only [follow, he, hsearch]

variable (he : fs.entryAt? location = some (.dir access entries)) (hsearch : access.search = none)
include he hsearch

theorem follow_stay_cons :
    fs.follow links location (.stay :: moves) = fs.follow links location moves := by
  simp only [follow, he, hsearch]

theorem follow_up_cons :
    fs.follow links location (.up :: moves) = fs.follow links location.dropLast moves := by
  simp only [follow, he, hsearch]

/-- A name that is too long leads nowhere. -/
theorem follow_enter_of_long (hlong : maxName < name.utf8ByteSize) :
    fs.follow links location (.enter name :: moves) = .error .nameTooLong := by
  simp only [follow, he, hsearch, if_pos hlong]

variable (hlong : ¬maxName < name.utf8ByteSize)
include hlong

/-- A name that is missing is vacant when it comes last, and otherwise leads nowhere. -/
theorem follow_enter_of_none (hname : entries.lookup name = none) :
    fs.follow links location (.enter name :: moves) =
      if moves = [] then .ok (.vacant location name) else .error .notFound := by
  simp only [follow, he, hsearch, if_neg hlong, hname]

/-- A link is not followed once as many were followed as may be. -/
theorem follow_enter_of_link_zero {target : Path}
    (hname : entries.lookup name = some (.link target)) :
    fs.follow 0 location (.enter name :: moves) = .error .tooManyLinks := by
  simp only [follow, he, hsearch, if_neg hlong, hname]

/-- A link leads on from where it stands, and the remaining moves from where it leads. -/
theorem follow_enter_of_link {target : Path} (hname : entries.lookup name = some (.link target)) :
    fs.follow (links + 1) location (.enter name :: moves) =
      fs.follow links (if target.isAbsolute then [] else location) (target.moves ++ moves) := by
  rw [follow, he]
  simp only [hsearch, if_neg hlong, hname]

/-- A name that is no link is entered. -/
theorem follow_enter_of_some {e : Entry} (hname : entries.lookup name = some e)
    (hlink : ∀ target, e ≠ .link target) :
    fs.follow links location (.enter name :: moves) =
      fs.follow links (location ++ [name]) moves := by
  rw [follow, he]
  simp only [hsearch, if_neg hlong, hname]

end Steps

/-- No move leads out of what is not a directory. -/
theorem follow_cons_of_not_dir {links : Nat} {location : Location} {e : Entry}
    (he : fs.entryAt? location = some e) (hdir : ∀ access entries, e ≠ .dir access entries)
    (move : Move) (moves : List Move) :
    fs.follow links location (move :: moves) = .error .notDirectory := by
  rw [follow, he]
  cases e with
  | dir access entries => exact absurd rfl (hdir access entries)
  | file => rfl
  | link => rfl

theorem follow_cons_of_none {links : Nat} {location : Location} (he : fs.entryAt? location = none)
    (move : Move) (moves : List Move) :
    fs.follow links location (move :: moves) = .error .notFound := by
  simp only [follow, he]

/-! ## Moves behind moves -/

/-- Moves that lead to an entry are made first. -/
theorem follow_append_of_arrived {links : Nat} {location : Location} {moves : List Move}
    {a : Arrival} (h : fs.follow links location moves = .ok (.arrived a)) (more : List Move) :
    fs.follow links location (moves ++ more) = fs.follow a.links a.location more := by
  fun_induction fs.follow links location moves with
  | case1 links location e he => cases h; rfl
  | case5 links location moves access entries he hsearch ih =>
    rw [List.cons_append, follow_stay_cons he hsearch]
    exact ih h
  | case6 links location moves access entries he hsearch ih =>
    rw [List.cons_append, follow_up_cons he hsearch]
    exact ih h
  | case11 location moves access entries he hsearch name hlong target hname links ih =>
    rw [List.cons_append, follow_enter_of_link he hsearch hlong hname, ← List.append_assoc]
    exact ih h
  | case12 links location moves access entries he hsearch name hlong e hlink hname ih =>
    rw [List.cons_append, follow_enter_of_some he hsearch hlong hname hlink]
    exact ih h
  | _ => cases h

/-- To stay in a directory before another move changes nothing. -/
theorem follow_stay (fs : FileSystem) (links : Nat) (location : Location) {moves : List Move}
    (h : moves ≠ []) :
    fs.follow links location (.stay :: moves) = fs.follow links location moves := by
  obtain ⟨move, moves, rfl⟩ := List.exists_cons_of_ne_nil h
  cases he : fs.entryAt? location with
  | none => rw [follow_cons_of_none he, follow_cons_of_none he]
  | some e =>
    cases e with
    | file | link => simp only [follow, he]
    | dir access entries =>
      cases hsearch : access.search with
      | none => exact follow_stay_cons he hsearch
      | some f => rw [follow_cons_of_search he hsearch, follow_cons_of_search he hsearch]

/-- Staying in the middle of moves changes nothing. -/
theorem follow_append_stay (fs : FileSystem) (links : Nat) (location : Location)
    (before : List Move) {behind : List Move} (h : behind ≠ []) :
    fs.follow links location (before ++ .stay :: behind) =
      fs.follow links location (before ++ behind) := by
  match before with
  | [] => exact fs.follow_stay links location h
  | move :: before =>
    rw [List.cons_append, List.cons_append, follow, follow]
    split
    · rfl
    · split
      · rfl
      · split
        · exact fs.follow_append_stay links location before h
        · exact fs.follow_append_stay links location.dropLast before h
        · split
          · rfl
          · split
            · simp [h]
            · cases links with
              | zero => rfl
              | succ links =>
                rw [← List.append_assoc, ← List.append_assoc]
                exact fs.follow_append_stay links _ (_ ++ before) h
            · exact fs.follow_append_stay links _ before h
    · rfl
termination_by (links, before.length)

/-- To stay matters only at the end. -/
theorem follow_filter_stay (fs : FileSystem) (links : Nat) (location : Location)
    (before moves : List Move) {behind : List Move} (h : behind ≠ []) :
    fs.follow links location (before ++ moves ++ behind) =
      fs.follow links location (before ++ moves.filter (· != .stay) ++ behind) := by
  induction moves generalizing before with
  | nil => rfl
  | cons move moves ih =>
    have hnil : moves ++ behind ≠ [] := fun hnil => h (List.append_eq_nil_iff.1 hnil).2
    by_cases hmove : move = .stay
    · subst hmove
      have hskip := fs.follow_append_stay links location before hnil
      simp only [← List.append_assoc] at hskip
      simpa [hskip] using ih before
    · simpa [hmove] using ih (before ++ [move])

/-- On the way to an entry there is an entry after each move. -/
theorem exists_arrived_of_append {links : Nat} {location : Location} {moves more : List Move}
    {a : Arrival} (h : fs.follow links location (moves ++ more) = .ok (.arrived a)) :
    ∃ mid, fs.follow links location moves = .ok (.arrived mid) := by
  fun_induction fs.follow links location moves with
  | case1 links location e he => exact ⟨_, rfl⟩
  | case2 links location he =>
    cases more <;> simp [follow, he] at h
  | case3 links location move moves he =>
    rw [List.cons_append, follow_cons_of_none he] at h
    cases h
  | case4 links location move moves access entries he f hsearch =>
    rw [List.cons_append, follow_cons_of_search he hsearch] at h
    cases h
  | case5 links location moves access entries he hsearch ih =>
    rw [List.cons_append, follow_stay_cons he hsearch] at h
    exact ih h
  | case6 links location moves access entries he hsearch ih =>
    rw [List.cons_append, follow_up_cons he hsearch] at h
    exact ih h
  | case7 links location moves access entries he hsearch name hlong =>
    rw [List.cons_append, follow_enter_of_long he hsearch hlong] at h
    cases h
  | case8 links location access entries he hsearch name hlong hname =>
    rw [List.cons_append, follow_enter_of_none he hsearch hlong hname] at h
    split at h <;> cases h
  | case9 links location moves access entries he hsearch name hlong hname hmoves =>
    rw [List.cons_append, follow_enter_of_none he hsearch hlong hname] at h
    split at h <;> cases h
  | case10 location moves access entries he hsearch name hlong target hname =>
    rw [List.cons_append, follow_enter_of_link_zero he hsearch hlong hname] at h
    cases h
  | case11 location moves access entries he hsearch name hlong target hname links ih =>
    rw [List.cons_append, follow_enter_of_link he hsearch hlong hname, ← List.append_assoc] at h
    exact ih h
  | case12 links location moves access entries he hsearch name hlong e hlink hname ih =>
    rw [List.cons_append, follow_enter_of_some he hsearch hlong hname hlink] at h
    exact ih h
  | case13 links location move moves e hdir he =>
    rw [List.cons_append, follow_cons_of_not_dir he hdir] at h
    cases h

/-- On the way to an entry no stay matters. -/
theorem follow_filter_stay_of_arrived {links : Nat} {location : Location} {moves : List Move}
    {a : Arrival} (h : fs.follow links location moves = .ok (.arrived a)) :
    fs.follow links location (moves.filter (· != .stay)) = .ok (.arrived a) := by
  induction moves using List.reverseRecOn generalizing a with
  | nil => exact h
  | append_singleton moves move ih =>
    by_cases hmove : move = .stay
    · subst hmove
      obtain ⟨mid, hmid⟩ := exists_arrived_of_append h
      have hstay : fs.follow mid.links mid.location [.stay] = .ok (.arrived a) := by
        rw [← follow_append_of_arrived hmid, h]
      obtain rfl : mid = a := by
        have hentry := entry_of_follow hmid
        rw [follow, hentry] at hstay
        split at hstay
        · cases hstay
        · next he =>
          split at hstay
          · cases hstay
          · rw [follow, hentry] at hstay
            cases hstay
            rfl
        · cases hstay
      simpa using ih hmid
    · have hlast : [move].filter (· != .stay) = [move] := by simp [hmove]
      rw [List.filter_append, hlast, ← h]
      exact (fs.follow_filter_stay links location [] moves (List.cons_ne_nil move [])).symm

/-! ## No link is arrived at -/

theorem lead_of_resolve {p : Path} {a : Arrival} (h : fs.resolve p = .ok a) :
    fs.lead p = .ok (.arrived a) := by
  unfold resolve at h
  split at h
  · next hlead =>
    cases h
    exact hlead
  · cases h
  · cases h

/-- Moves lead to no link, unless there are none. -/
theorem entry_ne_link_of_follow {links : Nat} {location : Location} {moves : List Move}
    {a : Arrival} (hstart : moves = [] → ∀ target, fs.entryAt? location ≠ some (.link target))
    (h : fs.follow links location moves = .ok (.arrived a)) (target : Path) :
    a.entry ≠ .link target := by
  fun_induction fs.follow links location moves with
  | case1 links location e he =>
    cases h
    rintro rfl
    exact hstart rfl target he
  | case5 links location moves access entries he hsearch ih =>
    refine ih (fun _ t ht => ?_) h
    rw [he] at ht
    cases ht
  | case6 links location moves access entries he hsearch ih =>
    obtain ⟨access, above, habove⟩ := Entry.find?_dropLast he
    refine ih (fun _ t ht => ?_) h
    unfold entryAt? at ht
    rw [habove] at ht
    cases ht
  | case11 location moves access entries he hsearch name hlong next hname links ih =>
    exact ih (fun hnil => absurd (List.append_eq_nil_iff.1 hnil).1 next.moves_ne_nil) h
  | case12 links location moves access entries he hsearch name hlong e hlink hname ih =>
    refine ih (fun _ t ht => ?_) h
    unfold entryAt? at ht
    rw [Entry.find?_concat he hname] at ht
    exact hlink t (Option.some.inj ht)
  | _ => cases h

/-- A path never resolves to a link. -/
theorem resolve_ne_link {p target : Path} {location : Location} {links : Nat} :
    fs.resolve p ≠ .ok ⟨location, .link target, links⟩ := by
  intro h
  have hlead := lead_of_resolve h
  unfold lead at hlead
  repeat' split at hlead
  all_goals first
    | cases hlead
    | exact entry_ne_link_of_follow (fun hnil => absurd hnil p.moves_ne_nil) hlead target rfl

/-- A link never resolves to a link. -/
theorem resolveLink_ne_link {links left : Nat} {dir location : Location} {next target : Path} :
    fs.resolveLink links dir next ≠ .ok ⟨location, .link target, left⟩ := by
  intro h
  unfold resolveLink at h
  split at h
  · cases h
  · split at h
    · next hfollow =>
      cases h
      exact entry_ne_link_of_follow (fun hnil => absurd hnil next.moves_ne_nil) hfollow target rfl
    · cases h
    · cases h

end FileSystem

end EnvAudit
