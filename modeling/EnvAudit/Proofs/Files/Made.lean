import EnvAudit.Proofs.Files.Gains

/-!
# EnvAudit.Proofs.Files.Made

Making a file in a vacant place: the tree gains this file and nothing else (`Makes`), and the path
that led to the vacant place leads to the file (`exists_put_of_vacant`). It holds as much as there
is room for (`save_of_vacant`).
-/

namespace EnvAudit

variable {name : String} {content : Except Fault Bytes}

namespace Entry

/-- An entry without what is in it. -/
def bare : Entry → Entry
  | .dir access _ => .dir access []
  | e => e

/-- An entry put into a directory is found there. -/
theorem find?_changeDir {root : Entry} {place : Location} {access : Access}
    {entries : List (String × Entry)} (hdir : root.find? place = some (.dir access entries))
    (e : Entry) :
    (root.changeDir (fun es => putEntry es name e) place).find? (place ++ [name]) = some e := by
  induction place generalizing root with
  | nil =>
    cases hdir
    simp [changeDir, find?, lookup_putEntry]
  | cons n place ih =>
    cases root with
    | file => simp [find?] at hdir
    | link => simp [find?] at hdir
    | dir _ es =>
      simp only [find?, Option.bind_eq_some_iff] at hdir
      obtain ⟨child, hchild, hdir⟩ := hdir
      simp only [changeDir, hchild, List.cons_append, find?, lookup_putEntry]
      exact ih hdir

/-- Where no file is made, there is what was there before. -/
theorem bare_find?_changeDir {root : Entry} {place location : Location} {access : Access}
    {entries : List (String × Entry)} (hdir : root.find? place = some (.dir access entries))
    (hnone : entries.lookup name = none) (hne : location ≠ place ++ [name]) :
    ((root.changeDir (fun es => putEntry es name (.file content false)) place).find? location).map
      bare = (root.find? location).map bare := by
  induction place generalizing root location with
  | nil =>
    cases hdir
    cases location with
    | nil => rfl
    | cons m rest =>
      simp only [changeDir, find?]
      by_cases hm : m = name
      · subst hm
        rw [lookup_putEntry, hnone]
        cases rest with
        | nil => exact absurd rfl hne
        | cons => rfl
      · rw [lookup_putEntry_of_ne hm]
  | cons n place ih =>
    cases root with
    | file => simp [find?] at hdir
    | link => simp [find?] at hdir
    | dir _ es =>
      simp only [find?, Option.bind_eq_some_iff] at hdir
      obtain ⟨child, hchild, hdir⟩ := hdir
      simp only [changeDir, hchild]
      cases location with
      | nil => rfl
      | cons m rest =>
        simp only [find?]
        by_cases hm : m = n
        · subst hm
          rw [lookup_putEntry, hchild]
          exact ih hdir fun hrest => hne (by rw [hrest, List.cons_append])
        · rw [lookup_putEntry_of_ne hm]

end Entry

/-- A tree, and the same with a file made at a location where there was nothing. -/
structure FileSystem.Makes (location : Location) (content : Except Fault Bytes)
    (fs fs' : FileSystem) : Prop where
  vacant : fs.entryAt? location = none
  made : fs'.entryAt? location = some (.file content false)
  others : ∀ other ≠ location,
    (fs'.entryAt? other).map Entry.bare = (fs.entryAt? other).map Entry.bare
  current : fs'.current = fs.current

namespace FileSystem

variable {fs fs' : FileSystem}

/-- A vacant place is in a directory that has no entry of the name. -/
theorem exists_dir_of_vacant {links : Nat} {location dir : Location} {moves : List Move}
    {n : String} (h : fs.follow links location moves = .ok (.vacant dir n)) :
    ∃ access entries, fs.entryAt? dir = some (.dir access entries) ∧ entries.lookup n = none := by
  fun_induction fs.follow links location moves with
  | case5 links location moves access entries he hsearch ih
    | case6 links location moves access entries he hsearch ih => exact ih h
  | case8 links location access entries he hsearch m hlong hm =>
    cases h
    exact ⟨access, entries, he, hm⟩
  | case11 location moves access entries he hsearch m hlong target hm links ih => exact ih h
  | case12 links location moves access entries he hsearch m hlong e hlink hm ih => exact ih h
  | _ => cases h

/-- A file put under a vacant name is all that is gained. -/
theorem gains_put {dir : Location} {access : Access} {entries : List (String × Entry)}
    (hdir : fs.entryAt? dir = some (.dir access entries)) (hnone : entries.lookup name = none) :
    fs.Gains name content (fs.put dir name (.file content false)) :=
  ⟨Entry.gains_changeDir hdir hnone, rfl⟩

/-- A file put under a vacant name is there, and everything else as it was. -/
theorem makes_put {dir : Location} {access : Access} {entries : List (String × Entry)}
    (hdir : fs.entryAt? dir = some (.dir access entries)) (hnone : entries.lookup name = none) :
    fs.Makes (dir ++ [name]) content (fs.put dir name (.file content false)) where
  vacant := by
    unfold entryAt? at hdir ⊢
    simp [Entry.find?_append, hdir, Entry.find?, hnone]
  made := Entry.find?_changeDir hdir _
  others := fun _ hother => Entry.bare_find?_changeDir hdir hnone hother
  current := rfl

/-- Moves that led to a vacant place lead to the file that is made there. -/
theorem Gains.follow_vacant (h : fs.Gains name content fs') {dir : Location} {n : String}
    (hmade : fs'.entryAt? (dir ++ [n]) = some (.file content false)) {links : Nat}
    {location : Location} {moves : List Move}
    (hvacant : fs.follow links location moves = .ok (.vacant dir n)) :
    ∃ left, fs'.follow links location moves =
      .ok (.arrived ⟨dir ++ [n], .file content false, left⟩) := by
  fun_induction fs.follow links location moves with
  | case5 links location moves access a he hsearch ih =>
    obtain ⟨b, hb, -⟩ := h.entries he
    rw [follow_stay_cons hb hsearch]
    exact ih hvacant
  | case6 links location moves access a he hsearch ih =>
    obtain ⟨b, hb, -⟩ := h.entries he
    rw [follow_up_cons hb hsearch]
    exact ih hvacant
  | case8 links location access a he hsearch m hlong hm =>
    cases hvacant
    obtain ⟨b, hb, -⟩ := h.entries he
    obtain ⟨access', b', hb', hfound⟩ := Entry.exists_dir_of_find?_concat hmade
    cases hb.symm.trans hb'
    refine ⟨links, ?_⟩
    rw [follow_enter_of_some hb hsearch hlong hfound (fun _ => by simp)]
    simp only [FileSystem.follow, hmade]
  | case11 location moves access a he hsearch m hlong target hm links ih =>
    obtain ⟨b, hb, hm'⟩ := h.lookup_link he hm
    rw [follow_enter_of_link hb hsearch hlong hm']
    exact ih hvacant
  | case12 links location moves access a he hsearch m hlong e hlink hm ih =>
    obtain ⟨b, f, hb, hm', hf⟩ := h.lookup_some he hm hlink
    rw [follow_enter_of_some hb hsearch hlong hm' hf]
    exact ih hvacant
  | _ => cases hvacant

/-- Where a path led to a vacant place it leads to the file that is made there. -/
theorem exists_put_of_vacant {p : Path} {dir : Location} {n : String}
    (h : fs.lead p = .ok (.vacant dir n)) :
    fs.Gains n content (fs.put dir n (.file content false)) ∧
      fs.Makes (dir ++ [n]) content (fs.put dir n (.file content false)) ∧
      ∃ left, (fs.put dir n (.file content false)).resolve p =
        .ok ⟨dir ++ [n], .file content false, left⟩ := by
  have htakes := takes_of_lead h
  rw [htakes.lead] at h
  obtain ⟨access, entries, hdir, hnone⟩ := exists_dir_of_vacant h
  have hgains : fs.Gains n content (fs.put dir n (.file content false)) := gains_put hdir hnone
  have hmakes : fs.Makes (dir ++ [n]) content (fs.put dir n (.file content false)) :=
    makes_put hdir hnone
  obtain ⟨left, hleft⟩ := hgains.follow_vacant hmakes.made h
  refine ⟨hgains, hmakes, left, ?_⟩
  rw [resolve_eq, htakes.lead]
  exact congrArg arrival hleft

/-- Nothing is in a vacant place. -/
theorem not_present_of_vacant {p : Path} {dir : Location} {n : String}
    (h : fs.lead p = .ok (.vacant dir n)) : ¬fs.present p := by
  rw [present, resolve_eq, h]
  exact Bool.false_ne_true

/-- What is saved where a path leads to nothing is in a new file, as far as there is room for it. -/
theorem save_of_vacant {storage : Storage} {p : Path} {dir : Location} {n : String} {room : Room}
    (h : fs.lead p = .ok (.vacant dir n)) (hroom : storage fs p = .ok room) (bytes : Bytes) :
    fs.save storage p bytes = (fs.put dir n (.file (.ok (room.taken bytes)) false),
      match room.refusal? bytes with
      | some f => .error f
      | none => .ok ()) := by
  have hwrite : fs.write p (room.taken bytes) =
      .ok (fs.put dir n (.file (.ok (room.taken bytes)) false)) := by
    rw [write, h]
    rfl
  cases hrefusal : room.refusal? bytes with
  | none => simp only [save, hroom, hwrite, hrefusal]
  | some fault => simp only [save, hroom, hwrite, hrefusal]

/-- Where a path leads nowhere nothing is saved. -/
theorem save_of_error (storage : Storage) {p : Path} {f : Fault} (h : fs.lead p = .error f)
    (bytes : Bytes) : ∃ fault, fs.save storage p bytes = (fs, .error fault) := by
  unfold save
  split
  · exact ⟨_, rfl⟩
  · rw [write, h]
    exact ⟨f, rfl⟩

end FileSystem

end EnvAudit
