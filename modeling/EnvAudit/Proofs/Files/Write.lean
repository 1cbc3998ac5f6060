import EnvAudit.Files.Edit
import EnvAudit.Proofs.Files.Alike
import EnvAudit.Proofs.Files.Follow
import EnvAudit.Proofs.Text.Utf8

/-!
# EnvAudit.Proofs.Files.Write

Writing a file that is there: it can be done wherever the file can be read, what was written is read
back, and nothing else changes (`FileSystem.write_of_read`).
-/

namespace EnvAudit

variable {P : Except Fault Bytes → Except Fault Bytes → Prop}

namespace Entry

theorem lookup_putEntry (entries : List (String × Entry)) (name : String) (e : Entry) :
    (putEntry entries name e).lookup name = some e := by
  induction entries with
  | nil => simp [putEntry]
  | cons p rest ih =>
    simp only [putEntry]
    split
    · simp
    · next hne =>
      have hne' : (name == p.1) = false := by simpa using Ne.symm hne
      rw [List.lookup_cons, hne']
      exact ih

/-- Under other names nothing changes. -/
theorem lookup_putEntry_of_ne {n m : String} (h : m ≠ n) (entries : List (String × Entry))
    (e : Entry) : (putEntry entries n e).lookup m = entries.lookup m := by
  have hne : (m == n) = false := by simpa using h
  induction entries with
  | nil => simp [putEntry, List.lookup_cons, hne]
  | cons p rest ih =>
    unfold putEntry
    split
    · next hp => rw [List.lookup_cons, List.lookup_cons, hne, hp, hne]
    · rw [List.lookup_cons, List.lookup_cons, ih]

/-- An entry with a new name is put behind the others. -/
theorem putEntry_of_lookup_eq_none {entries : List (String × Entry)} {n : String}
    (h : entries.lookup n = none) (e : Entry) : putEntry entries n e = entries ++ [(n, e)] := by
  induction entries with
  | nil => rfl
  | cons p rest ih =>
    rw [List.lookup_cons] at h
    split at h
    · cases h
    · next hne =>
      have hp : p.1 ≠ n := fun hp => by simp [hp] at hne
      rw [putEntry, if_neg hp, ih h, List.cons_append]

theorem ne_of_lookup_eq_none {entries : List (String × Entry)} {n : String}
    (h : entries.lookup n = none) {p : String × Entry} (hp : p ∈ entries) : p.1 ≠ n := by
  rintro rfl
  simpa using List.lookup_eq_none_iff.1 h p hp

/-- Where an entry takes the place of another one, the other names keep theirs. -/
theorem forall₂_putEntry {r : Entry → Entry → Prop} (hrefl : ∀ e, r e e)
    {entries : List (String × Entry)} {n : String} {e f : Entry}
    (hlookup : entries.lookup n = some e) (hr : r e f) :
    List.Forall₂ (fun p q => p.1 = q.1 ∧ r p.2 q.2) entries (putEntry entries n f) := by
  induction entries with
  | nil => cases hlookup
  | cons p rest ih =>
    have hrest : List.Forall₂ (fun p q => p.1 = q.1 ∧ r p.2 q.2) rest rest :=
      List.forall₂_same.2 fun q _ => ⟨rfl, hrefl q.2⟩
    rw [List.lookup_cons] at hlookup
    unfold putEntry
    split at hlookup
    · next hp =>
      have hp : n = p.1 := by simpa using hp
      cases hlookup
      rw [if_pos hp.symm]
      exact .cons ⟨hp.symm, hr⟩ hrest
    · next hp =>
      have hp : p.1 ≠ n := fun hp' => by simp [hp'] at hp
      rw [if_neg hp]
      exact .cons ⟨rfl, hrefl p.2⟩ (ih hlookup)

/-- Where a name stands for an entry that is alike already, a directory stays alike. -/
theorem alikeAll_putEntry (hrefl : ∀ c, P c c) {entries : List (String × Entry)} {name : String}
    {e f : Entry} (hlookup : entries.lookup name = some e) (he : e.Alike P f) :
    AlikeAll P entries (putEntry entries name f) :=
  alikeAll_iff.2 (forall₂_putEntry (Alike.refl hrefl) hlookup he)

/-- What is put at a location is found there; beside it nothing changes. -/
theorem alike_changeDir (hrefl : ∀ c, P c c) {root e f : Entry} {dir : Location} {name : String}
    (hfind : root.find? (dir ++ [name]) = some e) (he : e.Alike P f) :
    root.Alike P (root.changeDir (fun es => putEntry es name f) dir) ∧
      (root.changeDir (fun es => putEntry es name f) dir).find? (dir ++ [name]) = some f := by
  induction dir generalizing root with
  | nil =>
    cases root with
    | file => simp [find?] at hfind
    | link => simp [find?] at hfind
    | dir access entries =>
      simp only [List.nil_append, find?, Option.bind_fun_some] at hfind
      simp only [changeDir, List.nil_append, find?, lookup_putEntry]
      exact ⟨.dir access (alikeAll_putEntry hrefl hfind he), rfl⟩
  | cons n dir ih =>
    cases root with
    | file => simp [find?] at hfind
    | link => simp [find?] at hfind
    | dir access entries =>
      simp only [List.cons_append, find?, Option.bind_eq_some_iff] at hfind
      obtain ⟨child, hchild, hfind⟩ := hfind
      obtain ⟨halike, hfound⟩ := ih hfind
      simp only [changeDir, hchild, List.cons_append, find?, lookup_putEntry]
      exact ⟨.dir access (alikeAll_putEntry hrefl hchild halike), hfound⟩

/-- Where anything but the root is a directory, the root is one. -/
theorem isDir_of_find? {e : Entry} {location : Location} {access : Access}
    {entries : List (String × Entry)} (h : e.find? location = some (.dir access entries)) :
    e.isDir := by
  cases e with
  | dir => rfl
  | file => cases location <;> simp [find?] at h
  | link => cases location <;> simp [find?] at h

end Entry

namespace FileSystem

variable {fs : FileSystem}

/-- Only a root that is a directory leads anywhere. -/
theorem root_isDir_of_lead {p : Path} {l : Lead} (h : fs.lead p = .ok l) : fs.root.isDir := by
  unfold lead at h
  split at h
  · cases h
  · split at h
    · cases h
    · split at h
      · cases h
      · obtain ⟨move, moves, hcons⟩ := List.exists_cons_of_ne_nil p.moves_ne_nil
        rw [hcons, follow] at h
        split at h
        · cases h
        · next he => exact Entry.isDir_of_find? he
        · cases h

/-- What is read is the content of the file to which the path leads. -/
theorem read_eq_ok {p : Path} {bytes : Bytes} (h : fs.read p = .ok bytes) :
    ∃ location program links,
      fs.resolve p = .ok ⟨location, .file (.ok bytes) program, links⟩ := by
  rw [read] at h
  cases hresolve : fs.resolve p with
  | error f =>
    rw [hresolve] at h
    cases h
  | ok a =>
    rw [hresolve] at h
    obtain ⟨location, e, links⟩ := a
    cases e with
    | file content program =>
      cases (show content = .ok bytes from h)
      exact ⟨location, program, links, rfl⟩
    | dir => cases h
    | link => cases h

/-- A file that can be read can be written; then it holds what was written, and nothing else has
changed. -/
theorem write_of_read (hrefl : ∀ c, P c c) {p : Path} {old new : Bytes} (h : fs.read p = .ok old)
    (hP : P (.ok old) (.ok new)) :
    ∃ fs', fs.write p new = .ok fs' ∧ fs.Alike P fs' ∧ fs'.read p = .ok new := by
  obtain ⟨location, program, links, hresolve⟩ := read_eq_ok h
  have hlead := lead_of_resolve hresolve
  have hfind : fs.root.find? location = some (.file (.ok old) program) := entry_of_resolve hresolve
  obtain ⟨dir, name, rfl⟩ : ∃ dir name, location = dir ++ [name] := by
    rcases List.eq_nil_or_concat location with rfl | hconcat
    · have hroot := root_isDir_of_lead hlead
      simp only [Entry.find?, Option.some.injEq] at hfind
      rw [hfind] at hroot
      cases hroot
    · simpa using hconcat
  obtain ⟨halike, hfound⟩ := Entry.alike_changeDir hrefl hfind (.file program hP)
  have hfs : fs.Alike P (fs.put dir name (.file (.ok new) program)) := ⟨halike, rfl⟩
  refine ⟨_, ?_, hfs, ?_⟩
  · rw [write, hlead]
    simp [bind, Except.bind]
    rfl
  · have hresolve' := hfs.resolve p
    rw [hresolve] at hresolve'
    generalize hthere : (fs.put dir name (.file (.ok new) program)).resolve p = y at hresolve'
    cases hresolve' with
    | @ok _ b hab =>
      obtain ⟨location, e, links'⟩ := b
      obtain ⟨rfl, -, rfl⟩ := hab
      have he : some (Entry.file (.ok new) program) = some e :=
        hfound.symm.trans (entry_of_resolve hthere)
      cases he
      rw [read, hthere]
      rfl

/-- A text that is read is what the bytes of the file decode to. -/
theorem readText_eq_ok {p : Path} {text : String} (h : fs.readText p = .ok text) :
    ∃ bytes, fs.read p = .ok bytes ∧ Utf8.decode? bytes = some text.toList := by
  rw [readText] at h
  cases hread : fs.read p with
  | error f =>
    rw [hread] at h
    cases h
  | ok bytes =>
    rw [hread] at h
    simp only [bind, Except.bind] at h
    split at h
    · next cs hcs =>
      cases h
      exact ⟨bytes, rfl, by rw [hcs, String.toList_ofList]⟩
    · cases h

/-- A file with the bytes of a text reads as that text. -/
theorem readText_of_read {p : Path} {text : String}
    (h : fs.read p = .ok (Utf8.encode text.toList)) :
    fs.readText p = .ok text := by
  rw [readText, h]
  simp only [bind, Except.bind, Utf8.decode?_encode, String.ofList_toList]

end FileSystem

end EnvAudit
