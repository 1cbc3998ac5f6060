import EnvAudit.Proofs.Files.Walk
import EnvAudit.Proofs.Text.Utf8
import Mathlib.Data.List.Pairwise
import Mathlib.Data.String.Basic

/-!
# EnvAudit.Proofs.Files.Below

The files at or below a path:

1. in a tree as systems keep it, no directory has a name twice (`Entry.Distinct`);
2. `FileSystem.Below` says to which files the names below a directory lead, links followed, in
   whatever order the entries are listed, and what reading them gives;
3. names are compared by their bytes, and paths name by name (`bytesOf`).

Main statement: a walk that ends well comes to every file at or below its path, to each once, and in
ascending order of the names that lead to it (`exists_of_walk`).
-/

namespace EnvAudit

/-! ## Trees with distinct names -/

namespace Entry

mutual

/-- No directory has a name twice. -/
def Distinct : Entry → Prop
  | .dir _ entries => (entries.map Prod.fst).Nodup ∧ DistinctAll entries
  | _ => True

/-- No directory within the entries of a directory has a name twice. -/
def DistinctAll : List (String × Entry) → Prop
  | [] => True
  | (_, e) :: rest => e.Distinct ∧ DistinctAll rest

end

theorem distinctAll_iff {entries : List (String × Entry)} :
    DistinctAll entries ↔ ∀ p ∈ entries, p.2.Distinct := by
  induction entries with
  | nil => simp [DistinctAll]
  | cons p rest ih => simp [DistinctAll, ih]

/-- What stands in a tree with distinct names has distinct names. -/
theorem Distinct.find? {e found : Entry} (h : e.Distinct) {location : Location}
    (hfind : e.find? location = some found) : found.Distinct := by
  induction location generalizing e with
  | nil =>
    simp only [Entry.find?, Option.some.injEq] at hfind
    exact hfind ▸ h
  | cons name rest ih =>
    cases e with
    | file => simp [Entry.find?] at hfind
    | link => simp [Entry.find?] at hfind
    | dir access entries =>
      simp only [Entry.find?, Option.bind_eq_some_iff] at hfind
      obtain ⟨child, hchild, hfind⟩ := hfind
      simp only [Distinct] at h
      exact ih (distinctAll_iff.1 h.2 _ (mem_of_lookup hchild)) hfind

theorem mem_sorted {entries : List (String × Entry)} {p : String × Entry} :
    p ∈ sorted entries ↔ p ∈ entries :=
  List.mem_mergeSort

theorem DistinctAll.sorted {entries : List (String × Entry)} (h : DistinctAll entries) :
    DistinctAll (sorted entries) :=
  distinctAll_iff.2 fun p hp => distinctAll_iff.1 h p (mem_sorted.1 hp)

/-- Distinct names are sorted strictly. -/
theorem pairwise_sorted {entries : List (String × Entry)} (h : (entries.map Prod.fst).Nodup) :
    (sorted entries).Pairwise fun p q => p.1 < q.1 := by
  have hle : (sorted entries).Pairwise fun p q => p.1 ≤ q.1 := by
    have hsorted : (sorted entries).Pairwise fun p q => decide (p.1 ≤ q.1) = true :=
      List.pairwise_mergeSort
        (fun p q r hpq hqr => by
          simpa using String.le_trans (by simpa using hpq) (by simpa using hqr))
        (fun p q => by simpa using String.le_total p.1 q.1) entries
    simpa only [decide_eq_true_eq] using hsorted
  have hne : (sorted entries).Pairwise fun p q => p.1 ≠ q.1 := by
    have hnodup : ((sorted entries).map Prod.fst).Nodup :=
      ((List.mergeSort_perm entries _).map Prod.fst).nodup_iff.2 h
    exact List.pairwise_map.1 hnodup
  exact hle.imp₂
    (fun p q hpq hne => String.not_le.1 fun hqp => hne (String.le_antisymm hpq hqp)) hne

/-- What is sorted with one entry more is the rest, cut in two around this entry. -/
theorem exists_sorted_cons (p : String × Entry) (entries : List (String × Entry)) :
    ∃ l m, sorted (p :: entries) = l ++ p :: m ∧ sorted entries = l ++ m ∧
      (∀ q ∈ l, ¬p.1 ≤ q.1) ∧ ∀ q ∈ m, p.1 ≤ q.1 := by
  have htrans : ∀ a b c : String × Entry, decide (a.1 ≤ b.1) → decide (b.1 ≤ c.1) →
      decide (a.1 ≤ c.1) := fun a b c hab hbc => by
    simpa using String.le_trans (by simpa using hab) (by simpa using hbc)
  have htotal : ∀ a b : String × Entry, decide (a.1 ≤ b.1) || decide (b.1 ≤ a.1) :=
    fun a b => by simpa using String.le_total a.1 b.1
  obtain ⟨l, m, hcons, hrest, hl⟩ := List.mergeSort_cons htrans htotal p entries
  have hpairwise := List.pairwise_mergeSort htrans htotal (p :: entries)
  rw [hcons, List.pairwise_append, List.pairwise_cons] at hpairwise
  refine ⟨l, m, hcons, hrest, fun q hq hle => ?_, fun q hq => ?_⟩
  · have hlate := hl q hq
    rw [decide_eq_true hle] at hlate
    cases hlate
  · exact of_decide_eq_true (hpairwise.2.1.1 q hq)

/-- A list is split in one way only into elements without a property and elements with it. -/
theorem eq_of_append_eq {α : Type} {P : α → Prop} {l m l' m' : List α} (h : l ++ m = l' ++ m')
    (hl : ∀ a ∈ l, ¬P a) (hm : ∀ a ∈ m, P a) (hl' : ∀ a ∈ l', ¬P a) (hm' : ∀ a ∈ m', P a) :
    l = l' ∧ m = m' := by
  induction l generalizing l' with
  | nil =>
    cases l' with
    | nil => exact ⟨rfl, h⟩
    | cons a l' =>
      have ha : a ∈ m := by
        rw [List.nil_append] at h
        simp [h]
      exact absurd (hm a ha) (hl' a (by simp))
  | cons a l ih =>
    cases l' with
    | nil =>
      have ha : a ∈ m' := by
        rw [List.nil_append] at h
        simp [← h]
      exact absurd (hm' a ha) (hl a (by simp))
    | cons b l' =>
      obtain ⟨rfl, hrest⟩ := List.cons.inj h
      obtain ⟨rfl, rfl⟩ := ih hrest (fun c hc => hl c (List.mem_cons_of_mem _ hc))
        fun c hc => hl' c (List.mem_cons_of_mem _ hc)
      exact ⟨rfl, rfl⟩

/-- Leaving entries out does not change the order of the others. -/
theorem filter_sorted (keep : String × Entry → Bool) (entries : List (String × Entry)) :
    (sorted entries).filter keep = sorted (entries.filter keep) := by
  induction entries with
  | nil => simp [sorted]
  | cons p entries ih =>
    obtain ⟨l, m, hcons, hrest, hl, hm⟩ := exists_sorted_cons p entries
    rw [hrest, List.filter_append] at ih
    rw [hcons, List.filter_append, List.filter_cons, List.filter_cons]
    split
    · obtain ⟨l', m', hcons', hrest', hl', hm'⟩ := exists_sorted_cons p (entries.filter keep)
      obtain ⟨hleft, hright⟩ := eq_of_append_eq (ih.trans hrest')
        (fun q hq => hl q (List.mem_of_mem_filter hq))
        (fun q hq => hm q (List.mem_of_mem_filter hq)) hl' hm'
      rw [hcons', hleft, hright]
    · exact ih

end Entry

/-! ## Where names lead -/

namespace FileSystem

/-- Names that lead from the entries of a directory to a file, and what reading the file gives,
links followed. They may lead through directories that cannot be listed, and in a circle. -/
inductive Below (fs : FileSystem) :
    Stand → List (String × Entry) → List String → Except Fault Bytes → Prop
  | file {s : Stand} {entries : List (String × Entry)} {name : String} {e : Entry}
      {goal : Location} {stored content : Except Fault Bytes} {program : Bool} {left : Nat} :
      (name, e) ∈ entries →
      fs.arrive s.links s.location name e = .ok ⟨goal, .file stored program, left⟩ →
      s.reading name stored = content → Below fs s entries [name] content
  | dir {s : Stand} {entries children : List (String × Entry)} {name : String} {e : Entry}
      {goal : Location} {access : Access} {left : Nat} {names : List String}
      {content : Except Fault Bytes} :
      (name, e) ∈ entries →
      fs.arrive s.links s.location name e = .ok ⟨goal, .dir access children, left⟩ →
      Below fs (s.enter name goal left access.search) children names content →
      Below fs s entries (name :: names) content

variable {fs : FileSystem} {s : Stand}

/-- What is below some entries is below any that include them. -/
theorem Below.mono {a b : List (String × Entry)} {names : List String}
    {content : Except Fault Bytes} (h : fs.Below s a names content) (hab : a ⊆ b) :
    fs.Below s b names content := by
  cases h with
  | file hmem harrive hcontent => exact .file (hab hmem) harrive hcontent
  | dir hmem harrive hbelow => exact .dir (hab hmem) harrive hbelow

/-- The order of the entries does not matter to what is below them. -/
theorem below_sorted {entries : List (String × Entry)} {names : List String}
    {content : Except Fault Bytes} :
    fs.Below s (Entry.sorted entries) names content ↔ fs.Below s entries names content :=
  ⟨fun h => h.mono fun _ => Entry.mem_sorted.1, fun h => h.mono fun _ => Entry.mem_sorted.2⟩

/-- What is below entries is below the first or below the others. -/
theorem below_cons {p : String × Entry} {rest : List (String × Entry)} {names : List String}
    {content : Except Fault Bytes} :
    fs.Below s (p :: rest) names content ↔
      fs.Below s [p] names content ∨ fs.Below s rest names content := by
  constructor
  · intro h
    cases h with
    | file hmem harrive hcontent =>
      rcases List.mem_cons.1 hmem with rfl | hmem
      · exact .inl (.file (List.mem_singleton_self _) harrive hcontent)
      · exact .inr (.file hmem harrive hcontent)
    | dir hmem harrive hbelow =>
      rcases List.mem_cons.1 hmem with rfl | hmem
      · exact .inl (.dir (List.mem_singleton_self _) harrive hbelow)
      · exact .inr (.dir hmem harrive hbelow)
  · rintro (h | h)
    · exact h.mono (by simp)
    · exact h.mono (by simp)

/-- The first name is a name of the directory. -/
theorem Below.head {entries : List (String × Entry)} {names : List String}
    {content : Except Fault Bytes} (h : fs.Below s entries names content) :
    ∃ p ∈ entries, names.head? = some p.1 := by
  cases h with
  | file hmem => exact ⟨_, hmem, rfl⟩
  | dir hmem => exact ⟨_, hmem, rfl⟩

end FileSystem

/-! ## The order of paths -/

/-- The bytes of names. -/
def bytesOf (names : List String) : List Bytes := names.map fun name => Utf8.encode name.toList

/-- Of two paths the one with the smaller first name is smaller, whatever follows. -/
theorem bytesOf_cons_lt {a b : String} (h : a < b) (s t : List String) :
    bytesOf (a :: s) < bytesOf (b :: t) :=
  List.cons_lt_cons_iff.2 (.inl (Utf8.encode_lt_encode h))

/-- Behind equal first names the rest decides. -/
theorem bytesOf_cons_lt_cons (a : String) {s t : List String} (h : bytesOf s < bytesOf t) :
    bytesOf (a :: s) < bytesOf (a :: t) :=
  List.cons_lt_cons_iff.2 (.inr ⟨rfl, h⟩)

/-! ## Walks -/

/-- The path of what names lead to from a path. -/
def Path.descend (p : Path) (names : List String) : Path :=
  names.foldl (fun p name => p.join (.ofText name)) p

/-- A file below a directory: the names that lead to it, and its content. -/
abbrev Located := List String × Except Fault Bytes

namespace FileSystem

variable {fs : FileSystem}

/-- The visits of all files below a directory in order. -/
structure Listing (fs : FileSystem) (s : Stand) (entries : List (String × Entry))
    (found : List Located) (visits : List Visit) : Prop where
  visits_eq : visits = found.map fun f => ⟨s.path.descend f.1, f.2⟩
  mem_iff : ∀ f : Located, f ∈ found ↔ fs.Below s entries f.1 f.2
  pairwise : found.Pairwise fun f g => bytesOf f.1 < bytesOf g.1

namespace Listing

variable {s : Stand} {name : String} {e : Entry} {rest : List (String × Entry)}
  {found first : List Located} {visits : List Visit}

theorem nil : fs.Listing s [] [] [] where
  visits_eq := rfl
  mem_iff f := by
    simp only [List.not_mem_nil, false_iff]
    intro h
    obtain ⟨p, hp, -⟩ := h.head
    cases hp
  pairwise := .nil

/-- Where names ascend, what is below the first comes before what is below the others. -/
theorem cons (hless : ∀ p ∈ rest, name < p.1) {below : List Visit}
    (hfirst : fs.Listing s [(name, e)] first below) (hrest : fs.Listing s rest found visits) :
    fs.Listing s ((name, e) :: rest) (first ++ found) (below ++ visits) where
  visits_eq := by rw [hfirst.visits_eq, hrest.visits_eq, List.map_append]
  mem_iff f := by rw [List.mem_append, hfirst.mem_iff, hrest.mem_iff, ← below_cons]
  pairwise := by
    refine List.pairwise_append.2 ⟨hfirst.pairwise, hrest.pairwise, fun f hf g hg => ?_⟩
    obtain ⟨p, hp, hhead⟩ := ((hfirst.mem_iff f).1 hf).head
    obtain ⟨q, hq, hhead'⟩ := ((hrest.mem_iff g).1 hg).head
    obtain rfl := List.mem_singleton.1 hp
    obtain ⟨names, hf'⟩ := List.head?_eq_some_iff.1 hhead
    obtain ⟨names', hg'⟩ := List.head?_eq_some_iff.1 hhead'
    rw [hf', hg']
    exact bytesOf_cons_lt (hless q hq) names names'

/-- A name that leads to a file lists this file. -/
theorem file {goal : Location} {stored : Except Fault Bytes} {program : Bool} {left : Nat}
    (harrive : fs.arrive s.links s.location name e = .ok ⟨goal, .file stored program, left⟩) :
    fs.Listing s [(name, e)] [([name], s.reading name stored)]
      [⟨s.child name, s.reading name stored⟩] where
  visits_eq := rfl
  mem_iff f := by
    obtain ⟨names, content⟩ := f
    constructor
    · intro hf
      cases List.mem_singleton.1 hf
      exact .file (List.mem_singleton_self _) harrive rfl
    · intro hbelow
      cases hbelow with
      | file hmem harrive' hcontent =>
        cases List.mem_singleton.1 hmem
        cases harrive.symm.trans harrive'
        cases hcontent
        exact List.mem_singleton_self _
      | dir hmem harrive' =>
        cases List.mem_singleton.1 hmem
        cases harrive.symm.trans harrive'
  pairwise := List.pairwise_singleton _ _

/-- A name that leads to a directory lists what is in it, under that name. -/
theorem dir {goal : Location} {access : Access} {children : List (String × Entry)} {left : Nat}
    (harrive : fs.arrive s.links s.location name e = .ok ⟨goal, .dir access children, left⟩)
    (hchildren : fs.Listing (s.enter name goal left access.search) (Entry.sorted children) found
      visits) :
    fs.Listing s [(name, e)] (found.map fun f => (name :: f.1, f.2)) visits where
  visits_eq := by
    rw [hchildren.visits_eq, List.map_map]
    rfl
  mem_iff f := by
    obtain ⟨names, content⟩ := f
    constructor
    · intro hf
      obtain ⟨g, hg, hfg⟩ := List.mem_map.1 hf
      cases hfg
      exact .dir (List.mem_singleton_self _) harrive (below_sorted.1 ((hchildren.mem_iff g).1 hg))
    · intro hbelow
      cases hbelow with
      | file hmem harrive' =>
        cases List.mem_singleton.1 hmem
        cases harrive.symm.trans harrive'
      | @dir _ _ _ _ _ _ _ _ names _ hmem harrive' hbelow =>
        cases List.mem_singleton.1 hmem
        cases harrive.symm.trans harrive'
        exact List.mem_map.2
          ⟨(names, content), (hchildren.mem_iff _).2 (below_sorted.2 hbelow), rfl⟩
  pairwise := List.pairwise_map.2 (hchildren.pairwise.imp (bytesOf_cons_lt_cons name))

end Listing

/-- Where a name leads, through links too, names are distinct. -/
theorem distinct_of_arrive (hfs : fs.root.Distinct) {s : Stand} {name : String} {e found : Entry}
    {goal : Location} {left : Nat} (he : e.Distinct)
    (h : fs.arrive s.links s.location name e = .ok ⟨goal, found, left⟩) : found.Distinct := by
  cases e with
  | file | dir =>
    cases h
    exact he
  | link target => exact hfs.find? (entry_of_resolveLink h)

/-- A walk through a directory that ends well comes to all files below it, in order. -/
theorem exists_listing (hfs : fs.root.Distinct) {s : Stand} {entries : List (String × Entry)}
    (hnames : entries.Pairwise fun p q => p.1 < q.1) (hdistinct : Entry.DistinctAll entries)
    (h : (fs.walkEntries s entries).result = .ok ()) :
    ∃ found, fs.Listing s entries found (fs.walkEntries s entries).notes := by
  fun_induction fs.walkEntries s entries with
  | case1 s => exact ⟨[], .nil⟩
  | case2 s name e rest content hturn ih =>
    obtain ⟨hless, hnames⟩ := List.pairwise_cons.1 hnames
    obtain ⟨-, -, hwalk, hnotes⟩ := Traced.bind_eq_ok h
    obtain ⟨found, hfound⟩ := ih hnames hdistinct.2 hwalk
    rw [hnotes]
    cases turns_iff.2 hturn with
    | file harrive _ => exact ⟨_, .cons hless (.file harrive) hfound⟩
  | case3 s name e rest goal left search children hturn ih ihrest =>
    obtain ⟨hless, hnames⟩ := List.pairwise_cons.1 hnames
    obtain ⟨he, hrest⟩ := hdistinct
    obtain ⟨⟨⟩, hbelow, hwalk, hnotes⟩ := Traced.bind_eq_ok h
    obtain ⟨found, hfound⟩ := ihrest hnames hrest hwalk
    rw [hnotes]
    cases turns_iff.2 hturn with
    | dir harrive _ _ _ =>
      have hchildren := distinct_of_arrive hfs he harrive
      obtain ⟨first, hfirst⟩ := ih (Entry.pairwise_sorted hchildren.1) hchildren.2.sorted hbelow
      exact ⟨_, .cons hless (.dir harrive hfirst) hfound⟩
  | case4 s name e rest b hturn => cases h

/-- Names that lead from a path to a file, and what reading the file gives. -/
inductive FileAt (fs : FileSystem) (root : Path) : List String → Except Fault Bytes → Prop
  | root {location : Location} {content : Except Fault Bytes} {program : Bool} {links : Nat} :
      fs.resolve root = .ok ⟨location, .file content program, links⟩ → FileAt fs root [] content
  | below {location : Location} {access : Access} {entries : List (String × Entry)} {links : Nat}
      {names : List String} {content : Except Fault Bytes} :
      fs.resolve root = .ok ⟨location, .dir access entries, links⟩ →
      fs.Below ⟨root, location, links, access.search, [location]⟩ entries names content →
      FileAt fs root names content

/-- A walk that ends well comes to every file at or below its path, in order. -/
theorem exists_of_walk (hfs : fs.root.Distinct) {root : Path} (h : (fs.walk root).result = .ok ()) :
    ∃ found : List Located,
      (fs.walk root).notes = found.map (fun f => ⟨root.descend f.1, f.2⟩) ∧
        (∀ f : Located, f ∈ found ↔ fs.FileAt root f.1 f.2) ∧
        found.Pairwise fun f g => bytesOf f.1 < bytesOf g.1 := by
  rw [walk] at h ⊢
  cases hresolve : fs.resolve root with
  | error f =>
    rw [hresolve] at h
    cases h
  | ok a =>
    obtain ⟨location, e, links⟩ := a
    rw [hresolve] at h
    cases e with
    | link => cases h
    | file content program =>
      refine ⟨[([], content)], rfl, fun f => ?_, List.pairwise_singleton _ _⟩
      obtain ⟨names, content'⟩ := f
      constructor
      · intro hf
        cases List.mem_singleton.1 hf
        exact .root hresolve
      · intro hfile
        cases hfile with
        | root hroot =>
          rw [hresolve] at hroot
          cases hroot
          exact List.mem_singleton_self _
        | below hroot =>
          rw [hresolve] at hroot
          cases hroot
    | dir access entries =>
      have hentries : (Entry.dir access entries).Distinct := hfs.find? (entry_of_resolve hresolve)
      cases hlist : access.list with
      | some f =>
        simp only [hlist] at h
        cases h
      | none =>
        simp only [hlist] at h ⊢
        obtain ⟨found, hfound⟩ :=
          exists_listing hfs (Entry.pairwise_sorted hentries.1) hentries.2.sorted h
        refine ⟨found, hfound.visits_eq, fun f => ?_, hfound.pairwise⟩
        obtain ⟨names, content⟩ := f
        rw [hfound.mem_iff, below_sorted]
        constructor
        · exact fun hbelow => .below hresolve hbelow
        · intro hfile
          cases hfile with
          | root hroot => cases hresolve.symm.trans hroot
          | below hroot hbelow =>
            cases hresolve.symm.trans hroot
            exact hbelow

end FileSystem

end EnvAudit
