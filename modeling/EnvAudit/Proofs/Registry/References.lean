import EnvAudit.Proofs.Dotenv.Keys
import EnvAudit.Proofs.Environments
import EnvAudit.Proofs.Scan.Obstacles
import Mathlib.Data.List.Nodup

/-!
# EnvAudit.Proofs.Registry.References

Files that refer to all variables that a text of assignments declares:

1. a key without `.` is a name as the default entries find it (`Dotenv.IsKey.isName`);
2. a name between two texts is read as a whole (`ways_enclosed`), so that in lines that refer to
   names these names are found, one after the other (`extract_referring`);
3. where one file only has to be read, a scan finds what is in that file (`scan_of_only_claimed`).

Main statement: when a file refers to what is declared, and no other file is scanned, then a scan
finds what is declared, and nothing is missing (`scan_referring`).
-/

namespace EnvAudit

/-! ## Keys -/

namespace Dotenv

/-- A key without `.` is a name as default entries find it. -/
theorem IsKey.isName {name : String} (h : IsKey name) (hdot : '.' ∉ name.toList) :
    Registry.IsName name := by
  refine ⟨h.1, fun c hc => ?_⟩
  have hkey := h.2 c hc
  have hdash : ∀ r ∈ CharSet.word.ranges.head?, 0x2d < r.1 := by
    rintro r ⟨⟩
    decide
  have hnext : ∀ r ∈ CharSet.word.ranges.head?, 0x2e < r.1 := by
    rintro r ⟨⟩
    decide
  have hne : c.toNat ≠ 0x2e := by
    intro hcode
    obtain rfl : c = '.' := Char.toNat_inj.1 hcode
    exact hdot hc
  rw [isKeyChar, CharSet.contains, keyChars, CharSet.covers_cons (by decide) hnext] at hkey
  rw [CharSet.contains, Registry.dashedWord, CharSet.covers_cons (Nat.le_refl _) hdash]
  simp only [Bool.or_eq_true, decide_eq_true_eq] at hkey ⊢
  refine hkey.imp_left fun hc => ?_
  omega

end Dotenv

/-! ## References -/

namespace Registry

open Reading

/-- A name between two texts is read as a whole. -/
theorem ways_enclosed {before after : String} {mark : Char} {end' name more : List Char}
    (index : Nat) (hafter : after.toList = mark :: end') (hmark : dashedWord.contains mark = false)
    (hne : name ≠ []) (hname : ∀ c ∈ name, dashedWord.contains c) {c : Cursor}
    (hrest : c.rest = before.toList ++ (name ++ (after.toList ++ more))) :
    (enclosed before index after).ways c =
      [⟨before.toList ++ (name ++ after.toList), [(index, name)]⟩] := by
  have hstops : Stops dashedWord (text after.toList) := by
    intro d x xs hd hx
    rw [text_eq, if_neg]
    rw [hd, hafter, List.cons_prefix_cons]
    rintro ⟨rfl, -⟩
    simp [hx] at hmark
  have hmove : (c.move before.toList).rest = name ++ (after.toList ++ more) :=
    Cursor.rest_move hrest
  have hrun : (c.move before.toList).rest.takeWhile dashedWord.contains = name := by
    rw [hmove, hafter, List.takeWhile_append_of_pos hname, List.cons_append,
      List.takeWhile_cons_of_neg (by simp [hmark]), List.append_nil]
  have hend : ((c.move before.toList).move name).rest = after.toList ++ more :=
    Cursor.rest_move hmove
  rw [ways_enclosed_eq, text_andThen, if_pos (hrest ▸ List.prefix_append _ _), behind,
    remember_run₁_andThen hstops, hrun, if_neg hne]
  simp only [text_eq, hend, List.prefix_append, if_true]
  rfl

/-- A reference to a name. -/
def reference (name : String) : String := "process.env[\"" ++ name ++ "\"]"

/-- Lines that refer to names. -/
def referring (names : List String) : String :=
  .join (names.map fun name => reference name ++ ";\n")

variable {name : String} {names : List String}

theorem toList_reference (name : String) :
    (reference name).toList = "process.env".toList ++
      ("[\"".toList ++ (name.toList ++ "\"]".toList)) := by
  simp [reference]

/-- A reference is read as a whole. -/
theorem ways_javascript (h : IsName name) {c : Cursor} (hrest : c.rest = (reference name).toList) :
    javascript.pattern.body.ways c = [⟨(reference name).toList, [(1, name.toList)]⟩] := by
  rw [toList_reference] at hrest
  have hmove : (c.move "process.env".toList).rest =
      "[\"".toList ++ (name.toList ++ ("\"]".toList ++ [])) := Cursor.rest_move hrest
  have hother : ¬".".toList <+: (c.move "process.env".toList).rest := by
    rw [hmove]
    simp
  rw [ways_javascript_eq, text_andThen, if_pos (hrest ▸ List.prefix_append _ _), behind, orElse,
    ways_enclosed 1 rfl (by decide) h.1 h.2 hmove, text_andThen, if_neg hother, toList_reference]
  rfl

/-- A reference to a name gives that name. -/
theorem extract_reference (h : IsName name) :
    javascript.extract (reference name).toList = [name] := by
  have hmoving := inline_javascript.moving
  have hapart : javascript.pattern.body.ways.Apart '\n' :=
    inline_javascript.apart (by decide) (by decide)
  have hways := ways_javascript h (c := .start (reference name).toList) rfl
  have hrest : ((Cursor.start (reference name).toList).move (reference name).toList).rest = [] :=
    Cursor.rest_move (List.append_nil _).symm
  have hname : nameIn? javascript.pattern.groups [(1, name.toList)] = some name := by
    have hgroups : javascript.pattern.groups = 2 := by decide
    simp [nameIn?, hgroups, List.range_succ, h.1]
  rw [PatternEntry.extract_eq inline_javascript.regular,
    hapart.found_of_head hmoving (by rw [hways]; rfl), hrest, found_nil hmoving,
    List.filterMap_cons_some hname, List.filterMap_nil]

theorem toList_referring_cons (name : String) (names : List String) :
    (referring (name :: names)).toList =
      (reference name).toList ++ ';' :: ([] ++ '\n' :: (referring names).toList) := by
  simp [referring, String.join_cons]

/-- In lines that refer to names these names are found. -/
theorem extract_referring (h : ∀ name ∈ names, IsName name) :
    javascript.extract (referring names).toList = names := by
  induction names with
  | nil => exact inline_javascript.extract_nil
  | cons name names ih =>
    rw [toList_referring_cons, inline_javascript.extract_append (by decide) (by decide),
      inline_javascript.extract_append (by decide) (by decide), inline_javascript.extract_nil,
      extract_reference (h name List.mem_cons_self),
      ih fun n hn => h n (List.mem_cons_of_mem _ hn)]
    rfl

end Registry

/-! ## One file to read -/

section Only

variable {fs : FileSystem} {registry : Registry} {root : Path} {names : List String}
  {bytes : Bytes} {e : PatternEntry}

/-- Only one file is read where no other is to be read. -/
theorem FilesRead.eq_singleton {files : List FileRead} (h : FilesRead fs registry root files)
    (hfile : fs.FileAt root names (.ok bytes)) (hfirst : registry.FirstFor (root.descend names) e)
    (honly : ∀ names' content, fs.FileAt root names' content →
      FileSystem.ClaimedBy registry (root.descend names') → names' = names) :
    files = [⟨names, e, bytes⟩] := by
  have hkeys : (files.map fun f => bytesOf f.names).Nodup := by
    refine List.pairwise_map.2 (h.pairwise.imp fun {f g} hlt heq => ?_)
    rw [heq] at hlt
    exact List.lt_irrefl _ hlt
  have hmem : (⟨names, e, bytes⟩ : FileRead) ∈ files := (h.mem_iff _).2 ⟨hfile, hfirst⟩
  refine List.perm_singleton.1 ((List.perm_ext_iff_of_nodup (hkeys.of_map _)
    (List.nodup_singleton _)).2 fun f => ?_)
  rw [List.mem_singleton]
  constructor
  · intro hf
    obtain ⟨hat, hfor⟩ := (h.mem_iff f).1 hf
    exact List.inj_on_of_nodup_map hkeys hf hmem (congrArg bytesOf (honly _ _ hat ⟨_, hfor⟩))
  · rintro rfl
    exact hmem

/-- Where only one file is to be read, a scan that ends well finds what is in that file. -/
theorem scan_of_only_claimed (hfs : fs.root.Distinct) (hfile : fs.FileAt root names (.ok bytes))
    (hfirst : registry.FirstFor (root.descend names) e)
    (honly : ∀ names' content, fs.FileAt root names' content →
      FileSystem.ClaimedBy registry (root.descend names') → names' = names)
    {debug : Bool} {s : Scan} (hs : (scan fs registry debug root).result = .ok s) :
    s.files = 1 ∧ s.names.toList = (e.extract (Utf8.decodeLossy bytes)).eraseDups := by
  obtain ⟨files, hread, hfiles, hnames, -⟩ := exists_filesRead hfs hs
  obtain rfl := hread.eq_singleton hfile hfirst honly
  refine ⟨hfiles, hnames.trans ?_⟩
  simp [FileRead.found]

end Only

/-- Whatever a text of assignments declares, if no key has a `.`: let a file of TypeScript refer to
each declared variable in a line of its own, in ascending order, and let no other file have to be
read. Nothing but an obstacle stops a scan, and one that is not stopped finds exactly the declared
variables, in this order, and none of them is missing. -/
theorem scan_referring {content : String} {keys : List String}
    (hkeys : ∀ key, key ∈ keys ↔ (Dotenv.declared content).declares key)
    (hascending : keys.Pairwise (· < ·)) (hdot : ∀ key ∈ keys, '.' ∉ key.toList)
    {fs : FileSystem} (hfs : fs.root.Distinct) {root : Path} {names : List String}
    (hfile : fs.FileAt root names (.ok (Utf8.encode (Registry.referring keys).toList)))
    (hextension : Scan.dottedExtension? (root.descend names) = some ".ts")
    (honly : ∀ names' content', fs.FileAt root names' content' →
      FileSystem.ClaimedBy .default (root.descend names') → names' = names) (debug : Bool) :
    (Source.readDotenv content).result = .ok (Dotenv.declared content) ∧
      ((∀ names' b, ¬fs.ObstacleAt .default root names' b) →
        ∃ s, (scan fs .default debug root).result = .ok s) ∧
      ∀ s, (scan fs .default debug root).result = .ok s →
        s.files = 1 ∧ s.names.toList = keys ∧ missing (Dotenv.declared content) s.names = [] := by
  have hfirst : Registry.default.FirstFor (root.descend names) Registry.javascript := by
    refine Scan.entryFor?_eq_some.1 ?_
    rw [Scan.entryFor?, hextension]
    rfl
  have hname : ∀ key ∈ keys, Registry.IsName key := fun key hkey =>
    (Dotenv.isKey_of_declares ((hkeys key).1 hkey)).isName (hdot key hkey)
  have hnodup : keys.Nodup := by
    refine hascending.imp fun {a b} hlt heq => ?_
    rw [heq] at hlt
    exact String.lt_irrefl _ hlt
  refine ⟨rfl, fun hfree => scan_of_no_obstacle hfs hfree debug, fun s hscan => ?_⟩
  obtain ⟨hfiles, hnames⟩ := scan_of_only_claimed hfs hfile hfirst honly hscan
  rw [Utf8.decodeLossy_of_decode? (Utf8.decode?_encode _), Registry.extract_referring hname,
    FoundNames.eraseDups_of_nodup hnodup] at hnames
  refine ⟨hfiles, hnames, missing_eq_nil.2 fun key hkey => ?_⟩
  exact (hkeys key).1 (hnames ▸ hkey)

/-- A text with keys that look like something else, one of them with two values. -/
def oddKeys : String := "export A-1=x\nß: y\nexport=z\n-='1'\nno assignment\nA-1=\"2\""

/-- The odd keys are those that the text declares. -/
theorem declares_oddKeys {key : String} :
    (Dotenv.declared oddKeys).declares key ↔ key ∈ ["-", "A-1", "export", "ß"] := by
  have hread : (Dotenv.read oddKeys).assignments =
      [("A-1", "x"), ("ß", "y"), ("export", "z"), ("-", "1"), ("A-1", "2")] := by cbv
  rw [Dotenv.declares_declared, hread]
  simp
  grind

/-- A file of TypeScript beside one that is not searched and cannot be read. -/
def besideTree (bytes : Bytes) : FileSystem where
  root := .dir {} [("all.ts", .file (.ok bytes) false), ("old.md", .file (.error .denied) false)]
  current := []

theorem scan_referring_oddKeys :
    let keys := ["-", "A-1", "export", "ß"]
    let tree := besideTree (Utf8.encode (Registry.referring keys).toList)
    tree.root.Distinct ∧
      ∃ s, (scan tree .default true (.ofText ".")).result = .ok s ∧ s.files = 1 ∧
        s.names.toList = keys ∧ missing (Dotenv.declared oddKeys) s.names = [] := by
  intro keys tree
  have hdistinct : tree.root.Distinct := by
    simp [tree, besideTree, Entry.Distinct, Entry.DistinctAll]
  have hresolve : ∀ bytes, (besideTree bytes).resolve (.ofText ".") =
      .ok ⟨[], (besideTree bytes).root, 40⟩ := fun bytes => by cbv
  have hstop : ∀ bytes, Scan.stop? .default ((besideTree bytes).walk (.ofText ".")) = none :=
    fun bytes => by cbv
  have hfree : ∀ names b, ¬tree.ObstacleAt .default (.ofText ".") names b := by
    have hwalk := FileSystem.isFirst_walk hdistinct .default (.ofText ".")
    rw [hstop] at hwalk
    cases hwalk with
    | free hfree => exact hfree
  have hfile : tree.FileAt (.ofText ".") ["all.ts"] _ :=
    .below (hresolve _) (.file List.mem_cons_self rfl rfl)
  have hunclaimed : ¬FileSystem.ClaimedBy .default (Path.descend (.ofText ".") ["old.md"]) := by
    rintro ⟨e, hfirst⟩
    cases (Scan.entryFor?_eq_some.2 hfirst : none = some e)
  have honly : ∀ names content, tree.FileAt (.ofText ".") names content →
      FileSystem.ClaimedBy .default (Path.descend (.ofText ".") names) → names = ["all.ts"] := by
    rintro names content hat hclaimed
    cases hat with
    | root hroot => cases hroot.symm.trans (hresolve _)
    | below hroot hbelow =>
      cases hroot.symm.trans (hresolve _)
      cases hbelow with
      | file hmem harrive =>
        simp only [List.mem_cons, Prod.mk.injEq, List.not_mem_nil, or_false] at hmem
        rcases hmem with ⟨rfl, -⟩ | ⟨rfl, -⟩
        · rfl
        · exact absurd hclaimed hunclaimed
      | dir hmem harrive hbelow =>
        simp only [List.mem_cons, Prod.mk.injEq, List.not_mem_nil, or_false] at hmem
        rcases hmem with ⟨-, rfl⟩ | ⟨-, rfl⟩ <;> cases harrive
  obtain ⟨-, hends, hfound⟩ := scan_referring (fun key => declares_oddKeys.symm) (by decide)
    (by decide) hdistinct hfile (by decide) honly true
  obtain ⟨s, hs⟩ := hends hfree
  exact ⟨hdistinct, s, hs, hfound s hs⟩

end EnvAudit
