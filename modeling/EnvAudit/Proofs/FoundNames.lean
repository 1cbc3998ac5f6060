import EnvAudit.FoundNames
import Mathlib.Data.List.Perm.Basic

/-!
# EnvAudit.Proofs.FoundNames

A list of names and the set beside it:

1. the names that were added one after the other are all names, each where it came first
   (`toList_insertAll`);
2. the set has the names of the list, each once (`perm_toList_seen`), so that the lists tell whether
   two of them are equal (`beq_iff`);
3. whether a name is new when it is added is whether it was not among those added before
   (`insert_ofList`).

Main statement: of names that are added one after the other, the first of each is kept, and all that
can be asked agrees with the list (`added_names_kept_once`).
-/

namespace EnvAudit.FoundNames

variable {f g : FoundNames}

@[simp] theorem toList_empty : (∅ : FoundNames).toList = [] := rfl

theorem contains_iff {name : String} : f.contains name ↔ name ∈ f.toList := by
  rw [contains, Std.HashSet.contains_iff_mem, f.mem_seen, toList, Array.mem_toList_iff]

/-- A name that was found before is not added again. -/
theorem insert_of_mem {name : String} (h : name ∈ f.toList) :
    (f.insert name).1 = f := by
  rw [insert, dif_pos (contains_iff.2 h)]

/-- A new name is added at the end. -/
theorem toList_insert_of_not_mem {name : String} (h : name ∉ f.toList) :
    (f.insert name).1.toList = f.toList ++ [name] := by
  rw [insert, dif_neg fun hc => h (contains_iff.1 hc)]
  simp [toList]

theorem eraseDups_of_nodup {names : List String} (h : names.Nodup) : names.eraseDups = names := by
  induction names with
  | nil => rfl
  | cons n names ih =>
    obtain ⟨hn, hnames⟩ := List.nodup_cons.1 h
    rw [List.eraseDups_cons, List.filter_eq_self.2, ih hnames]
    rintro m hm
    have hne : m ≠ n := by
      rintro rfl
      exact hn hm
    simpa using hne

/-- Names that are added stand behind the others, each where it comes first. -/
theorem toList_insertAll (f : FoundNames) (names : List String) :
    (f.insertAll names).toList = (f.toList ++ names).eraseDups := by
  induction names generalizing f with
  | nil =>
    rw [List.append_nil]
    exact (eraseDups_of_nodup f.nodup).symm
  | cons n names ih =>
    have hcons : f.insertAll (n :: names) = (f.insert n).1.insertAll names := rfl
    rw [hcons, ih]
    by_cases h : n ∈ f.toList
    · rw [insert_of_mem h, List.eraseDups_append, List.eraseDups_append]
      congr 2
      simp [List.removeAll, h]
    · rw [toList_insert_of_not_mem h, List.append_assoc]
      rfl

/-- The names found are those from before and those added. -/
theorem mem_toList_insertAll {names : List String} {name : String} :
    name ∈ (f.insertAll names).toList ↔ name ∈ f.toList ∨ name ∈ names := by
  rw [toList_insertAll, List.mem_eraseDups, List.mem_append]

/-! ## The set beside the list -/

/-- The names seen are those in the list, in some order. -/
theorem perm_toList_seen (f : FoundNames) : f.seen.toList.Perm f.toList := by
  have hnodup : f.seen.toList.Nodup :=
    Std.HashSet.distinct_toList.imp fun hne => by simpa using hne
  refine (List.perm_ext_iff_of_nodup hnodup f.nodup).2 fun name => ?_
  rw [Std.HashSet.mem_toList, f.mem_seen, Array.mem_toList_iff]

/-- As many names were seen as are in the list. -/
theorem size_seen (f : FoundNames) : f.seen.size = f.toList.length := by
  rw [← Std.HashSet.length_toList, f.perm_toList_seen.length_eq]

/-- Beside equal lists the sets have the same names, in whatever way they came to them. -/
theorem beq_iff : f == g ↔ f.toList = g.toList := by
  have hbeq : f == g ↔ f.names = g.names ∧ f.seen.size = g.seen.size ∧
      ∀ name ∈ f.seen, name ∈ g.seen := by
    change (f.names == g.names && f.seen.size == g.seen.size && f.seen.all g.seen.contains) ↔ _
    simp only [Bool.and_eq_true, beq_iff_eq, Std.HashSet.all_eq_true_iff_forall_mem,
      Std.HashSet.contains_iff_mem, and_assoc]
  rw [hbeq, toList, toList, Array.toList_inj]
  constructor
  · exact And.left
  · intro hnames
    refine ⟨hnames, ?_, fun name hname => ?_⟩
    · rw [size_seen, size_seen, toList, toList, hnames]
    · rw [g.mem_seen, ← hnames]
      exact (f.mem_seen name).1 hname

/-! ## Names that are added to none -/

/-- The names found are those inserted. -/
theorem mem_toList_ofList {inserted : List String} {name : String} :
    name ∈ (ofList inserted).toList ↔ name ∈ inserted := by
  rw [ofList, mem_toList_insertAll, toList_empty]
  simp

/-- A name that was added before changes neither the list nor the set. -/
theorem insert_ofList (inserted : List String) (name : String) :
    (ofList inserted).insert name =
      if name ∈ inserted then (ofList inserted, false)
      else (ofList (inserted ++ [name]), true) := by
  have hnext : ofList (inserted ++ [name]) = ((ofList inserted).insert name).1 := by
    rw [ofList, insertAll, List.foldl_append]
    rfl
  rw [hnext, insert]
  by_cases hmem : name ∈ inserted
  · rw [if_pos hmem, dif_pos (contains_iff.2 (mem_toList_ofList.2 hmem))]
  · rw [if_neg hmem, dif_neg fun hc => hmem (mem_toList_ofList.1 (contains_iff.1 hc))]

/-- Whatever names are added one after the other, to begin with none: the list has each of them
where it came first, and so none twice, and the set beside it has the same names, each once. To add
a name tells whether it is new; one that was added before changes nothing. Whether a name was found,
how many were, and whether any was, agrees with the list, and two of these are equal if their lists
are. -/
theorem added_names_kept_once (inserted : List String) :
    (ofList inserted).toList = inserted.eraseDups ∧
      (ofList inserted).toList.Nodup ∧
      (ofList inserted).seen.toList.Perm (ofList inserted).toList ∧
      (∀ name, (ofList inserted).insert name =
        if name ∈ inserted then (ofList inserted, false)
        else (ofList (inserted ++ [name]), true)) ∧
      (∀ name, (ofList inserted).contains name ↔ name ∈ (ofList inserted).toList) ∧
      (ofList inserted).size = (ofList inserted).toList.length ∧
      ((ofList inserted).isEmpty ↔ (ofList inserted).toList = []) ∧
      ∀ others, ofList inserted == ofList others ↔
        (ofList inserted).toList = (ofList others).toList := by
  refine ⟨?_, (ofList inserted).nodup, perm_toList_seen _, insert_ofList inserted,
    fun _ => contains_iff, ?_, ?_, fun _ => beq_iff⟩
  · rw [ofList, toList_insertAll, toList_empty, List.nil_append]
  · rw [size, toList, Array.length_toList]
  · rw [isEmpty, toList, Array.isEmpty_iff, Array.toList_eq_nil_iff]

end EnvAudit.FoundNames
