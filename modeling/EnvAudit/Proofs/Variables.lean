import EnvAudit.Variables
import Std.Data.TreeMap.Lemmas

/-!
# EnvAudit.Proofs.Variables

What declared variables hold: of several values for a name the last counts, whether the values come
from one list (`getElem?_ofPairs`) or from variables that are put over others (`getElem?_putOver`).
-/

namespace EnvAudit.Variables

/-- Of pairs with one name the last one counts. -/
theorem getElem?_foldl_insert (pairs : List (String × String)) (vars : Variables) (name : String) :
    (pairs.foldl (fun vars p => vars.insert p.1 p.2) vars)[name]? =
      (pairs.reverse.lookup name).or vars[name]? := by
  induction pairs generalizing vars with
  | nil => rfl
  | cons p pairs ih =>
    rw [List.foldl_cons, ih, List.reverse_cons, List.lookup_append, Std.TreeMap.getElem?_insert]
    obtain ⟨key, new⟩ := p
    cases pairs.reverse.lookup name with
    | some value => rfl
    | none =>
      by_cases h : name = key
      · simp [h]
      · simp [h, Ne.symm h]

/-- The last value of a name counts. -/
theorem getElem?_ofPairs (pairs : List (String × String)) (name : String) :
    (ofPairs pairs)[name]? = pairs.reverse.lookup name := by
  rw [ofPairs, getElem?_foldl_insert]
  simp

/-- A list of the members of variables has their values. -/
theorem lookup_eq_getElem? {pairs : List (String × String)} {vars : Variables}
    (h : ∀ p, p ∈ pairs ↔ p ∈ vars.toList) (name : String) : pairs.lookup name = vars[name]? := by
  cases hlookup : pairs.lookup name with
  | some value =>
    obtain ⟨before, behind, hsplit, -⟩ := List.lookup_eq_some_iff.1 hlookup
    have hmem : (name, value) ∈ pairs := by
      rw [hsplit]
      simp
    exact (Std.TreeMap.mem_toList_iff_getElem?_eq_some.1 ((h _).1 hmem)).symm
  | none =>
    cases hvalue : vars[name]? with
    | none => rfl
    | some value =>
      have hmem := (h _).2 (Std.TreeMap.mem_toList_iff_getElem?_eq_some.2 hvalue)
      have hne := List.lookup_eq_none_iff.1 hlookup _ hmem
      simp at hne

/-- Variables put over others: where both have a value for a name, the new one counts. -/
def putOver (new vars : Variables) : Variables := vars.insertMany new.toList

/-- The new value counts, and otherwise the old one. -/
theorem getElem?_putOver (new vars : Variables) (name : String) :
    (new.putOver vars)[name]? = new[name]?.or vars[name]? := by
  have hlookup : new.toList.reverse.lookup name = new[name]? :=
    lookup_eq_getElem? (fun _ => List.mem_reverse) name
  rw [putOver, (Std.TreeMap.insertMany_list_equiv_foldl).getElem?_eq, getElem?_foldl_insert,
    hlookup]

/-- Variables with the same values have the same members. -/
theorem toList_eq_of_getElem? {a b : Variables} (h : ∀ name : String, a[name]? = b[name]?) :
    a.toList = b.toList :=
  Std.TreeMap.equiv_iff_toList_eq.1 (.of_forall_constGet?_eq h)

/-- Variables are declared by a list of their members, in whatever order. -/
theorem toList_ofPairs_of_perm {pairs : List (String × String)} {vars : Variables}
    (h : pairs.Perm vars.toList) : (ofPairs pairs).toList = vars.toList := by
  refine toList_eq_of_getElem? fun name => ?_
  rw [getElem?_ofPairs]
  exact lookup_eq_getElem? (fun p => List.mem_reverse.trans h.mem_iff) name

theorem declares_congr {a b : Variables} (h : a.toList = b.toList) (name : String) :
    a.declares name = b.declares name :=
  (Std.TreeMap.equiv_iff_toList_eq.2 h).contains_eq

end EnvAudit.Variables
