import Std.Data.HashSet

/-!
# EnvAudit.FoundNames

Names in the order in which they were first found, each once, with a set beside the list so that a
repetition is noticed at once. That the two agree is part of the type.
-/

namespace EnvAudit

/-- Names without repetitions, in the order in which they came. -/
structure FoundNames where
  names : Array String
  seen : Std.HashSet String
  mem_seen (name : String) : name ∈ seen ↔ name ∈ names
  nodup : names.toList.Nodup

namespace FoundNames

/-- No names. -/
def empty : FoundNames := ⟨#[], ∅, by simp, by simp⟩

instance : EmptyCollection FoundNames := ⟨empty⟩
instance : Inhabited FoundNames := ⟨∅⟩

/-- Whether a name was found. -/
def contains (f : FoundNames) (name : String) : Bool := f.seen.contains name

/-- Add a name, unless it was found before; also whether it was new. -/
def insert (f : FoundNames) (name : String) : FoundNames × Bool :=
  if h : f.contains name then (f, false)
  else
    have hnew : name ∉ f.names := fun hn => h ((f.mem_seen name).2 hn)
    let added : FoundNames :=
      { names := f.names.push name
        seen := f.seen.insert name
        mem_seen := by
          intro n
          simp only [Std.HashSet.mem_insert, beq_iff_eq, Array.mem_push, f.mem_seen]
          exact ⟨fun hn => hn.symm.imp_right Eq.symm, fun hn => hn.symm.imp_left Eq.symm⟩
        nodup := by
          simp only [Array.toList_push]
          refine List.nodup_append.2 ⟨f.nodup, by simp, ?_⟩
          intro a ha b hb
          simp only [List.mem_singleton] at hb
          subst hb
          rintro rfl
          exact hnew (Array.mem_toList_iff.1 ha) }
    (added, true)

/-- Add names one after the other. -/
def insertAll (f : FoundNames) (names : List String) : FoundNames :=
  names.foldl (fun f n => (f.insert n).1) f

/-- The names of a list, each where it comes first. -/
def ofList (names : List String) : FoundNames := insertAll ∅ names

/-- The names in order. -/
def toList (f : FoundNames) : List String := f.names.toList

/-- How many names were found. -/
def size (f : FoundNames) : Nat := f.names.size

/-- Whether no name was found. -/
def isEmpty (f : FoundNames) : Bool := f.names.isEmpty

/-- The same names in the same order, and the same sets. -/
instance : BEq FoundNames where
  beq f g := f.names == g.names && f.seen.size == g.seen.size && f.seen.all g.seen.contains

end FoundNames

end EnvAudit
