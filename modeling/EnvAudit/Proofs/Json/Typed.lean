import EnvAudit.Json.Typed
import EnvAudit.Proofs.Json.Regular
import EnvAudit.Proofs.Traced

/-!
# EnvAudit.Proofs.Json.Typed

What is read of a record:

1. a list is read if each of its items is (`list?_eq_ok_iff`);
2. a record with two fields is what both set, in whatever order their members come, with whatever
   other members between them (`record?_pair`), and likewise if it is a list (`record?_fields`);
   only what has the fields that are required, and can be read in both, is such a record
   (`readsAt_of_record?`);
3. a record with one field is read as the member of this field is (`record?_single`).
-/

namespace EnvAudit

namespace Json

/-! ## Lists -/

/-- A list is decoded when each of its items is. -/
theorem list?_eq_ok_iff {α : Type} {item : Json → Typed α} {v : Json} {as : List α} :
    v.list? item = .ok as ↔
      ∃ vs, v = .array vs ∧ List.Forall₂ (fun v a => item v = .ok a) vs as := by
  cases v with
  | array vs =>
    constructor
    · exact fun h => ⟨vs, rfl, mapM_eq_ok_iff.1 h⟩
    · rintro ⟨_, ⟨⟩, h⟩
      exact mapM_eq_ok_iff.2 h
  | null | bool | number | text | object => simp [list?]

/-! ## Records -/

/-- The value that a record has for a field: an object under the name of the field, and a list at
its index. -/
def field? (index : Nat) (name : String) : Json → Option Json
  | .object ms => member? (.object ms) name
  | .array vs => vs[index]?
  | _ => none

/-- A field has distinct names if the value does. -/
theorem Distinct.of_field? {v w : Json} (hd : v.Distinct) {index : Nat} {name : String}
    (h : v.field? index name = some w) : w.Distinct := by
  cases v with
  | object ms => exact hd.of_member? h
  | array vs => exact hd.of_mem w (List.mem_of_getElem? h)
  | null | bool | number | text => cases h

theorem Regular.of_field? {depth : Nat} {v w : Json} (h : Regular depth v) {index : Nat}
    {name : String} (hw : v.field? index name = some w) : Regular depth w := by
  cases v with
  | object ms => exact h.of_member? hw
  | array vs => exact h.of_mem w (List.mem_of_getElem? hw)
  | null | bool | number | text => cases hw

/-- Values that may be a record with a number of fields. -/
inductive IsRecord (count : Nat) : Json → Prop
  | object (ms : List (String × Json)) : IsRecord count (.object ms)
  | array {vs : List Json} : vs.length ≤ count → IsRecord count (.array vs)

section

variable {σ : Type} {fields : List (ValueField σ)} {ms : List (String × Json)}

/-- Read a member of a record. -/
def readMember (fields : List (ValueField σ)) (s : σ) (m : String × Json) : Typed σ :=
  match fields.find? fun f => f.name = m.1 with
  | none => .ok s
  | some f => f.read s m.2

/-- The members of a record are read one by one, and the names of its fields are remembered. -/
theorem recordMembers_cons (m : String × Json) (s : σ) (seen : List String) :
    recordMembers fields (m :: ms) s seen = (do
      let s ← readMember fields s m
      recordMembers fields ms s
        (if (fields.find? fun f => f.name = m.1).isSome then m.1 :: seen else seen)) := by
  obtain ⟨name, v⟩ := m
  simp only [recordMembers, readMember]
  cases fields.find? fun f => f.name = name <;> rfl

variable {put : σ → String → σ}

/-- Members that can be read are read one after the other, and the fields that they are of are
seen. -/
theorem recordMembers_eq_ok (hread : ∀ m ∈ ms, ∀ s, readMember fields s m = .ok (put s m.1))
    (s : σ) (seen : List String) :
    ∃ seen', recordMembers fields ms s seen = .ok ((ms.map Prod.fst).foldl put s, seen') ∧
      seen ⊆ seen' ∧ ∀ f ∈ fields, f.name ∈ ms.map Prod.fst → f.name ∈ seen' := by
  induction ms generalizing s seen with
  | nil => exact ⟨seen, rfl, List.Subset.refl _, by simp⟩
  | cons m ms ih =>
    obtain ⟨seen', hrest, hsub, hseen⟩ := ih (fun m' hm' => hread m' (List.mem_cons_of_mem m hm'))
      (put s m.1) (if (fields.find? fun f => f.name = m.1).isSome then m.1 :: seen else seen)
    refine ⟨seen', ?_, ?_, fun f hf hname => ?_⟩
    · rw [recordMembers_cons, hread m List.mem_cons_self]
      exact hrest
    · refine List.Subset.trans ?_ hsub
      split
      · exact List.subset_cons_self m.1 seen
      · exact List.Subset.refl _
    · rcases List.mem_cons.1 hname with heq | hname
      · have hfound : (fields.find? fun f => f.name = m.1).isSome :=
          List.find?_isSome.2 ⟨f, hf, by simpa using heq⟩
        rw [if_pos hfound] at hsub
        exact heq ▸ hsub List.mem_cons_self
      · exact hseen f hf hname

/-- A record whose members can be read, and which has the fields that are required. -/
theorem record?_eq_ok (name : String) (s : σ)
    (hread : ∀ m ∈ ms, ∀ s, readMember fields s m = .ok (put s m.1))
    (hrequired : ∀ f ∈ fields, f.required → f.name ∈ ms.map Prod.fst) :
    record? name fields s (.object ms) = .ok ((ms.map Prod.fst).foldl put s) := by
  obtain ⟨seen, hmembers, -, hseen⟩ := recordMembers_eq_ok hread s []
  have hnone : (fields.find? fun f => f.required && !seen.contains f.name) = none := by
    refine List.find?_eq_none.2 fun f hf hmissing => ?_
    obtain ⟨hreq, hnot⟩ := by simpa using hmissing
    exact hnot (hseen f hf (hrequired f hf hreq))
  simp only [record?, hmembers, bind, Except.bind, hnone]

/-- How a value changes a record through a field: it has a value for the field, which is read and
sets it, or it has none and the record has it already. -/
inductive Sets (v : Json) (index : Nat) (f : ValueField σ) (s : σ) (set : σ → σ) : Prop
  | given {w : Json} : v.field? index f.name = some w → (∀ s, f.read s w = .ok (set s)) →
      Sets v index f s set
  | leftOut : v.field? index f.name = none → f.required = false → set s = s → Sets v index f s set

namespace Sets

variable {v : Json} {index : Nat} {f : ValueField σ} {s : σ} {set : σ → σ}

/-- A field that is present is set from its value. -/
theorem read (h : Sets v index f s set) {w : Json} (hw : v.field? index f.name = some w) (s' : σ) :
    f.read s' w = .ok (set s') := by
  cases h with
  | given hw' hread =>
    obtain rfl := Option.some.inj (hw'.symm.trans hw)
    exact hread s'
  | leftOut hnone _ _ => cases hnone.symm.trans hw

/-- A field that is absent is not required and changes nothing. -/
theorem of_none (h : Sets v index f s set) (hnone : v.field? index f.name = none) :
    f.required = false ∧ set s = s := by
  cases h with
  | given hw _ => cases hw.symm.trans hnone
  | leftOut _ hrequired hset => exact ⟨hrequired, hset⟩

end Sets

variable {v : Json} {f f₁ f₂ : ValueField σ} {s : σ} {set set₁ set₂ : σ → σ}

theorem member?_eq_none {n : String} (h : n ∉ ms.map Prod.fst) :
    member? (.object ms) n = none := by
  cases hv : member? (.object ms) n with
  | none => rfl
  | some v => exact absurd (List.mem_map_of_mem (mem_of_member? hv)) h

/-- Set the one or the other of two fields, by its name. -/
def setNamed (name₁ name₂ : String) (set₁ set₂ : σ → σ) (s : σ) (n : String) : σ :=
  if n = name₁ then set₁ s else if n = name₂ then set₂ s else s

/-- The order in which fields are set does not matter. -/
theorem foldl_setNamed {name₁ name₂ : String} (hne : name₁ ≠ name₂)
    (hcomm : ∀ s, set₁ (set₂ s) = set₂ (set₁ s)) {names : List String} (h : names.Nodup) (s : σ) :
    names.foldl (setNamed name₁ name₂ set₁ set₂) s =
      (if name₁ ∈ names then set₁ else id) ((if name₂ ∈ names then set₂ else id) s) := by
  induction names generalizing s with
  | nil => rfl
  | cons n names ih =>
    obtain ⟨hn, hnames⟩ := List.nodup_cons.1 h
    rw [List.foldl_cons, ih hnames, setNamed]
    -- The first name does not come again, so at most the other field is still to be set.
    by_cases h₁ : n = name₁
    · subst h₁
      simp only [hn, hne, Ne.symm hne, List.mem_cons, if_true, if_false, true_or, false_or, id]
      split <;> simp [hcomm]
    · by_cases h₂ : n = name₂
      · subst h₂
        simp [hn, Ne.symm h₁, h₁]
      · simp [h₁, h₂, Ne.symm h₁, Ne.symm h₂]

/-- An object with two fields is what both set. -/
theorem record?_pair (set₁ set₂ : σ → σ) (hd : Distinct (.object ms))
    (h₁ : Sets (.object ms) 0 f₁ s set₁) (h₂ : Sets (.object ms) 1 f₂ s set₂)
    (hne : f₁.name ≠ f₂.name) (hcomm : ∀ s, set₁ (set₂ s) = set₂ (set₁ s)) (name : String) :
    record? name [f₁, f₂] s (.object ms) = .ok (set₁ (set₂ s)) := by
  have hread : ∀ m ∈ ms, ∀ s', readMember [f₁, f₂] s' m =
      .ok (setNamed f₁.name f₂.name set₁ set₂ s' m.1) := by
    intro m hm s'
    have hmember := hd.member?_eq_some hm
    rw [readMember, setNamed]
    by_cases hm₁ : m.1 = f₁.name
    · simp [hm₁, h₁.read (hm₁ ▸ hmember)]
    · by_cases hm₂ : m.1 = f₂.name
      · simp [hm₂, hne, Ne.symm hne, h₂.read (hm₂ ▸ hmember)]
      · simp [hm₁, hm₂, Ne.symm hm₁, Ne.symm hm₂]
  have hrequired : ∀ f ∈ [f₁, f₂], f.required → f.name ∈ ms.map Prod.fst := by
    refine List.forall_mem_cons.2 ⟨fun hreq => ?_, List.forall_mem_singleton.2 fun hreq => ?_⟩
    · by_contra hnot
      simp [(h₁.of_none (member?_eq_none hnot)).1] at hreq
    · by_contra hnot
      simp [(h₂.of_none (member?_eq_none hnot)).1] at hreq
  rw [record?_eq_ok name s hread hrequired, foldl_setNamed hne hcomm hd.nodup]
  have hset₂ : (if f₂.name ∈ ms.map Prod.fst then set₂ else id) s = set₂ s := by
    split
    · rfl
    · next hnot => exact (h₂.of_none (member?_eq_none hnot)).2.symm
  rw [hset₂]
  split
  · rfl
  · next hnot => rw [id, hcomm, (h₁.of_none (member?_eq_none hnot)).2]

/-- A record with two fields is what both set, whatever its shape. -/
theorem record?_fields (set₁ set₂ : σ → σ) (hd : v.Distinct) (hrecord : v.IsRecord 2)
    (h₁ : Sets v 0 f₁ s set₁) (h₂ : Sets v 1 f₂ s set₂) (hne : f₁.name ≠ f₂.name)
    (hcomm : ∀ s, set₁ (set₂ s) = set₂ (set₁ s)) (name : String) :
    record? name [f₁, f₂] s v = .ok (set₁ (set₂ s)) := by
  cases hrecord with
  | object ms => exact record?_pair set₁ set₂ hd h₁ h₂ hne hcomm name
  | @array vs hlength =>
    match vs with
    | [] =>
      obtain ⟨hleft₁, hset₁⟩ := h₁.of_none rfl
      obtain ⟨hleft₂, hset₂⟩ := h₂.of_none rfl
      simp [record?, recordItems, hleft₁, hleft₂, hset₂, hset₁]
    | [w₁] =>
      obtain ⟨hleft₂, hset₂⟩ := h₂.of_none rfl
      simp only [record?, recordItems, h₁.read (w := w₁) rfl s, hleft₂, hset₂]
      rfl
    | [w₁, w₂] =>
      simp only [record?, recordItems, h₁.read (w := w₁) rfl s, hcomm]
      simp only [bind, Except.bind, h₂.read (w := w₂) rfl (set₁ s)]
    | _ :: _ :: _ :: _ => simp at hlength

end

section

variable {σ : Type} {f : ValueField σ} {ms : List (String × Json)}

/-- Members with other names do not set the field. -/
theorem recordMembers_of_not_mem (h : f.name ∉ ms.map Prod.fst) (s : σ) (seen : List String) :
    recordMembers [f] ms s seen = .ok (s, seen) := by
  induction ms with
  | nil => rfl
  | cons m ms ih =>
    obtain ⟨hm, hms⟩ := not_or.1 (mt List.mem_cons.2 h)
    have hnone : ([f].find? fun f => f.name = m.1) = none := by simpa using hm
    rw [recordMembers_cons, readMember, hnone]
    exact ih hms

/-- One field is read as its member is. -/
theorem recordMembers_single (h : (ms.map Prod.fst).Nodup) {v : Json} (hv : (f.name, v) ∈ ms)
    (s : σ) (seen : List String) :
    recordMembers [f] ms s seen = (f.read s v).map fun s => (s, f.name :: seen) := by
  induction ms with
  | nil => simp at hv
  | cons m ms ih =>
    obtain ⟨hm, hms⟩ := List.nodup_cons.1 h
    rw [recordMembers_cons]
    rcases List.mem_cons.1 hv with rfl | hv
    · have hsome : ([f].find? fun f' => f'.name = f.name) = some f := by simp
      simp only [readMember, hsome]
      cases hread : f.read s v with
      | error e => rfl
      | ok s' => exact recordMembers_of_not_mem hm s' (f.name :: seen)
    · have hne : f.name ≠ m.1 := fun heq => hm (heq ▸ List.mem_map_of_mem hv)
      have hnone : ([f].find? fun f' => f'.name = m.1) = none := by simpa using hne
      rw [readMember, hnone]
      exact ih hms hv

/-- A record with one field is read as the member of this field. -/
theorem record?_single (h : Distinct (.object ms)) {v : Json}
    (hv : member? (.object ms) f.name = some v) (name : String) (s : σ) :
    record? name [f] s (.object ms) = f.read s v := by
  have hmembers := recordMembers_single h.nodup (mem_of_member? hv) s []
  cases hread : f.read s v with
  | error e =>
    rw [hread] at hmembers
    simp only [record?, hmembers, bind, Except.bind, Except.map]
  | ok s' =>
    have hnone : ([f].find? fun f' => f'.required && !([f.name].contains f'.name)) = none := by
      simp
    rw [hread] at hmembers
    simp only [record?, hmembers, bind, Except.bind, Except.map, hnone]

end

/-! ## Records that are read -/

section

variable {σ : Type} {f f₁ f₂ : ValueField σ} {v : Json} {s : σ} {name : String}

/-- A value of a field can be read, and there is one if it is required. -/
structure ReadsAt (v : Json) (index : Nat) (f : ValueField σ) : Prop where
  read {w : Json} : v.field? index f.name = some w → ∃ s s', f.read s w = .ok s'
  required : f.required → ∃ w, v.field? index f.name = some w

/-- A field that is not required may be absent. -/
theorem ReadsAt.of_none {index : Nat} (hnone : v.field? index f.name = none)
    (hrequired : f.required = false) : ReadsAt v index f where
  read hw := nomatch hnone.symm.trans hw
  required h := nomatch hrequired.symm.trans h

/-- A field that is present is read. -/
theorem ReadsAt.of_some {index : Nat} {w : Json} {s' : σ} (hw : v.field? index f.name = some w)
    (h : f.read s w = .ok s') : ReadsAt v index f where
  read hw' := ⟨s, s', Option.some.inj (hw.symm.trans hw') ▸ h⟩
  required _ := ⟨w, hw⟩

/-- Members that are read one after the other can each be read, and only their fields are seen. -/
theorem of_recordMembers {fields : List (ValueField σ)} {ms : List (String × Json)}
    {seen : List String} {r : σ × List String} (h : recordMembers fields ms s seen = .ok r) :
    (∀ m ∈ ms, ∃ s s', readMember fields s m = .ok s') ∧
      ∀ n ∈ r.2, n ∈ seen ∨ n ∈ ms.map Prod.fst := by
  induction ms generalizing s seen with
  | nil =>
    cases h
    exact ⟨by simp, fun n hn => .inl hn⟩
  | cons m ms ih =>
    rw [recordMembers_cons] at h
    obtain ⟨s', hm, h⟩ := exists_of_bind_eq_ok h
    obtain ⟨hread, hseen⟩ := ih h
    refine ⟨List.forall_mem_cons.2 ⟨⟨s, s', hm⟩, hread⟩, fun n hn => ?_⟩
    rcases hseen n hn with hn | hn
    · split at hn
      · rcases List.mem_cons.1 hn with rfl | hn
        · exact .inr List.mem_cons_self
        · exact .inl hn
      · exact .inl hn
    · exact .inr (List.mem_cons_of_mem _ hn)

/-- In a record that is decoded each of its fields is read. -/
theorem readsAt_of_find? {fields : List (ValueField σ)} {ms : List (String × Json)} {r : σ}
    (hd : Distinct (.object ms)) (h : record? name fields s (.object ms) = .ok r) {index : Nat}
    (hf : (fields.find? fun f' => f'.name = f.name) = some f) :
    ReadsAt (.object ms) index f := by
  obtain ⟨⟨_, seen⟩, hmembers, h⟩ := exists_of_bind_eq_ok h
  obtain ⟨hread, hseen⟩ := of_recordMembers hmembers
  dsimp only at h hseen
  split at h
  · cases h
  · next hnone =>
    refine ⟨fun hw => ?_, fun hrequired => ?_⟩
    · obtain ⟨s, s', hs⟩ := hread _ (mem_of_member? hw)
      rw [readMember, hf] at hs
      exact ⟨s, s', hs⟩
    · have hmissing := List.find?_eq_none.1 hnone f (List.mem_of_find?_eq_some hf)
      have hname : f.name ∈ ms.map Prod.fst := by
        refine (hseen f.name ?_).resolve_left List.not_mem_nil
        simpa [hrequired] using hmissing
      obtain ⟨m, hm, hname⟩ := List.mem_map.1 hname
      exact ⟨m.2, hname ▸ hd.member?_eq_some hm⟩

/-- At the end of a list, the fields that are left may be left out. -/
theorem of_recordItems_nil {expected : String} {fields : List (ValueField σ)} {count : Nat} {r : σ}
    (h : recordItems expected (f :: fields) count [] s = .ok r) :
    f.required = false ∧ recordItems expected fields count [] s = .ok r := by
  rw [recordItems] at h
  split at h
  · cases h
  · next hrequired => exact ⟨by simpa using hrequired, h⟩

/-- What is read as a record with two fields is one, and both fields are read. -/
theorem readsAt_of_record? (hd : v.Distinct) (hne : f₁.name ≠ f₂.name) {r : σ}
    (h : record? name [f₁, f₂] s v = .ok r) :
    v.IsRecord 2 ∧ ReadsAt v 0 f₁ ∧ ReadsAt v 1 f₂ := by
  cases v with
  | object ms =>
    exact ⟨.object ms, readsAt_of_find? hd h (by simp), readsAt_of_find? hd h (by simp [hne])⟩
  | array vs =>
    simp only [record?] at h
    match vs with
    | [] =>
      obtain ⟨hleft₁, h⟩ := of_recordItems_nil h
      obtain ⟨hleft₂, -⟩ := of_recordItems_nil h
      exact ⟨.array (by simp), .of_none rfl hleft₁, .of_none rfl hleft₂⟩
    | [w₁] =>
      obtain ⟨s₁, hs₁, h⟩ := exists_of_bind_eq_ok h
      obtain ⟨hleft₂, -⟩ := of_recordItems_nil h
      exact ⟨.array (by simp), .of_some rfl hs₁, .of_none rfl hleft₂⟩
    | [w₁, w₂] =>
      obtain ⟨s₁, hs₁, h⟩ := exists_of_bind_eq_ok h
      obtain ⟨s₂, hs₂, -⟩ := exists_of_bind_eq_ok h
      exact ⟨.array (by simp), .of_some rfl hs₁, .of_some rfl hs₂⟩
    | w₁ :: w₂ :: w₃ :: vs =>
      obtain ⟨s₁, -, h⟩ := exists_of_bind_eq_ok h
      obtain ⟨s₂, -, h⟩ := exists_of_bind_eq_ok h
      cases h
  | null | bool | number | text => cases h

end

end Json

end EnvAudit
