import EnvAudit.Json.Reader
import EnvAudit.Proofs.Decimal.Nearest
import Mathlib.Data.List.Nodup

/-!
# EnvAudit.Proofs.Json.Regular

What values are like that are read from a text:

1. in an object the members have different names (`Json.Distinct`), so that each is the member of
   its name (`Json.Distinct.member?_eq_some`);
2. numbers are as they are kept, and lists and objects are not nested too deeply (`Json.Regular`);
3. a reader gives such values wherever it stands (`JsonReader.Gives`), by induction on how deep they
   are nested (`JsonReader.gives_value`).

Main statement: values that are read are regular (`Json.regular_of_read?`).
-/

namespace EnvAudit

/-- A number as it is kept: a whole number of 64 bits, with or without a sign, or a binary one. -/
inductive JsonNumber.Kept : JsonNumber → Prop
  | whole {n : Int} : -2 ^ 63 ≤ n → n < 2 ^ 64 → Kept (.whole n)
  | float {x : Binary64} : x.Kept → Kept (.float x)

namespace Json

/-! ## Different names -/

/-- Values in which the members of an object have different names. -/
inductive Distinct : Json → Prop
  | null : Distinct .null
  | bool (b : Bool) : Distinct (.bool b)
  | number (n : JsonNumber) : Distinct (.number n)
  | text (s : String) : Distinct (.text s)
  | array {items : List Json} : (∀ v ∈ items, Distinct v) → Distinct (.array items)
  | object {members : List (String × Json)} : (members.map Prod.fst).Nodup →
      (∀ m ∈ members, Distinct m.2) → Distinct (.object members)

theorem Distinct.of_mem {items : List Json} (h : Distinct (.array items)) :
    ∀ v ∈ items, Distinct v := by
  cases h with
  | array h => exact h

/-- No two members of an object have one name. -/
theorem Distinct.nodup {ms : List (String × Json)} (h : Distinct (.object ms)) :
    (ms.map Prod.fst).Nodup := by
  cases h with
  | object hnodup _ => exact hnodup

theorem Distinct.of_member {ms : List (String × Json)} (h : Distinct (.object ms)) :
    ∀ m ∈ ms, Distinct m.2 := by
  cases h with
  | object _ h => exact h

/-- A member is the new one or was there. -/
theorem mem_putMember {ms : List (String × Json)} {name : String} {v : Json} {m : String × Json}
    (h : m ∈ putMember ms name v) : m = (name, v) ∨ m ∈ ms := by
  induction ms with
  | nil => exact .inl (List.mem_singleton.1 h)
  | cons m' ms ih =>
    rw [putMember] at h
    split at h
    · exact (List.mem_cons.1 h).imp_right (List.mem_cons_of_mem _)
    · rcases List.mem_cons.1 h with rfl | h
      · exact .inr List.mem_cons_self
      · exact (ih h).imp_right (List.mem_cons_of_mem _)

/-- Putting a member keeps names distinct. -/
theorem nodup_putMember {ms : List (String × Json)} (h : (ms.map Prod.fst).Nodup) (name : String)
    (v : Json) : ((putMember ms name v).map Prod.fst).Nodup := by
  induction ms with
  | nil => exact List.nodup_cons.2 ⟨List.not_mem_nil, List.nodup_nil⟩
  | cons m ms ih =>
    obtain ⟨hm, hms⟩ := List.nodup_cons.1 h
    rw [putMember]
    split
    · next heq =>
      subst heq
      exact List.nodup_cons.2 ⟨hm, hms⟩
    · next hne =>
      refine List.nodup_cons.2 ⟨fun hmem => ?_, ih hms⟩
      obtain ⟨m', hm', hname⟩ := List.mem_map.1 hmem
      rcases mem_putMember hm' with rfl | hm'
      · exact hne hname.symm
      · exact hm (List.mem_map.2 ⟨m', hm', hname⟩)

/-- Where members have different names, each is the member of its name. -/
theorem Distinct.member?_eq_some {ms : List (String × Json)} (h : Distinct (.object ms))
    {m : String × Json} (hm : m ∈ ms) : member? (.object ms) m.1 = some m.2 := by
  rw [member?, Option.map_eq_some_iff]
  cases hfind : ms.find? fun m' => m'.1 = m.1 with
  | none => simpa using List.find?_eq_none.1 hfind m hm
  | some m' =>
    have hname : m'.1 = m.1 := by simpa using List.find?_some hfind
    have hmem := List.mem_of_find?_eq_some hfind
    exact ⟨m', rfl, by rw [List.inj_on_of_nodup_map h.nodup hmem hm hname]⟩

/-- Only objects have members. -/
theorem exists_of_member? {v w : Json} {name : String} (h : v.member? name = some w) :
    ∃ ms, v = .object ms := by
  cases v with
  | object ms => exact ⟨ms, rfl⟩
  | null | bool | number | text | array => cases h

/-- A member that is looked up is in the object. -/
theorem mem_of_member? {ms : List (String × Json)} {name : String} {v : Json}
    (h : member? (.object ms) name = some v) : (name, v) ∈ ms := by
  obtain ⟨m, hfind, rfl⟩ := Option.map_eq_some_iff.1 h
  obtain rfl : m.1 = name := by simpa using List.find?_some hfind
  exact List.mem_of_find?_eq_some hfind

/-- A member that is looked up has distinct names. -/
theorem Distinct.of_member? {v w : Json} (hd : v.Distinct) {name : String}
    (h : v.member? name = some w) : w.Distinct := by
  obtain ⟨ms, rfl⟩ := exists_of_member? h
  exact hd.of_member _ (mem_of_member? h)

/-! ## Regular values -/

/-- Values as they are read: lists and objects are nested at most to some depth, members have
different names, and numbers are as they are kept. -/
inductive Regular : Nat → Json → Prop
  | null {depth : Nat} : Regular depth .null
  | bool {depth : Nat} (b : Bool) : Regular depth (.bool b)
  | number {depth : Nat} {n : JsonNumber} : n.Kept → Regular depth (.number n)
  | text {depth : Nat} (s : String) : Regular depth (.text s)
  | array {depth : Nat} {items : List Json} : (∀ v ∈ items, Regular depth v) →
      Regular (depth + 1) (.array items)
  | object {depth : Nat} {members : List (String × Json)} : (members.map Prod.fst).Nodup →
      (∀ m ∈ members, Regular depth m.2) → Regular (depth + 1) (.object members)

/-- A regular value has distinct names. -/
theorem Regular.distinct {depth : Nat} {v : Json} (h : Regular depth v) : v.Distinct := by
  induction h with
  | null => exact .null
  | bool b => exact .bool b
  | number _ => exact .number _
  | text s => exact .text s
  | array _ ih => exact .array ih
  | object hnodup _ ih => exact .object hnodup ih

/-- Values may be nested less deeply. -/
theorem Regular.succ {depth : Nat} {v : Json} (h : Regular depth v) : Regular (depth + 1) v := by
  induction h with
  | null => exact .null
  | bool b => exact .bool b
  | number h => exact .number h
  | text s => exact .text s
  | array _ ih => exact .array ih
  | object hnodup _ ih => exact .object hnodup ih

theorem Regular.of_mem {depth : Nat} {items : List Json} (h : Regular depth (.array items)) :
    ∀ v ∈ items, Regular depth v := by
  cases h with
  | array h => exact fun v hv => (h v hv).succ

theorem Regular.of_member {depth : Nat} {ms : List (String × Json)}
    (h : Regular depth (.object ms)) : ∀ m ∈ ms, Regular depth m.2 := by
  cases h with
  | object _ h => exact fun m hm => (h m hm).succ

/-- A member that is looked up in a regular value is regular. -/
theorem Regular.of_member? {depth : Nat} {v w : Json} (hv : Regular depth v) {name : String}
    (h : v.member? name = some w) : Regular depth w := by
  obtain ⟨ms, rfl⟩ := exists_of_member? h
  exact hv.of_member _ (mem_of_member? h)

/-- An object stays regular when a regular member is put into it. -/
theorem Regular.putMember {depth : Nat} {ms : List (String × Json)}
    (h : Regular (depth + 1) (.object ms)) (name : String) {v : Json} (hv : Regular depth v) :
    Regular (depth + 1) (.object (putMember ms name v)) := by
  cases h with
  | object hnodup h =>
    refine .object (nodup_putMember hnodup name v) fun m hm => ?_
    rcases mem_putMember hm with rfl | hm
    · exact hv
    · exact h m hm

end Json

/-! ## What readers give -/

namespace JsonReader

/-- What a reader gives, wherever it stands, if it does not refuse the text. -/
def Gives {α : Type} (r : JsonReader α) (p : α → Prop) : Prop :=
  ∀ i a i', r i = .ok (a, i') → p a

namespace Gives

variable {α β : Type} {r : JsonReader α} {f : α → JsonReader β} {p : α → Prop} {q : β → Prop}

theorem pure {a : α} (h : p a) : Gives (Pure.pure a) p := by
  intro i a' i' hrun
  cases hrun
  exact h

theorem bind (hr : Gives r p) (hf : ∀ a, p a → Gives (f a) q) : Gives (r >>= f) q := by
  intro i b i'' hrun
  change (r i >>= fun x => f x.1 x.2) = _ at hrun
  cases hri : r i with
  | error e => simp [hri, Bind.bind, Except.bind] at hrun
  | ok x =>
    rw [hri] at hrun
    exact hf x.1 (hr i x.1 x.2 hri) x.2 b i'' hrun

/-- Whatever is read first does not matter if the rest gives what is asked for in any case. -/
theorem behind (hf : ∀ a, Gives (f a) q) : Gives (r >>= f) q :=
  bind (p := fun _ => True) (fun _ _ _ _ => trivial) fun a _ => hf a

/-- Nor does it matter what is read only under a condition. -/
theorem check {c : Prop} [Decidable c] {r : JsonReader Unit} {f : Unit → JsonReader β}
    (hf : ∀ u, Gives (f u) q) : Gives (if c then r >>= f else f ()) q := by
  split
  · exact behind hf
  · exact hf ()

theorem refuseBehind (fault : SyntaxFault) : Gives (refuseBehind fault) p := by
  intro i a i' hrun
  cases hrun

theorem refuse (fault : SyntaxFault) : Gives (refuse fault) p := by
  intro i a i' hrun
  cases hrun

end Gives

variable {α σ : Type}

/-- Items are read with the property that each has. -/
theorem gives_items {item : JsonReader α} {p : α → Prop} (h : Gives item p) (n : Nat)
    (first : Bool) : Gives (items item n first) fun vs => ∀ v ∈ vs, p v := by
  induction n generalizing first with
  | zero => exact .refuse _
  | succ n ih =>
    rw [items]
    refine .behind fun another => ?_
    cases another with
    | true =>
      refine h.bind fun v hv => (ih false).bind fun vs hvs => .pure ?_
      exact List.forall_mem_cons.2 ⟨hv, hvs⟩
    | false => exact .behind fun _ => .pure (by simp)

theorem gives_members {member : σ → String → JsonReader σ} {p : σ → Prop}
    (h : ∀ s name, p s → Gives (member s name) p) (n : Nat) (first : Bool) {s : σ} (hs : p s) :
    Gives (members member n first s) p := by
  induction n generalizing first s with
  | zero => exact .refuse _
  | succ n ih =>
    rw [members]
    refine .behind fun another => ?_
    cases another with
    | true => exact .behind fun name => (h s name hs).bind fun s' hs' => ih false hs'
    | false => exact .behind fun _ => .pure hs

/-! ## Numbers -/

/-- Digits are added only as long as the number stays in range. -/
theorem appendDigits_le {limit n : Nat} (h : n ≤ limit) (ds : List Char) :
    (appendDigits limit n ds).1 ≤ limit := by
  induction ds generalizing n with
  | nil => exact h
  | cons d ds ih =>
    rw [appendDigits]
    split
    · next hle => exact ih hle
    · exact h

/-- A number with a point or an exponent is read as a binary one as it is kept. -/
theorem gives_float (negative : Bool) (n : Nat) (exponent : Int) :
    Gives (float negative n exponent) JsonNumber.Kept := by
  rw [float]
  split
  · next hx => exact .pure (.float (Binary64.kept_of_ofDecimal? hx))
  · exact .refuse _

theorem gives_exponent (negative : Bool) (n : Nat) (before : Int) :
    Gives (exponent negative n before) JsonNumber.Kept := by
  unfold exponent
  refine .behind fun _ => .behind fun c => ?_
  extract_lets zero value unsigned
  have hzero : ∀ u, Gives (zero u) JsonNumber.Kept := fun u =>
    .pure (.float (Binary64.kept_zero.withSign negative))
  have hvalue : ∀ u, Gives (value u) JsonNumber.Kept := by
    refine fun u => .behind fun s => .behind fun ds => ?_
    split
    · exact gives_float _ _ _
    · exact .check hzero
  have hunsigned : ∀ u, Gives (unsigned u) JsonNumber.Kept := by
    refine fun u => .behind fun d => ?_
    split
    · exact .behind hvalue
    · exact .check hvalue
  exact .check hunsigned

theorem gives_fraction (negative : Bool) (n : Nat) (before : Int) :
    Gives (fraction negative n before) JsonNumber.Kept := by
  unfold fraction
  refine .behind fun _ => .behind fun ds => ?_
  extract_lets value
  have hvalue : ∀ u, Gives (value u) JsonNumber.Kept := by
    refine fun u => .behind fun another => ?_
    split
    · exact gives_exponent _ _ _
    · exact gives_float _ _ _
  split
  · refine .behind fun c => ?_
    split
    · exact .behind hvalue
    · exact .behind hvalue
  · exact hvalue ()

/-- A whole number in range is read as it is kept. -/
theorem gives_whole (negative : Bool) {n : Nat} (hn : n ≤ maxWhole) :
    Gives (whole negative n) JsonNumber.Kept := by
  have hlt : n < 2 ^ 64 := Nat.lt_of_le_pred (Nat.two_pow_pos 64) hn
  unfold whole
  split
  · exact .pure (.whole (by omega) (by omega))
  · split
    · exact gives_float true n 0
    · next hnot =>
      have hle : n ≤ 2 ^ 63 := Nat.not_lt.1 (not_or.1 hnot).2
      exact .pure (.whole (by omega) (by omega))

theorem gives_unsigned (negative : Bool) : Gives (unsigned negative) JsonNumber.Kept := by
  unfold unsigned
  refine .behind fun c => ?_
  split
  · exact .refuse _
  · extract_lets value digits behind
    have hvalue : ∀ ds, Gives (value ds) JsonNumber.Kept := by
      refine fun ds => .behind fun d => .check fun _ => ?_
      have hle := appendDigits_le (Nat.zero_le maxWhole) ds
      refine .behind fun c => ?_
      split
      · exact gives_fraction _ _ _
      · refine .behind fun another => ?_
        split
        · exact gives_exponent _ _ _
        · split
          · exact gives_whole negative hle
          · exact gives_float _ _ _
    have hdigits : ∀ u, Gives (digits u) JsonNumber.Kept := by
      intro u
      dsimp only [digits]
      split
      · exact .behind hvalue
      · exact .behind hvalue
    exact .check fun _ => .check hdigits

/-- Every number is read as it is kept. -/
theorem gives_number : Gives number JsonNumber.Kept := by
  unfold number
  refine .behind fun c => ?_
  split
  · exact .behind fun _ => gives_unsigned true
  · exact gives_unsigned false

/-! ## Values -/

open Json

/-- Every value that is read is regular. -/
theorem gives_value (depth : Nat) : Gives (value depth) (Regular depth) := by
  induction depth using Nat.strongRecOn with
  | ind depth ih =>
    rw [value.eq_def]
    refine .behind fun c => ?_
    split
    · exact .refuse _
    · exact .behind fun _ => .behind fun _ => .pure .null
    · exact .behind fun _ => .behind fun _ => .pure (.bool _)
    · exact .behind fun _ => .behind fun _ => .pure (.bool _)
    · exact .behind fun s => .pure (.text s)
    · cases depth with
      | zero => exact .refuseBehind _
      | succ depth =>
        have hitems := fun n => gives_items (ih depth (Nat.lt_succ_self depth)) n true
        exact .behind fun n => .behind fun _ => (hitems n).bind fun vs hvs => .pure (.array hvs)
    · cases depth with
      | zero => exact .refuseBehind _
      | succ depth =>
        have hnone : Regular (depth + 1) (.object []) := .object List.nodup_nil (by simp)
        refine .behind fun n => .behind fun _ =>
          (gives_members (p := fun ms => Regular (depth + 1) (.object ms)) (fun ms name hms => ?_)
            n true hnone).bind fun ms hms => .pure hms
        refine .behind fun _ => (ih depth (Nat.lt_succ_self depth)).bind fun v hv => .pure ?_
        exact hms.putMember name hv
    · split
      · exact gives_number.bind fun n hn => .pure (.number hn)
      · exact .refuseBehind _

/-- A document that is read has the property of the reader. -/
theorem Gives.of_whole? {r : JsonReader α} {p : α → Prop} (h : Gives r p) {text : String} {a : α}
    (ha : whole? r text = .ok a) : p a := by
  have hwhole : Gives (r >>= fun v => finish >>= fun _ => Pure.pure v) p :=
    h.bind fun v hv => .behind fun _ => .pure hv
  change Except.map Prod.fst ((r >>= fun v => finish >>= fun _ => Pure.pure v) (.start text)) = _
    at ha
  cases hrun : (r >>= fun v => finish >>= fun _ => Pure.pure v) (JsonInput.start text) with
  | error e =>
    rw [hrun] at ha
    cases ha
  | ok x =>
    rw [hrun] at ha
    cases ha
    exact hwhole _ x.1 x.2 hrun

end JsonReader

namespace Json

/-- Values that are read from a text are regular. -/
theorem regular_of_read? {text : String} {v : Json} (h : read? text = .ok v) :
    Regular JsonReader.maxDepth v := (JsonReader.gives_value _).of_whole? h

/-- In what is read from a text, members have different names. -/
theorem distinct_of_read? {text : String} {v : Json} (h : read? text = .ok v) : v.Distinct :=
  (regular_of_read? h).distinct

end Json

end EnvAudit
