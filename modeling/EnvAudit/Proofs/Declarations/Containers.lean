import EnvAudit.Declarations.TaskDefinition
import EnvAudit.Proofs.Json.Compact
import EnvAudit.Proofs.Json.Typed
import EnvAudit.Proofs.Variables

/-!
# EnvAudit.Proofs.Declarations.Containers

Which containers can be read, and what they declare:

1. an entry has a name and may have a value, a secret only a text or null
   (`EnvironmentEntry.isEntry_of_ofJson?`, `SecretEntry.isEntry_of_ofJson?`);
2. a container is read if and only if its two lists, where it has them, are lists of such entries
   (`ContainerDefinition.exists_iff_isContainer`), and then its entries are read one by one
   (`ContainerDefinition.exists_of_isContainer`);
3. it declares each name that is listed with the reference of the last secret of this name, or else
   the text of the last environment entry, compact JSON if it is neither a text nor null
   (`ContainerDefinition.getElem?_ofPairs_pairs`, `Json.givesValue_valueIn?`);
4. of the containers behind the first one only the first mismatch is left
   (`TaskDefinition.firstContainer?_of_member?`).
-/

namespace EnvAudit

namespace Json

/-! ## Entries and containers -/

/-- An entry of a container: a record with a name and, if it is given, a value of the right kind. -/
structure IsEntry (field : String) (isValue : Json → Prop) (entry : Json) : Prop where
  isRecord : entry.IsRecord 2
  name : ∃ s, entry.field? 0 "name" = some (.text s)
  value : ∀ v, entry.field? 1 field = some v → isValue v

/-- A list of entries. -/
def IsEntryList (field : String) (isValue : Json → Prop) (v : Json) : Prop :=
  ∃ entries, v = .array entries ∧ ∀ entry ∈ entries, entry.IsEntry field isValue

/-- What a secret may refer to its value by. -/
def IsReference (v : Json) : Prop := v = .null ∨ ∃ s, v = .text s

/-- A container that is well-formed: a record with a list of environment entries, whose values may
be of any kind, and a list of secrets; either may be left out. -/
structure IsContainer (container : Json) : Prop where
  isRecord : container.IsRecord 2
  environment : ∀ v, container.field? 0 "environment" = some v →
    v.IsEntryList "value" fun _ => True
  secrets : ∀ v, container.field? 1 "secrets" = some v → v.IsEntryList "valueFrom" IsReference

/-- The entries in one of the lists of a container. -/
def entries (index : Nat) (name : String) (container : Json) : List Json :=
  match container.field? index name with
  | some (.array entries) => entries
  | _ => []

/-- The name that an entry gives. -/
def entryName? (entry : Json) : Option String :=
  match entry.field? 0 "name" with
  | some (.text s) => some s
  | _ => none

/-- The text that an entry gives, empty if it has none. -/
def entryText (field : String) (entry : Json) : String := (entry.field? 1 field).elim "" asText

/-- The last of the entries that give a name. -/
def lastNamed? (name : String) (entries : List Json) : Option Json :=
  entries.reverse.find? fun entry => entry.entryName? = some name

/-- The value that a container gives a name: the text of the last secret of this name, or else of
the last environment entry. -/
def valueIn? (container : Json) (name : String) : Option String :=
  ((lastNamed? name (container.entries 1 "secrets")).map (entryText "valueFrom")).or
    ((lastNamed? name (container.entries 0 "environment")).map (entryText "value"))

/-- The text of a value: a text stands for itself, null for nothing, and any other value for compact
JSON, which is read as the value unless it has binary numbers. -/
inductive IsTextOf : String → Json → Prop
  | text (s : String) : IsTextOf s (.text s)
  | null : IsTextOf "" .null
  | compact {t : String} {v : Json} : v ≠ .null → (∀ s, v ≠ .text s) → Compact t.toList v →
      (v.Exact → read? t = .ok v) → IsTextOf t v

/-- The text of the value of an entry, empty if it has none. -/
def IsEntryText (entry : Json) (t : String) : Prop :=
  (entry.field? 1 "value" = none ∧ t = "") ∨ ∃ v, entry.field? 1 "value" = some v ∧ IsTextOf t v

/-- What a secret refers to its value by, empty if it does not say. -/
def reference (secret : Json) : String :=
  match secret.field? 1 "valueFrom" with
  | some (.text s) => s
  | _ => ""

/-- The value that a container gives a name: the reference of the last secret of this name, or else
the text of the value of the last environment entry; none if there is neither. -/
inductive GivesValue (container : Json) (name : String) : Option String → Prop
  | secret {secret : Json} : lastNamed? name (container.entries 1 "secrets") = some secret →
      GivesValue container name (some secret.reference)
  | environment {entry : Json} {t : String} :
      lastNamed? name (container.entries 1 "secrets") = none →
      lastNamed? name (container.entries 0 "environment") = some entry → entry.IsEntryText t →
      GivesValue container name (some t)
  | none : lastNamed? name (container.entries 1 "secrets") = none →
      lastNamed? name (container.entries 0 "environment") = none → GivesValue container name none

/-! ## Values -/

/-- The text made of a value is the text the format gives it. -/
theorem isTextOf_asText {v : Json} (h : Regular JsonReader.maxDepth v) : IsTextOf v.asText v := by
  have hcompact : Compact v.compact.toList v := by
    rw [compact, String.toList_ofList]
    exact compact_encode h
  cases v with
  | text s => exact .text s
  | null => exact .null
  | bool | number | array | object =>
    exact .compact (by simp) (by simp) hcompact (read?_compact h)

/-- The text made of an environment entry is the text of its value. -/
theorem isEntryText_entryText {entry : Json} (h : Regular JsonReader.maxDepth entry) :
    entry.IsEntryText (entry.entryText "value") := by
  rw [entryText]
  cases hv : entry.field? 1 "value" with
  | none => exact .inl ⟨hv, rfl⟩
  | some v => exact .inr ⟨v, hv, isTextOf_asText (h.of_field? hv)⟩

/-- The text made of a secret is its reference. -/
theorem entryText_eq_reference {secret : Json} (h : secret.IsEntry "valueFrom" IsReference) :
    secret.entryText "valueFrom" = secret.reference := by
  rw [entryText, reference]
  cases hv : secret.field? 1 "valueFrom" with
  | none => rfl
  | some v =>
    rcases h.value v hv with rfl | ⟨s, rfl⟩
    · rfl
    · rfl

section

variable {container secret : Json} {name : String} {value : Option String}

/-- A secret with the name decides the value. -/
theorem GivesValue.eq_of_secret (h : container.GivesValue name value)
    (hsecret : lastNamed? name (container.entries 1 "secrets") = some secret) :
    value = some secret.reference := by
  cases h with
  | secret hsecret' => rw [Option.some.inj (hsecret'.symm.trans hsecret)]
  | environment hnone | none hnone => cases hnone.symm.trans hsecret

/-- A name that no entry has is not given a value. -/
theorem GivesValue.eq_none (h : container.GivesValue name value)
    (hsecret : lastNamed? name (container.entries 1 "secrets") = .none)
    (hentry : lastNamed? name (container.entries 0 "environment") = .none) : value = .none := by
  cases h with
  | secret hsecret' => cases hsecret'.symm.trans hsecret
  | environment _ hentry' => cases hentry'.symm.trans hentry
  | none => rfl

end

/-- The last entry with a name is one of the entries. -/
theorem mem_of_lastNamed? {name : String} {entries : List Json} {entry : Json}
    (h : lastNamed? name entries = some entry) : entry ∈ entries :=
  List.mem_reverse.1 (List.mem_of_find?_eq_some h)

/-- The entries of a regular container are regular. -/
theorem Regular.of_entries {depth : Nat} {container entry : Json} (h : Regular depth container)
    {index : Nat} {name : String} (hentry : entry ∈ container.entries index name) :
    Regular depth entry := by
  rw [entries] at hentry
  split at hentry
  · next hv => exact (h.of_field? hv).of_mem _ hentry
  · cases hentry

/-- Every secret of a container refers to where its value is. -/
theorem IsContainer.isEntry_of_mem {container secret : Json} (h : container.IsContainer)
    (hsecret : secret ∈ container.entries 1 "secrets") :
    secret.IsEntry "valueFrom" IsReference := by
  rw [entries] at hsecret
  split at hsecret
  · next hv =>
    obtain ⟨_, ⟨⟩, hentries⟩ := h.secrets _ hv
    exact hentries _ hsecret
  · cases hsecret

/-- A container that is well-formed gives a name the value of its last entry. -/
theorem givesValue_valueIn? {container : Json} (h : container.IsContainer)
    (hregular : Regular JsonReader.maxDepth container) (name : String) :
    container.GivesValue name (container.valueIn? name) := by
  rw [valueIn?]
  cases hsecret : lastNamed? name (container.entries 1 "secrets") with
  | some secret =>
    have hentry := h.isEntry_of_mem (mem_of_lastNamed? hsecret)
    rw [Option.map_some, Option.some_or, entryText_eq_reference hentry]
    exact .secret hsecret
  | none =>
    cases hentry : lastNamed? name (container.entries 0 "environment") with
    | some entry =>
      have hregular := hregular.of_entries (mem_of_lastNamed? hentry)
      exact .environment hsecret hentry (isEntryText_entryText hregular)
    | none => exact .none hsecret hentry

/-! ## Entries that are read -/

/-- An entry gives a name and a text. -/
def Declares (field : String) (entry : Json) (p : String × String) : Prop :=
  entry.entryName? = some p.1 ∧ entry.entryText field = p.2

/-- An entry gives one name and one text. -/
theorem Declares.right_unique (field : String) : Relator.RightUnique (Declares field) := by
  rintro entry ⟨name, text⟩ ⟨name', text'⟩ ⟨hname, htext⟩ ⟨hname', htext'⟩
  rw [Prod.mk.injEq]
  exact ⟨Option.some.inj (hname.symm.trans hname'), htext.symm.trans htext'⟩

/-- Of several entries for a name the last counts. -/
theorem lookup_reverse_eq {field : String} {entries : List Json} {pairs : List (String × String)}
    (h : List.Forall₂ (Declares field) entries pairs) (name : String) :
    pairs.reverse.lookup name = (lastNamed? name entries).map (entryText field) := by
  rw [lastNamed?]
  have hreverse := List.forall₂_reverse_iff.2 h
  generalize entries.reverse = entries at hreverse
  generalize pairs.reverse = pairs at hreverse
  induction hreverse with
  | nil => rfl
  | @cons entry p entries pairs hentry _ ih =>
    obtain ⟨hname, htext⟩ := hentry
    rw [List.lookup_cons, List.find?_cons, hname]
    by_cases heq : p.1 = name
    · simp [heq, htext]
    · have hne : (name == p.1) = false := by simpa using Ne.symm heq
      simp [heq, hne, ih]

section

variable {α σ : Type} {item : Json → Typed α} {field name : String} {isValue : Json → Prop}
  {container : Json} {index : Nat}

/-- The entries in a list of a container, if there is one, are read and set. -/
theorem exists_sets {pair : α → String × String} (put : σ → List α → σ) {s : σ}
    (hitem : ∀ {entry}, entry.Distinct → entry.IsEntry field isValue →
      ∃ e, item entry = .ok e ∧ entry.Declares field (pair e))
    (hd : container.Distinct)
    (h : ∀ v, container.field? index name = some v → v.IsEntryList field isValue)
    (hs : put s [] = s) :
    ∃ es, Sets container index ⟨name, false, fun s v => (v.list? item).map (put s)⟩ s
        (fun s => put s es) ∧
      List.Forall₂ (Declares field) (container.entries index name) (es.map pair) := by
  rw [entries]
  cases hv : container.field? index name with
  | none => exact ⟨[], .leftOut hv rfl hs, .nil⟩
  | some v =>
    obtain ⟨entries, rfl, hentries⟩ := h v hv
    have hd := (hd.of_field? hv).of_mem
    obtain ⟨es, hes⟩ := exists_forall₂ fun entry hmem => hitem (hd entry hmem) (hentries entry hmem)
    have hlist := list?_eq_ok_iff.2 ⟨entries, rfl, hes.imp fun _ _ h => h.1⟩
    refine ⟨es, .given hv fun s => ?_, List.forall₂_map_right_iff.2 (hes.imp fun _ _ h => h.2)⟩
    simp only [hlist]
    rfl

/-- What is read as a list of entries is one. -/
theorem isEntryList_of_readsAt {put : σ → List α → σ}
    (hitem : ∀ {entry e}, entry.Distinct → item entry = .ok e → entry.IsEntry field isValue)
    (hd : container.Distinct)
    (h : ReadsAt container index ⟨name, false, fun s v => (v.list? item).map (put s)⟩) :
    ∀ v, container.field? index name = some v → v.IsEntryList field isValue := by
  intro v hv
  obtain ⟨s, s', hread⟩ := h.read hv
  obtain ⟨es, hlist, -⟩ := exists_of_map_eq_ok hread
  obtain ⟨entries, rfl, hes⟩ := list?_eq_ok_iff.1 hlist
  refine ⟨entries, rfl, fun entry hentry => ?_⟩
  obtain ⟨e, he⟩ := exists_of_forall₂ hes entry hentry
  exact hitem ((hd.of_field? hv).of_mem _ hentry) he

/-- A text is read as a name. -/
theorem exists_text_of_readsAt {put : σ → String → σ} {v : Json}
    (h : ReadsAt v index ⟨name, true, fun s w => w.text?.map (put s)⟩) :
    ∃ s, v.field? index name = some (.text s) := by
  obtain ⟨w, hw⟩ := h.required rfl
  obtain ⟨s, s', hread⟩ := h.read hw
  cases w with
  | text t => exact ⟨t, hw⟩
  | null | bool | number | array | object => cases hread

end

end Json

open Json

/-! ## Entries that are read -/

section

variable {entry : Json}

/-- A well-formed environment entry is decoded. -/
theorem EnvironmentEntry.exists_of_isEntry (hd : entry.Distinct)
    (h : entry.IsEntry "value" fun _ => True) :
    ∃ e, ofJson? entry = .ok e ∧ entry.Declares "value" (e.name, e.text) := by
  obtain ⟨name, hname⟩ := h.name
  have hvalue : Sets entry 1 ⟨"value", false, fun e v => .ok { e with value := some v }⟩ {}
      fun e : EnvironmentEntry => { e with value := entry.field? 1 "value" } := by
    cases hv : entry.field? 1 "value" with
    | none => exact .leftOut hv rfl rfl
    | some v => exact .given hv fun _ => rfl
  refine ⟨_, record?_fields (fun e : EnvironmentEntry => { e with name := name }) _ hd h.isRecord
    (.given hname fun _ => rfl) hvalue (by decide) (fun _ => rfl) _, ?_, rfl⟩
  rw [entryName?, hname]

/-- Only well-formed environment entries are decoded. -/
theorem EnvironmentEntry.isEntry_of_ofJson? {e : EnvironmentEntry} (hd : entry.Distinct)
    (h : ofJson? entry = .ok e) : entry.IsEntry "value" fun _ => True := by
  obtain ⟨hrecord, hname, -⟩ := readsAt_of_record? hd (by decide) h
  exact ⟨hrecord, exists_text_of_readsAt hname, fun _ _ => trivial⟩

/-- A well-formed secret is decoded. -/
theorem SecretEntry.exists_of_isEntry (hd : entry.Distinct)
    (h : entry.IsEntry "valueFrom" IsReference) :
    ∃ e, ofJson? entry = .ok e ∧ entry.Declares "valueFrom" (e.name, e.text) := by
  obtain ⟨name, hname⟩ := h.name
  have hvalue : ∃ reference : Option String, Sets entry 1
      ⟨"valueFrom", false, fun e v => v.optionalText?.map fun s => { e with valueFrom := s }⟩ {}
      (fun e : SecretEntry => { e with valueFrom := reference }) ∧
      entry.entryText "valueFrom" = reference.getD "" := by
    rw [entryText]
    cases hv : entry.field? 1 "valueFrom" with
    | none => exact ⟨none, .leftOut hv rfl rfl, rfl⟩
    | some v =>
      rcases h.value v hv with rfl | ⟨s, rfl⟩
      · exact ⟨none, .given hv fun _ => rfl, rfl⟩
      · exact ⟨some s, .given hv fun _ => rfl, rfl⟩
  obtain ⟨reference, hvalue, htext⟩ := hvalue
  refine ⟨_, record?_fields (fun e : SecretEntry => { e with name := name }) _ hd h.isRecord
    (.given hname fun _ => rfl) hvalue (by decide) (fun _ => rfl) _, ?_, htext⟩
  rw [entryName?, hname]

/-- Only well-formed secrets are decoded. -/
theorem SecretEntry.isEntry_of_ofJson? {e : SecretEntry} (hd : entry.Distinct)
    (h : ofJson? entry = .ok e) : entry.IsEntry "valueFrom" IsReference := by
  obtain ⟨hrecord, hname, hvalue⟩ := readsAt_of_record? hd (by decide) h
  refine ⟨hrecord, exists_text_of_readsAt hname, fun v hv => ?_⟩
  obtain ⟨s, s', hread⟩ := hvalue.read hv
  cases v with
  | null => exact .inl rfl
  | text t => exact .inr ⟨t, rfl⟩
  | bool | number | array | object => cases hread

end

/-! ## Containers that are read -/

namespace ContainerDefinition

variable {container : Json}

/-- A container that is well-formed is read entry by entry. -/
theorem exists_of_isContainer (hd : container.Distinct) (h : container.IsContainer) :
    ∃ c, ofJson? container = .ok c ∧
      List.Forall₂ (Declares "value") (container.entries 0 "environment")
        (c.environment.map fun e => (e.name, e.text)) ∧
      List.Forall₂ (Declares "valueFrom") (container.entries 1 "secrets")
        (c.secrets.map fun e => (e.name, e.text)) := by
  obtain ⟨environment, henvironment, hpairs⟩ := exists_sets
    (fun (c : ContainerDefinition) es => { c with environment := es }) (s := {})
    EnvironmentEntry.exists_of_isEntry hd h.environment rfl
  obtain ⟨secrets, hsecrets, hpairs'⟩ := exists_sets
    (fun (c : ContainerDefinition) es => { c with secrets := es }) (s := {})
    SecretEntry.exists_of_isEntry hd h.secrets rfl
  exact ⟨_, record?_fields _ _ hd h.isRecord henvironment hsecrets (by decide) (fun _ => rfl) _,
    hpairs, hpairs'⟩

/-- The values of a container are those that its entries declare. -/
theorem getElem?_ofPairs_pairs {c : ContainerDefinition}
    (henvironment : List.Forall₂ (Declares "value") (container.entries 0 "environment")
      (c.environment.map fun e => (e.name, e.text)))
    (hsecrets : List.Forall₂ (Declares "valueFrom") (container.entries 1 "secrets")
      (c.secrets.map fun e => (e.name, e.text))) (name : String) :
    (Variables.ofPairs c.pairs)[name]? = container.valueIn? name := by
  rw [Variables.getElem?_ofPairs, pairs, List.reverse_append, List.lookup_append,
    lookup_reverse_eq hsecrets, lookup_reverse_eq henvironment, valueIn?]

/-- The last secret of a name takes the place of all other entries, even if it has no reference. -/
example : (Json.object [("environment", .array [.array [.text "A", .text "1"]]),
    ("secrets", .array [.array [.text "A", .text "a"], .object [("name", .text "A")]])]).valueIn?
      "A" = some "" := by rfl

/-- Only well-formed containers are read. -/
theorem exists_iff_isContainer (hd : container.Distinct) :
    (∃ c, ofJson? container = .ok c) ↔ container.IsContainer := by
  constructor
  · rintro ⟨c, hc⟩
    obtain ⟨hrecord, henvironment, hsecrets⟩ := readsAt_of_record? hd (by decide) hc
    exact ⟨hrecord,
      isEntryList_of_readsAt EnvironmentEntry.isEntry_of_ofJson? hd henvironment,
      isEntryList_of_readsAt SecretEntry.isEntry_of_ofJson? hd hsecrets⟩
  · intro h
    obtain ⟨c, hc, -⟩ := exists_of_isContainer hd h
    exact ⟨c, hc⟩

/-- The mismatch in the first of some containers that is not well-formed. -/
def firstMismatch? (containers : List Json) : Option Mismatch :=
  containers.findSome? fun container =>
    match ofJson? container with
    | .error m => some m
    | .ok _ => none

/-- No container is a mismatch exactly when all are well-formed. -/
theorem firstMismatch?_eq_none_iff {containers : List Json} (hd : ∀ c ∈ containers, c.Distinct) :
    firstMismatch? containers = none ↔ ∀ c ∈ containers, c.IsContainer := by
  rw [firstMismatch?, List.findSome?_eq_none_iff]
  refine forall₂_congr fun container hmem => ?_
  rw [← exists_iff_isContainer (hd container hmem)]
  cases ofJson? container <;> simp

/-- Containers are read unless there is a mismatch in them; then the first one is reported. -/
theorem map_mapM_ofJson? {α : Type} (a : α) (containers : List Json) :
    (containers.mapM ofJson?).map (fun _ => a) =
      match firstMismatch? containers with
      | none => .ok a
      | some m => .error m := by
  induction containers with
  | nil => rfl
  | cons container containers ih =>
    rw [List.mapM_cons, firstMismatch?, List.findSome?_cons]
    cases ofJson? container with
    | error m => rfl
    | ok c =>
      rw [firstMismatch?] at ih
      rw [← ih]
      cases containers.mapM ofJson? <;> rfl

end ContainerDefinition

open ContainerDefinition

namespace TaskDefinition

variable {document container : Json} {others : List Json}

/-- The first container of a task definition is read if all of them can be. -/
theorem firstContainer?_eq (hd : document.Distinct)
    (h : document.member? "containerDefinitions" = some (.array (container :: others))) :
    firstContainer? document = (do
      let c ← ContainerDefinition.ofJson? container
      let _ ← others.mapM ContainerDefinition.ofJson?
      return some c) := by
  obtain ⟨ms, rfl⟩ := Json.exists_of_member? h
  have hread : ofJson? (.object ms) =
      ((container :: others).mapM ContainerDefinition.ofJson?).map fun cs => ⟨cs⟩ :=
    Json.record?_single (f := ⟨"containerDefinitions", false, _⟩) hd h _ _
  simp only [firstContainer?, h]
  rw [hread, List.mapM_cons]
  cases ContainerDefinition.ofJson? container with
  | error e => rfl
  | ok c =>
    cases others.mapM ContainerDefinition.ofJson? with
    | error e => rfl
    | ok cs => rfl

/-- Behind the first container only a mismatch counts. -/
theorem firstContainer?_of_member? (hd : document.Distinct)
    (h : document.member? "containerDefinitions" = some (.array (container :: others))) :
    firstContainer? document = (do
      let c ← ContainerDefinition.ofJson? container
      match firstMismatch? others with
      | none => .ok (some c)
      | some m => .error m) := by
  rw [firstContainer?_eq hd h]
  refine bind_congr fun c => ?_
  rw [← map_mapM_ofJson? (some c) others]
  cases others.mapM ContainerDefinition.ofJson? <;> rfl

/-- There is no first container where none is listed. -/
theorem firstContainer?_of_not_member? (hd : document.Distinct)
    (h : ∀ container others,
      document.member? "containerDefinitions" ≠ some (.array (container :: others))) :
    firstContainer? document = .ok none := by
  rw [firstContainer?]
  split
  · next containers hmember =>
    obtain rfl : containers = [] := by
      cases containers with
      | nil => rfl
      | cons container others => exact absurd hmember (h container others)
    obtain ⟨ms, rfl⟩ := exists_of_member? hmember
    have hread : ofJson? (.object ms) = .ok ⟨[]⟩ :=
      record?_single (f := ⟨"containerDefinitions", false, _⟩) hd hmember _ _
    rw [hread]
    rfl
  · rfl

end TaskDefinition

end EnvAudit
