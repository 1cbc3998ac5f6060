import EnvAudit.Proofs.Registry.Default

/-!
# EnvAudit.Proofs.Registry.Forms

The forms of references to variables, and what is found of them:

1. a `ReferenceForm` is what stands before a name, the characters of which names consist, and what
   stands behind the name; at the start of a text it is read without going back
   (`ReferenceForm.read?`);
2. `ReferenceForm.names` goes once through a text: where a form is read it takes the name and goes
   on behind the reference, elsewhere it goes on with the next character;
3. if the preferred way of a reading is the first form that is read, then what is found with this
   reading are the names of one pass (`Reading.Follows.names_eq`).

Main statement: the default entries find the names in their forms (`extract_default`).
-/

namespace EnvAudit

/-! ## Forms of references -/

/-- A form of references to variables. -/
structure ReferenceForm where
  /-- What stands before a name. -/
  before : String
  /-- The characters of names. -/
  chars : CharSet
  /-- What stands behind a name. -/
  after : String

namespace ReferenceForm

/-- The name to which the start of a text refers in a form, and what follows the reference. The name
is as long as it can be. -/
def read? (f : ReferenceForm) (text : List Char) : Option (List Char × List Char) :=
  let behind := text.drop f.before.toList.length
  let name := behind.takeWhile f.chars.contains
  let rest := behind.dropWhile f.chars.contains
  if f.before.toList <+: text ∧ name ≠ [] ∧ f.after.toList <+: rest then
    some (name, rest.drop f.after.toList.length)
  else none

/-- A form that is read has a name, and its text stands in front. -/
theorem read?_eq_some {f : ReferenceForm} {text : List Char} {r : List Char × List Char}
    (h : f.read? text = some r) :
    r.1 ≠ [] ∧ text = f.before.toList ++ (r.1 ++ f.after.toList) ++ r.2 := by
  unfold read? at h
  simp only at h
  split at h
  · next hread =>
    obtain ⟨⟨behind, rfl⟩, hname, hafter⟩ := hread
    cases h
    refine ⟨hname, ?_⟩
    simp only [List.drop_left] at hafter ⊢
    obtain ⟨rest, hrest⟩ := hafter
    conv_lhs => rw [← List.takeWhile_append_dropWhile (p := f.chars.contains) (l := behind)]
    simp [← hrest]
  · cases h

/-- The first form in which the start of a text refers to a name. -/
def readFirst? (forms : List ReferenceForm) (text : List Char) : Option (List Char × List Char) :=
  forms.findSome? fun f => f.read? text

variable {forms : List ReferenceForm} {text : List Char} {r : List Char × List Char}

/-- Behind a form less of the text is left. -/
theorem length_lt_of_readFirst? (h : readFirst? forms text = some r) :
    r.2.length < text.length := by
  obtain ⟨f, -, hf⟩ := List.exists_of_findSome?_eq_some h
  obtain ⟨hname, htext⟩ := read?_eq_some hf
  have hpos := List.length_pos_iff.2 hname
  have hlength := congrArg List.length htext
  simp only [List.length_append] at hlength
  omega

/-- The names to which a text refers, read in one pass: behind a reference the pass goes on, and
where there is none it moves on by one character. -/
def names (forms : List ReferenceForm) (text : List Char) : List String :=
  match _h : readFirst? forms text with
  | some r => .ofList r.1 :: names forms r.2
  | none =>
    match text with
    | [] => []
    | _ :: text => names forms text
termination_by text.length
decreasing_by
  · exact length_lt_of_readFirst? _h
  · exact Nat.lt_succ_self _

/-- A form that is read gives its name, and the reading goes on behind it. -/
theorem names_of_some (h : readFirst? forms text = some r) :
    names forms text = .ofList r.1 :: names forms r.2 := by
  rw [names]
  split
  · next r' h' =>
    obtain rfl : r' = r := Option.some.inj (h'.symm.trans h)
    rfl
  · next h' => simp [h'] at h

/-- Where no form starts the reading goes on at the next character. -/
theorem names_cons {c : Char} (h : readFirst? forms (c :: text) = none) :
    names forms (c :: text) = names forms text := by
  rw [names]
  split
  · next r' h' => simp [h'] at h
  · rfl

theorem names_nil (forms : List ReferenceForm) : names forms [] = [] := by
  rw [names]
  split
  · next r h => exact absurd (length_lt_of_readFirst? h) (Nat.not_lt_zero _)
  · rfl

end ReferenceForm

/-! ## Readings that follow forms -/

open ReferenceForm in
/-- Whether the preferred way of a reading is the first of some forms that is read: it goes as far
as the form, and its groups hold the name. -/
def Reading.Follows (a : Reading) (groups : Nat) (forms : List ReferenceForm) : Prop :=
  ∀ c, ((a c).head?.map fun w => ((c.move w.read).rest, nameIn? groups w.groups)) =
    (readFirst? forms c.rest).map fun r => (r.2, some (.ofList r.1))

namespace Reading

open ReferenceForm

variable {sep : Char} {a : Reading} {groups : Nat} {forms : List ReferenceForm}

/-- What is found with a reading that follows forms are the names of one pass. -/
theorem Follows.names_eq (h : a.Follows groups forms) (ha : a.Moving) (hapart : a.Apart sep)
    (text : List Char) : (a.found text).filterMap (nameIn? groups) = names forms text := by
  fun_induction names forms text with
  | case1 text r hr ih =>
    have hc := h (.start text)
    rw [show (Cursor.start text).rest = text from rfl, hr, Option.map_some,
      Option.map_eq_some_iff] at hc
    obtain ⟨w, hw, hwr⟩ := hc
    obtain ⟨hrest, hname⟩ := Prod.mk.inj hwr
    rw [hapart.found_of_head ha hw, hrest, List.filterMap_cons_some hname, ih]
  | case2 hnone => rw [found_nil ha, List.filterMap_nil]
  | case3 x text hnone ih =>
    have hc := h (.start (x :: text))
    rw [show (Cursor.start (x :: text)).rest = x :: text from rfl, hnone, Option.map_none,
      Option.map_eq_none_iff] at hc
    rw [hapart.found_cons ha (List.head?_eq_none_iff.1 hc), ih]

/-! ## Reading a form -/

/-- Read a form of references, and remember the name under a number. -/
def form (f : ReferenceForm) (index : Nat) : Reading :=
  (Reading.text f.before.toList).andThen
    ((remember index (again₁ true (one f.chars))).andThen (.text f.after.toList))

theorem text_append_andThen (xs ys : List Char) (b : Reading) :
    (Reading.text (xs ++ ys)).andThen b =
      (Reading.text xs).andThen ((Reading.text ys).andThen b) := by
  funext c
  rw [text_andThen, text_andThen]
  by_cases hxs : xs <+: c.rest
  · obtain ⟨rest, hrest⟩ := hxs
    have hmove : (c.move xs).rest = rest := Cursor.rest_move hrest.symm
    have hprefix : xs ++ ys <+: c.rest ↔ ys <+: rest := by
      rw [← hrest, List.prefix_append_right_inj]
    rw [if_pos (c := xs <+: c.rest) ⟨rest, hrest⟩]
    simp only [behind, text_andThen, hmove, hprefix]
    split
    · simp [Cursor.move_append, Function.comp_def, ← Way.append_assoc]
    · rfl
  · rw [if_neg hxs, if_neg fun h => hxs ((List.prefix_append _ _).trans h)]

/-- The preferred way of a name before a text that does not start with a character of names. -/
theorem head_name (set : CharSet) (index : Nat) {after : List Char}
    (hafter : after.head?.any set.contains = false) (c : Cursor) :
    ((remember index (again₁ true (one set))).andThen (Reading.text after) c).head? =
      if c.rest.takeWhile set.contains ≠ [] ∧ after <+: c.rest.dropWhile set.contains then
        some ⟨c.rest.takeWhile set.contains ++ after, [(index, c.rest.takeWhile set.contains)]⟩
      else none := by
  have hrest : (c.move (c.rest.takeWhile set.contains)).rest = c.rest.dropWhile set.contains :=
    Cursor.rest_move List.takeWhile_append_dropWhile.symm
  by_cases hrun : c.rest.takeWhile set.contains = []
  · have hnone : ∀ x ∈ c.rest.head?, set.contains x = false := by
      intro x hx
      obtain ⟨xs, hxs⟩ := List.head?_eq_some_iff.1 hx
      by_contra hmem
      rw [Bool.not_eq_false] at hmem
      simp [hxs, hmem] at hrun
    simp [andThen, remember, again₁_one_of_head hnone, hrun]
  · simp only [ne_eq, hrun, not_false_eq_true, true_and]
    cases after with
    | nil =>
      rw [head_remember_run₁_andThen index hrun (by simp [text_eq])]
      simp [text_eq, Way.append, Way.ofText]
    | cons x xs =>
      have hstops : Stops set (Reading.text (x :: xs)) := by
        intro d y ys hd hy
        rw [text_eq, if_neg]
        rw [hd, List.cons_prefix_cons]
        rintro ⟨rfl, -⟩
        exact absurd (hafter.symm.trans hy) (by decide)
      rw [remember_run₁_andThen hstops, if_neg hrun, List.head?_map, text_eq, hrest]
      split
      · rfl
      · rfl

/-- The preferred way of a form reads what the form reads. -/
theorem head_form {f : ReferenceForm} (index : Nat)
    (hafter : f.after.toList.head?.any f.chars.contains = false) (c : Cursor) :
    (form f index c).head? = (f.read? c.rest).map fun r =>
      ⟨f.before.toList ++ (r.1 ++ f.after.toList), [(index, r.1)]⟩ := by
  rw [form, text_andThen, ReferenceForm.read?]
  by_cases hbefore : f.before.toList <+: c.rest
  · have hmove : (c.move f.before.toList).rest = c.rest.drop f.before.toList.length := rfl
    rw [if_pos hbefore, behind, List.head?_map, head_name f.chars index hafter, hmove]
    simp only [hbefore, true_and]
    split
    · simp [Way.append, Way.ofText]
    · rfl
  · simp [hbefore]

/-! ## Following forms -/

/-- The name in the only group that took part. -/
theorem nameIn?_singleton {groups index : Nat} (hpos : 0 < index) (hle : index ≤ groups)
    {name : List Char} (hne : name ≠ []) :
    nameIn? groups [(index, name)] = some (.ofList name) := by
  induction groups with
  | zero => omega
  | succ groups ih =>
    rw [nameIn?, List.range_succ, List.findSome?_append, ← nameIn?]
    rcases Nat.lt_or_eq_of_le hle with hlt | rfl
    · rw [ih (Nat.le_of_lt_succ hlt)]
      rfl
    · have hnone : nameIn? groups [(groups + 1, name)] = none := by
        refine List.findSome?_eq_none_iff.2 fun i hi => ?_
        have hlt := List.mem_range.1 hi
        have hne : groups ≠ i := by omega
        simp [hne]
      rw [hnone]
      simp [hne]

/-- A reading of a form follows the form. -/
theorem follows_form {f : ReferenceForm} {index : Nat}
    (hafter : f.after.toList.head?.any f.chars.contains = false) (hpos : 0 < index)
    (hle : index ≤ groups) : (form f index).Follows groups [f] := by
  intro c
  rw [head_form index hafter, readFirst?, List.findSome?_singleton, Option.map_map]
  refine Option.map_congr fun r hr => ?_
  obtain ⟨hname, htext⟩ := read?_eq_some hr
  simp only [Function.comp_apply, Cursor.rest_move htext, nameIn?_singleton hpos hle hname]

/-- One reading or else another follows the forms of the one before those of the other. -/
theorem Follows.orElse {b : Reading} {forms' : List ReferenceForm} (ha : a.Follows groups forms)
    (hb : b.Follows groups forms') : (a.orElse b).Follows groups (forms ++ forms') := by
  intro c
  rw [Reading.orElse, List.head?_append, Option.map_or, ha c, hb c, ← Option.map_or]
  simp only [readFirst?, List.findSome?_append]

theorem text_andThen_orElse (xs : List Char) (a b : Reading) :
    (Reading.text xs).andThen (a.orElse b) =
      ((Reading.text xs).andThen a).orElse ((Reading.text xs).andThen b) := by
  funext c
  simp only [Reading.orElse, text_andThen, behind]
  split <;> simp

end Reading

namespace Registry

open Reading

/-! ## The forms of the default entries -/

/-- References like `process.env["NAME"]`. -/
def indexForm : ReferenceForm := ⟨"process.env[\"", dashedWord, "\"]"⟩

/-- References like `process.env.NAME`. -/
def memberForm : ReferenceForm := ⟨"process.env.", .word, ""⟩

/-- References like `GetEnvironmentVariable("NAME")`. -/
def dotnetForm : ReferenceForm := ⟨"GetEnvironmentVariable(\"", dashedWord, "\")"⟩

/-- References like `String.fromEnvironment("NAME")`. -/
def flutterForm : ReferenceForm := ⟨"String.fromEnvironment(\"", dashedWord, "\")"⟩

/-- A name between two texts is read as its form. -/
theorem follows_enclosed (before : String) {after : String}
    (hafter : after.toList.head?.any dashedWord.contains = false) :
    (enclosed before 1 after).ways.Follows 1 [⟨before, dashedWord, after⟩] := by
  rw [ways_enclosed_eq]
  exact follows_form (f := ⟨before, dashedWord, after⟩) hafter Nat.one_pos (Nat.le_refl 1)

theorem ways_javascript_eq_forms : javascript.pattern.body.ways =
    (form indexForm 1).orElse (form memberForm 2) := by
  have hindex : indexForm.before.toList = "process.env".toList ++ "[\"".toList := by decide
  have hmember : memberForm.before.toList = "process.env".toList ++ ".".toList := by decide
  have hafter : memberForm.after.toList = [] := by decide
  have hstill : ∀ a : Reading, a.andThen .still = a := fun a => by
    funext c
    simp [Reading.andThen, Reading.still]
  have hname : (nameOf 2 .word).ways = remember 2 (again₁ true (one memberForm.chars)) := by
    simp [nameOf, Node.ways, memberForm]
  rw [form, form, hindex, hmember, text_append_andThen, text_append_andThen, ← text_andThen_orElse,
    hafter, Reading.text, hstill, ways_javascript_eq, ways_enclosed_eq, hname]
  rfl

/-- References of the first entry are read as its two forms. -/
theorem follows_javascript :
    javascript.pattern.body.ways.Follows javascript.pattern.groups [indexForm, memberForm] := by
  have hgroups : javascript.pattern.groups = 2 := by decide
  rw [ways_javascript_eq_forms, hgroups]
  exact (follows_form (by decide) (by decide) (by decide)).orElse
    (follows_form (by decide) (by decide) (by decide))

/-- An entry that follows its forms extracts the names that a single pass over the text reads. -/
theorem Inline.extract_eq_names {e : PatternEntry} (h : Inline e) {forms : List ReferenceForm}
    (hforms : e.pattern.body.ways.Follows e.pattern.groups forms) (text : List Char) :
    e.extract text = ReferenceForm.names forms text := by
  have hapart : e.pattern.body.ways.Apart '\n' := h.apart (by decide) (by decide)
  rw [PatternEntry.extract_eq h.regular, hforms.names_eq h.moving hapart]

/-- In every text the default entries find the names that are read in their forms in one pass, in
order and as often as they come. No name is empty, and on the two sides of a line end references are
found one after the other. -/
theorem extract_default (text : List Char) :
    javascript.extract text = ReferenceForm.names [indexForm, memberForm] text ∧
      dotnet.extract text = ReferenceForm.names [dotnetForm] text ∧
        flutter.extract text = ReferenceForm.names [flutterForm] text ∧
          ∀ e ∈ default.entries, (∀ name ∈ e.extract text, name ≠ "") ∧
            ∀ more, e.extract (text ++ '\n' :: more) = e.extract text ++ e.extract more := by
  refine ⟨inline_javascript.extract_eq_names follows_javascript text,
    inline_dotnet.extract_eq_names (follows_enclosed _ (by decide)) text,
    inline_flutter.extract_eq_names (follows_enclosed _ (by decide)) text, fun e he => ?_⟩
  have hinline := inline_of_mem_default he
  refine ⟨fun name hname hempty => ?_, hinline.extract_append (by decide) (by decide) text⟩
  exact (hinline.isName_of_mem_extract hname).1 (by simp [hempty])

/-- A reference within a reference, of which only the start is one. -/
def nestedText : String := "process.env.process.env.X"

/-- The reference within is not found, because its start was taken for the name. -/
theorem extract_default_nestedText :
    javascript ∈ default.entries ∧ javascript.extract nestedText.toList = ["process"] ∧
      ∀ more, javascript.extract (nestedText.toList ++ '\n' :: more) =
        ["process"] ++ javascript.extract more := by
  have hmem : javascript ∈ default.entries := List.mem_cons_self
  have hread : ReferenceForm.readFirst? [indexForm, memberForm] nestedText.toList =
      some ("process".toList, ['.', 'e', 'n', 'v', '.', 'X']) := by decide
  have hnames : ReferenceForm.names [indexForm, memberForm] nestedText.toList = ["process"] := by
    rw [ReferenceForm.names_of_some hread]
    iterate 6 rw [ReferenceForm.names_cons (by decide)]
    rw [ReferenceForm.names_nil]
    rfl
  obtain ⟨hjavascript, -, -, hdefault⟩ := extract_default nestedText.toList
  rw [hnames] at hjavascript
  refine ⟨hmem, hjavascript, fun more => ?_⟩
  rw [(hdefault javascript hmem).2, hjavascript]

end Registry

end EnvAudit
