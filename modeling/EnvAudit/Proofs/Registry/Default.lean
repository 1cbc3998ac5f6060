import EnvAudit.Proofs.Pattern.Apart
import EnvAudit.Proofs.Text.CharSet
import EnvAudit.Registry.Basic

/-!
# EnvAudit.Proofs.Registry.Default

The references that the default entries find:

1. the names in a text are those that the groups of its matches hold (`PatternEntry.extract_eq`);
2. a default entry finds names of letters, digits, `_` and `-` only
   (`Inline.isName_of_mem_extract`);
3. references stay within a line, so the lines of a text can be searched one by one
   (`Inline.extract_append`), and there is none without one of the characters that mark it
   (`Inline.extract_eq_nil`).
-/

namespace EnvAudit

/-! ## Names in groups -/

/-- The name that groups hold. -/
def nameIn? (groups : Nat) (texts : List (Nat × List Char)) : Option String :=
  (List.range groups).findSome? fun i => do
    let text ← (texts.find? fun g => g.1 == i + 1).map Prod.snd
    if text = [] then none else some (.ofList text)

/-- The name of a match is that in its groups. -/
theorem Found.name?_eq (f : Found) (groups : Nat) :
    f.name? groups = nameIn? groups (Thread.texts f.groups) := by
  have hgroup : ∀ i, ((Thread.texts f.groups).find? fun g => g.1 == i).map Prod.snd =
      (f.group? i).map Span.text := by
    intro i
    simp only [Found.group?, Thread.texts, List.find?_map, Function.comp_def, Option.map_map]
  simp only [Found.name?, nameIn?, hgroup]
  congr 1
  funext i
  cases f.group? (i + 1) <;> rfl

/-- A name in groups is the text of one of them. -/
theorem exists_of_nameIn? {groups : Nat} {texts : List (Nat × List Char)} {name : String}
    (h : nameIn? groups texts = some name) : ∃ g ∈ texts, g.2 ≠ [] ∧ name.toList = g.2 := by
  obtain ⟨i, -, hi⟩ := List.exists_of_findSome?_eq_some h
  obtain ⟨text, htext, hname⟩ := Option.bind_eq_some_iff.1 hi
  obtain ⟨g, hg, rfl⟩ := Option.map_eq_some_iff.1 htext
  split at hname
  · cases hname
  · next hne =>
    cases hname
    exact ⟨g, List.mem_of_find?_eq_some hg, hne, by simp⟩

/-- An entry extracts the names in the texts its pattern finds. -/
theorem PatternEntry.extract_eq {e : PatternEntry} (h : e.pattern.body.regular) (text : List Char) :
    e.extract text = (e.pattern.body.ways.found text).filterMap (nameIn? e.pattern.groups) := by
  rw [extract, Reading.found, ← Pattern.map_view_findAll h, List.map_map, List.filterMap_map]
  refine List.filterMap_congr fun f _ => ?_
  exact f.name?_eq _

namespace Registry

/-! ## What default entries have in common -/

/-- The characters in a reference that belong to no name. -/
def marks : List Char := ['.', '"', '[', ']', '(', ')']

/-- An entry for references that stand within a line and give names their marks. -/
structure Inline (e : PatternEntry) : Prop where
  regular : e.pattern.body.regular
  captures : e.pattern.body.ways.Captures dashedWord
  apart {sep : Char} : dashedWord.contains sep = false → sep ∉ marks → e.pattern.body.ways.Apart sep
  marked : ∃ x ∈ marks, ∀ c, ∀ w ∈ e.pattern.body.ways c, x ∈ w.read

/-! ## Characters of names -/

/-- A name as default entries find it. -/
def IsName (name : String) : Prop := name.toList ≠ [] ∧ ∀ c ∈ name.toList, dashedWord.contains c

theorem contains_dashedWord_of_word (c : Char) (h : CharSet.word.contains c) :
    dashedWord.contains c := by
  have hfirst : ∀ r ∈ CharSet.word.ranges.head?, 0x2d < r.1 := by
    rintro r ⟨⟩
    decide
  rw [CharSet.contains, dashedWord, CharSet.covers_cons (Nat.le_refl _) hfirst,
    Bool.or_eq_true]
  exact .inr h

/-! ## The default entries -/

open Reading

theorem ways_enclosed_eq (before : String) (index : Nat) (after : String) :
    (enclosed before index after).ways =
      (text before.toList).andThen ((remember index (again₁ true (one dashedWord))).andThen
        (text after.toList)) := by
  simp [enclosed, nameOf, Node.ways, Node.waysSeq]

/-- A name is read in brackets or behind a dot. -/
theorem ways_javascript_eq : javascript.pattern.body.ways =
    (text "process.env".toList).andThen
      ((enclosed "[\"" 1 "\"]").ways.orElse ((text ".".toList).andThen (nameOf 2 .word).ways)) := by
  simp [javascript, Pattern.ofNode, Node.ways, Node.waysSeq, Node.waysAlt]

theorem apart_text {sep : Char} (hword : dashedWord.contains sep = false) (hmark : sep ∉ marks)
    {cs : List Char} (h : ∀ x ∈ cs, dashedWord.contains x ∨ x ∈ marks) : Apart sep (.text cs) := by
  refine .text fun hsep => ?_
  rcases h sep hsep with hx | hx
  · simp [hx] at hword
  · exact hmark hx

theorem apart_name {sep : Char} (hword : dashedWord.contains sep = false) (index : Nat) :
    Apart sep (nameOf index dashedWord).ways :=
  (Apart.again₁ hword true).remember index

theorem captures_name (index : Nat) : Captures dashedWord (nameOf index dashedWord).ways :=
  .run (fun _ h => h) index true

/-- A name between two texts does not match a separator. -/
theorem apart_enclosed {sep : Char} (hword : dashedWord.contains sep = false) (hmark : sep ∉ marks)
    {before after : String} (index : Nat)
    (hbefore : ∀ x ∈ before.toList, dashedWord.contains x ∨ x ∈ marks)
    (hafter : ∀ x ∈ after.toList, dashedWord.contains x ∨ x ∈ marks) :
    Apart sep (enclosed before index after).ways :=
  (apart_text hword hmark hbefore).andThen ((apart_name hword index).andThen
    (apart_text hword hmark hafter))

/-- The group between two texts holds a name. -/
theorem captures_enclosed (before : String) (index : Nat) (after : String) :
    Captures dashedWord (enclosed before index after).ways :=
  (Captures.text _).andThen ((captures_name index).andThen (.text _))

/-- What starts with a text reads the text. -/
theorem mem_read_text {cs : List Char} {a : Reading} {x : Char} (hx : x ∈ cs) :
    ∀ c, ∀ w ∈ (text cs).andThen a c, x ∈ w.read := by
  intro c w hw
  obtain ⟨u, hu, v, -, rfl⟩ := mem_andThen.1 hw
  rw [text_eq] at hu
  split at hu
  · cases List.mem_singleton.1 hu
    exact List.mem_append_left _ hx
  · simp at hu

theorem inline_javascript : Inline javascript where
  regular := by decide
  captures := (Captures.text _).andThen ((captures_enclosed "[\"" 1 "\"]").orElse
    ((Captures.text _).andThen (.run contains_dashedWord_of_word 2 true)))
  apart {sep} hword hmark := by
    have hrun : CharSet.word.contains sep = false := by
      rw [Bool.eq_false_iff]
      intro h
      simp [contains_dashedWord_of_word sep h] at hword
    exact (apart_text hword hmark (forall_mem_of_all (by decide))).andThen
      ((apart_enclosed hword hmark 1 (forall_mem_of_all (by decide))
        (forall_mem_of_all (by decide))).orElse
        ((apart_text hword hmark (forall_mem_of_all (by decide))).andThen
          ((Apart.again₁ hrun true).remember 2)))
  marked := ⟨'.', by decide, mem_read_text (by decide)⟩

theorem inline_dotnet : Inline dotnet where
  regular := by decide
  captures := captures_enclosed _ 1 _
  apart hword hmark := apart_enclosed hword hmark 1 (forall_mem_of_all (by decide))
    (forall_mem_of_all (by decide))
  marked := ⟨'(', by decide, mem_read_text (by decide)⟩

theorem inline_flutter : Inline flutter where
  regular := by decide
  captures := captures_enclosed _ 1 _
  apart hword hmark := apart_enclosed hword hmark 1 (forall_mem_of_all (by decide))
    (forall_mem_of_all (by decide))
  marked := ⟨'.', by decide, mem_read_text (by decide)⟩

/-- Every entry of the default registry matches within a line. -/
theorem inline_of_mem_default {e : PatternEntry} (h : e ∈ default.entries) : Inline e := by
  simp only [default, List.mem_cons, List.not_mem_nil, or_false] at h
  rcases h with rfl | rfl | rfl
  · exact inline_javascript
  · exact inline_dotnet
  · exact inline_flutter

namespace Inline

variable {e : PatternEntry} (h : Inline e)
include h

/-- An entry that matches within a line matches no empty text. -/
theorem moving : e.pattern.body.ways.Moving := Pattern.moving_ways h.regular

/-- What an entry finds are names. -/
theorem isName_of_mem_extract {text : List Char} {name : String} (hname : name ∈ e.extract text) :
    IsName name := by
  rw [PatternEntry.extract_eq h.regular] at hname
  obtain ⟨groups, hgroups, hin⟩ := List.mem_filterMap.1 hname
  obtain ⟨g, hg, hne, htext⟩ := exists_of_nameIn? hin
  obtain ⟨s, hs, rfl⟩ := List.mem_map.1 hgroups
  obtain ⟨lead, w, hw, -, rfl⟩ := mem_sightings h.moving hs
  exact ⟨htext ▸ hne, htext ▸ h.captures _ w hw g hg⟩

/-- Texts set apart by a character of no reference are searched one after the other. -/
theorem extract_append {sep : Char} (hword : dashedWord.contains sep = false) (hmark : sep ∉ marks)
    (text more : List Char) :
    e.extract (text ++ sep :: more) = e.extract text ++ e.extract more := by
  simp only [PatternEntry.extract_eq h.regular, (h.apart hword hmark).found_append h.moving,
    List.filterMap_append]

theorem extract_nil : e.extract [] = [] := by
  rw [PatternEntry.extract_eq h.regular, found_nil h.moving]
  rfl

/-- Without a mark there is no reference. -/
theorem extract_eq_nil {text : List Char} (hmarks : ∀ x ∈ marks, x ∉ text) :
    e.extract text = [] := by
  obtain ⟨x, hx, hread⟩ := h.marked
  rw [PatternEntry.extract_eq h.regular, found_of_not_mem h.moving hread (hmarks x hx)]
  rfl

end Inline

end Registry
end EnvAudit
