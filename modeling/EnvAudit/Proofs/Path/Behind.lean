import EnvAudit.Proofs.Path

/-!
# EnvAudit.Proofs.Path.Behind

Paths behind a path:

1. a path may go on behind another one by its steps (`Path.Extends`) or as it is written
   (`Path.Behind`);
2. paths that go on alike behind two paths (`Path.Moved`) do so still where a path is joined
   (`Moved.join`) and above them, unless this is above the two (`Moved.parent?`);
3. behind two paths of one size they have one size too (`Moved.size_eq`).
-/

namespace EnvAudit.Path

variable {top top' p p' q above above' : Path} {inner : List Move}

/-! ## By the steps -/

/-- A path that goes on with some steps behind a path. -/
structure Extends (top p : Path) (inner : List Move) : Prop where
  start : p.isAbsolute = top.isAbsolute
  steps : p.steps = top.steps ++ inner

theorem Extends.refl (top : Path) : top.Extends top [] := ⟨rfl, (List.append_nil _).symm⟩

/-- A joined path goes on from the first by the steps of the second. -/
theorem extends_join (hq : ¬q.isAbsolute) : top.Extends (top.join q) q.steps :=
  ⟨isAbsolute_join hq, steps_join hq⟩

/-- A path that goes on behind another has a parent. -/
theorem Extends.exists_parent? (h : top.Extends p inner) (hinner : inner ≠ []) :
    ∃ above, p.parent? = some above := by
  cases habove : p.parent? with
  | some above => exact ⟨above, rfl⟩
  | none =>
    have hnil := h.steps.symm.trans (parent?_eq_none habove)
    exact absurd (List.append_eq_nil_iff.1 hnil).2 hinner

/-- The parent of a path behind another goes on one step less. -/
theorem Extends.parent? (h : top.Extends p inner) (hinner : inner ≠ [])
    (habove : p.parent? = some above) : top.Extends above inner.dropLast where
  start := (isAbsolute_parent? habove).trans h.start
  steps := by rw [steps_parent? habove, h.steps, List.dropLast_append_of_ne_nil hinner]

/-! ## As they are written -/

/-- A path that is another one, or that goes on behind a slash after it. -/
def Behind (top p : Path) : Prop := p = top ∨ top.chars ++ ['/'] <+: p.chars

/-- Two paths that go on alike behind two others. -/
inductive Moved (top top' : Path) : Path → Path → Prop
  | top : Moved top top' top top'
  | inside (rest : List Char) :
      Moved top top' ⟨top.chars ++ '/' :: rest⟩ ⟨top'.chars ++ '/' :: rest⟩

/-- A path whose last segment is a part. -/
def EndsInPart (p : Path) : Prop :=
  ∃ init segment, p.segments = init ++ [segment] ∧ (partOf? segment).isSome

namespace EndsInPart

theorem not_slash (h : top.EndsInPart) : ¬(top.chars = [] ∨ top.chars.getLast? = some '/') := by
  obtain ⟨init, segment, hsegments, hpart⟩ := h
  have hidle : segment ≠ [] := by
    rintro rfl
    cases hpart
  rintro (hnil | hlast)
  · rw [segments, hnil] at hsegments
    cases init with
    | nil => exact hidle (by simpa [splitOnChar] using hsegments.symm)
    | cons s init => simp [splitOnChar] at hsegments
  · obtain ⟨cs, hcs⟩ := List.getLast?_eq_some_iff.1 hlast
    rw [segments, hcs, splitOnChar_append_cons] at hsegments
    exact hidle (by simpa [splitOnChar] using (List.append_inj' hsegments rfl).2.symm)

theorem ne_nil (h : top.EndsInPart) : top.chars ≠ [] := fun hnil => h.not_slash (.inl hnil)

end EndsInPart

/-- The path of an entry ends in a part. -/
theorem IsName.endsInPart {name : String} (h : IsName name) (p : Path) :
    (p.join (ofText name)).EndsInPart := by
  have hsegments : (ofText name).segments = [name.toList] := splitOnChar_of_not_mem h.2.1
  have hpart : (Path.partOf? name.toList).isSome := by rw [h.partOf?]; rfl
  have hslash : ∀ cs, (⟨cs ++ '/' :: (ofText name).chars⟩ : Path).segments =
      splitOnChar '/' cs ++ [name.toList] := fun cs => by
    rw [segments, splitOnChar_append_cons]
    exact congrArg _ hsegments
  by_cases hp : p.chars = [] ∨ p.chars.getLast? = some '/'
  · rw [join_of_slash hp h.not_isAbsolute]
    rcases hp with hnil | hlast
    · exact ⟨[], _, by rw [hnil]; exact hsegments, hpart⟩
    · obtain ⟨cs, hcs⟩ := List.getLast?_eq_some_iff.1 hlast
      refine ⟨splitOnChar '/' cs, name.toList, ?_, hpart⟩
      rw [hcs, List.append_assoc]
      exact hslash cs
  · rw [join_of_not_slash hp h.not_isAbsolute]
    exact ⟨_, _, hslash p.chars, hpart⟩

/-- The segments behind a slash follow those before it. -/
theorem segments_append_slash (top : Path) (rest : List Char) :
    (⟨top.chars ++ '/' :: rest⟩ : Path).segments = top.segments ++ splitOnChar '/' rest :=
  splitOnChar_append_cons '/' top.chars rest

/-- Where a path starts does not depend on how it goes on. -/
theorem isAbsolute_append (h : top.chars ≠ []) (cs : List Char) :
    (⟨top.chars ++ cs⟩ : Path).isAbsolute = top.isAbsolute := by
  obtain ⟨c, rest, hchars⟩ := List.exists_cons_of_ne_nil h
  rw [isAbsolute, isAbsolute, hchars]
  rfl

/-- Behind a slash a path goes on by the steps that stand there. -/
theorem extends_append_slash (h : top.chars ≠ []) (rest : List Char) :
    top.Extends ⟨top.chars ++ '/' :: rest⟩ (Path.steps ⟨rest⟩) where
  start := isAbsolute_append h _
  steps := by
    rw [steps, moves, segments_append_slash, List.map_append, List.filter_append]
    rfl

/-! ## Parents behind a path -/

/-- Behind a segment that counts only idle segments are dropped. -/
theorem dropIdle_append {segment : List Char} (h : (partOf? segment).isSome)
    (init l : List (List Char)) :
    dropIdle (init ++ [segment] ++ l) = init ++ [segment] ++ dropIdle l := by
  have hkept : (segment :: init.reverse).dropWhile (fun s => (partOf? s).isNone) =
      segment :: init.reverse :=
    List.dropWhile_cons_of_neg (by simpa [← Option.isSome_iff_ne_none] using h)
  unfold dropIdle
  rw [List.reverse_append, List.reverse_append, List.reverse_singleton, List.singleton_append,
    List.dropWhile_append, hkept]
  split
  · next hnil =>
    rw [List.isEmpty_iff.1 hnil]
    simp
  · simp

/-- Nothing counts in front of the body of a path, of which the parent leaves out a part. -/
theorem exists_body (p : Path) : ∃ start body, p.segments = start ++ body ∧
    start.filterMap partOf? = [] ∧ (dropIdle (dropIdle body).dropLast ≠ [] →
      p.parent? = some ⟨joinOnChar '/' (start ++ dropIdle (dropIdle body).dropLast)⟩) := by
  have hbody : ∀ {l : List (List Char)}, dropIdle (dropIdle l).dropLast ≠ [] → dropIdle l ≠ [] :=
    fun habove hnil => habove (by rw [hnil]; rfl)
  by_cases habs : p.isAbsolute
  · refine ⟨[[]], p.segments.tail, segments_of_isAbsolute habs, rfl, fun habove => ?_⟩
    obtain ⟨next, others, hnext⟩ := List.exists_cons_of_ne_nil habove
    simp only [parent?, if_pos habs]
    split
    · next hnil => exact absurd hnil (hbody habove)
    · simp [hnext, joinOnChar]
  · by_cases hhere : p.segments.head? = some ['.']
    · refine ⟨[['.']], p.segments.tail, (List.cons_head?_tail hhere).symm, rfl, fun habove => ?_⟩
      simp only [parent?, if_neg habs, if_pos hhere]
      split
      · next hnil => exact absurd hnil (hbody habove)
      · rfl
    · refine ⟨[], p.segments, rfl, rfl, fun habove => ?_⟩
      simp only [parent?, if_neg habs, if_neg hhere]
      split
      · next hnil => exact absurd hnil (hbody habove)
      · rfl

/-- The parent of a path with a part behind another path is written like that path at first. -/
theorem parent?_append_slash (htop : top.EndsInPart) {rest : List Char}
    (h : dropIdle (splitOnChar '/' rest) ≠ []) :
    (⟨top.chars ++ '/' :: rest⟩ : Path).parent? = some ⟨joinOnChar '/'
      (top.segments ++ dropIdle (dropIdle (splitOnChar '/' rest)).dropLast)⟩ := by
  obtain ⟨init, segment, hsegments, hpart⟩ := htop
  obtain ⟨start, body, hbody, hstart, hparent⟩ := exists_body ⟨top.chars ++ '/' :: rest⟩
  rw [segments_append_slash, hsegments] at hbody
  -- The part is not in the start of the path.
  obtain ⟨inner, hinit, rfl⟩ : ∃ inner, init ++ [segment] = start ++ (inner ++ [segment]) ∧
      body = inner ++ [segment] ++ splitOnChar '/' rest := by
    rw [List.append_assoc, List.append_eq_append_iff] at hbody
    obtain ⟨xs, rfl, hxs⟩ | ⟨xs, rfl, hxs⟩ := hbody
    · cases xs with
      | nil => exact ⟨[], by simp, by simpa using hxs.symm⟩
      | cons s xs =>
        obtain ⟨rfl, -⟩ := List.cons.inj hxs
        rw [List.filterMap_eq_nil_iff.1 hstart segment (by simp)] at hpart
        cases hpart
    · exact ⟨xs, by simp, by simpa using hxs⟩
  have habove : dropIdle (dropIdle (inner ++ [segment] ++ splitOnChar '/' rest)).dropLast =
      inner ++ [segment] ++ dropIdle (dropIdle (splitOnChar '/' rest)).dropLast := by
    rw [dropIdle_append hpart, List.dropLast_append_of_ne_nil h, dropIdle_append hpart]
  rw [hparent (by rw [habove]; simp), habove, hsegments, hinit]
  simp only [List.append_assoc]

/-- Joining two lists puts the separator between them. -/
theorem joinOnChar_append {sep : Char} {l m : List (List Char)} (hl : l ≠ []) (hm : m ≠ []) :
    joinOnChar sep (l ++ m) = joinOnChar sep l ++ sep :: joinOnChar sep m := by
  fun_induction joinOnChar sep l with
  | case1 => exact absurd rfl hl
  | case2 part =>
    obtain ⟨next, rest, rfl⟩ := List.exists_cons_of_ne_nil hm
    rfl
  | case3 part next parts ih =>
    have hrest := ih (List.cons_ne_nil next parts)
    simp only [List.cons_append, joinOnChar, List.append_assoc] at hrest ⊢
    rw [hrest]

/-! ## Moved paths -/

namespace Moved

section Ends

variable (htop : top.EndsInPart) (htop' : top'.EndsInPart)
include htop htop'

/-- Paths that were moved stay so when one name is joined to both. -/
theorem join (h : Moved top top' p p') (hq : ¬q.isAbsolute) :
    Moved top top' (p.join q) (p'.join q) := by
  cases h with
  | top =>
    rw [join_of_not_slash htop.not_slash hq, join_of_not_slash htop'.not_slash hq]
    exact .inside q.chars
  | inside rest =>
    have hend : ∀ top : Path, (top.chars ++ '/' :: rest = [] ∨
        (top.chars ++ '/' :: rest).getLast? = some '/') ↔ ('/' :: rest).getLast? = some '/' :=
      fun top => by
        rw [List.getLast?_append_of_ne_nil _ (List.cons_ne_nil _ _)]
        simp
    by_cases hlast : ('/' :: rest).getLast? = some '/'
    · rw [join_of_slash ((hend top).2 hlast) hq, join_of_slash ((hend top').2 hlast) hq]
      simp only [List.append_assoc, List.cons_append]
      exact .inside (rest ++ q.chars)
    · rw [join_of_not_slash (mt (hend top).1 hlast) hq,
        join_of_not_slash (mt (hend top').1 hlast) hq]
      simp only [List.append_assoc, List.cons_append]
      exact .inside (rest ++ '/' :: q.chars)

/-- The parents of two paths that go on alike do so too, behind at least one step. -/
theorem parent? (h : Moved top top' p p') (hp : top.Extends p inner) (hinner : inner ≠ [])
    (habove : p.parent? = some above) (habove' : p'.parent? = some above') :
    Moved top top' above above' := by
  cases h with
  | top => exact absurd (by simpa using hp.steps) hinner
  | inside rest =>
    obtain rfl : inner = Path.steps ⟨rest⟩ :=
      List.append_cancel_left (hp.steps.symm.trans (extends_append_slash htop.ne_nil rest).steps)
    have hparts : dropIdle (splitOnChar '/' rest) ≠ [] := by
      intro hnil
      refine hinner ?_
      rw [steps, moves, filter_map_moveOf, segments, ← filterMap_dropIdle, hnil]
      rfl
    have hsegments : ∀ top : Path, top.segments ≠ [] := fun top => splitOnChar_ne_nil '/' top.chars
    rw [parent?_append_slash htop hparts] at habove
    rw [parent?_append_slash htop' hparts] at habove'
    cases habove
    cases habove'
    cases hbody : dropIdle (dropIdle (splitOnChar '/' rest)).dropLast with
    | nil =>
      rw [List.append_nil, List.append_nil, ← chars_eq, ← chars_eq]
      exact .top
    | cons s l =>
      rw [joinOnChar_append (hsegments top) (List.cons_ne_nil s l),
        joinOnChar_append (hsegments top') (List.cons_ne_nil s l), ← chars_eq, ← chars_eq]
      exact .inside _

end Ends

/-- A path that was moved is behind the old place. -/
theorem behind (h : Moved top top' p p') : top.Behind p := by
  cases h with
  | top => exact .inl rfl
  | inside rest => exact .inr ⟨rest, by simp⟩

/-- Places with texts of one length make paths of one length. -/
theorem size_eq (h : Moved top top' p p')
    (hsize : top.text.utf8ByteSize = top'.text.utf8ByteSize) :
    p.text.utf8ByteSize = p'.text.utf8ByteSize := by
  cases h with
  | top => exact hsize
  | inside rest =>
    simp only [text, String.ofList_append, String.utf8ByteSize_append] at hsize ⊢
    rw [hsize]

/-- Both are written as the two paths with the same text behind them. -/
theorem exists_text (h : Moved top top' p p') :
    ∃ rest, p.text = top.text ++ rest ∧ p'.text = top'.text ++ rest := by
  cases h with
  | top => exact ⟨"", by simp, by simp⟩
  | inside rest => exact ⟨.ofList ('/' :: rest), by simp [text], by simp [text]⟩

end Moved

end EnvAudit.Path
