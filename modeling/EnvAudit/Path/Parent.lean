import EnvAudit.Path.Basic

/-!
# EnvAudit.Path.Parent

The path without its last part, written as the path was. Main statements: it has all parts but the
last one (`Path.parts_parent`), so going on to parents comes to an end (`Path.length_parts_parent`).
-/

namespace EnvAudit.Path

/-- Segments without those at the end that do not count. -/
def dropIdle (segments : List (List Char)) : List (List Char) :=
  (segments.reverse.dropWhile fun s => (partOf? s).isNone).reverse

/-- The path without its last part. A path that is empty or the root has none. -/
def parent? (p : Path) : Option Path :=
  let above := fun (start body : List (List Char)) =>
    joinOnChar '/' (start ++ dropIdle body.dropLast)
  if p.isAbsolute then
    match dropIdle p.segments.tail with
    | [] => none
    | body => some ⟨'/' :: above [] body⟩
  else if p.segments.head? = some ['.'] then
    match dropIdle p.segments.tail with
    | [] => some ⟨[]⟩
    | body => some ⟨above [['.']] body⟩
  else
    match dropIdle p.segments with
    | [] => none
    | body => some ⟨above [] body⟩

/-! ## What counts is kept -/

theorem filterMap_dropIdle (l : List (List Char)) :
    (dropIdle l).filterMap partOf? = l.filterMap partOf? := by
  unfold dropIdle
  rw [List.filterMap_reverse]
  suffices h : ∀ l : List (List Char),
      (l.dropWhile fun s => (partOf? s).isNone).filterMap partOf? = l.filterMap partOf? by
    rw [h, List.filterMap_reverse, List.reverse_reverse]
  intro l
  induction l with
  | nil => rfl
  | cons s l ih =>
    rw [List.dropWhile_cons]
    split
    · next h => rw [ih, List.filterMap_cons_none (Option.isNone_iff_eq_none.1 h)]
    · rfl

theorem mem_of_mem_dropIdle {l : List (List Char)} {s : List Char} (h : s ∈ dropIdle l) :
    s ∈ l := by
  simpa using (List.dropWhile_sublist _).mem (List.mem_reverse.1 h)

/-- The last segment that is left counts. -/
theorem partOf_getLast_dropIdle {l : List (List Char)} {s : List Char}
    (h : (dropIdle l).getLast? = some s) : (partOf? s).isSome := by
  unfold dropIdle at h
  rw [List.getLast?_reverse] at h
  have := List.head?_dropWhile_not (fun s => (partOf? s).isNone) l.reverse
  rw [h] at this
  simpa using this

theorem filterMap_dropLast {l : List (List Char)} {s : List Char} (h : l.getLast? = some s)
    (hs : (partOf? s).isSome) :
    l.dropLast.filterMap partOf? = (l.filterMap partOf?).dropLast := by
  obtain ⟨l', rfl⟩ := List.getLast?_eq_some_iff.1 h
  obtain ⟨q, hq⟩ := Option.isSome_iff_exists.1 hs
  simp [List.filterMap_append, hq]

/-- What a body keeps of its parts when the last one is left out. -/
theorem parts_dropLast {l : List (List Char)} (h : dropIdle l ≠ []) :
    (dropIdle (dropIdle l).dropLast).filterMap partOf? = (l.filterMap partOf?).dropLast ∧
      l.filterMap partOf? ≠ [] := by
  obtain ⟨s, hs⟩ : ∃ s, (dropIdle l).getLast? = some s := by
    cases hl : (dropIdle l).getLast? with
    | none => exact absurd (List.getLast?_eq_none_iff.1 hl) h
    | some s => exact ⟨s, rfl⟩
  have hsome := partOf_getLast_dropIdle hs
  refine ⟨?_, ?_⟩
  · rw [filterMap_dropIdle, filterMap_dropLast hs hsome, filterMap_dropIdle]
  · rw [← filterMap_dropIdle]
    intro he
    have := List.filterMap_eq_nil_iff.1 he s (List.mem_of_getLast? hs)
    simp [this] at hsome


theorem dropIdle_initial (l : List (List Char)) : dropIdle l <+: l := by
  unfold dropIdle
  have := List.dropWhile_suffix (fun s => (partOf? s).isNone) (l := l.reverse)
  simpa using List.reverse_prefix.2 this

theorem filterMap_split_join {l : List (List Char)} (h : ∀ s ∈ l, '/' ∉ s) :
    (splitOnChar '/' (joinOnChar '/' l)).filterMap partOf? = l.filterMap partOf? := by
  by_cases hl : l = []
  · subst hl; rfl
  · rw [splitOnChar_joinOnChar hl h]

theorem not_mem_above {l : List (List Char)} (h : ∀ s ∈ l, '/' ∉ s) :
    ∀ s ∈ dropIdle (dropIdle l).dropLast, '/' ∉ s := fun s hs =>
  h s (mem_of_mem_dropIdle ((List.dropLast_sublist _).mem (mem_of_mem_dropIdle hs)))

theorem not_mem_segments (p : Path) : ∀ s ∈ p.segments, '/' ∉ s :=
  fun _ => not_mem_of_mem_splitOnChar

theorem not_mem_segments_tail (p : Path) : ∀ s ∈ p.segments.tail, '/' ∉ s :=
  fun s hs => p.not_mem_segments s (List.mem_of_mem_tail hs)

theorem parts_here {l : List (List Char)} (h : ∀ s ∈ l, '/' ∉ s) :
    parts ⟨joinOnChar '/' (['.'] :: l)⟩ = .here :: l.filterMap partOf? := by
  have hall : ∀ s ∈ ['.'] :: l, '/' ∉ s := by
    intro s hs
    rcases List.mem_cons.1 hs with rfl | hs
    · decide
    · exact h s hs
  have hq := splitOnChar_joinOnChar (by simp) hall
  have habs : isAbsolute ⟨joinOnChar '/' (['.'] :: l)⟩ = false := by
    cases l <;> simp [isAbsolute, joinOnChar]
  simp [parts, habs, segments, hq, partOf?]

/-- A path that is not absolute does not start with a slash. -/
theorem segments_of_not_isAbsolute {p : Path} (h : ¬p.isAbsolute) {s : List Char}
    {rest : List (List Char)} (hs : p.segments = s :: rest) (hrest : rest ≠ []) : s ≠ [] := by
  rintro rfl
  obtain ⟨cs⟩ := p
  cases cs with
  | nil => simp_all [segments, splitOnChar]
  | cons c cs =>
    simp only [segments, splitOnChar] at hs
    split at hs
    · next hc => simp [isAbsolute, hc] at h
    · split at hs <;> simp at hs

theorem head_ne_slash {c : Char} {s : List Char} (h : '/' ∉ c :: s) : c ≠ '/' := by
  rintro rfl
  exact h List.mem_cons_self

theorem parts_of_prefix {p : Path} (hrel : ¬p.isAbsolute) (hhead : ¬p.segments.head? = some ['.'])
    {l : List (List Char)} (hpre : l <+: p.segments) :
    parts ⟨joinOnChar '/' l⟩ = l.filterMap partOf? := by
  cases l with
  | nil => rfl
  | cons s l =>
    obtain ⟨t, ht⟩ := hpre
    have hall : ∀ x ∈ s :: l, '/' ∉ x := fun x hx =>
      p.not_mem_segments x (ht ▸ List.mem_append_left _ hx)
    have hq := splitOnChar_joinOnChar (by simp) hall
    have hdot : s ≠ ['.'] := by rintro rfl; simp [← ht] at hhead
    have habs : isAbsolute ⟨joinOnChar '/' (s :: l)⟩ = false := by
      cases l with
      | nil =>
        cases s with
        | nil => rfl
        | cons c s => simp [isAbsolute, joinOnChar, head_ne_slash (hall (c :: s) (by simp))]
      | cons x l =>
        have hseg : p.segments = s :: (x :: l ++ t) := by simp [← ht]
        have hs := segments_of_not_isAbsolute hrel hseg (by simp)
        cases s with
        | nil => exact absurd rfl hs
        | cons c s => simp [isAbsolute, joinOnChar, head_ne_slash (hall (c :: s) (by simp))]
    simp [parts, habs, segments, hq, hdot]

/-- The path without its last part has all parts but the last one. -/
theorem parts_parent {p q : Path} (h : p.parent? = some q) :
    q.parts = p.parts.dropLast ∧ p.parts ≠ [] := by
  unfold parent? at h
  simp only at h
  split at h
  · next habs =>
    split at h
    · cases h
    · next hne =>
      cases h
      obtain ⟨hd, hn⟩ := parts_dropLast (l := p.segments.tail) hne
      have hseg : p.segments = [] :: p.segments.tail := by
        obtain ⟨cs⟩ := p
        cases cs with
        | nil => simp [isAbsolute] at habs
        | cons c cs =>
          simp only [isAbsolute, List.head?_cons, beq_iff_eq, Option.some.injEq] at habs
          subst habs
          simp [segments, splitOnChar]
      have hp : p.parts = .root :: p.segments.tail.filterMap partOf? := by
        rw [parts, if_pos habs, hseg]
        rfl
      rw [hp]
      refine ⟨?_, by simp⟩
      rw [List.dropLast_cons_of_ne_nil hn, ← hd,
        ← filterMap_split_join (not_mem_above p.not_mem_segments_tail)]
      simp [parts, isAbsolute, segments, splitOnChar, partOf?]
  · next hrel =>
    split at h
    · next hhead =>
      have hseg : p.segments = ['.'] :: p.segments.tail := by
        cases hs : p.segments with
        | nil => simp [hs] at hhead
        | cons a b => simp_all
      have hp : p.parts = .here :: p.segments.tail.filterMap partOf? := by
        rw [parts, if_neg hrel, if_pos hhead, hseg]
        simp [partOf?]
      split at h
      · next hnil =>
        cases h
        rw [hp, ← filterMap_dropIdle, hnil]
        decide
      · next hne =>
        cases h
        obtain ⟨hd, hn⟩ := parts_dropLast (l := p.segments.tail) hne
        rw [hp]
        refine ⟨?_, by simp⟩
        rw [List.dropLast_cons_of_ne_nil hn, ← hd]
        exact parts_here (not_mem_above p.not_mem_segments_tail)
    · next hhead =>
      split at h
      · cases h
      · next hne =>
        cases h
        obtain ⟨hd, hn⟩ := parts_dropLast (l := p.segments) hne
        have hp : p.parts = p.segments.filterMap partOf? := by
          rw [parts, if_neg hrel, if_neg hhead]
        rw [hp]
        refine ⟨?_, hn⟩
        have hpre : dropIdle (dropIdle p.segments).dropLast <+: p.segments :=
          ((dropIdle_initial _).trans (List.dropLast_prefix _)).trans (dropIdle_initial _)
        rw [← hd]
        exact parts_of_prefix hrel hhead hpre

theorem length_parts_parent {p q : Path} (h : p.parent? = some q) :
    q.parts.length < p.parts.length := by
  obtain ⟨h, hne⟩ := parts_parent h
  rw [h, List.length_dropLast]
  have := List.length_pos_iff.2 hne
  omega

end EnvAudit.Path
