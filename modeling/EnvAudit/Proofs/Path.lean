import EnvAudit.Path.Parent
import EnvAudit.Proofs.Text.Lines
import Mathlib.Data.List.Basic
import Mathlib.Data.String.Basic

/-!
# EnvAudit.Proofs.Path

Paths as the moves along them:

1. the steps of a path are its moves from one directory to another (`Path.steps`); they are told by
   its parts (`steps_eq_parts`), and its name by the last of them (`fileName?_of_getLast?`);
2. a joined path has the steps of both (`steps_join`), and a path may leave if it starts at the root
   or goes up (`mayLeave_iff`);
3. the path without its last part starts where the path does, is no longer than it, and lacks the
   last step only (`isAbsolute_parent?`, `chars_parent?`, `steps_parent?`); only the root and a path
   without parts have none (`isSome_parent?`).
-/

namespace EnvAudit

namespace Path

variable {p q : Path}

/-! ## Steps -/

/-- The moves along a path from one directory to another. -/
def steps (p : Path) : List Move := p.moves.filter (· != .stay)

/-- The move that a part of a path asks for. -/
def moveOf? : Part → Option Move
  | .root | .here => none
  | .up => some .up
  | .name cs => some (.enter (.ofList cs))

/-- A segment is left out, leads up or is a name, both as a part and as a move. -/
theorem partOf?_cases (s : List Char) :
    (partOf? s = none ∧ moveOf s = .stay) ∨ (partOf? s = some .up ∧ moveOf s = .up) ∨
      partOf? s = some (.name s) ∧ moveOf s = .enter (.ofList s) := by
  unfold moveOf partOf?
  split
  · simp
  · split <;> simp

theorem filter_map_moveOf (l : List (List Char)) :
    (l.map moveOf).filter (· != .stay) = (l.filterMap partOf?).filterMap moveOf? := by
  induction l with
  | nil => rfl
  | cons s l ih =>
    rcases partOf?_cases s with ⟨hpart, hmove⟩ | ⟨hpart, hmove⟩ | ⟨hpart, hmove⟩ <;>
      simp [hpart, hmove, ih, moveOf?]

/-- Only the first part is no step. -/
theorem parts_eq (p : Path) : ∃ start, start.filterMap moveOf? = [] ∧ start.length ≤ 1 ∧
    p.parts = start ++ p.segments.filterMap partOf? := by
  unfold parts
  split
  · exact ⟨[.root], rfl, Nat.le_refl _, rfl⟩
  · split
    · exact ⟨[.here], rfl, Nat.le_refl _, rfl⟩
    · exact ⟨[], rfl, Nat.zero_le _, rfl⟩

/-- The steps of a path are its parts, but for the first that says where it starts. -/
theorem steps_eq_parts (p : Path) : p.steps = p.parts.filterMap moveOf? := by
  obtain ⟨start, hstart, -, hparts⟩ := p.parts_eq
  rw [steps, moves, filter_map_moveOf, hparts, List.filterMap_append, hstart, List.nil_append]

theorem isSome_moveOf? {l : List (List Char)} {part : Part} (h : part ∈ l.filterMap partOf?) :
    (moveOf? part).isSome := by
  obtain ⟨s, -, hs⟩ := List.mem_filterMap.1 h
  rcases partOf?_cases s with ⟨hpart, -⟩ | ⟨hpart, -⟩ | ⟨hpart, -⟩ <;>
    rw [hpart] at hs <;> cases hs <;> rfl

/-- The name that a move goes to. -/
def nameOf? : Move → Option (List Char)
  | .stay | .up => none
  | .enter name => some name.toList

/-- The last step tells the name of what the path leads to. -/
theorem fileName?_of_getLast? {move : Move} (h : p.steps.getLast? = some move) :
    p.fileName? = nameOf? move := by
  obtain ⟨start, hstart, -, hparts⟩ := p.parts_eq
  rw [steps_eq_parts, hparts, List.filterMap_append, hstart, List.nil_append] at h
  rcases List.eq_nil_or_concat (p.segments.filterMap partOf?) with hnil | ⟨body, part, hbody⟩
  · simp [hnil] at h
  · have hmem : part ∈ p.segments.filterMap partOf? := by simp [hbody]
    obtain ⟨last, hlast⟩ := Option.isSome_iff_exists.1 (isSome_moveOf? hmem)
    obtain rfl : last = move := by simpa [hbody, hlast] using h
    rw [fileName?, hparts, hbody]
    cases part with
    | root => cases hlast
    | here => cases hlast
    | up =>
      cases hlast
      simp [nameOf?]
    | name cs =>
      cases hlast
      simp [nameOf?]

/-! ## Joining -/

/-- Behind a path that ends in a slash, or is empty, no slash is written. -/
theorem join_of_slash (h : p.chars = [] ∨ p.chars.getLast? = some '/') (hq : ¬q.isAbsolute) :
    p.join q = ⟨p.chars ++ q.chars⟩ := by
  rw [join, if_neg hq, if_pos h]

/-- A slash is put between paths unless one is there. -/
theorem join_of_not_slash (h : ¬(p.chars = [] ∨ p.chars.getLast? = some '/'))
    (hq : ¬q.isAbsolute) : p.join q = ⟨p.chars ++ '/' :: q.chars⟩ := by
  rw [join, if_neg hq, if_neg h]

/-- The moves along a joined path are those along both, but for staying at the slash between. -/
theorem moves_join (hq : ¬q.isAbsolute) :
    ∃ before, (p.join q).moves = before ++ q.moves ∧
      (p.moves = before ∨ p.moves = before ++ [.stay]) := by
  by_cases hslash : p.chars = [] ∨ p.chars.getLast? = some '/'
  · rw [join_of_slash hslash hq]
    rcases hslash with hnil | hlast
    · refine ⟨[], by rw [hnil]; rfl, .inr ?_⟩
      rw [moves, segments, hnil]
      rfl
    · obtain ⟨cs, hcs⟩ := List.getLast?_eq_some_iff.1 hlast
      refine ⟨(splitOnChar '/' cs).map moveOf, ?_, .inr ?_⟩
      · simp only [moves, segments, hcs, List.append_assoc, List.singleton_append,
          splitOnChar_append_cons, List.map_append]
      · simp only [moves, segments, hcs, splitOnChar_append_cons, List.map_append]
        rfl
  · rw [join_of_not_slash hslash hq]
    exact ⟨p.moves, by simp only [moves, segments, splitOnChar_append_cons, List.map_append],
      .inl rfl⟩

/-- A joined path takes the steps of both. -/
theorem steps_join (hq : ¬q.isAbsolute) : (p.join q).steps = p.steps ++ q.steps := by
  obtain ⟨before, hjoin, hp | hp⟩ := moves_join (p := p) hq <;> simp [steps, hjoin, hp]

/-- A joined path starts where the first does. -/
theorem isAbsolute_join (hq : ¬q.isAbsolute) : (p.join q).isAbsolute = p.isAbsolute := by
  by_cases hslash : p.chars = [] ∨ p.chars.getLast? = some '/'
  · rw [join_of_slash hslash hq]
    obtain ⟨cs⟩ := p
    cases cs with
    | nil => simpa [isAbsolute] using hq
    | cons c cs => rfl
  · rw [join_of_not_slash hslash hq]
    obtain ⟨cs⟩ := p
    cases cs with
    | nil => exact absurd (.inl rfl) hslash
    | cons c cs => rfl

/-- Joining brings in slashes only. -/
theorem mem_chars_join {c : Char} (hq : ¬q.isAbsolute) (hc : c ≠ '/') :
    c ∈ (p.join q).chars ↔ c ∈ p.chars ∨ c ∈ q.chars := by
  by_cases hslash : p.chars = [] ∨ p.chars.getLast? = some '/'
  · simp [join_of_slash hslash hq]
  · simp [join_of_not_slash hslash hq, hc]

/-- A joined path is empty only if both are. -/
theorem chars_join_ne_nil (hq : ¬q.isAbsolute) (h : p.chars ≠ [] ∨ q.chars ≠ []) :
    (p.join q).chars ≠ [] := by
  by_cases hslash : p.chars = [] ∨ p.chars.getLast? = some '/'
  · rw [join_of_slash hslash hq]
    exact fun hnil => h.elim (· (List.append_eq_nil_iff.1 hnil).1)
      (· (List.append_eq_nil_iff.1 hnil).2)
  · simp [join_of_not_slash hslash hq]

/-- Behind a slash a joined path is as long as both. -/
theorem size_join_of_slash (h : p.chars = [] ∨ p.chars.getLast? = some '/')
    (hq : ¬q.isAbsolute) :
    (p.join q).text.utf8ByteSize = p.text.utf8ByteSize + q.text.utf8ByteSize := by
  simp [join_of_slash h hq, text]

/-- Elsewhere a joined path is longer by the slash between them. -/
theorem size_join_of_not_slash (h : ¬(p.chars = [] ∨ p.chars.getLast? = some '/'))
    (hq : ¬q.isAbsolute) :
    (p.join q).text.utf8ByteSize = p.text.utf8ByteSize + 1 + q.text.utf8ByteSize := by
  have hslash : '/'.utf8Size = 1 := rfl
  simp only [join_of_not_slash h hq, text, String.ofList_append, String.utf8ByteSize_append,
    String.utf8ByteSize_ofList, String.utf8Len_cons, hslash]
  omega

/-- Joined paths are as long as both together, or longer by a slash. -/
theorem size_join_bounds (hq : ¬q.isAbsolute) :
    p.text.utf8ByteSize + q.text.utf8ByteSize ≤ (p.join q).text.utf8ByteSize ∧
      (p.join q).text.utf8ByteSize ≤ p.text.utf8ByteSize + 1 + q.text.utf8ByteSize := by
  by_cases hslash : p.chars = [] ∨ p.chars.getLast? = some '/'
  · have := size_join_of_slash hslash hq
    omega
  · have := size_join_of_not_slash hslash hq
    omega

/-- The longer name makes the longer path. -/
theorem size_join_le_of_size_le {name other : Path} (hname : ¬name.isAbsolute)
    (hother : ¬other.isAbsolute) (h : other.text.utf8ByteSize ≤ name.text.utf8ByteSize) :
    (p.join other).text.utf8ByteSize ≤ (p.join name).text.utf8ByteSize := by
  by_cases hslash : p.chars = [] ∨ p.chars.getLast? = some '/'
  · rw [size_join_of_slash hslash hname, size_join_of_slash hslash hother]
    omega
  · rw [size_join_of_not_slash hslash hname, size_join_of_not_slash hslash hother]
    omega

/-- Behind the start of a path a name makes no longer path than behind all of it. -/
theorem size_join_le_of_prefix {above name : Path} (h : above.chars <+: p.chars)
    (hname : ¬name.isAbsolute) :
    (above.join name).text.utf8ByteSize ≤ (p.join name).text.utf8ByteSize := by
  obtain ⟨rest, hrest⟩ := h
  cases rest with
  | nil =>
    obtain rfl : above = p := by
      rw [List.append_nil] at hrest
      exact congrArg Path.mk hrest
    exact Nat.le_refl _
  | cons c rest =>
    have hp : above.text.utf8ByteSize + 1 ≤ p.text.utf8ByteSize := by
      have hpos := c.utf8Size_pos
      rw [text, text, ← hrest]
      simp only [String.ofList_append, String.utf8ByteSize_append, String.utf8ByteSize_ofList,
        String.utf8Len_cons]
      omega
    have hless := (size_join_bounds (p := above) hname).2
    have hmore := (size_join_bounds (p := p) hname).1
    omega

/-! ## Names -/

/-- What can be the name of an entry of a directory. -/
def IsName (name : String) : Prop := name ≠ "" ∧ '/' ∉ name.toList ∧ name ≠ "." ∧ name ≠ ".."

instance : DecidablePred IsName := fun _ => inferInstanceAs (Decidable (_ ∧ _ ∧ _ ∧ _))

/-- A name is a part as it is written. -/
theorem IsName.partOf? {name : String} (h : IsName name) :
    partOf? name.toList = some (.name name.toList) := by
  obtain ⟨hempty, -, hdot, hdots⟩ := h
  rw [Path.partOf?, if_neg, if_neg]
  · exact fun h => hdots (String.toList_inj.1 h)
  · rintro (h | h)
    · exact hempty (String.toList_inj.1 h)
    · exact hdot (String.toList_inj.1 h)

/-- A name leads to the entry with that name. -/
theorem IsName.moves {name : String} (h : IsName name) :
    (ofText name).moves = [.enter name] := by
  rw [Path.moves, segments, ofText, splitOnChar_of_not_mem h.2.1, List.map_singleton, moveOf,
    h.partOf?]
  simp

theorem IsName.not_isAbsolute {name : String} (h : IsName name) : ¬(ofText name).isAbsolute := by
  rw [isAbsolute, ofText]
  intro habs
  simp only [beq_iff_eq, List.head?_eq_some_iff] at habs
  obtain ⟨cs, hcs⟩ := habs
  exact h.2.1 (by simp [hcs])

theorem IsName.steps {name : String} (h : IsName name) :
    (ofText name).steps = [.enter name] := by
  rw [Path.steps, h.moves]
  rfl

/-- The path of an entry ends in its name. -/
theorem fileName?_join {name : String} (h : IsName name) (p : Path) :
    (p.join (ofText name)).fileName? = some name.toList := by
  have hlast : (p.join (ofText name)).steps.getLast? = some (.enter name) := by
    simp [steps_join h.not_isAbsolute, h.steps]
  exact fileName?_of_getLast? hlast

/-- Behind a path with a step the name is the same everywhere. -/
theorem fileName?_join_congr (hq : ¬q.isAbsolute) (hsteps : q.steps ≠ []) (p p' : Path) :
    (p.join q).fileName? = (p'.join q).fileName? := by
  obtain ⟨before, move, hlast⟩ := (List.eq_nil_or_concat q.steps).resolve_left hsteps
  have hname : ∀ p : Path, (p.join q).fileName? = nameOf? move := fun p =>
    fileName?_of_getLast? (by simp [steps_join hq, hlast])
  rw [hname, hname]

/-! ## Paths that stay below -/

theorem partOf?_ne_root (segment : List Char) : partOf? segment ≠ some .root := by
  rcases partOf?_cases segment with ⟨h, -⟩ | ⟨h, -⟩ | ⟨h, -⟩ <;> simp [h]

/-- The root is a part of absolute paths only. -/
theorem root_mem_parts : .root ∈ p.parts ↔ p.isAbsolute := by
  have hbody : .root ∉ p.segments.filterMap partOf? := fun h => by
    obtain ⟨segment, -, hsegment⟩ := List.mem_filterMap.1 h
    exact partOf?_ne_root segment hsegment
  unfold parts
  split
  · next habs => exact iff_of_true List.mem_cons_self habs
  · next hrelative =>
    refine iff_of_false (fun h => hbody ?_) hrelative
    split at h
    · simpa using h
    · exact h

/-- A part leads up exactly when a move does. -/
theorem up_mem_parts : .up ∈ p.parts ↔ .up ∈ p.moves := by
  have hsteps : .up ∈ p.moves ↔ .up ∈ p.steps := by simp [steps]
  rw [hsteps, steps_eq_parts, List.mem_filterMap]
  constructor
  · exact fun h => ⟨.up, h, rfl⟩
  · rintro ⟨part, hpart, hmove⟩
    cases part with
    | up => exact hpart
    | root => cases hmove
    | here => cases hmove
    | name cs => cases hmove

/-- A path may leave if it starts at the root or goes up somewhere, be it only to come back. -/
theorem mayLeave_iff : p.mayLeave ↔ p.isAbsolute ∨ .up ∈ p.moves := by
  have hparts : p.mayLeave ↔ .root ∈ p.parts ∨ .up ∈ p.parts := by
    simp only [mayLeave, List.any_eq_true, Bool.or_eq_true, beq_iff_eq, and_or_left, exists_or,
      exists_eq_right, or_comm]
  rw [hparts, root_mem_parts, up_mem_parts]

/-- A path that does not leave starts where it is joined, and does not go up. -/
theorem stays_of_not_mayLeave (h : ¬q.mayLeave) : ¬q.isAbsolute ∧ .up ∉ q.moves :=
  not_or.1 fun hleave => h (mayLeave_iff.2 hleave)

/-! ## Parents -/

/-- The first segments of a text are a beginning of it. -/
theorem joinOnChar_prefix (sep : Char) {l m : List (List Char)} (h : l <+: m) :
    joinOnChar sep l <+: joinOnChar sep m := by
  fun_induction joinOnChar sep l generalizing m with
  | case1 => exact List.nil_prefix
  | case2 part =>
    obtain ⟨rest, rfl⟩ := h
    cases rest with
    | nil => exact List.prefix_rfl
    | cons next rest => exact List.prefix_append _ _
  | case3 part next parts ih =>
    obtain ⟨rest, rfl⟩ := h
    exact (List.prefix_append_right_inj part).2 (List.cons_prefix_cons.2
      ⟨rfl, ih (List.prefix_append (next :: parts) rest)⟩)

/-- The segments of a path with slashes between them are its text. -/
theorem chars_eq (p : Path) : p.chars = joinOnChar '/' p.segments :=
  (joinOnChar_splitOnChar '/' p.chars).symm

theorem segments_of_isAbsolute (h : p.isAbsolute) : p.segments = [] :: p.segments.tail := by
  obtain ⟨cs⟩ := p
  simp only [isAbsolute, beq_iff_eq, List.head?_eq_some_iff] at h
  obtain ⟨cs, rfl⟩ := h
  simp [segments, splitOnChar]

/-- What is above starts in the same way. -/
theorem chars_parent? (h : p.parent? = some q) : q.chars <+: p.chars := by
  have habove : ∀ l : List (List Char), dropIdle (dropIdle l).dropLast <+: l := fun l =>
    ((dropIdle_initial _).trans (List.dropLast_prefix _)).trans (dropIdle_initial _)
  rw [p.chars_eq]
  unfold parent? at h
  simp only at h
  split at h
  · next habs =>
    split at h
    · cases h
    · next hne =>
      cases h
      have htail : p.segments.tail ≠ [] := fun hnil => hne (by rw [hnil]; rfl)
      obtain ⟨next, others, htail⟩ := List.exists_cons_of_ne_nil htail
      have hpre := joinOnChar_prefix '/' (habove p.segments.tail)
      rw [segments_of_isAbsolute habs]
      simp only [List.tail_cons, htail, List.nil_append] at hpre ⊢
      exact List.cons_prefix_cons.2 ⟨rfl, hpre⟩
  · split at h
    · next hhere =>
      obtain ⟨rest, hrest⟩ := List.head?_eq_some_iff.1 hhere
      split at h
      · cases h
        exact List.nil_prefix
      · cases h
        rw [hrest]
        exact joinOnChar_prefix '/' (List.cons_prefix_cons.2 ⟨rfl, habove rest⟩)
    · split at h
      · cases h
      · cases h
        exact joinOnChar_prefix '/' (habove p.segments)

/-- The parent of a path starts where the path does. -/
theorem isAbsolute_parent? (h : p.parent? = some q) : q.isAbsolute = p.isAbsolute := by
  by_cases habs : p.isAbsolute
  · unfold parent? at h
    simp only [if_pos habs] at h
    split at h
    · cases h
    · cases h
      rw [habs]
      rfl
  · obtain ⟨rest, hrest⟩ := chars_parent? h
    obtain ⟨cs⟩ := q
    cases cs with
    | nil => simpa [isAbsolute] using habs
    | cons c cs => simp [isAbsolute, ← hrest]

/-- What is above lacks the last step. -/
theorem steps_parent? (h : p.parent? = some q) : q.steps = p.steps.dropLast := by
  obtain ⟨start, hstart, hlength, hparts⟩ := p.parts_eq
  rw [steps_eq_parts, steps_eq_parts, (parts_parent h).1, hparts, List.filterMap_append, hstart,
    List.nil_append]
  rcases List.eq_nil_or_concat (p.segments.filterMap partOf?) with hnil | ⟨body, part, hbody⟩
  · have hdrop : start.dropLast = [] := List.length_eq_zero_iff.1 (by
      rw [List.length_dropLast]
      omega)
    simp [hnil, hdrop]
  · have hmem : part ∈ p.segments.filterMap partOf? := by simp [hbody]
    obtain ⟨move, hmove⟩ := Option.isSome_iff_exists.1 (isSome_moveOf? hmem)
    rw [hbody, List.concat_eq_append, ← List.append_assoc, List.dropLast_concat]
    simp [hstart, hmove]

theorem isAbsolute_le_length_parts (p : Path) : p.isAbsolute.toNat ≤ p.parts.length := by
  unfold parts
  split
  · next habs => simp [habs]
  · next habs => simp [habs]

/-- Only the root and the path without parts have nothing above. -/
theorem parts_of_parent?_eq_none (h : p.parent? = none) :
    p.parts = if p.isAbsolute then [.root] else [] := by
  have hnil : ∀ l : List (List Char), dropIdle l = [] → l.filterMap partOf? = [] := fun l hl => by
    rw [← filterMap_dropIdle, hl]
    rfl
  unfold parent? at h
  simp only at h
  split at h
  · next habs =>
    split at h
    · next hdrop =>
      rw [parts, if_pos habs, if_pos habs, segments_of_isAbsolute habs]
      simp [partOf?, hnil _ hdrop]
    · cases h
  · next habs =>
    split at h
    · split at h <;> cases h
    · next hhere =>
      split at h
      · next hdrop => rw [parts, if_neg habs, if_neg habs, if_neg hhere, hnil _ hdrop]
      · cases h

/-- A path without a parent takes no steps. -/
theorem parent?_eq_none (h : p.parent? = none) : p.steps = [] := by
  rw [steps_eq_parts, parts_of_parent?_eq_none h]
  split <;> rfl

/-- A path has a parent if it has a part other than the root. -/
theorem isSome_parent? (p : Path) : p.parent?.isSome ↔ p.isAbsolute.toNat < p.parts.length := by
  cases h : p.parent? with
  | none =>
    rw [parts_of_parent?_eq_none h]
    cases p.isAbsolute <;> simp
  | some q =>
    have hq := q.isAbsolute_le_length_parts
    rw [isAbsolute_parent? h] at hq
    exact iff_of_true rfl (Nat.lt_of_le_of_lt hq (length_parts_parent h))

/-! ## Long paths -/

end Path
end EnvAudit
