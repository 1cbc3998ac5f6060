import EnvAudit.Text.Lines

/-!
# EnvAudit.Proofs.Text.Lines

Cutting a text into lines and joining them again, and the ways in which lines end:

1. `splitLines` cuts where two texts are joined by a line end, and `joinOnChar` joins the lines of a
   text to that text;
2. `LineEnd` is how a line ends: `\n`, `\r\n` or `\r`; in whatever way the lines of a text end,
   `unifyLineEnds` gives the same text (`unifyLineEnds_write`).
-/

namespace EnvAudit

/-! ## Lines -/

/-- A text is split at a separator, and both sides for themselves. -/
theorem splitOnChar_append_cons (sep : Char) (part text : List Char) :
    splitOnChar sep (part ++ sep :: text) = splitOnChar sep part ++ splitOnChar sep text := by
  induction part with
  | nil => simp [splitOnChar]
  | cons c part ih =>
    simp only [List.cons_append]
    by_cases hc : c = sep
    · simp [splitOnChar, hc, ih]
    · simp only [splitOnChar, if_neg hc, ih]
      obtain ⟨first, others, h⟩ := List.exists_cons_of_ne_nil (splitOnChar_ne_nil sep part)
      simp [h]

theorem splitLines_append (line text : List Char) :
    splitLines (line ++ '\n' :: text) = splitLines line ++ splitLines text :=
  splitOnChar_append_cons '\n' line text

/-- Splitting loses nothing. -/
theorem joinOnChar_splitOnChar (sep : Char) (text : List Char) :
    joinOnChar sep (splitOnChar sep text) = text := by
  induction text with
  | nil => rfl
  | cons c text ih =>
    obtain ⟨part, parts, h⟩ := List.exists_cons_of_ne_nil (splitOnChar_ne_nil sep text)
    rw [h] at ih
    by_cases hc : c = sep
    · simp [splitOnChar, hc, h, joinOnChar, ih]
    · simp only [splitOnChar, if_neg hc, h]
      cases parts with
      | nil => simpa [joinOnChar] using ih
      | cons next parts => simpa [joinOnChar] using ih

/-- The lines of a text with line ends between them are the text. -/
theorem joinOnChar_splitLines (text : List Char) : joinOnChar '\n' (splitLines text) = text :=
  joinOnChar_splitOnChar '\n' text

theorem mem_joinOnChar {c sep : Char} {part : List Char} {parts : List (List Char)} (hc : c ∈ part)
    (h : part ∈ parts) : c ∈ joinOnChar sep parts := by
  fun_induction joinOnChar sep parts with
  | case1 => simp at h
  | case2 part' => rwa [← List.mem_singleton.1 h]
  | case3 part' next parts ih =>
    rcases List.mem_cons.1 h with rfl | h
    · simp [hc]
    · simp [ih h]

/-! ## Line ends -/

/-- How lines end. -/
inductive LineEnd
  | lf
  | crlf
  | cr

/-- The characters of a line end. -/
def LineEnd.chars : LineEnd → List Char
  | lf => ['\n']
  | crlf => ['\r', '\n']
  | cr => ['\r']

/-- A text with its line ends written in one way. -/
def LineEnd.write (e : LineEnd) (text : List Char) : List Char :=
  text.flatMap fun c => if c = '\n' then e.chars else [c]

/-- Once line ends are unified no carriage return is left. -/
theorem not_mem_unifyLineEnds (text : List Char) : '\r' ∉ unifyLineEnds text := by
  fun_induction unifyLineEnds text with
  | case1 => simp
  | case2 rest ih => simp [ih]
  | case3 c rest hne ih =>
    by_cases hc : c = '\r'
    · simp [hc, ih]
    · simp [hc, Ne.symm hc, ih]

/-- Every character but a `\r` before a `\n` is read for itself. -/
theorem unifyLineEnds_cons {c : Char} {text : List Char} (h : c ≠ '\r' ∨ text.head? ≠ some '\n') :
    unifyLineEnds (c :: text) = (if c = '\r' then '\n' else c) :: unifyLineEnds text := by
  refine unifyLineEnds.eq_3 _ _ fun rest hc htext => ?_
  rw [htext] at h
  simp [hc] at h

/-- A text without carriage returns is left as it is. -/
theorem unifyLineEnds_of_not_mem {text : List Char} (h : '\r' ∉ text) :
    unifyLineEnds text = text := by
  induction text with
  | nil => rfl
  | cons c text ih =>
    simp only [List.mem_cons, not_or] at h
    rw [unifyLineEnds_cons (.inl (Ne.symm h.1)), if_neg (Ne.symm h.1), ih h.2]

/-- Unifying line ends brings in line feeds only. -/
theorem mem_unifyLineEnds {c : Char} {text : List Char} (h : c ∈ unifyLineEnds text) :
    c ∈ text ∨ c = '\n' := by
  fun_induction unifyLineEnds text with
  | case1 => simp at h
  | case2 rest ih =>
    rcases List.mem_cons.1 h with h | h
    · exact .inr h
    · exact (ih h).imp_left fun h => by simp [h]
  | case3 x rest hne ih =>
    rcases List.mem_cons.1 h with h | h
    · split at h
      · exact .inr h
      · exact .inl (by simp [h])
    · exact (ih h).imp_left fun h => by simp [h]

theorem head?_write_cr (text : List Char) : (LineEnd.cr.write text).head? ≠ some '\n' := by
  cases text with
  | nil => simp [LineEnd.write]
  | cons c text => by_cases hc : c = '\n' <;> simp [LineEnd.write, LineEnd.chars, hc]

/-- However its lines end, a text is the same. -/
theorem unifyLineEnds_write (e : LineEnd) {text : List Char} (h : '\r' ∉ text) :
    unifyLineEnds (e.write text) = text := by
  induction text with
  | nil => rfl
  | cons c text ih =>
    simp only [List.mem_cons, not_or] at h
    have hcons : e.write (c :: text) = (if c = '\n' then e.chars else [c]) ++ e.write text := rfl
    rw [hcons]
    by_cases hc : c = '\n'
    · subst hc
      rw [if_pos rfl]
      cases e with
      | lf => exact (unifyLineEnds_cons (.inl (by decide))).trans (congrArg _ (ih h.2))
      | crlf => exact congrArg _ (ih h.2)
      | cr => exact (unifyLineEnds_cons (.inr (head?_write_cr text))).trans (congrArg _ (ih h.2))
    · rw [if_neg hc]
      refine (unifyLineEnds_cons (.inl (Ne.symm h.1))).trans ?_
      rw [if_neg (Ne.symm h.1)]
      exact congrArg _ (ih h.2)

/-! ## Joined texts -/

/-- The first character is unified for itself unless it is half a line end. -/
theorem unifyLineEnds_cons_append {c : Char} {text more : List Char}
    (h : ∀ rest, c = '\r' → text = '\n' :: rest → False)
    (hmore : text ≠ [] ∨ more.head? ≠ some '\n') :
    unifyLineEnds (c :: (text ++ more)) =
      (if c = '\r' then '\n' else c) :: unifyLineEnds (text ++ more) := by
  refine unifyLineEnds_cons ?_
  by_cases hc : c = '\r'
  · refine .inr fun hhead => ?_
    cases text with
    | nil => exact hmore.elim (fun hne => hne rfl) fun hne => hne hhead
    | cons d text =>
      obtain rfl : d = '\n' := by simpa using hhead
      exact h text hc rfl
  · exact .inl hc

/-- A text that does not end in a carriage return is unified for itself. -/
theorem unifyLineEnds_append {text : List Char} (h : text.getLast? ≠ some '\r') (more : List Char) :
    unifyLineEnds (text ++ more) = unifyLineEnds text ++ unifyLineEnds more := by
  fun_induction unifyLineEnds text with
  | case1 => rfl
  | case2 rest ih =>
    have hlast : rest.getLast? ≠ some '\r' := by
      cases rest with
      | nil => simp
      | cons c rest => simpa using h
    simp [unifyLineEnds, ih hlast]
  | case3 c rest hne ih =>
    cases rest with
    | nil =>
      have hc : c ≠ '\r' := by simpa using h
      exact unifyLineEnds_cons (.inl hc)
    | cons d rest =>
      have hlast : (d :: rest).getLast? ≠ some '\r' := by simpa using h
      rw [List.cons_append, unifyLineEnds_cons_append hne (.inl (by simp)), ih hlast]
      rfl

/-- A last `\r` ends a line. -/
theorem getLast?_unifyLineEnds (text : List Char) :
    (unifyLineEnds (text ++ ['\r'])).getLast? = some '\n' := by
  fun_induction unifyLineEnds text with
  | case1 => rfl
  | case2 rest ih => simp [unifyLineEnds, List.getLast?_cons, ih]
  | case3 c rest hne ih =>
    rw [List.cons_append, unifyLineEnds_cons_append hne (.inr (by decide)), List.getLast?_cons, ih]
    rfl

/-- A `\n` behind `\r` ends no other line. -/
theorem unifyLineEnds_crlf (text : List Char) :
    unifyLineEnds (text ++ ['\r', '\n']) = unifyLineEnds (text ++ ['\r']) := by
  fun_induction unifyLineEnds text with
  | case1 => rfl
  | case2 rest ih => simp [unifyLineEnds, ih]
  | case3 c rest hne ih =>
    rw [List.cons_append, unifyLineEnds_cons_append hne (.inr (by decide)), ih, List.cons_append,
      unifyLineEnds_cons_append hne (.inr (by decide))]

end EnvAudit
