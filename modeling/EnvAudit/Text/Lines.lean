/-!
# EnvAudit.Text.Lines

Cutting a text into parts. `unifyLineEnds` writes every line end, be it `\r\n`, `\r` or `\n`, as
`\n`; `splitOnChar` cuts a text wherever a character stands, and `splitLines` at each `\n`.
`joinOnChar` is the inverse of `splitOnChar` on parts that do not hold the character
(`splitOnChar_joinOnChar`).
-/

namespace EnvAudit

/-- The text with `\n` at the end of each line. -/
def unifyLineEnds : List Char → List Char
  | [] => []
  | '\r' :: '\n' :: rest => '\n' :: unifyLineEnds rest
  | c :: rest => (if c = '\r' then '\n' else c) :: unifyLineEnds rest

/-- The parts of a text between the places where `sep` stands. -/
def splitOnChar (sep : Char) : List Char → List (List Char)
  | [] => [[]]
  | c :: rest =>
    if c = sep then [] :: splitOnChar sep rest
    else
      match splitOnChar sep rest with
      | [] => [[c]]
      | part :: parts => (c :: part) :: parts

/-- The text of parts with `sep` between them. -/
def joinOnChar (sep : Char) : List (List Char) → List Char
  | [] => []
  | [part] => part
  | part :: next :: parts => part ++ sep :: joinOnChar sep (next :: parts)

theorem splitOnChar_ne_nil (sep : Char) (text : List Char) : splitOnChar sep text ≠ [] := by
  cases text with
  | nil => simp [splitOnChar]
  | cons c rest =>
    simp only [splitOnChar]
    split
    · simp
    · split <;> simp

theorem not_mem_of_mem_splitOnChar {sep : Char} {text part : List Char}
    (h : part ∈ splitOnChar sep text) : sep ∉ part := by
  induction text generalizing part with
  | nil => simp_all [splitOnChar]
  | cons c rest ih =>
    simp only [splitOnChar] at h
    split at h
    · rcases List.mem_cons.1 h with rfl | h
      · simp
      · exact ih h
    · next hc =>
      split at h
      · next heq => exact absurd heq (splitOnChar_ne_nil _ _)
      · next first others heq =>
        rcases List.mem_cons.1 h with rfl | h
        · simp [Ne.symm hc, ih (heq ▸ List.mem_cons_self)]
        · exact ih (heq ▸ List.mem_cons_of_mem _ h)

/-- A text that does not hold the character is one part. -/
theorem splitOnChar_of_not_mem {sep : Char} {part : List Char} (h : sep ∉ part) :
    splitOnChar sep part = [part] := by
  induction part with
  | nil => rfl
  | cons c rest ih =>
    simp only [List.mem_cons, not_or] at h
    simp [splitOnChar, Ne.symm h.1, ih h.2]

/-- The text before the first place where the character stands is the first part. -/
theorem splitOnChar_append {sep : Char} {part : List Char} (h : sep ∉ part) (rest : List Char) :
    splitOnChar sep (part ++ sep :: rest) = part :: splitOnChar sep rest := by
  induction part with
  | nil => simp [splitOnChar]
  | cons c part ih =>
    simp only [List.mem_cons, not_or] at h
    simp [splitOnChar, Ne.symm h.1, ih h.2]

theorem splitOnChar_joinOnChar {sep : Char} {parts : List (List Char)} (hne : parts ≠ [])
    (h : ∀ part ∈ parts, sep ∉ part) : splitOnChar sep (joinOnChar sep parts) = parts := by
  fun_induction joinOnChar sep parts with
  | case1 => exact absurd rfl hne
  | case2 part => exact splitOnChar_of_not_mem (h part (by simp))
  | case3 part next parts ih =>
    rw [splitOnChar_append (h part (by simp)), ih (by simp) (fun p hp => h p (by simp_all))]

/-- The parts of a text between its line ends. -/
def splitLines (text : List Char) : List (List Char) := splitOnChar '\n' text

end EnvAudit
