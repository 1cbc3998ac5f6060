import EnvAudit.Dotenv
import EnvAudit.Proofs.Pattern.Runs

/-!
# EnvAudit.Proofs.Dotenv.Statement

An assignment at the start of a line, read without going back:

1. `ending?` reads white space and a comment up to the end of a line; white space may go on over
   several lines, and then it ends before the last line end in it;
2. `closings` are the places where a quoted value may close, the preferred one first: the first
   quote without a backslash before it, and failing that the last one with a backslash;
3. `value` reads a value with its ending; it always finds one;
4. `statement?` reads an assignment, with `export` or without.

Main statement: what is read stands where it is read, and the end of a line follows it
(`starts_of_statement?`, `Statement.Starts.rest_eq`).
-/

namespace EnvAudit.Dotenv

/-! ## Characters -/

/-- The characters of a key. -/
def isKeyChar (c : Char) : Bool := keyChars.contains c

/-- The characters of a value without quotes. -/
def isBare (c : Char) : Bool := c != '#' && c != '\r' && c != '\n'

theorem not_isKeyChar_of_isBlank {c : Char} (h : isBlank c) : isKeyChar c = false :=
  CharSet.not_contains_of_apart (a := .blank) (by decide +kernel) h

theorem not_isBlank_of_isKeyChar {c : Char} (h : isKeyChar c) : isBlank c = false := by
  cases hb : isBlank c with
  | false => rfl
  | true => rw [not_isKeyChar_of_isBlank hb] at h; cases h

theorem contains_bare (c : Char) :
    (CharSet.ofList ['#', '\r', '\n']).compl.contains c = isBare c := by
  have hset : (CharSet.ofList ['#', '\r', '\n']).compl =
      ⟨[(0, 9), (11, 12), (14, 34), (36, CharSet.maxCode)]⟩ := by
    simp [CharSet.ofList, CharSet.ofRanges, CharSet.merge, CharSet.compl, CharSet.gaps,
      CharSet.maxCode, List.mergeSort]
  have hc := CharSet.toNat_le_maxCode c
  have hne : ∀ d : Char, (c != d) = (c.toNat != d.toNat) := by
    intro d
    rw [Bool.eq_iff_iff]
    simp [Char.toNat_inj]
  rw [hset]
  simp only [CharSet.contains, CharSet.covers, isBare, hne]
  have h₁ : '#'.toNat = 35 := rfl
  have h₂ : '\r'.toNat = 13 := rfl
  have h₃ : '\n'.toNat = 10 := rfl
  rw [h₁, h₂, h₃, eq_comm]
  repeat' split
  all_goals simp [bne_iff_ne]; omega

theorem head_dropWhile {p : Char → Bool} {text rest : List Char} {x : Char}
    (h : text.dropWhile p = x :: rest) : p x = false := by
  have := List.head?_dropWhile_not p text
  rw [h] at this
  simpa using this

/-! ## Reading without going back -/

/-- White space and a comment up to the end of a line, and what follows. -/
def ending? : List Char → Option (List Char × List Char)
  | [] => some ([], [])
  | c :: rest =>
    if isBlank c then
      ((ending? rest).map fun e => (c :: e.1, e.2)).or
        (if c = '\n' then some ([], c :: rest) else none)
    else if c = '#' then some (c :: rest.takeWhile (· != '\n'), rest.dropWhile (· != '\n'))
    else none

/-- What may stand between two quotes, with what follows the second one, the preferred choice
first. -/
def closings (quote : Char) : List Char → List (List Char × List Char)
  | [] => []
  | '\\' :: c :: rest =>
    if c = quote then
      ((closings quote rest).map fun k => ('\\' :: c :: k.1, k.2)) ++ [(['\\'], rest)]
    else (closings quote (c :: rest)).map fun k => ('\\' :: k.1, k.2)
  | c :: rest =>
    if c = quote then [([], rest)] else (closings quote rest).map fun k => (c :: k.1, k.2)

/-- A value as it is written, what ends it, and the text behind. -/
structure Value where
  raw : List Char
  ending : List Char
  rest : List Char
deriving Repr, DecidableEq

/-- A value between two quotes. -/
def quotedValue? (quote : Char) (text : List Char) : Option Value :=
  match text.dropWhile isBlank with
  | [] => none
  | c :: rest =>
    if c = quote then
      (closings quote rest).findSome? fun k => (ending? k.2).map fun e =>
        ⟨text.takeWhile isBlank ++ quote :: k.1 ++ [quote], e.1, e.2⟩
    else none

/-- A value without quotes: the rest of the line up to a comment. -/
def bareValue (text : List Char) : Value :=
  let e := (ending? (text.dropWhile isBare)).getD ([], text.dropWhile isBare)
  ⟨text.takeWhile isBare, e.1, e.2⟩

/-- A value: between quotes if it can be read so, else without. -/
def value (text : List Char) : Value :=
  ((quotedValue? '\'' text).or ((quotedValue? '"' text).or (quotedValue? '\x60' text))).getD
    (bareValue text)

/-- What sets a value apart from its key, and what follows. -/
def separator? (text : List Char) : Option (List Char × List Char) :=
  match text.dropWhile isBlank with
  | '=' :: rest => some (text.takeWhile isBlank ++ ['='], rest)
  | _ =>
    match text with
    | ':' :: c :: rest => if isBlank c then some ([':', c], rest) else none
    | _ => none

/-- What sets a value apart is `=` behind white space, or `:` and one white space character. -/
theorem separator?_cases (text : List Char) :
    (∃ rest, text.dropWhile isBlank = '=' :: rest ∧
      separator? text = some (text.takeWhile isBlank ++ ['='], rest)) ∨
    (∃ x rest, text = ':' :: x :: rest ∧ isBlank x = true ∧
      separator? text = some ([':', x], rest)) ∨
    ((∀ rest, text.dropWhile isBlank ≠ '=' :: rest) ∧
      (∀ x rest, text = ':' :: x :: rest → isBlank x = false) ∧ separator? text = none) := by
  unfold separator?
  split
  · next rest h => exact .inl ⟨rest, h, rfl⟩
  · next hne =>
    split
    · next x rest =>
      by_cases hx : isBlank x
      · exact .inr (.inl ⟨x, rest, rfl, hx, if_pos hx⟩)
      · refine .inr (.inr ⟨fun rest h => hne rest h, fun y ys h => ?_, if_neg hx⟩)
        simp only [List.cons.injEq, true_and] at h
        simpa [← h.1] using hx
    · next hno =>
      exact .inr (.inr ⟨fun rest h => hne rest h, fun x rest h => absurd h (hno x rest), rfl⟩)

/-- An assignment up to its value: what stands before its key, the key, what sets the value apart,
and the text behind. -/
structure Opening where
  lead : List Char
  key : List Char
  separator : List Char
  rest : List Char
deriving Repr, DecidableEq

/-- A key and a separator. -/
def unexported? (lead text : List Char) : Option Opening :=
  let key := text.takeWhile isKeyChar
  if key = [] then none
  else (separator? (text.dropWhile isKeyChar)).map fun s => ⟨lead, key, s.1, s.2⟩

/-- The word that may stand before a key. -/
def exportWord : List Char := "export".toList

theorem exportWord_append (text : List Char) :
    exportWord ++ text = 'e' :: ("xport".toList ++ text) := rfl

/-- A key and a separator behind `export`. -/
def exported? (lead text : List Char) : Option Opening :=
  if exportWord <+: text then
    let text := text.drop exportWord.length
    let blanks := text.takeWhile isBlank
    if blanks = [] then none
    else unexported? (lead ++ exportWord ++ blanks) (text.dropWhile isBlank)
  else none

/-- What opens the assignment at the start of a line. -/
def opening? (text : List Char) : Option Opening :=
  let lead := text.takeWhile isBlank
  let text := text.dropWhile isBlank
  (exported? lead text).or (unexported? lead text)

/-- An assignment: what stands before its key, the key, what sets the value apart, and the value. -/
structure Statement where
  lead : List Char
  key : List Char
  separator : List Char
  value : Value
deriving Repr, DecidableEq

/-- The assignment that is opened. -/
def Opening.statement (o : Opening) : Statement := ⟨o.lead, o.key, o.separator, value o.rest⟩

/-- The assignment at the start of a line. -/
def statement? (text : List Char) : Option Statement := (opening? text).map Opening.statement

namespace Statement

/-- The text of a statement. -/
def text (s : Statement) : List Char :=
  s.lead ++ s.key ++ s.separator ++ s.value.raw ++ s.value.ending

/-- The groups of a value. -/
def valueGroups (v : Value) : List (Nat × List Char) := if v.raw = [] then [] else [(2, v.raw)]

/-- The way that reads a statement. -/
def way (s : Statement) : Way := ⟨s.text, valueGroups s.value ++ [(1, s.key)]⟩

end Statement

/-! ## What is read stands there -/

theorem append_of_ending? {text : List Char} {e : List Char × List Char}
    (h : ending? text = some e) : e.1 ++ e.2 = text := by
  fun_induction ending? text generalizing e with
  | case1 =>
    cases h
    rfl
  | case2 c rest hc ih =>
    cases hrest : ending? rest with
    | some e' =>
      rw [hrest, Option.map_some, Option.some_or, Option.some.injEq] at h
      have hrec := ih hrest
      simp [← h, hrec]
    | none =>
      rw [hrest, Option.map_none, Option.none_or] at h
      split at h <;> cases h
      rfl
  | case3 rest hc =>
    cases h
    simp [List.takeWhile_append_dropWhile]
  | case4 => cases h

/-- An ending is followed by the end of a line. -/
theorem rest_of_ending? {text : List Char} {e : List Char × List Char}
    (h : ending? text = some e) : e.2 = [] ∨ ∃ rest, e.2 = '\n' :: rest := by
  fun_induction ending? text generalizing e with
  | case1 =>
    cases h
    exact .inl rfl
  | case2 c rest hc ih =>
    cases hrest : ending? rest with
    | some e' =>
      rw [hrest, Option.map_some, Option.some_or, Option.some.injEq] at h
      have hrec := ih hrest
      rwa [← h]
    | none =>
      rw [hrest, Option.map_none, Option.none_or] at h
      split at h <;> cases h
      next hc => exact .inr ⟨rest, by rw [hc]⟩
  | case3 rest hc =>
    cases h
    cases hrest : rest.dropWhile (· != '\n') with
    | nil => exact .inl rfl
    | cons x xs =>
      obtain rfl : x = '\n' := by simpa using head_dropWhile hrest
      exact .inr ⟨xs, rfl⟩
  | case4 => cases h

/-- A closing quote stands behind what it closes. -/
theorem eq_of_mem_closings {quote : Char} {text : List Char} {k : List Char × List Char}
    (hk : k ∈ closings quote text) : text = k.1 ++ quote :: k.2 := by
  fun_induction closings quote text generalizing k with
  | case1 => simp at hk
  | case2 rest ih =>
    rcases List.mem_append.1 hk with hk | hk
    · obtain ⟨j, hj, rfl⟩ := List.mem_map.1 hk
      simp [ih hj]
    · obtain rfl := List.mem_singleton.1 hk
      rfl
  | case3 x rest hx ih =>
    obtain ⟨j, hj, rfl⟩ := List.mem_map.1 hk
    simp [ih hj]
  | case4 rest =>
    obtain rfl := List.mem_singleton.1 hk
    rfl
  | case5 x rest hesc hx ih =>
    obtain ⟨j, hj, rfl⟩ := List.mem_map.1 hk
    simp [ih hj]

/-- A quoted value: white space, a quote, what stands up to a closing quote, and an ending. -/
theorem quotedValue?_eq_some {quote : Char} {text : List Char} {v : Value}
    (h : quotedValue? quote text = some v) :
    ∃ inner, v.raw = text.takeWhile isBlank ++ quote :: inner ++ [quote] ∧
      text = v.raw ++ v.ending ++ v.rest ∧
        ending? (v.ending ++ v.rest) = some (v.ending, v.rest) := by
  unfold quotedValue? at h
  split at h
  · cases h
  · next c rest hdrop =>
    split at h
    · next hc =>
      obtain ⟨k, hk, hv⟩ := List.exists_of_findSome?_eq_some h
      obtain ⟨e, he, rfl⟩ := Option.map_eq_some_iff.1 hv
      refine ⟨k.1, rfl, ?_, by rw [append_of_ending? he, he]⟩
      conv_lhs => rw [← List.takeWhile_append_dropWhile (p := isBlank) (l := text), hdrop, hc,
        eq_of_mem_closings hk, ← append_of_ending? he]
      simp
    · cases h

/-- A value without quotes ends at the end of its line or before a comment. -/
theorem ending?_dropWhile_isBare {text : List Char} (hcr : '\r' ∉ text) :
    ∃ e, ending? (text.dropWhile isBare) = some e := by
  cases hn : text.dropWhile isBare with
  | nil => exact ⟨_, rfl⟩
  | cons x rest =>
    have hx : isBare x = false := head_dropWhile hn
    have hmem : x ∈ text := (List.dropWhile_sublist _).subset (hn ▸ List.mem_cons_self)
    have hne : x ≠ '\r' := fun h => hcr (h ▸ hmem)
    have hor : x = '#' ∨ x = '\n' := by
      by_contra h
      push Not at h
      simp [isBare, h, hne] at hx
    rcases hor with rfl | rfl
    · exact ⟨_, by rw [ending?, if_neg (by decide), if_pos rfl]⟩
    · rw [ending?, if_pos (by decide), if_pos rfl]
      cases ending? rest with
      | none => exact ⟨_, rfl⟩
      | some e => exact ⟨_, rfl⟩

/-- A value is a quoted one that closes, or a bare one. -/
theorem value_cases (text : List Char) :
    (∃ quote, isQuote quote ∧ quotedValue? quote text = some (value text)) ∨
      value text = bareValue text := by
  unfold value
  cases h₁ : quotedValue? '\'' text with
  | some v => exact .inl ⟨'\'', by decide, by simpa using h₁⟩
  | none =>
    cases h₂ : quotedValue? '"' text with
    | some v => exact .inl ⟨'"', by decide, by simpa using h₂⟩
    | none =>
      cases h₃ : quotedValue? '\x60' text with
      | some v => exact .inl ⟨'\x60', by decide, by simpa using h₃⟩
      | none => exact .inr (by simp)

/-- A quoted value starts with its quote. -/
theorem head?_of_quotedValue? {quote : Char} {text : List Char} {v : Value}
    (h : quotedValue? quote text = some v) : (text.dropWhile isBlank).head? = some quote := by
  unfold quotedValue? at h
  split at h
  · cases h
  · next c rest hdrop =>
    split at h
    · next hc => rw [hdrop, hc]; rfl
    · cases h

/-- Without a quote in front a value is bare. -/
theorem value_of_head {text : List Char}
    (h : ∀ c ∈ (text.dropWhile isBlank).head?, isQuote c = false) :
    value text = bareValue text := by
  rcases value_cases text with ⟨quote, hquote, hvalue⟩ | hvalue
  · rw [h quote (head?_of_quotedValue? hvalue)] at hquote
    cases hquote
  · exact hvalue

/-- A value in a text without quotes has no quotes. -/
theorem value_eq_bareValue {text : List Char} (h : ∀ c ∈ text, isQuote c = false) :
    value text = bareValue text :=
  value_of_head fun c hc => h c ((List.dropWhile_sublist _).subset (List.mem_of_mem_head? hc))

/-- A value is what stands at the start of the text. -/
theorem append_value (text : List Char) :
    (value text).raw ++ ((value text).ending ++ (value text).rest) = text := by
  rcases value_cases text with ⟨quote, -, h⟩ | h
  · obtain ⟨inner, -, htext, -⟩ := quotedValue?_eq_some h
    rw [← List.append_assoc, ← htext]
  · rw [h, bareValue]
    cases he : ending? (text.dropWhile isBare) with
    | none => exact List.takeWhile_append_dropWhile
    | some e =>
      simp only [Option.getD_some]
      rw [append_of_ending? he, List.takeWhile_append_dropWhile]

/-- A value is followed by an ending. -/
theorem ending_value {text : List Char} (hcr : '\r' ∉ text) :
    ending? ((value text).ending ++ (value text).rest) =
      some ((value text).ending, (value text).rest) := by
  rcases value_cases text with ⟨quote, -, h⟩ | h
  · obtain ⟨inner, -, -, hending⟩ := quotedValue?_eq_some h
    exact hending
  · obtain ⟨e, he⟩ := ending?_dropWhile_isBare hcr
    rw [h]
    simp only [bareValue, he, Option.getD_some]
    rw [append_of_ending? he, he]

theorem append_of_separator? {text : List Char} {s : List Char × List Char}
    (h : separator? text = some s) : s.1 ++ s.2 = text := by
  rcases separator?_cases text with ⟨rest, htext, hs⟩ | ⟨x, rest, htext, -, hs⟩ | ⟨-, -, hs⟩
  · rw [hs] at h
    cases h
    conv_rhs => rw [← List.takeWhile_append_dropWhile (p := isBlank) (l := text), htext]
    simp
  · rw [hs] at h
    cases h
    simp [htext]
  · rw [hs] at h
    cases h

theorem unexported?_lead (lead text : List Char) :
    unexported? lead text = (unexported? [] text).map fun o => { o with lead := lead } := by
  unfold unexported?
  simp only
  split
  · rfl
  · simp [Option.map_map, Function.comp_def]

theorem exported?_lead (lead text : List Char) :
    exported? lead text =
      (exported? [] text).map fun o => { o with lead := lead ++ o.lead } := by
  unfold exported?
  split
  · simp only
    split
    · rfl
    · rw [unexported?_lead, unexported?_lead ([] ++ _ ++ _), Option.map_map]
      simp [Function.comp_def]
  · rfl

/-- An opening that stands at the start of a text. -/
structure Opening.Starts (o : Opening) (text : List Char) : Prop where
  append : o.lead ++ o.key ++ o.separator ++ o.rest = text
  key_ne_nil : o.key ≠ []
  separator : '=' ∈ o.separator ∨ ∃ x, o.separator = [':', x]

theorem starts_of_unexported? {lead text : List Char} {o : Opening}
    (h : unexported? lead text = some o) : o.Starts (lead ++ text) := by
  unfold unexported? at h
  simp only at h
  split at h
  · cases h
  · next hkey =>
    obtain ⟨s, hs, rfl⟩ := Option.map_eq_some_iff.1 h
    refine ⟨?_, hkey, ?_⟩
    · rw [List.append_assoc, append_of_separator? hs, List.append_assoc,
        List.takeWhile_append_dropWhile]
    · rcases separator?_cases (text.dropWhile isKeyChar) with
        ⟨rest, -, hs'⟩ | ⟨x, rest, -, -, hs'⟩ | ⟨-, -, hs'⟩
      · rw [hs] at hs'
        cases hs'
        exact .inl (by simp)
      · rw [hs] at hs'
        cases hs'
        exact .inr ⟨x, rfl⟩
      · rw [hs] at hs'
        cases hs'

theorem starts_of_exported? {lead text : List Char} {o : Opening}
    (h : exported? lead text = some o) : o.Starts (lead ++ text) := by
  unfold exported? at h
  split at h
  · next hword =>
    simp only at h
    split at h
    · cases h
    · have hstarts := starts_of_unexported? h
      rwa [List.append_assoc, List.append_assoc, List.takeWhile_append_dropWhile,
        List.prefix_iff_eq_append.1 hword] at hstarts
  · cases h

/-- An opening is a beginning of the text. -/
theorem starts_of_opening? {text : List Char} {o : Opening} (h : opening? text = some o) :
    o.Starts text := by
  have hstarts : o.Starts (text.takeWhile isBlank ++ text.dropWhile isBlank) := by
    rcases Option.or_eq_some_iff.1 h with h | ⟨-, h⟩
    · exact starts_of_exported? h
    · exact starts_of_unexported? h
  rwa [List.takeWhile_append_dropWhile] at hstarts

/-- A statement that stands at the start of a text. -/
structure Statement.Starts (s : Statement) (text : List Char) : Prop where
  append : s.text ++ s.value.rest = text
  key_ne_nil : s.key ≠ []
  ending : '\r' ∉ text →
    ending? (s.value.ending ++ s.value.rest) = some (s.value.ending, s.value.rest)

/-- A statement is read where it stands. -/
theorem starts_of_statement? {text : List Char} {s : Statement} (h : statement? text = some s) :
    s.Starts text := by
  obtain ⟨o, ho, rfl⟩ := Option.map_eq_some_iff.1 h
  have hstarts := starts_of_opening? ho
  refine ⟨?_, hstarts.key_ne_nil, fun hcr => ending_value fun hmem => hcr ?_⟩
  · rw [← hstarts.append]
    conv_rhs => rw [← append_value o.rest]
    simp [Statement.text, Opening.statement]
  · rw [← hstarts.append]
    exact List.mem_append_right _ hmem

/-- A statement takes at least one character, so reading comes to an end. -/
theorem Statement.Starts.length_lt {s : Statement} {text : List Char} (h : s.Starts text) :
    s.value.rest.length < text.length := by
  have hkey := List.length_pos_iff.2 h.key_ne_nil
  have hlength := congrArg List.length h.append
  simp only [Statement.text, List.length_append] at hlength
  omega

/-- A statement is followed by the end of a line. -/
theorem Statement.Starts.rest_eq {s : Statement} {text : List Char} (h : s.Starts text)
    (hcr : '\r' ∉ text) : s.value.rest = [] ∨ ∃ rest, s.value.rest = '\n' :: rest :=
  rest_of_ending? (h.ending hcr)

end EnvAudit.Dotenv
