import EnvAudit.Declarations.Source
import EnvAudit.Proofs.Dotenv.Append
import EnvAudit.Proofs.Dotenv.ReadFrom
import EnvAudit.Proofs.Variables

/-!
# EnvAudit.Proofs.Dotenv.Written

Texts of assignments that are written as they are meant to be, and how they are read:

1. a `Line` is blank, a comment, or an assignment, whose value is bare or between quotes, so that it
   may go on over several lines;
2. the lines of a text may end in `\n`, in `\r\n` or in `\r`.

Main statement: a text of such lines declares exactly the names that are assigned in it, each with
the value of its last assignment, and no line is skipped (`readDotenv_written`).
-/

namespace EnvAudit.Dotenv

/-! ## Lines as they are written -/

/-- Spaces and tabs. -/
abbrev Spaces := {cs : List Char // ∀ c ∈ cs, c = ' ' ∨ c = '\t'}

/-- A text within one line. -/
abbrev LineText := {cs : List Char // '\r' ∉ cs ∧ '\n' ∉ cs}

/-- The text with one character in the place of each pair of `a` and `b`. -/
def replacePair (a b new : Char) : List Char → List Char
  | [] => []
  | [c] => [c]
  | c :: d :: rest =>
    if c = a ∧ d = b then new :: replacePair a b new rest else c :: replacePair a b new (d :: rest)

/-- A value as it is written. -/
inductive WrittenValue
  /-- Without quotes, maybe empty. -/
  | bare (text : List Char) (hchars : ∀ c ∈ text, c ≠ '#' ∧ c ≠ '\r' ∧ c ≠ '\n')
      (hhead : ∀ c ∈ text.head?, isBlank c = false ∧ isQuote c = false)
      (hlast : ∀ c ∈ text.getLast?, isBlank c = false)
  /-- Between two quotes of one kind. -/
  | quoted (quote : Char) (hquote : isQuote quote) (text : List Char) (hfree : quote ∉ text)
      (hcr : '\r' ∉ text) (hlast : text.getLast? ≠ some '\\')

namespace WrittenValue

/-- The characters of a value. -/
def chars : WrittenValue → List Char
  | bare text _ _ _ => text
  | quoted quote _ text _ _ _ => quote :: text ++ [quote]

/-- The value that is meant: between double quotes `\n` and `\r` are line end characters, and
everything else is taken as it is written. -/
def meaning : WrittenValue → List Char
  | bare text _ _ _ => text
  | quoted quote _ text _ _ _ =>
    if quote = '"' then replacePair '\\' 'r' '\r' (replacePair '\\' 'n' '\n' text) else text

end WrittenValue

/-- What is written between a key and its value. -/
inductive WrittenSeparator
  | equal (before after : Spaces)
  | colon (after : Spaces) (hne : after.1 ≠ [])

/-- The characters of a separator. -/
def WrittenSeparator.chars : WrittenSeparator → List Char
  | equal before after => before.1 ++ '=' :: after.1
  | colon after _ => ':' :: after.1

/-- An assignment as it is written. -/
structure WrittenAssignment where
  /-- What stands before it. -/
  lead : Spaces
  /-- What stands between `export` and the key, if there is `export`. -/
  exported : Option {spaces : Spaces // spaces.1 ≠ []}
  key : {cs : List Char // cs ≠ [] ∧ ∀ c ∈ cs, isKeyChar c}
  separator : WrittenSeparator
  value : WrittenValue
  /-- What stands behind the value. -/
  trail : Spaces
  /-- What stands behind `#`, if there is a comment. -/
  comment : Option LineText

/-- The characters of a comment. -/
def commentChars : Option LineText → List Char
  | none => []
  | some text => '#' :: text.1

namespace WrittenAssignment

/-- The characters before the key of an assignment. -/
def exportChars (a : WrittenAssignment) : List Char :=
  match a.exported with
  | none => []
  | some spaces => exportWord ++ spaces.1.1

/-- The characters of an assignment. -/
def chars (a : WrittenAssignment) : List Char :=
  a.lead.1 ++ (a.exportChars ++ (a.key.1 ++ (a.separator.chars ++
    (a.value.chars ++ (a.trail.1 ++ commentChars a.comment)))))

/-- The name that is assigned a value, and the value. -/
def pair (a : WrittenAssignment) : String × String := (.ofList a.key.1, .ofList a.value.meaning)

end WrittenAssignment

/-- A line as it is written. -/
inductive Line
  | blank (spaces : Spaces)
  | comment (lead : Spaces) (text : LineText)
  | assignment (a : WrittenAssignment)

namespace Line

/-- The characters of a line. -/
def chars : Line → List Char
  | blank spaces => spaces.1
  | comment lead text => lead.1 ++ '#' :: text.1
  | assignment a => a.chars

/-- What a line assigns. -/
def pair? : Line → Option (String × String)
  | assignment a => some a.pair
  | _ => none

end Line

/-- The characters of lines, with `\n` between them. -/
def linesChars (lines : List Line) : List Char := joinOnChar '\n' (lines.map Line.chars)

/-! ## Parts of a line -/

theorem isBlank_of_mem (spaces : Spaces) : ∀ c ∈ spaces.1, isBlank c := by
  intro c hc
  rcases spaces.2 c hc with rfl | rfl <;> decide

theorem isBare_of_mem (spaces : Spaces) : ∀ c ∈ spaces.1, isBare c := by
  intro c hc
  rcases spaces.2 c hc with rfl | rfl <;> decide

/-- What can stand behind a line: nothing, or a line end and a text that does not start with a
quote. -/
def Follows (tail : List Char) : Prop :=
  tail = [] ∨ ∃ text, tail = '\n' :: text ∧ ∀ c ∈ (text.dropWhile isBlank).head?, isQuote c = false

variable {tail : List Char}

/-- Behind a line stands what follows it. -/
theorem afterLine_of_follows (h : Follows tail) (text : LineText) :
    afterLine (text.1 ++ tail) = tail := by
  rcases h with rfl | ⟨more, rfl, -⟩
  · rw [List.append_nil, afterLine_of_not_mem text.2.2]
  · exact afterLine_append text.2.2 more

/-- What follows a value in its line makes no difference. -/
theorem readFrom_trail (h : Follows tail) (trail : Spaces) (comment : Option LineText) :
    readFrom (trail.1 ++ (commentChars comment ++ tail)) = readFrom tail := by
  rw [readFrom_append_of_isBlank (isBlank_of_mem trail)]
  cases comment with
  | none => rfl
  | some text =>
    change readFrom ('#' :: (text.1 ++ tail)) = _
    rw [readFrom_hash, afterLine_of_follows h]

theorem ending?_append {text : List Char} (h : (ending? text).isSome) {blanks : List Char}
    (hblanks : ∀ c ∈ blanks, isBlank c) : (ending? (blanks ++ text)).isSome := by
  induction blanks with
  | nil => exact h
  | cons c blanks ih =>
    have hrest := ih fun x hx => hblanks x (by simp [hx])
    rw [List.cons_append, ending?, if_pos (hblanks c (by simp)), Option.isSome_or,
      Option.isSome_map, hrest]
    rfl

/-- What follows a value in its line ends it. -/
theorem isSome_ending? (h : Follows tail) (trail : Spaces) (comment : Option LineText) :
    (ending? (trail.1 ++ (commentChars comment ++ tail))).isSome := by
  refine ending?_append ?_ (isBlank_of_mem trail)
  cases comment with
  | some text =>
    change (ending? ('#' :: (text.1 ++ tail))).isSome
    rw [ending?, if_neg (by decide), if_pos rfl]
    rfl
  | none =>
    rcases h with rfl | ⟨more, rfl, -⟩
    · rfl
    · change (ending? ('\n' :: more)).isSome
      rw [ending?, if_pos (by decide), if_pos rfl, Option.isSome_or]
      simp

/-! ## Values -/

/-- A character that does not start the pair is kept. -/
theorem replacePair_cons {a b new c : Char} {text : List Char}
    (h : c ≠ a ∨ text.head? ≠ some b) :
    replacePair a b new (c :: text) = c :: replacePair a b new text := by
  cases text with
  | nil => rfl
  | cons d text =>
    rw [replacePair, if_neg]
    rintro ⟨rfl, rfl⟩
    simp at h

/-- Replacing a pair makes no other character but the new one the first. -/
theorem head?_replacePair {a b new x : Char} {text : List Char} (hnew : new ≠ x)
    (h : text.head? ≠ some x) : (replacePair a b new text).head? ≠ some x := by
  fun_cases replacePair a b new text with
  | case1 => simp
  | case2 c => exact h
  | case3 c d rest hpair => simpa using hnew
  | case4 c d rest hpair => simpa using h

/-- Reading the line end characters in one go is replacing one of them after the other. -/
theorem unescape_eq (text : List Char) :
    unescape text = replacePair '\\' 'r' '\r' (replacePair '\\' 'n' '\n' text) := by
  fun_induction unescape text with
  | case1 => rfl
  | case2 rest ih =>
    rw [replacePair, if_pos ⟨rfl, rfl⟩, replacePair_cons (.inl (by decide)), ih]
  | case3 rest ih =>
    have hinner : replacePair '\\' 'n' '\n' ('\\' :: 'r' :: rest) =
        '\\' :: 'r' :: replacePair '\\' 'n' '\n' rest := by
      rw [replacePair_cons (.inr (by simp)), replacePair_cons (.inl (by decide))]
    rw [hinner, replacePair, if_pos ⟨rfl, rfl⟩, ih]
  | case4 c rest hn hr ih =>
    have hnot : ∀ d : Char, (∀ rest', c = '\\' → rest = d :: rest' → False) →
        c ≠ '\\' ∨ rest.head? ≠ some d := by
      intro d hd
      by_cases hc : c = '\\'
      · refine .inr fun hhead => ?_
        obtain ⟨rest', hrest⟩ := List.head?_eq_some_iff.1 hhead
        exact hd rest' hc hrest
      · exact .inl hc
    have hr' : c ≠ '\\' ∨ (replacePair '\\' 'n' '\n' rest).head? ≠ some 'r' :=
      (hnot 'r' hr).imp_right fun h => head?_replacePair (by decide) h
    rw [replacePair_cons (hnot 'n' hn), replacePair_cons hr', ih]

/-- What stands between white space is what is left without it. -/
theorem trim_append {blanks text trail : List Char} (hblanks : ∀ c ∈ blanks, isBlank c)
    (htrail : ∀ c ∈ trail, isBlank c) (hhead : ∀ c ∈ text.head?, isBlank c = false)
    (hlast : ∀ c ∈ text.getLast?, isBlank c = false) : trim (blanks ++ (text ++ trail)) = text := by
  have hrev : ∀ c ∈ trail.reverse, isBlank c := fun c hc => htrail c (List.mem_reverse.1 hc)
  rw [trim, trimStart, List.dropWhile_append_of_pos hblanks]
  cases text with
  | nil => rw [List.nil_append, List.dropWhile_eq_nil_iff.2 htrail, trimEnd]; rfl
  | cons c text =>
    have hc : ¬ isBlank c := by simp [hhead c rfl]
    rw [List.cons_append, List.dropWhile_cons_of_neg hc, trimEnd, ← List.cons_append,
      List.reverse_append, List.dropWhile_append_of_pos hrev]
    cases hcons : (c :: text).reverse with
    | nil => simp at hcons
    | cons d ds =>
      have hd : isBlank d = false := hlast d (by rw [← List.head?_reverse, hcons]; rfl)
      rw [List.dropWhile_cons_of_neg (by simp [hd]), ← hcons, List.reverse_reverse]

/-- No quote comes next behind a value. -/
theorem not_isQuote_head?_commentChars (h : Follows tail) (comment : Option LineText) :
    ∀ c ∈ ((commentChars comment ++ tail).dropWhile isBlank).head?, isQuote c = false := by
  cases comment with
  | some text =>
    change ∀ c ∈ (('#' :: (text.1 ++ tail)).dropWhile isBlank).head?, isQuote c = false
    rw [List.dropWhile_cons_of_neg (by decide)]
    simpa using (by decide : isQuote '#' = false)
  | none =>
    rcases h with rfl | ⟨more, rfl, hmore⟩
    · simp [commentChars]
    · rwa [commentChars, List.nil_append, List.dropWhile_cons_of_pos (by decide)]

/-- A value without quotes ends before a comment and at the end of a line. -/
theorem stops_bare_commentChars (h : Follows tail) (comment : Option LineText) :
    (commentChars comment ++ tail).takeWhile isBare = [] ∧
      (commentChars comment ++ tail).dropWhile isBare = commentChars comment ++ tail := by
  cases comment with
  | some text =>
    exact ⟨List.takeWhile_cons_of_neg (by decide), List.dropWhile_cons_of_neg (by decide)⟩
  | none =>
    rcases h with rfl | ⟨more, rfl, -⟩
    · exact ⟨rfl, rfl⟩
    · exact ⟨List.takeWhile_cons_of_neg (by decide), List.dropWhile_cons_of_neg (by decide)⟩

/-- A value without quotes is read up to the comment or the end of the line. -/
theorem value_bare (h : Follows tail) (after trail : Spaces) (comment : Option LineText)
    {text : List Char} (hchars : ∀ c ∈ text, c ≠ '#' ∧ c ≠ '\r' ∧ c ≠ '\n')
    (hhead : ∀ c ∈ text.head?, isBlank c = false ∧ isQuote c = false)
    (hlast : ∀ c ∈ text.getLast?, isBlank c = false) :
    let v := value (after.1 ++ (text ++ (trail.1 ++ (commentChars comment ++ tail))))
    unquote v.raw = text ∧ readFrom v.rest = readFrom tail := by
  have hbehind := not_isQuote_head?_commentChars h comment
  have hvalue : value (after.1 ++ (text ++ (trail.1 ++ (commentChars comment ++ tail)))) =
      bareValue (after.1 ++ (text ++ (trail.1 ++ (commentChars comment ++ tail)))) := by
    refine value_of_head ?_
    rw [List.dropWhile_append_of_pos (isBlank_of_mem after)]
    cases text with
    | nil => rwa [List.nil_append, List.dropWhile_append_of_pos (isBlank_of_mem trail)]
    | cons c text =>
      have hc : ¬ isBlank c := by simp [(hhead c rfl).1]
      rw [List.cons_append, List.dropWhile_cons_of_neg hc]
      simpa using (hhead c rfl).2
  have hstop := stops_bare_commentChars h comment
  have hbare : ∀ c ∈ text, isBare c := fun c hc => by
    simp [isBare, hchars c hc]
  obtain ⟨e, he⟩ := Option.isSome_iff_exists.1 (isSome_ending? h ⟨[], by simp⟩ comment)
  have hread := readFrom_of_ending? he
  have htail := readFrom_trail h ⟨[], by simp⟩ comment
  simp only [List.nil_append] at he hread htail
  have hraw : (bareValue (after.1 ++ (text ++ (trail.1 ++ (commentChars comment ++ tail))))) =
      ⟨after.1 ++ (text ++ trail.1), e.1, e.2⟩ := by
    simp only [bareValue, List.takeWhile_append_of_pos (isBare_of_mem after),
      List.takeWhile_append_of_pos hbare, List.takeWhile_append_of_pos (isBare_of_mem trail),
      List.dropWhile_append_of_pos (isBare_of_mem after), List.dropWhile_append_of_pos hbare,
      List.dropWhile_append_of_pos (isBare_of_mem trail), hstop.1, hstop.2, he, List.append_nil,
      Option.getD_some]
  simp only [hvalue, hraw]
  refine ⟨?_, hread.symm.trans htail⟩
  rw [unquote, trim_append (isBlank_of_mem after) (isBlank_of_mem trail)
    (fun c hc => (hhead c hc).1) hlast]
  cases text with
  | nil => rfl
  | cons c text => simp [(hhead c rfl).2]

/-- Past a character that is not a backslash, a value closes there if the character is the quote, or
later. -/
theorem closings_cons {quote c : Char} (hc : c ≠ '\\') (rest : List Char) :
    closings quote (c :: rest) =
      if c = quote then [([], rest)] else (closings quote rest).map fun k => (c :: k.1, k.2) := by
  rw [closings.eq_3 _ _ _ fun _ _ h => absurd h hc]

/-- The first quote closes a value that does not end in a backslash. -/
theorem closings_append {quote : Char} (hquote : quote ≠ '\\') {text : List Char}
    (hfree : quote ∉ text) (hlast : text.getLast? ≠ some '\\') (rest : List Char) :
    closings quote (text ++ quote :: rest) = [(text, rest)] := by
  induction text with
  | nil => rw [List.nil_append, closings_cons hquote, if_pos rfl]
  | cons c text ih =>
    simp only [List.mem_cons, not_or] at hfree
    have hlast' : text.getLast? ≠ some '\\' := by
      cases text with
      | nil => simp
      | cons d text => simpa using hlast
    have hrec := ih hfree.2 hlast'
    by_cases hc : c = '\\'
    · subst hc
      cases text with
      | nil => simp at hlast
      | cons d text =>
        have hd : d ≠ quote := fun h => hfree.2 (by simp [h])
        rw [List.cons_append, List.cons_append, closings.eq_2, if_neg hd, ← List.cons_append, hrec]
        rfl
    · rw [List.cons_append, closings_cons hc, if_neg (Ne.symm hfree.1), hrec]
      rfl

/-- A value between quotes is read up to the closing quote. -/
theorem value_quoted (h : Follows tail) (after trail : Spaces) (comment : Option LineText)
    {quote : Char} (hquote : isQuote quote) {text : List Char} (hfree : quote ∉ text)
    (hcr : '\r' ∉ text) (hlast : text.getLast? ≠ some '\\') :
    let v := value (after.1 ++ (quote :: text ++ [quote] ++
      (trail.1 ++ (commentChars comment ++ tail))))
    unquote v.raw = (WrittenValue.quoted quote hquote text hfree hcr hlast).meaning ∧
      readFrom v.rest = readFrom tail := by
  obtain ⟨e, he⟩ := Option.isSome_iff_exists.1 (isSome_ending? h trail comment)
  generalize hwhole : after.1 ++ (quote :: text ++ [quote] ++
    (trail.1 ++ (commentChars comment ++ tail))) = whole
  have hdrop : whole.dropWhile isBlank =
      quote :: (text ++ quote :: (trail.1 ++ (commentChars comment ++ tail))) := by
    rw [← hwhole, List.dropWhile_append_of_pos (isBlank_of_mem after)]
    simp [isBlank_quote hquote]
  have htake : whole.takeWhile isBlank = after.1 := by
    rw [← hwhole, List.takeWhile_append_of_pos (isBlank_of_mem after)]
    simp [isBlank_quote hquote]
  have hvalue : quotedValue? quote whole =
      some ⟨after.1 ++ quote :: text ++ [quote], e.1, e.2⟩ := by
    simp [quotedValue?, hdrop, htake,
      closings_append (ne_backslash_of_isQuote hquote) hfree hlast, he]
  have hother : ∀ q, q ≠ quote → quotedValue? q whole = none := by
    intro q hq
    simp [quotedValue?, hdrop, Ne.symm hq]
  have hread : value whole = ⟨after.1 ++ quote :: text ++ [quote], e.1, e.2⟩ := by
    simp only [isQuote, Bool.or_eq_true, decide_eq_true_eq] at hquote
    rcases hquote with (rfl | rfl) | rfl
    · simp [value, hvalue]
    · simp [value, hvalue, hother '\'' (by decide)]
    · simp [value, hvalue, hother '\'' (by decide), hother '"' (by decide)]
  have htrim : trim (after.1 ++ quote :: text ++ [quote]) = quote :: (text ++ [quote]) := by
    have hboth : trim (after.1 ++ (quote :: (text ++ [quote]) ++ [])) =
        quote :: (text ++ [quote]) :=
      trim_append (isBlank_of_mem after) (by simp) (by simpa using isBlank_quote hquote)
        (by rw [← List.cons_append, List.getLast?_concat]; simpa using isBlank_quote hquote)
    simpa using hboth
  simp only [hread]
  refine ⟨?_, (readFrom_of_ending? he).symm.trans (readFrom_trail h trail comment)⟩
  rw [unquote, htrim, WrittenValue.meaning, ← unescape_eq]
  simp [hquote]

/-- A value is read as it is meant. -/
theorem value_written (h : Follows tail) (after trail : Spaces) (comment : Option LineText)
    (w : WrittenValue) :
    let v := value (after.1 ++ (w.chars ++ (trail.1 ++ (commentChars comment ++ tail))))
    unquote v.raw = w.meaning ∧ readFrom v.rest = readFrom tail := by
  cases w with
  | bare text hchars hhead hlast => exact value_bare h after trail comment hchars hhead hlast
  | quoted quote hquote text hfree hcr hlast =>
    exact value_quoted h after trail comment hquote hfree hcr hlast

/-! ## Assignments -/

/-- A separator is read as it was written, up to the blanks behind it. -/
theorem separator?_written (sep : WrittenSeparator) (text : List Char) :
    ∃ (s : List Char) (after : Spaces),
      separator? (sep.chars ++ text) = some (s, after.1 ++ text) := by
  cases sep with
  | equal before after =>
    have hequal : ∀ c ∈ ('=' :: (after.1 ++ text)).head?, isBlank c = false := by
      simpa using (by decide : isBlank '=' = false)
    have hrun := run_append (isBlank_of_mem before) hequal
    exact ⟨before.1 ++ ['='], after, by simp [WrittenSeparator.chars, separator?, hrun]⟩
  | colon after hne =>
    obtain ⟨after, hafter⟩ := after
    cases after with
    | nil => exact absurd rfl hne
    | cons c after =>
      have hc : isBlank c := isBlank_of_mem ⟨c :: after, hafter⟩ c (by simp)
      have hcolon : isBlank ':' = false := by decide
      exact ⟨[':', c], ⟨after, fun x hx => hafter x (by simp [hx])⟩, by
        simp [WrittenSeparator.chars, separator?, hcolon, hc]⟩

/-- What starts a separator ends the key. -/
theorem head?_separator (sep : WrittenSeparator) (text : List Char) :
    ∀ c ∈ (sep.chars ++ text).head?, isKeyChar c = false := by
  cases sep with
  | equal before after =>
    obtain ⟨before, hbefore⟩ := before
    cases before with
    | nil => simpa [WrittenSeparator.chars] using (by decide : isKeyChar '=' = false)
    | cons c before =>
      simpa [WrittenSeparator.chars] using
        not_isKeyChar_of_isBlank (isBlank_of_mem ⟨c :: before, hbefore⟩ c (by simp))
  | colon after hne => simpa [WrittenSeparator.chars] using (by decide : isKeyChar ':' = false)

variable (a : WrittenAssignment) (text : List Char)

/-- A key and its separator are read as they were written. -/
theorem unexported?_written (lead : List Char) :
    ∃ (s : List Char) (after : Spaces), unexported? lead (a.key.1 ++ (a.separator.chars ++ text)) =
      some ⟨lead, a.key.1, s, after.1 ++ text⟩ := by
  obtain ⟨s, after, hs⟩ := separator?_written a.separator text
  have hrun := run_append a.key.2.2 (head?_separator a.separator text)
  exact ⟨s, after, by simp [unexported?, hrun, a.key.2.1, hs]⟩

/-- A key starts with a character of a key. -/
theorem isKeyChar_head?_key : ∀ c ∈ (a.key.1 ++ text).head?, isKeyChar c := by
  intro c hc
  cases hkey : a.key.1 with
  | nil => exact absurd hkey a.key.2.1
  | cons x key =>
    obtain rfl : x = c := by simpa [hkey] using hc
    exact a.key.2.2 x (by simp [hkey])

/-- What opens an assignment that is written as it is meant to be. -/
theorem opening?_written :
    ∃ (lead s : List Char) (after : Spaces),
      opening? (a.lead.1 ++ (a.exportChars ++ (a.key.1 ++ (a.separator.chars ++ text)))) =
        some ⟨lead, a.key.1, s, after.1 ++ text⟩ := by
  have hkey : ∀ c ∈ (a.key.1 ++ (a.separator.chars ++ text)).head?, isBlank c = false :=
    fun c hc => not_isBlank_of_isKeyChar (isKeyChar_head?_key a _ c hc)
  unfold WrittenAssignment.exportChars
  cases a.exported with
  | none =>
    obtain ⟨s, after, hs⟩ := unexported?_written a text a.lead.1
    have hrun := run_append (isBlank_of_mem a.lead) hkey
    exact ⟨a.lead.1, s, after, by simp [opening?, hrun, exported?_eq_none hs, hs]⟩
  | some spaces =>
    obtain ⟨s, after, hs⟩ := unexported?_written a text (a.lead.1 ++ exportWord ++ spaces.1.1)
    have hrun := run_append (isBlank_of_mem spaces.1) hkey
    have hexport : ∀ c ∈ (exportWord ++ (spaces.1.1 ++ (a.key.1 ++ (a.separator.chars ++
        text)))).head?, isBlank c = false := by
      simpa [exportWord_append] using (by decide : isBlank 'e' = false)
    have hlead := run_append (isBlank_of_mem a.lead) hexport
    refine ⟨a.lead.1 ++ exportWord ++ spaces.1.1, s, after, ?_⟩
    simp only [opening?, List.append_assoc, hlead, exported?, List.prefix_append, if_true,
      List.drop_left, hrun, spaces.2, if_false]
    rw [← List.append_assoc, hs]
    rfl

/-- An assignment is read as it is meant. -/
theorem readFrom_assignment {tail : List Char} (h : Follows tail) :
    readFrom (a.chars ++ tail) = ⟨[a.pair], []⟩ ++ readFrom tail := by
  obtain ⟨lead, s, after, hopening⟩ := opening?_written a
    (a.value.chars ++ (a.trail.1 ++ (commentChars a.comment ++ tail)))
  obtain ⟨hvalue, hread⟩ := value_written h after a.trail a.comment a.value
  have hchars : a.chars ++ tail = a.lead.1 ++ (a.exportChars ++ (a.key.1 ++ (a.separator.chars ++
      (a.value.chars ++ (a.trail.1 ++ (commentChars a.comment ++ tail)))))) := by
    simp [WrittenAssignment.chars]
  rw [hchars, readFrom_of_some (by rw [statement?, hopening]; rfl), ofStatement, Statement.pair]
  simp only [Opening.statement, hvalue, hread]
  rfl

/-! ## Lines -/

theorem not_isQuote_of_isKeyChar {c : Char} (h : isKeyChar c) : isQuote c = false := by
  cases hc : isQuote c with
  | false => rfl
  | true =>
    simp only [isQuote, Bool.or_eq_true, decide_eq_true_eq] at hc
    rcases hc with (rfl | rfl) | rfl <;> exact absurd h (by decide)

/-- What stands behind the first of several lines. -/
def tailChars : List Line → List Char
  | [] => []
  | line :: lines => '\n' :: linesChars (line :: lines)

theorem linesChars_cons (line : Line) (lines : List Line) :
    linesChars (line :: lines) = line.chars ++ tailChars lines := by
  cases lines with
  | nil => simp [linesChars, joinOnChar, tailChars]
  | cons next lines => rfl

/-- No line starts with a quote. -/
theorem head?_linesChars (lines : List Line) :
    ∀ c ∈ ((linesChars lines).dropWhile isBlank).head?, isQuote c = false := by
  induction lines with
  | nil => simp [linesChars, joinOnChar]
  | cons line lines ih =>
    rw [linesChars_cons]
    cases line with
    | blank spaces =>
      rw [Line.chars, List.dropWhile_append_of_pos (isBlank_of_mem spaces)]
      cases lines with
      | nil => simp [tailChars]
      | cons next lines => rwa [tailChars, List.dropWhile_cons_of_pos (by decide)]
    | comment lead text =>
      rw [Line.chars, List.append_assoc, List.dropWhile_append_of_pos (isBlank_of_mem lead),
        List.cons_append, List.dropWhile_cons_of_neg (by decide)]
      simpa using (by decide : isQuote '#' = false)
    | assignment a =>
      have hkey : ∀ text, ∀ c ∈ (a.exportChars ++ (a.key.1 ++ text)).head?, isKeyChar c := by
        intro text
        unfold WrittenAssignment.exportChars
        cases a.exported with
        | none => exact isKeyChar_head?_key a text
        | some spaces => simpa [exportWord_append] using (by decide : isKeyChar 'e')
      rw [Line.chars, WrittenAssignment.chars]
      simp only [List.append_assoc]
      have hrun := fun text => run_append (isBlank_of_mem a.lead)
        fun c hc => not_isBlank_of_isKeyChar (hkey text c hc)
      rw [(hrun _).2]
      exact fun c hc => not_isQuote_of_isKeyChar (hkey _ c hc)

theorem follows_tailChars (lines : List Line) : Follows (tailChars lines) := by
  cases lines with
  | nil => exact .inl rfl
  | cons line lines => exact .inr ⟨_, rfl, head?_linesChars _⟩

/-- The line end before further lines changes nothing in what is read. -/
theorem readFrom_tailChars (lines : List Line) :
    readFrom (tailChars lines) = readFrom (linesChars lines) := by
  cases lines with
  | nil => rfl
  | cons line lines => exact readFrom_cons_of_isBlank (by decide) _

/-- A text of lines is read as it is meant. -/
theorem readFrom_linesChars (lines : List Line) :
    readFrom (linesChars lines) = ⟨lines.filterMap Line.pair?, []⟩ := by
  induction lines with
  | nil => exact readFrom_nil
  | cons line lines ih =>
    have hfollows := follows_tailChars lines
    have htail := (readFrom_tailChars lines).trans ih
    rw [linesChars_cons]
    cases line with
    | blank spaces =>
      rw [Line.chars, readFrom_append_of_isBlank (isBlank_of_mem spaces), htail]
      rfl
    | comment lead text =>
      have hcomment := readFrom_trail hfollows lead (some text)
      rw [Line.chars, List.append_assoc]
      exact hcomment.trans htail
    | assignment a =>
      rw [Line.chars, readFrom_assignment a hfollows, htail]
      rfl

theorem cr_not_mem_spaces (spaces : Spaces) : '\r' ∉ spaces.1 := fun h => by
  rcases spaces.2 _ h with h | h <;> exact absurd h (by decide)

theorem cr_not_mem_comment (comment : Option LineText) : '\r' ∉ commentChars comment := by
  cases comment with
  | none => simp [commentChars]
  | some text => simpa [commentChars] using text.2.1

theorem cr_not_mem_value (w : WrittenValue) : '\r' ∉ w.chars := by
  cases w with
  | bare text hchars hhead hlast => exact fun h => (hchars _ h).2.1 rfl
  | quoted quote hquote text hfree hcr hlast =>
    have hne : '\r' ≠ quote := by
      rintro rfl
      exact absurd hquote (by decide)
    simp [WrittenValue.chars, hcr, hne]

theorem cr_not_mem_assignment (a : WrittenAssignment) : '\r' ∉ a.chars := by
  have hkey : '\r' ∉ a.key.1 := fun h => absurd (a.key.2.2 _ h) (by decide)
  have hword : '\r' ∉ exportWord := by decide
  have hexport : '\r' ∉ a.exportChars := by
    unfold WrittenAssignment.exportChars
    cases a.exported with
    | none => simp
    | some spaces => simp [hword, cr_not_mem_spaces spaces.1]
  have hseparator : '\r' ∉ a.separator.chars := by
    cases a.separator with
    | equal before after =>
      simpa [WrittenSeparator.chars] using ⟨cr_not_mem_spaces before, cr_not_mem_spaces after⟩
    | colon after hne => simpa [WrittenSeparator.chars] using cr_not_mem_spaces after
  simp [WrittenAssignment.chars, hkey, hexport, hseparator, cr_not_mem_spaces, cr_not_mem_comment,
    cr_not_mem_value]

/-- No carriage return stands in lines that were written. -/
theorem cr_not_mem_linesChars (lines : List Line) : '\r' ∉ linesChars lines := by
  induction lines with
  | nil => simp [linesChars, joinOnChar]
  | cons line lines ih =>
    have hline : '\r' ∉ line.chars := by
      cases line with
      | blank spaces => exact cr_not_mem_spaces spaces
      | comment lead text => simp [Line.chars, cr_not_mem_spaces, text.2.1]
      | assignment a => exact cr_not_mem_assignment a
    have htail : '\r' ∉ tailChars lines := by
      cases lines with
      | nil => simp [tailChars]
      | cons next lines => simpa [tailChars] using ih
    simp [linesChars_cons, hline, htail]

/-- A text that is written as it is meant to be, however its lines end, declares exactly the names
that are assigned in it, each with the value of its last assignment, and no line is skipped. -/
theorem readDotenv_written (e : LineEnd) (lines : List Line) :
    ∃ vars : Variables,
      Source.readDotenv (.ofList (e.write (linesChars lines))) = ⟨[], .ok vars⟩ ∧
        ∀ name : String, vars[name]? = (lines.filterMap Line.pair?).reverse.lookup name := by
  refine ⟨.ofPairs (lines.filterMap Line.pair?), ?_, Variables.getElem?_ofPairs _⟩
  rw [Source.readDotenv, read_eq_readFrom, String.toList_ofList,
    unifyLineEnds_write e (cr_not_mem_linesChars lines), readFrom_linesChars]
  rfl

/-- An assignment behind `export`, with a comment behind its value, as it is written. -/
example : linesChars [.comment ⟨[], by simp⟩ ⟨" a".toList, by decide⟩, .assignment {
      lead := ⟨[' '], by simp⟩
      exported := some ⟨⟨[' '], by simp⟩, by decide⟩
      key := ⟨"KEY".toList, by decide, forall_mem_of_all (by decide)⟩
      separator := .equal ⟨[' '], by simp⟩ ⟨[], by simp⟩
      value := .quoted '"' (by decide) "a#\nb".toList (by decide) (by decide) (by decide)
      trail := ⟨['\t'], by simp⟩
      comment := some ⟨" b".toList, by decide⟩ }] =
    "# a\n export KEY =\"a#\nb\"\t# b".toList := by
  decide

end EnvAudit.Dotenv
