import EnvAudit.Declarations.Source
import EnvAudit.Proofs.Dotenv.Append
import EnvAudit.Proofs.Dotenv.ReadFrom
import EnvAudit.Proofs.Variables

/-!
# EnvAudit.Proofs.Dotenv.EachLine

Reading a text of assignments as a whole against reading each of its lines alone, for texts without
quotes:

1. a line that is an assignment by itself is that assignment in the text as well, and reading goes
   on with the next line;
2. a line that is none stays none, unless it leaves open what the lines behind it complete; such a
   line *dangles*.

Main statement: a text without quotes is read line by line if and only if none of its lines dangles
(`readDotenv_eq_readEachLine_iff`).
-/

namespace EnvAudit.Dotenv

/-! ## Lines of their own -/

/-- What the lines of a text give, each read alone. -/
def eachLine (text : List Char) : Dotenv :=
  (splitLines text).foldr (fun line d => readFrom line ++ d) ⟨[], []⟩

theorem foldr_readFrom_append (lines lines' : List (List Char)) :
    (lines ++ lines').foldr (fun line d => readFrom line ++ d) ⟨[], []⟩ =
      lines.foldr (fun line d => readFrom line ++ d) ⟨[], []⟩ ++
        lines'.foldr (fun line d => readFrom line ++ d) (⟨[], []⟩ : Dotenv) := by
  induction lines with
  | nil => rfl
  | cons line lines ih => rw [List.cons_append, List.foldr_cons, List.foldr_cons, ih, append_assoc]

/-- The first line is read for itself, and then the others. -/
theorem eachLine_append (line text : List Char) :
    eachLine (line ++ '\n' :: text) = eachLine line ++ eachLine text := by
  rw [eachLine, splitLines_append, foldr_readFrom_append]
  rfl

/-- A single line is read as it is. -/
theorem eachLine_of_not_mem {line : List Char} (h : '\n' ∉ line) :
    eachLine line = readFrom line := by
  rw [eachLine, splitLines, splitOnChar_of_not_mem h]
  exact append_nothing _

/-! ## Dangling lines -/

/-- Whether a line leaves something open that the lines behind it complete. -/
def Dangles (text : List Char) : Prop :=
  ∃ before line more, splitLines text = before ++ line :: more ∧ more ≠ [] ∧
    LeavesOpen line (joinOnChar '\n' more)

/-- A single line leaves nothing dangling. -/
theorem not_dangles_of_not_mem {line : List Char} (h : '\n' ∉ line) : ¬ Dangles line := by
  rintro ⟨before, line', more, hsplit, hmore, -⟩
  rw [splitLines, splitOnChar_of_not_mem h] at hsplit
  cases before with
  | nil => exact hmore (List.cons.inj hsplit).2.symm
  | cons x before => simp at hsplit

/-- A text dangles where its first line is left open or where what follows dangles. -/
theorem dangles_cons {line : List Char} (h : '\n' ∉ line) (text : List Char) :
    Dangles (line ++ '\n' :: text) ↔ LeavesOpen line text ∨ Dangles text := by
  have hlines : splitLines (line ++ '\n' :: text) = line :: splitLines text := by
    rw [splitLines_append, splitLines, splitOnChar_of_not_mem h]
    rfl
  constructor
  · rintro ⟨before, line', more, hsplit, hmore, hopen⟩
    rw [hlines] at hsplit
    cases before with
    | nil =>
      obtain ⟨rfl, rfl⟩ := List.cons.inj hsplit
      rw [joinOnChar_splitLines] at hopen
      exact .inl hopen
    | cons x before => exact .inr ⟨before, line', more, (List.cons.inj hsplit).2, hmore, hopen⟩
  · rintro (hopen | ⟨before, line', more, hsplit, hmore, hopen⟩)
    · refine ⟨[], line, splitLines text, hlines, splitOnChar_ne_nil _ _, ?_⟩
      rwa [joinOnChar_splitLines]
    · exact ⟨line :: before, line', more, by rw [hlines, hsplit]; rfl, hmore, hopen⟩

/-! ## Values without quotes -/

/-- What stands behind a value without quotes in its line makes no difference. -/
theorem readFrom_dropWhile_isBare {line : List Char} (hline : '\n' ∉ line) (hcr : '\r' ∉ line)
    (more : List Char) : readFrom (line.dropWhile isBare ++ '\n' :: more) = readFrom more := by
  have hend : readFrom ('\n' :: more) = readFrom more := readFrom_cons_of_isBlank (by decide) more
  cases h : line.dropWhile isBare with
  | nil => exact hend
  | cons c rest =>
    have hmem : ∀ x ∈ c :: rest, x ∈ line := fun x hx =>
      (List.dropWhile_sublist isBare).subset (h ▸ hx)
    have hnl : c ≠ '\n' := fun hc => hline (hmem '\n' (by simp [hc]))
    have hncr : c ≠ '\r' := fun hc => hcr (hmem '\r' (by simp [hc]))
    obtain rfl : c = '#' := by
      have hc : isBare c = false := head_dropWhile h
      simpa [isBare, hnl, hncr] using hc
    have hrest : '\n' ∉ rest := fun hx => hline (hmem '\n' (by simp [hx]))
    rw [List.cons_append, readFrom_hash, afterLine_append hrest, hend]

/-! ## Assignments in their lines -/

section

variable {line : List Char} (hline : '\n' ∉ line) {s : Statement}
include hline

/-- A line that is an assignment gives nothing else. -/
theorem readFrom_line_of_some (hcr : '\r' ∉ line) (h : statement? line = some s) :
    readFrom line = ofStatement s := by
  have hstarts := starts_of_statement? h
  have hrest : s.value.rest = [] := by
    rcases hstarts.rest_eq hcr with hrest | ⟨rest, hrest⟩
    · exact hrest
    · exact absurd (by rw [← hstarts.append, hrest]; simp) hline
  rw [readFrom_of_some h, hrest, readFrom_nil, append_nothing]

/-- A line that is an assignment by itself is one in a text as well. -/
theorem readFrom_append_of_some {more : List Char} (hcr : '\r' ∉ line ++ '\n' :: more)
    (hquote : ∀ c ∈ line ++ '\n' :: more, isQuote c = false) (h : statement? line = some s) :
    readFrom (line ++ '\n' :: more) = ofStatement s ++ readFrom more := by
  obtain ⟨o, ho, rfl⟩ := Option.map_eq_some_iff.1 h
  have hmem : ∀ c ∈ o.rest, c ∈ line := fun c hc => by
    rw [← (starts_of_opening? ho).append]
    exact List.mem_append_right _ hc
  have hmem' : ∀ c ∈ o.rest ++ '\n' :: more, c ∈ line ++ '\n' :: more := fun c hc => by
    rcases List.mem_append.1 hc with hc | hc
    · exact List.mem_append_left _ (hmem c hc)
    · exact List.mem_append_right _ hc
  have hvalue : value o.rest = bareValue o.rest :=
    value_eq_bareValue fun c hc => hquote c (List.mem_append_left _ (hmem c hc))
  have hvalue' : value (o.rest ++ '\n' :: more) = bareValue (o.rest ++ '\n' :: more) :=
    value_eq_bareValue fun c hc => hquote c (hmem' c hc)
  have hbare : isBare '\n' = false := by decide
  obtain ⟨e, he⟩ := ending?_dropWhile_isBare fun hc => hcr (hmem' _ hc)
  have hrest : readFrom e.2 = readFrom more := by
    rw [← readFrom_of_ending? he, dropWhile_append_cons hbare]
    exact readFrom_dropWhile_isBare (fun hc => hline (hmem _ hc))
      (fun hc => hcr (List.mem_append_left _ (hmem _ hc))) more
  rw [readFrom_of_some (by rw [statement?, opening?_append ho]; rfl)]
  simp only [Opening.statement, ofStatement, Statement.pair, hvalue, hvalue', bareValue, he,
    takeWhile_append_cons hbare, Option.getD_some, hrest]

end

/-! ## The whole text -/

theorem length_skipped_append (a b : Dotenv) :
    (a ++ b).skipped.length = a.skipped.length + b.skipped.length := by
  simp

/-- A text that leaves a statement open starts with a key. -/
theorem body_of_leavesOpen {text more : List Char} (h : LeavesOpen text more) :
    ∃ c rest, text.dropWhile isBlank = c :: rest ∧ isKeyChar c := by
  have hexport : ∀ behind, ∃ c rest, exportWord ++ behind = c :: rest ∧ isKeyChar c := fun behind =>
    ⟨_, _, exportWord_append behind, by decide⟩
  have hstart : ∀ start ∈ keyStarts text, start.takeWhile isKeyChar ≠ [] →
      ∃ c rest, text.dropWhile isBlank = c :: rest ∧ isKeyChar c := by
    intro start hmem hkey
    rcases keyStarts_cases text with hstarts | ⟨c, behind, -, hbody, -⟩
    · obtain rfl : start = text.dropWhile isBlank := by simpa [hstarts] using hmem
      cases hbody : text.dropWhile isBlank with
      | nil => simp [hbody] at hkey
      | cons c rest =>
        refine ⟨c, rest, rfl, ?_⟩
        by_contra hc
        simp [hbody, hc] at hkey
    · rw [hbody]
      exact hexport _
  cases h with
  | colon start hmem hkey hcolon => exact hstart _ hmem hkey
  | equal start hmem hkey hblanks hequal => exact hstart _ hmem hkey
  | key hword hmore =>
    obtain ⟨blanks, hbody, -⟩ := hword
    rw [hbody]
    exact hexport blanks

/-- A line that leaves something open is not blank and no comment. -/
theorem length_ofStray_of_leavesOpen {line more : List Char} (hline : '\n' ∉ line)
    (h : LeavesOpen line more) : (ofStray line).skipped.length = 1 := by
  obtain ⟨c, rest, hbody, hc⟩ := body_of_leavesOpen h
  have hne : c ≠ '#' := by
    rintro rfl
    exact absurd hc (by decide)
  have hhead := head?_trim hbody
  have hempty : trim line ≠ [] := by
    intro hnil
    simp [hnil] at hhead
  simp [ofStray, strayLines_of_not_mem hline, hhead, hne, hempty]

/-- What is read behind a statement that goes on over several lines was not skipped before. -/
theorem length_eachLine_rest {line more : List Char} (hline : '\n' ∉ line) {s : Statement}
    (hcr : '\r' ∉ line ++ '\n' :: more) (h : statement? (line ++ '\n' :: more) = some s) :
    (eachLine s.value.rest).skipped.length ≤ (eachLine more).skipped.length := by
  have hstarts := starts_of_statement? h
  rcases hstarts.rest_eq hcr with hrest | ⟨rest, hrest⟩
  · rw [hrest, eachLine_of_not_mem (by simp), readFrom_nil]
    simp
  · have happend := hstarts.append
    rw [hrest] at happend ⊢
    have hnothing : eachLine [] = ⟨[], []⟩ := by
      rw [eachLine_of_not_mem (by simp), readFrom_nil]
    rw [show '\n' :: rest = [] ++ '\n' :: rest from rfl, eachLine_append, hnothing, nothing_append]
    rcases List.append_eq_append_iff.1 happend with ⟨xs, htext, hrest'⟩ | ⟨xs, htext, hrest'⟩
    · cases xs with
      | nil =>
        obtain rfl : rest = more := (List.cons.inj hrest').2
        exact Nat.le_refl _
      | cons x xs =>
        obtain rfl : x = '\n' := (List.cons.inj hrest').1.symm
        exact absurd (by rw [htext]; simp) hline
    · cases xs with
      | nil =>
        obtain rfl : more = rest := (List.cons.inj hrest').2
        exact Nat.le_refl _
      | cons x xs =>
        have hmore : more = xs ++ '\n' :: rest := (List.cons.inj hrest').2
        rw [hmore, eachLine_append, length_skipped_append]
        exact Nat.le_add_left _ _

/-- What a whole text gives, compared with what its lines give: the same if nothing dangles, and
else fewer skipped lines. -/
structure Compared (dangles : Prop) (whole lines : Dotenv) : Prop where
  eq : ¬ dangles → whole = lines
  le : whole.skipped.length ≤ lines.skipped.length
  lt : dangles → whole.skipped.length < lines.skipped.length

namespace Compared

variable {dangles dangles' : Prop} {whole lines : Dotenv}

theorem refl (h : ¬ dangles) (d : Dotenv) : Compared dangles d d :=
  ⟨fun _ => rfl, Nat.le_refl _, fun h' => absurd h' h⟩

theorem append_left (h : Compared dangles whole lines) (d : Dotenv) :
    Compared dangles (d ++ whole) (d ++ lines) := by
  refine ⟨fun hd => by rw [h.eq hd], ?_, fun hd => ?_⟩
  · simpa using h.le
  · simpa using h.lt hd

/-- A line that does not dangle changes nothing in a comparison. -/
theorem or_of_not (h : Compared dangles whole lines) (hnot : ¬ dangles') :
    Compared (dangles' ∨ dangles) whole lines :=
  ⟨fun hd => h.eq fun hd' => hd (.inr hd'), h.le, fun hd => h.lt (hd.resolve_left hnot)⟩

/-- Where something dangles the whole text may skip fewer lines. -/
theorem of_lt (h : whole.skipped.length < lines.skipped.length) (hd : dangles) :
    Compared dangles whole lines :=
  ⟨fun hnot => absurd hd hnot, Nat.le_of_lt h, fun _ => h⟩

end Compared

/-- A line that is no assignment is none in a text either, if it leaves nothing open. -/
theorem readFrom_append_of_none {line more : List Char} (hline : '\n' ∉ line)
    (h : statement? line = none) (hopen : ¬ LeavesOpen line more) :
    readFrom (line ++ '\n' :: more) = ofStray line ++ readFrom more := by
  by_cases hbody : line.dropWhile isBlank = []
  · have hblank := List.dropWhile_eq_nil_iff.1 hbody
    rw [readFrom_append_line_of_isBlank hblank, ← readFrom_line_of_none hline h,
      readFrom_of_isBlank hblank, nothing_append]
  · exact readFrom_lines_of_none hline (statement?_append_line_eq_none hbody h hopen)

/-- A line that leaves something open is skipped when it is read alone only. -/
theorem length_skipped_of_leavesOpen {line more : List Char} (hline : '\n' ∉ line)
    (hcr : '\r' ∉ line ++ '\n' :: more) (hopen : LeavesOpen line more)
    (hrest : ∀ s, statement? (line ++ '\n' :: more) = some s →
      (readFrom s.value.rest).skipped.length ≤ (eachLine s.value.rest).skipped.length) :
    (readFrom (line ++ '\n' :: more)).skipped.length <
      (ofStray line ++ eachLine more).skipped.length := by
  obtain ⟨o, ho⟩ := Option.isSome_iff_exists.1 hopen.isSome_opening?
  have hs : statement? (line ++ '\n' :: more) = some o.statement := by
    rw [statement?, ho]
    rfl
  have hle := hrest _ hs
  have hle' := length_eachLine_rest hline hcr hs
  have hone := length_ofStray_of_leavesOpen hline hopen
  rw [readFrom_of_some hs, length_skipped_append, length_skipped_append, hone, ofStatement,
    List.length_nil]
  omega

/-- A text is read line by line if no line dangles; else fewer lines are skipped. -/
theorem compared_eachLine {text : List Char} (hcr : '\r' ∉ text)
    (hquote : ∀ c ∈ text, isQuote c = false) :
    Compared (Dangles text) (readFrom text) (eachLine text) := by
  induction hn : text.length using Nat.strongRecOn generalizing text with
  | ind n ih =>
    -- Reading goes on with shorter texts: the lines behind the first one, or what a statement
    -- that goes on over several lines leaves.
    have hshorter : ∀ rest : List Char, rest <:+ text → rest.length < text.length →
        Compared (Dangles rest) (readFrom rest) (eachLine rest) := fun rest hsuffix hlt =>
      ih _ (hn ▸ hlt) (fun h => hcr (hsuffix.subset h)) (fun c hc => hquote c (hsuffix.subset hc))
        rfl
    rcases eq_line_or text with hline | ⟨line, more, hline, rfl⟩
    · rw [eachLine_of_not_mem hline]
      exact .refl (not_dangles_of_not_mem hline) _
    · have hmore : Compared (Dangles more) (readFrom more) (eachLine more) :=
        hshorter more ⟨line ++ ['\n'], by simp⟩ (by simp; omega)
      rw [dangles_cons hline, eachLine_append, eachLine_of_not_mem hline]
      cases hs : statement? line with
      | some s =>
        have hopen : ¬ LeavesOpen line more := fun h => by
          simp [statement?, opening?_eq_none_of_leavesOpen h] at hs
        have hcr' : '\r' ∉ line := fun h => hcr (List.mem_append_left _ h)
        rw [readFrom_append_of_some hline hcr hquote hs, readFrom_line_of_some hline hcr' hs]
        exact (hmore.append_left _).or_of_not hopen
      | none =>
        rw [readFrom_line_of_none hline hs]
        by_cases hopen : LeavesOpen line more
        · refine .of_lt (length_skipped_of_leavesOpen hline hcr hopen fun s hs' => ?_) (.inl hopen)
          have hstarts := starts_of_statement? hs'
          exact (hshorter _ ⟨s.text, hstarts.append⟩ hstarts.length_lt).le
        · rw [readFrom_append_of_none hline hs hopen]
          exact (hmore.append_left _).or_of_not hopen

/-! ## Declared variables -/

/-- A file gives the warnings and the assignments of its text. -/
theorem readDotenv_eq (text : String) : Source.readDotenv text =
    ⟨(readFrom (unifyLineEnds text.toList)).skipped.map .skippedLine,
      .ok (.ofPairs (readFrom (unifyLineEnds text.toList)).assignments)⟩ := by
  rw [Source.readDotenv, read_eq_readFrom]

/-- Read a line alone and put what it declares over the variables of the lines before it. -/
def readOver (vars : Variables) (line : List Char) : Loading Variables := do
  let new ← Source.readDotenv (.ofList line)
  return new.putOver vars

/-- Read each line of a text alone, in order. -/
def readEachLine (text : String) : Loading Variables :=
  (splitLines (unifyLineEnds text.toList)).foldlM readOver ∅

/-- One line puts its assignments over those before it. -/
theorem readOver_eq {line : List Char} (h : '\r' ∉ line) (vars : Variables) :
    readOver vars line = ⟨(readFrom line).skipped.map .skippedLine,
      .ok ((Variables.ofPairs (readFrom line).assignments).putOver vars)⟩ := by
  rw [readOver, readDotenv_eq, String.toList_ofList, unifyLineEnds_of_not_mem h]
  simp [Traced.bind_def, Traced.bind]

/-- Line by line the assignments are put over each other and the warnings are told in order. -/
theorem foldlM_readOver {lines : List (List Char)} (hlines : ∀ line ∈ lines, '\r' ∉ line)
    (vars : Variables) :
    let d := lines.foldr (fun line d => readFrom line ++ d) (⟨[], []⟩ : Dotenv)
    ∃ vars' : Variables,
      lines.foldlM readOver vars = ⟨d.skipped.map .skippedLine, .ok vars'⟩ ∧
        ∀ name : String, vars'[name]? = (d.assignments.reverse.lookup name).or vars[name]? := by
  induction lines generalizing vars with
  | nil => exact ⟨vars, rfl, fun _ => rfl⟩
  | cons line lines ih =>
    simp only [List.mem_cons, forall_eq_or_imp] at hlines
    obtain ⟨vars', hfold, hvars⟩ := ih hlines.2
      ((Variables.ofPairs (readFrom line).assignments).putOver vars)
    refine ⟨vars', ?_, fun name => ?_⟩
    · rw [List.foldlM_cons, readOver_eq hlines.1, Traced.bind_def, Traced.bind]
      simp only [hfold, List.foldr_cons, skipped_append, List.map_append]
    · rw [hvars, Variables.getElem?_putOver, Variables.getElem?_ofPairs, List.foldr_cons,
        assignments_append, List.reverse_append, List.lookup_append, Option.or_assoc]

/-- What the lines of a text declare, each read alone. -/
theorem readEachLine_eq (text : String) :
    ∃ vars : Variables, readEachLine text =
      ⟨(eachLine (unifyLineEnds text.toList)).skipped.map .skippedLine, .ok vars⟩ ∧
      ∀ name : String, vars[name]? =
        (eachLine (unifyLineEnds text.toList)).assignments.reverse.lookup name := by
  have hlines : ∀ line ∈ splitLines (unifyLineEnds text.toList), '\r' ∉ line := fun line hmem hcr =>
    not_mem_unifyLineEnds text.toList (by
      rw [← joinOnChar_splitLines (unifyLineEnds text.toList)]
      exact mem_joinOnChar hcr hmem)
  obtain ⟨vars, hfold, hvars⟩ := foldlM_readOver hlines ∅
  exact ⟨vars, hfold, fun name => by simp [hvars, eachLine]⟩

theorem map_mk {ω ε α β : Type} (f : α → β) (notes : List ω) (a : α) :
    f <$> (⟨notes, .ok a⟩ : Traced ω ε α) = ⟨notes, .ok (f a)⟩ := by
  simp [Functor.map, Traced.bind]

/-- A text without quotes is read line by line if and only if none of its lines dangles: a line that
leaves something open which the lines behind it complete. -/
theorem readDotenv_eq_readEachLine_iff (text : String) (h : ∀ c ∈ text.toList, isQuote c = false) :
    Std.TreeMap.toList <$> Source.readDotenv text = Std.TreeMap.toList <$> readEachLine text ↔
      ¬ Dangles (unifyLineEnds text.toList) := by
  obtain ⟨vars, heach, hvars⟩ := readEachLine_eq text
  have hquote : ∀ c ∈ unifyLineEnds text.toList, isQuote c = false := fun c hc => by
    rcases mem_unifyLineEnds hc with hc | rfl
    · exact h c hc
    · decide
  have hcompared := compared_eachLine (not_mem_unifyLineEnds text.toList) hquote
  rw [readDotenv_eq, heach, map_mk, map_mk]
  constructor
  · intro heq hdangles
    have hnotes := congrArg (fun x => x.notes.length) heq
    simp only [List.length_map] at hnotes
    exact absurd hnotes (Nat.ne_of_lt (hcompared.lt hdangles))
  · intro hdangles
    rw [hcompared.eq hdangles]
    congr 2
    refine Variables.toList_eq_of_getElem? fun name => ?_
    rw [hvars, Variables.getElem?_ofPairs]

/-- A key without a value is taken together with the next line, and neither is reported. -/
theorem justakey_read_with_next_line :
    (∀ c ∈ "JUSTAKEY\n=novalue".toList, isQuote c = false) ∧
      Source.readDotenv "JUSTAKEY\n=novalue" = ⟨[], .ok (.ofPairs [("JUSTAKEY", "novalue")])⟩ ∧
      Std.TreeMap.toList <$> Source.readDotenv "JUSTAKEY\n=novalue" ≠
        Std.TreeMap.toList <$> readEachLine "JUSTAKEY\n=novalue" := by
  have hquote : ∀ c ∈ "JUSTAKEY\n=novalue".toList, isQuote c = false :=
    forall_mem_of_all (by decide)
  have hstatement : statement? "JUSTAKEY\n=novalue".toList =
      some ⟨[], "JUSTAKEY".toList, "\n=".toList, ⟨"novalue".toList, [], []⟩⟩ := by decide
  have hdangles : Dangles (unifyLineEnds "JUSTAKEY\n=novalue".toList) :=
    ⟨[], "JUSTAKEY".toList, ["=novalue".toList], by decide, by decide,
      .equal "JUSTAKEY".toList (by decide) (by decide) (forall_mem_of_all (by decide)) (by decide)⟩
  refine ⟨hquote, ?_, fun heq => (readDotenv_eq_readEachLine_iff _ hquote).1 heq hdangles⟩
  rw [readDotenv_eq, unifyLineEnds_of_not_mem (by decide), readFrom_of_some hstatement,
    readFrom_nil, append_nothing]
  have hpair : ofStatement ⟨[], "JUSTAKEY".toList, "\n=".toList, ⟨"novalue".toList, [], []⟩⟩ =
      ⟨[("JUSTAKEY", "novalue")], []⟩ := by decide
  rw [hpair]
  rfl

end EnvAudit.Dotenv
