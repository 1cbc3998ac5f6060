import EnvAudit.Proofs.Dotenv.Preferred
import EnvAudit.Proofs.Pattern.Sightings
import EnvAudit.Proofs.Text.Lines
import Mathlib.Data.List.TakeWhile

/-!
# EnvAudit.Proofs.Dotenv.ReadFrom

Reading a text of assignments from one line to the next:

1. if a statement starts the line, it is taken, and reading goes on behind it;
2. else the line is skipped, and reading goes on behind its end.

White space that starts a line, comments, and what ends a statement make no difference to what is
read. Main statement: this is how a text is read (`read_eq_readFrom`).
-/

namespace EnvAudit.Dotenv

/-! ## Lines -/

/-- The first line of a text. -/
def firstLine (text : List Char) : List Char := text.takeWhile (· != '\n')

/-- What follows the first line of a text, with the line end. -/
def afterLine (text : List Char) : List Char := text.dropWhile (· != '\n')

theorem firstLine_append_afterLine (text : List Char) : firstLine text ++ afterLine text = text :=
  List.takeWhile_append_dropWhile

theorem not_mem_firstLine (text : List Char) : '\n' ∉ firstLine text := by
  intro h
  simpa using List.mem_takeWhile_imp h

/-- Behind the first line the text is over, or a line end stands there. -/
theorem afterLine_eq_nil_or (text : List Char) :
    afterLine text = [] ∨ ∃ rest, afterLine text = '\n' :: rest := by
  cases h : afterLine text with
  | nil => exact .inl rfl
  | cons c rest =>
    obtain rfl : c = '\n' := by simpa using head_dropWhile h
    exact .inr ⟨rest, rfl⟩

theorem firstLine_cons {c : Char} (hc : c ≠ '\n') (text : List Char) :
    firstLine (c :: text) = c :: firstLine text := by
  simp [firstLine, hc]

theorem afterLine_cons {c : Char} (hc : c ≠ '\n') (text : List Char) :
    afterLine (c :: text) = afterLine text := by
  simp [afterLine, hc]

section

variable {line : List Char} (h : '\n' ∉ line)
include h

theorem bne_lineEnd : ∀ c ∈ line, (c != '\n') = true := by
  intro c hc
  rw [bne_iff_ne]
  rintro rfl
  exact h hc

theorem afterLine_of_not_mem : afterLine line = [] :=
  List.dropWhile_eq_nil_iff.2 (bne_lineEnd h)

theorem firstLine_append (more : List Char) : firstLine (line ++ '\n' :: more) = line := by
  rw [firstLine, List.takeWhile_append_of_pos (bne_lineEnd h)]
  simp

theorem afterLine_append (more : List Char) :
    afterLine (line ++ '\n' :: more) = '\n' :: more := by
  rw [afterLine, List.dropWhile_append_of_pos (bne_lineEnd h)]
  simp

end

/-- A text is one line, or a line with others behind it. -/
theorem eq_line_or (text : List Char) :
    '\n' ∉ text ∨ ∃ line more, '\n' ∉ line ∧ text = line ++ '\n' :: more := by
  have hsplit := firstLine_append_afterLine text
  have hline := not_mem_firstLine text
  rcases afterLine_eq_nil_or text with hafter | ⟨more, hafter⟩
  · rw [hafter, List.append_nil] at hsplit
    exact .inl (hsplit ▸ hline)
  · rw [hafter] at hsplit
    exact .inr ⟨_, more, hline, hsplit.symm⟩

/-- The stray lines of a text are those of its first line and those below. -/
theorem strayLines_append (line text : List Char) :
    strayLines (line ++ '\n' :: text) = strayLines line ++ strayLines text := by
  simp [strayLines, splitLines_append]

theorem strayLines_of_not_mem {line : List Char} (h : '\n' ∉ line) :
    strayLines line =
      if (trim line).isEmpty || (trim line).head? == some '#' then [] else [trim line] := by
  simp only [strayLines, splitLines, splitOnChar_of_not_mem h, List.map_cons, List.map_nil]
  by_cases h₁ : (trim line).isEmpty <;> by_cases h₂ : (trim line).head? = some '#' <;>
    simp [h₁, h₂]

@[simp] theorem strayLines_nil : strayLines [] = [] := by decide

/-- What is left of a text starts with its first character that is not white space. -/
theorem head?_trim {c : Char} {text rest : List Char} (h : text.dropWhile isBlank = c :: rest) :
    (trim text).head? = some c := by
  have hc : isBlank c = false := head_dropWhile h
  obtain ⟨ys, hys⟩ : ∃ ys, (c :: rest).reverse.dropWhile isBlank = ys ++ [c] := by
    rw [List.reverse_cons, List.dropWhile_append]
    split
    · exact ⟨[], by rw [List.dropWhile_cons_of_neg (by simp [hc]), List.nil_append]⟩
    · exact ⟨_, rfl⟩
  rw [trim, trimStart, h, trimEnd, hys]
  simp

/-! ## Joining -/

instance : Append Dotenv := ⟨fun a b => ⟨a.assignments ++ b.assignments, a.skipped ++ b.skipped⟩⟩

@[simp] theorem assignments_append (a b : Dotenv) :
    (a ++ b).assignments = a.assignments ++ b.assignments := rfl

@[simp] theorem skipped_append (a b : Dotenv) : (a ++ b).skipped = a.skipped ++ b.skipped := rfl

theorem nothing_append (d : Dotenv) : (⟨[], []⟩ : Dotenv) ++ d = d := rfl

theorem append_nothing (d : Dotenv) : d ++ (⟨[], []⟩ : Dotenv) = d := by
  obtain ⟨assignments, skipped⟩ := d
  change Dotenv.mk (assignments ++ []) (skipped ++ []) = _
  simp

theorem append_assoc (a b d : Dotenv) : a ++ b ++ d = a ++ (b ++ d) := by
  change Dotenv.mk _ _ = Dotenv.mk _ _
  simp

/-! ## Reading on -/

/-- The name and the value of a statement. -/
def Statement.pair (s : Statement) : String × String :=
  (.ofList s.key, .ofList (unquote s.value.raw))

/-- What a statement gives. -/
def ofStatement (s : Statement) : Dotenv := ⟨[s.pair], []⟩

/-- What a text without a statement gives. -/
def ofStray (text : List Char) : Dotenv := ⟨[], (strayLines text).map .ofList⟩

/-- Read a text from the start of a line on. -/
def readFrom (text : List Char) : Dotenv :=
  match _h : statement? text with
  | some s => ofStatement s ++ readFrom s.value.rest
  | none =>
    match _hrest : afterLine text with
    | [] => ofStray (firstLine text)
    | _ :: rest => ofStray (firstLine text) ++ readFrom rest
termination_by text.length
decreasing_by
  · exact (starts_of_statement? _h).length_lt
  · have hlength := congrArg List.length (firstLine_append_afterLine text)
    simp only [_hrest, List.length_append, List.length_cons] at hlength
    omega

/-- A statement is told, and the reading goes on behind its value. -/
theorem readFrom_of_some {text : List Char} {s : Statement} (h : statement? text = some s) :
    readFrom text = ofStatement s ++ readFrom s.value.rest := by
  rw [readFrom]
  split
  · next s' h' =>
    obtain rfl : s' = s := Option.some.inj (h'.symm.trans h)
    rfl
  · next h' => simp [h'] at h

/-- An opening makes a statement, and the reading goes on behind its value. -/
theorem readFrom_of_opening {text : List Char} {o : Opening} (h : opening? text = some o) :
    readFrom text = ofStatement o.statement ++ readFrom (value o.rest).rest :=
  readFrom_of_some (by rw [statement?, h]; rfl)

/-- A line that starts no statement is stray, and the reading goes on below it. -/
theorem readFrom_of_none {text rest : List Char} (h : statement? text = none)
    (hrest : afterLine text = '\n' :: rest) :
    readFrom text = ofStray (firstLine text) ++ readFrom rest := by
  rw [readFrom]
  split
  · next s' h' => simp [h'] at h
  · split
    · next h' => simp [h'] at hrest
    · next h' =>
      obtain ⟨-, rfl⟩ : _ ∧ _ = rest := List.cons.inj (h'.symm.trans hrest)
      rfl

/-- A last line that starts no statement is stray. -/
theorem readFrom_of_end {text : List Char} (h : statement? text = none)
    (hrest : afterLine text = []) : readFrom text = ofStray text := by
  have hline : firstLine text = text := by
    have := firstLine_append_afterLine text
    rwa [hrest, List.append_nil] at this
  rw [readFrom]
  split
  · next s' h' => simp [h'] at h
  · split
    · rw [hline]
    · next h' => simp [h'] at hrest

theorem readFrom_line_of_none {line : List Char} (hline : '\n' ∉ line)
    (h : statement? line = none) : readFrom line = ofStray line :=
  readFrom_of_end h (afterLine_of_not_mem hline)

/-- A first line that starts no statement is stray, and the lines below are read. -/
theorem readFrom_lines_of_none {line more : List Char} (hline : '\n' ∉ line)
    (h : statement? (line ++ '\n' :: more) = none) :
    readFrom (line ++ '\n' :: more) = ofStray line ++ readFrom more := by
  rw [readFrom_of_none h (afterLine_append hline more), firstLine_append hline]

/-! ## What makes no difference -/

/-- A blank in front is trimmed. -/
theorem trim_cons_of_isBlank {c : Char} (hc : isBlank c) (text : List Char) :
    trim (c :: text) = trim text := by
  simp [trim, trimStart, hc]

/-- A blank in front of a stray line is not told. -/
theorem ofStray_cons_of_isBlank {c : Char} (hc : isBlank c) {line : List Char} (h : '\n' ∉ line) :
    ofStray (c :: line) = ofStray line := by
  by_cases hnl : c = '\n'
  · subst hnl
    have := strayLines_append [] line
    simp only [List.nil_append, strayLines_nil] at this
    simp [ofStray, this]
  · have hmem : '\n' ∉ c :: line := by simp [Ne.symm hnl, h]
    simp [ofStray, strayLines_of_not_mem h, strayLines_of_not_mem hmem, trim_cons_of_isBlank hc]

/-- A blank in front joins the lead-in of an opening. -/
theorem opening?_cons_of_isBlank {c : Char} (hc : isBlank c) (text : List Char) :
    opening? (c :: text) = (opening? text).map fun o => { o with lead := c :: o.lead } := by
  simp only [opening?, List.takeWhile_cons_of_pos hc, List.dropWhile_cons_of_pos hc]
  rw [exported?_lead, unexported?_lead, exported?_lead (text.takeWhile _),
    unexported?_lead (text.takeWhile _), Option.map_or, Option.map_map, Option.map_map]
  simp [Function.comp_def]

/-- A blank in front joins the lead-in of a statement. -/
theorem statement?_cons_of_isBlank {c : Char} (hc : isBlank c) (text : List Char) :
    statement? (c :: text) = (statement? text).map fun s => { s with lead := c :: s.lead } := by
  rw [statement?, opening?_cons_of_isBlank hc, Option.map_map, statement?, Option.map_map]
  rfl

/-- White space that starts a line makes no difference. -/
theorem readFrom_cons_of_isBlank {c : Char} (hc : isBlank c) (text : List Char) :
    readFrom (c :: text) = readFrom text := by
  have hstatement := statement?_cons_of_isBlank hc text
  cases h : statement? text with
  | some s =>
    rw [h, Option.map_some] at hstatement
    rw [readFrom_of_some hstatement, readFrom_of_some h]
    rfl
  | none =>
    rw [h, Option.map_none] at hstatement
    by_cases hnl : c = '\n'
    · subst hnl
      have hfirst : firstLine ('\n' :: text) = [] := by simp [firstLine]
      have hafter : afterLine ('\n' :: text) = '\n' :: text := by simp [afterLine]
      rw [readFrom_of_none hstatement hafter, hfirst]
      rfl
    · have hafter := afterLine_cons hnl text
      have hfirst := firstLine_cons hnl text
      rcases afterLine_eq_nil_or text with hrest | ⟨rest, hrest⟩
      · have hline : firstLine text = text := by
          have := firstLine_append_afterLine text
          rwa [hrest, List.append_nil] at this
        rw [readFrom_of_end hstatement (hafter.trans hrest), readFrom_of_end h hrest,
          ofStray_cons_of_isBlank hc (hline ▸ not_mem_firstLine text)]
      · rw [readFrom_of_none hstatement (hafter.trans hrest), readFrom_of_none h hrest, hfirst,
          ofStray_cons_of_isBlank hc (not_mem_firstLine text)]

theorem readFrom_nil : readFrom [] = ⟨[], []⟩ :=
  readFrom_of_end (by decide) rfl

/-- Blanks in front change nothing in what is read. -/
theorem readFrom_append_of_isBlank {blanks : List Char} (h : ∀ c ∈ blanks, isBlank c)
    (text : List Char) : readFrom (blanks ++ text) = readFrom text := by
  induction blanks with
  | nil => rfl
  | cons c blanks ih =>
    rw [List.cons_append, readFrom_cons_of_isBlank (h c (by simp)),
      ih fun x hx => h x (by simp [hx])]

/-- Blanks alone read as nothing. -/
theorem readFrom_of_isBlank {blanks : List Char} (h : ∀ c ∈ blanks, isBlank c) :
    readFrom blanks = ⟨[], []⟩ := by
  rw [← List.append_nil blanks, readFrom_append_of_isBlank h, readFrom_nil]

/-- A blank line makes no difference. -/
theorem readFrom_append_line_of_isBlank {blanks : List Char} (h : ∀ c ∈ blanks, isBlank c)
    (more : List Char) : readFrom (blanks ++ '\n' :: more) = readFrom more := by
  rw [readFrom_append_of_isBlank h, readFrom_cons_of_isBlank (by decide)]

/-- A comment starts no statement. -/
theorem statement?_hash (text : List Char) : statement? ('#' :: text) = none := by
  have hdrop : ('#' :: text).dropWhile isBlank = '#' :: text :=
    List.dropWhile_cons_of_neg (by decide)
  have hkey : isKeyChar '#' = false := by decide
  have hword : ¬ exportWord <+: '#' :: text := by
    intro ⟨ys, hys⟩
    rw [exportWord_append] at hys
    exact absurd (List.cons.inj hys).1 (by decide)
  simp [statement?, opening?, hdrop, exported?, unexported?, hkey, hword]

/-- A comment makes no difference. -/
theorem readFrom_hash (text : List Char) : readFrom ('#' :: text) = readFrom (afterLine text) := by
  have hafter : afterLine ('#' :: text) = afterLine text := afterLine_cons (by decide) text
  have hfirst : firstLine ('#' :: text) = '#' :: firstLine text := firstLine_cons (by decide) text
  have htrim : ∀ line : List Char, (trim ('#' :: line)).head? = some '#' := fun line =>
    head?_trim (List.dropWhile_cons_of_neg (by decide))
  have hstray : ofStray (firstLine ('#' :: text)) = ⟨[], []⟩ := by
    rw [ofStray, strayLines_of_not_mem (not_mem_firstLine _), hfirst, htrim]
    simp
  rcases afterLine_eq_nil_or text with hrest | ⟨rest, hrest⟩
  · have hline : '#' :: text = firstLine ('#' :: text) := by
      have := firstLine_append_afterLine ('#' :: text)
      rwa [hafter, hrest, List.append_nil, eq_comm] at this
    rw [readFrom_of_end (statement?_hash _) (hafter.trans hrest), hrest, readFrom_nil, hline,
      hstray]
  · rw [readFrom_of_none (statement?_hash _) (hafter.trans hrest), hstray, hrest,
      readFrom_cons_of_isBlank (by decide)]
    rfl

/-- What ends a statement makes no difference. -/
theorem readFrom_of_ending? {text : List Char} {e : List Char × List Char}
    (h : ending? text = some e) : readFrom text = readFrom e.2 := by
  fun_induction ending? text generalizing e with
  | case1 =>
    cases h
    rfl
  | case2 c rest hc ih =>
    cases hrest : ending? rest with
    | some e' =>
      rw [hrest, Option.map_some, Option.some_or, Option.some.injEq] at h
      rw [readFrom_cons_of_isBlank hc, ih hrest, ← h]
    | none =>
      rw [hrest, Option.map_none, Option.none_or] at h
      split at h <;> cases h
      rfl
  | case3 rest hc =>
    cases h
    exact readFrom_hash rest
  | case4 => cases h

/-! ## Sightings -/

/-- The name and the value that a sighting of an assignment tells. -/
def pairOfSighting (s : Sighting) : String × String :=
  let text := fun i => ((s.2.find? fun g => g.1 == i).map Prod.snd).getD []
  (.ofList (text 1), .ofList (unquote (text 2)))

theorem pairOf_eq (f : Found) : pairOf f = pairOfSighting f.view := by
  have htext : ∀ i, (f.group? i).elim [] Span.text =
      (((Thread.texts f.groups).find? fun g => g.1 == i).map Prod.snd).getD [] := by
    intro i
    simp only [Found.group?, Thread.texts, List.find?_map, Function.comp_def]
    cases f.groups.find? (fun g => g.1 == i) <;> rfl
  simp [pairOf, pairOfSighting, Found.view, htext]

/-- What lies before, between and behind sightings. -/
def gapsOfSightings (c : Cursor) : List Sighting → List (List Char)
  | [] => [c.rest]
  | s :: ss => Span.text ⟨c, s.1.start⟩ :: gapsOfSightings s.1.stop ss

/-- The gaps between matches are those between the sightings they show. -/
theorem gaps_eq (c : Cursor) (fs : List Found) :
    gaps c fs = gapsOfSightings c (fs.map Found.view) := by
  induction fs generalizing c with
  | nil => rfl
  | cons f fs ih => simp [gaps, gapsOfSightings, Found.view, ih]

/-- What the sightings from a position on tell. -/
def told (c : Cursor) (ss : List Sighting) : Dotenv :=
  ⟨ss.map pairOfSighting, (gapsOfSightings c ss).flatMap strayLines |>.map .ofList⟩

/-- No match of an assignment is empty. -/
theorem moving_assignment : Reading.Moving assignment.ways :=
  Pattern.moving_ways (p := pattern) (by decide)

/-- A text is read by telling the sightings of the assignment pattern from its start. -/
theorem read_eq_told (text : String) :
    read text = told (.start (unifyLineEnds text.toList))
      (assignment.ways.sightings (.start (unifyLineEnds text.toList))) := by
  have hfound := Pattern.map_view_findAll (p := pattern) (by decide) (unifyLineEnds text.toList)
  simp only [read, told, gaps_eq, hfound]
  change Dotenv.mk _ _ = Dotenv.mk _ _
  congr 1
  rw [show assignment.ways = pattern.body.ways from rfl, ← hfound, List.map_map]
  exact List.map_congr_left fun f _ => pairOf_eq f

variable {c : Cursor}

/-- The first sighting gives the first pair, and the others are told from its end. -/
theorem told_cons (w : Way) (ss : List Sighting) :
    told c ((⟨c, c.move w.read⟩, w.groups) :: ss) =
      ⟨[pairOfSighting (⟨c, c⟩, w.groups)], []⟩ ++ told (c.move w.read) ss := by
  have hgap : Span.text ⟨c, c⟩ = [] := by simp [Span.text]
  change Dotenv.mk _ _ = Dotenv.mk _ _
  simp [told, gapsOfSightings, hgap, pairOfSighting]

/-- The name and the value of a statement are what its way tells. -/
theorem pairOfSighting_way (s : Statement) (span : Span) :
    pairOfSighting (span, s.way.groups) = s.pair := by
  by_cases hraw : s.value.raw = []
  · simp [pairOfSighting, Statement.way, Statement.valueGroups, hraw, Statement.pair]
  · simp [pairOfSighting, Statement.way, Statement.valueGroups, hraw, Statement.pair]

/-- A sighting starts behind the position from which it was looked for. -/
theorem start_of_first? {a : Reading} {s : Sighting} (h : a.first? c = some s) :
    ∃ xs, xs <+: c.rest ∧ s.1.start = c.move xs := by
  fun_induction Reading.first? a c with
  | case1 c w hw =>
    cases h
    exact ⟨[], by simp, by simp⟩
  | case2 => cases h
  | case3 c hnone x xs hrest ih =>
    obtain ⟨ys, hys, hstart⟩ := ih h
    have hmove : (c.move [x]).rest = xs := Cursor.rest_move (by simp [hrest])
    rw [hmove] at hys
    exact ⟨x :: ys, by rw [hrest]; simpa using hys, by rw [hstart, ← Cursor.move_append]; rfl⟩

/-- A line without a sighting is told as a stray line. -/
theorem told_move_line {a : Reading} (ha : a.Moving) {line rest : List Char}
    (hrest : c.rest = line ++ '\n' :: rest) :
    told c (a.sightings (c.move (line ++ ['\n']))) =
      ofStray line ++ told (c.move (line ++ ['\n'])) (a.sightings (c.move (line ++ ['\n']))) := by
  have hmove : (c.move (line ++ ['\n'])).rest = rest := Cursor.rest_move (by simp [hrest])
  rw [Reading.sightings_eq_first ha]
  cases h : a.first? (c.move (line ++ ['\n'])) with
  | none =>
    change Dotenv.mk _ _ = Dotenv.mk _ _
    simp [told, ofStray, gapsOfSightings, hmove, hrest, strayLines_append]
  | some s =>
    obtain ⟨xs, hxs, hstart⟩ := start_of_first? h
    have hline : line ++ ['\n'] <+: c.rest := by simp [hrest]
    have hprefix := Cursor.prefix_append_of_move hline hxs
    have hgap : Span.text ⟨c, s.1.start⟩ = line ++ '\n' :: xs := by
      rw [hstart, ← Cursor.move_append, Cursor.text_move hprefix]
      simp
    have hgap' : Span.text ⟨c.move (line ++ ['\n']), s.1.start⟩ = xs := by
      rw [hstart, Cursor.text_move hxs]
    change Dotenv.mk _ _ = Dotenv.mk _ _
    simp [told, ofStray, gapsOfSightings, hgap, hgap', strayLines_append]

/-- Past a character within a line no line starts. -/
theorem lineStart_move_cons {x : Char} (hx : x ≠ '\n') :
    (Edge.lineStart false).holds (c.move [x]) = false := by
  simp [Edge.holds, Cursor.move, hx]

/-- No assignment starts within a line. -/
theorem sightings_move_line {line rest : List Char} (hline : '\n' ∉ line)
    (hrest : c.rest = line ++ '\n' :: rest) (hnone : assignment.ways c = []) :
    assignment.ways.sightings c = assignment.ways.sightings (c.move (line ++ ['\n'])) := by
  induction line generalizing c with
  | nil => exact Reading.sightings_skip hnone hrest
  | cons x line ih =>
    simp only [List.mem_cons, not_or] at hline
    have hmove : (c.move [x]).rest = line ++ '\n' :: rest := Cursor.rest_move (by simp [hrest])
    rw [Reading.sightings_skip hnone hrest,
      ih hline.2 hmove (ways_assignment_eq_nil (lineStart_move_cons (Ne.symm hline.1))),
      ← Cursor.move_append]
    rfl

/-- A last line that starts no assignment has no sightings. -/
theorem sightings_last_line {line : List Char} (hline : '\n' ∉ line) (hrest : c.rest = line)
    (hnone : assignment.ways c = []) : assignment.ways.sightings c = [] := by
  induction line generalizing c with
  | nil => exact Reading.sightings_end hnone hrest
  | cons x line ih =>
    simp only [List.mem_cons, not_or] at hline
    have hmove : (c.move [x]).rest = line := Cursor.rest_move (by simp [hrest])
    rw [Reading.sightings_skip hnone hrest,
      ih hline.2 hmove (ways_assignment_eq_nil (lineStart_move_cons (Ne.symm hline.1)))]

/-- Past a line end a line starts. -/
theorem lineStart_move_line (line : List Char) :
    (Edge.lineStart false).holds (c.move (line ++ ['\n'])) = true := by
  simp [Edge.holds, Cursor.move]

/-- The sightings from the start or the end of a line on tell what is read there. -/
theorem told_sightings (hcr : '\r' ∉ c.rest)
    (hc : (Edge.lineStart false).holds c ∨ c.rest = [] ∨ ∃ rest, c.rest = '\n' :: rest) :
    told c (assignment.ways.sightings c) = readFrom c.rest := by
  induction hn : c.left using Nat.strongRecOn generalizing c with
  | ind n ih =>
    cases hhead : (assignment.ways c).head? with
    | some w =>
      obtain ⟨-, s, hs, rfl⟩ := exists_statement_of_head hcr hhead
      have hstarts := starts_of_statement? hs
      have hmove : (c.move s.text).rest = s.value.rest := Cursor.rest_move hstarts.append.symm
      have hlt : (c.move s.text).left < n := by
        rw [← hn, Cursor.left, hmove]
        exact hstarts.length_lt
      rw [Reading.sightings_of_head moving_assignment hhead, told_cons, pairOfSighting_way,
        readFrom_of_some hs, ← hmove]
      exact congrArg _ (ih _ hlt (not_mem_rest_move hcr _) (.inr (hmove ▸ hstarts.rest_eq hcr)) rfl)
    | none =>
      have hways := List.head?_eq_none_iff.1 hhead
      have hsplit := firstLine_append_afterLine c.rest
      have hnone : (Edge.lineStart false).holds c = true → statement? c.rest = none := by
        intro hstart
        rw [head_ways_assignment hcr hstart, Option.map_eq_none_iff] at hhead
        exact hhead
      rcases afterLine_eq_nil_or c.rest with hrest | ⟨rest, hrest⟩
      · have hline : firstLine c.rest = c.rest := by rwa [hrest, List.append_nil] at hsplit
        have hread : readFrom c.rest = ofStray c.rest := by
          rcases hc with hstart | hnil | ⟨xs, hxs⟩
          · exact readFrom_of_end (hnone hstart) hrest
          · rw [hnil, readFrom_nil]
            rfl
          · simp [afterLine, hxs] at hrest
        rw [sightings_last_line (not_mem_firstLine c.rest) hline.symm hways, hread]
        simp [told, gapsOfSightings, ofStray]
      · have hread : readFrom c.rest = ofStray (firstLine c.rest) ++ readFrom rest := by
          rcases hc with hstart | hnil | ⟨xs, hxs⟩
          · exact readFrom_of_none (hnone hstart) hrest
          · simp [afterLine, hnil] at hrest
          · obtain rfl : xs = rest := by simpa [afterLine, hxs] using hrest
            rw [hxs, readFrom_cons_of_isBlank (by decide)]
            simp [firstLine, ofStray]
            rfl
        rw [hrest] at hsplit
        have hmove : (c.move (firstLine c.rest ++ ['\n'])).rest = rest :=
          Cursor.rest_move (by rw [List.append_assoc]; exact hsplit.symm)
        have hlt : (c.move (firstLine c.rest ++ ['\n'])).left < n := by
          have hlength := congrArg List.length hsplit
          simp only [List.length_append, List.length_cons] at hlength
          rw [← hn, Cursor.left, Cursor.left, hmove]
          omega
        rw [sightings_move_line (not_mem_firstLine c.rest) hsplit.symm hways,
          told_move_line moving_assignment hsplit.symm, hread,
          ih _ hlt (not_mem_rest_move hcr _) (.inl (lineStart_move_line _)) rfl, hmove]

/-- A text is read from one line to the next. -/
theorem read_eq_readFrom (text : String) : read text = readFrom (unifyLineEnds text.toList) := by
  rw [read_eq_told]
  exact told_sightings (not_mem_unifyLineEnds _) (.inl rfl)

end EnvAudit.Dotenv
