import EnvAudit.Declarations.Source
import EnvAudit.Proofs.Dotenv.ReadFrom
import Mathlib.Data.List.Forall2

/-!
# EnvAudit.Proofs.Dotenv.Skipped

Which lines of a text of assignments are skipped:

1. each line of a text has a place in it (`placedLines`); where a text is cut beside the end of a
   line, its lines that are not blank are those of both parts (`contentLines_append_of_ended`,
   `contentLines_append_of_follows`);
2. sightings are `Spaced` if each starts where a line does, reads something and stops where a line
   does; those of assignments are (`spaced_sightings`);
3. a line that is not blank lies inside one of them or outside all (`Spaced.inside_or_outside`), and
   what is left between them are the lines outside (`Spaced.flatMap_strayLines`);
4. each assigns what the statement does that is read where it starts (`assigns_of_mem_sightings`).

Main statement: no line is passed over in silence (`no_line_disappears`).
-/

namespace EnvAudit.Dotenv

/-! ## Lines and their places -/

/-- A line, and how many characters stand before it. -/
structure PlacedLine where
  start : Nat
  chars : List Char
deriving Repr, DecidableEq

namespace PlacedLine

/-- How many characters stand before the end of a line. -/
def stop (l : PlacedLine) : Nat := l.start + l.chars.length

/-- Whether a line holds nothing but white space. -/
def isBlank (l : PlacedLine) : Bool := (trim l.chars).isEmpty

/-- Whether a line starts with `#`, but for white space. -/
def isComment (l : PlacedLine) : Bool := (trim l.chars).head? == some '#'

/-- The whole line is part of a span. -/
def Inside (l : PlacedLine) (s : Span) : Prop := s.start.pos ≤ l.start ∧ l.stop ≤ s.stop.pos

/-- Nothing of the line is part of a span. -/
def Outside (l : PlacedLine) (s : Span) : Prop := l.stop ≤ s.start.pos ∨ s.stop.pos ≤ l.start

instance (l : PlacedLine) (s : Span) : Decidable (l.Outside s) :=
  inferInstanceAs (Decidable (_ ∨ _))

/-- Whether a line is neither blank nor a comment, and outside all spans. -/
def isStray (spans : List Span) (l : PlacedLine) : Bool :=
  !l.isBlank && !l.isComment && decide (∀ s ∈ spans, l.Outside s)

/-- What is not blank is not empty. -/
theorem start_lt_stop {l : PlacedLine} (h : l.isBlank = false) : l.start < l.stop := by
  have hne : l.chars ≠ [] := by
    intro hnil
    simp [isBlank, hnil, trim, trimStart, trimEnd] at h
  have hlength := List.length_pos_iff.2 hne
  rw [stop]
  omega

/-- A line that is not empty is not inside and outside of a span at once. -/
theorem Outside.not_inside {l : PlacedLine} {s : Span} (h : l.Outside s) (hl : l.start < l.stop) :
    ¬ l.Inside s := by
  rintro ⟨hstart, hstop⟩
  rcases h with h | h <;> omega

end PlacedLine

/-- Lines one below the other, the first one at a place. -/
def placeLines : Nat → List (List Char) → List PlacedLine
  | _, [] => []
  | pos, line :: lines => ⟨pos, line⟩ :: placeLines (pos + line.length + 1) lines

/-- The lines of a text that starts at a place. -/
def placedLines (pos : Nat) (text : List Char) : List PlacedLine := placeLines pos (splitLines text)

/-- The lines of a text that starts at a place, without the blank ones. -/
def contentLines (pos : Nat) (text : List Char) : List PlacedLine :=
  (placedLines pos text).filter fun l => !l.isBlank

/-- How much room lines take, each with its end. -/
def room : List (List Char) → Nat
  | [] => 0
  | line :: lines => line.length + 1 + room lines

/-- Lines placed behind others start where those leave off. -/
theorem placeLines_append (pos : Nat) (lines lines' : List (List Char)) :
    placeLines pos (lines ++ lines') =
      placeLines pos lines ++ placeLines (pos + room lines) lines' := by
  induction lines generalizing pos with
  | nil => rfl
  | cons line lines ih => simp [placeLines, room, ih, Nat.add_assoc]

/-- Each line placed lies within the room the lines take. -/
theorem bounds_of_mem_placeLines {pos : Nat} {lines : List (List Char)} {l : PlacedLine}
    (h : l ∈ placeLines pos lines) : pos ≤ l.start ∧ l.stop + 1 ≤ pos + room lines := by
  induction lines generalizing pos with
  | nil => cases h
  | cons line lines ih =>
    rw [room]
    rcases List.mem_cons.1 h with rfl | h
    · simp only [PlacedLine.stop]
      omega
    · have hbounds := ih h
      omega

/-- The lines of a text take as much room as the text with one more line end. -/
theorem room_splitLines (text : List Char) : room (splitLines text) = text.length + 1 := by
  induction text with
  | nil => rfl
  | cons c text ih =>
    obtain ⟨line, lines, hlines⟩ := List.exists_cons_of_ne_nil (splitOnChar_ne_nil '\n' text)
    rw [splitLines, hlines, room] at ih
    by_cases hc : c = '\n'
    · simp only [splitLines, splitOnChar, hc, if_true, hlines, room, List.length_nil,
        List.length_cons]
      omega
    · simp only [splitLines, splitOnChar, hc, if_false, hlines, room, List.length_cons]
      omega

/-- The lines with content lie within the text. -/
theorem bounds_of_mem_contentLines {pos : Nat} {text : List Char} {l : PlacedLine}
    (h : l ∈ contentLines pos text) : pos ≤ l.start ∧ l.stop ≤ pos + text.length := by
  have hbounds := bounds_of_mem_placeLines (List.mem_filter.1 h).1
  rw [room_splitLines] at hbounds
  omega

/-- A line with content is not blank. -/
theorem isBlank_of_mem_contentLines {pos : Nat} {text : List Char} {l : PlacedLine}
    (h : l ∈ contentLines pos text) : l.isBlank = false := by
  simpa using (List.mem_filter.1 h).2

/-- Blank lines are never stray, so only those with content matter. -/
@[simp] theorem filter_isStray_contentLines (spans : List Span) (pos : Nat) (text : List Char) :
    (contentLines pos text).filter (PlacedLine.isStray spans) =
      (placedLines pos text).filter (PlacedLine.isStray spans) := by
  rw [contentLines, List.filter_filter]
  refine List.filter_congr fun l _ => ?_
  cases hblank : l.isBlank <;> simp [PlacedLine.isStray, hblank]

/-- A line with content takes some room. -/
theorem start_lt_stop_of_mem {pos : Nat} {text : List Char} {l : PlacedLine}
    (h : l ∈ contentLines pos text) : l.start < l.stop :=
  PlacedLine.start_lt_stop (isBlank_of_mem_contentLines h)

@[simp] theorem contentLines_nil (pos : Nat) : contentLines pos [] = [] := rfl

/-- The lines below a line are placed behind its line end. -/
theorem contentLines_append_line (pos : Nat) (text more : List Char) :
    contentLines pos (text ++ '\n' :: more) =
      contentLines pos text ++ contentLines (pos + text.length + 1) more := by
  simp only [contentLines, placedLines, splitLines_append, placeLines_append, room_splitLines,
    List.filter_append, Nat.add_assoc]

/-- An empty line has no content. -/
theorem contentLines_lineEnd (pos : Nat) (text : List Char) :
    contentLines pos ('\n' :: text) = contentLines (pos + 1) text :=
  contentLines_append_line pos [] text

/-- A text may be cut before a line end. -/
theorem contentLines_append_of_follows {more : List Char}
    (h : more = [] ∨ ∃ rest, more = '\n' :: rest) (pos : Nat) (text : List Char) :
    contentLines pos (text ++ more) =
      contentLines pos text ++ contentLines (pos + text.length) more := by
  rcases h with rfl | ⟨rest, rfl⟩
  · simp
  · rw [contentLines_append_line, contentLines_lineEnd]

/-- A text may be cut behind a line end. -/
theorem contentLines_append_of_ended {text : List Char}
    (h : text = [] ∨ text.getLast? = some '\n') (pos : Nat) (more : List Char) :
    contentLines pos (text ++ more) =
      contentLines pos text ++ contentLines (pos + text.length) more := by
  rcases h with rfl | h
  · simp
  · obtain ⟨line, rfl⟩ := List.getLast?_eq_some_iff.1 h
    rw [List.append_assoc, List.singleton_append, contentLines_append_line,
      contentLines_append_line, contentLines_nil, List.append_nil, List.length_append,
      List.length_singleton, Nat.add_assoc]

/-- The stray lines are those of the lines that are neither blank nor comments. -/
theorem strayLines_eq (pos : Nat) (text : List Char) :
    strayLines text =
      ((contentLines pos text).filter fun l => !l.isComment).map fun l => trim l.chars := by
  have hplaces : (placedLines pos text).map PlacedLine.chars = splitLines text := by
    rw [placedLines]
    generalize splitLines text = lines
    induction lines generalizing pos with
    | nil => rfl
    | cons line lines ih => simp [placeLines, ih]
  rw [strayLines, ← hplaces, contentLines, List.filter_filter, List.map_map, List.filter_map]
  simp [Function.comp_def, PlacedLine.isBlank, PlacedLine.isComment, Bool.and_comm, bne]

/-! ## Spaced sightings -/

/-- Sightings behind a position, one behind the other, of which each starts where a line does, reads
something, and stops where a line does. -/
inductive Spaced : Cursor → List Sighting → Prop
  | none {c : Cursor} : Spaced c []
  | next (groups : List (Nat × List Char)) {c : Cursor} {xs ys rest : List Char}
      {ss : List Sighting} : c.rest = xs ++ (ys ++ rest) →
      (Edge.lineStart false).holds (c.move xs) → ys ≠ [] →
      (rest = [] ∨ ∃ more, rest = '\n' :: more) → Spaced (c.move (xs ++ ys)) ss →
      Spaced c ((⟨c.move xs, c.move (xs ++ ys)⟩, groups) :: ss)

namespace Spaced

variable {c : Cursor} {ss : List Sighting}

/-- What comes before the first sighting does not matter. -/
theorem of_move {zs : List Char} (hzs : zs <+: c.rest) (h : Spaced (c.move zs) ss) :
    Spaced c ss := by
  obtain ⟨rest, hrest⟩ := hzs
  cases h with
  | none => exact .none
  | @next groups _ xs ys rest' ss hc hstart hys hfollows hss =>
    rw [Cursor.rest_move hrest.symm] at hc
    rw [← Cursor.move_append] at hstart
    rw [← Cursor.move_append, ← List.append_assoc] at hss
    rw [← Cursor.move_append, ← Cursor.move_append, ← List.append_assoc]
    refine .next groups ?_ hstart hys hfollows hss
    rw [← hrest, hc, List.append_assoc]

end Spaced

/-- Assignments start where a line does and stop where a line does. -/
theorem spaced_sightings {c : Cursor} (hcr : '\r' ∉ c.rest) :
    Spaced c (assignment.ways.sightings c) := by
  fun_induction Reading.sightings assignment.ways c with
  | case1 c w hw hlt ih =>
    obtain ⟨hstart, s, hs, rfl⟩ := exists_statement_of_head hcr hw
    have hstarts := starts_of_statement? hs
    have hne : s.text ≠ [] := by
      intro hnil
      have := hstarts.length_lt
      simp [← hstarts.append, hnil] at this
    rw [← Cursor.move_nil c] at hstart
    have hnext := Spaced.next s.way.groups hstarts.append.symm hstart hne
      (hstarts.rest_eq hcr) (ih (not_mem_rest_move hcr _))
    rwa [Cursor.move_nil] at hnext
  | case2 => exact .none
  | case3 => exact .none
  | case4 c hnone x xs hrest ih =>
    -- A character that is passed over belongs to what comes before the next assignment.
    exact (ih (not_mem_rest_move hcr [x])).of_move (by simp [hrest])

/-- A position in a text stays one when it is moved. -/
theorem rest_move_of_drop {c : Cursor} {text : List Char} (h : c.rest = text.drop c.pos)
    (zs : List Char) : (c.move zs).rest = text.drop (c.move zs).pos := by
  rw [Cursor.move, h, List.drop_drop]

namespace Spaced

variable {c : Cursor} {ss : List Sighting} {l : PlacedLine}

/-- No span starts before the cursor. -/
theorem le_start (h : Spaced c ss) : ∀ s ∈ ss.map Prod.fst, c.pos ≤ s.start.pos := by
  induction h with
  | none => simp
  | @next groups c xs ys rest ss hc hstart hys hfollows hss ih =>
    refine List.forall_mem_cons.2 ⟨Nat.le_add_right _ _, fun s hs => ?_⟩
    exact Nat.le_trans (Nat.le_add_right _ _) (ih s hs)

/-- Sightings come one behind the other. -/
theorem pairwise (h : Spaced c ss) :
    (ss.map Prod.fst).Pairwise fun s s' => s.stop.pos ≤ s'.start.pos := by
  induction h with
  | none => exact .nil
  | next _ _ _ _ _ hss ih => exact .cons hss.le_start ih

/-- Each sighting has read something. -/
theorem text_ne_nil (h : Spaced c ss) : ∀ s ∈ ss.map Prod.fst, s.text ≠ [] := by
  induction h with
  | none => simp
  | @next groups c xs ys rest ss hc hstart hys hfollows hss ih =>
    refine List.forall_mem_cons.2 ⟨?_, ih⟩
    have hprefix : ys <+: (c.move xs).rest := ⟨rest, (Cursor.rest_move hc).symm⟩
    rwa [Cursor.move_append, Cursor.text_move hprefix]

/-- Behind a position in a text, sightings are parts of this text. -/
theorem text_eq {text : List Char} (h : Spaced c ss) (hc : c.rest = text.drop c.pos) :
    ∀ s ∈ ss.map Prod.fst, s.text = (text.drop s.start.pos).take (s.stop.pos - s.start.pos) := by
  induction h with
  | none => simp
  | next _ _ _ _ _ _ ih =>
    refine List.forall_mem_cons.2 ⟨?_, ih (rest_move_of_drop hc _)⟩
    rw [Span.text, rest_move_of_drop hc]

end Spaced

section

variable {c : Cursor} {xs ys rest : List Char} {l : PlacedLine}

/-- A line starts only where nothing was read yet or a line end was. -/
theorem ended_of_lineStart (h : (Edge.lineStart false).holds (c.move xs)) :
    xs = [] ∨ xs.getLast? = some '\n' := by
  cases hlast : xs.getLast? with
  | none => exact .inl (List.getLast?_eq_none_iff.1 hlast)
  | some x => exact .inr (by simpa [Edge.holds, Cursor.move, hlast] using h)

/-- The lines before a sighting, those within it and those behind it. -/
theorem contentLines_around (hc : c.rest = xs ++ (ys ++ rest))
    (hstart : (Edge.lineStart false).holds (c.move xs))
    (hfollows : rest = [] ∨ ∃ more, rest = '\n' :: more) :
    contentLines c.pos c.rest = contentLines c.pos xs ++ (contentLines (c.move xs).pos ys ++
      contentLines (c.move (xs ++ ys)).pos (c.move (xs ++ ys)).rest) := by
  have hrest : (c.move (xs ++ ys)).rest = rest :=
    Cursor.rest_move (by rw [hc, List.append_assoc])
  rw [hrest, hc, contentLines_append_of_ended (ended_of_lineStart hstart),
    contentLines_append_of_follows hfollows, Cursor.pos_move, Cursor.pos_move, List.length_append,
    Nat.add_assoc]

/-- The lines of what a sighting reads are inside of it. -/
theorem inside_of_mem (h : l ∈ contentLines (c.move xs).pos ys) :
    l.Inside ⟨c.move xs, c.move (xs ++ ys)⟩ := by
  have hpos : (c.move (xs ++ ys)).pos = (c.move xs).pos + ys.length := by
    simp [Nat.add_assoc]
  obtain ⟨hstart, hstop⟩ := bounds_of_mem_contentLines h
  exact ⟨hstart, hpos ▸ hstop⟩

/-- The lines behind a sighting are outside of it. -/
theorem outside_of_mem_behind {text : List Char}
    (h : l ∈ contentLines (c.move (xs ++ ys)).pos text) :
    l.Outside ⟨c.move xs, c.move (xs ++ ys)⟩ :=
  .inr (bounds_of_mem_contentLines h).1

/-- No line of what a sighting reads is stray. -/
theorem filter_isStray_within (spans : List Span) :
    (contentLines (c.move xs).pos ys).filter
      (PlacedLine.isStray (⟨c.move xs, c.move (xs ++ ys)⟩ :: spans)) = [] := by
  refine List.filter_eq_nil_iff.2 fun l hl => ?_
  have houtside : ¬ l.Outside ⟨c.move xs, c.move (xs ++ ys)⟩ :=
    fun houtside => houtside.not_inside (start_lt_stop_of_mem hl) (inside_of_mem hl)
  simp [PlacedLine.isStray, houtside]

/-- The stray lines behind a sighting depend on the other sightings only. -/
theorem filter_isStray_behind (text : List Char) (spans : List Span) :
    (contentLines (c.move (xs ++ ys)).pos text).filter
        (PlacedLine.isStray (⟨c.move xs, c.move (xs ++ ys)⟩ :: spans)) =
      (contentLines (c.move (xs ++ ys)).pos text).filter (PlacedLine.isStray spans) := by
  refine List.filter_congr fun l hl => ?_
  simp only [PlacedLine.isStray, List.forall_mem_cons, outside_of_mem_behind hl, true_and]

end

namespace Spaced

variable {c : Cursor} {xs ys : List Char} {ss : List Sighting} {l : PlacedLine}

/-- The lines before a sighting are outside of it and of those behind it. -/
theorem outside_of_mem_before (h : Spaced (c.move (xs ++ ys)) ss)
    (hl : l ∈ contentLines c.pos xs) :
    ∀ s ∈ ⟨c.move xs, c.move (xs ++ ys)⟩ :: ss.map Prod.fst, l.Outside s := by
  have hstop : l.stop ≤ (c.move xs).pos := (bounds_of_mem_contentLines hl).2
  refine List.forall_mem_cons.2 ⟨.inl hstop, fun s hs => .inl ?_⟩
  exact Nat.le_trans hstop (Nat.le_trans (by simp) (h.le_start s hs))

/-- The stray lines before a sighting are those that are no comments. -/
theorem filter_isStray_before (h : Spaced (c.move (xs ++ ys)) ss) :
    (contentLines c.pos xs).filter
        (PlacedLine.isStray (⟨c.move xs, c.move (xs ++ ys)⟩ :: ss.map Prod.fst)) =
      (contentLines c.pos xs).filter fun l => !l.isComment := by
  refine List.filter_congr fun l hl => ?_
  rw [PlacedLine.isStray, isBlank_of_mem_contentLines hl,
    decide_eq_true (h.outside_of_mem_before hl), Bool.not_false, Bool.true_and, Bool.and_true]

/-- No line is inside a sighting in part only. -/
theorem inside_or_outside (h : Spaced c ss) (hl : l ∈ contentLines c.pos c.rest) :
    (∃ s ∈ ss.map Prod.fst, l.Inside s) ∨ ∀ s ∈ ss.map Prod.fst, l.Outside s := by
  induction h with
  | none => exact .inr (by simp)
  | @next groups c xs ys rest ss hc hstart hys hfollows hss ih =>
    -- What is before ends where a line starts, and what is read where one ends, so each line is in
    -- one of the three parts.
    rw [contentLines_around hc hstart hfollows, List.mem_append, List.mem_append] at hl
    rcases hl with hbefore | hwithin | hbehind
    · exact .inr (hss.outside_of_mem_before hbefore)
    · exact .inl ⟨_, List.mem_cons_self, inside_of_mem hwithin⟩
    · rcases ih hbehind with ⟨s, hs, hinside⟩ | houtside
      · exact .inl ⟨s, List.mem_cons_of_mem _ hs, hinside⟩
      · exact .inr (List.forall_mem_cons.2 ⟨outside_of_mem_behind hbehind, houtside⟩)

/-- What is left between sightings are the lines outside all of them. -/
theorem flatMap_strayLines (h : Spaced c ss) :
    (gapsOfSightings c ss).flatMap strayLines =
      ((contentLines c.pos c.rest).filter (PlacedLine.isStray (ss.map Prod.fst))).map
        fun l => trim l.chars := by
  induction h with
  | @none c =>
    have hstray : ∀ l ∈ contentLines c.pos c.rest, (!l.isComment) = l.isStray [] :=
      fun l hl => by simp [PlacedLine.isStray, isBlank_of_mem_contentLines hl]
    rw [List.map_nil, ← List.filter_congr hstray, ← strayLines_eq]
    simp [gapsOfSightings]
  | @next groups c xs ys rest ss hc hstart hys hfollows hss ih =>
    have hgap : Span.text ⟨c, c.move xs⟩ = xs := Cursor.text_move ⟨_, hc.symm⟩
    rw [gapsOfSightings, List.flatMap_cons, hgap, ih, contentLines_around hc hstart hfollows,
      strayLines_eq c.pos, List.filter_append, List.filter_append, List.map_append,
      List.map_append, List.map_cons, hss.filter_isStray_before, filter_isStray_within,
      filter_isStray_behind, List.map_nil, List.nil_append]

end Spaced

/-! ## What is assigned -/

/-- What a part of a text assigns: the statement that is read where it starts is this part. -/
def Assigns (text : List Char) (span : Span) (pair : String × String) : Prop :=
  ∃ s, statement? (text.drop span.start.pos) = some s ∧ span.text = s.text ∧ pair = s.pair

/-- Each sighting of an assignment tells what its part of the text assigns. -/
theorem assigns_of_mem_sightings {c : Cursor} {text : List Char} (hcr : '\r' ∉ c.rest)
    (hc : c.rest = text.drop c.pos) :
    ∀ s ∈ assignment.ways.sightings c, Assigns text s.1 (pairOfSighting s) := by
  fun_induction Reading.sightings assignment.ways c with
  | case1 c w hw hlt ih =>
    obtain ⟨-, s, hs, rfl⟩ := exists_statement_of_head hcr hw
    have htext : Span.text ⟨c, c.move s.way.read⟩ = s.text :=
      Cursor.text_move ⟨_, (starts_of_statement? hs).append⟩
    rw [hc] at hs
    refine List.forall_mem_cons.2 ⟨⟨s, hs, htext, pairOfSighting_way s _⟩, ?_⟩
    exact ih (not_mem_rest_move hcr _) (rest_move_of_drop hc _)
  | case2 => simp
  | case3 => simp
  | case4 c hnone x xs hrest ih => exact ih (not_mem_rest_move hcr [x]) (rest_move_of_drop hc [x])

/-! ## What is skipped -/

/-- The text in which assignments are looked for. -/
def unifiedText (content : String) : List Char := unifyLineEnds content.toList

/-- Where assignments are found. -/
def assigned (content : String) : List Span :=
  (pattern.findAll (unifiedText content)).map Found.span

/-- The spans of a content are in order and apart, each makes its own assignment, and the gaps
between them hold the lines that are skipped. -/
theorem exists_spaced (content : String) :
    ∃ ss, Spaced (.start (unifiedText content)) ss ∧ ss.map Prod.fst = assigned content ∧
      (∀ s ∈ ss, Assigns (unifiedText content) s.1 (pairOfSighting s)) ∧
      (read content).assignments = ss.map pairOfSighting ∧
      (read content).skipped =
        ((gapsOfSightings (.start (unifiedText content)) ss).flatMap strayLines).map .ofList := by
  have hfound := Pattern.map_view_findAll (p := pattern) (by decide) (unifiedText content)
  have hcr := not_mem_unifyLineEnds content.toList
  refine ⟨_, spaced_sightings hcr, ?_, assigns_of_mem_sightings hcr rfl, ?_, ?_⟩
  · rw [assigned, show assignment.ways = pattern.body.ways from rfl, ← hfound, List.map_map]
    rfl
  · rw [read_eq_told]
    rfl
  · rw [read_eq_told]
    rfl

/-- Each line that is not blank lies inside one assignment or outside all of them; assignments are
parts of the text, not empty, and come one behind the other; each declares the name and the value of
the statement that stands there, and nothing else is declared; and those lines outside that are no
comments are noted, in order and each once. -/
theorem no_line_disappears (content : String) :
    (∀ line ∈ placedLines 0 (unifiedText content), line.isBlank = false →
      (∃ s ∈ assigned content, line.Inside s) ∨ ∀ s ∈ assigned content, line.Outside s) ∧
    (∀ s ∈ assigned content, s.text ≠ [] ∧ s.text =
      ((unifiedText content).drop s.start.pos).take (s.stop.pos - s.start.pos)) ∧
    (assigned content).Pairwise (fun s s' => s.stop.pos ≤ s'.start.pos) ∧
    (∃ pairs, List.Forall₂ (Assigns (unifiedText content)) (assigned content) pairs ∧
      (Source.readDotenv content).result = .ok (.ofPairs pairs)) ∧
    (Source.readDotenv content).notes =
      ((placedLines 0 (unifiedText content)).filter (PlacedLine.isStray (assigned content))).map
        fun line => .skippedLine (.ofList (trim line.chars)) := by
  obtain ⟨ss, hspaced, hspans, hassigns, hpairs, hskipped⟩ := exists_spaced content
  rw [← hspans]
  refine ⟨fun line hline hblank => ?_, ?_, ?_, ⟨ss.map pairOfSighting, ?_, ?_⟩, ?_⟩
  · have hcontent : line ∈ contentLines 0 (unifiedText content) :=
      List.mem_filter.2 ⟨hline, by rw [hblank]; rfl⟩
    exact hspaced.inside_or_outside hcontent
  · exact fun s hs => ⟨hspaced.text_ne_nil s hs, hspaced.text_eq rfl s hs⟩
  · exact hspaced.pairwise
  · exact List.forall₂_map_left_iff.2 (List.forall₂_map_right_iff.2 (List.forall₂_same.2 hassigns))
  · rw [← hpairs]
    rfl
  · rw [Source.readDotenv, hskipped, hspaced.flatMap_strayLines, filter_isStray_contentLines]
    simp [Cursor.start]

end EnvAudit.Dotenv
