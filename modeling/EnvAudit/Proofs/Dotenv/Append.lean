import EnvAudit.Proofs.Dotenv.Statement
import Mathlib.Data.List.TakeWhile

/-!
# EnvAudit.Proofs.Dotenv.Append

What opens an assignment when a text goes on:

1. an opening stays what it is, whatever follows the text (`opening?_append`);
2. a text without an opening can have one with further lines only if the key in it is still to be
   set apart, or is still to come behind `export` (`isSome_opening?_append_line`).
-/

namespace EnvAudit.Dotenv

/-! ## Runs -/

theorem takeWhile_append_of_dropWhile {p : Char → Bool} {text : List Char}
    (h : text.dropWhile p ≠ []) (more : List Char) :
    (text ++ more).takeWhile p = text.takeWhile p := by
  induction text with
  | nil => exact absurd rfl h
  | cons c text ih =>
    by_cases hc : p c
    · rw [List.dropWhile_cons_of_pos hc] at h
      simp [hc, ih h]
    · simp [hc]

/-- Text added behind the character that stopped the dropping stays at the end. -/
theorem dropWhile_append_of_dropWhile {p : Char → Bool} {text : List Char}
    (h : text.dropWhile p ≠ []) (more : List Char) :
    (text ++ more).dropWhile p = text.dropWhile p ++ more := by
  rw [List.dropWhile_append]
  simp [h]

/-- A line end stops a run that it does not belong to. -/
theorem takeWhile_append_cons {p : Char → Bool} {c : Char} (hc : p c = false)
    (text more : List Char) : (text ++ c :: more).takeWhile p = text.takeWhile p := by
  induction text with
  | nil => simp [hc]
  | cons x text ih => by_cases hx : p x <;> simp [hx, ih]

/-- Dropping stops at a character that fails the test, wherever it stopped before. -/
theorem dropWhile_append_cons {p : Char → Bool} {c : Char} (hc : p c = false)
    (text more : List Char) :
    (text ++ c :: more).dropWhile p = text.dropWhile p ++ c :: more := by
  induction text with
  | nil => simp [hc]
  | cons x text ih => by_cases hx : p x <;> simp [hx, ih]

/-- A run is read off a text that goes on with something else. -/
theorem run_append {p : Char → Bool} {run text : List Char} (hrun : ∀ c ∈ run, p c)
    (htext : ∀ c ∈ text.head?, p c = false) :
    (run ++ text).takeWhile p = run ∧ (run ++ text).dropWhile p = text := by
  rw [List.takeWhile_append_of_pos hrun, List.dropWhile_append_of_pos hrun]
  cases text with
  | nil => simp
  | cons c text => simp [htext c rfl]

/-! ## What stays -/

/-- A separator does not change when text is added below. -/
theorem separator?_append {text : List Char} {s : List Char × List Char}
    (h : separator? text = some s) (more : List Char) :
    separator? (text ++ more) = some (s.1, s.2 ++ more) := by
  rcases separator?_cases text with ⟨rest, htext, hs⟩ | ⟨x, rest, rfl, hx, hs⟩ | ⟨-, -, hs⟩
  · obtain rfl := Option.some.inj (hs.symm.trans h)
    have hne : text.dropWhile isBlank ≠ [] := by simp [htext]
    simp [separator?, takeWhile_append_of_dropWhile hne, dropWhile_append_of_dropWhile hne, htext]
  · obtain rfl := Option.some.inj (hs.symm.trans h)
    have hcolon : isBlank ':' = false := by decide
    simp [separator?, hcolon, hx]
  · simp [hs] at h

theorem separator?_nil : separator? [] = none := rfl

/-- An opening without `export` does not change when text is added below. -/
theorem unexported?_append {lead text : List Char} {o : Opening}
    (h : unexported? lead text = some o) (more : List Char) :
    unexported? lead (text ++ more) = some { o with rest := o.rest ++ more } := by
  unfold unexported? at h ⊢
  simp only at h ⊢
  split at h
  · cases h
  · next hkey =>
    obtain ⟨s, hs, rfl⟩ := Option.map_eq_some_iff.1 h
    have hne : text.dropWhile isKeyChar ≠ [] := by
      intro hnil
      simp [hnil, separator?_nil] at hs
    rw [takeWhile_append_of_dropWhile hne, dropWhile_append_of_dropWhile hne, if_neg hkey,
      separator?_append hs]
    rfl

/-- An opening with `export` does not change when text is added below. -/
theorem exported?_append {lead text : List Char} {o : Opening}
    (h : exported? lead text = some o) (more : List Char) :
    exported? lead (text ++ more) = some { o with rest := o.rest ++ more } := by
  unfold exported? at h ⊢
  split at h
  · next hword =>
    simp only at h
    split at h
    · cases h
    · next hblanks =>
      have hne : (text.drop exportWord.length).dropWhile isBlank ≠ [] := by
        intro hnil
        simp [hnil, unexported?] at h
      have hdrop : (text ++ more).drop exportWord.length = text.drop exportWord.length ++ more :=
        List.drop_append_of_le_length hword.length_le
      simp only
      rw [if_pos (hword.trans (List.prefix_append _ _)), hdrop,
        takeWhile_append_of_dropWhile hne, dropWhile_append_of_dropWhile hne, if_neg hblanks]
      exact unexported?_append h more
  · cases h

theorem isKeyChar_of_mem_exportWord : ∀ c ∈ exportWord, isKeyChar c :=
  forall_mem_of_all (by decide)

/-- Where no key starts there is no opening. -/
theorem unexported?_eq_none_of_head {lead text : List Char}
    (h : ∀ x ∈ text.head?, isKeyChar x = false) : unexported? lead text = none := by
  cases text with
  | nil => rfl
  | cons x text => simp [unexported?, h x rfl]

/-- Where a key is read at once, `export` is not read before it. -/
theorem exported?_eq_none {lead text : List Char} {o : Opening}
    (h : unexported? lead text = some o) (lead' : List Char) : exported? lead' text = none := by
  unfold exported?
  split
  · next hword =>
    obtain ⟨behind, rfl⟩ := hword
    simp only [List.drop_left]
    split
    · rfl
    · next hblanks =>
      -- The key is `export` itself, and what stands behind it sets a value apart.
      have hdrop : (exportWord ++ behind).dropWhile isKeyChar = behind := by
        rw [List.dropWhile_append_of_pos isKeyChar_of_mem_exportWord]
        cases behind with
        | nil => rfl
        | cons x behind =>
          have hx : isBlank x := by
            by_contra hx
            simp [hx] at hblanks
          simp [not_isKeyChar_of_isBlank hx]
      unfold unexported? at h
      rw [hdrop] at h
      simp only at h
      split at h
      · cases h
      · obtain ⟨s, hs, -⟩ := Option.map_eq_some_iff.1 h
        rcases separator?_cases behind with ⟨rest, htext, -⟩ | ⟨x, rest, rfl, -, -⟩ | ⟨-, -, hnone⟩
        · rw [htext]
          exact unexported?_eq_none_of_head (by simpa using (by decide : isKeyChar '=' = false))
        · exact absurd (by simpa using (by decide : isBlank ':' = false)) hblanks
        · simp [hnone] at hs
  · rfl

theorem exported?_nil (lead : List Char) : exported? lead [] = none := rfl

theorem unexported?_nil (lead : List Char) : unexported? lead [] = none := rfl

/-- An opening stays what it is, whatever follows the text. -/
theorem opening?_append {text : List Char} {o : Opening} (h : opening? text = some o)
    (more : List Char) : opening? (text ++ more) = some { o with rest := o.rest ++ more } := by
  have hne : text.dropWhile isBlank ≠ [] := by
    intro hnil
    rw [opening?, hnil, exported?_nil, unexported?_nil] at h
    cases h
  simp only [opening?] at h ⊢
  rw [takeWhile_append_of_dropWhile hne, dropWhile_append_of_dropWhile hne]
  rcases Option.or_eq_some_iff.1 h with h | ⟨-, h⟩
  · rw [exported?_append h, Option.some_or]
  · have hmore := unexported?_append h more
    rw [exported?_eq_none hmore, Option.none_or, hmore]

/-! ## What is still to come -/

/-- Where the key of an assignment can start in a text: at once or behind `export`. -/
def keyStarts (text : List Char) : List (List Char) :=
  let body := text.dropWhile isBlank
  let behind := body.drop exportWord.length
  if exportWord <+: body ∧ behind.takeWhile isBlank ≠ [] then [body, behind.dropWhile isBlank]
  else [body]

/-- Behind the word `export` a key may start at the word or, past blanks, behind it. -/
theorem keyStarts_of_export {text behind : List Char}
    (h : text.dropWhile isBlank = exportWord ++ behind) :
    keyStarts text =
      if behind.takeWhile isBlank ≠ [] then [exportWord ++ behind, behind.dropWhile isBlank]
      else [exportWord ++ behind] := by
  simp [keyStarts, h]

theorem keyStarts_of_not_export {text : List Char} (h : ¬ exportWord <+: text.dropWhile isBlank) :
    keyStarts text = [text.dropWhile isBlank] := by
  simp [keyStarts, h]

/-- Past the blanks a key may always start. -/
theorem body_mem_keyStarts (text : List Char) : text.dropWhile isBlank ∈ keyStarts text := by
  unfold keyStarts
  simp only
  split <;> simp

/-- A line whose key is still to come behind `export`. -/
def AwaitsKey (text : List Char) : Prop :=
  ∃ blanks, text.dropWhile isBlank = exportWord ++ blanks ∧ ∀ c ∈ blanks, isBlank c

/-- What a text leaves open that has no opening but gets one by the lines behind it. -/
inductive LeavesOpen (text more : List Char) : Prop
  /-- The white space behind `:`. -/
  | colon (start : List Char) (hstart : start ∈ keyStarts text)
      (hkey : start.takeWhile isKeyChar ≠ []) (hbehind : start.dropWhile isKeyChar = [':'])
  /-- The `=` behind a key. -/
  | equal (start : List Char) (hstart : start ∈ keyStarts text)
      (hkey : start.takeWhile isKeyChar ≠ []) (hbehind : ∀ c ∈ start.dropWhile isKeyChar, isBlank c)
      (hmore : (more.dropWhile isBlank).head? = some '=')
  /-- The key behind `export`. -/
  | key (hword : AwaitsKey text) (hmore : (unexported? [] (more.dropWhile isBlank)).isSome)

/-- An opening starts with one of the places for its key. -/
theorem isSome_opening? (text : List Char) :
    (opening? text).isSome ↔ ∃ start ∈ keyStarts text, (unexported? [] start).isSome := by
  have hlead : ∀ lead start, (unexported? lead start).isSome = (unexported? [] start).isSome := by
    intro lead start
    unfold unexported?
    simp only
    split <;> simp
  simp only [opening?, Option.isSome_or, Bool.or_eq_true, exported?, keyStarts]
  by_cases hword : exportWord <+: text.dropWhile isBlank
  · by_cases hblanks : ((text.dropWhile isBlank).drop exportWord.length).takeWhile isBlank = []
    · simp [hword, hblanks, hlead (text.takeWhile isBlank)]
    · simp [hword, hblanks, hlead _ (text.dropWhile isBlank),
        hlead _ (((text.dropWhile isBlank).drop exportWord.length).dropWhile isBlank), or_comm]
  · simp [hword, hlead (text.takeWhile isBlank)]

/-- Blanks hold no separator. -/
theorem separator?_of_isBlank {text : List Char} (h : ∀ c ∈ text, isBlank c) :
    separator? text = none := by
  rcases separator?_cases text with ⟨rest, htext, -⟩ | ⟨x, rest, rfl, -, -⟩ | ⟨-, -, hs⟩
  · simp [List.dropWhile_eq_nil_iff.2 h] at htext
  · exact absurd (h ':' (by simp)) (by decide)
  · exact hs

/-- What sets a value apart when a line is followed by others. -/
theorem isSome_separator?_append_line (text more : List Char) :
    (separator? (text ++ '\n' :: more)).isSome ↔ (separator? text).isSome ∨ text = [':'] ∨
      (∀ c ∈ text, isBlank c) ∧ (more.dropWhile isBlank).head? = some '=' := by
  have hdrop : ('\n' :: more).dropWhile isBlank = more.dropWhile isBlank :=
    List.dropWhile_cons_of_pos (by decide)
  constructor
  · intro h
    rcases separator?_cases (text ++ '\n' :: more) with
      ⟨rest, htext, -⟩ | ⟨x, rest, htext, hx, -⟩ | ⟨-, -, hs⟩
    · by_cases hblank : ∀ c ∈ text, isBlank c
      · rw [List.dropWhile_append_of_pos hblank, hdrop] at htext
        exact .inr (.inr ⟨hblank, by rw [htext]; rfl⟩)
      · have hne : text.dropWhile isBlank ≠ [] := fun h => hblank (List.dropWhile_eq_nil_iff.1 h)
        rw [dropWhile_append_of_dropWhile hne] at htext
        obtain ⟨y, ys, hys⟩ := List.exists_cons_of_ne_nil hne
        obtain rfl : y = '=' := by
          rw [hys, List.cons_append] at htext
          exact (List.cons.inj htext).1
        refine .inl ?_
        simp [separator?, hys]
    · match text with
      | [] => exact absurd htext (by simp)
      | [y] =>
        obtain rfl : y = ':' := (List.cons.inj htext).1
        exact .inr (.inl rfl)
      | y :: z :: text =>
        simp only [List.cons_append, List.cons.injEq] at htext
        obtain ⟨rfl, rfl, -⟩ := htext
        have hcolon : isBlank ':' = false := by decide
        exact .inl (by simp [separator?, hcolon, hx])
    · simp [hs] at h
  · rintro (h | rfl | ⟨hblank, hhead⟩)
    · obtain ⟨s, hs⟩ := Option.isSome_iff_exists.1 h
      simp [separator?_append hs]
    · have hcolon : isBlank ':' = false := by decide
      have hline : isBlank '\n' = true := by decide
      simp [separator?, hcolon, hline]
    · obtain ⟨rest, hrest⟩ := List.head?_eq_some_iff.1 hhead
      have htext : (text ++ '\n' :: more).dropWhile isBlank = '=' :: rest := by
        rw [List.dropWhile_append_of_pos hblank, hdrop, hrest]
      simp [separator?, htext]

/-- An opening is a key with a separator behind it. -/
theorem isSome_unexported? (start : List Char) :
    (unexported? [] start).isSome ↔
      start.takeWhile isKeyChar ≠ [] ∧ (separator? (start.dropWhile isKeyChar)).isSome := by
  unfold unexported?
  by_cases hkey : start.takeWhile isKeyChar = [] <;> simp [hkey]

/-- A key starts past the blanks, or behind a word `export` that starts there. -/
theorem keyStarts_cases (text : List Char) :
    keyStarts text = [text.dropWhile isBlank] ∨
      ∃ c behind, isBlank c = true ∧ text.dropWhile isBlank = exportWord ++ c :: behind ∧
        keyStarts text = [text.dropWhile isBlank, behind.dropWhile isBlank] := by
  by_cases hword : exportWord <+: text.dropWhile isBlank
  · obtain ⟨behind, htext⟩ := hword
    rw [keyStarts_of_export htext.symm, ← htext]
    cases behind with
    | nil => exact .inl rfl
    | cons c behind =>
      by_cases hc : isBlank c
      · exact .inr ⟨c, behind, hc, rfl, by simp [hc]⟩
      · exact .inl (by simp [hc])
  · exact .inl (keyStarts_of_not_export hword)

/-- A line added below neither makes nor breaks the word `export`. -/
theorem exportWord_prefix_append_line {body : List Char} (more : List Char) :
    exportWord <+: body ++ '\n' :: more ↔ exportWord <+: body := by
  refine ⟨fun h => ?_, fun h => h.trans (List.prefix_append _ _)⟩
  rcases List.prefix_or_prefix_of_prefix h (List.prefix_append body ('\n' :: more)) with h' | h'
  · exact h'
  · obtain ⟨ys, hys⟩ := h'
    rw [← hys, List.prefix_append_right_inj] at h
    cases ys with
    | nil => exact ⟨[], by rw [← hys, List.append_nil, List.append_nil]⟩
    | cons y ys =>
      obtain rfl : y = '\n' := (List.cons_prefix_cons.1 h).1
      have hmem : '\n' ∈ exportWord := hys ▸ by simp
      exact absurd hmem (by decide)

/-- The places for a key when a line is followed by others. -/
theorem keyStarts_append_line {text : List Char} (hbody : text.dropWhile isBlank ≠ [])
    (h : ¬ AwaitsKey text) (more : List Char) :
    keyStarts (text ++ '\n' :: more) = (keyStarts text).map (· ++ '\n' :: more) := by
  have hdrop := dropWhile_append_of_dropWhile hbody ('\n' :: more)
  by_cases hword : exportWord <+: text.dropWhile isBlank
  · obtain ⟨behind, htext⟩ := hword
    have hbehind : behind.dropWhile isBlank ≠ [] := fun hnil =>
      h ⟨behind, htext.symm, List.dropWhile_eq_nil_iff.1 hnil⟩
    rw [← htext, List.append_assoc] at hdrop
    rw [keyStarts_of_export hdrop, keyStarts_of_export htext.symm,
      takeWhile_append_of_dropWhile hbehind, dropWhile_append_of_dropWhile hbehind]
    split <;> simp
  · rw [keyStarts_of_not_export hword, keyStarts_of_not_export, hdrop]
    · rfl
    · rwa [hdrop, exportWord_prefix_append_line]

/-- Where `export` still awaits its key, the key may start in what is added below. -/
theorem keyStarts_of_awaitsKey {text : List Char} (h : AwaitsKey text) (more : List Char) :
    keyStarts (text ++ '\n' :: more) =
      [text.dropWhile isBlank ++ '\n' :: more, more.dropWhile isBlank] := by
  obtain ⟨blanks, htext, hblanks⟩ := h
  have hbody : text.dropWhile isBlank ≠ [] := by simp [htext, exportWord_append]
  have hdrop := dropWhile_append_of_dropWhile hbody ('\n' :: more)
  rw [htext, List.append_assoc] at hdrop
  have hbehind : (blanks ++ '\n' :: more).dropWhile isBlank = more.dropWhile isBlank := by
    rw [List.dropWhile_append_of_pos hblanks, List.dropWhile_cons_of_pos (by decide)]
  have hne : (blanks ++ '\n' :: more).takeWhile isBlank ≠ [] := by
    cases blanks with
    | nil => simp [(by decide : isBlank '\n' = true)]
    | cons c blanks => simp [hblanks c (by simp)]
  rw [keyStarts_of_export hdrop, if_pos hne, hbehind, htext, List.append_assoc]

/-- Where `export` still awaits its key, the only key in the text itself is that word. -/
theorem eq_body_of_awaitsKey {text start : List Char} (h : AwaitsKey text)
    (hmem : start ∈ keyStarts text) (hkey : start.takeWhile isKeyChar ≠ []) :
    start = text.dropWhile isBlank := by
  obtain ⟨blanks, htext, hblanks⟩ := h
  rw [keyStarts_of_export htext, List.dropWhile_eq_nil_iff.2 hblanks] at hmem
  split at hmem
  · rcases List.mem_cons.1 hmem with hmem | hmem
    · rw [hmem, htext]
    · rw [List.mem_singleton.1 hmem] at hkey
      exact absurd rfl hkey
  · rw [List.mem_singleton.1 hmem, htext]

/-- A key that starts in one of the places for it opens the assignment. -/
theorem opening?_of_start {text start : List Char} {o : Opening} (hmem : start ∈ keyStarts text)
    (h : unexported? [] start = some o) : ∃ lead, opening? text = some { o with lead := lead } := by
  have hlead : ∀ lead, unexported? lead start = some { o with lead := lead } := fun lead => by
    rw [unexported?_lead, h]
    rfl
  rcases keyStarts_cases text with hstarts | ⟨c, behind, hc, hbody, hstarts⟩
  · obtain rfl : start = text.dropWhile isBlank := by simpa [hstarts] using hmem
    exact ⟨_, by rw [opening?, exported?_eq_none h, Option.none_or, hlead]⟩
  · rcases (by simpa [hstarts] using hmem : start = _ ∨ start = _) with rfl | rfl
    · exact ⟨_, by rw [opening?, exported?_eq_none h, Option.none_or, hlead]⟩
    · have hne : (c :: behind).takeWhile isBlank ≠ [] := by simp [hc]
      refine ⟨text.takeWhile isBlank ++ exportWord ++ (c :: behind).takeWhile isBlank, ?_⟩
      simp only [opening?, hbody, exported?, List.prefix_append, if_true, List.drop_left, hne,
        if_false, List.dropWhile_cons_of_pos hc, hlead, Option.some_or]

/-- Where a key may start it still may when text is added below. -/
theorem append_mem_keyStarts {text start : List Char} (hmem : start ∈ keyStarts text)
    (hkey : start.takeWhile isKeyChar ≠ []) (more : List Char) :
    start ++ '\n' :: more ∈ keyStarts (text ++ '\n' :: more) := by
  by_cases hword : AwaitsKey text
  · rw [keyStarts_of_awaitsKey hword, eq_body_of_awaitsKey hword hmem hkey]
    simp
  · have hbody : text.dropWhile isBlank ≠ [] := by
      intro hnil
      have hexport : ¬ exportWord <+: text.dropWhile isBlank := by
        rw [hnil]
        decide
      rw [keyStarts_of_not_export hexport, hnil, List.mem_singleton] at hmem
      exact hkey (by rw [hmem]; rfl)
    rw [keyStarts_append_line hbody hword]
    exact List.mem_map_of_mem hmem

/-- A place for a key in a line that is followed by others is one in the line, or it starts what
follows. -/
theorem mem_keyStarts_append_line {text start : List Char} (hbody : text.dropWhile isBlank ≠ [])
    {more : List Char} (hmem : start ∈ keyStarts (text ++ '\n' :: more)) :
    (∃ s ∈ keyStarts text, start = s ++ '\n' :: more) ∨
      AwaitsKey text ∧ start = more.dropWhile isBlank := by
  by_cases hword : AwaitsKey text
  · rw [keyStarts_of_awaitsKey hword, List.mem_cons, List.mem_singleton] at hmem
    rcases hmem with hmem | hmem
    · exact .inl ⟨_, body_mem_keyStarts text, hmem⟩
    · exact .inr ⟨hword, hmem⟩
  · rw [keyStarts_append_line hbody hword] at hmem
    obtain ⟨s, hs, rfl⟩ := List.mem_map.1 hmem
    exact .inl ⟨s, hs, rfl⟩

/-- A line added below opens a statement only by giving a key the separator it lacked. -/
theorem isSome_unexported?_append_line (start more : List Char) :
    (unexported? [] (start ++ '\n' :: more)).isSome ↔
      (unexported? [] start).isSome ∨ start.takeWhile isKeyChar ≠ [] ∧
        (start.dropWhile isKeyChar = [':'] ∨ (∀ c ∈ start.dropWhile isKeyChar, isBlank c) ∧
          (more.dropWhile isBlank).head? = some '=') := by
  have hline : isKeyChar '\n' = false := by decide
  rw [isSome_unexported?, isSome_unexported?, takeWhile_append_cons hline,
    dropWhile_append_cons hline, isSome_separator?_append_line]
  tauto

/-- What a line leaves open is completed by the lines behind it. -/
theorem LeavesOpen.isSome_opening? {text more : List Char} (h : LeavesOpen text more) :
    (opening? (text ++ '\n' :: more)).isSome := by
  rw [Dotenv.isSome_opening?]
  cases h with
  | colon start hmem hkey hcolon =>
    exact ⟨_, append_mem_keyStarts hmem hkey more,
      (isSome_unexported?_append_line start more).2 (.inr ⟨hkey, .inl hcolon⟩)⟩
  | equal start hmem hkey hblanks hequal =>
    exact ⟨_, append_mem_keyStarts hmem hkey more,
      (isSome_unexported?_append_line start more).2 (.inr ⟨hkey, .inr ⟨hblanks, hequal⟩⟩)⟩
  | key hword hopens =>
    rw [keyStarts_of_awaitsKey hword]
    exact ⟨_, List.mem_cons_of_mem _ (List.mem_singleton_self _), hopens⟩

/-- What opens an assignment when a line is followed by others. -/
theorem isSome_opening?_append_line {text : List Char} (hbody : text.dropWhile isBlank ≠ [])
    (more : List Char) :
    (opening? (text ++ '\n' :: more)).isSome ↔ (opening? text).isSome ∨ LeavesOpen text more := by
  constructor
  · intro h
    obtain ⟨start, hmem, hopens⟩ := (isSome_opening? _).1 h
    rcases mem_keyStarts_append_line hbody hmem with ⟨s, hs, rfl⟩ | ⟨hword, rfl⟩
    · rcases (isSome_unexported?_append_line s more).1 hopens with
        hopens | ⟨hkey, hcolon | ⟨hblanks, hequal⟩⟩
      · exact .inl ((isSome_opening? text).2 ⟨s, hs, hopens⟩)
      · exact .inr (.colon s hs hkey hcolon)
      · exact .inr (.equal s hs hkey hblanks hequal)
    · exact .inr (.key hword hopens)
  · rintro (h | h)
    · obtain ⟨o, ho⟩ := Option.isSome_iff_exists.1 h
      rw [opening?_append ho]
      rfl
    · exact h.isSome_opening?

/-- No statement starts with a line added below unless the text leaves one open. -/
theorem statement?_append_line_eq_none {text more : List Char} (hbody : text.dropWhile isBlank ≠ [])
    (h : statement? text = none) (hopen : ¬ LeavesOpen text more) :
    statement? (text ++ '\n' :: more) = none := by
  rw [statement?, Option.map_eq_none_iff, ← Option.not_isSome_iff_eq_none] at h ⊢
  rw [isSome_opening?_append_line hbody]
  exact not_or.2 ⟨h, hopen⟩

theorem behind_export {c : Char} (hc : isBlank c) (behind : List Char) :
    (exportWord ++ c :: behind).dropWhile isKeyChar = c :: behind := by
  rw [List.dropWhile_append_of_pos isKeyChar_of_mem_exportWord]
  simp [not_isKeyChar_of_isBlank hc]

/-- A key behind which nothing sets a value apart. -/
theorem not_isSome_unexported? {start : List Char}
    (h : start.dropWhile isKeyChar = [':'] ∨ ∀ c ∈ start.dropWhile isKeyChar, isBlank c) :
    ¬ (unexported? [] start).isSome := by
  rw [isSome_unexported?]
  rintro ⟨-, hs⟩
  rcases h with h | h
  · rw [h] at hs
    exact absurd hs (by decide)
  · simp [separator?_of_isBlank h] at hs

/-- A text that leaves something open has no opening. -/
theorem opening?_eq_none_of_leavesOpen {text more : List Char} (h : LeavesOpen text more) :
    opening? text = none := by
  rw [← Option.not_isSome_iff_eq_none, isSome_opening?]
  rintro ⟨start, hmem, hopen⟩
  rcases keyStarts_cases text with hstarts | ⟨c, behind, hc, hbody, hstarts⟩
  · obtain rfl : start = text.dropWhile isBlank := by simpa [hstarts] using hmem
    refine not_isSome_unexported? ?_ hopen
    cases h with
    | colon start hmem' hkey hcolon =>
      rw [hstarts, List.mem_singleton] at hmem'
      exact .inl (hmem' ▸ hcolon)
    | equal start hmem' hkey hblanks hequal =>
      rw [hstarts, List.mem_singleton] at hmem'
      exact .inr (hmem' ▸ hblanks)
    | key hword hmore =>
      obtain ⟨blanks, htext, hblanks⟩ := hword
      right
      intro c hc
      rw [htext, List.dropWhile_append_of_pos isKeyChar_of_mem_exportWord] at hc
      exact hblanks c ((List.dropWhile_sublist _).subset hc)
  · have hbehind : (text.dropWhile isBlank).dropWhile isKeyChar = c :: behind :=
      hbody ▸ behind_export hc behind
    have hcolon : c ≠ ':' := by
      rintro rfl
      exact absurd hc (by decide)
    -- Either nothing but white space follows `export`, or a key does.
    have hcases : (∀ x ∈ c :: behind, isBlank x) ∨
        (behind.dropWhile isBlank).takeWhile isKeyChar ≠ [] ∧
          ((behind.dropWhile isBlank).dropWhile isKeyChar = [':'] ∨
            ∀ x ∈ (behind.dropWhile isBlank).dropWhile isKeyChar, isBlank x) := by
      cases h with
      | colon start hmem' hkey hbehind' =>
        rcases (by simpa [hstarts] using hmem' : _ ∨ _) with rfl | rfl
        · rw [hbehind] at hbehind'
          exact absurd (List.cons.inj hbehind').1 hcolon
        · exact .inr ⟨hkey, .inl hbehind'⟩
      | equal start hmem' hkey hblanks hequal =>
        rcases (by simpa [hstarts] using hmem' : _ ∨ _) with rfl | rfl
        · exact .inl (hbehind ▸ hblanks)
        · exact .inr ⟨hkey, .inr hblanks⟩
      | key hword hmore =>
        obtain ⟨blanks, htext, hblanks⟩ := hword
        rw [hbody, List.append_cancel_left_eq] at htext
        exact .inl (htext ▸ hblanks)
    rcases (by simpa [hstarts] using hmem : start = _ ∨ start = _) with rfl | rfl
    · rcases hcases with hblanks | ⟨hkey, -⟩
      · exact not_isSome_unexported? (.inr (hbehind ▸ hblanks)) hopen
      · rw [isSome_unexported?, hbehind] at hopen
        rcases separator?_cases (c :: behind) with
          ⟨rest, hrest, -⟩ | ⟨x, rest, hrest, -⟩ | ⟨-, -, hs⟩
        · rw [List.dropWhile_cons_of_pos hc] at hrest
          exact hkey (by simp [hrest, (by decide : isKeyChar '=' = false)])
        · exact hcolon (List.cons.inj hrest).1
        · simp [hs] at hopen
    · rcases hcases with hblanks | ⟨-, hbad⟩
      · have hnil : behind.dropWhile isBlank = [] :=
          List.dropWhile_eq_nil_iff.2 fun x hx => hblanks x (List.mem_cons_of_mem _ hx)
        simp [hnil, unexported?] at hopen
      · exact not_isSome_unexported? hbad hopen

end EnvAudit.Dotenv
