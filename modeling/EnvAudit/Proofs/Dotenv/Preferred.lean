import EnvAudit.Proofs.Dotenv.Statement

/-!
# EnvAudit.Proofs.Dotenv.Preferred

The preferred way of each part of an assignment is what `ending?`, `value`, `separator?` and
`statement?` read. White space, keys and separators cannot be read in two ways, so the whole runs
are taken; only the ending of a value and its closing quote are chosen among several.

Main statement: the preferred way of the pattern `Dotenv.assignment` at the start of a line is the
statement there (`head_ways_assignment`).
-/

namespace EnvAudit.Dotenv

open Reading

variable {c : Cursor}

theorem contains_blank : CharSet.blank.contains = isBlank := rfl

theorem contains_keyChars : keyChars.contains = isKeyChar := rfl

theorem rest_move_takeWhile (c : Cursor) (p : Char → Bool) :
    (c.move (c.rest.takeWhile p)).rest = c.rest.dropWhile p :=
  Cursor.rest_move List.takeWhile_append_dropWhile.symm

/-! ## The readings of the parts -/

/-- A comment, if there is one, and the end of a line. -/
def lineEndReading : Reading :=
  (optional true ((Reading.text ['#']).andThen
    (again true (one (CharSet.single '\n').compl)))).andThen (edge (.lineEnd false))

/-- What ends a value. -/
def endingReading : Reading := (again true (one .blank)).andThen lineEndReading

/-- What may stand between two quotes. -/
def betweenReading (quote : Char) : Reading :=
  again true ((Reading.text ['\\', quote]).orElse (one (CharSet.single quote).compl))

/-- A value between two quotes. -/
def quotedReading (quote : Char) : Reading :=
  (again true (one .blank)).andThen
    ((Reading.text [quote]).andThen ((betweenReading quote).andThen (Reading.text [quote])))

/-- A value without quotes. -/
def bareReading : Reading := again₁ true (one (CharSet.ofList ['#', '\r', '\n']).compl)

/-- A value with what ends it. -/
def valueReading : Reading :=
  (optional true (remember 2 ((quotedReading '\'').orElse ((quotedReading '"').orElse
    ((quotedReading '\x60').orElse bareReading))))).andThen endingReading

/-- What sets a value apart, and the value. -/
def separatedReading : Reading :=
  (((again true (one .blank)).andThen
      ((Reading.text ['=']).andThen (again false (one .blank)))).orElse
    ((Reading.text [':']).andThen (again₁ false (one .blank)))).andThen valueReading

/-- A key and what follows it. -/
def unexportedReading : Reading :=
  (remember 1 (again₁ true (one keyChars))).andThen separatedReading

/-- An assignment with `export` or without. -/
def statementReading : Reading :=
  (optional true ((Reading.text exportWord).andThen (again₁ true (one .blank)))).andThen
    unexportedReading

/-- An assignment starts at the start of a line, past its blanks. -/
theorem ways_assignment : assignment.ways =
    (edge (.lineStart false)).andThen ((again true (one .blank)).andThen statementReading) := by
  simp only [assignment, Node.ways, Node.waysSeq, Node.waysAlt, blanks, quoted, bare, Node.nullable,
    Bool.false_eq_true, if_false, Reading.times, Reading.atMost, still_andThen, Nat.sub_zero,
    Node.anyNullable, List.isEmpty_cons, Bool.or_false]
  rfl

/-! ## Endings -/

/-- The line does not end before any character but a line feed. -/
theorem stops_lineEnd : Stops (CharSet.single '\n').compl (edge (.lineEnd false)) := by
  intro c x xs hrest hx
  rw [CharSet.contains_compl_single] at hx
  simp only [edge, Edge.holds, hrest]
  simp_all

/-- A comment, if there is one, and the end of a line. -/
theorem lineEndReading_eq (c : Cursor) : lineEndReading c =
    match c.rest with
    | [] => [.still]
    | x :: xs =>
      if x = '#' then [.ofText ('#' :: xs.takeWhile (· != '\n'))]
      else if x = '\n' then [.still] else [] := by
  have hset : (CharSet.single '\n').compl.contains = fun x => x != '\n' :=
    funext (CharSet.contains_compl_single _)
  have hcomment : ∀ c : Cursor, ((again true (one (CharSet.single '\n').compl)).andThen
      (edge (.lineEnd false))) c = [.ofText (c.rest.takeWhile (· != '\n'))] := by
    intro c
    rw [run_andThen stops_lineEnd, hset]
    have hend : (Edge.lineEnd false).holds (c.move (c.rest.takeWhile (· != '\n'))) = true := by
      simp only [Edge.holds, rest_move_takeWhile]
      cases hrest : c.rest.dropWhile (· != '\n') with
      | nil => rfl
      | cons x xs => simpa using head_dropWhile hrest
    simp [behind, edge, hend]
  simp only [lineEndReading, Reading.optional, if_true, Reading.orElse_andThen, still_andThen,
    Reading.orElse, Reading.andThen_assoc, text_andThen, behind, hcomment]
  cases hrest : c.rest with
  | nil => simp [edge, Edge.holds, hrest]
  | cons x xs =>
    have hmove : (c.move ['#']).rest = xs := by simp [Cursor.move, hrest]
    by_cases hx : x = '#'
    · subst hx
      simp [edge, Edge.holds, hrest, hmove]
    · simp [edge, Edge.holds, hrest, hx, Ne.symm hx]

theorem not_isBlank_hash : isBlank '#' = false := by decide

/-- The preferred ending of a value. -/
theorem head_endingReading (c : Cursor) :
    (endingReading c).head? = (ending? c.rest).map fun e => .ofText e.1 := by
  induction hn : c.rest generalizing c with
  | nil =>
    have hrun : again true (one .blank) c = [.still] := again_one_of_head (by simp [hn])
    simp [endingReading, Reading.andThen, hrun, lineEndReading_eq, hn, ending?]
  | cons x xs ih =>
    have hmove : (c.move [x]).rest = xs := Cursor.rest_move (by simp [hn])
    by_cases hx : isBlank x
    · have hsplit : endingReading c = endingReading.behind [x] c ++ lineEndReading c := by
        rw [endingReading, ← behind_andThen]
        simp only [Reading.andThen, again_one_cons hn hx, List.flatMap_append]
        have hstill : Way.still.append = id := funext Way.still_append
        simp [hstill]
      have hhash : x ≠ '#' := by
        rintro rfl
        simp [not_isBlank_hash] at hx
      rw [hsplit, List.head?_append, behind, List.head?_map, ih _ hmove, lineEndReading_eq, hn]
      simp only [ending?, hx, if_true, hhash, if_false]
      by_cases hnl : x = '\n'
      · cases ending? xs <;> simp [hnl]
      · cases ending? xs <;> simp [hnl]
    · have hrun : again true (one .blank) c = [.still] :=
        again_one_of_head (by simpa [hn, isBlank] using hx)
      have hlf : x ≠ '\n' := by
        rintro rfl
        exact hx (by decide)
      simp only [endingReading, Reading.andThen, hrun]
      rw [ending?, if_neg hx]
      by_cases hhash : x = '#' <;> simp [lineEndReading_eq, hn, hhash, hlf]

/-! ## Quoted values -/

/-- Each step between the quotes moves on. -/
theorem moving_between (quote : Char) :
    Moving ((Reading.text ['\\', quote]).orElse (one (CharSet.single quote).compl)) :=
  (Moving.text (by simp)).orElse (.one _)

/-- One step of reading up to a closing quote. -/
theorem betweenReading_andThen (quote : Char) (a : Reading) (c : Cursor) :
    (betweenReading quote).andThen a c =
      (if ['\\', quote] <+: c.rest then ((betweenReading quote).andThen a).behind ['\\', quote] c
        else []) ++
      ((one (CharSet.single quote).compl).andThen ((betweenReading quote).andThen a) c ++ a c) := by
  have hstep : (betweenReading quote).andThen a =
      (((Reading.text ['\\', quote]).orElse (one (CharSet.single quote).compl)).andThen
        ((betweenReading quote).andThen a)).orElse a := by
    conv_lhs => rw [betweenReading, again_eq, again₁_eq_andThen (moving_between quote)]
    simp only [Reading.optional, if_true, Reading.orElse_andThen, still_andThen,
      Reading.andThen_assoc]
    rfl
  conv_lhs => rw [hstep]
  simp [Reading.orElse_andThen, Reading.orElse, text_andThen]

/-- The places where a quoted value may close. -/
theorem closedReading_eq {quote : Char} (hquote : quote ≠ '\\') (c : Cursor) :
    (betweenReading quote).andThen (Reading.text [quote]) c =
      (closings quote c.rest).map fun k => .ofText (k.1 ++ [quote]) := by
  have hone : ∀ (a : Reading) (c : Cursor) (x : Char) (xs : List Char), c.rest = x :: xs →
      (one (CharSet.single quote).compl).andThen a c =
        if x = quote then [] else a.behind [x] c := by
    intro a c x xs hrest
    rw [one_andThen_cons a hrest, CharSet.contains_compl_single]
    by_cases hx : x = quote <;> simp [hx]
  generalize hn : c.rest = text
  fun_induction closings quote text generalizing c with
  | case1 =>
    rw [betweenReading_andThen]
    simp [hn, Reading.andThen, one_nil hn, text_eq]
  | case2 rest ih =>
    -- A quote behind a backslash: passed over, or else the closing one.
    have hmove : (c.move ['\\', quote]).rest = rest := Cursor.rest_move (by simp [hn])
    have hnext : (c.move ['\\']).rest = quote :: rest := Cursor.rest_move (by simp [hn])
    have hcloses : ((betweenReading quote).andThen (Reading.text [quote])) (c.move ['\\']) =
        [.ofText [quote]] := by
      rw [betweenReading_andThen, hone _ _ _ _ hnext]
      simp [hnext, text_eq, Ne.symm hquote]
    rw [betweenReading_andThen, hone _ _ _ _ hn]
    simp [hn, behind, ih _ hmove, hcloses, Ne.symm hquote, text_eq, hquote]
  | case3 x rest hx ih =>
    have hnext : (c.move ['\\']).rest = x :: rest := Cursor.rest_move (by simp [hn])
    rw [betweenReading_andThen, hone _ _ _ _ hn]
    simp [hn, behind, ih _ hnext, Ne.symm hquote, text_eq, hquote, Ne.symm hx]
  | case4 rest =>
    rw [betweenReading_andThen, hone _ _ _ _ hn]
    simp [hn, Ne.symm hquote, text_eq]
  | case5 x rest hesc hx ih =>
    have hnext : (c.move [x]).rest = rest := Cursor.rest_move (by simp [hn])
    rw [betweenReading_andThen, hone _ _ _ _ hn]
    have hesc' : ¬ ['\\', quote] <+: x :: rest := by
      rintro ⟨ys, hys⟩
      simp only [List.cons_append, List.nil_append, List.cons.injEq] at hys
      exact hesc _ _ hys.1.symm hys.2.symm
    simp [hn, behind, ih _ hnext, hesc', text_eq, Ne.symm hx, hx]

theorem findSome?_congr {α β : Type} {l : List α} {f g : α → Option β} (h : ∀ x ∈ l, f x = g x) :
    l.findSome? f = l.findSome? g := by
  induction l with
  | nil => rfl
  | cons x xs ih =>
    simp only [List.mem_cons, forall_eq_or_imp] at h
    rw [List.findSome?_cons, List.findSome?_cons, h.1, ih h.2]

/-- The characters that quote are neither white space nor backslashes. -/
theorem isBlank_quote {quote : Char} (h : isQuote quote) : isBlank quote = false := by
  simp only [isQuote, Bool.or_eq_true, decide_eq_true_eq] at h
  rcases h with (rfl | rfl) | rfl <;> decide

theorem ne_backslash_of_isQuote {quote : Char} (h : isQuote quote) : quote ≠ '\\' := by
  rintro rfl
  exact absurd h (by decide)

/-- What starts with a character outside a set stops at the set. -/
theorem stops_text_andThen {set : CharSet} {x : Char} (hx : set.contains x = false) (a : Reading) :
    Stops set ((Reading.text [x]).andThen a) := by
  intro c y ys hrest hy
  have hne : x ≠ y := by
    rintro rfl
    rw [hx] at hy
    cases hy
  simp [text_andThen, hrest, hne]

/-- Past the blanks a quoted value is read as far as each of its closings. -/
theorem quotedReading_eq {quote : Char} (hquote : isQuote quote) (c : Cursor) :
    quotedReading quote c =
      match c.rest.dropWhile isBlank with
      | [] => []
      | x :: rest =>
        if x = quote then (closings quote rest).map fun k =>
          .ofText (c.rest.takeWhile isBlank ++ quote :: k.1 ++ [quote])
        else [] := by
  have hstops : Stops .blank ((Reading.text [quote]).andThen
      ((betweenReading quote).andThen (Reading.text [quote]))) :=
    stops_text_andThen (isBlank_quote hquote) _
  have hrest := rest_move_takeWhile c isBlank
  rw [quotedReading, run_andThen hstops, contains_blank, behind, text_andThen, hrest]
  cases hn : c.rest.dropWhile isBlank with
  | nil => simp
  | cons x rest =>
    by_cases hx : x = quote
    · have hmove : ((c.move (c.rest.takeWhile isBlank)).move [quote]).rest = rest :=
        Cursor.rest_move (by rw [hrest, hn, hx]; rfl)
      simp [hx, behind, closedReading_eq (ne_backslash_of_isQuote hquote), hmove]
    · simp [hx, Ne.symm hx]

/-- The preferred way of a value between two quotes. -/
theorem head_quotedReading {quote : Char} (hquote : isQuote quote) (c : Cursor) :
    ((remember 2 (quotedReading quote)).andThen endingReading c).head? =
      (quotedValue? quote c.rest).map fun v => ⟨v.raw ++ v.ending, [(2, v.raw)]⟩ := by
  simp only [Reading.andThen, remember, List.flatMap_map, quotedReading_eq hquote, quotedValue?]
  cases hn : c.rest.dropWhile isBlank with
  | nil => simp
  | cons x rest =>
    by_cases hx : x = quote
    · have hending : ∀ k ∈ closings quote rest,
          (endingReading (c.move (c.rest.takeWhile isBlank ++ quote :: k.1 ++ [quote]))).head? =
            (ending? k.2).map fun e => .ofText e.1 := by
        intro k hk
        rw [head_endingReading]
        have hrest : (c.move (c.rest.takeWhile isBlank ++ quote :: k.1 ++ [quote])).rest = k.2 := by
          refine Cursor.rest_move ?_
          conv_lhs => rw [← List.takeWhile_append_dropWhile (p := isBlank) (l := c.rest), hn, hx,
            eq_of_mem_closings hk]
          simp
        rw [hrest]
      simp only [if_pos hx, List.head?_flatMap, List.map_findSome?, List.findSome?_map]
      refine findSome?_congr fun k hk => ?_
      simp only [Function.comp_apply, List.head?_map, Way.read_ofText, hending k hk, Option.map_map]
      rfl
    · simp [hx]

/-! ## Values -/

theorem not_mem_rest_move {x : Char} (h : x ∉ c.rest) (xs : List Char) : x ∉ (c.move xs).rest :=
  fun hx => h (List.mem_of_mem_drop hx)

theorem remember_orElse (index : Nat) (a b : Reading) :
    remember index (a.orElse b) = (remember index a).orElse (remember index b) := by
  funext c
  simp [remember, Reading.orElse]

/-- The preferred way of a value without quotes, or of no value. -/
theorem head_bareReading (hcr : '\r' ∉ c.rest) :
    ((remember 2 bareReading).andThen endingReading c ++ endingReading c).head? =
      some ⟨(bareValue c.rest).raw ++ (bareValue c.rest).ending,
        Statement.valueGroups (bareValue c.rest)⟩ := by
  have hset : (CharSet.ofList ['#', '\r', '\n']).compl.contains = isBare :=
    funext contains_bare
  obtain ⟨e, he⟩ := ending?_dropWhile_isBare hcr
  by_cases hrun : c.rest.takeWhile isBare = []
  · have hhead : ∀ x ∈ c.rest.head?, isBare x = false := by
      intro x hx
      cases hn : c.rest with
      | nil => simp [hn] at hx
      | cons y ys =>
        obtain rfl : y = x := by simpa [hn] using hx
        by_contra hy
        rw [Bool.not_eq_false] at hy
        simp [hn, hy] at hrun
    have hbare : bareReading c = [] := again₁_one_of_head (by simpa [← hset] using hhead)
    have hdrop : c.rest.dropWhile isBare = c.rest := by
      simpa [hrun] using List.takeWhile_append_dropWhile (p := isBare) (l := c.rest)
    rw [hdrop] at he
    simp [Reading.andThen, remember, hbare, head_endingReading, he, bareValue, hrun, hdrop,
      Statement.valueGroups, Way.ofText]
  · have hmove := rest_move_takeWhile c isBare
    have hne : endingReading (c.move (c.rest.takeWhile isBare)) ≠ [] := by
      have hhead := head_endingReading (c.move (c.rest.takeWhile isBare))
      rw [hmove, he] at hhead
      intro h
      simp [h] at hhead
    have hread : ((remember 2 bareReading).andThen endingReading c).head? =
        some ⟨c.rest.takeWhile isBare ++ e.1, [(2, c.rest.takeWhile isBare)]⟩ := by
      rw [bareReading, head_remember_run₁_andThen 2 (by rwa [hset]) (by rwa [hset]), hset,
        List.head?_map, head_endingReading, hmove, he]
      rfl
    rw [List.head?_append, hread]
    simp [bareValue, he, hrun, Statement.valueGroups]

/-- A quoted value has at least its quotes. -/
theorem raw_ne_nil_of_quotedValue? {quote : Char} {text : List Char} {v : Value}
    (h : quotedValue? quote text = some v) : v.raw ≠ [] := by
  rw [quotedValue?] at h
  split at h
  · cases h
  · split at h
    · obtain ⟨k, -, hk⟩ := List.exists_of_findSome?_eq_some h
      obtain ⟨e, -, rfl⟩ := Option.map_eq_some_iff.1 hk
      simp
    · cases h

/-- The preferred way of a value. -/
theorem head_valueReading (hcr : '\r' ∉ c.rest) :
    (valueReading c).head? =
      some ⟨(value c.rest).raw ++ (value c.rest).ending,
        Statement.valueGroups (value c.rest)⟩ := by
  have hsplit : valueReading c =
      (remember 2 (quotedReading '\'')).andThen endingReading c ++
        ((remember 2 (quotedReading '"')).andThen endingReading c ++
          ((remember 2 (quotedReading '\x60')).andThen endingReading c ++
            ((remember 2 bareReading).andThen endingReading c ++ endingReading c))) := by
    simp [valueReading, Reading.optional, remember_orElse, Reading.orElse_andThen, still_andThen,
      Reading.orElse]
  rw [hsplit, List.head?_append, List.head?_append, List.head?_append, head_bareReading hcr,
    head_quotedReading (by decide), head_quotedReading (by decide), head_quotedReading (by decide),
    value]
  have hgroups : ∀ quote v, quotedValue? quote c.rest = some v →
      Statement.valueGroups v = [(2, v.raw)] := fun quote v h =>
    if_neg (raw_ne_nil_of_quotedValue? h)
  cases h₁ : quotedValue? '\'' c.rest with
  | some v => simp [hgroups _ _ h₁]
  | none =>
    cases h₂ : quotedValue? '"' c.rest with
    | some v => simp [hgroups _ _ h₂]
    | none =>
      cases h₃ : quotedValue? '\x60' c.rest with
      | some v => simp [hgroups _ _ h₃]
      | none => simp

/-! ## Statements -/

/-- The preferred way of a separator and a value. -/
theorem head_separatedReading (hcr : '\r' ∉ c.rest) :
    (separatedReading c).head? = (separator? c.rest).map fun s =>
      ⟨s.1 ++ (value s.2).raw ++ (value s.2).ending, Statement.valueGroups (value s.2)⟩ := by
  have hvalue : ∀ c : Cursor, '\r' ∉ c.rest → valueReading c ≠ [] := by
    intro c hcr h
    have hhead := head_valueReading hcr
    rw [h] at hhead
    cases hhead
  have hstops : Stops .blank
      ((Reading.text ['=']).andThen ((again false (one .blank)).andThen valueReading)) :=
    stops_text_andThen (by decide) _
  have hset : separatedReading c =
      ((Reading.text ['=']).andThen ((again false (one .blank)).andThen valueReading)).behind
        (c.rest.takeWhile isBlank) c ++
      (Reading.text [':']).andThen ((again₁ false (one .blank)).andThen valueReading) c := by
    rw [← contains_blank, ← run_andThen hstops]
    simp [separatedReading, Reading.orElse_andThen, Reading.orElse, Reading.andThen_assoc]
  have hrest := rest_move_takeWhile c isBlank
  rw [hset, List.head?_append, behind, List.head?_map, text_andThen, hrest, text_andThen]
  rcases separator?_cases c.rest with ⟨rest, hn, hs⟩ | ⟨x, rest, hn, hx, hs⟩ | ⟨hne, hno, hs⟩
  · have hmove : ((c.move (c.rest.takeWhile isBlank)).move ['=']).rest = rest :=
      Cursor.rest_move (by rw [hrest, hn]; rfl)
    have hcr' : '\r' ∉ ((c.move (c.rest.takeWhile isBlank)).move ['=']).rest :=
      not_mem_rest_move (not_mem_rest_move hcr _) _
    rw [if_pos (by simp [hn]), behind, List.head?_map, head_lazy_andThen (hvalue _ hcr'),
      head_valueReading hcr', hmove, hs]
    simp [Way.append, Way.ofText]
  · have hmove : (c.move [':']).rest = x :: rest := Cursor.rest_move hn
    have hmove' : ((c.move [':']).move [x]).rest = rest := Cursor.rest_move hmove
    have hcr' : '\r' ∉ ((c.move [':']).move [x]).rest :=
      not_mem_rest_move (not_mem_rest_move hcr _) _
    have hdrop : c.rest.dropWhile isBlank = ':' :: x :: rest := by
      rw [hn, List.dropWhile_cons_of_neg (by decide)]
    rw [hdrop, if_neg (by simp), if_pos (by simp [hn]), behind, List.head?_map,
      head_lazy₁_andThen hmove hx (hvalue _ hcr'), behind, List.head?_map, head_valueReading hcr',
      hmove', hs]
    simp [Way.append, Way.ofText]
  · have hequal : ¬ ['='] <+: c.rest.dropWhile isBlank := by
      rintro ⟨rest, hrest⟩
      exact hne rest hrest.symm
    have hcolon : (again₁ false (one .blank)).andThen valueReading (c.move [':']) = [] ∨
        ¬ [':'] <+: c.rest := by
      by_cases hpre : [':'] <+: c.rest
      · obtain ⟨ys, hys⟩ := hpre
        have hmove : (c.move [':']).rest = ys := Cursor.rest_move hys.symm
        refine .inl ?_
        rw [Reading.andThen, again₁_one_of_head (by
          intro x hx
          rw [hmove] at hx
          obtain ⟨zs, rfl⟩ := List.head?_eq_some_iff.1 hx
          exact hno x zs hys.symm)]
        rfl
      · exact .inr hpre
    rw [if_neg hequal, hs]
    rcases hcolon with h | h <;> simp [h, behind]

/-- No key starts with a blank. -/
theorem stops_unexported : Stops .blank unexportedReading := by
  intro c x xs hrest hx
  have hkey : again₁ true (one keyChars) c = [] := again₁_one_of_head (by
    intro y hy
    obtain rfl : x = y := by simpa [hrest] using hy
    exact not_isKeyChar_of_isBlank hx)
  simp [unexportedReading, Reading.andThen, remember, hkey]

/-- No separator starts with a character of a key. -/
theorem stops_separated : Stops keyChars separatedReading := by
  intro c x xs hrest hx
  have hblank := not_isBlank_of_isKeyChar hx
  have hrun : ∀ greedy, again greedy (one .blank) c = [.still] := fun greedy =>
    again_one_of_head (by
      intro y hy
      obtain rfl : x = y := by simpa [hrest] using hy
      exact hblank)
  have hequal : x ≠ '=' := by
    rintro rfl
    exact absurd hx (by decide)
  have hcolon : x ≠ ':' := by
    rintro rfl
    exact absurd hx (by decide)
  simp [separatedReading, Reading.andThen, Reading.orElse, hrun, text_eq, hrest, Ne.symm hequal,
    Ne.symm hcolon]

/-- The preferred way of an assignment without `export`. -/
theorem head_unexportedReading (hcr : '\r' ∉ c.rest) (lead : List Char) :
    (unexportedReading c).head?.map (Way.ofText lead).append =
      (unexported? lead c.rest).map fun o => o.statement.way := by
  have hrest := rest_move_takeWhile c isKeyChar
  rw [unexportedReading, remember_run₁_andThen stops_separated, contains_keyChars, unexported?]
  by_cases hkey : c.rest.takeWhile isKeyChar = []
  · simp [hkey]
  · rw [if_neg hkey, if_neg hkey, List.head?_map,
      head_separatedReading (not_mem_rest_move hcr _), hrest]
    simp only [Option.map_map]
    congr 1
    funext s
    simp [Way.append, Way.ofText, Statement.way, Statement.text, Opening.statement]

/-- The preferred way of an assignment with `export`. -/
theorem head_exportedReading (hcr : '\r' ∉ c.rest) (lead : List Char) :
    ((Reading.text exportWord).andThen ((again₁ true (one .blank)).andThen unexportedReading)
      c).head?.map (Way.ofText lead).append = (exported? lead c.rest).map
        fun o => o.statement.way := by
  rw [text_andThen, exported?]
  by_cases hword : exportWord <+: c.rest
  · have hdrop : (c.move exportWord).rest = c.rest.drop exportWord.length := rfl
    have hrest := rest_move_takeWhile (c.move exportWord) isBlank
    rw [if_pos hword, if_pos hword, behind, run₁_andThen stops_unexported, contains_blank]
    simp only [hdrop] at hrest ⊢
    by_cases hblanks : (c.rest.drop exportWord.length).takeWhile isBlank = []
    · simp [hblanks]
    · have hcr' := not_mem_rest_move (not_mem_rest_move hcr exportWord)
        ((c.rest.drop exportWord.length).takeWhile isBlank)
      rw [if_neg hblanks, if_neg hblanks, ← hrest, ← head_unexportedReading hcr', behind,
        List.head?_map, List.head?_map, Option.map_map, Option.map_map]
      congr 1
      funext w
      simp [Way.append, Way.ofText]
  · simp [if_neg hword]

/-- The preferred way of an assignment. -/
theorem head_statementReading (hcr : '\r' ∉ c.rest) (lead : List Char) :
    (statementReading c).head?.map (Way.ofText lead).append =
      ((exported? lead c.rest).or (unexported? lead c.rest)).map fun o => o.statement.way := by
  have hset : statementReading c = (Reading.text exportWord).andThen
      ((again₁ true (one .blank)).andThen unexportedReading) c ++ unexportedReading c := by
    simp [statementReading, Reading.optional, Reading.orElse_andThen, Reading.andThen_assoc,
      still_andThen, Reading.orElse]
  rw [hset, List.head?_append, Option.map_or, head_exportedReading hcr,
    head_unexportedReading hcr, Option.map_or]

/-- No statement starts with a blank. -/
theorem stops_statement : Stops .blank statementReading := by
  intro c x xs hrest hx
  have hword : ¬ exportWord <+: c.rest := by
    rw [hrest]
    rintro ⟨ys, hys⟩
    obtain rfl : 'e' = x := (List.cons.inj hys).1
    exact absurd hx (by decide)
  simp [statementReading, Reading.optional, Reading.orElse_andThen, Reading.andThen_assoc,
    still_andThen, Reading.orElse, text_andThen, hword, stops_unexported c x xs hrest hx]

/-- The preferred way of an assignment at the start of a line is the statement there. -/
theorem head_ways_assignment (hcr : '\r' ∉ c.rest) (hstart : (Edge.lineStart false).holds c) :
    (assignment.ways c).head? = (statement? c.rest).map Statement.way := by
  have hways : assignment.ways c = statementReading.behind (c.rest.takeWhile isBlank) c := by
    have hstill : Way.still.append = id := funext Way.still_append
    rw [← contains_blank, ← run_andThen stops_statement, ways_assignment]
    simp [Reading.andThen, edge, hstart, hstill]
  have hrest := rest_move_takeWhile c isBlank
  rw [hways, behind, List.head?_map, head_statementReading (not_mem_rest_move hcr _), hrest,
    statement?, Option.map_map]
  rfl

/-- An assignment starts a line. -/
theorem ways_assignment_eq_nil (hstart : (Edge.lineStart false).holds c = false) :
    assignment.ways c = [] := by
  rw [ways_assignment]
  simp [Reading.andThen, edge, hstart]

/-- What is preferred is a statement at the start of a line. -/
theorem exists_statement_of_head (hcr : '\r' ∉ c.rest) {w : Way}
    (hw : (assignment.ways c).head? = some w) :
    (Edge.lineStart false).holds c ∧ ∃ s, statement? c.rest = some s ∧ s.way = w := by
  have hstart : (Edge.lineStart false).holds c = true := by
    by_contra hstart
    simp [ways_assignment_eq_nil (Bool.not_eq_true _ ▸ hstart)] at hw
  rw [head_ways_assignment hcr hstart] at hw
  exact ⟨hstart, Option.map_eq_some_iff.1 hw⟩

end EnvAudit.Dotenv
