import EnvAudit.Proofs.Dotenv.Written

/-!
# EnvAudit.Proofs.Dotenv.Appended

Assignments appended to a text, whatever the text is:

1. a value stays what it is when lines without quotes follow, also one whose quotes are still open
   (`raw_value_append`);
2. what is assigned in the text stays assigned, with the values it has; at most a last `KEY:`
   becomes an assignment of nothing (`exists_assignments_append`).

Main statements: behind an empty line, appended assignments are read as they are meant
(`getElem?_declared_append`), and no name that was declared before is lost
(`declares_declared_append`).
-/

namespace EnvAudit.Dotenv

/-! ## Values that stay -/

variable {more : List Char}

/-- A text without the quote has nowhere to close. -/
theorem closings_of_not_mem {quote : Char} {text : List Char} (h : quote ∉ text) :
    closings quote text = [] := by
  by_contra hne
  obtain ⟨k, hk⟩ := List.exists_mem_of_ne_nil _ hne
  exact h (eq_of_mem_closings hk ▸ by simp)

/-- A text without the quote adds no place where a quoted value may close. -/
theorem closings_append_of_not_mem {quote : Char} (hquote : quote ≠ '\\') (hmore : quote ∉ more)
    (text : List Char) :
    closings quote (text ++ more) = (closings quote text).map fun k => (k.1, k.2 ++ more) := by
  fun_induction closings quote text with
  | case1 => simp [closings_of_not_mem hmore]
  | case2 rest ih => simp [closings, ih]
  | case3 x rest hx ih =>
    rw [List.cons_append, List.cons_append, closings.eq_2, if_neg hx, ← List.cons_append, ih]
    simp
  | case4 rest => simp [closings_cons hquote]
  | case5 x rest hesc hx ih =>
    by_cases hback : x = '\\'
    · subst hback
      cases rest with
      | cons y rest => exact absurd rfl (hesc y rest rfl)
      | nil =>
        cases more with
        | nil => simp [closings, hx]
        | cons y more =>
          have hy : y ≠ quote := fun h => hmore (by simp [h])
          have hnil : closings quote (y :: more) = [] := closings_of_not_mem hmore
          simp [closings, hy, hnil]
    · simp [closings_cons hback, hx, ih]

/-- Whether a line ends does not change when text is added below. -/
theorem isSome_ending?_append_line (text more : List Char) :
    (ending? (text ++ '\n' :: more)).isSome = (ending? text).isSome := by
  fun_induction ending? text with
  | case1 =>
    rw [List.nil_append, ending?, if_pos (by decide), if_pos rfl, Option.isSome_or]
    simp
  | case2 c rest hc ih =>
    rw [List.cons_append, ending?, if_pos hc, Option.isSome_or, Option.isSome_or, Option.isSome_map,
      Option.isSome_map, ih]
    split <;> simp
  | case3 rest hc => rw [List.cons_append, ending?, if_neg hc, if_pos rfl]; rfl
  | case4 c rest hc hhash => rw [List.cons_append, ending?, if_neg hc, if_neg hhash]

/-- A quoted value is not changed by text below that has no quotes. -/
theorem raw_quotedValue?_append {quote : Char} (hquote : isQuote quote) (hmore : quote ∉ more)
    (text : List Char) :
    (quotedValue? quote (text ++ '\n' :: more)).map Value.raw =
      (quotedValue? quote text).map Value.raw := by
  have hline : quote ∉ '\n' :: more := by
    have hne : quote ≠ '\n' := by
      rintro rfl
      exact absurd hquote (by decide)
    simp [hne, hmore]
  cases hdrop : text.dropWhile isBlank with
  | nil =>
    have hnone : quotedValue? quote (text ++ '\n' :: more) = none := by
      cases h : quotedValue? quote (text ++ '\n' :: more) with
      | none => rfl
      | some v =>
        have hhead := head?_of_quotedValue? h
        rw [List.dropWhile_append_of_pos (List.dropWhile_eq_nil_iff.1 hdrop)] at hhead
        exact absurd ((List.dropWhile_sublist _).subset (List.mem_of_mem_head? hhead)) hline
    have hnone' : quotedValue? quote text = none := by simp [quotedValue?, hdrop]
    rw [hnone, hnone']
  | cons c rest =>
    have hne : text.dropWhile isBlank ≠ [] := by simp [hdrop]
    simp only [quotedValue?, takeWhile_append_of_dropWhile hne, dropWhile_append_of_dropWhile hne,
      hdrop, List.cons_append]
    split
    · rw [closings_append_of_not_mem (ne_backslash_of_isQuote hquote) hline, List.findSome?_map,
        List.map_findSome?, List.map_findSome?]
      refine findSome?_congr fun k _ => ?_
      have hending := isSome_ending?_append_line k.2 more
      simp only [Function.comp_apply, Option.map_map]
      cases h : ending? k.2 with
      | none =>
        rw [h, Option.isSome_none, Option.isSome_eq_false_iff, Option.isNone_iff_eq_none] at hending
        simp [hending]
      | some e =>
        rw [h, Option.isSome_some, Option.isSome_iff_exists] at hending
        obtain ⟨e', he'⟩ := hending
        simp [he']
    · rfl

/-- A value stays what it is when lines without quotes follow. -/
theorem raw_value_append (hmore : ∀ c ∈ more, isQuote c = false) (text : List Char) :
    (value (text ++ '\n' :: more)).raw = (value text).raw := by
  have hfree : ∀ quote, isQuote quote → quote ∉ more := fun quote hquote hmem => by
    simp [hmore quote hmem] at hquote
  have hraw : ∀ (o : Option Value) (v : Value), (o.getD v).raw = (o.map Value.raw).getD v.raw := by
    intro o v
    cases o <;> rfl
  have hbare : isBare '\n' = false := by decide
  simp only [value, hraw, Option.map_or, bareValue, takeWhile_append_cons hbare]
  rw [raw_quotedValue?_append (by decide) (hfree '\'' (by decide)),
    raw_quotedValue?_append (by decide) (hfree '"' (by decide)),
    raw_quotedValue?_append (by decide) (hfree '\x60' (by decide))]

/-! ## Texts that assign nothing -/

/-- Without a separator nothing is assigned. -/
theorem assignments_eq_nil {text : List Char} (hequal : '=' ∉ text) (hcolon : ':' ∉ text.dropLast) :
    (readFrom text).assignments = [] := by
  induction hn : text.length using Nat.strongRecOn generalizing text with
  | ind n ih =>
    have hnone : statement? text = none := by
      rw [statement?, Option.map_eq_none_iff]
      by_contra hne
      obtain ⟨o, ho⟩ := Option.ne_none_iff_exists'.1 hne
      have hstarts := starts_of_opening? ho
      have htext := hstarts.append
      rcases hstarts.separator with h | ⟨x, h⟩
      · exact hequal (htext ▸ by simp [h])
      · refine hcolon ?_
        rw [← htext, h]
        simp [List.dropLast_append_of_ne_nil]
    rcases afterLine_eq_nil_or text with hrest | ⟨rest, hrest⟩
    · rw [readFrom_of_end hnone hrest]
      rfl
    · have hsplit : text = (firstLine text ++ ['\n']) ++ rest := by
        conv_lhs => rw [← firstLine_append_afterLine text, hrest]
        simp
      have hlt : rest.length < n := by
        have hlength := congrArg List.length hsplit
        simp only [List.length_append, List.length_singleton] at hlength
        omega
      rw [readFrom_of_none hnone hrest, assignments_append]
      refine ih _ hlt (fun h => hequal (hsplit ▸ by simp [h])) (fun h => hcolon ?_) rfl
      have hne : rest ≠ [] := by
        rintro rfl
        simp at h
      rw [hsplit, List.dropLast_append_of_ne_nil hne]
      exact List.mem_append_right _ h

/-- What stands before the place for a key is white space and maybe `export`. -/
theorem exists_before_keyStart {text start : List Char} (hmem : start ∈ keyStarts text) :
    ∃ before, text = before ++ start ∧ ∀ c ∈ before, isBlank c ∨ isKeyChar c := by
  have hlead := List.takeWhile_append_dropWhile (p := isBlank) (l := text)
  have hblank : ∀ c ∈ text.takeWhile isBlank, isBlank c := fun c hc => List.mem_takeWhile_imp hc
  rcases keyStarts_cases text with hstarts | ⟨c, behind, hc, hbody, hstarts⟩
  · obtain rfl : start = text.dropWhile isBlank := by simpa [hstarts] using hmem
    exact ⟨_, hlead.symm, fun c hc => .inl (hblank c hc)⟩
  · rcases (by simpa [hstarts] using hmem : start = _ ∨ start = _) with rfl | rfl
    · exact ⟨_, hlead.symm, fun c hc => .inl (hblank c hc)⟩
    · refine ⟨text.takeWhile isBlank ++ (exportWord ++ c :: behind.takeWhile isBlank), ?_, ?_⟩
      · conv_lhs => rw [← hlead, hbody]
        simp [List.takeWhile_append_dropWhile]
      · intro x hx
        simp only [List.mem_append, List.mem_cons] at hx
        rcases hx with hx | hx | rfl | hx
        · exact .inl (hblank x hx)
        · exact .inr (isKeyChar_of_mem_exportWord _ hx)
        · exact .inl hc
        · exact .inl (List.mem_takeWhile_imp hx)

/-- A text that leaves something open holds no separator. -/
theorem chars_of_leavesOpen {text : List Char} (h : LeavesOpen text more) :
    ∃ chars, (text = chars ∨ text = chars ++ [':']) ∧ ∀ c ∈ chars, isBlank c ∨ isKeyChar c := by
  have hkey : ∀ start : List Char, ∀ c ∈ start.takeWhile isKeyChar, isBlank c ∨ isKeyChar c :=
    fun start c hc => .inr (List.mem_takeWhile_imp hc)
  cases h with
  | colon start hmem _ hcolon =>
    obtain ⟨before, htext, hbefore⟩ := exists_before_keyStart hmem
    refine ⟨before ++ start.takeWhile isKeyChar, .inr ?_, fun c hc => ?_⟩
    · rw [List.append_assoc, ← hcolon, List.takeWhile_append_dropWhile]
      exact htext
    · exact (List.mem_append.1 hc).elim (hbefore c) (hkey start c)
  | equal start hmem _ hblanks _ =>
    obtain ⟨before, htext, hbefore⟩ := exists_before_keyStart hmem
    refine ⟨text, .inl rfl, fun c hc => ?_⟩
    rw [htext] at hc
    rcases List.mem_append.1 hc with hc | hc
    · exact hbefore c hc
    · rw [← List.takeWhile_append_dropWhile (p := isKeyChar) (l := start)] at hc
      exact (List.mem_append.1 hc).elim (hkey start c) fun hc => .inl (hblanks c hc)
  | key hword _ =>
    obtain ⟨blanks, hbody, hblanks⟩ := hword
    refine ⟨text, .inl rfl, fun c hc => ?_⟩
    rw [← List.takeWhile_append_dropWhile (p := isBlank) (l := text), hbody] at hc
    simp only [List.mem_append] at hc
    rcases hc with hc | hc | hc
    · exact .inl (List.mem_takeWhile_imp hc)
    · exact .inr (isKeyChar_of_mem_exportWord _ hc)
    · exact .inl (hblanks c hc)

/-- A text that leaves a statement open assigns nothing by itself. -/
theorem assignments_of_leavesOpen {text : List Char} (h : LeavesOpen text more) :
    (readFrom text).assignments = [] := by
  obtain ⟨chars, htext, hchars⟩ := chars_of_leavesOpen h
  have hfree : ∀ x, isBlank x = false → isKeyChar x = false → x ∉ chars := by
    intro x hblank hkey hx
    rcases hchars x hx with hx | hx <;> simp_all
  have hequal := hfree '=' (by decide) (by decide)
  have hcolon := hfree ':' (by decide) (by decide)
  rcases htext with rfl | rfl
  · exact assignments_eq_nil hequal fun h => hcolon (List.dropLast_subset _ h)
  · exact assignments_eq_nil (by simp [hequal]) (by simpa using hcolon)

/-! ## What stays assigned -/

/-- Reading goes on behind what the value took. -/
theorem readFrom_rest_value {text : List Char} (hcr : '\r' ∉ text) :
    ∃ behind, text = (value text).raw ++ behind ∧
      readFrom (value text).rest = readFrom behind :=
  ⟨_, (append_value text).symm, (readFrom_of_ending? (ending_value hcr)).symm⟩

/-- A value that stays what it is leaves the same text behind it, and what follows. -/
theorem readFrom_rest_value_append (hmore : ∀ c ∈ more, isQuote c = false) {text : List Char}
    (hcr : '\r' ∉ text ++ '\n' :: more) :
    ∃ behind, text = (value text).raw ++ behind ∧
      readFrom (value text).rest = readFrom behind ∧
      readFrom (value (text ++ '\n' :: more)).rest = readFrom (behind ++ '\n' :: more) := by
  obtain ⟨behind, htext, hread⟩ := readFrom_rest_value fun h => hcr (List.mem_append_left _ h)
  obtain ⟨behind', htext', hread'⟩ := readFrom_rest_value hcr
  have hsame : behind' = behind ++ '\n' :: more := by
    rw [raw_value_append hmore] at htext'
    have hboth : (value text).raw ++ behind' = (value text).raw ++ (behind ++ '\n' :: more) := by
      rw [← htext', ← List.append_assoc, ← htext]
    exact List.append_cancel_left hboth
  exact ⟨behind, htext, hread, hsame ▸ hread'⟩

/-- A last `KEY:` assigns nothing to its key when a blank line follows. -/
theorem readFrom_append_of_colon {text start : List Char} (hmem : start ∈ keyStarts text)
    (hkey : start.takeWhile isKeyChar ≠ []) (hcolon : start.dropWhile isKeyChar = [':'])
    (hmore : ∀ c ∈ more, isQuote c = false) (hcr : '\r' ∉ more) :
    readFrom (text ++ '\n' :: '\n' :: more) =
      ⟨[(.ofList (start.takeWhile isKeyChar), "")], []⟩ ++ readFrom more := by
  have hline : isKeyChar '\n' = false := by decide
  have hopens : unexported? [] (start ++ '\n' :: '\n' :: more) =
      some ⟨[], start.takeWhile isKeyChar, [':', '\n'], '\n' :: more⟩ := by
    have hcolon' : isBlank ':' = false := by decide
    have hline' : isBlank '\n' = true := by decide
    simp [unexported?, takeWhile_append_cons hline, dropWhile_append_cons hline, hkey, hcolon,
      separator?, hcolon', hline']
  obtain ⟨lead, hlead⟩ := opening?_of_start (append_mem_keyStarts hmem hkey _) hopens
  have hraw : (value ('\n' :: more)).raw = [] := by
    have hfree : ∀ c ∈ '\n' :: more, isQuote c = false := by
      simpa using ⟨by decide, hmore⟩
    have hbare : isBare '\n' = false := by decide
    simp [value_eq_bareValue hfree, bareValue, hbare]
  have hcr' : '\r' ∉ '\n' :: more := by simp [hcr]
  obtain ⟨behind, htext, hread⟩ := readFrom_rest_value hcr'
  rw [hraw, List.nil_append] at htext
  rw [readFrom_of_opening hlead, hread, ← htext, readFrom_cons_of_isBlank (by decide)]
  simp only [ofStatement, Statement.pair, Opening.statement, hraw]
  rfl

/-- A last `export` makes no difference when an assignment follows. -/
theorem readFrom_append_of_awaitsKey {text : List Char} (hword : AwaitsKey text) {o : Opening}
    (h : unexported? [] (more.dropWhile isBlank) = some o) :
    readFrom (text ++ '\n' :: more) = readFrom more := by
  obtain ⟨lead, hlead⟩ := opening?_of_start
    (by rw [keyStarts_of_awaitsKey hword]; simp : _ ∈ keyStarts (text ++ '\n' :: more)) h
  obtain ⟨lead', hlead'⟩ := opening?_of_start (body_mem_keyStarts more) h
  rw [readFrom_of_opening hlead, readFrom_of_opening hlead']
  rfl

/-- What a text leaves open is completed by lines that start with an assignment; at most a name
without a value comes of it. -/
theorem readFrom_append_of_leavesOpen (hmore : ∀ c ∈ more, isQuote c = false) {o : Opening}
    (hopens : unexported? [] (more.dropWhile isBlank) = some o) {text : List Char}
    (hcr : '\r' ∉ more) (hcolon : text.getLast? = some ':' → more.head? = some '\n')
    (hopen : LeavesOpen text more) :
    ∃ extra, readFrom (text ++ '\n' :: more) = ⟨extra, []⟩ ++ readFrom more := by
  cases hopen with
  | colon start hmem hkey hbehind =>
    obtain ⟨before, htext, -⟩ := exists_before_keyStart hmem
    have hlast : text.getLast? = some ':' := by
      rw [htext, ← List.takeWhile_append_dropWhile (p := isKeyChar) (l := start), hbehind]
      simp
    obtain ⟨rest, rfl⟩ := List.head?_eq_some_iff.1 (hcolon hlast)
    have hfree : ∀ c ∈ rest, isQuote c = false := fun c hc => hmore c (by simp [hc])
    refine ⟨[(.ofList (start.takeWhile isKeyChar), "")], ?_⟩
    rw [readFrom_append_of_colon hmem hkey hbehind hfree fun h => hcr (by simp [h]),
      readFrom_cons_of_isBlank (by decide)]
  | equal start hmem hkey hblanks hequal =>
    have hnone : unexported? [] (more.dropWhile isBlank) = none := by
      refine unexported?_eq_none_of_head ?_
      rw [hequal]
      simpa using (by decide : isKeyChar '=' = false)
    rw [hnone] at hopens
    cases hopens
  | key hword _ => exact ⟨[], readFrom_append_of_awaitsKey hword hopens⟩

/-- Part of a text is read in the same way with and without lines behind the text, and reading goes
on with what is left of it. -/
structure ReadsOn (text more rest : List Char) (d : Dotenv) : Prop where
  suffix : rest <:+ text
  lt : rest.length < text.length
  eq : readFrom text = d ++ readFrom rest
  eq_append : readFrom (text ++ '\n' :: more) = d ++ readFrom (rest ++ '\n' :: more)

/-- Behind an assignment the reading of the text and of the longer text go on alike. -/
theorem readsOn_of_opening (hmore : ∀ c ∈ more, isQuote c = false) {text : List Char}
    (hcr : '\r' ∉ text ++ '\n' :: more) {o : Opening} (h : opening? text = some o) :
    ∃ rest, ReadsOn text more rest (ofStatement o.statement) := by
  have hstarts := starts_of_opening? h
  have hsuffix : o.rest <:+ text := ⟨_, hstarts.append⟩
  have hcr' : '\r' ∉ o.rest ++ '\n' :: more := fun hc => hcr (by
    rcases List.mem_append.1 hc with hc | hc
    · exact List.mem_append_left _ (hsuffix.subset hc)
    · exact List.mem_append_right _ hc)
  obtain ⟨rest, hrest, hread, hread'⟩ := readFrom_rest_value_append hmore hcr'
  have hpair : ofStatement (Opening.statement { o with rest := o.rest ++ '\n' :: more }) =
      ofStatement o.statement := by
    simp only [ofStatement, Statement.pair, Opening.statement, raw_value_append hmore]
  refine ⟨rest, .trans ⟨_, hrest.symm⟩ hsuffix, ?_, ?_, ?_⟩
  · have hkey := List.length_pos_iff.2 hstarts.key_ne_nil
    have hlength := congrArg List.length hstarts.append
    have hlength' := congrArg List.length hrest
    simp only [List.length_append] at hlength hlength'
    omega
  · rw [readFrom_of_opening h, hread]
  · rw [readFrom_of_opening (opening?_append h _), hpair, hread']

/-- Behind a line that is no assignment the two readings go on alike. -/
theorem readsOn_of_none {line rest : List Char} (hline : '\n' ∉ line)
    (h : statement? (line ++ '\n' :: rest) = none)
    (h' : statement? (line ++ '\n' :: rest ++ '\n' :: more) = none) :
    ReadsOn (line ++ '\n' :: rest) more rest (ofStray line) := by
  refine ⟨⟨line ++ ['\n'], by simp⟩, by simp; omega, readFrom_lines_of_none hline h, ?_⟩
  rw [List.append_assoc, List.cons_append] at h' ⊢
  exact readFrom_lines_of_none hline h'

/-- What is assigned in a text stays assigned when lines that start with an assignment follow. -/
theorem exists_assignments_append (hmore : ∀ c ∈ more, isQuote c = false) {o : Opening}
    (hopens : unexported? [] (more.dropWhile isBlank) = some o) {text : List Char}
    (hcr : '\r' ∉ text ++ '\n' :: more)
    (hcolon : text.getLast? = some ':' → more.head? = some '\n') :
    ∃ extra, (readFrom (text ++ '\n' :: more)).assignments =
      (readFrom text).assignments ++ extra ++ (readFrom more).assignments := by
  induction hn : text.length using Nat.strongRecOn generalizing text with
  | ind n ih =>
    have hon : ∀ {rest : List Char} {d : Dotenv}, ReadsOn text more rest d →
        ∃ extra, (readFrom (text ++ '\n' :: more)).assignments =
          (readFrom text).assignments ++ extra ++ (readFrom more).assignments := by
      intro rest d h
      obtain ⟨before, hbefore⟩ := h.suffix
      have hcr' : '\r' ∉ rest ++ '\n' :: more := fun hc => hcr (by
        rw [← hbefore, List.append_assoc]
        exact List.mem_append_right _ hc)
      have hcolon' : rest.getLast? = some ':' → more.head? = some '\n' := fun hlast => hcolon (by
        rw [← hbefore, List.getLast?_append, hlast]
        rfl)
      obtain ⟨extra, hextra⟩ := ih _ (hn ▸ h.lt) hcr' hcolon' rfl
      refine ⟨extra, ?_⟩
      rw [h.eq, h.eq_append, assignments_append, assignments_append, hextra]
      simp
    cases ho : opening? text with
    | some o =>
      obtain ⟨rest, h⟩ := readsOn_of_opening hmore hcr ho
      exact hon h
    | none =>
      have hnone : statement? text = none := by
        rw [statement?, ho]
        rfl
      by_cases hbody : text.dropWhile isBlank = []
      · have hblank := List.dropWhile_eq_nil_iff.1 hbody
        refine ⟨[], ?_⟩
        rw [readFrom_append_line_of_isBlank hblank, readFrom_of_isBlank hblank]
        rfl
      · by_cases hopen : LeavesOpen text more
        · have hcr' : '\r' ∉ more := fun hc => hcr (by simp [hc])
          obtain ⟨extra, hextra⟩ := readFrom_append_of_leavesOpen hmore hopens hcr' hcolon hopen
          refine ⟨extra, ?_⟩
          rw [assignments_of_leavesOpen hopen, hextra]
          rfl
        · have hnone' := statement?_append_line_eq_none hbody hnone hopen
          rcases eq_line_or text with hline | ⟨line, rest, hline, rfl⟩
          · refine ⟨[], ?_⟩
            rw [readFrom_lines_of_none hline hnone', readFrom_line_of_none hline hnone]
            rfl
          · exact hon (readsOn_of_none hline hnone hnone')

/-! ## Declaring lines -/

/-- A name that can be a key. -/
def IsKey (name : String) : Prop := name.toList ≠ [] ∧ ∀ c ∈ name.toList, isKeyChar c

/-- Lines that declare names, each with the value `1`. -/
def declaring (names : List String) : String := .join (names.map fun name => name ++ "=1\n")

theorem toList_declaring_nil : (declaring []).toList = [] := by
  simp [declaring]

theorem toList_declaring_cons (name : String) (names : List String) :
    (declaring (name :: names)).toList =
      name.toList ++ '=' :: '1' :: '\n' :: (declaring names).toList := by
  simp [declaring]

/-- The assignment of `1` to a name. -/
def assignOne (name : String) (h : IsKey name) : WrittenAssignment where
  lead := ⟨[], by simp⟩
  exported := none
  key := ⟨name.toList, h⟩
  separator := .equal ⟨[], by simp⟩ ⟨[], by simp⟩
  value := .bare ['1'] (forall_mem_of_all (by decide)) (by rintro _ ⟨⟩; decide)
    (by rintro _ ⟨⟩; decide)
  trail := ⟨[], by simp⟩
  comment := none

variable {names : List String}

theorem isKeyChar_head?_declaring (h : ∀ name ∈ names, IsKey name) :
    ∀ c ∈ (declaring names).toList.head?, isKeyChar c := by
  intro c hc
  cases names with
  | nil => simp [toList_declaring_nil] at hc
  | cons name names =>
    obtain ⟨hne, hkey⟩ := h name (by simp)
    rw [toList_declaring_cons, List.head?_append_of_ne_nil _ hne] at hc
    exact hkey c (List.mem_of_mem_head? hc)

theorem dropWhile_isBlank_declaring (h : ∀ name ∈ names, IsKey name) :
    (declaring names).toList.dropWhile isBlank = (declaring names).toList := by
  cases hcons : (declaring names).toList with
  | nil => rfl
  | cons c rest =>
    have hc := not_isBlank_of_isKeyChar (isKeyChar_head?_declaring h c (by simp [hcons]))
    exact List.dropWhile_cons_of_neg (by simp [hc])

/-- What is added reads as the names, each with the value `1`. -/
theorem readFrom_declaring (h : ∀ name ∈ names, IsKey name) :
    readFrom (declaring names).toList = ⟨names.map fun name => (name, "1"), []⟩ := by
  induction names with
  | nil => rw [toList_declaring_nil, readFrom_nil]; rfl
  | cons name names ih =>
    have hnames : ∀ name ∈ names, IsKey name := fun n hn => h n (by simp [hn])
    have hfollows : Follows ('\n' :: (declaring names).toList) := by
      refine .inr ⟨_, rfl, fun c hc => ?_⟩
      rw [dropWhile_isBlank_declaring hnames] at hc
      exact not_isQuote_of_isKeyChar (isKeyChar_head?_declaring hnames c hc)
    have hchars : (declaring (name :: names)).toList =
        (assignOne name (h name (by simp))).chars ++ '\n' :: (declaring names).toList := by
      rw [toList_declaring_cons]
      simp [WrittenAssignment.chars, WrittenAssignment.exportChars, assignOne,
        WrittenSeparator.chars, WrittenValue.chars, commentChars]
    have hpair : (assignOne name (h name (by simp))).pair = (name, "1") := by
      simp [WrittenAssignment.pair, assignOne, WrittenValue.meaning]
    rw [hchars, readFrom_assignment _ hfollows, hpair, readFrom_cons_of_isBlank (by decide),
      ih hnames]
    rfl

/-- The characters of declaring lines neither quote nor return the carriage. -/
theorem mem_declaring (h : ∀ name ∈ names, IsKey name) {c : Char}
    (hc : c ∈ (declaring names).toList) : isQuote c = false ∧ c ≠ '\r' := by
  induction names with
  | nil => simp [toList_declaring_nil] at hc
  | cons name names ih =>
    rw [toList_declaring_cons] at hc
    simp only [List.mem_append, List.mem_cons] at hc
    rcases hc with hc | rfl | rfl | rfl | hc
    · have hkey := (h name (by simp)).2 c hc
      refine ⟨not_isQuote_of_isKeyChar hkey, ?_⟩
      rintro rfl
      exact absurd hkey (by decide)
    · decide
    · decide
    · decide
    · exact ih (fun n hn => h n (by simp [hn])) hc

/-- What is added opens a statement. -/
theorem unexported?_declaring (hne : names ≠ []) (h : ∀ name ∈ names, IsKey name) :
    ∃ o, unexported? [] (declaring names).toList = some o := by
  cases names with
  | nil => exact absurd rfl hne
  | cons name names =>
    obtain ⟨s, after, hs⟩ := unexported?_written (assignOne name (h name (by simp)))
      ('1' :: '\n' :: (declaring names).toList) []
    refine ⟨_, Eq.trans ?_ hs⟩
    rw [toList_declaring_cons]
    simp [assignOne, WrittenSeparator.chars]

/-- What is read in a text that an empty line and declaring lines are appended to. -/
theorem exists_assignments_declaring (hne : names ≠ []) (h : ∀ name ∈ names, IsKey name)
    (text : String) :
    ∃ extra, (read (text ++ "\n\n" ++ declaring names)).assignments =
      (read text).assignments ++ extra ++ names.map fun name => (name, "1") := by
  have hquote : ∀ c ∈ (declaring names).toList, isQuote c = false := fun c hc =>
    (mem_declaring h hc).1
  have hcr : '\r' ∉ (declaring names).toList := fun hc => (mem_declaring h hc).2 rfl
  obtain ⟨o, ho⟩ := unexported?_declaring hne h
  have hdropWhile := dropWhile_isBlank_declaring h
  rw [read_eq_readFrom, read_eq_readFrom, String.toList_append, String.toList_append]
  rw [show "\n\n".toList = ['\n', '\n'] from rfl, List.append_assoc]
  have hcr₁ : '\r' ∉ '\n' :: (declaring names).toList := by simpa using hcr
  have hcr₂ : '\r' ∉ '\n' :: '\n' :: (declaring names).toList := by simpa using hcr
  have hwhole : ∀ more, '\r' ∉ more → '\r' ∉ unifyLineEnds text.toList ++ more := by
    simp [not_mem_unifyLineEnds]
  by_cases hlast : text.toList.getLast? = some '\r'
  · -- The first `\n` ends the line that the last `\r` of the text ends already.
    obtain ⟨init, hinit⟩ := List.getLast?_eq_some_iff.1 hlast
    have hunify : unifyLineEnds (text.toList ++ (['\n', '\n'] ++ (declaring names).toList)) =
        unifyLineEnds text.toList ++ '\n' :: (declaring names).toList := by
      rw [hinit, show init ++ ['\r'] ++ (['\n', '\n'] ++ (declaring names).toList) =
        init ++ ['\r', '\n'] ++ '\n' :: (declaring names).toList by simp,
        unifyLineEnds_append (by simp), unifyLineEnds_crlf, unifyLineEnds_of_not_mem hcr₁]
    rw [hunify]
    have hcolon : (unifyLineEnds text.toList).getLast? ≠ some ':' := by
      rw [hinit, getLast?_unifyLineEnds]
      simp
    have hassignments := exists_assignments_append hquote (by rwa [hdropWhile])
      (hwhole _ hcr₁) fun h => absurd h hcolon
    rwa [readFrom_declaring h] at hassignments
  · have hunify : unifyLineEnds (text.toList ++ (['\n', '\n'] ++ (declaring names).toList)) =
        unifyLineEnds text.toList ++ '\n' :: '\n' :: (declaring names).toList := by
      rw [unifyLineEnds_append hlast]
      exact congrArg _ (unifyLineEnds_of_not_mem hcr₂)
    rw [hunify]
    have hquote' : ∀ c ∈ '\n' :: (declaring names).toList, isQuote c = false := by
      simpa using ⟨by decide, hquote⟩
    have hassignments := exists_assignments_append hquote'
      (by rwa [List.dropWhile_cons_of_pos (by decide), hdropWhile]) (hwhole _ hcr₂) fun _ => rfl
    rwa [readFrom_cons_of_isBlank (by decide), readFrom_declaring h] at hassignments

/-- The variables that a text declares. -/
def declared (text : String) : Variables := .ofPairs (read text).assignments

/-- A text declares the names that it assigns. -/
theorem declares_declared {text name : String} :
    (declared text).declares name ↔ ∃ value, (name, value) ∈ (read text).assignments := by
  rw [Variables.declares, ← Std.TreeMap.mem_iff_contains, ← Std.TreeMap.isSome_getElem?_iff_mem,
    declared, Variables.getElem?_ofPairs, Option.isSome_iff_ne_none, ne_eq, List.lookup_eq_none_iff]
  simp only [List.mem_reverse]
  grind

/-- Names that declaring lines are appended for are declared. -/
theorem getElem?_declared_append (hkey : ∀ name ∈ names, IsKey name) (text : String) {name : String}
    (hname : name ∈ names) : (declared (text ++ "\n\n" ++ declaring names))[name]? = some "1" := by
  obtain ⟨extra, hread⟩ := exists_assignments_declaring (List.ne_nil_of_mem hname) hkey text
  rw [declared, Variables.getElem?_ofPairs, hread, List.reverse_append, List.lookup_append]
  cases hlookup : (names.map fun name => (name, "1")).reverse.lookup name with
  | none =>
    have hne := List.lookup_eq_none_iff.1 hlookup (name, "1") (by simpa using hname)
    simp at hne
  | some value =>
    obtain ⟨before, behind, hsplit, -⟩ := List.lookup_eq_some_iff.1 hlookup
    have hmem : (name, value) ∈ (names.map fun name => (name, "1")).reverse := by simp [hsplit]
    simp only [List.mem_reverse, List.mem_map, Prod.mk.injEq] at hmem
    obtain ⟨-, -, -, rfl⟩ := hmem
    rfl

/-- Names that the text declares stay declared. -/
theorem declares_declared_append (hne : names ≠ []) (hkey : ∀ name ∈ names, IsKey name)
    (text : String) {name : String} (hname : (declared text).declares name) :
    (declared (text ++ "\n\n" ++ declaring names)).declares name := by
  obtain ⟨extra, hread⟩ := exists_assignments_declaring hne hkey text
  obtain ⟨value, hmem⟩ := declares_declared.1 hname
  refine declares_declared.2 ⟨value, ?_⟩
  rw [hread]
  simp [hmem]

end EnvAudit.Dotenv
