import EnvAudit.Proofs.Json.Written
import EnvAudit.Proofs.Text.CharSet

/-!
# EnvAudit.Proofs.Json.ReadWritten

What stands for a value is read as this value:

1. a reader takes some characters if, in front of whatever comes behind them, it goes past them and
   gives a value (`JsonReader.Takes`); readers that are run one after the other take one piece each
   (`JsonReader.Takes.bind`);
2. a text is taken however its characters are written (`JsonReader.takes_quoted`);
3. the items of a list and the members of an object are read in one way, up to a closing character
   (`JsonReader.ReadsEach`), by induction on how they are written;
4. a value is taken behind white space, and in front of what may stand behind it
   (`JsonReader.takes_value`), by induction on how deep lists and objects are nested.

Main statement: `Json.read?_of_written`.
-/

namespace EnvAudit

namespace JsonReader

/-- In front of a text, a reader goes past the characters before it and gives a value. -/
structure Takes {α : Type} (r : JsonReader α) (w : List Char) (a : α) (rest : List Char) :
    Prop where
  run (p : Position) : ∃ p', r ⟨w ++ rest, p⟩ = .ok (a, ⟨rest, p'⟩)

namespace Takes

variable {α β : Type} {r : JsonReader α} {f : α → JsonReader β} {a : α} {b : β}
  {w u rest : List Char}

theorem pure (a : α) (rest : List Char) : Takes (Pure.pure a) [] a rest := ⟨fun p => ⟨p, rfl⟩⟩

/-- A reader that takes a text may be followed by one that takes what comes next. -/
theorem bind (h : Takes r w a (u ++ rest)) (hf : Takes (f a) u b rest) :
    Takes (r >>= f) (w ++ u) b rest := by
  refine ⟨fun p => ?_⟩
  obtain ⟨p', h⟩ := h.run p
  obtain ⟨p'', hf⟩ := hf.run p'
  refine ⟨p'', ?_⟩
  change (r ⟨w ++ u ++ rest, p⟩ >>= fun x => f x.1 x.2) = _
  rw [List.append_assoc, h]
  exact hf

theorem before (h : Takes r [] a (w ++ rest)) (hf : Takes (f a) w b rest) :
    Takes (r >>= f) w b rest := bind h hf

theorem behind (h : Takes r w a rest) (hf : Takes (f a) [] b rest) : Takes (r >>= f) w b rest := by
  have hbind := bind h hf
  rwa [List.append_nil] at hbind

theorem map {g : α → β} (h : Takes r w a rest) : Takes (do return g (← r)) w (g a) rest :=
  h.behind (.pure (g a) rest)

/-- A reader that is told what is left. -/
theorem get {f : JsonInput → JsonReader α} (h : ∀ p, Takes (f ⟨w ++ rest, p⟩) w a rest) :
    Takes (MonadState.get >>= f) w a rest := ⟨fun p => (h p).run p⟩

theorem peek (rest : List Char) : Takes peek [] rest.head? rest := ⟨fun p => ⟨p, rfl⟩⟩

theorem left (rest : List Char) : Takes left [] rest.length rest := ⟨fun p => ⟨p, rfl⟩⟩

theorem advance (w rest : List Char) : Takes (advance w.length) w () rest := by
  refine ⟨fun p => ⟨w.foldl Position.after p, ?_⟩⟩
  change Except.ok ((), _) = _
  simp

end Takes

/-! ## Blanks -/

/-- Blanks are taken up to the next character. -/
theorem takes_next {b : List Char} (hb : Json.Blank b) (rest : List Char)
    (hrest : ∀ c ∈ rest.head?, isSpace c = false) : Takes next b rest.head? rest := by
  have hrun : (b ++ rest).takeWhile isSpace = b := by
    rw [List.takeWhile_append_of_pos hb]
    cases rest with
    | nil => simp
    | cons c rest => simp [hrest c rfl]
  refine Takes.get fun p => ?_
  simp only [hrun]
  exact (Takes.advance b rest).behind (Takes.peek rest)

/-! ## Texts -/

/-- A hexadecimal digit is read as its value. -/
theorem hexValue?_of_writesDigit {c : Char} {v : Nat} (h : Json.WritesDigit c v) :
    hexValue? c = some v := by
  have hdigits : ∀ v : Fin 16, hexValue? (Nat.digitChar v) = some v.val ∧
      hexValue? (Nat.digitChar v).toUpper = some v.val := by decide
  obtain ⟨hlt, rfl | rfl⟩ := h
  · exact (hdigits ⟨v, hlt⟩).1
  · exact (hdigits ⟨v, hlt⟩).2

theorem takes_hex4 {digits : List Char} {n : Nat} (h : Json.WritesUnit digits n)
    (rest : List Char) : Takes hex4 digits n rest := by
  cases h with
  | @intro c₀ c₁ c₂ c₃ v₀ v₁ v₂ v₃ h₀ h₁ h₂ h₃ =>
    have hvalues : (([c₀, c₁, c₂, c₃] ++ rest).take 4).mapM hexValue? =
        some [v₀, v₁, v₂, v₃] := by
      simp [hexValue?_of_writesDigit h₀, hexValue?_of_writesDigit h₁,
        hexValue?_of_writesDigit h₂, hexValue?_of_writesDigit h₃]
    refine Takes.get fun p => ?_
    simp only [hvalues]
    exact (Takes.advance [c₀, c₁, c₂, c₃] rest).behind (Takes.pure _ rest)

theorem takes_nextInText (c : Char) (rest : List Char) : Takes nextInText [] c (c :: rest) := by
  refine Takes.before (Takes.peek (c :: rest)) ?_
  exact Takes.pure c (c :: rest)

theorem takes_demand (c : Char) (rest : List Char) : Takes (demand c) [c] () rest := by
  refine Takes.before (takes_nextInText c rest) ?_
  simp only [bne_self_eq_false]
  exact Takes.advance [c] rest

theorem toNat_lt_or (c : Char) : c.toNat < 0xd800 ∨ 0xdfff < c.toNat :=
  c.valid.imp_right And.left

/-- A character is read from the one unit of its code point. -/
theorem takes_unicodeEscape_unit {digits : List Char} {c : Char}
    (h : Json.WritesUnit digits c.toNat) (rest : List Char) :
    Takes unicodeEscape digits c rest := by
  have hvalid := toNat_lt_or c
  refine (takes_hex4 h rest).behind ?_
  rw [if_neg (by omega), if_pos hvalid, Char.ofNat_toNat]
  exact Takes.pure c rest

/-- A character is read from the two units of its code point. -/
theorem takes_unicodeEscape_units {high low : List Char} {c : Char} (hc : 0x10000 ≤ c.toNat)
    (hhigh : Json.WritesUnit high (0xd800 + (c.toNat - 0x10000) / 0x400))
    (hlow : Json.WritesUnit low (0xdc00 + (c.toNat - 0x10000) % 0x400)) (rest : List Char) :
    Takes unicodeEscape (high ++ '\\' :: 'u' :: low) c rest := by
  have hlt : c.toNat < 0x110000 := by
    have := CharSet.toNat_le_maxCode c
    simp only [CharSet.maxCode] at this
    omega
  have hcode : 0x10000 + (0xd800 + (c.toNat - 0x10000) / 0x400 - 0xd800) * 0x400 +
      (0xdc00 + (c.toNat - 0x10000) % 0x400 - 0xdc00) = c.toNat := by omega
  refine (takes_hex4 hhigh _).bind ?_
  rw [if_neg (by omega), if_neg (by omega)]
  refine Takes.bind (w := ['\\']) (takes_demand '\\' ('u' :: low ++ rest)) ?_
  refine Takes.bind (w := ['u']) (takes_demand 'u' (low ++ rest)) ?_
  refine (takes_hex4 hlow rest).behind ?_
  rw [if_neg (by omega), hcode, Char.ofNat_toNat]
  exact Takes.pure c rest

/-- A short escape stands for its character. -/
theorem escaped?_of_mem {letter c : Char} (h : (letter, c) ∈ Json.shortEscapes) :
    letter ≠ 'u' ∧ escaped? letter = some c := by
  simp only [Json.shortEscapes, List.mem_cons, Prod.mk.injEq, List.not_mem_nil, or_false] at h
  rcases h with ⟨rfl, rfl⟩ | ⟨rfl, rfl⟩ | ⟨rfl, rfl⟩ | ⟨rfl, rfl⟩ | ⟨rfl, rfl⟩ | ⟨rfl, rfl⟩ |
    ⟨rfl, rfl⟩ | ⟨rfl, rfl⟩ <;> decide

/-- A short escape is taken. -/
theorem takes_escape_short {letter c : Char} (h : (letter, c) ∈ Json.shortEscapes)
    (rest : List Char) : Takes escape [letter] c rest := by
  obtain ⟨hne, hletter⟩ := escaped?_of_mem h
  refine Takes.before (takes_nextInText letter rest) ?_
  rw [if_neg hne, hletter]
  exact (Takes.advance [letter] rest).behind (Takes.pure c rest)

theorem takes_escape_unicode {w rest : List Char} {c : Char} (h : Takes unicodeEscape w c rest) :
    Takes escape ('u' :: w) c rest := by
  refine Takes.before (takes_nextInText 'u' (w ++ rest)) ?_
  rw [if_pos rfl]
  exact Takes.bind (w := ['u']) (Takes.advance ['u'] (w ++ rest)) h

/-- An escape in a text is taken, and the text goes on behind it. -/
theorem takes_textBody_escape {w rest body : List Char} {c : Char} {cs : List Char} {n : Nat}
    (h : Takes escape w c (body ++ rest)) (hbody : Takes (textBody n) body cs rest) :
    Takes (textBody (n + 1)) ('\\' :: (w ++ body)) (c :: cs) rest := by
  refine Takes.before (takes_nextInText '\\' _) ?_
  rw [if_neg (by decide), if_pos rfl]
  refine Takes.bind (w := ['\\']) (Takes.advance ['\\'] _) (h.bind ?_)
  exact hbody.map

/-- Characters are read however they are written. -/
theorem takes_textBody {w cs : List Char} (h : Json.WritesChars w cs) {n : Nat}
    (hn : cs.length < n) (rest : List Char) : Takes (textBody n) (w ++ ['"']) cs rest := by
  induction h generalizing n with
  | nil =>
    obtain ⟨n, rfl⟩ : ∃ k, n = k + 1 := ⟨n - 1, by omega⟩
    refine Takes.before (takes_nextInText '"' rest) ?_
    rw [if_pos rfl]
    exact (Takes.advance ['"'] rest).behind (Takes.pure [] rest)
  | @cons w ws c cs hchar _ ih =>
    obtain ⟨n, rfl⟩ : ∃ k, n = k + 1 := ⟨n - 1, by omega⟩
    have hrest := ih (n := n) (by simpa using hn)
    rw [List.append_assoc]
    cases hchar with
    | plain hspace hquote hslash =>
      refine Takes.before (takes_nextInText c _) ?_
      rw [if_neg hquote, if_neg hslash, if_neg (Char.not_lt.2 hspace)]
      exact Takes.bind (w := [c]) (Takes.advance [c] _) hrest.map
    | short hmem => exact takes_textBody_escape (takes_escape_short hmem _) hrest
    | unit hunit =>
      exact takes_textBody_escape (takes_escape_unicode (takes_unicodeEscape_unit hunit _)) hrest
    | units hc hhigh hlow =>
      exact takes_textBody_escape
        (takes_escape_unicode (takes_unicodeEscape_units hc hhigh hlow _)) hrest

/-- No character is written with fewer than one. -/
theorem length_le_of_writesChars {w cs : List Char} (h : Json.WritesChars w cs) :
    cs.length ≤ w.length := by
  induction h with
  | nil => exact Nat.le_refl _
  | cons hchar _ ih =>
    have hpos : ∀ {w : List Char} {c : Char}, Json.WritesChar w c → 0 < w.length := by
      intro w c h
      cases h <;> simp
    have := hpos hchar
    simp only [List.length_cons, List.length_append]
    omega

/-- A text is read however it is written. -/
theorem takes_quoted {w : List Char} {s : String} (h : Json.WritesText w s) (rest : List Char) :
    Takes quoted w s rest := by
  cases h with
  | @intro w s h =>
    have hlength := length_le_of_writesChars h
    refine Takes.before (Takes.left ('"' :: w ++ ['"'] ++ rest)) ?_
    refine Takes.bind (w := ['"']) (Takes.advance ['"'] (w ++ ['"'] ++ rest)) ?_
    have hbody := takes_textBody h (n := ('"' :: w ++ ['"'] ++ rest).length)
      (by simp only [List.length_cons, List.length_append]; omega) rest
    have hmap := hbody.map (g := String.ofList)
    rwa [String.ofList_toList] at hmap

/-! ## Lists and objects -/

/-- Blanks may stand before the end of a value. -/
theorem ends_append {b rest : List Char} (hb : Json.Blank b) (hrest : Json.Ends rest) :
    Json.Ends (b ++ rest) := by
  cases b with
  | nil => exact hrest
  | cons c b =>
    intro x hx
    cases hx
    exact .inl (hb c (by simp))

/-- A value ends at a comma or a closing bracket. -/
theorem ends_cons {c : Char} (h : c ∈ [',', ']', '\x7d']) (rest : List Char) :
    Json.Ends (c :: rest) := by
  intro x hx
  cases hx
  exact .inr h

/-- Reading entries up to a closing character, in a number of steps: whether there is another entry,
what it starts with, and what is read of entries so far. `R n first w vs rest` says that in `n`
steps, from the first entry on or from another, entries `vs` are read from `w` in front of
`rest`. -/
structure ReadsEach {α : Type} (writes : List Char → α → Prop) (Starts : Char → Prop) (close : Char)
    (more : Bool → JsonReader Bool)
    (R : Nat → Bool → List Char → List α → List Char → Prop) : Prop where
  close_mem : close ∈ [',', ']', '\x7d']
  starts {w : List Char} {v : α} : writes w v → ∃ c w', w = c :: w' ∧ Starts c
  first {b : List Char} {c : Char} (rest : List Char) : Json.Blank b → Starts c →
    Takes (more true) b true (c :: rest)
  next {b b' : List Char} {c : Char} (rest : List Char) : Json.Blank b → Json.Blank b' → Starts c →
    Takes (more false) (b ++ ',' :: b') true (c :: rest)
  nil {n : Nat} {b : List Char} (first : Bool) (rest : List Char) : Json.Blank b →
    R (n + 1) first (b ++ [close]) [] rest
  cons {n : Nat} {first : Bool} {lead w ws rest : List Char} {v : α} {vs : List α} :
    Takes (more first) lead true (w ++ (ws ++ rest)) → writes w v → Json.Ends (ws ++ rest) →
    R n false ws vs rest → R (n + 1) first (lead ++ (w ++ ws)) (v :: vs) rest

namespace ReadsEach

variable {α : Type} {writes : List Char → α → Prop} {Starts : Char → Prop} {close : Char}
  {more : Bool → JsonReader Bool} {R : Nat → Bool → List Char → List α → List Char → Prop}

/-- Entries are read however they are written; `lead` is what is read before the first of them. -/
theorem read_cons (h : ReadsEach writes Starts close more R) {w : List Char} {vs : List α}
    (hw : Json.WritesEach writes w vs) (hne : vs ≠ []) {first : Bool} (lead : List Char)
    (hlead : ∀ {b c} rest, Json.Blank b → Starts c →
      Takes (more first) (lead ++ b) true (c :: rest))
    {n : Nat} (hn : vs.length < n) (rest : List Char) :
    R n first (lead ++ (w ++ [close])) vs rest := by
  obtain ⟨n, rfl⟩ : ∃ k, n = k + 1 := ⟨n - 1, by omega⟩
  -- Behind the first entry the lead is what stands up to the comma, so the induction is for any.
  induction hw generalizing first lead n with
  | none => exact absurd rfl hne
  | @last b w b' v hb hw hb' =>
    obtain ⟨n, rfl⟩ : ∃ k, n = k + 1 := ⟨n - 1, by simp at hn; omega⟩
    obtain ⟨c, w', rfl, hc⟩ := h.starts hw
    have hends : Json.Ends (b' ++ [close] ++ rest) := by
      rw [List.append_assoc]
      exact ends_append hb' (ends_cons h.close_mem rest)
    have hstep := h.cons (hlead _ hb hc) hw hends (h.nil (n := n) false rest hb')
    simpa only [List.append_assoc] using hstep
  | @more b w b' ws v v' vs hb hw hb' _ ih =>
    obtain ⟨n, rfl⟩ : ∃ k, n = k + 1 := ⟨n - 1, by simp at hn; omega⟩
    obtain ⟨c, w', rfl, hc⟩ := h.starts hw
    have hends : Json.Ends (b' ++ [','] ++ (ws ++ [close]) ++ rest) := by
      simp only [List.append_assoc]
      exact ends_append hb' (ends_cons (by simp) _)
    have hnext : ∀ {b'' : List Char} {c : Char} (rest : List Char), Json.Blank b'' → Starts c →
        Takes (more false) (b' ++ [','] ++ b'') true (c :: rest) := fun rest hb'' hc => by
      simpa using h.next rest hb' hb'' hc
    have hmore := ih (by simp) (b' ++ [',']) hnext n (by simpa using hn)
    have hstep := h.cons (hlead _ hb hc) hw hends hmore
    simpa only [List.append_assoc, List.cons_append, List.nil_append] using hstep

/-- A list of elements that are read one by one is read up to its closing bracket. -/
theorem read (h : ReadsEach writes Starts close more R) {w : List Char} {vs : List α}
    (hw : Json.WritesEach writes w vs) {n : Nat} (hn : vs.length < n) (rest : List Char) :
    R n true (w ++ [close]) vs rest := by
  obtain ⟨n, rfl⟩ : ∃ k, n = k + 1 := ⟨n - 1, by omega⟩
  cases vs with
  | nil =>
    cases hw with
    | none hb => exact h.nil true rest hb
  | cons v vs => exact h.read_cons hw (by simp) [] h.first hn rest

/-- There are no more entries than characters. -/
theorem length_le (h : ReadsEach writes Starts close more R) {w : List Char} {vs : List α}
    (hw : Json.WritesEach writes w vs) : vs.length ≤ w.length := by
  have hpos : ∀ {w v}, writes w v → 0 < w.length := fun hw => by
    obtain ⟨c, w', rfl, -⟩ := h.starts hw
    simp
  induction hw with
  | none => simp
  | last _ hw _ =>
    have := hpos hw
    simp only [List.length_append, List.length_cons, List.length_nil]
    omega
  | more _ hw _ _ ih =>
    have := hpos hw
    simp only [List.length_append, List.length_cons] at ih ⊢
    omega

end ReadsEach

theorem takes_next_cons {b : List Char} (hb : Json.Blank b) {c : Char} (hc : isSpace c = false)
    (rest : List Char) : Takes next b (some c) (c :: rest) := by
  refine takes_next hb (c :: rest) fun x hx => ?_
  cases hx
  exact hc

theorem takes_next_here {c : Char} (hc : isSpace c = false) (rest : List Char) :
    Takes next [] (some c) (c :: rest) :=
  takes_next_cons (by simp [Json.Blank]) hc rest

/-- What an item of a list may start with. -/
def StartsItem (c : Char) : Prop := isSpace c = false ∧ c ≠ ']'

/-- The items of an array are read one by one. -/
theorem readsEach_items {α : Type} (item : JsonReader α) {writes : List Char → α → Prop}
    (hstarts : ∀ {w v}, writes w v → ∃ c w', w = c :: w' ∧ StartsItem c)
    (hitem : ∀ {w v rest}, writes w v → Json.Ends rest → Takes item w v rest) :
    ReadsEach writes StartsItem ']' hasItem fun n first w vs rest =>
      Takes (items item n first) w vs rest where
  close_mem := by decide
  starts := hstarts
  first rest hb hc := by
    obtain ⟨hspace, hclose⟩ := hc
    refine (takes_next_cons hb hspace rest).behind ?_
    simp only [if_true]
    exact Takes.pure true _
  next {b b' c} rest hb hb' hc := by
    obtain ⟨hspace, hclose⟩ := hc
    refine Takes.bind (u := ',' :: b') (takes_next_cons hb (by decide) _) ?_
    simp only [Bool.false_eq_true, if_false]
    refine Takes.bind (w := [',']) (Takes.advance [','] _) ?_
    refine (takes_next_cons hb' hspace rest).behind ?_
    simp only
    exact Takes.pure true _
  nil {n b} first rest hb := by
    have hend : Takes (hasItem first) b false (']' :: rest) :=
      (takes_next_cons hb (by decide) rest).behind (Takes.pure false _)
    have hclose : Takes closeList [']'] () rest := by
      refine Takes.before (takes_next_here (by decide) rest) ?_
      exact Takes.advance [']'] rest
    rw [items]
    refine Takes.bind (u := [']']) hend ?_
    simp only [Bool.false_eq_true, if_false]
    exact hclose.behind (Takes.pure [] rest)
  cons hlead hw hends hvs := by
    rw [items]
    refine Takes.bind (by rwa [List.append_assoc]) ?_
    rw [if_pos rfl]
    exact (hitem hw hends).bind hvs.map

/-- What a member of an object may start with. -/
def StartsMember (c : Char) : Prop := c = '"'

/-- The members of an object are read one by one. -/
theorem readsEach_members {α σ : Type} {member : σ → String → JsonReader σ} (step : σ → α → σ)
    {writes : List Char → α → Prop}
    (hstarts : ∀ {w v}, writes w v → ∃ c w', w = c :: w' ∧ StartsMember c)
    (hmember : ∀ {w v rest} s, writes w v → Json.Ends rest →
      Takes (quoted >>= member s) w (step s v) rest) :
    ReadsEach writes StartsMember '\x7d' hasMember fun n first w vs rest =>
      ∀ s, Takes (members member n first s) w (vs.foldl step s) rest where
  close_mem := by decide
  starts := hstarts
  first {b c} rest hb hc := by
    cases hc
    exact (takes_next_cons hb (by decide) rest).behind (Takes.pure true _)
  next {b b' c} rest hb hb' hc := by
    cases hc
    refine Takes.bind (u := ',' :: b') (takes_next_cons hb (by decide) _) ?_
    simp only [Bool.false_eq_true, if_false]
    refine Takes.bind (w := [',']) (Takes.advance [','] _) ?_
    exact (takes_next_cons hb' (by decide) rest).behind (Takes.pure true _)
  nil {n b} first rest hb s := by
    have hend : Takes (hasMember first) b false ('\x7d' :: rest) :=
      (takes_next_cons hb (by decide) rest).behind (Takes.pure false _)
    have hclose : Takes closeObject ['\x7d'] () rest := by
      refine Takes.before (takes_next_here (by decide) rest) ?_
      exact Takes.advance ['\x7d'] rest
    rw [members]
    refine Takes.bind (u := ['\x7d']) hend ?_
    simp only [Bool.false_eq_true, if_false]
    exact hclose.behind (Takes.pure s rest)
  cons hlead hw hends hvs s := by
    rw [members]
    refine Takes.bind (by rwa [List.append_assoc]) ?_
    rw [if_pos rfl]
    have hbind := (hmember s hw hends).bind (hvs _)
    rw [bind_assoc] at hbind
    exact hbind

/-! ## Values -/

theorem takes_word (cs rest : List Char) : Takes (word cs) cs () rest := by
  induction cs with
  | nil => exact Takes.pure () rest
  | cons c cs ih =>
    refine Takes.before (Takes.peek (c :: cs ++ rest)) ?_
    simp only [List.cons_append, List.head?_cons, bne_self_eq_false, Bool.false_eq_true, if_false]
    exact Takes.bind (w := [c]) (Takes.advance [c] _) ih

theorem ne_of_isDigit {c d : Char} (hc : c.isDigit) (hd : d.isDigit = false) : c ≠ d := by
  rintro rfl
  simp [hd] at hc

/-- A character that may start a number starts nothing else. -/
theorem ne_of_startsNumber {c : Char} (hc : c = '-' ∨ c.isDigit) {d : Char}
    (hd : d ≠ '-' ∧ d.isDigit = false) : c ≠ d := by
  rcases hc with rfl | hc
  · exact hd.1.symm
  · exact ne_of_isDigit hc hd.2

/-- What a value may start with. -/
theorem startsItem_of_plain {w : List Char} {v : Json} (h : Json.WritesPlain w v) :
    ∃ c w', w = c :: w' ∧ StartsItem c := by
  cases h with
  | null => exact ⟨_, _, rfl, by decide, by decide⟩
  | true => exact ⟨_, _, rfl, by decide, by decide⟩
  | false => exact ⟨_, _, rfl, by decide, by decide⟩
  | number hn =>
    obtain ⟨c, w', rfl, hc⟩ := hn.head
    refine ⟨c, w', rfl, ?_, ne_of_startsNumber hc (by decide)⟩
    simp [isSpace, ne_of_startsNumber hc]
  | text hs =>
    cases hs
    exact ⟨_, _, rfl, by decide, by decide⟩

/-- What stands for itself is read, with the blanks in front. -/
theorem takes_plain {b w rest : List Char} {v : Json} (hb : Json.Blank b)
    (h : Json.WritesPlain w v) (hends : Json.Ends rest) (depth : Nat) :
    Takes (value depth) (b ++ w) v rest := by
  rw [value.eq_def]
  cases h with
  | null =>
    refine Takes.bind (takes_next_cons hb (by decide) _) ?_
    refine Takes.bind (w := ['n']) (Takes.advance ['n'] _) ?_
    exact (takes_word "ull".toList rest).behind (Takes.pure _ rest)
  | true =>
    refine Takes.bind (takes_next_cons hb (by decide) _) ?_
    refine Takes.bind (w := ['t']) (Takes.advance ['t'] _) ?_
    exact (takes_word "rue".toList rest).behind (Takes.pure _ rest)
  | false =>
    refine Takes.bind (takes_next_cons hb (by decide) _) ?_
    refine Takes.bind (w := ['f']) (Takes.advance ['f'] _) ?_
    exact (takes_word "alse".toList rest).behind (Takes.pure _ rest)
  | number hn =>
    obtain ⟨c, w', rfl, hspace, -⟩ := startsItem_of_plain (.number hn)
    obtain ⟨_, _, heq, hc⟩ := hn.head
    cases heq
    have hn' : c ≠ 'n' := ne_of_startsNumber hc (by decide)
    have ht : c ≠ 't' := ne_of_startsNumber hc (by decide)
    have hf : c ≠ 'f' := ne_of_startsNumber hc (by decide)
    have hquote : c ≠ '"' := ne_of_startsNumber hc (by decide)
    have hlist : c ≠ '[' := ne_of_startsNumber hc (by decide)
    have hobject : c ≠ '\x7b' := ne_of_startsNumber hc (by decide)
    refine Takes.bind (takes_next_cons hb hspace _) ?_
    simp only
    rw [if_pos (by simpa using hc)]
    exact Takes.map ⟨fun p => hn.read rest p hends⟩
  | text hs =>
    have hquoted := takes_quoted hs rest
    cases hs with
    | intro hs =>
      refine Takes.bind (takes_next_cons hb (by decide) _) ?_
      exact hquoted.map

/-- What is written for a value starts an item. -/
theorem startsItem_of_writes {depth : Nat} {w : List Char} {v : Json}
    (h : Json.Writes depth w v) : ∃ c w', w = c :: w' ∧ StartsItem c := by
  cases depth with
  | zero => exact startsItem_of_plain h
  | succ depth =>
    cases h with
    | plain h => exact startsItem_of_plain h
    | array => exact ⟨_, _, rfl, by decide, by decide⟩
    | object => exact ⟨_, _, rfl, by decide, by decide⟩

/-- What is written for a member starts with a quote. -/
theorem startsMember_of_writes {writes : List Char → Json → Prop} {w : List Char}
    {m : String × Json} (h : Json.WritesMember writes w m) :
    ∃ c w', w = c :: w' ∧ StartsMember c := by
  cases h with
  | intro hname =>
    cases hname
    exact ⟨_, _, rfl, rfl⟩

theorem takes_colon {b : List Char} (hb : Json.Blank b) (rest : List Char) :
    Takes colon (b ++ [':']) () rest := by
  refine Takes.bind (takes_next_cons hb (by decide) rest) ?_
  exact Takes.advance [':'] rest

/-- Put a member into an object, its name and its value. -/
def put (ms : List (String × Json)) (m : String × Json) : List (String × Json) :=
  Json.putMember ms m.1 m.2

/-- A member is read into the object, in place of one with its name. -/
theorem takes_member {item : JsonReader Json} {writes : List Char → Json → Prop}
    (hitem : ∀ {b w rest v}, Json.Blank b → writes w v → Json.Ends rest →
      Takes item (b ++ w) v rest)
    {w rest : List Char} {m : String × Json} (hm : Json.WritesMember writes w m)
    (hends : Json.Ends rest) (ms : List (String × Json)) :
    Takes (do
      let name ← quoted
      colon
      let v ← item
      return Json.putMember ms name v) w (put ms m) rest := by
  cases hm with
  | @intro k b b' w name v hname hb hb' hw =>
    have hsplit : k ++ (b ++ ':' :: (b' ++ w)) = k ++ (b ++ [':'] ++ (b' ++ w)) := by simp
    rw [hsplit]
    refine (takes_quoted hname _).bind ((takes_colon hb _).bind ?_)
    exact (hitem hb' hw hends).map

/-- A value is read however it is written, behind white space and in front of what may stand
behind it. -/
theorem takes_value {depth : Nat} {b w rest : List Char} {v : Json} (hb : Json.Blank b)
    (h : Json.Writes depth w v) (hends : Json.Ends rest) : Takes (value depth) (b ++ w) v rest := by
  induction depth generalizing b w rest v with
  | zero => exact takes_plain hb h hends 0
  | succ depth ih =>
    cases h with
    | plain h => exact takes_plain hb h hends (depth + 1)
    | @array w vs hw =>
      -- The steps allowed are the characters left, and each item takes at least one of them.
      have hreads := readsEach_items (value depth) startsItem_of_writes
        fun hw hends => ih (b := []) (by simp [Json.Blank]) hw hends
      have hlength := hreads.length_le hw
      rw [value.eq_def]
      refine Takes.bind (takes_next_cons hb (by decide) _) ?_
      refine Takes.before (Takes.left ('[' :: w ++ [']'] ++ rest)) ?_
      refine Takes.bind (w := ['[']) (Takes.advance ['['] _) ?_
      exact (hreads.read hw (by simp only [List.length_append, List.length_cons]; omega) rest).map
    | @object w ms hw =>
      have hreads := readsEach_members put startsMember_of_writes
        fun ms hm hends => takes_member ih hm hends ms
      have hlength := hreads.length_le hw
      rw [value.eq_def]
      refine Takes.bind (takes_next_cons hb (by decide) _) ?_
      refine Takes.before (Takes.left ('\x7b' :: w ++ ['\x7d'] ++ rest)) ?_
      refine Takes.bind (w := ['\x7b']) (Takes.advance ['\x7b'] _) ?_
      exact (hreads.read hw (by simp only [List.length_append, List.length_cons]; omega) rest
        []).map

/-- Only blanks may stand behind a document. -/
theorem takes_finish {b : List Char} (hb : Json.Blank b) : Takes finish b () [] := by
  refine (takes_next hb [] (by simp)).behind ?_
  exact Takes.pure () []

/-- A reader that takes a text up to blanks reads the document. -/
theorem whole?_eq_ok {α : Type} {r : JsonReader α} {w b : List Char} {a : α} {text : String}
    (h : Takes r w a b) (hb : Json.Blank b) (htext : text.toList = w ++ b) :
    whole? r text = .ok a := by
  obtain ⟨p, hr⟩ := h.run ⟨1, 0⟩
  obtain ⟨p', hfinish⟩ := (takes_finish hb).run p
  rw [List.append_nil] at hfinish
  change Except.map Prod.fst (r ⟨text.toList, ⟨1, 0⟩⟩ >>= fun x =>
    finish x.2 >>= fun y => Except.ok (x.1, y.2)) = _
  rw [htext, hr]
  change Except.map Prod.fst (finish ⟨b, p⟩ >>= fun y => Except.ok (a, y.2)) = _
  rw [hfinish]
  rfl

end JsonReader

/-- A text that stands for a value is read as this value. -/
theorem Json.read?_of_written {text : String} {v : Json} (h : Written text v) :
    read? text = .ok v := by
  obtain ⟨hb, hw, hb', htext⟩ := h
  next b w b' =>
  have hends : Ends b' := by
    rw [← List.append_nil b']
    exact JsonReader.ends_append hb' (by simp [Ends])
  refine JsonReader.whole?_eq_ok (JsonReader.takes_value hb hw hends) hb' ?_
  rw [htext, List.append_assoc]

end EnvAudit
