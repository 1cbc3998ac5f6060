import EnvAudit.Proofs.Dotenv.Appended
import EnvAudit.Proofs.Dotenv.Skipped
import Mathlib.Data.List.Forall2

/-!
# EnvAudit.Proofs.Dotenv.Keys

Where the keys of assignments stand in their text:

1. on its line a key has only white space before it, or `export` between white space (`LeadsIn`),
   and behind it stands what sets a value apart (`SetsApart`), so that it is a whole run of key
   characters (`keyed_of_opening?`);
2. the statement at the start of a line has its key there (`keyAt_of_statement?`), and what stands
   in the rest of a text from some line on stands in the text (`KeyAt.append`).

Main statement: the keys of all assignments stand in the text, in order and each at a place of its
own (`keys_stand_in_text`).
-/

namespace EnvAudit.Dotenv

/-! ## Around a key -/

/-- Text that may stand before a key: white space, or `export` between white space. -/
def LeadsIn (lead : List Char) : Prop :=
  (∀ c ∈ lead, isBlank c) ∨ ∃ before behind, lead = before ++ (exportWord ++ behind) ∧
    (∀ c ∈ before, isBlank c) ∧ behind ≠ [] ∧ ∀ c ∈ behind, isBlank c

/-- Text that starts with what sets a value apart: `=` behind white space, or `:` before white
space. -/
def SetsApart (text : List Char) : Prop :=
  (∃ blanks rest, text = blanks ++ '=' :: rest ∧ ∀ c ∈ blanks, isBlank c) ∨
    ∃ x rest, text = ':' :: x :: rest ∧ isBlank x

/-- What follows the last line end of a text. -/
def lastLine (text : List Char) : List Char := (text.reverse.takeWhile (· != '\n')).reverse

/-- A key between two texts: a whole run of key characters that the line before it leads in, and
that is set apart from what follows. -/
structure Keyed (before key behind : List Char) : Prop where
  ne_nil : key ≠ []
  isKeyChar : ∀ c ∈ key, isKeyChar c
  whole_before : ∀ c ∈ before.getLast?, Dotenv.isKeyChar c = false
  whole_behind : ∀ c ∈ behind.head?, Dotenv.isKeyChar c = false
  leadsIn : LeadsIn (lastLine before)
  setsApart : SetsApart behind

/-- A key stands at a place of a text. -/
def KeyAt (text : List Char) (place : Nat) (key : List Char) : Prop :=
  ∃ before behind, text = before ++ key ++ behind ∧ before.length = place ∧ Keyed before key behind

section

variable {xs ys lead : List Char}

/-- Behind a line end only what follows it is on the last line. -/
theorem lastLine_append_of_mem (h : '\n' ∈ ys) (xs : List Char) :
    lastLine (xs ++ ys) = lastLine ys := by
  have hshort : ¬(ys.reverse.takeWhile (· != '\n')).length = ys.reverse.length := by
    intro hlength
    have hall := (List.takeWhile_prefix (l := ys.reverse) (· != '\n')).eq_of_length hlength
    have hmem : '\n' ∈ ys.reverse.takeWhile (· != '\n') := by rw [hall]; simpa using h
    simpa using List.mem_takeWhile_imp hmem
  rw [lastLine, List.reverse_append, List.takeWhile_append, if_neg hshort, lastLine]

/-- Text without a line end continues the last line. -/
theorem lastLine_append_of_not_mem (h : '\n' ∉ ys) (xs : List Char) :
    lastLine (xs ++ ys) = lastLine xs ++ ys := by
  have hpos : ∀ c ∈ ys.reverse, (c != '\n') = true := fun c hc =>
    bne_lineEnd h c (List.mem_reverse.1 hc)
  rw [lastLine, List.reverse_append, List.takeWhile_append_of_pos hpos, List.reverse_append,
    List.reverse_reverse, lastLine]

theorem lastLine_subset (text : List Char) : lastLine text ⊆ text := fun _ hc =>
  List.mem_reverse.1 ((List.takeWhile_sublist _).subset (List.mem_reverse.1 hc))

theorem LeadsIn.lastLine (h : LeadsIn lead) : LeadsIn (lastLine lead) := by
  rcases h with hblank | ⟨before, behind, rfl, hbefore, hne, hbehind⟩
  · exact .inl fun c hc => hblank c (lastLine_subset lead hc)
  · by_cases hnl : '\n' ∈ behind
    · -- `export` stands on a line further up.
      rw [← List.append_assoc, lastLine_append_of_mem hnl]
      exact .inl fun c hc => hbehind c (lastLine_subset behind hc)
    · have hword : '\n' ∉ exportWord ++ behind := by
        rw [List.mem_append, not_or]
        exact ⟨by decide, hnl⟩
      rw [lastLine_append_of_not_mem hword]
      exact .inr ⟨_, behind, rfl, fun c hc => hbefore c (lastLine_subset before hc), hne, hbehind⟩

theorem LeadsIn.isBlank_getLast? (h : LeadsIn lead) : ∀ c ∈ lead.getLast?, isBlank c := by
  rcases h with hblank | ⟨before, behind, rfl, -, hne, hbehind⟩
  · exact fun c hc => hblank c (List.mem_of_getLast? hc)
  · intro c hc
    rw [← List.append_assoc, List.getLast?_append_of_ne_nil _ hne] at hc
    exact hbehind c (List.mem_of_getLast? hc)

theorem SetsApart.isKeyChar_head? {text : List Char} (h : SetsApart text) :
    ∀ c ∈ text.head?, isKeyChar c = false := by
  rcases h with ⟨blanks, rest, rfl, hblanks⟩ | ⟨x, rest, rfl, -⟩
  · cases blanks with
    | nil =>
      rintro c ⟨⟩
      decide
    | cons b blanks =>
      rintro c ⟨⟩
      exact not_isKeyChar_of_isBlank (hblanks b List.mem_cons_self)
  · rintro c ⟨⟩
    decide

end

/-! ## The key of a statement -/

/-- A separator sets a key apart. -/
theorem setsApart_of_separator? {text : List Char} {s : List Char × List Char}
    (h : separator? text = some s) : SetsApart (s.1 ++ s.2) := by
  rcases separator?_cases text with ⟨rest, -, hs⟩ | ⟨x, rest, -, hx, hs⟩ | ⟨-, -, hs⟩
  · cases h.symm.trans hs
    exact .inl ⟨text.takeWhile isBlank, rest, by simp, fun c => List.mem_takeWhile_imp⟩
  · cases h.symm.trans hs
    exact .inr ⟨x, rest, rfl, hx⟩
  · cases h.symm.trans hs

/-- What is read before a value is a key with what leads it in and what sets the value apart. -/
theorem keyed_of_unexported? {lead text : List Char} {o : Opening}
    (h : unexported? lead text = some o) (hlead : LeadsIn lead) :
    Keyed o.lead o.key (o.separator ++ o.rest) := by
  unfold unexported? at h
  simp only at h
  split at h
  · cases h
  · next hkey =>
    obtain ⟨s, hs, rfl⟩ := Option.map_eq_some_iff.1 h
    have hapart := setsApart_of_separator? hs
    exact ⟨hkey, fun c => List.mem_takeWhile_imp,
      fun c hc => not_isKeyChar_of_isBlank (hlead.isBlank_getLast? c hc), hapart.isKeyChar_head?,
      hlead.lastLine, hapart⟩

/-- An opening has its lead-in, its key and its separator in a row. -/
theorem keyed_of_opening? {text : List Char} {o : Opening} (h : opening? text = some o) :
    Keyed o.lead o.key (o.separator ++ o.rest) := by
  have hblank : ∀ c ∈ text.takeWhile isBlank, isBlank c := fun c => List.mem_takeWhile_imp
  rcases Option.or_eq_some_iff.1 h with h | ⟨-, h⟩
  · unfold exported? at h
    simp only at h
    split at h
    · split at h
      · cases h
      · next hne =>
        refine keyed_of_unexported? h (.inr ⟨_, _, List.append_assoc _ _ _, hblank, hne, ?_⟩)
        exact fun c => List.mem_takeWhile_imp
    · cases h
  · exact keyed_of_unexported? h (.inl hblank)

/-- A statement has its key where it stands. -/
theorem keyAt_of_statement? {text : List Char} {s : Statement} (h : statement? text = some s) :
    KeyAt text s.lead.length s.key := by
  obtain ⟨o, ho, rfl⟩ := Option.map_eq_some_iff.1 h
  refine ⟨o.lead, o.separator ++ o.rest, ?_, rfl, keyed_of_opening? ho⟩
  rw [← List.append_assoc]
  exact (starts_of_opening? ho).append.symm

/-! ## Keys further down -/

theorem lastLine_of_getLast? {pre : List Char} (h : pre.getLast? = some '\n') :
    lastLine pre = [] := by
  obtain ⟨init, rfl⟩ := List.getLast?_eq_some_iff.1 h
  rw [lastLine_append_of_mem List.mem_cons_self]
  rfl

/-- A key does not start with a line end, so where its text does, one stands before it. -/
theorem Keyed.mem_before {before key behind : List Char} (h : Keyed before key behind)
    (hstart : before ++ key ++ behind = [] ∨ ∃ rest, before ++ key ++ behind = '\n' :: rest) :
    '\n' ∈ before := by
  obtain ⟨c, rest, hkey⟩ := List.exists_cons_of_ne_nil h.ne_nil
  rcases hstart with hnil | ⟨more, hmore⟩
  · simp [hkey] at hnil
  · cases before with
    | nil =>
      rw [List.nil_append, hkey] at hmore
      obtain ⟨rfl, -⟩ := List.cons.inj hmore
      exact absurd (h.isKeyChar '\n' (by simp [hkey])) (by decide)
    | cons b before =>
      obtain ⟨rfl, -⟩ := List.cons.inj hmore
      exact List.mem_cons_self

/-- What stands in the rest of a text, from the start or the end of a line on, stands in the
text. -/
theorem KeyAt.append {text key pre : List Char} {place : Nat} (h : KeyAt text place key)
    (hpre : pre.getLast? = some '\n' ∨ text = [] ∨ ∃ rest, text = '\n' :: rest) :
    KeyAt (pre ++ text) (pre.length + place) key := by
  obtain ⟨before, behind, rfl, rfl, hkeyed⟩ := h
  have hline : pre.getLast? = some '\n' ∨ '\n' ∈ before := hpre.imp_right hkeyed.mem_before
  refine ⟨pre ++ before, behind, by simp, List.length_append, { hkeyed with
    whole_before := ?_, leadsIn := ?_ }⟩
  · by_cases hnil : before = []
    · have hlast : pre.getLast? = some '\n' := hline.resolve_right (by simp [hnil])
      rw [hnil, List.append_nil, hlast]
      rintro c ⟨⟩
      decide
    · rw [List.getLast?_append_of_ne_nil _ hnil]
      exact hkeyed.whole_before
  · by_cases hmem : '\n' ∈ before
    · rw [lastLine_append_of_mem hmem]
      exact hkeyed.leadsIn
    · have hleads := hkeyed.leadsIn
      rw [← List.nil_append before, lastLine_append_of_not_mem hmem] at hleads
      rw [lastLine_append_of_not_mem hmem, lastLine_of_getLast? (hline.resolve_right hmem)]
      exact hleads

/-- Keys stand in a text, one behind the other. -/
structure KeysAt (text : List Char) (places : List Nat) (keys : List (List Char)) : Prop where
  ascending : places.Pairwise (· < ·)
  keyAt : List.Forall₂ (KeyAt text) places keys

/-- Keys stand where they stood when lines are put in front. -/
theorem KeysAt.append {text : List Char} {places : List Nat} {keys : List (List Char)}
    (h : KeysAt text places keys) (pre : List Char)
    (hpre : pre.getLast? = some '\n' ∨ text = [] ∨ ∃ rest, text = '\n' :: rest) :
    KeysAt (pre ++ text) (places.map (pre.length + ·)) keys where
  ascending := List.pairwise_map.2 (h.ascending.imp (Nat.add_lt_add_left · _))
  keyAt := List.forall₂_map_left_iff.2 (h.keyAt.imp fun _ _ hkey => hkey.append hpre)

/-- The keys of what is read stand in the text. -/
theorem exists_keysAt {text : List Char} (hcr : '\r' ∉ text) :
    ∃ places, KeysAt text places ((readFrom text).assignments.map fun p => p.1.toList) := by
  fun_induction readFrom text with
  | case1 text s hs ih =>
    have hstarts := starts_of_statement? hs
    have hrest : '\r' ∉ s.value.rest := fun hmem =>
      hcr (hstarts.append ▸ List.mem_append_right _ hmem)
    obtain ⟨places, hplaces⟩ := ih hrest
    -- The key comes before the end of the statement, and the other keys behind it.
    have hbehind := hplaces.append s.text (.inr (hstarts.rest_eq hcr))
    rw [hstarts.append] at hbehind
    refine ⟨s.lead.length :: places.map (s.text.length + ·), ?_, ?_⟩
    · refine List.pairwise_cons.2 ⟨fun place hplace => ?_, hbehind.ascending⟩
      obtain ⟨other, -, rfl⟩ := List.mem_map.1 hplace
      have hkey := List.length_pos_iff.2 hstarts.key_ne_nil
      simp only [Statement.text, List.length_append]
      omega
    · have hkey : KeyAt text s.lead.length s.pair.1.toList := by
        rw [Statement.pair, String.toList_ofList]
        exact keyAt_of_statement? hs
      exact .cons hkey hbehind.keyAt
  | case2 text hs hrest => exact ⟨[], .nil, .nil⟩
  | case3 text hs c rest hrest ih =>
    have hsplit := firstLine_append_afterLine text
    obtain rfl : c = '\n' := by simpa [hrest] using afterLine_eq_nil_or text
    have htext : firstLine text ++ ['\n'] ++ rest = text := by
      rw [List.append_assoc, List.singleton_append, ← hrest, hsplit]
    obtain ⟨places, hplaces⟩ := ih fun hmem => hcr (htext ▸ List.mem_append_right _ hmem)
    have hbehind := hplaces.append (firstLine text ++ ['\n']) (.inl (by simp))
    rw [htext] at hbehind
    exact ⟨_, hbehind⟩

/-- Every key that is assigned has its own place in the text. -/
theorem exists_keysAt_unifiedText (content : String) :
    ∃ places, KeysAt (unifiedText content) places
      ((read content).assignments.map fun p => p.1.toList) := by
  rw [read_eq_readFrom]
  exact exists_keysAt (not_mem_unifyLineEnds content.toList)

/-- What is declared is the key of an assignment. -/
theorem exists_keyAt_of_declares {content name : String} (h : (declared content).declares name) :
    ∃ place, KeyAt (unifiedText content) place name.toList := by
  obtain ⟨places, hplaces⟩ := exists_keysAt_unifiedText content
  obtain ⟨value, hmem⟩ := declares_declared.1 h
  have hkey : name.toList ∈ (read content).assignments.map fun p => p.1.toList :=
    List.mem_map_of_mem hmem
  obtain ⟨i, hi, hget⟩ := List.getElem_of_mem hkey
  have hat := hplaces.keyAt.get (hplaces.keyAt.length_eq ▸ hi) hi
  rw [List.get_eq_getElem, List.get_eq_getElem, hget] at hat
  exact ⟨_, hat⟩

/-- Only keys are declared. -/
theorem isKey_of_declares {content name : String} (h : (declared content).declares name) :
    IsKey name := by
  obtain ⟨place, before, behind, -, -, hkeyed⟩ := exists_keyAt_of_declares h
  exact ⟨hkeyed.ne_nil, hkeyed.isKeyChar⟩

/-- Whatever the text, each assignment that is read has its key in the text (with the ends of lines
unified), in order and at a place of its own: a whole run of key characters, before it on its line
only white space or `export` between white space, and behind it `=` or, before white space, `:`. So
each name that the text declares is written in it in this way. -/
theorem keys_stand_in_text (content : String) :
    (∃ places : List Nat, places.Pairwise (· < ·) ∧
      List.Forall₂ (fun place p => KeyAt (unifiedText content) place p.1.toList) places
        (read content).assignments) ∧
    ∃ declared, (Source.readDotenv content).result = .ok declared ∧
      ∀ name, declared.declares name →
        ∃ place, KeyAt (unifiedText content) place name.toList := by
  obtain ⟨places, hascending, hkeys⟩ := exists_keysAt_unifiedText content
  exact ⟨⟨places, hascending, List.forall₂_map_right_iff.1 hkeys⟩, declared content, rfl,
    fun name => exists_keyAt_of_declares⟩

end EnvAudit.Dotenv
