import EnvAudit.Proofs.Decimal.Layout
import EnvAudit.Proofs.Json.ReadWritten
import EnvAudit.Proofs.Json.Regular

/-!
# EnvAudit.Proofs.Json.Compact

JSON without blanks:

1. a whole number is written digit by digit, and a binary number as a decimal to which no other is
   nearer (`Json.PrintsNumber`);
2. the items of a list and the members of an object are set apart by commas only (`Json.Compact`);
3. what is printed of a regular value is compact JSON (`Json.compact_encode`);
4. what is printed of a regular value without binary numbers may be written so
   (`Json.writes_encode`), and is read as the value.

Main statement: `Json.read?_compact`.
-/

namespace EnvAudit

namespace Json

/-! ## Compact JSON -/

/-- How a number is printed. -/
inductive PrintsNumber : List Char → JsonNumber → Prop
  | whole {w : List Char} {n : ℕ} : Decimal.WritesWhole w n → PrintsNumber w (.whole n)
  | negative {w : List Char} {n : ℕ} : 0 < n → Decimal.WritesWhole w n →
      PrintsNumber ('-' :: w) (.whole (-n))
  | float {w : List Char} {d : ℚ} {x : Binary64} : Decimal.Writes w d → ('.' ∈ w ∨ 'e' ∈ w) →
      x.Nearest d → PrintsNumber ((if x.negative then ['-'] else []) ++ w) (.float x)

/-- Texts with commas between them. -/
def commas (ws : List (List Char)) : List Char := [','].intercalate ws

/-- The texts without blanks that stand for a value. -/
inductive Compact : List Char → Json → Prop
  | null : Compact "null".toList .null
  | true : Compact "true".toList (.bool true)
  | false : Compact "false".toList (.bool false)
  | number {w : List Char} {n : JsonNumber} : PrintsNumber w n → Compact w (.number n)
  | text {w : List Char} {s : String} : WritesText w s → Compact w (.text s)
  | array {ws : List (List Char)} {items : List Json} : List.Forall₂ Compact ws items →
      Compact ('[' :: commas ws ++ [']']) (.array items)
  | object {names ws : List (List Char)} {members : List (String × Json)} :
      List.Forall₂ WritesText names (members.map Prod.fst) →
      List.Forall₂ Compact ws (members.map Prod.snd) →
      Compact ('\x7b' :: commas (names.zipWith (fun name w => name ++ ':' :: w) ws) ++ ['\x7d'])
        (.object members)

/-- Values without binary numbers. -/
inductive Exact : Json → Prop
  | null : Exact .null
  | bool (b : Bool) : Exact (.bool b)
  | whole (n : Int) : Exact (.number (.whole n))
  | text (s : String) : Exact (.text s)
  | array {items : List Json} : (∀ v ∈ items, Exact v) → Exact (.array items)
  | object {members : List (String × Json)} : (∀ m ∈ members, Exact m.2) → Exact (.object members)

/-! ## What is printed -/

theorem toList_toString_int (n : Int) : (toString n).toList =
    (if n < 0 then ['-'] else []) ++ Nat.toDigits 10 n.natAbs := by
  cases n with
  | ofNat m => exact Decimal.toList_toString m
  | negSucc m =>
    change ("-" ++ toString (m + 1)).toList = _
    rw [String.toList_append, Decimal.toList_toString, if_pos (Int.negSucc_lt_zero m)]
    rfl

/-- A number is printed as the grammar has it. -/
theorem printsNumber_encodeNumber {n : JsonNumber} (h : n.Kept) :
    PrintsNumber (encodeNumber n) n := by
  cases h with
  | @whole n _ _ =>
    have hdigits := Decimal.writesWhole_toDigits n.natAbs
    rw [encodeNumber, toList_toString_int]
    split
    · next hneg =>
      have hnegative := PrintsNumber.negative (by omega) hdigits
      rwa [show (-(n.natAbs : Int)) = n by omega] at hnegative
    · next hpos =>
      have hwhole := PrintsNumber.whole hdigits
      rwa [show (n.natAbs : Int) = n by omega] at hwhole
  | @float x hx =>
    obtain ⟨w, d, htext, hwrites, hmark, hnearest⟩ :=
      Layout.exists_writes (l := layout) (.inr rfl) hx
    rw [encodeNumber, htext]
    exact .float hwrites hmark hnearest

@[simp]
theorem commas_cons_cons (w w' : List Char) (ws : List (List Char)) :
    commas (w :: w' :: ws) = w ++ ',' :: commas (w' :: ws) := by
  simp [commas]

@[simp]
theorem commas_singleton (w : List Char) : commas [w] = w := by simp [commas]

/-- Items are printed with commas between them. -/
theorem encodeItems_eq (items : List Json) : encodeItems items = commas (items.map encode) := by
  induction items with
  | nil => rfl
  | cons v items ih =>
    cases items with
    | nil => simp [encodeItems]
    | cons w rest =>
      rw [encodeItems, ih]
      simp

/-- A member as it is printed. -/
def encodeMember (m : String × Json) : List Char := encodeText m.1.toList ++ ':' :: encode m.2

theorem encodeMembers_eq (members : List (String × Json)) :
    encodeMembers members = commas (members.map encodeMember) := by
  induction members with
  | nil => rfl
  | cons m members ih =>
    cases members with
    | nil => simp [encodeMembers, encodeMember]
    | cons m' rest =>
      rw [encodeMembers, ih]
      simp [encodeMember]

theorem map_encodeMember (members : List (String × Json)) : members.map encodeMember =
    (members.map fun m => encodeText m.1.toList).zipWith (fun name w => name ++ ':' :: w)
      (members.map fun m => encode m.2) := by
  rw [List.zipWith_map, List.zipWith_self]
  rfl

/-- What is printed of a regular value is compact. -/
theorem compact_encode {depth : ℕ} {v : Json} (h : Regular depth v) : Compact (encode v) v := by
  induction h with
  | null => exact .null
  | bool b => cases b with
    | true => exact .true
    | false => exact .false
  | number h => exact .number (printsNumber_encodeNumber h)
  | text s => exact .text (writesText_encodeText s)
  | array _ ih =>
    rw [encode, encodeItems_eq]
    exact .array (List.forall₂_map_left_iff.2 (List.forall₂_same.2 ih))
  | object _ _ ih =>
    rw [encode, encodeMembers_eq, map_encodeMember]
    refine .object ?_ ?_
    · exact List.forall₂_map_left_iff.2 (List.forall₂_map_right_iff.2
        (List.forall₂_same.2 fun m _ => writesText_encodeText m.1))
    · exact List.forall₂_map_left_iff.2 (List.forall₂_map_right_iff.2 (List.forall₂_same.2 ih))

end Json

/-! ## Reading what is printed -/

namespace JsonReader

variable {rest : List Char}

/-- Further digits do not make a number smaller. -/
theorem le_ofDigitChars (ds : List Char) (n : ℕ) : n ≤ Nat.ofDigitChars 10 ds n := by
  induction ds generalizing n with
  | nil => exact Nat.le_refl n
  | cons d ds ih =>
    rw [Nat.ofDigitChars_cons]
    exact le_trans (by omega) (ih _)

/-- Digits of a number within the limit are all appended. -/
theorem appendDigits_eq {limit n : ℕ} {ds : List Char} (h : Nat.ofDigitChars 10 ds n ≤ limit) :
    appendDigits limit n ds = (Nat.ofDigitChars 10 ds n, []) := by
  induction ds generalizing n with
  | nil => rfl
  | cons d ds ih =>
    have hdigit : 10 * n + (d.toNat - '0'.toNat) = 10 * n + digitValue d := rfl
    rw [Nat.ofDigitChars_cons, hdigit] at h ⊢
    rw [appendDigits, if_pos (le_trans (le_ofDigitChars ds _) h)]
    exact ih h

/-- What may stand behind a value goes on with no number. -/
theorem head?_of_ends (h : Json.Ends rest) {c : Char} (hc : rest.head? = some c) :
    c.isDigit = false ∧ c ≠ '.' ∧ c ≠ 'e' ∧ c ≠ 'E' := by
  have hmem : c ∈ [' ', '\n', '\t', '\r', ',', ']', '\x7d'] := by
    have hends := h c (by simp [hc])
    simp only [isSpace] at hends
    simp at hends ⊢
    tauto
  simp only [List.mem_cons, List.not_mem_nil, or_false] at hmem
  rcases hmem with rfl | rfl | rfl | rfl | rfl | rfl | rfl <;> decide

/-- A run of digits is taken whole. -/
theorem takes_digits {ds : List Char} (hds : ∀ c ∈ ds, c.isDigit) (h : Json.Ends rest) :
    Takes digits ds ds rest := by
  have hrun : (ds ++ rest).takeWhile Char.isDigit = ds := by
    rw [List.takeWhile_append_of_pos hds]
    cases rest with
    | nil => simp
    | cons c rest => simp [(head?_of_ends h rfl).1]
  refine Takes.get fun p => ?_
  simp only [hrun]
  exact (Takes.advance ds rest).behind (Takes.pure ds rest)

/-- Where a number ends there is no exponent. -/
theorem takes_atExponent (h : Json.Ends rest) : Takes atExponent [] false rest := by
  have hno : (decide (rest.head? = some 'e') || decide (rest.head? = some 'E')) = false := by
    cases hc : rest.head? with
    | none => rfl
    | some c => simp [head?_of_ends h hc]
  have hpeek := (Takes.peek rest).map (g := fun c => decide (c = some 'e') || decide (c = some 'E'))
  rwa [hno] at hpeek

/-- The digits of a whole number of 64 bits are read as this number. -/
theorem takes_unsigned (negative : Bool) {n : ℕ} (hn : n ≤ maxWhole) (h : Json.Ends rest)
    {a : JsonNumber} (hwhole : Takes (whole negative n) [] a rest) :
    Takes (unsigned negative) (Nat.toDigits 10 n) a rest := by
  obtain ⟨hne, hdigit⟩ := Decimal.areDigits_toDigits n
  have hvalue : appendDigits maxWhole 0 (Nat.toDigits 10 n) = (n, []) := by
    have hdigits := Decimal.value_toDigits n
    rw [Decimal.value] at hdigits
    rw [appendDigits_eq (by rwa [hdigits]), hdigits]
  obtain ⟨c, ds, hcons⟩ := List.exists_cons_of_ne_nil hne
  have hc : c.isDigit := hdigit c (by rw [hcons]; exact List.mem_cons_self)
  have hpeek : Takes peek [] (some c) (Nat.toDigits 10 n ++ rest) := by
    rw [hcons]
    exact Takes.peek (c :: ds ++ rest)
  have hnone : ¬(rest.head?.any Char.isDigit ∨ rest.head? = some '.') := by
    cases hhead : rest.head? with
    | none => simp
    | some d => simp [head?_of_ends h hhead]
  obtain ⟨hnodigit, hnopoint⟩ := not_or.1 hnone
  unfold unsigned
  refine Takes.before hpeek ?_
  dsimp -zeta only
  extract_lets value digits behind
  have hread : Takes (value (Nat.toDigits 10 n)) [] a rest := by
    refine Takes.before (Takes.peek rest) ?_
    dsimp only
    rw [if_neg (not_and.2 fun _ => hnodigit), hvalue]
    refine Takes.before (Takes.peek rest) ?_
    rw [if_neg hnopoint]
    refine Takes.before (takes_atExponent h) ?_
    simpa using hwhole
  rw [if_neg (by simp [hc])]
  dsimp only [behind, digits]
  by_cases hzero : c = '0'
  · -- No other number starts with a zero.
    obtain rfl : n = 0 := by
      by_contra hpos
      exact Decimal.head?_toDigits (Nat.pos_of_ne_zero hpos) (by rw [hcons, hzero, List.head?_cons])
    rw [if_pos hzero, if_pos hzero]
    refine Takes.bind (w := ['0']) (u := []) (Takes.advance ['0'] rest) ?_
    exact Takes.before (Takes.pure ['0'] rest) hread
  · rw [if_neg hzero, if_neg hzero]
    exact (takes_digits hdigit h).behind hread

/-- A whole number of 64 bits is read as it is printed. -/
theorem takes_number {n : ℤ} (hlow : -2 ^ 63 ≤ n) (hhigh : n < 2 ^ 64) (h : Json.Ends rest) :
    Takes number (Json.encodeNumber (.whole n)) (.whole n) rest := by
  have hle : n.natAbs ≤ maxWhole := by
    rw [maxWhole]
    have : Nat.pow 2 64 = 2 ^ 64 := rfl
    omega
  rw [Json.encodeNumber, Json.toList_toString_int]
  unfold number
  split
  · next hneg =>
    have hwhole : Takes (whole true n.natAbs) [] (.whole n) rest := by
      have hpow : Nat.pow 2 63 = 2 ^ 63 := rfl
      have hneg : (-(n.natAbs : ℤ)) = n := by omega
      rw [whole, if_neg (by decide), if_neg (by omega), hneg]
      exact Takes.pure _ rest
    refine Takes.before (Takes.peek _) ?_
    rw [if_pos (by simp)]
    exact Takes.bind (w := ['-']) (Takes.advance ['-'] _) (takes_unsigned true hle h hwhole)
  · next hpos =>
    have hwhole : Takes (whole false n.natAbs) [] (.whole n) rest := by
      have habs : (n.natAbs : ℤ) = n := by omega
      rw [whole, if_pos (by decide), habs]
      exact Takes.pure _ rest
    have hhead : (Nat.toDigits 10 n.natAbs ++ rest).head? ≠ some '-' := by
      obtain ⟨hne, hdigit⟩ := Decimal.areDigits_toDigits n.natAbs
      rw [List.head?_append_of_ne_nil _ hne]
      intro hminus
      exact absurd (hdigit '-' (List.mem_of_mem_head? hminus)) (by decide)
    refine Takes.before (Takes.peek _) ?_
    rw [List.nil_append, if_neg hhead]
    exact takes_unsigned false hle h hwhole

end JsonReader

namespace Json

/-- A whole number in range is printed as the reader takes it. -/
theorem writesNumber_encodeNumber {n : ℤ} (hlow : -2 ^ 63 ≤ n) (hhigh : n < 2 ^ 64) :
    WritesNumber (encodeNumber (.whole n)) (.whole n) where
  head := by
    obtain ⟨hne, hdigit⟩ := Decimal.areDigits_toDigits n.natAbs
    obtain ⟨c, ds, hcons⟩ := List.exists_cons_of_ne_nil hne
    rw [encodeNumber, toList_toString_int, hcons]
    split
    · exact ⟨'-', c :: ds, rfl, .inl rfl⟩
    · exact ⟨c, ds, rfl, .inr (hdigit c (by rw [hcons]; exact List.mem_cons_self))⟩
  read _ p h := (JsonReader.takes_number hlow hhigh h).run p

/-- What stands for itself may stand at any depth. -/
theorem writes_plain {w : List Char} {v : Json} (h : WritesPlain w v) (depth : ℕ) :
    Writes depth w v := by
  cases depth with
  | zero => exact h
  | succ depth => exact .plain h

/-- Values printed with commas between them are read one by one. -/
theorem writesEach_commas {α : Type} {writes : List Char → α → Prop} {ws : List (List Char)}
    {vs : List α} (h : List.Forall₂ writes ws vs) : WritesEach writes (commas ws) vs := by
  have hblank : Blank [] := by decide
  induction h with
  | nil => exact .none hblank
  | @cons w v ws vs hw hws ih =>
    cases hws with
    | nil => simpa using WritesEach.last hblank hw hblank
    | cons => simpa using WritesEach.more hblank hw hblank ih

/-- A member with a new name is added at the end. -/
theorem putMember_of_not_mem {ms : List (String × Json)} {name : String}
    (h : name ∉ ms.map Prod.fst) (v : Json) : putMember ms name v = ms ++ [(name, v)] := by
  induction ms with
  | nil => rfl
  | cons m ms ih =>
    obtain ⟨hne, hms⟩ := not_or.1 (mt List.mem_cons.2 h)
    rw [putMember, if_neg (Ne.symm hne), ih hms, List.cons_append]

/-- Members of different names are put into an object as they are. -/
theorem foldl_putMember {ms before : List (String × Json)}
    (h : ((before ++ ms).map Prod.fst).Nodup) :
    ms.foldl (fun ms m => putMember ms m.1 m.2) before = before ++ ms := by
  induction ms generalizing before with
  | nil => exact (List.append_nil before).symm
  | cons m ms ih =>
    have hnew : m.1 ∉ before.map Prod.fst := by
      rw [List.map_append, List.map_cons] at h
      exact fun hmem => (List.nodup_append.1 h).2.2 _ hmem _ List.mem_cons_self rfl
    rw [List.append_cons] at h ⊢
    rw [List.foldl_cons, putMember_of_not_mem hnew, ih h]

/-- What is printed of a regular value without binary numbers may be written so. -/
theorem writes_encode {depth : ℕ} {v : Json} (h : Regular depth v) (hv : v.Exact) :
    Writes depth (encode v) v := by
  induction h with
  | null => exact writes_plain .null _
  | bool b => cases b with
    | true => exact writes_plain .true _
    | false => exact writes_plain .false _
  | number h =>
    cases h with
    | whole hlow hhigh => exact writes_plain (.number (writesNumber_encodeNumber hlow hhigh)) _
    | float => cases hv
  | text s => exact writes_text (writesText_encodeText s) _
  | @array depth items _ ih =>
    cases hv with
    | array hv =>
      have hitems : List.Forall₂ (Writes depth) (items.map encode) items :=
        List.forall₂_map_left_iff.2 (List.forall₂_same.2 fun v hmem => ih v hmem (hv v hmem))
      rw [encode, encodeItems_eq]
      exact .array (writesEach_commas hitems)
  | @object depth members hnodup _ ih =>
    cases hv with
    | object hv =>
      have hmembers : List.Forall₂ (WritesMember (Writes depth)) (members.map encodeMember)
          members :=
        List.forall₂_map_left_iff.2 (List.forall₂_same.2 fun m hmem =>
          .intro (b := []) (e := []) (writesText_encodeText m.1) (by decide) (by decide)
            (ih m hmem (hv m hmem)))
      have hput : members.foldl (fun ms m => putMember ms m.1 m.2) [] = members :=
        foldl_putMember hnodup
      have hobject := WritesWith.object (writesEach_commas hmembers)
      rw [hput] at hobject
      rw [encode, encodeMembers_eq]
      exact hobject

/-- What is printed of a regular value without binary numbers is read as this value. -/
theorem read?_compact {v : Json} (h : Regular JsonReader.maxDepth v) (hv : v.Exact) :
    read? v.compact = .ok v := by
  refine read?_of_written
    (.intro (b := []) (e := []) (by decide) (writes_encode h hv) (by decide) ?_)
  rw [compact, String.toList_ofList, List.append_nil, List.nil_append]

example : (Json.array [.number (.whole (-12)), .null, .object [("a", .text "\n")]]).compact =
    "[-12,null,\x7b\"a\":\"\\n\"\x7d]" := by cbv

end Json

end EnvAudit
