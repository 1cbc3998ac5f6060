import EnvAudit.Proofs.Pattern.Runs
import EnvAudit.Proofs.Pattern.Sightings

/-!
# EnvAudit.Proofs.Pattern.Apart

Searching texts that a character sets apart which the pattern never reads:

1. what a reading does may depend on nothing but the text before the next such character
   (`Reading.Apart`);
2. its groups may hold characters of one set only (`Reading.Captures`);
3. a sighting is a way of the pattern from some position of the text on (`mem_sightings`).

Main statements: what is found in two texts set apart is what is found in the one and then what is
found in the other (`Apart.found_append`), and lies on one side (`Apart.sighting_beside`).
-/

namespace EnvAudit.Reading

variable {sep : Char} {set : CharSet} {a b : Reading}

/-! ## Readings that stop -/

/-- Reading that depends on nothing but the text before the next separator. -/
structure Apart (sep : Char) (a : Reading) : Prop where
  isLocal : a.Local
  append : ∀ {c d : Cursor} {more : List Char}, d.rest = c.rest ++ sep :: more → a d = a c

namespace Apart

/-- Behind what is read, the rests of two texts still differ in the same way. -/
theorem rest_move {c d : Cursor} {more xs : List Char} (hrest : d.rest = c.rest ++ sep :: more)
    (hxs : xs <+: c.rest) : (d.move xs).rest = (c.move xs).rest ++ sep :: more := by
  obtain ⟨ys, hys⟩ := hxs
  rw [Cursor.rest_move hys.symm, Cursor.rest_move (by rw [hrest, ← hys, List.append_assoc])]

theorem andThen (ha : Apart sep a) (hb : Apart sep b) : Apart sep (a.andThen b) where
  isLocal := ha.isLocal.andThen hb.isLocal
  append {c d more} hrest := by
    unfold Reading.andThen
    rw [ha.append hrest]
    refine List.flatMap_congr fun v hv => ?_
    rw [hb.append (rest_move hrest (ha.isLocal c v hv))]

theorem orElse (ha : Apart sep a) (hb : Apart sep b) : Apart sep (a.orElse b) where
  isLocal := ha.isLocal.orElse hb.isLocal
  append hrest := by simp only [Reading.orElse, ha.append hrest, hb.append hrest]

theorem remember (ha : Apart sep a) (index : Nat) : Apart sep (a.remember index) where
  isLocal := ha.isLocal.remember index
  append hrest := by simp only [Reading.remember, ha.append hrest]

theorem text {cs : List Char} (h : sep ∉ cs) : Apart sep (.text cs) where
  isLocal c v hv := by
    rw [text_eq] at hv
    split at hv
    · next hcs =>
      cases List.mem_singleton.1 hv
      exact hcs
    · simp at hv
  append {c d more} hrest := by
    have hprefix : cs <+: d.rest ↔ cs <+: c.rest := by
      rw [hrest]
      constructor
      · intro hcs
        refine List.prefix_of_prefix_length_le hcs (List.prefix_append _ _) ?_
        by_contra hlt
        obtain ⟨ys, hys⟩ := hcs
        refine h ?_
        have hsep := congrArg (·[c.rest.length]?) hys
        simp only [List.getElem?_append_left (by omega : c.rest.length < cs.length),
          List.getElem?_append_right (Nat.le_refl _), Nat.sub_self, List.getElem?_cons_zero] at hsep
        exact List.mem_of_getElem? hsep
      · exact fun hcs => hcs.trans (List.prefix_append _ _)
    simp only [text_eq, hprefix]

theorem again₁ (h : set.contains sep = false) (greedy : Bool) :
    Apart sep (again₁ greedy (.one set)) where
  isLocal := (Local.one set).again₁ greedy
  append {c d more} hrest := by
    induction hn : c.rest generalizing c d with
    | nil =>
      rw [again₁_one_of_head (by simp [hrest, hn, h]), again₁_one_of_head (by simp [hn])]
    | cons x xs ih =>
      by_cases hx : set.contains x
      · have hx' : [x] <+: c.rest := by simp [hn]
        have hmove := rest_move hrest hx'
        have hd : d.rest = x :: (xs ++ sep :: more) := by rw [hrest, hn, List.cons_append]
        have hcongr := ih hmove (Cursor.rest_move (by simp [hn]))
        rw [again₁_one_cons hn hx, again₁_one_cons hd hx, behind, behind, again_eq]
        cases greedy <;> simp [optional, Reading.orElse, Reading.still, hcongr]
      · rw [again₁_one_of_head (by simp [hrest, hn, hx]), again₁_one_of_head (by simp [hn, hx])]

/-- Separators are not read. -/
theorem not_mem_read (h : Apart sep a) {c : Cursor} {w : Way} (hw : w ∈ a c) : sep ∉ w.read := by
  have hread := h.isLocal c w hw
  by_cases hmem : sep ∈ c.rest
  · obtain ⟨before, more, hrest, hbefore⟩ := List.eq_append_cons_of_mem hmem
    rw [h.append (c := ⟨none, 0, before⟩) (d := c) hrest] at hw
    exact fun hsep => hbefore ((h.isLocal _ w hw).subset hsep)
  · exact fun hsep => hmem (hread.subset hsep)

/-- Reading depends on the rest of the text alone. -/
theorem congr (h : Apart sep a) {c d : Cursor} (hrest : c.rest = d.rest) : a c = a d := by
  have hc := h.append (c := c) (d := ⟨none, 0, c.rest ++ [sep]⟩) rfl
  have hd := h.append (c := d) (d := ⟨none, 0, c.rest ++ [sep]⟩) (by rw [hrest])
  exact hc.symm.trans hd

end Apart

/-! ## What groups hold -/

/-- Reading whose groups hold characters of one set only. -/
def Captures (set : CharSet) (a : Reading) : Prop :=
  ∀ c, ∀ w ∈ a c, ∀ g ∈ w.groups, ∀ x ∈ g.2, set.contains x

namespace Captures

theorem text (cs : List Char) : Captures set (.text cs) := by
  intro c w hw
  rw [text_eq] at hw
  split at hw
  · cases List.mem_singleton.1 hw
    simp
  · simp at hw

theorem andThen (ha : Captures set a) (hb : Captures set b) : Captures set (a.andThen b) := by
  intro c w hw g hg
  obtain ⟨u, hu, v, hv, rfl⟩ := mem_andThen.1 hw
  rcases List.mem_append.1 hg with hg | hg
  · exact hb _ v hv g hg
  · exact ha c u hu g hg

theorem orElse (ha : Captures set a) (hb : Captures set b) : Captures set (a.orElse b) :=
  fun c w hw => (List.mem_append.1 hw).elim (ha c w) (hb c w)

end Captures

/-- A run consists of characters of its set. -/
theorem again₁_one_subset {greedy : Bool} {c : Cursor} {w : Way}
    (hw : w ∈ again₁ greedy (.one set) c) : w.groups = [] ∧ ∀ x ∈ w.read, set.contains x := by
  induction hn : c.rest generalizing c w with
  | nil => simp [again₁_one_of_nil hn] at hw
  | cons x xs ih =>
    by_cases hx : set.contains x
    · rw [again₁_one_cons hn hx] at hw
      obtain ⟨v, hv, rfl⟩ := List.mem_map.1 hw
      rcases mem_again.1 hv with rfl | hv
      · simp [Way.append, hx]
      · have hmove : (c.move [x]).rest = xs := Cursor.rest_move (by simp [hn])
        obtain ⟨hgroups, hread⟩ := ih hv hmove
        refine ⟨by simp [Way.append, hgroups], fun y hy => ?_⟩
        rcases List.mem_cons.1 hy with rfl | hy
        · exact hx
        · exact hread y hy
    · simp [again₁_one_cons_of_not hn hx] at hw

/-- A group around a run from a part of the set holds characters of the set. -/
theorem Captures.run {part : CharSet} (h : ∀ x, part.contains x → set.contains x) (index : Nat)
    (greedy : Bool) : Captures set (remember index (again₁ greedy (.one part))) := by
  intro c w hw g hg x hx
  obtain ⟨v, hv, rfl⟩ := List.mem_map.1 hw
  obtain ⟨hgroups, hread⟩ := again₁_one_subset hv
  simp only [hgroups, List.mem_singleton] at hg
  subst hg
  exact h x (hread x hx)

/-! ## Sightings -/

/-- A sighting is a way from some position on. -/
theorem mem_sightings (ha : a.Moving) {c : Cursor} {s : Sighting} (hs : s ∈ a.sightings c) :
    ∃ lead w, w ∈ a (c.move lead) ∧ lead ++ w.read <+: c.rest ∧
      s = (⟨c.move lead, (c.move lead).move w.read⟩, w.groups) := by
  induction hn : c.left using Nat.strongRecOn generalizing c with
  | ind n ih =>
    cases hhead : (a c).head? with
    | some w =>
      have hw := List.mem_of_mem_head? hhead
      have hread := ha.isLocal c w hw
      rw [sightings_of_head ha hhead] at hs
      rcases List.mem_cons.1 hs with rfl | hs
      · exact ⟨[], w, by rwa [Cursor.move_nil], hread, by rw [Cursor.move_nil]⟩
      · obtain ⟨lead, v, hv, hpre, rfl⟩ := ih _ (hn ▸ ha.left_lt hw) hs rfl
        rw [← Cursor.move_append] at hv ⊢
        refine ⟨w.read ++ lead, v, hv, ?_, rfl⟩
        rw [List.append_assoc]
        exact Cursor.prefix_append_of_move hread hpre
    | none =>
      have hc := List.head?_eq_none_iff.1 hhead
      cases hrest : c.rest with
      | nil => simp [sightings_end hc hrest] at hs
      | cons x xs =>
        have hx : [x] <+: c.rest := by simp [hrest]
        rw [sightings_skip hc hrest] at hs
        obtain ⟨lead, v, hv, hpre, rfl⟩ := ih _ (hn ▸ Cursor.left_move_lt hx (by simp)) hs rfl
        rw [← Cursor.move_append] at hv ⊢
        refine ⟨[x] ++ lead, v, hv, ?_, rfl⟩
        rw [List.append_assoc, ← hrest]
        exact Cursor.prefix_append_of_move hx hpre

/-- What the groups of the matches in a text hold. -/
def found (a : Reading) (text : List Char) : List (List (Nat × List Char)) :=
  (a.sightings (.start text)).map Prod.snd

/-- In an empty text nothing is found. -/
theorem found_nil (ha : a.Moving) : a.found [] = [] := by
  have hnone : a (.start []) = [] := by
    refine List.eq_nil_iff_forall_not_mem.2 fun w hw => ha.read_ne_nil _ w hw ?_
    exact List.prefix_nil.1 (ha.isLocal _ w hw)
  simp [found, sightings_end hnone rfl]

/-- Where the search starts has no influence on what is found behind. -/
theorem Apart.found_rest (h : Apart sep a) (ha : a.Moving) (c : Cursor) :
    (a.sightings c).map Prod.snd = a.found c.rest := by
  suffices hcongr : ∀ n : Nat, ∀ c d : Cursor, c.left = n → c.rest = d.rest →
      (a.sightings c).map Prod.snd = (a.sightings d).map Prod.snd by
    exact hcongr _ c (.start c.rest) rfl rfl
  intro n
  induction n using Nat.strongRecOn with
  | ind n ih =>
    intro c d hn hrest
    have hmove : ∀ xs, (c.move xs).rest = (d.move xs).rest := fun xs => by
      simp only [Cursor.move, hrest]
    cases hhead : (a c).head? with
    | some w =>
      have hlt := ha.left_lt (List.mem_of_mem_head? hhead)
      have hhead' : (a d).head? = some w := by rw [← h.congr hrest, hhead]
      rw [sightings_of_head ha hhead, sightings_of_head (c := d) ha hhead']
      exact congrArg (w.groups :: ·) (ih _ (hn ▸ hlt) _ _ rfl (hmove _))
    | none =>
      have hc := List.head?_eq_none_iff.1 hhead
      have hd : a d = [] := (h.congr hrest).symm.trans hc
      cases hx : c.rest with
      | nil => rw [sightings_end hc hx, sightings_end hd (hrest ▸ hx)]
      | cons x xs =>
        rw [sightings_skip hc hx, sightings_skip hd (hrest ▸ hx)]
        exact ih _ (hn ▸ Cursor.left_move_lt (by simp [hx]) (by simp)) _ _ rfl (hmove _)

/-- Where there is a way at the start of a text, search goes on behind it. -/
theorem Apart.found_of_head (h : Apart sep a) (ha : a.Moving) {text : List Char} {w : Way}
    (hw : (a (.start text)).head? = some w) :
    a.found text = w.groups :: a.found ((Cursor.start text).move w.read).rest := by
  rw [found, sightings_of_head ha hw, List.map_cons, h.found_rest ha]

/-- Where there is no way at the start of a text, search goes on behind its first character. -/
theorem Apart.found_cons (h : Apart sep a) (ha : a.Moving) {x : Char} {xs : List Char}
    (hnone : a (.start (x :: xs)) = []) : a.found (x :: xs) = a.found xs := by
  have hmove : ((Cursor.start (x :: xs)).move [x]).rest = xs := Cursor.rest_move rfl
  rw [found, sightings_skip hnone rfl, h.found_rest ha, hmove]

/-- What is found on the two sides of a separator is found one after the other. -/
theorem Apart.found_append (h : Apart sep a) (ha : a.Moving) (text more : List Char) :
    a.found (text ++ sep :: more) = a.found text ++ a.found more := by
  induction hn : text.length using Nat.strongRecOn generalizing text with
  | ind n ih =>
    have happend : a (.start (text ++ sep :: more)) = a (.start text) := h.append rfl
    cases hhead : (a (.start text)).head? with
    | some w =>
      have hw := List.mem_of_mem_head? hhead
      obtain ⟨rest, hrest⟩ := ha.isLocal _ w hw
      have hlt : rest.length < n := by
        have hpos := List.length_pos_iff.2 (ha.read_ne_nil _ w hw)
        have hlength := congrArg List.length hrest
        simp only [List.length_append, Cursor.start] at hlength
        omega
      have hmove : ((Cursor.start text).move w.read).rest = rest := Cursor.rest_move hrest.symm
      have hmove' : ((Cursor.start (text ++ sep :: more)).move w.read).rest = rest ++ sep :: more :=
        Cursor.rest_move (by rw [← List.append_assoc, hrest]; rfl)
      rw [h.found_of_head ha hhead, h.found_of_head ha (happend ▸ hhead), hmove, hmove',
        ih _ hlt _ rfl]
      rfl
    | none =>
      have hnone := List.head?_eq_none_iff.1 hhead
      cases text with
      | nil =>
        have hsep : a (.start (sep :: more)) = [] := happend.trans hnone
        rw [List.nil_append, h.found_cons ha hsep, found_nil ha]
        rfl
      | cons x xs =>
        have hx : a (.start (x :: (xs ++ sep :: more))) = [] := happend.trans hnone
        rw [List.cons_append, h.found_cons ha hx, h.found_cons ha hnone]
        exact ih _ (by simp [← hn]) xs rfl

/-- No sighting reaches from one side of separators to the other. -/
theorem Apart.sighting_beside (h : Apart sep a) (ha : a.Moving) {text seps more : List Char}
    (hne : seps ≠ []) (hseps : ∀ x ∈ seps, x = sep) {s : Sighting}
    (hs : s ∈ a.sightings (.start (text ++ seps ++ more))) :
    s.1.stop.pos ≤ text.length ∨ (text ++ seps).length ≤ s.1.start.pos := by
  obtain ⟨lead, w, hw, hpre, rfl⟩ := mem_sightings ha hs
  have hpos := List.length_pos_iff.2 hne
  have hmoves := List.length_pos_iff.2 (ha.read_ne_nil _ w hw)
  simp only [Cursor.pos_move, Cursor.start, Nat.zero_add, List.length_append]
  by_contra hacross
  rw [not_or, Nat.not_le, Nat.not_le] at hacross
  -- A place both of the separators and of what is read.
  have hplace : max lead.length text.length < text.length + seps.length ∧
      max lead.length text.length < lead.length + w.read.length := by omega
  obtain ⟨rest, hrest⟩ := hpre
  have hread : (text ++ seps ++ more)[max lead.length text.length]? =
      w.read[max lead.length text.length - lead.length]? := by
    rw [← show lead ++ w.read ++ rest = text ++ seps ++ more from hrest, List.append_assoc,
      List.getElem?_append_right (Nat.le_max_left _ _), List.getElem?_append_left (by omega)]
  rw [List.append_assoc, List.getElem?_append_right (Nat.le_max_right _ _),
    List.getElem?_append_left (by omega)] at hread
  have hsep : seps[max lead.length text.length - text.length]? = some sep := by
    rw [List.getElem?_eq_getElem (by omega)]
    exact congrArg some (hseps _ (List.getElem_mem _))
  exact h.not_mem_read hw (List.mem_of_getElem? (hread.symm.trans hsep))

/-- Nothing is found in a text without a character that every way reads. -/
theorem found_of_not_mem (ha : a.Moving) {x : Char} (hx : ∀ c, ∀ w ∈ a c, x ∈ w.read)
    {text : List Char} (h : x ∉ text) : a.found text = [] := by
  rw [found, List.map_eq_nil_iff, List.eq_nil_iff_forall_not_mem]
  intro s hs
  obtain ⟨lead, w, hw, hpre, -⟩ := mem_sightings ha hs
  exact h (hpre.subset (List.mem_append_right _ (hx _ w hw)))

end EnvAudit.Reading
