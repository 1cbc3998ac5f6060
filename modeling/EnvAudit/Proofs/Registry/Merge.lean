import EnvAudit.Proofs.Registry.Additions

/-!
# EnvAudit.Proofs.Registry.Merge

What merging entries into a registry makes of it:

1. `put` leaves the tags that are there where they are, and of the entries under its tag it leaves
   the new one (`tags_put`, `find?_put`);
2. so after a merge the new tags stand behind the old ones, each where it came first, and the last
   entry under each tag is there (`tags_foldl_put`, `find?_foldl_put`);
3. no registry that can be built has a tag twice (`Built.nodup_tags`), so its tags and what is found
   under them tell its entries (`entries_ext`).

Main statement: a merge overrides by tags and keeps positions (`merge_overrides_by_tag`).
-/

namespace EnvAudit.Registry

variable {entries more : List PatternEntry} {new e : PatternEntry} {tag : String}

/-! ## Tags -/

/-- Putting an entry keeps the order of the tags and adds a new one at the end. -/
theorem tags_put (entries : List PatternEntry) (new : PatternEntry) :
    tags (put entries new) =
      if new.tag ∈ tags entries then tags entries else tags entries ++ [new.tag] := by
  induction entries with
  | nil => rfl
  | cons e entries ih =>
    by_cases htag : e.tag = new.tag
    · simp [put, tags, htag]
    · have hput : tags (put (e :: entries) new) = e.tag :: tags (put entries new) := by
        simp [put, tags, htag]
      have hcons : tags (e :: entries) = e.tag :: tags entries := rfl
      rw [hput, ih, hcons]
      by_cases hmem : new.tag ∈ tags entries
      · rw [if_pos hmem, if_pos (List.mem_cons_of_mem _ hmem)]
      · rw [if_neg hmem, if_neg (by simpa [Ne.symm htag] using hmem), List.cons_append]

/-- Merged entries leave the old tags in place, and new tags come behind them, each where it comes
first. -/
theorem tags_foldl_put (entries more : List PatternEntry) :
    tags (more.foldl put entries) =
      tags entries ++ ((tags more).filter fun tag => tag ∉ tags entries).eraseDups := by
  induction more generalizing entries with
  | nil => simp [tags]
  | cons new more ih =>
    have hmore : tags (new :: more) = new.tag :: tags more := rfl
    rw [List.foldl_cons, ih, tags_put, hmore]
    by_cases hmem : new.tag ∈ tags entries
    · rw [if_pos hmem, List.filter_cons_of_neg (by simpa using hmem)]
    · have hfilter : ((tags more).filter fun tag => tag ∉ tags entries ++ [new.tag]) =
          ((tags more).filter fun tag => tag ∉ tags entries).filter (!· == new.tag) := by
        rw [List.filter_filter]
        refine List.filter_congr fun tag _ => ?_
        by_cases htag : tag = new.tag <;> simp [htag]
      rw [if_neg hmem, List.filter_cons_of_pos (by simpa using hmem), List.eraseDups_cons, hfilter,
        List.append_assoc, List.singleton_append]

/-- Putting an entry keeps tags distinct. -/
theorem nodup_tags_put (h : (tags entries).Nodup) (new : PatternEntry) :
    (tags (put entries new)).Nodup := by
  rw [tags_put]
  split
  · exact h
  · next hnew => exact List.nodup_append.2 ⟨h, by simp, by grind⟩

theorem nodup_tags_foldl_put (h : (tags entries).Nodup) (more : List PatternEntry) :
    (tags (more.foldl put entries)).Nodup := by
  induction more generalizing entries with
  | nil => exact h
  | cons new more ih => exact ih (nodup_tags_put h new)

/-! ## What is found under a tag -/

/-- Under its tag the new entry is found, and under others what was there. -/
theorem find?_put (entries : List PatternEntry) (new : PatternEntry) (tag : String) :
    ((put entries new).find? fun e => e.tag = tag) =
      if new.tag = tag then some new else entries.find? fun e => e.tag = tag := by
  induction entries with
  | nil => by_cases h : new.tag = tag <;> simp [put, h]
  | cons e entries ih =>
    by_cases htag : e.tag = new.tag
    · by_cases h : new.tag = tag <;> simp [put, htag, h]
    · rw [put, if_neg htag, List.find?_cons, List.find?_cons, ih]
      by_cases h : e.tag = tag
      · have hne : new.tag ≠ tag := fun hnew => htag (h.trans hnew.symm)
        simp [h, hne]
      · simp [h]

/-- Under each tag the entry merged last is found, or else the one that was there. -/
theorem find?_foldl_put (entries more : List PatternEntry) (tag : String) :
    ((more.foldl put entries).find? fun e => e.tag = tag) =
      (more.reverse.find? fun e => e.tag = tag).or (entries.find? fun e => e.tag = tag) := by
  induction more generalizing entries with
  | nil => rfl
  | cons new more ih =>
    rw [List.foldl_cons, ih, find?_put, List.reverse_cons, List.find?_append, Option.or_assoc]
    congr 1
    by_cases h : new.tag = tag <;> simp [h]

theorem find?_reverse_eq_none_iff :
    (more.reverse.find? fun e => e.tag = tag) = none ↔ tag ∉ tags more := by
  simp [tags]

/-- Where no tag comes twice, an entry is found under its tag. -/
theorem find?_of_mem (h : (tags entries).Nodup) (he : e ∈ entries) :
    (entries.find? fun other => other.tag = e.tag) = some e := by
  induction entries with
  | nil => cases he
  | cons other entries ih =>
    obtain ⟨hnot, hnodup⟩ := List.nodup_cons.1 h
    rcases List.mem_cons.1 he with rfl | he
    · simp
    · have hne : other.tag ≠ e.tag := fun htag => hnot (htag ▸ List.mem_map_of_mem he)
      rw [List.find?_cons_of_neg (by simpa using hne), ih hnodup he]

/-- Entries without a tag twice are told by the tags in order and what is found under them. -/
theorem entries_ext {others : List PatternEntry} (h : (tags entries).Nodup)
    (htags : tags others = tags entries)
    (hfind : ∀ tag, (others.find? fun e => e.tag = tag) = entries.find? fun e => e.tag = tag) :
    others = entries := by
  have hlength : others.length = entries.length := by
    simpa [tags] using congrArg List.length htags
  refine List.ext_getElem hlength fun i hi hi' => ?_
  have htag : others[i].tag = entries[i].tag := by
    have hget := congrArg (·[i]?) htags
    simpa [tags, hi, hi'] using hget
  have hother := find?_of_mem (htags ▸ h) (List.getElem_mem hi)
  have hentry := find?_of_mem h (List.getElem_mem hi')
  rw [hfind, htag, hentry] at hother
  exact (Option.some.inj hother).symm

/-! ## Registries that can be built -/

/-- A registry that can be built: one of those to start from, or what merges have made of it. -/
inductive Built : Registry → Prop
  | empty : Built .empty
  | default : Built .default
  | custom {cs : List CustomPattern} {r : Registry} : withCustom cs = .ok r → Built r
  | merge {r : Registry} (more : List PatternEntry) : Built r → Built (r.merge more)

theorem nodup_tags_default : (tags default.entries).Nodup := by decide

/-- Custom patterns are merged into the default registry. -/
theorem exists_merge_of_withCustom {cs : List CustomPattern} {r : Registry}
    (h : withCustom cs = .ok r) : ∃ more, r = default.merge more := by
  obtain ⟨more, -, rfl⟩ := exists_of_map_eq_ok h
  exact ⟨more, rfl⟩

/-- A registry that was built has distinct tags. -/
theorem Built.nodup_tags {r : Registry} (h : r.Built) : (tags r.entries).Nodup := by
  induction h with
  | empty => exact List.nodup_nil
  | default => exact nodup_tags_default
  | custom hcustom =>
    obtain ⟨more, rfl⟩ := exists_merge_of_withCustom hcustom
    exact nodup_tags_foldl_put nodup_tags_default more
  | merge more _ ih => exact nodup_tags_foldl_put ih more

/-- Merging twice is merging all at once. -/
theorem merge_append (r : Registry) (a b : List PatternEntry) :
    (r.merge a).merge b = r.merge (a ++ b) := by
  rw [merge, merge, merge, List.foldl_append]

/-- What is merged once more changes nothing. -/
theorem merge_self {r : Registry} (h : (tags r.entries).Nodup) (a : List PatternEntry) :
    (r.merge a).merge a = r.merge a := by
  refine congrArg Registry.mk (entries_ext (nodup_tags_foldl_put h a) ?_ fun tag => ?_)
  · have hnone : ((tags a).filter fun tag => tag ∉ tags (r.merge a).entries) = [] := by
      refine List.filter_eq_nil_iff.2 fun tag htag => ?_
      have hmem : tag ∈ tags (r.merge a).entries := mem_tags_foldl_put.2 (.inr htag)
      simpa using hmem
    rw [tags_foldl_put, hnone, List.eraseDups_nil, List.append_nil]
    rfl
  · rw [find?_foldl_put, merge, find?_foldl_put, ← Option.or_assoc, Option.or_self]

/-- Extensions that were listed under replaced tags only, and that no merged entry lists, are left
out. -/
theorem not_claims_of_merge {r : Registry} (h : (tags r.entries).Nodup) {a : List PatternEntry}
    {extension : String}
    (hreplaced : ∀ e ∈ r.entries, e.claims extension → e.tag ∈ tags a)
    (hunlisted : ∀ e ∈ a, ¬e.claims extension) :
    ∀ e ∈ (r.merge a).entries, ¬e.claims extension := by
  intro e he hclaims
  have hfind := find?_of_mem (nodup_tags_foldl_put h a) he
  rw [find?_foldl_put] at hfind
  cases hlast : a.reverse.find? fun other => other.tag = e.tag with
  | some last =>
    rw [hlast, Option.some_or] at hfind
    cases hfind
    exact hunlisted e (List.mem_reverse.1 (List.mem_of_find?_eq_some hlast)) hclaims
  | none =>
    rw [hlast, Option.none_or] at hfind
    exact find?_reverse_eq_none_iff.1 hlast
      (hreplaced e (List.mem_of_find?_eq_some hfind) hclaims)

/-- In a registry that can be built no tag comes twice. Merging entries into it keeps its tags in
their places, and new tags come behind them in the order in which they first come; under a tag of
the merged entries the last of these is found, and under all other tags what was found before. It
makes no difference whether entries are merged at once or one part after the other, nor whether they
are merged twice. An extension that replaced entries only were for, and no merged one is, has no
entry any more. -/
theorem merge_overrides_by_tag {r : Registry} (h : r.Built) :
    (tags r.entries).Nodup ∧ ∀ a : List PatternEntry,
      (∀ b, (r.merge a).merge b = r.merge (a ++ b)) ∧
      (r.merge a).merge a = r.merge a ∧
      tags (r.merge a).entries =
        tags r.entries ++ ((tags a).filter fun tag => tag ∉ tags r.entries).eraseDups ∧
      (∀ before e behind, a = before ++ e :: behind → e.tag ∉ tags behind →
        (r.merge a).get? e.tag = some e) ∧
      (∀ tag, tag ∉ tags a → (r.merge a).get? tag = r.get? tag) ∧
      ∀ extension, (∀ e ∈ r.entries, e.claims extension → e.tag ∈ tags a) →
        (∀ e ∈ a, ¬e.claims extension) → (r.merge a).forExtension? extension = none := by
  have hnodup := h.nodup_tags
  refine ⟨hnodup, fun a => ⟨merge_append r a, merge_self hnodup a, tags_foldl_put _ _, ?_, ?_, ?_⟩⟩
  · rintro before e behind rfl hlast
    have hfind := find?_foldl_put r.entries (before ++ e :: behind) e.tag
    rwa [List.reverse_append, List.reverse_cons, List.append_assoc, List.find?_append,
      find?_reverse_eq_none_iff.2 hlast, Option.none_or, List.singleton_append,
      List.find?_cons_of_pos (by simp), Option.some_or] at hfind
  · intro tag htag
    have hfind := find?_foldl_put r.entries a tag
    rwa [find?_reverse_eq_none_iff.2 htag, Option.none_or] at hfind
  · intro extension hreplaced hunlisted
    exact List.find?_eq_none.2 (not_claims_of_merge hnodup hreplaced hunlisted)

/-- An entry that replaces a default one, between two under a new tag. -/
def sharpEntries : List PatternEntry :=
  [⟨"vb", "x()", .ofNode .empty, [".vb"]⟩, { Registry.dotnet with extensions := [".csx"] },
    { Registry.dotnet with tag := "vb" }]

theorem merge_overrides_by_tag_sharpEntries :
    Built (default.merge sharpEntries) ∧
      tags ((default.merge sharpEntries).merge sharpEntries.reverse).entries =
        ["javascript", "dotnet", "flutter", "vb"] ∧
      ((default.merge sharpEntries).merge sharpEntries.reverse).get? "vb" = sharpEntries.head? ∧
      ((default.merge sharpEntries).merge [⟨"vb", "x()", .ofNode .empty, []⟩]).forExtension? ".cs" =
        none := by
  have hbuilt : Built (default.merge sharpEntries) := .merge _ .default
  obtain ⟨-, hmerge⟩ := merge_overrides_by_tag hbuilt
  obtain ⟨-, -, htags, hlast, -⟩ := hmerge sharpEntries.reverse
  obtain ⟨-, -, -, -, -, hnone⟩ := hmerge [⟨"vb", "x()", .ofNode .empty, []⟩]
  exact ⟨hbuilt, htags.trans (by decide), hlast (sharpEntries.reverse.take 2) _ [] rfl (by decide),
    hnone ".cs" (by decide) (by decide)⟩

end EnvAudit.Registry
