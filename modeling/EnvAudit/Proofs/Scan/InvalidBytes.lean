import EnvAudit.Proofs.Registry.Forms
import EnvAudit.Proofs.Scan
import EnvAudit.Proofs.Text.Lossy

/-!
# EnvAudit.Proofs.Scan.InvalidBytes

Files with bytes that are no text:

1. where the same character stands between two texts, and is one that no reference has, the default
   entries find what they find in the one text and in the other (`Inline.extract_between`), each
   reference on one side (`Inline.found_beside`);
2. such a character is put for bytes that are no text, and these do not touch the texts around them
   (`Utf8.decodeLossy_between`).

Main statement: a scan finds in such a file what it would find in the texts on both sides
(`invalid_bytes_set_texts_apart`).
-/

namespace EnvAudit

theorem Registry.not_contains_replacement : dashedWord.contains '\ufffd' = false := by
  decide +kernel

namespace Registry.Inline

variable {e : PatternEntry} (h : Inline e) {sep : Char} {seps : List Char}
  (hword : dashedWord.contains sep = false) (hmark : sep ∉ marks) (hseps : ∀ x ∈ seps, x = sep)
include h hword hmark hseps

/-- Separators in front change nothing in what is extracted. -/
theorem extract_behind (more : List Char) : e.extract (seps ++ more) = e.extract more := by
  induction seps with
  | nil => rfl
  | cons x seps ih =>
    obtain ⟨rfl, hseps⟩ := List.forall_mem_cons.1 hseps
    have hfirst := h.extract_append hword hmark [] (seps ++ more)
    rw [h.extract_nil, List.nil_append, List.nil_append, ih hseps] at hfirst
    exact hfirst

variable (hne : seps ≠ [])
include hne

/-- Between separators texts are searched one after the other. -/
theorem extract_between (text more : List Char) :
    e.extract (text ++ seps ++ more) = e.extract text ++ e.extract more := by
  obtain ⟨x, rest, rfl⟩ := List.exists_cons_of_ne_nil hne
  obtain ⟨rfl, hrest⟩ := List.forall_mem_cons.1 hseps
  rw [List.append_assoc, List.cons_append, h.extract_append hword hmark,
    h.extract_behind hword hmark hrest]

/-- A reference lies on one side of separators. -/
theorem found_beside {text more : List Char} {f : Found}
    (hf : f ∈ e.pattern.findAll (text ++ seps ++ more)) :
    f.span.stop.pos ≤ text.length ∨ (text ++ seps).length ≤ f.span.start.pos := by
  have hview := List.mem_map_of_mem (f := Found.view) hf
  rw [Pattern.map_view_findAll h.regular] at hview
  exact (h.apart hword hmark).sighting_beside h.moving hne hseps hview

end Registry.Inline

/-- Bytes between two texts that are read as nothing but replacement characters neither hide a
reference nor make one: the texts are read as they are, even where a character is broken off before
the second one, and a scan finds in the file what its default entry extracts from the one text and
then from the other. No reference, and so no name, reaches from one to the other. -/
theorem invalid_bytes_set_texts_apart {before between behind : Bytes} {text more : List Char}
    {registry : Registry} {path : Path} {e : PatternEntry}
    (hbefore : Utf8.decode? before = some text) (hbehind : Utf8.decode? behind = some more)
    (hne : between ≠ []) (hinvalid : ∀ c ∈ Utf8.decodeLossy between, c = '\ufffd')
    (he : e ∈ Registry.default.entries) (hentry : Scan.entryFor? registry path = some e) :
    Utf8.decodeLossy (before ++ between ++ behind) = text ++ Utf8.decodeLossy between ++ more ∧
      e.extract (Utf8.decodeLossy (before ++ between ++ behind)) =
        e.extract text ++ e.extract more ∧
      (∀ f ∈ e.pattern.findAll (Utf8.decodeLossy (before ++ between ++ behind)),
        f.span.stop.pos ≤ text.length ∨
          (text ++ Utf8.decodeLossy between).length ≤ f.span.start.pos) ∧
      ∀ debug s, Scan.visit registry debug s ⟨path, .ok (before ++ between ++ behind)⟩ =
        ⟨if debug then .scanningFile path e.tag ::
            (e.extract text ++ e.extract more).map fun n => .foundVariable n path else [],
          .ok ⟨s.files + 1, s.names.insertAll (e.extract text ++ e.extract more)⟩⟩ := by
  have hinline := Registry.inline_of_mem_default he
  have hreplaced : Utf8.decodeLossy between ≠ [] := by
    obtain ⟨b, rest, rfl⟩ := List.exists_cons_of_ne_nil hne
    rw [Utf8.decodeLossy, Utf8.units]
    exact List.cons_ne_nil _ _
  have htext := Utf8.decodeLossy_between hbefore hbehind between
  have hextract : e.extract (Utf8.decodeLossy (before ++ between ++ behind)) =
      e.extract text ++ e.extract more := by
    rw [htext]
    exact hinline.extract_between Registry.not_contains_replacement (by decide) hinvalid hreplaced
      text more
  refine ⟨htext, hextract, fun f hf => ?_, fun debug s => ?_⟩
  · rw [htext] at hf
    exact hinline.found_beside Registry.not_contains_replacement (by decide) hinvalid hreplaced hf
  · rw [Scan.visit_of_ok hentry]
    simp only [Scan.notesAt, Scan.namesIn, hentry, hextract]

/-- A reference, a character of three bytes without its last one, and a text that begins with a
letter. -/
def brokenBytes : Bytes :=
  Utf8.encode "process.env.A".toList ++ [0xe2, 0x82] ++ Utf8.encode "B process.env.C".toList

open Registry ReferenceForm in
/-- The name in front of the broken character does not go on behind it. -/
theorem invalid_bytes_set_texts_apart_brokenBytes :
    Utf8.decodeLossy brokenBytes = "process.env.A\ufffdB process.env.C".toList ∧
      ∀ s, Scan.visit .default false s ⟨.ofText "a.js", .ok brokenBytes⟩ =
        ⟨[], .ok ⟨s.files + 1, s.names.insertAll ["A", "C"]⟩⟩ := by
  have hreplaced : Utf8.decodeLossy [0xe2, 0x82] = ['\ufffd'] := by cbv
  have hinvalid : ∀ c ∈ Utf8.decodeLossy [0xe2, 0x82], c = '\ufffd' := by simp [hreplaced]
  have hentry : Scan.entryFor? .default (.ofText "a.js") = some javascript := by cbv
  have hread : readFirst? [indexForm, memberForm] "process.env.A".toList = some (['A'], []) := by
    decide
  have hlast : readFirst? [indexForm, memberForm] "process.env.C".toList = some (['C'], []) := by
    decide
  have hfirst : javascript.extract "process.env.A".toList = ["A"] := by
    rw [inline_javascript.extract_eq_names follows_javascript, names_of_some hread, names_nil]
  have hsecond : javascript.extract "B process.env.C".toList = ["C"] := by
    have htext : "B process.env.C".toList = 'B' :: ' ' :: "process.env.C".toList := by decide
    rw [inline_javascript.extract_eq_names follows_javascript, htext, names_cons (by decide),
      names_cons (by decide), names_of_some hlast, names_nil]
  obtain ⟨htext, -, -, hvisit⟩ := invalid_bytes_set_texts_apart
    (Utf8.decode?_encode "process.env.A".toList) (Utf8.decode?_encode "B process.env.C".toList)
    (List.cons_ne_nil _ _) hinvalid List.mem_cons_self hentry
  rw [hfirst, hsecond] at hvisit
  refine ⟨?_, hvisit false⟩
  rw [brokenBytes, htext, hreplaced]
  decide

end EnvAudit
