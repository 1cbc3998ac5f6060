import EnvAudit.Proofs.Text.Utf8

/-!
# EnvAudit.Proofs.Text.Lossy

Bytes that are read part by part:

1. behind a first byte only bytes from `0x80` to `0xbf` are read (`tail_of_lead?`);
2. so what is read of some bytes is the same before more of them, where it is a character or where
   the first one of these is no such byte (`step_append`);
3. bytes that are cut behind a text or before one are read part by part (`units_append_of_cut`).

Main statement: what is read between two texts is what is read without them
(`decodeLossy_between`).
-/

namespace EnvAudit.Utf8

variable {b : UInt8} {code : Nat} {ranges : List Range} {xs ys : Bytes} {text : List Char}

/-- The bytes do not go on with a character begun before them. -/
def StartsAnew (bytes : Bytes) : Prop := ∀ b ∈ bytes.head?, ¬(tail.1 ≤ b.toNat ∧ b.toNat ≤ tail.2)

/-- The bytes behind a first byte are in the range of those that continue. -/
theorem tail_of_lead? {n : Nat} (h : lead? n = some (code, ranges)) :
    ∀ r ∈ ranges, tail.1 ≤ r.1 ∧ r.2 ≤ tail.2 := by
  unfold lead? at h
  split_ifs at h <;> simp only [Option.some.injEq, Prod.mk.injEq] at h <;>
    obtain ⟨-, rfl⟩ := h <;> simp [tail]

/-- A byte that can follow is no first byte. -/
theorem lead?_eq_none {n : Nat} (h : tail.1 ≤ n ∧ n ≤ tail.2) : lead? n = none := by
  obtain ⟨hlow, hhigh⟩ := h
  simp only [tail] at hlow hhigh
  rw [lead?, if_neg (by omega), if_pos (by omega)]

/-! ## One character -/

/-- Bytes that start anew change nothing in what was read before them. -/
theorem follow_append (hranges : ∀ r ∈ ranges, tail.1 ≤ r.1 ∧ r.2 ≤ tail.2)
    (h : (follow code ranges xs).1.isSome ∨ StartsAnew ys) :
    follow code ranges (xs ++ ys) =
      ((follow code ranges xs).1, (follow code ranges xs).2 ++ ys) := by
  fun_induction follow code ranges xs with
  | case1 code rest => rfl
  | case2 code r ranges =>
    have hanew : StartsAnew ys := h.resolve_left Bool.false_ne_true
    obtain ⟨low, high⟩ := r
    obtain ⟨hlow, hhigh⟩ := hranges _ List.mem_cons_self
    cases ys with
    | nil => rfl
    | cons b ys =>
      have hb : ¬(low ≤ b.toNat ∧ b.toNat ≤ high) := fun ⟨hleast, hgreatest⟩ =>
        hanew b rfl ⟨Nat.le_trans hlow hleast, Nat.le_trans hgreatest hhigh⟩
      rw [List.nil_append, follow, if_neg hb]
  | case3 code low high ranges b rest hfits ih =>
    rw [List.cons_append, follow, if_pos hfits]
    exact ih (fun r hr => hranges r (List.mem_cons_of_mem _ hr)) h
  | case4 code low high ranges b rest hfits => rw [List.cons_append, follow, if_neg hfits]

/-- Bytes that start anew change nothing in the character before them. -/
theorem step_append (h : (step b xs).1.isSome ∨ StartsAnew ys) :
    step b (xs ++ ys) = ((step b xs).1, (step b xs).2 ++ ys) := by
  unfold step at h ⊢
  split
  · rfl
  · next code ranges hlead =>
    rw [hlead] at h
    exact follow_append (tail_of_lead? hlead) h

/-! ## Parts -/

/-- Behind whole characters, and before the start of one, the parts of the bytes are read one by
one. -/
theorem units_append_of_cut (h : (∀ u ∈ units xs, u.isSome) ∨ StartsAnew ys) :
    units (xs ++ ys) = units xs ++ units ys := by
  fun_induction units xs with
  | case1 => rfl
  | case2 b rest ih =>
    have hstep : step b (rest ++ ys) = ((step b rest).1, (step b rest).2 ++ ys) :=
      step_append (h.imp_left fun hwhole => by simpa using hwhole _ List.mem_cons_self)
    rw [List.cons_append, units, hstep, List.cons_append]
    exact congrArg _ (ih (h.imp_left fun hwhole u hu => hwhole u (List.mem_cons_of_mem _ hu)))

/-- A text starts with the start of a character. -/
theorem startsAnew_of_decode? (h : decode? ys = some text) : StartsAnew ys := by
  rintro b hb hcontinues
  obtain ⟨rest, rfl⟩ := List.head?_eq_some_iff.1 hb
  have hunits := units_of_decode? h
  rw [units, step, lead?_eq_none hcontinues] at hunits
  cases text <;> simp at hunits

/-- Between two texts bytes are read as they are alone: no byte of the text behind is taken for one
of a character that is broken off. -/
theorem units_between {before behind : Bytes} {text more : List Char}
    (hbefore : decode? before = some text) (hbehind : decode? behind = some more)
    (between : Bytes) :
    units (before ++ between ++ behind) = text.map some ++ units between ++ more.map some := by
  have hwhole : ∀ u ∈ units before, u.isSome := by
    rw [units_of_decode? hbefore]
    simp
  rw [units_append_of_cut (.inr (startsAnew_of_decode? hbehind)), units_append_of_cut (.inl hwhole),
    units_of_decode? hbefore, units_of_decode? hbehind]

/-- Between valid texts invalid bytes are replaced for themselves. -/
theorem decodeLossy_between {before behind : Bytes} {text more : List Char}
    (hbefore : decode? before = some text) (hbehind : decode? behind = some more)
    (between : Bytes) :
    decodeLossy (before ++ between ++ behind) = text ++ decodeLossy between ++ more := by
  simp only [decodeLossy, units_between hbefore hbehind, List.map_append, List.map_map]
  congr
  · exact List.map_id text
  · exact List.map_id more

end EnvAudit.Utf8
