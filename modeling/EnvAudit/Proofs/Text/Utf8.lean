import EnvAudit.Text.Utf8
import Mathlib.Data.List.Basic
import Mathlib.Tactic.SplitIfs

/-!
# EnvAudit.Proofs.Text.Utf8

Texts and their bytes:

1. the bytes of a character are read as that character, whatever follows (`units_append`), so that a
   text is what its bytes stand for (`decode?_encode`);
2. where every byte belongs to a character, nothing is set aside (`units_of_decode?`) and nothing
   has to be replaced (`decodeLossy_of_decode?`);
3. the bytes of texts come in the order of the texts (`encode_lt_encode`).
-/

namespace EnvAudit.Utf8

variable {v : Nat}

/-! ## Reading what was written -/

theorem lead?_two (hlow : 0x7f < v) (hhigh : v ≤ 0x7ff) :
    lead? (v / 64 + 0xc0) = some (v / 64, [tail]) := by
  rw [lead?, if_neg (by omega), if_neg (by omega), if_pos (by omega), Nat.add_sub_cancel]

/-- The second byte of a character of three lies in the range that the first one says. -/
theorem lead?_three (hlow : 0x7ff < v) (hhigh : v ≤ 0xffff) (hvalid : v < 0xd800 ∨ 0xdfff < v) :
    ∃ low high, lead? (v / 4096 + 0xe0) = some (v / 4096, [(low, high), tail]) ∧
      low ≤ v / 64 % 64 + 0x80 ∧ v / 64 % 64 + 0x80 ≤ high := by
  by_cases hfirst : v / 4096 = 0
  · exact ⟨0xa0, 0xbf, by rw [hfirst]; rfl, by omega, by omega⟩
  · by_cases hsurrogate : v / 4096 = 0xd
    · exact ⟨0x80, 0x9f, by rw [hsurrogate]; rfl, by omega, by omega⟩
    · refine ⟨0x80, 0xbf, ?_, by omega, by omega⟩
      rw [lead?, if_neg (by omega), if_neg (by omega), if_neg (by omega), if_neg (by omega),
        if_neg (by omega), if_pos (by omega), Nat.add_sub_cancel]
      rfl

/-- The second byte of a character of four lies in the range that the first one says. -/
theorem lead?_four (hlow : 0xffff < v) (hhigh : v < 0x110000) :
    ∃ low high, lead? (v / 262144 + 0xf0) = some (v / 262144, [(low, high), tail, tail]) ∧
      low ≤ v / 4096 % 64 + 0x80 ∧ v / 4096 % 64 + 0x80 ≤ high := by
  by_cases hfirst : v / 262144 = 0
  · exact ⟨0x90, 0xbf, by rw [hfirst]; rfl, by omega, by omega⟩
  · by_cases hlast : v / 262144 = 4
    · exact ⟨0x80, 0x8f, by rw [hlast]; rfl, by omega, by omega⟩
    · refine ⟨0x80, 0xbf, ?_, by omega, by omega⟩
      rw [lead?, if_neg (by omega), if_neg (by omega), if_neg (by omega), if_neg (by omega),
        if_neg (by omega), if_neg (by omega), if_neg (by omega), if_pos (by omega),
        Nat.add_sub_cancel]
      rfl

theorem toNat_ofNat {n : Nat} (h : n < 256) : (UInt8.ofNat n).toNat = n := by
  rw [UInt8.toNat_ofNat', Nat.mod_eq_of_lt h]

/-- A byte that fits brings its six bits. -/
theorem follow_cons {code low high n : Nat} (hlow : low ≤ n % 64 + 0x80)
    (hhigh : n % 64 + 0x80 ≤ high) (ranges : List Range) (rest : Bytes) :
    follow code ((low, high) :: ranges) (.ofNat (n % 64 + 0x80) :: rest) =
      follow (code * 64 + n % 64) ranges rest := by
  rw [follow, toNat_ofNat (by omega), if_pos ⟨hlow, hhigh⟩, Nat.add_sub_cancel]

/-- A byte that continues adds its six bits. -/
theorem follow_tail (code n : Nat) (ranges : List Range) (rest : Bytes) :
    follow code (tail :: ranges) (.ofNat (n % 64 + 0x80) :: rest) =
      follow (code * 64 + n % 64) ranges rest :=
  follow_cons (by omega) (by omega) ranges rest

/-- A character is no surrogate and lies below the end of the code space. -/
theorem valid_toNat (c : Char) :
    (c.val.toNat < 0xd800 ∨ 0xdfff < c.val.toNat) ∧ c.val.toNat < 0x110000 := by
  have hvalid : Nat.isValidChar c.val.toNat := c.valid
  simp only [Nat.isValidChar] at hvalid
  omega

/-- The bytes of a character are read as that character. -/
theorem units_append (c : Char) (rest : Bytes) :
    units (String.utf8EncodeChar c ++ rest) = some c :: units rest := by
  obtain ⟨hsurrogate, hmax⟩ := valid_toNat c
  suffices hstep : ∃ b bytes, String.utf8EncodeChar c = b :: bytes ∧
      step b (bytes ++ rest) = (some c.toNat, rest) by
    obtain ⟨b, bytes, hbytes, hstep⟩ := hstep
    rw [hbytes, List.cons_append, units, hstep, Option.map_some, Char.ofNat_toNat]
  rw [Char.toNat]
  simp only [String.utf8EncodeChar]
  generalize c.val.toNat = v at hsurrogate hmax ⊢
  by_cases hone : v ≤ 0x7f
  · refine ⟨_, _, if_pos hone, ?_⟩
    rw [step, toNat_ofNat (by omega), lead?, if_pos (by omega)]
    rfl
  · rw [if_neg hone]
    by_cases htwo : v ≤ 0x7ff
    · refine ⟨_, _, if_pos htwo, ?_⟩
      rw [Nat.mod_eq_of_lt (by omega : v / 64 < 0x20), step, toNat_ofNat (by omega),
        lead?_two (by omega) htwo]
      simp only [List.cons_append, List.nil_append]
      rw [follow_tail, follow, Nat.div_add_mod']
    · rw [if_neg htwo]
      by_cases hthree : v ≤ 0xffff
      · refine ⟨_, _, if_pos hthree, ?_⟩
        obtain ⟨low, high, hlead, hlow, hhigh⟩ := lead?_three (by omega) hthree hsurrogate
        rw [Nat.mod_eq_of_lt (by omega : v / 4096 < 0x10), step, toNat_ofNat (by omega), hlead]
        simp only [List.cons_append, List.nil_append]
        rw [follow_cons hlow hhigh, follow_tail, follow]
        congr 2
        omega
      · refine ⟨_, _, if_neg hthree, ?_⟩
        obtain ⟨low, high, hlead, hlow, hhigh⟩ := lead?_four (by omega) hmax
        rw [Nat.mod_eq_of_lt (by omega : v / 262144 < 0x08), step, toNat_ofNat (by omega), hlead]
        simp only [List.cons_append, List.nil_append]
        rw [follow_cons hlow hhigh, follow_tail, follow_tail, follow]
        congr 2
        omega

/-- The bytes of a text are the units of its characters. -/
theorem units_encode (text : List Char) : units (encode text) = text.map some := by
  induction text with
  | nil => rw [encode, List.flatMap_nil, units, List.map_nil]
  | cons c text ih => rw [encode, List.flatMap_cons, units_append, ← encode, ih, List.map_cons]

/-- A text is what its bytes stand for. -/
theorem decode?_encode (text : List Char) : decode? (encode text) = some text := by
  rw [decode?, units_encode]
  induction text with
  | nil => rfl
  | cons c text ih => simp_all

/-- Where every byte belongs to a character, nothing is set aside. -/
theorem units_of_decode? {bytes : Bytes} {text : List Char} (h : decode? bytes = some text) :
    units bytes = text.map some := by
  rw [decode?] at h
  generalize units bytes = us at h ⊢
  induction us generalizing text with
  | nil =>
    cases h
    rfl
  | cons u us ih =>
    rw [List.mapM_cons] at h
    simp only [Option.pure_def, Option.bind_eq_bind, Option.bind_eq_some_iff] at h
    obtain ⟨c, hc, rest, hrest, htext⟩ := h
    cases hc
    cases htext
    rw [ih hrest, List.map_cons]

/-- Where every byte belongs to a character, nothing is replaced. -/
theorem decodeLossy_of_decode? {bytes : Bytes} {text : List Char} (h : decode? bytes = some text) :
    decodeLossy bytes = text := by
  rw [decodeLossy, units_of_decode? h, List.map_map]
  exact List.map_id text

/-! ## Order -/

theorem ofNat_lt_ofNat {m n : Nat} (hm : m < 256) (hn : n < 256) :
    UInt8.ofNat m < UInt8.ofNat n ↔ m < n := by
  rw [UInt8.lt_iff_toNat_lt, toNat_ofNat hm, toNat_ofNat hn]

theorem ofNat_eq_ofNat {m n : Nat} (hm : m < 256) (hn : n < 256) :
    UInt8.ofNat m = UInt8.ofNat n ↔ m = n := by
  rw [← UInt8.toNat_inj, toNat_ofNat hm, toNat_ofNat hn]

/-- Of two numbers the smaller one has the smaller first part, or else the smaller last one. -/
theorem div_lt_or_mod_lt {w : Nat} (h : v < w) (n : Nat) :
    v / n < w / n ∨ v / n = w / n ∧ v % n < w % n := by
  rcases Nat.lt_or_eq_of_le (Nat.div_le_div_right (c := n) (Nat.le_of_lt h)) with hdiv | hdiv
  · exact .inl hdiv
  · refine .inr ⟨hdiv, ?_⟩
    rw [← Nat.div_add_mod v n, ← Nat.div_add_mod w n, hdiv] at h
    exact Nat.lt_of_add_lt_add_left h

/-- Of two characters the one with the smaller code point has the smaller bytes. -/
theorem encodeChar_append_lt {c d : Char} (h : c < d) (s t : Bytes) :
    String.utf8EncodeChar c ++ s < String.utf8EncodeChar d ++ t := by
  have hlt : c.val.toNat < d.val.toNat := h
  obtain ⟨-, hc⟩ := valid_toNat c
  obtain ⟨-, hd⟩ := valid_toNat d
  simp only [String.utf8EncodeChar]
  generalize c.val.toNat = v at hlt hc ⊢
  generalize d.val.toNat = w at hlt hd ⊢
  have hlast := div_lt_or_mod_lt hlt 64
  have hmiddle : v / 64 < w / 64 → v / 4096 < w / 4096 ∨
      v / 4096 = w / 4096 ∧ v / 64 % 64 < w / 64 % 64 := fun h => by
    simpa only [Nat.div_div_eq_div_mul] using div_lt_or_mod_lt h 64
  have hfirst : v / 4096 < w / 4096 → v / 262144 < w / 262144 ∨
      v / 262144 = w / 262144 ∧ v / 4096 % 64 < w / 4096 % 64 := fun h => by
    simpa only [Nat.div_div_eq_div_mul] using div_lt_or_mod_lt h 64
  have hmod : v / 262144 % 8 = v / 262144 := Nat.mod_eq_of_lt (by omega)
  have hmod' : w / 262144 % 8 = w / 262144 := Nat.mod_eq_of_lt (by omega)
  rw [hmod, hmod']
  split_ifs <;>
    simp (disch := omega) only [List.cons_append, List.nil_append, List.cons_lt_cons_iff,
      ofNat_lt_ofNat, ofNat_eq_ofNat] <;>
    omega

/-- The bytes of texts come in the order of the texts. -/
theorem encode_lt_encode {a b : List Char} (h : a < b) : encode a < encode b := by
  induction a generalizing b with
  | nil =>
    obtain ⟨d, b, rfl⟩ := List.exists_cons_of_ne_nil (l := b) (by rintro rfl; simp at h)
    rw [encode, encode, List.flatMap_nil, List.flatMap_cons]
    obtain ⟨x, xs, hx⟩ := List.exists_cons_of_ne_nil (String.utf8EncodeChar_ne_nil (c := d))
    rw [hx]
    exact List.nil_lt_cons _ _
  | cons c a ih =>
    cases b with
    | nil => simp at h
    | cons d b =>
      rw [encode, encode, List.flatMap_cons, List.flatMap_cons]
      rcases List.cons_lt_cons_iff.1 h with hlt | ⟨rfl, hlt⟩
      · exact encodeChar_append_lt hlt _ _
      · exact List.append_left_lt (ih hlt)

end EnvAudit.Utf8
