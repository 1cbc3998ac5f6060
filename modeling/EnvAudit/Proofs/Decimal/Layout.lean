import EnvAudit.Proofs.Decimal.Shortest

/-!
# EnvAudit.Proofs.Decimal.Layout

How decimals are written:

1. digits stand for a whole number, and may stand behind a point and in an exponent
   (`Decimal.Writes`);
2. what is written of digits and an exponent stands for the decimal, whether it has an exponent or
   zeros in front, behind or neither (`Layout.writes_write`);
3. the digits of a whole number that is not zero start with another digit (`head?_toDigits`), so
   that no zeros stand in front once those at the end are left out (`Layout.exists_trim`).

Main statement: a number is nearest to the decimal that is written for it (`Layout.exists_writes`).
-/

namespace EnvAudit

/-! ## Decimals -/

namespace Decimal

/-- Digits, at least one. -/
structure AreDigits (ds : List Char) : Prop where
  ne_nil : ds ≠ []
  isDigit : ∀ c ∈ ds, c.isDigit

/-- The number that digits stand for. -/
def value (ds : List Char) : ℕ := Nat.ofDigitChars 10 ds 0

/-- How a whole number may be written: without a zero in front of other digits. -/
inductive WritesWhole : List Char → ℕ → Prop
  | intro {ds : List Char} : AreDigits ds → (ds.head? = some '0' → ds = ['0']) →
      WritesWhole ds (value ds)

/-- How a decimal may be written without an exponent. -/
inductive WritesFixed : List Char → ℚ → Prop
  | whole {w : List Char} {n : ℕ} : WritesWhole w n → WritesFixed w n
  | point {w ds : List Char} {n : ℕ} : WritesWhole w n → AreDigits ds →
      WritesFixed (w ++ '.' :: ds) (n + value ds / 10 ^ ds.length)

/-- How an exponent may be written. -/
inductive WritesExponent : List Char → Int → Prop
  | bare {ds : List Char} : AreDigits ds → WritesExponent ds (value ds)
  | plus {ds : List Char} : AreDigits ds → WritesExponent ('+' :: ds) (value ds)
  | minus {ds : List Char} : AreDigits ds → WritesExponent ('-' :: ds) (-value ds)

/-- How a decimal that is not negative may be written. -/
inductive Writes : List Char → ℚ → Prop
  | fixed {w : List Char} {d : ℚ} : WritesFixed w d → Writes w d
  | exponent {w e : List Char} {d : ℚ} {k : Int} : WritesFixed w d → WritesExponent e k →
      Writes (w ++ 'e' :: e) (d * 10 ^ k)

/-- Digits in front count for the power of ten behind which they stand. -/
theorem value_append (ds ds' : List Char) :
    value (ds ++ ds') = value ds * 10 ^ ds'.length + value ds' := by
  rw [value, Nat.ofDigitChars_append, Nat.ofDigitChars_eq_ofDigitChars_zero, Nat.mul_comm]
  rfl

theorem value_zeros (n : ℕ) : value (Layout.zeros n) = 0 :=
  Nat.ofDigitChars_replicate_zero.trans (Nat.mul_zero _)

theorem AreDigits.append {ds ds' : List Char} (h : AreDigits ds) (h' : ∀ c ∈ ds', c.isDigit) :
    AreDigits (ds ++ ds') :=
  ⟨by simp [h.ne_nil], List.forall_mem_append.2 ⟨h.isDigit, h'⟩⟩

theorem isDigit_of_mem_zeros {n : ℕ} : ∀ c ∈ Layout.zeros n, c.isDigit := by
  intro c hc
  rw [List.eq_of_mem_replicate hc]
  rfl

theorem areDigits_zero : AreDigits ['0'] := ⟨by simp, isDigit_of_mem_zeros (n := 1)⟩

theorem writesWhole_zero : WritesWhole ['0'] 0 := .intro areDigits_zero fun _ => rfl

/-- Digits that do not start with a zero. -/
theorem AreDigits.writesWhole {ds : List Char} (h : AreDigits ds) (hhead : ds.head? ≠ some '0') :
    WritesWhole ds (value ds) := .intro h fun hzero => absurd hzero hhead

/-! ## Digits of whole numbers -/

/-- The digits of a number are digits. -/
theorem areDigits_toDigits (n : ℕ) : AreDigits (Nat.toDigits 10 n) :=
  ⟨Nat.toDigits_ne_nil, fun _ => Nat.isDigit_of_mem_toDigits (by decide) (by decide)⟩

/-- The digits of a number have its value. -/
theorem value_toDigits (n : ℕ) : value (Nat.toDigits 10 n) = n :=
  Nat.ofDigitChars_toDigits (by decide) (by decide)

theorem toList_toString (n : ℕ) : (toString n).toList = Nat.toDigits 10 n := by
  have hrepr : toString n = .ofList (Nat.toDigits 10 n) := Nat.repr_eq_ofList_toDigits
  rw [hrepr, String.toList_ofList]

/-- Only zero starts with the digit zero. -/
theorem head?_toDigits {n : ℕ} (hn : 0 < n) : (Nat.toDigits 10 n).head? ≠ some '0' := by
  induction n using Nat.strongRecOn with
  | ind n ih =>
    rw [Nat.toDigits_eq_if (by decide)]
    split
    · next hlt =>
      have hdigit : ∀ d : Fin 10, 0 < d.val → [Nat.digitChar d.val].head? ≠ some '0' := by decide
      exact hdigit ⟨n, hlt⟩ hn
    · next hge =>
      rw [List.head?_append_of_ne_nil _ Nat.toDigits_ne_nil]
      exact ih (n / 10) (by omega) (by omega)

/-- The digits of a number write it, and do not start with a zero unless it is zero. -/
theorem writesWhole_toDigits (n : ℕ) : WritesWhole (Nat.toDigits 10 n) n := by
  rcases Nat.eq_zero_or_pos n with rfl | hn
  · exact writesWhole_zero
  · have h := (areDigits_toDigits n).writesWhole (head?_toDigits hn)
    rwa [value_toDigits] at h

end Decimal

open Decimal

namespace Layout

variable {l : Layout}

/-! ## What is written -/

/-- A sign is written before an exponent or left out. -/
theorem writesExponent (hplus : l.plus = "" ∨ l.plus = "+") (e : Int) :
    WritesExponent ((if 0 ≤ e then l.plus.toList else ['-']) ++ (toString e.natAbs).toList) e := by
  have hdigits := areDigits_toDigits e.natAbs
  have hvalue := value_toDigits e.natAbs
  rw [toList_toString]
  split
  · next he =>
    have habs : ((value (Nat.toDigits 10 e.natAbs) : ℕ) : Int) = e := by omega
    rcases hplus with hplus | hplus
    · have hbare := WritesExponent.bare hdigits
      rw [habs] at hbare
      simpa [hplus] using hbare
    · have hsigned := WritesExponent.plus hdigits
      rw [habs] at hsigned
      simpa [hplus] using hsigned
  · next he =>
    have habs : -((value (Nat.toDigits 10 e.natAbs) : ℕ) : Int) = e := by omega
    have hsigned := WritesExponent.minus hdigits
    rwa [habs] at hsigned

section

variable {ds : List Char} (h : AreDigits ds) (hhead : ds.head? ≠ some '0')
include h hhead

/-- Zeros and a point are written behind digits that end before it. -/
theorem writesFixed_append_zeros (n : ℕ) :
    WritesFixed (ds ++ zeros n ++ ['.', '0']) (value ds * 10 ^ n) := by
  have hhead' : (ds ++ zeros n).head? ≠ some '0' := by rwa [List.head?_append_of_ne_nil _ h.ne_nil]
  have hwhole := (h.append isDigit_of_mem_zeros).writesWhole hhead'
  have hfixed := WritesFixed.point hwhole areDigits_zero
  rw [value_append, value_zeros] at hfixed
  have hvalue : ((value ds * 10 ^ (zeros n).length + 0 : ℕ) : ℚ) + value ['0'] / 10 ^ 1 =
      value ds * 10 ^ n := by
    have hzero : value ['0'] = 0 := value_zeros 1
    simp [zeros, hzero]
  exact hvalue ▸ hfixed

/-- A point is written between digits. -/
theorem writesFixed_split {n : ℕ} (hn : 0 < n) (hlt : n < ds.length) :
    WritesFixed (ds.take n ++ '.' :: ds.drop n) (value ds / 10 ^ (ds.length - n)) := by
  have hne : ds.take n ≠ [] := by simp [h.ne_nil, hn.ne']
  have htake : AreDigits (ds.take n) := ⟨hne, fun c hc => h.isDigit c (List.mem_of_mem_take hc)⟩
  have hdrop : AreDigits (ds.drop n) :=
    ⟨by simpa using hlt, fun c hc => h.isDigit c (List.mem_of_mem_drop hc)⟩
  have hfixed := WritesFixed.point (htake.writesWhole (by rwa [List.head?_take, if_neg hn.ne']))
    hdrop
  have hvalue : (value (ds.take n) : ℚ) + value (ds.drop n) / 10 ^ (ds.drop n).length =
      value ds / 10 ^ (ds.length - n) := by
    conv_rhs => rw [← List.take_append_drop n ds, value_append]
    rw [List.take_append_drop, List.length_drop]
    push_cast
    field_simp
  exact hvalue ▸ hfixed

omit hhead in
/-- Zeros are written between the point and digits behind it. -/
theorem writesFixed_zeros (n : ℕ) :
    WritesFixed ('0' :: '.' :: zeros n ++ ds) (value ds / 10 ^ (n + ds.length)) := by
  have hdigits : AreDigits (zeros n ++ ds) :=
    ⟨by simp [h.ne_nil], List.forall_mem_append.2 ⟨isDigit_of_mem_zeros, h.isDigit⟩⟩
  have hfixed := WritesFixed.point writesWhole_zero hdigits
  have hvalue : ((0 : ℕ) : ℚ) + value (zeros n ++ ds) / 10 ^ (zeros n ++ ds).length =
      value ds / 10 ^ (n + ds.length) := by
    rw [value_append, value_zeros]
    simp [zeros]
  exact hvalue ▸ hfixed

end

/-- A point is written behind the first digit unless it is the only one. -/
theorem writesFixed_mantissa : ∀ ds : List Char, AreDigits ds → ds.head? ≠ some '0' →
    WritesFixed (match ds with
      | [] => []
      | [d] => [d]
      | d :: ds => d :: '.' :: ds) (value ds / 10 ^ (ds.length - 1))
  | [], h, _ => absurd rfl h.ne_nil
  | [d], h, hhead => by simpa using WritesFixed.whole (h.writesWhole hhead)
  | d :: d' :: ds, h, hhead => writesFixed_split h hhead Nat.one_pos (by simp)

/-- What is written of digits that do not start with a zero stands for the decimal whose first digit
has the given exponent, and it has a point or an exponent. -/
theorem writes_write (hplus : l.plus = "" ∨ l.plus = "+") {ds : List Char} (h : AreDigits ds)
    (hhead : ds.head? ≠ some '0') (e : Int) :
    Writes (l.write ds e) (value ds * 10 ^ (e + 1 - ds.length)) ∧
      ('.' ∈ l.write ds e ∨ 'e' ∈ l.write ds e) := by
  have hlength := List.length_pos_of_ne_nil h.ne_nil
  unfold write
  split
  · have hexponent : e + 1 - ds.length = -((ds.length - 1 : ℕ) : Int) + e := by omega
    refine ⟨?_, .inr (by simp)⟩
    rw [hexponent, zpow_add₀ (by norm_num), zpow_neg, zpow_natCast, ← mul_assoc, ← div_eq_mul_inv]
    dsimp only
    rw [List.append_assoc, List.cons_append]
    exact .exponent (writesFixed_mantissa ds h hhead) (writesExponent hplus e)
  · split
    · next he =>
      have hexponent : e + 1 - ds.length = -((e.natAbs - 1 + ds.length : ℕ) : Int) := by omega
      refine ⟨.fixed ?_, .inl (by simp)⟩
      rw [hexponent, zpow_neg, zpow_natCast, ← div_eq_mul_inv]
      exact writesFixed_zeros h _
    · next he =>
      dsimp only
      split
      · next hle =>
        have hexponent : e + 1 - ds.length = ((e.toNat + 1 - ds.length : ℕ) : Int) := by omega
        refine ⟨.fixed ?_, .inl (by simp)⟩
        rw [hexponent, zpow_natCast]
        exact writesFixed_append_zeros h hhead _
      · next hlt =>
        have hexponent : e + 1 - ds.length = -((ds.length - (e.toNat + 1) : ℕ) : Int) := by omega
        refine ⟨.fixed ?_, .inl (by simp)⟩
        rw [hexponent, zpow_neg, zpow_natCast, ← div_eq_mul_inv]
        exact writesFixed_split h hhead (Nat.succ_pos _) (Nat.not_le.1 hlt)

/-! ## What is written of numbers -/

/-- Zeros at the end are left out of digits that do not start with one. -/
theorem exists_trim {ds : List Char} (h : AreDigits ds) (hhead : ds.head? ≠ some '0') :
    ∃ trimmed n, (ds.reverse.dropWhile (· == '0')).reverse = trimmed ∧ ds = trimmed ++ zeros n ∧
      AreDigits trimmed ∧ trimmed.head? ≠ some '0' := by
  obtain ⟨trimmed, htrimmed⟩ : ∃ t, (ds.reverse.dropWhile (· == '0')).reverse = t := ⟨_, rfl⟩
  obtain ⟨n, hzeros⟩ : ∃ n, ds.reverse.takeWhile (· == '0') = zeros n := by
    refine ⟨_, List.eq_replicate_iff.2 ⟨rfl, fun c hc => ?_⟩⟩
    simpa using List.all_eq_true.1 List.all_takeWhile c hc
  have hsplit : ds = trimmed ++ zeros n := by
    rw [← htrimmed, ← List.reverse_inj, List.reverse_append, List.reverse_reverse, zeros,
      List.reverse_replicate, ← zeros, ← hzeros, List.takeWhile_append_dropWhile]
  have hne : trimmed ≠ [] := by
    rintro rfl
    obtain ⟨c, rest, hcons⟩ := List.exists_cons_of_ne_nil h.ne_nil
    have hzero : c = '0' := List.eq_of_mem_replicate (n := n) (by
      rw [← zeros, ← List.nil_append (zeros n), ← hsplit, hcons]
      exact List.mem_cons_self)
    exact hhead (by rw [hcons, hzero, List.head?_cons])
  refine ⟨trimmed, n, htrimmed, hsplit, ⟨hne, fun c hc => h.isDigit c ?_⟩, ?_⟩
  · rw [hsplit]
    exact List.mem_append_left _ hc
  · rwa [hsplit, List.head?_append_of_ne_nil _ hne] at hhead

/-- Zero is nearest to zero. -/
theorem nearest_zero {x : Binary64} (h : x.isZero = true) : x.Nearest 0 := by
  have hzero : x.magnitude = 0 := by
    have hs : x.significand = 0 := by simpa [Binary64.isZero] using h
    rw [Binary64.magnitude, hs, Nat.cast_zero, zero_mul]
  intro y _
  rw [hzero]
  exact ⟨by simp, fun htie => .inl (by simpa using htie)⟩

/-- A decimal that is not zero is written as it is, with a point or an exponent. -/
theorem writes_decimal (hplus : l.plus = "" ∨ l.plus = "+") {m : ℕ} (hm : 0 < m) (k : Int) :
    Writes (l.decimal m k) (m * 10 ^ k) ∧ ('.' ∈ l.decimal m k ∨ 'e' ∈ l.decimal m k) := by
  obtain ⟨ds, n, hds, hsplit, hdigits, hhead⟩ :=
    exists_trim (areDigits_toDigits m) (head?_toDigits hm)
  have hlength : (Nat.toDigits 10 m).length = ds.length + n := by
    rw [hsplit, List.length_append, zeros, List.length_replicate]
  have hvalue : (m : ℚ) = value ds * 10 ^ n := by
    rw [← value_toDigits m, hsplit, value_append, value_zeros, zeros, List.length_replicate]
    norm_cast
  have hexponent : k + (ds.length + n : ℕ) - 1 + 1 - ds.length = (n : Int) + k := by omega
  have hwrites := writes_write hplus hdigits hhead (k + (ds.length + n : ℕ) - 1)
  rw [hexponent, zpow_add₀ (by norm_num), zpow_natCast, ← mul_assoc, ← hvalue] at hwrites
  have hdecimal : l.decimal m k = l.write ds (k + (ds.length + n : ℕ) - 1) := by
    simp only [decimal, toList_toString, hds, hlength]
  rwa [hdecimal]

/-- A number is written with its sign and a decimal, with a point or an exponent, to which no number
is nearer. -/
theorem exists_writes (hplus : l.plus = "" ∨ l.plus = "+") {x : Binary64} (hx : x.Kept) :
    ∃ w d, (l.text x).toList = (if x.negative then ['-'] else []) ++ w ∧ Decimal.Writes w d ∧
      ('.' ∈ w ∨ 'e' ∈ w) ∧ x.Nearest d := by
  cases hzero : x.isZero with
  | true =>
    have hwrites := WritesFixed.point writesWhole_zero areDigits_zero
    have hvalue : ((0 : ℕ) : ℚ) + value ['0'] / 10 ^ ['0'].length = 0 := by
      have hdigit : value ['0'] = 0 := value_zeros 1
      simp [hdigit]
    rw [hvalue] at hwrites
    refine ⟨['0', '.', '0'], 0, ?_, .fixed hwrites, .inl (by simp), nearest_zero hzero⟩
    rw [text, if_pos hzero, String.toList_ofList]
  | false =>
    rcases hm : x.rounding.shortestFrom x.rounding.log10 17 1 with ⟨m, k⟩
    obtain ⟨hpos, hnearest⟩ := Binary64.nearest_shortestFrom hx hzero hm
    obtain ⟨hwrites, hmark⟩ := writes_decimal hplus hpos k
    refine ⟨l.decimal m k, m * 10 ^ k, ?_, hwrites, hmark, hnearest⟩
    rw [text, if_neg (by simp [hzero]), hm, String.toList_ofList]

end Layout

end EnvAudit
