import EnvAudit.Decimal.Binary64
import Mathlib.Algebra.Order.Field.Power
import Mathlib.Algebra.Order.AbsoluteValue.Basic
import Mathlib.Data.Rat.Cast.Order
import Mathlib.Tactic.FieldSimp
import Mathlib.Tactic.Linarith
import Mathlib.Tactic.Positivity
import Mathlib.Tactic.Ring

/-!
# EnvAudit.Proofs.Decimal.Nearest

Which number is nearest to a fraction:

1. numbers are kept with as many bits as fit (`Binary64.Kept`), so that other numbers are at least
   a gap away (`Kept.apart`);
2. what lies within half a gap rounds to a number (`Binary64.Rounds`), and then no other number is
   nearer (`nearest_of_rounds`);
3. what is calculated is kept (`kept_of_ofRatio?`, `kept_of_ofDecimal?`).
-/

namespace EnvAudit.Binary64

variable {x y : Binary64} {d : ℚ}

/-! ## Numbers -/

/-- The absolute value of a number. -/
def magnitude (x : Binary64) : ℚ := x.significand * 2 ^ x.exponent

/-- A number as it is kept: with 53 bits, or with the smallest exponent. -/
structure Kept (x : Binary64) : Prop where
  lt : x.significand < 2 ^ 53
  least : minExponent ≤ x.exponent
  most : x.exponent ≤ maxExponent
  full : x.exponent = minExponent ∨ 2 ^ 52 ≤ x.significand

theorem kept_zero : zero.Kept := ⟨by decide, by decide, by decide, by decide⟩

/-- The sign does not matter to how a number is kept. -/
theorem Kept.withSign (h : x.Kept) (negative : Bool) : (x.withSign negative).Kept :=
  ⟨h.lt, h.least, h.most, h.full⟩

/-- How far the next smaller number is away from a number. The next larger one is as far away as
the exponent tells. -/
def gapBelow (x : Binary64) : ℚ :=
  if x.significand = 2 ^ 52 ∧ minExponent < x.exponent then 2 ^ x.exponent / 2
  else 2 ^ x.exponent

theorem two_zpow_pos (e : Int) : (0 : ℚ) < 2 ^ e := zpow_pos (by norm_num) e

theorem gapBelow_pos (x : Binary64) : 0 < x.gapBelow := by
  have := two_zpow_pos x.exponent
  unfold gapBelow
  split <;> linarith

/-- The gap below is at most the gap above. -/
theorem gapBelow_le (x : Binary64) : x.gapBelow ≤ 2 ^ x.exponent := by
  have := two_zpow_pos x.exponent
  unfold gapBelow
  split <;> linarith

/-- A power of two is a multiple of a smaller one. -/
theorem exists_zpow_eq {e f : Int} (h : f < e) : ∃ n : ℕ, (2 : ℚ) ^ e = 2 ^ (n + 1) * 2 ^ f := by
  obtain ⟨n, rfl⟩ : ∃ n : ℕ, e = ((n + 1 : ℕ) : Int) + f := ⟨(e - f - 1).toNat, by omega⟩
  exact ⟨n, by rw [zpow_add₀ (by norm_num), zpow_natCast]⟩

/-- A number with a greater exponent is full, and so it is at least as large as the next one. -/
theorem Kept.add_le (hx : x.Kept) (hy : y.Kept) (hlt : x.exponent < y.exponent) :
    x.magnitude + 2 ^ x.exponent ≤ y.magnitude := by
  have hpos := two_zpow_pos x.exponent
  have hxlt : (x.significand : ℚ) + 1 ≤ 2 ^ 53 := by exact_mod_cast hx.lt
  have hfull : (2 : ℚ) ^ 52 ≤ y.significand := by
    have hleast := hx.least
    exact_mod_cast hy.full.resolve_left (by omega)
  obtain ⟨n, hn⟩ := exists_zpow_eq hlt
  have htwo : (2 : ℚ) ≤ 2 ^ (n + 1) := by
    calc (2 : ℚ) = 2 ^ 1 := by norm_num
      _ ≤ 2 ^ (n + 1) := pow_le_pow_right₀ (by norm_num) (by omega)
  unfold magnitude
  calc (x.significand : ℚ) * 2 ^ x.exponent + 2 ^ x.exponent
      = (x.significand + 1) * 2 ^ x.exponent := by ring
    _ ≤ 2 ^ 52 * 2 * 2 ^ x.exponent := by gcongr; linarith
    _ ≤ y.significand * 2 ^ (n + 1) * 2 ^ x.exponent := by gcongr
    _ = y.significand * 2 ^ y.exponent := by rw [hn, mul_assoc]

/-- A number with a smaller exponent is at most as large as the one before. -/
theorem Kept.le_sub (hx : x.Kept) (hy : y.Kept) (hlt : y.exponent < x.exponent) :
    y.magnitude ≤ x.magnitude - x.gapBelow := by
  have hpos := two_zpow_pos x.exponent
  have hpos' := two_zpow_pos y.exponent
  have hle := x.gapBelow_le
  have hmin := hy.least
  have hylt : (y.significand : ℚ) + 1 ≤ 2 ^ 53 := by exact_mod_cast hy.lt
  have hfull : 2 ^ 52 ≤ x.significand := hx.full.resolve_left (by omega)
  obtain ⟨n, hn⟩ := exists_zpow_eq hlt
  have hone : (1 : ℚ) ≤ 2 ^ n := one_le_pow₀ (by norm_num)
  unfold magnitude
  by_cases hleast : x.significand = 2 ^ 52
  · -- Just below a power of two the numbers are half as far from each other.
    have hgap : x.gapBelow = 2 ^ x.exponent / 2 := if_pos ⟨hleast, by omega⟩
    have hs : (x.significand : ℚ) = 2 ^ 52 := by exact_mod_cast hleast
    calc (y.significand : ℚ) * 2 ^ y.exponent
        ≤ (2 ^ 53 - 1) * 2 ^ y.exponent := by gcongr; linarith
      _ ≤ (2 ^ 53 - 1) * (2 ^ n * 2 ^ y.exponent) := by
          have : (0 : ℚ) ≤ 2 ^ 53 - 1 := by norm_num
          gcongr
          nlinarith
      _ = x.significand * 2 ^ x.exponent - x.gapBelow := by rw [hs, hgap, hn]; ring
  · have hs : (2 : ℚ) ^ 52 + 1 ≤ x.significand := by
      exact_mod_cast Nat.lt_of_le_of_ne hfull (Ne.symm hleast)
    calc (y.significand : ℚ) * 2 ^ y.exponent
        ≤ 2 ^ 53 * 2 ^ y.exponent := by gcongr; linarith
      _ ≤ 2 ^ 53 * (2 ^ n * 2 ^ y.exponent) := by gcongr; nlinarith
      _ = 2 ^ 52 * 2 ^ x.exponent := by rw [hn]; ring
      _ ≤ (x.significand - 1) * 2 ^ x.exponent := by gcongr; linarith
      _ ≤ x.significand * 2 ^ x.exponent - x.gapBelow := by linarith

/-- Between a number and the next ones there is no other. -/
theorem Kept.apart (hx : x.Kept) (hy : y.Kept) (hne : y.magnitude ≠ x.magnitude) :
    x.magnitude + 2 ^ x.exponent ≤ y.magnitude ∨ y.magnitude ≤ x.magnitude - x.gapBelow := by
  rcases lt_trichotomy x.exponent y.exponent with hlt | heq | hgt
  · exact .inl (hx.add_le hy hlt)
  · have hpos := two_zpow_pos x.exponent
    have hle := x.gapBelow_le
    unfold magnitude at hne ⊢
    rw [← heq] at hne ⊢
    rcases Nat.lt_trichotomy x.significand y.significand with hlt | hsame | hgt
    · have hs : (x.significand : ℚ) + 1 ≤ y.significand := by exact_mod_cast hlt
      exact .inl (by nlinarith)
    · exact absurd (by rw [hsame]) hne
    · have hs : (y.significand : ℚ) + 1 ≤ x.significand := by exact_mod_cast hgt
      exact .inr (by nlinarith)
  · exact .inr (hx.le_sub hy hgt)

/-! ## Rounding -/

/-- A fraction rounds to a number: it lies at most half way to the next ones, and half way only if
the significand is even. -/
def Rounds (x : Binary64) (d : ℚ) : Prop :=
  if x.significand % 2 = 0 then
    x.magnitude - x.gapBelow / 2 ≤ d ∧ d ≤ x.magnitude + 2 ^ x.exponent / 2
  else x.magnitude - x.gapBelow / 2 < d ∧ d < x.magnitude + 2 ^ x.exponent / 2

/-- No number is nearer to a fraction than a given one, and others are as near only if the
significand of this one is even. -/
def Nearest (x : Binary64) (d : ℚ) : Prop :=
  ∀ y : Binary64, y.Kept → |d - x.magnitude| ≤ |d - y.magnitude| ∧
    (|d - y.magnitude| = |d - x.magnitude| → y.magnitude = x.magnitude ∨ x.significand % 2 = 0)

/-- What is rounded to a number lies within half a gap of it. -/
theorem Rounds.le (h : x.Rounds d) :
    x.magnitude - x.gapBelow / 2 ≤ d ∧ d ≤ x.magnitude + 2 ^ x.exponent / 2 := by
  unfold Rounds at h
  split at h
  · exact h
  · exact ⟨h.1.le, h.2.le⟩

/-- Halfway points go to the even neighbour, so an odd number is strictly nearest. -/
theorem Rounds.lt (h : x.Rounds d) (hodd : x.significand % 2 ≠ 0) :
    x.magnitude - x.gapBelow / 2 < d ∧ d < x.magnitude + 2 ^ x.exponent / 2 := by
  rwa [Rounds, if_neg hodd] at h

/-- What rounds to a number has none that is nearer. -/
theorem nearest_of_rounds (hx : x.Kept) (h : x.Rounds d) : x.Nearest d := by
  intro y hy
  by_cases hne : y.magnitude = x.magnitude
  · rw [hne]
    exact ⟨le_refl _, fun _ => .inl rfl⟩
  have hgap := x.gapBelow_pos
  have hpos := two_zpow_pos x.exponent
  obtain ⟨hlow, hhigh⟩ := h.le
  rcases hx.apart hy hne with habove | hbelow
  · have hfar : |d - y.magnitude| = y.magnitude - d := by
      rw [abs_sub_comm, abs_of_nonneg (by linarith)]
    rw [hfar]
    refine ⟨abs_le.2 ⟨by linarith, by linarith⟩, fun htie => .inr ?_⟩
    by_contra hodd
    have hlt := h.lt hodd
    rcases abs_cases (d - x.magnitude) with ⟨habs, -⟩ | ⟨habs, -⟩ <;> linarith
  · have hfar : |d - y.magnitude| = d - y.magnitude := abs_of_nonneg (by linarith)
    rw [hfar]
    refine ⟨abs_le.2 ⟨by linarith, by linarith⟩, fun htie => .inr ?_⟩
    by_contra hodd
    have hlt := h.lt hodd
    rcases abs_cases (d - x.magnitude) with ⟨habs, -⟩ | ⟨habs, -⟩ <;> linarith

/-! ## What is calculated -/

theorem zpow_natPow (b n : ℕ) : (b : ℚ) ^ (n : Int) = (Nat.pow b n : ℕ) := by
  rw [zpow_natCast]
  exact (Nat.cast_pow b n).symm

theorem zpow_of_nonneg (b : ℕ) {e : Int} (h : 0 ≤ e) :
    (b : ℚ) ^ e = (Nat.pow b e.toNat : ℕ) := by
  obtain ⟨n, rfl⟩ := Int.eq_ofNat_of_zero_le h
  exact zpow_natPow b n

theorem zpow_of_neg (b : ℕ) {e : Int} (h : ¬0 ≤ e) :
    (b : ℚ) ^ e = ((Nat.pow b (-e).toNat : ℕ) : ℚ)⁻¹ := by
  rw [← zpow_of_nonneg b (by omega), zpow_neg, inv_inv]

section Ratio

variable {num den : ℕ} (hden : 0 < den)
include hden

/-- Scaling a quotient divides it by the power of two. -/
theorem scaleDown_eq (num : ℕ) (e : Int) : 0 < (scaleDown num den e).2 ∧
    ((scaleDown num den e).1 : ℚ) / (scaleDown num den e).2 = num / den / 2 ^ e := by
  have hpow : 0 < Nat.pow 2 e.toNat ∧ 0 < Nat.pow 2 (-e).toNat :=
    ⟨Nat.pow_pos (by decide), Nat.pow_pos (by decide)⟩
  unfold scaleDown
  split
  · next he =>
    refine ⟨Nat.mul_pos hden hpow.1, ?_⟩
    rw [show (2 : ℚ) = (2 : ℕ) from rfl, zpow_of_nonneg 2 he]
    push_cast
    rw [div_div]
  · next he =>
    refine ⟨hden, ?_⟩
    rw [show (2 : ℚ) = (2 : ℕ) from rfl, zpow_of_neg 2 he, div_inv_eq_mul]
    push_cast
    rw [mul_div_right_comm]

/-- The fraction lies between two powers of two. -/
theorem log2Ratio_bounds (hnum : num ≠ 0) :
    (2 : ℚ) ^ log2Ratio num den ≤ num / den ∧ (num : ℚ) / den < 2 ^ (log2Ratio num den + 1) := by
  have hd : (0 : ℚ) < den := by exact_mod_cast hden
  have hnumLow : (2 : ℚ) ^ num.log2 ≤ num := by exact_mod_cast Nat.log2_self_le hnum
  have hnumHigh : (num : ℚ) < 2 ^ (num.log2 + 1) := by exact_mod_cast Nat.lt_log2_self
  have hdenLow : (2 : ℚ) ^ den.log2 ≤ den := by exact_mod_cast Nat.log2_self_le hden.ne'
  have hdenHigh : (den : ℚ) < 2 ^ (den.log2 + 1) := by exact_mod_cast Nat.lt_log2_self
  let e : Int := (num.log2 : Int) - den.log2
  have he : (2 : ℚ) ^ e = 2 ^ num.log2 / 2 ^ den.log2 := by
    rw [zpow_sub₀ (by norm_num), zpow_natCast, zpow_natCast]
  have hlow : (2 : ℚ) ^ (e - 1) ≤ num / den := by
    rw [zpow_sub_one₀ (by norm_num), he, ← div_eq_mul_inv, div_div, ← pow_succ]
    gcongr
  have hhigh : (num : ℚ) / den < 2 ^ (e + 1) := by
    rw [zpow_add_one₀ (by norm_num), he, div_mul_eq_mul_div, ← pow_succ]
    gcongr
  obtain ⟨hpos, hscale⟩ := scaleDown_eq hden num e
  have hscaled : (0 : ℚ) < (scaleDown num den e).2 := by exact_mod_cast hpos
  unfold log2Ratio
  change (2 : ℚ) ^ (if (scaleDown num den e).1 < (scaleDown num den e).2 then e - 1 else e) ≤ _ ∧
    _ < (2 : ℚ) ^ ((if (scaleDown num den e).1 < (scaleDown num den e).2 then e - 1 else e) + 1)
  split
  · next hlt =>
    refine ⟨hlow, ?_⟩
    have hone : (num : ℚ) / den / 2 ^ e < 1 := by
      rw [← hscale, div_lt_one hscaled]
      exact_mod_cast hlt
    rw [sub_add_cancel]
    exact (div_lt_one (two_zpow_pos e)).1 hone
  · next hge =>
    refine ⟨?_, hhigh⟩
    have hone : (1 : ℚ) ≤ num / den / 2 ^ e := by
      rw [← hscale, one_le_div hscaled]
      exact_mod_cast Nat.le_of_not_lt hge
    exact (one_le_div (two_zpow_pos e)).1 hone

end Ratio

/-- A quotient is rounded to a number between the bounds that it has. -/
theorem roundQuotient_bounds {num den low high : ℕ} (hden : 0 < den)
    (hlow : (low : ℚ) ≤ num / den) (hhigh : (num : ℚ) / den < high) :
    low ≤ roundQuotient num den ∧ roundQuotient num den ≤ high := by
  have hd : (0 : ℚ) < den := by exact_mod_cast hden
  have hge : low ≤ num / den := by
    rw [Nat.le_div_iff_mul_le hden]
    rw [le_div_iff₀ hd] at hlow
    exact_mod_cast hlow
  have hlt : num / den < high := by
    rw [Nat.div_lt_iff_lt_mul hden]
    rw [div_lt_iff₀ hd] at hhigh
    exact_mod_cast hhigh
  unfold roundQuotient
  dsimp only
  split <;> omega

/-- A significand and an exponent that is not too large. -/
def bounded? (m : ℕ) (e : Int) : Option Binary64 :=
  if maxExponent < e then none else some ⟨false, m, e⟩

/-- A quotient is scaled so that 53 bits stand before the point and is then rounded; a carry out of
them is shifted back. -/
theorem ofRatio?_eq {num : ℕ} (hnum : num ≠ 0) (den : ℕ) : ∃ e m,
    e = max minExponent (log2Ratio num den - 52) ∧
      m = roundQuotient (scaleDown num den e).1 (scaleDown num den e).2 ∧
      ofRatio? num den = if m = 2 ^ 53 then bounded? (2 ^ 52) (e + 1) else bounded? m e := by
  refine ⟨_, _, rfl, rfl, ?_⟩
  rw [ofRatio?, if_neg hnum]
  dsimp only
  split
  · next h => exact (if_pos h).symm
  · next h => exact (if_neg h).symm

/-- A number with 53 bits, or with the least exponent, is as it is kept. -/
theorem kept_of_bounded? {m : ℕ} {e : Int} (hm : m < 2 ^ 53) (he : minExponent ≤ e)
    (hfull : e = minExponent ∨ 2 ^ 52 ≤ m) (h : bounded? m e = some x) : x.Kept := by
  unfold bounded? at h
  split at h
  · cases h
  · next hmost =>
    cases h
    exact ⟨hm, he, Int.not_lt.1 hmost, hfull⟩

/-- What a fraction is rounded to is kept. -/
theorem kept_of_ofRatio? {num den : ℕ} (hden : 0 < den) (h : ofRatio? num den = some x) :
    x.Kept := by
  by_cases hnum : num = 0
  · rw [ofRatio?, if_pos hnum] at h
    cases h
    exact kept_zero
  obtain ⟨e, m, he, hm, heq⟩ := ofRatio?_eq hnum den
  rw [heq] at h
  obtain ⟨hlow, hhigh⟩ := log2Ratio_bounds hden hnum
  obtain ⟨hpos, hscale⟩ := scaleDown_eq hden num e
  have hscaled : (0 : ℚ) < 2 ^ e := two_zpow_pos e
  have hup : ((scaleDown num den e).1 : ℚ) / (scaleDown num den e).2 < (2 ^ 53 : ℕ) := by
    rw [hscale, div_lt_iff₀ hscaled]
    calc (num : ℚ) / den < 2 ^ (log2Ratio num den + 1) := hhigh
      _ ≤ 2 ^ (53 + e) := zpow_le_zpow_right₀ (by norm_num) (by omega)
      _ = (2 ^ 53 : ℕ) * 2 ^ e := by rw [zpow_add₀ (by norm_num)]; norm_num
  have hfull : e = minExponent ∨ 2 ^ 52 ≤ m := by
    refine (max_choice minExponent (log2Ratio num den - 52)).imp (he.trans ·) fun hmax => ?_
    rw [hm]
    refine (roundQuotient_bounds hpos ?_ hup).1
    rw [hscale, le_div_iff₀ hscaled]
    calc ((2 ^ 52 : ℕ) : ℚ) * 2 ^ e = 2 ^ (52 + e) := by rw [zpow_add₀ (by norm_num)]; norm_num
      _ = 2 ^ log2Ratio num den := by rw [he, hmax]; congr 1; omega
      _ ≤ num / den := hlow
  have hfew : m ≤ 2 ^ 53 := by
    rw [hm]
    have hzero : ((0 : ℕ) : ℚ) ≤ (scaleDown num den e).1 / (scaleDown num den e).2 := by positivity
    exact (roundQuotient_bounds hpos hzero hup).2
  split at h
  · exact kept_of_bounded? (by decide) (by omega) (.inr (by decide)) h
  · next hne => exact kept_of_bounded? (Nat.lt_of_le_of_ne hfew hne) (by omega) hfull h

theorem ratio_pos (x : Binary64) : 0 < x.ratio.2 := by
  unfold ratio
  split
  · exact Nat.one_pos
  · exact Nat.pow_pos (by decide)

/-- A product is as it is kept. -/
theorem kept_of_mul? {z : Binary64} (h : mul? x y = some z) : z.Kept :=
  kept_of_ofRatio? (Nat.mul_pos x.ratio_pos y.ratio_pos) h

/-- A quotient is as it is kept. -/
theorem kept_of_div? {z : Binary64} (hy : y.isZero = false) (h : div? x y = some z) : z.Kept := by
  have hpos : 0 < y.ratio.1 := by
    have hsignificand : 0 < y.significand := Nat.pos_of_ne_zero (by simpa [isZero] using hy)
    unfold ratio
    split
    · exact Nat.mul_pos hsignificand (Nat.pow_pos (by decide))
    · exact hsignificand
  exact kept_of_ofRatio? (Nat.mul_pos x.ratio_pos hpos) h

theorem Kept.getD {o : Option Binary64} (h : ∀ z, o = some z → z.Kept) : (o.getD zero).Kept := by
  cases o with
  | none => exact kept_zero
  | some z => exact h z rfl

/-- The powers of ten in the table are not zero. -/
theorem isZero_powerOfTen {k : ℕ} (hk : k ≤ maxPower) : (powerOfTen k).isZero = false := by
  have hall : ∀ k : Fin (maxPower + 1), (powerOfTen k).isZero = false := by decide +kernel
  exact hall ⟨k, Nat.lt_succ_of_le hk⟩

/-- Dividing by powers of ten gives a number as it is kept. -/
theorem Kept.divPower (n : ℕ) (hx : x.Kept) (k : ℕ) : (divPower n x k).Kept := by
  induction n generalizing x k with
  | zero => exact hx
  | succ n ih =>
    rw [Binary64.divPower]
    split
    · exact hx
    · split
      · next hk => exact .getD fun z hz => kept_of_div? (isZero_powerOfTen hk) hz
      · exact ih (.getD fun z hz => kept_of_div? (isZero_powerOfTen (Nat.le_refl _)) hz) _

/-- What a decimal stands for is kept. -/
theorem kept_of_ofDecimal? {negative : Bool} {significand : ℕ} {exponent : Int}
    (h : ofDecimal? negative significand exponent = some x) : x.Kept := by
  unfold ofDecimal? at h
  obtain ⟨y, hy, h⟩ := Option.bind_eq_some_iff.1 h
  have hkept := kept_of_ofRatio? Nat.one_pos hy
  dsimp only at h
  split at h
  · split at h
    · obtain ⟨z, hz, h⟩ := Option.bind_eq_some_iff.1 h
      cases h
      exact (kept_of_mul? hz).withSign negative
    · split at h
      · cases h
        exact hkept.withSign negative
      · cases h
  · cases h
    exact (hkept.divPower 4 _).withSign negative

end EnvAudit.Binary64
