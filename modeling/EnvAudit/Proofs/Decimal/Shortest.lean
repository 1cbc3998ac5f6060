import EnvAudit.Decimal.Shortest
import EnvAudit.Proofs.Decimal.Nearest
import Mathlib.Data.Nat.Cast.Order.Field

/-!
# EnvAudit.Proofs.Decimal.Shortest

Decimals of numbers:

1. `Binary64.rounding` counts what rounds to a number in whole units (`contains_rounding`);
2. what rounds to a number is wider than a unit of its seventeenth digit (`exists_multiple?`), so
   that the search for a decimal comes to an end (`exists_multiple_of_shortestFrom`).

Main statement: a number is nearest to the decimal that is found (`nearest_shortestFrom`).
-/

namespace EnvAudit.Binary64

variable {x : Binary64}

theorem significand_pos (h : x.isZero = false) : 0 < x.significand :=
  Nat.pos_of_ne_zero (by simpa [isZero] using h)

/-- The distance to half way to the next smaller number, in quarters of the gap above. -/
theorem gapBelow_eq (x : Binary64) : x.gapBelow / 2 =
    ((if x.significand = Nat.pow 2 52 ∧ minExponent < x.exponent then 1 else 2 : ℕ) : ℚ) *
      (2 ^ x.exponent / 4) := by
  have hpow : (2 : ℕ) ^ 52 = Nat.pow 2 52 := rfl
  unfold gapBelow
  rw [hpow]
  split
  · push_cast
    ring
  · push_cast
    ring

/-- What rounds to a number, in whole units. -/
theorem rounding_eq (h : x.isZero = false) : 0 < x.rounding.unit ∧
    (x.rounding.value : ℚ) / x.rounding.unit = x.magnitude ∧
    (x.rounding.low : ℚ) / x.rounding.unit = x.magnitude - x.gapBelow / 2 ∧
    (x.rounding.high : ℚ) / x.rounding.unit = x.magnitude + 2 ^ x.exponent / 2 ∧
    x.rounding.closed = (x.significand % 2 == 0) := by
  have hpos := significand_pos h
  have hquarter : (2 : ℚ) ^ (x.exponent - 2) = 2 ^ x.exponent / 4 := by
    rw [zpow_sub₀ (by norm_num)]
    norm_num
  obtain ⟨scale, unit, hunit, hscale, hrounding⟩ : ∃ scale unit : ℕ, 0 < unit ∧
      (scale : ℚ) / unit = 2 ^ (x.exponent - 2) ∧ x.rounding =
        ⟨(4 * x.significand -
            if x.significand = Nat.pow 2 52 ∧ minExponent < x.exponent then 1 else 2) * scale,
          4 * x.significand * scale, (4 * x.significand + 2) * scale, unit,
          x.significand % 2 == 0⟩ := by
    by_cases he : 0 ≤ x.exponent - 2
    · refine ⟨Nat.pow 2 (x.exponent - 2).toNat, 1, Nat.one_pos, ?_, ?_⟩
      · rw [Nat.cast_one, div_one]
        exact (zpow_of_nonneg 2 he).symm
      · rw [rounding, if_pos he]
    · refine ⟨1, Nat.pow 2 (-(x.exponent - 2)).toNat, Nat.pow_pos (by decide), ?_, ?_⟩
      · rw [Nat.cast_one, one_div]
        exact (zpow_of_neg 2 he).symm
      · rw [rounding, if_neg he]
  rw [hquarter] at hscale
  rw [hrounding, gapBelow_eq]
  have hle : (if x.significand = Nat.pow 2 52 ∧ minExponent < x.exponent then 1 else 2) ≤
      4 * x.significand := by split <;> omega
  refine ⟨hunit, ?_, ?_, ?_, rfl⟩
  · rw [Nat.cast_mul, mul_div_assoc, hscale, magnitude]
    push_cast
    ring
  · rw [Nat.cast_mul, mul_div_assoc, hscale, magnitude, Nat.cast_sub hle]
    push_cast
    ring
  · rw [Nat.cast_mul, mul_div_assoc, hscale, magnitude]
    push_cast
    ring

/-- A fraction is one of the decimals that round to a number if it rounds to it. -/
theorem contains_rounding (h : x.isZero = false) {num den : ℕ} (hden : 0 < den) :
    x.rounding.contains num den ↔ x.Rounds (num / den) := by
  obtain ⟨hunit, -, hlow, hhigh, hclosed⟩ := rounding_eq h
  have hd : (0 : ℚ) < den := by exact_mod_cast hden
  have hu : (0 : ℚ) < x.rounding.unit := by exact_mod_cast hunit
  rw [Rounds, ← hlow, ← hhigh, Rounding.contains, hclosed]
  simp only [div_le_div_iff₀ hu hd, div_le_div_iff₀ hd hu, div_lt_div_iff₀ hu hd,
    div_lt_div_iff₀ hd hu, beq_iff_eq]
  split
  · simp only [Bool.and_eq_true, decide_eq_true_eq]
    exact_mod_cast Iff.rfl
  · simp only [Bool.and_eq_true, decide_eq_true_eq]
    exact_mod_cast Iff.rfl

/-- A number that is not zero has a magnitude. -/
theorem magnitude_pos (h : x.isZero = false) : 0 < x.magnitude := by
  have hs : (0 : ℚ) < x.significand := by exact_mod_cast significand_pos h
  exact mul_pos hs (two_zpow_pos _)

/-! ## Multiples of powers of ten -/

theorem ten_zpow_pos (k : Int) : (0 : ℚ) < 10 ^ k := zpow_pos (by norm_num) k

/-- A power of ten as a fraction, as it is counted in a search. -/
theorem exists_power (k : Int) : ∃ up down : ℕ, 0 < up ∧ 0 < down ∧ (up : ℚ) / down = 10 ^ k ∧
    (if 0 ≤ k then (Nat.pow 10 k.toNat, 1) else (1, Nat.pow 10 (-k).toNat)) = (up, down) := by
  by_cases hk : 0 ≤ k
  · refine ⟨Nat.pow 10 k.toNat, 1, Nat.pow_pos (by decide), Nat.one_pos, ?_, if_pos hk⟩
    rw [Nat.cast_one, div_one]
    exact (zpow_of_nonneg 10 hk).symm
  · refine ⟨1, Nat.pow 10 (-k).toNat, Nat.one_pos, Nat.pow_pos (by decide), ?_, if_neg hk⟩
    rw [Nat.cast_one, one_div]
    exact (zpow_of_neg 10 hk).symm

/-- The multiples of a power of ten around a number are tried. -/
theorem multiple?_cases (h : x.isZero = false) (k : Int) : ∃ n : ℕ,
    n * (10 : ℚ) ^ k ≤ x.magnitude ∧ x.magnitude < (n + 1) * 10 ^ k ∧
      ((∃ m, x.rounding.multiple? k = some m ∧ (m = n ∨ m = n + 1) ∧ x.Rounds (m * 10 ^ k)) ∨
        x.rounding.multiple? k = none ∧ ¬x.Rounds (n * 10 ^ k) ∧
          ¬x.Rounds ((n + 1 : ℕ) * 10 ^ k)) := by
  obtain ⟨hunit, hvalue, -⟩ := rounding_eq h
  obtain ⟨up, down, hup, hdown, hpower, heq⟩ := exists_power k
  have hu : (0 : ℚ) < up := by exact_mod_cast hup
  have hd : (0 : ℚ) < down := by exact_mod_cast hdown
  have hunit' : (0 : ℚ) < x.rounding.unit := by exact_mod_cast hunit
  have hfits : ∀ n : ℕ, x.rounding.contains (n * up) down ↔ x.Rounds (n * 10 ^ k) := by
    intro n
    rw [contains_rounding h hdown, Nat.cast_mul, mul_div_assoc, hpower]
  have hquotient : ((x.rounding.value * down : ℕ) : ℚ) / (x.rounding.unit * up : ℕ) =
      x.magnitude / 10 ^ k := by
    rw [← hvalue, ← hpower]
    push_cast
    field_simp
  refine ⟨x.rounding.value * down / (x.rounding.unit * up), ?_, ?_, ?_⟩
  · rw [← le_div_iff₀ (ten_zpow_pos k), ← hquotient]
    exact Nat.cast_div_le
  · have hpos := Nat.mul_pos hunit hup
    have hpos' : (0 : ℚ) < (x.rounding.unit * up : ℕ) := by exact_mod_cast hpos
    rw [← div_lt_iff₀ (ten_zpow_pos k), ← hquotient, div_lt_iff₀ hpos']
    exact_mod_cast (Nat.div_lt_iff_lt_mul hpos).1 (Nat.lt_succ_self _)
  · rw [Rounding.multiple?, heq]
    dsimp only
    generalize x.rounding.value * down / (x.rounding.unit * up) = n
    simp only [← hfits]
    cases hbelow : x.rounding.contains (n * up) down <;>
      cases habove : x.rounding.contains ((n + 1) * up) down
    · exact .inr ⟨rfl, by simp, by simp⟩
    · exact .inl ⟨_, rfl, .inr rfl, habove⟩
    · exact .inl ⟨_, rfl, .inl rfl, hbelow⟩
    · refine .inl ⟨_, rfl, ?_⟩
      split
      · exact ⟨.inl rfl, hbelow⟩
      · exact ⟨.inr rfl, habove⟩

/-- A multiple that is found rounds to the number. -/
theorem rounds_of_multiple? (h : x.isZero = false) {k : Int} {m : ℕ}
    (hm : x.rounding.multiple? k = some m) : x.Rounds (m * 10 ^ k) := by
  obtain ⟨n, -, -, ⟨m', hm', -, hrounds⟩ | ⟨hnone, -⟩⟩ := multiple?_cases h k
  · cases hm.symm.trans hm'
    exact hrounds
  · cases hm.symm.trans hnone

/-- It is not zero if a unit is no larger than the number. -/
theorem pos_of_multiple? (h : x.isZero = false) {k : Int} {m : ℕ} (hk : 10 ^ k ≤ x.magnitude)
    (hm : x.rounding.multiple? k = some m) : 0 < m := by
  obtain ⟨n, -, hhigh, ⟨m', hm', hn, -⟩ | ⟨hnone, -⟩⟩ := multiple?_cases h k
  · cases hm.symm.trans hm'
    have hone : (10 : ℚ) ^ k < (n + 1) * 10 ^ k := lt_of_le_of_lt hk hhigh
    have hpos : (0 : ℚ) < n := by
      have := ten_zpow_pos k
      nlinarith
    have : 0 < n := by exact_mod_cast hpos
    omega
  · cases hm.symm.trans hnone

/-- Between half way to the next smaller and half way to the next larger number there is a multiple
of what is less than the distance. -/
theorem exists_multiple? (h : x.isZero = false) {k : Int}
    (hk : 10 ^ k < x.gapBelow / 2 + 2 ^ x.exponent / 2) :
    ∃ m, x.rounding.multiple? k = some m := by
  obtain ⟨n, hlow, hhigh, ⟨m, hm, -⟩ | ⟨-, hbelow, habove⟩⟩ := multiple?_cases h k
  · exact ⟨m, hm⟩
  have hgap := x.gapBelow_pos
  have hpos := two_zpow_pos x.exponent
  have hbelow' : n * (10 : ℚ) ^ k ≤ x.magnitude - x.gapBelow / 2 := by
    by_contra hlt
    refine hbelow ?_
    unfold Rounds
    split
    · exact ⟨by linarith, by linarith⟩
    · exact ⟨by linarith, by linarith⟩
  have habove' : x.magnitude + 2 ^ x.exponent / 2 ≤ ((n + 1 : ℕ) : ℚ) * 10 ^ k := by
    push_cast
    by_contra hlt
    refine habove ?_
    push_cast
    unfold Rounds
    split
    · exact ⟨by linarith, by linarith⟩
    · exact ⟨by linarith, by linarith⟩
  push_cast at habove'
  exfalso
  linarith

/-! ## Seventeen digits -/

/-- A number that is not zero has no fewer digits than are needed for it. -/
theorem ten_pow_le_of_pos {n : ℕ} (hn : 0 < n) : 10 ^ ((Nat.toDigits 10 n).length - 1) ≤ n := by
  by_cases hlength : (Nat.toDigits 10 n).length - 1 = 0
  · rw [hlength]
    exact hn
  · have hiff := Nat.length_toDigits_le_iff (b := 10) (n := n) (by decide)
      (Nat.pos_of_ne_zero hlength)
    exact Nat.le_of_not_lt fun hlt => by
      have := hiff.2 hlt
      omega

/-- No number is smaller than `2 ^ -1074`. -/
theorem Kept.le_magnitude (hx : x.Kept) (h : x.isZero = false) :
    (2 : ℚ) ^ (-1074 : Int) ≤ x.magnitude := by
  have hs : (1 : ℚ) ≤ x.significand := by exact_mod_cast significand_pos h
  calc (2 : ℚ) ^ (-1074 : Int) ≤ 2 ^ x.exponent := zpow_le_zpow_right₀ (by norm_num) hx.least
    _ ≤ x.significand * 2 ^ x.exponent := le_mul_of_one_le_left (two_zpow_pos _).le hs

theorem length_toString (n : ℕ) : (toString n).length = (Nat.toDigits 10 n).length := by
  have hrepr : toString n = .ofList (Nat.toDigits 10 n) := Nat.repr_eq_ofList_toDigits
  rw [hrepr, String.length_ofList]

/-- The exponent of the first digit is read off a number with `n` digits behind the point. -/
theorem ten_pow_le_magnitude (h : x.isZero = false) {n : ℕ} {log : Int}
    (hn : 1 ≤ x.magnitude * 10 ^ (n : Int))
    (hlog : log + (n + 1 : ℕ) =
      (Nat.toDigits 10 (x.rounding.value * Nat.pow 10 n / x.rounding.unit)).length) :
    10 ^ log ≤ x.magnitude := by
  obtain ⟨hunit, hvalue, -⟩ := rounding_eq h
  have hquotient : ((x.rounding.value * Nat.pow 10 n : ℕ) : ℚ) / x.rounding.unit =
      x.magnitude * 10 ^ (n : Int) := by
    rw [Nat.cast_mul, ← zpow_natPow, mul_div_right_comm, hvalue]
    norm_cast
  have hpos : 0 < x.rounding.value * Nat.pow 10 n / x.rounding.unit := by
    have hu : (0 : ℚ) < x.rounding.unit := by exact_mod_cast hunit
    rw [← hquotient, le_div_iff₀ hu, one_mul] at hn
    exact Nat.div_pos (by exact_mod_cast hn) hunit
  have hle : ((x.rounding.value * Nat.pow 10 n / x.rounding.unit : ℕ) : ℚ) ≤
      x.magnitude * 10 ^ (n : Int) := by
    rw [← hquotient]
    exact Nat.cast_div_le
  generalize x.rounding.value * Nat.pow 10 n / x.rounding.unit = q at *
  have hlength : 0 < (Nat.toDigits 10 q).length := List.length_pos_of_ne_nil Nat.toDigits_ne_nil
  have hexponent : log + n = ((Nat.toDigits 10 q).length - 1 : ℕ) := by omega
  refine le_of_mul_le_mul_right ?_ (ten_zpow_pos n)
  calc (10 : ℚ) ^ log * 10 ^ (n : Int) = ((10 ^ ((Nat.toDigits 10 q).length - 1) : ℕ) : ℚ) := by
        rw [← zpow_add₀ (by norm_num), hexponent, zpow_natCast]
        norm_cast
    _ ≤ q := by exact_mod_cast ten_pow_le_of_pos hpos
    _ ≤ x.magnitude * 10 ^ (n : Int) := hle

/-- The least number above zero is greater than `10 ^ (-330)`. -/
theorem two_pow_le_ten_pow : (2 : ℚ) ^ (1074 : Int) ≤ 10 ^ (330 : Int) := by
  calc (2 : ℚ) ^ (1074 : Int) ≤ 2 ^ ((108 : Int) * 10) :=
        zpow_le_zpow_right₀ (by norm_num) (by norm_num)
    _ = (2 ^ (108 : Int)) ^ (10 : Int) := zpow_mul 2 108 10
    _ ≤ (10 ^ (33 : Int)) ^ (10 : Int) :=
      zpow_le_zpow_left₀ (by norm_num) (by norm_num) (by norm_num)
    _ = 10 ^ ((33 : Int) * 10) := (zpow_mul 10 33 10).symm

/-- The exponent of the first digit of a number. -/
theorem ten_pow_log10_le (hx : x.Kept) (h : x.isZero = false) :
    (10 : ℚ) ^ x.rounding.log10 ≤ x.magnitude := by
  have hleast : 1 ≤ x.magnitude * 10 ^ ((330 : ℕ) : Int) := by
    calc (1 : ℚ) = 2 ^ (-1074 : Int) * 2 ^ (1074 : Int) := by
          rw [← zpow_add₀ (by norm_num)]
          norm_num
      _ ≤ x.magnitude * 10 ^ ((330 : ℕ) : Int) :=
        mul_le_mul (hx.le_magnitude h) two_pow_le_ten_pow (two_zpow_pos _).le (magnitude_pos h).le
  refine ten_pow_le_magnitude h hleast ?_
  have hdigits : ((330 + 1 : ℕ) : Int) = 331 := rfl
  rw [Rounding.log10, length_toString, hdigits, sub_add_cancel]

/-- Seventeen digits are enough. -/
theorem exists_seventeen (hx : x.Kept) (h : x.isZero = false) :
    ∃ m, x.rounding.multiple? (x.rounding.log10 - 16) = some m := by
  refine exists_multiple? h ?_
  have hpos := two_zpow_pos x.exponent
  have hlog := ten_pow_log10_le hx h
  have hlt : (x.significand : ℚ) + 1 ≤ 2 ^ 53 := by exact_mod_cast hx.lt
  have hunit : (10 : ℚ) ^ (x.rounding.log10 - 16) * 10 ^ 16 ≤ x.significand * 2 ^ x.exponent := by
    rw [zpow_sub₀ (by norm_num), div_mul_eq_mul_div, mul_div_assoc]
    exact le_trans (by norm_num) hlog
  generalize (10 : ℚ) ^ (x.rounding.log10 - 16) = unit at hunit
  unfold gapBelow
  split
  · next hpower =>
    -- Below a power of two the gap is half as wide, and its digits are fewer.
    have hs : (x.significand : ℚ) = 2 ^ 52 := by exact_mod_cast hpower.1
    rw [hs] at hunit
    nlinarith
  · nlinarith

/-- The search for a decimal comes to an end with one that rounds to the number. -/
theorem exists_multiple_of_shortestFrom {r : Rounding} {log : Int} {n digits m : ℕ} {k : Int}
    (hlast : ∃ m, r.multiple? (log - (digits + n : ℕ) + 1) = some m)
    (h : r.shortestFrom log (n + 1) digits = (m, k)) :
    r.multiple? k = some m ∧ k ≤ log - digits + 1 := by
  induction n generalizing digits with
  | zero =>
    obtain ⟨m', hm'⟩ := hlast
    rw [Rounding.shortestFrom] at h
    rw [Nat.add_zero] at hm'
    rw [hm'] at h
    cases h
    exact ⟨hm', le_refl _⟩
  | succ n ih =>
    rw [Rounding.shortestFrom] at h
    split at h
    · next m' hm' =>
      cases h
      exact ⟨hm', le_refl _⟩
    · have hlast' : ∃ m, r.multiple? (log - (digits + 1 + n : ℕ) + 1) = some m := by
        rwa [Nat.add_right_comm, Nat.add_assoc]
      obtain ⟨hm, hk⟩ := ih hlast' h
      exact ⟨hm, by push_cast at hk; omega⟩

/-- A number is nearest to the decimal that is found for it, which is not zero. -/
theorem nearest_shortestFrom (hx : x.Kept) (h : x.isZero = false) {m : ℕ} {k : Int}
    (hm : x.rounding.shortestFrom x.rounding.log10 17 1 = (m, k)) :
    0 < m ∧ x.Nearest (m * 10 ^ k) := by
  have hlog := ten_pow_log10_le hx h
  have hlast : ∃ m, x.rounding.multiple? (x.rounding.log10 - (1 + 16 : ℕ) + 1) = some m := by
    have hdigits : x.rounding.log10 - (1 + 16 : ℕ) + 1 = x.rounding.log10 - 16 := by
      push_cast
      ring
    rw [hdigits]
    exact exists_seventeen hx h
  generalize x.rounding.log10 = log at *
  obtain ⟨hmultiple, hk⟩ := exists_multiple_of_shortestFrom hlast hm
  have hle : (10 : ℚ) ^ k ≤ x.magnitude :=
    le_trans (zpow_le_zpow_right₀ (by norm_num) (by simpa using hk)) hlog
  exact ⟨pos_of_multiple? h hle hmultiple, nearest_of_rounds hx (rounds_of_multiple? h hmultiple)⟩

end EnvAudit.Binary64
