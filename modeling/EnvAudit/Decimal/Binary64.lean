/-!
# EnvAudit.Decimal.Binary64

Binary floating point numbers of 64 bits, calculated exactly:

1. a number is `significand * 2 ^ exponent` with a significand below `2 ^ 53` and an exponent from
   `-1074` to `971`; of the ways to write a number the one with the smallest exponent is kept;
2. `ofRatio?` rounds a fraction to the nearest number, and half way to the one with the even
   significand; it fails if the result would be too large.
-/

namespace EnvAudit

/-- A finite binary floating point number. -/
structure Binary64 where
  negative : Bool
  significand : Nat
  exponent : Int
deriving Repr, DecidableEq, Inhabited

namespace Binary64

/-- The smallest exponent. -/
def minExponent : Int := -1074

/-- The largest exponent. -/
def maxExponent : Int := 971

/-- The number zero. -/
def zero : Binary64 := ⟨false, 0, minExponent⟩

/-- Whether the number is zero, of either sign. -/
def isZero (x : Binary64) : Bool := x.significand == 0

/-- The number with its sign set. -/
def withSign (x : Binary64) (negative : Bool) : Binary64 := { x with negative := negative }

/-- The fraction `num / den` divided by `2 ^ e`. -/
def scaleDown (num den : Nat) (e : Int) : Nat × Nat :=
  if 0 ≤ e then (num, den * Nat.pow 2 e.toNat) else (num * Nat.pow 2 (-e).toNat, den)

/-- The quotient rounded to the nearest number, half way to the even one. -/
def roundQuotient (num den : Nat) : Nat :=
  let q := num / den
  let r := num % den
  if den < 2 * r ∨ 2 * r = den ∧ q % 2 = 1 then q + 1 else q

/-- The largest `e` with `2 ^ e ≤ num / den`. -/
def log2Ratio (num den : Nat) : Int :=
  let e : Int := (num.log2 : Int) - den.log2
  let (n, d) := scaleDown num den e
  if n < d then e - 1 else e

/-- The number nearest to `num / den`, if it is not too large. -/
def ofRatio? (num den : Nat) : Option Binary64 :=
  if num = 0 then some zero
  else
    let e := max minExponent (log2Ratio num den - 52)
    let (n, d) := scaleDown num den e
    let m := roundQuotient n d
    let (m, e) := if m = Nat.pow 2 53 then (Nat.pow 2 52, e + 1) else (m, e)
    if maxExponent < e then none else some ⟨false, m, e⟩

/-- The absolute value of a number as a fraction. -/
def ratio (x : Binary64) : Nat × Nat :=
  if 0 ≤ x.exponent then (x.significand * Nat.pow 2 x.exponent.toNat, 1)
  else (x.significand, Nat.pow 2 (-x.exponent).toNat)

/-- The product of two numbers without their signs. -/
def mul? (x y : Binary64) : Option Binary64 :=
  let (a, b) := x.ratio
  let (c, d) := y.ratio
  ofRatio? (a * c) (b * d)

/-- The quotient of two numbers without their signs; the second is not zero. -/
def div? (x y : Binary64) : Option Binary64 :=
  let (a, b) := x.ratio
  let (c, d) := y.ratio
  ofRatio? (a * d) (b * c)

/-! ## Numbers from decimals -/

/-- The largest power of ten that is a number. -/
def maxPower : Nat := 308

/-- The number nearest to a power of ten. -/
def powerOfTen (k : Nat) : Binary64 := (ofRatio? (Nat.pow 10 k) 1).getD zero

/-- Divide a number by a power of ten, by at most `10 ^ 308` at once. -/
def divPower : Nat → Binary64 → Nat → Binary64
  | 0, x, _ => x
  | n + 1, x, k =>
    if x.isZero then x
    else if k ≤ maxPower then (div? x (powerOfTen k)).getD zero
    else divPower n ((div? x (powerOfTen maxPower)).getD zero) (k - maxPower)

/-- The number that a significand below `2 ^ 64` and an exponent of ten stand for. The significand
is rounded first and then multiplied or divided by a rounded power of ten, so the result need not be
the nearest number. -/
def ofDecimal? (negative : Bool) (significand : Nat) (exponent : Int) : Option Binary64 := do
  let x ← ofRatio? significand 1
  let y ←
    if 0 ≤ exponent then
      if exponent.toNat ≤ maxPower then mul? x (powerOfTen exponent.toNat)
      else if x.isZero then some x
      else none
    else some (divPower 4 x (-exponent).toNat)
  return y.withSign negative

end Binary64

end EnvAudit
