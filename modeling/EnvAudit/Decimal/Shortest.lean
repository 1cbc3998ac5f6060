import EnvAudit.Decimal.Binary64

/-!
# EnvAudit.Decimal.Shortest

The shortest decimal of a binary number: of the decimals that round to the number, those with the
fewest digits, of these the nearest, and half way the one with an even last digit. A `Layout` says
how such a decimal is written.
-/

namespace EnvAudit

/-- The decimals that round to a number: from `low` to `high`, counted in units of
`1 / unit`; the ends belong to it if `closed` holds. -/
structure Rounding where
  low : Nat
  value : Nat
  high : Nat
  unit : Nat
  closed : Bool
deriving Repr

namespace Binary64

/-- The decimals that round to a number other than zero. -/
def rounding (x : Binary64) : Rounding :=
  let below := if x.significand = Nat.pow 2 52 ∧ minExponent < x.exponent then 1 else 2
  let e := x.exponent - 2
  let (scale, unit) := if 0 ≤ e then (Nat.pow 2 e.toNat, 1) else (1, Nat.pow 2 (-e).toNat)
  { low := (4 * x.significand - below) * scale
    value := 4 * x.significand * scale
    high := (4 * x.significand + 2) * scale
    unit := unit
    closed := x.significand % 2 == 0 }

end Binary64

namespace Rounding

/-- Whether `num / den` rounds to the number. -/
def contains (r : Rounding) (num den : Nat) : Bool :=
  let v := num * r.unit
  if r.closed then r.low * den ≤ v && v ≤ r.high * den else r.low * den < v && v < r.high * den

/-- The largest `e` with `10 ^ e` not above the number. -/
def log10 (r : Rounding) : Int :=
  ((toString (r.value * Nat.pow 10 330 / r.unit)).length : Int) - 331

/-- The multiple of `10 ^ k` that rounds to the number, in units of `10 ^ k`. -/
def multiple? (r : Rounding) (k : Int) : Option Nat :=
  let (up, down) := if 0 ≤ k then (Nat.pow 10 k.toNat, 1) else (1, Nat.pow 10 (-k).toNat)
  let below := r.value * down / (r.unit * up)
  let above := below + 1
  let fits := fun n => r.contains (n * up) down
  match fits below, fits above with
  | true, true =>
    let short := r.value * down - below * up * r.unit
    let long := above * up * r.unit - r.value * down
    some (if short < long ∨ short = long ∧ below % 2 = 0 then below else above)
  | true, false => some below
  | false, true => some above
  | false, false => none

/-- The shortest decimal of at least `digits` digits, as a number and an exponent of ten. -/
def shortestFrom (r : Rounding) (log : Int) : Nat → Nat → Nat × Int
  | 0, _ => (r.value / r.unit, 0)
  | n + 1, digits =>
    let k := log - digits + 1
    match r.multiple? k with
    | some m => (m, k)
    | none => shortestFrom r log n (digits + 1)

end Rounding

/-- How a decimal is written. -/
structure Layout where
  /-- The smallest exponent of the first digit that is written without an exponent. -/
  least : Int
  /-- The largest exponent of the first digit that is written without an exponent. -/
  most : Int
  /-- The mark before an exponent that is not negative. -/
  plus : String
deriving Repr

namespace Layout

/-- Zeros in a row. -/
def zeros (n : Nat) : List Char := List.replicate n '0'

/-- Write the digits of a decimal whose first digit has the exponent `e`. -/
def write (l : Layout) (digits : List Char) (e : Int) : List Char :=
  if e < l.least ∨ l.most < e then
    let mantissa := match digits with
      | [] => []
      | [d] => [d]
      | d :: ds => d :: '.' :: ds
    let sign := if 0 ≤ e then l.plus.toList else ['-']
    mantissa ++ 'e' :: sign ++ (toString e.natAbs).toList
  else if e < 0 then '0' :: '.' :: zeros (e.natAbs - 1) ++ digits
  else
    let whole := e.toNat + 1
    if digits.length ≤ whole then digits ++ zeros (whole - digits.length) ++ ['.', '0']
    else digits.take whole ++ '.' :: digits.drop whole

/-- Write a decimal, given as a number and an exponent of ten, without zeros at the end. -/
def decimal (l : Layout) (m : Nat) (k : Int) : List Char :=
  let digits := (toString m).toList
  l.write (digits.reverse.dropWhile (· == '0')).reverse (k + digits.length - 1)

/-- Write a number by its shortest decimal. -/
def text (l : Layout) (x : Binary64) : String :=
  let sign := if x.negative then ['-'] else []
  if x.isZero then .ofList (sign ++ ['0', '.', '0'])
  else
    let shortest := x.rounding.shortestFrom x.rounding.log10 17 1
    .ofList (sign ++ l.decimal shortest.1 shortest.2)

end Layout

end EnvAudit
