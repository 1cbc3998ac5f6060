/-!
# EnvAudit.Text.CharSet

Sets of characters as ranges of code points:

1. the ranges of a set ascend and neither overlap nor touch, so equal sets have equal ranges;
2. `union` and `compl` keep that form, and the other operations are built from these two;
3. `ofText` reads a table of ranges written in hexadecimal, such as `41-5a 5f 61-7a`.

Membership follows the ranges in order and stops as soon as one starts past the character.
-/

namespace EnvAudit

/-- A set of characters: ascending ranges of code points, both ends included. -/
structure CharSet where
  ranges : List (Nat × Nat)
deriving DecidableEq, Repr, Inhabited

namespace CharSet

/-- The last code point. -/
def maxCode : Nat := 0x10ffff

/-- Whether a code point lies in one of the ascending ranges. -/
def covers : List (Nat × Nat) → Nat → Bool
  | [], _ => false
  | (lo, hi) :: rest, n => if n < lo then false else if n ≤ hi then true else covers rest n

/-- Membership of a character. -/
def contains (s : CharSet) (c : Char) : Bool := covers s.ranges c.toNat

/-! ## Building sets -/

/-- The set without members. -/
def empty : CharSet := ⟨[]⟩

/-- The set of all characters. -/
def full : CharSet := ⟨[(0, maxCode)]⟩

/-- The characters from `lo` to `hi`, none if `hi` comes first. -/
def range (lo hi : Char) : CharSet := if lo ≤ hi then ⟨[(lo.toNat, hi.toNat)]⟩ else empty

/-- The set of one character. -/
def single (c : Char) : CharSet := ⟨[(c.toNat, c.toNat)]⟩

/-- Merge ascending ranges that overlap or touch; the pair is the range being grown. -/
def merge (lo hi : Nat) : List (Nat × Nat) → List (Nat × Nat)
  | [] => [(lo, hi)]
  | (lo', hi') :: rest =>
    if lo' ≤ hi + 1 then merge lo (max hi hi') rest else (lo, hi) :: merge lo' hi' rest

/-- The set of the characters in any of the ranges, given in any order. -/
def ofRanges (rs : List (Nat × Nat)) : CharSet :=
  match rs.mergeSort (fun a b => a.1 ≤ b.1) with
  | [] => empty
  | (lo, hi) :: rest => ⟨merge lo hi rest⟩

/-- The set of the listed characters. -/
def ofList (cs : List Char) : CharSet := ofRanges (cs.map fun c => (c.toNat, c.toNat))

/-! ## Operations -/

/-- The characters of either set. -/
def union (a b : CharSet) : CharSet := ofRanges (a.ranges ++ b.ranges)

/-- The gaps left by ascending ranges, from `start` on. -/
def gaps (start : Nat) : List (Nat × Nat) → List (Nat × Nat)
  | [] => if start ≤ maxCode then [(start, maxCode)] else []
  | (lo, hi) :: rest =>
    if start < lo then (start, lo - 1) :: gaps (hi + 1) rest else gaps (hi + 1) rest

/-- The characters outside the set. -/
def compl (s : CharSet) : CharSet := ⟨gaps 0 s.ranges⟩

/-- The characters of both sets. -/
def inter (a b : CharSet) : CharSet := (a.compl.union b.compl).compl

/-- The characters of the first set that are not in the second. -/
def diff (a b : CharSet) : CharSet := a.inter b.compl

/-- The characters of exactly one of the sets. -/
def symmDiff (a b : CharSet) : CharSet := (a.union b).diff (a.inter b)

/-- Whether every member is an ASCII character. -/
def isAscii (s : CharSet) : Bool := s.ranges.all fun r => r.2 < 0x80

/-- The only member, if the set has exactly one. -/
def single? (s : CharSet) : Option Char :=
  match s.ranges with
  | [(lo, hi)] => if lo = hi then some (Char.ofNat lo) else none
  | _ => none

/-! ## Tables -/

/-- The value of a hexadecimal digit in lower case. -/
def hexDigit? (c : Char) : Option Nat :=
  if '0' ≤ c ∧ c ≤ '9' then some (c.toNat - 48)
  else if 'a' ≤ c ∧ c ≤ 'f' then some (c.toNat - 87)
  else none

/-- The ranges of a table. `lo` is the start of the range being read once its `-` is past, and
`n` the number being read. -/
def readTable (lo n : Option Nat) : List Char → List (Nat × Nat)
  | [] => match n with
    | some hi => [(lo.getD hi, hi)]
    | none => []
  | c :: rest =>
    if c = '-' then readTable n none rest
    else match hexDigit? c with
      | some d => readTable lo (some (16 * n.getD 0 + d)) rest
      | none => match n with
        | some hi => (lo.getD hi, hi) :: readTable none none rest
        | none => readTable none none rest

/-- The set written as a table: ranges `lo-hi` or single code points, ascending, set apart by
blanks. -/
def ofText (table : String) : CharSet := ⟨readTable none none table.toList⟩

/-- The set that a list of named tables gives for a name; several names of one set are set apart
by blanks. -/
def lookup? (tables : List (String × String)) (name : String) : Option CharSet :=
  (tables.find? fun t => (t.1.splitOn " ").contains name).map fun t => ofText t.2

end CharSet

end EnvAudit
