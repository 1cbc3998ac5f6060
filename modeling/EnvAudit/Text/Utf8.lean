/-!
# EnvAudit.Text.Utf8

Characters as bytes and back:

1. the first byte of a character says which bytes may follow (`lead?`);
2. reading goes on from byte to byte; where the bytes so far are no character and cannot become
   one, they are set aside and reading starts anew with the byte that did not fit (`units`);
3. `decode?` wants every byte to belong to a character, `decodeLossy` puts `U+FFFD` where bytes
   were set aside.
-/

namespace EnvAudit

/-- A sequence of bytes. -/
abbrev Bytes := List UInt8

namespace Utf8

/-- The bytes of a text. -/
def encode (text : List Char) : Bytes := text.flatMap String.utf8EncodeChar

/-- The least and the greatest byte of a range. -/
abbrev Range := Nat × Nat

/-- The bytes that continue a character. -/
def tail : Range := (0x80, 0xbf)

/-- What a first byte contributes to the code of its character, and the ranges of the bytes to
follow. A range is narrowed where the character could be written with fewer bytes, would be a
surrogate or would lie above `U+10FFFF`. -/
def lead? (b : Nat) : Option (Nat × List Range) :=
  if b < 0x80 then some (b, [])
  else if b < 0xc2 then none
  else if b < 0xe0 then some (b - 0xc0, [tail])
  else if b = 0xe0 then some (0, [(0xa0, 0xbf), tail])
  else if b = 0xed then some (0xd, [(0x80, 0x9f), tail])
  else if b < 0xf0 then some (b - 0xe0, [tail, tail])
  else if b = 0xf0 then some (0, [(0x90, 0xbf), tail, tail])
  else if b < 0xf4 then some (b - 0xf0, [tail, tail, tail])
  else if b = 0xf4 then some (4, [(0x80, 0x8f), tail, tail])
  else none

/-- Read the bytes that follow a first byte: the code of the character, if all of them fit, and the
bytes left. -/
def follow (code : Nat) : List Range → Bytes → Option Nat × Bytes
  | [], rest => (some code, rest)
  | _ :: _, [] => (none, [])
  | (low, high) :: ranges, b :: rest =>
    if low ≤ b.toNat ∧ b.toNat ≤ high then follow (code * 64 + (b.toNat - 0x80)) ranges rest
    else (none, b :: rest)

theorem length_follow (code : Nat) (ranges : List Range) (bytes : Bytes) :
    (follow code ranges bytes).2.length ≤ bytes.length := by
  induction ranges generalizing code bytes with
  | nil => simp [follow]
  | cons r rs ih =>
    cases bytes with
    | nil => simp [follow]
    | cons b rest =>
      obtain ⟨low, high⟩ := r
      simp only [follow]
      split
      · exact Nat.le_trans (ih _ _) (Nat.le_succ _)
      · exact Nat.le_refl _

/-- Read one character: its code, if the bytes are one, and the bytes left. -/
def step (b : UInt8) (rest : Bytes) : Option Nat × Bytes :=
  match lead? b.toNat with
  | none => (none, rest)
  | some (code, ranges) => follow code ranges rest

theorem length_step (b : UInt8) (rest : Bytes) : (step b rest).2.length ≤ rest.length := by
  unfold step
  split
  · exact Nat.le_refl _
  · exact length_follow _ _ _

/-- The characters of a sequence of bytes, with `none` where bytes are set aside. -/
def units : Bytes → List (Option Char)
  | [] => []
  | b :: rest => (step b rest).1.map Char.ofNat :: units (step b rest).2
termination_by bytes => bytes.length
decreasing_by exact Nat.lt_succ_of_le (length_step b rest)

/-- The text with these bytes, if every byte belongs to a character. -/
def decode? (bytes : Bytes) : Option (List Char) := (units bytes).mapM id

/-- The text with these bytes, with `U+FFFD` for bytes that belong to no character. -/
def decodeLossy (bytes : Bytes) : List Char := (units bytes).map (·.getD '\ufffd')

end Utf8

end EnvAudit
