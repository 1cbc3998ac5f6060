import EnvAudit.Text.CharSet

/-!
# EnvAudit.Text.Blank

White space: the space, the controls from tab to carriage return, the next-line control, and the
separators of all scripts. `trim` takes white space off both ends of a text and leaves the rest
alone.
-/

namespace EnvAudit

/-- The white space characters. -/
def CharSet.blank : CharSet := ⟨[
  (0x9, 0xd), (0x20, 0x20), (0x85, 0x85), (0xa0, 0xa0), (0x1680, 0x1680), (0x2000, 0x200a),
  (0x2028, 0x2029), (0x202f, 0x202f), (0x205f, 0x205f), (0x3000, 0x3000)]⟩

/-- Whether a character is white space. -/
def isBlank (c : Char) : Bool := CharSet.blank.contains c

/-- The text without the white space at its start. -/
def trimStart (cs : List Char) : List Char := cs.dropWhile isBlank

/-- The text without the white space at its end. -/
def trimEnd (cs : List Char) : List Char := (cs.reverse.dropWhile isBlank).reverse

/-- The text without the white space at either end. -/
def trim (cs : List Char) : List Char := trimEnd (trimStart cs)

end EnvAudit
