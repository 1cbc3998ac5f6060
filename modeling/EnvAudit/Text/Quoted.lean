import EnvAudit.Text.Category
import EnvAudit.Text.Property

/-!
# EnvAudit.Text.Quoted

Text between double quotes, on one line and without characters that cannot be seen: quotes and
backslashes stand behind a backslash, tabs and line ends have a letter behind one, and other
characters that are invisible or that join the character before them are written by their code.
-/

namespace EnvAudit.Quoted

/-- The characters that cannot be seen: controls, formats, separators and codes without a
character. -/
def unseen : CharSet :=
  (Category.setOf ["cc", "cf", "cn", "co", "zl", "zp", "zs"]).diff (.single ' ')

/-- The characters written by their code. -/
def coded : CharSet := unseen.union Property.graphemeExtend

/-- A number in hexadecimal digits of lower case. -/
def hex (n : Nat) : List Char := Nat.toDigits 16 n

/-- What is written for a character. -/
def encodeChar (c : Char) : List Char :=
  match c with
  | '\x00' => ['\\', '0']
  | '\t' => ['\\', 't']
  | '\r' => ['\\', 'r']
  | '\n' => ['\\', 'n']
  | '\\' => ['\\', '\\']
  | '"' => ['\\', '"']
  | c => if coded.contains c then "\\u\x7b".toList ++ hex c.toNat ++ ['\x7d'] else [c]

/-- The text between quotes. -/
def encode (cs : List Char) : List Char := '"' :: cs.flatMap encodeChar ++ ['"']

/-- The text between quotes. -/
def quote (s : String) : String := .ofList (encode s.toList)

/-! ## Words of a command -/

/-- What is written for a character of a word: among ASCII characters `'` too stands behind a
backslash, and a control character is written with two digits. -/
def encodeWordChar (c : Char) : List Char :=
  if c = '\'' then ['\\', '\'']
  else if c.toNat < 0x80 ∧ unseen.contains c ∧ ¬c ∈ ['\x00', '\t', '\r', '\n'] then
    ['\\', 'x', Nat.digitChar (c.toNat / 16), Nat.digitChar (c.toNat % 16)]
  else encodeChar c

/-- A word between quotes. -/
def quoteWord (s : String) : String := .ofList ('"' :: s.toList.flatMap encodeWordChar ++ ['"'])

/-! ## Paths -/

/-- What is written for a character of a path: `'` too stands behind a backslash. -/
def encodePathChar (c : Char) : List Char :=
  if c = '\'' then ['\\', '\''] else encodeChar c

/-- A path between quotes. -/
def quotePath (s : String) : String := .ofList ('"' :: s.toList.flatMap encodePathChar ++ ['"'])

end EnvAudit.Quoted
