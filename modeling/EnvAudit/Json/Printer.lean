import EnvAudit.Json.Basic

/-!
# EnvAudit.Json.Printer

Writing JSON. In a text, quotes, backslashes and control characters are escaped and all else stands
for itself. Numbers have their shortest decimal. `Json.compact` writes a value without blanks;
`Json.listLines` writes a list of texts with one on each line.
-/

namespace EnvAudit

namespace Json

/-- Numbers from `0.00001` on and below `10 ^ 16` are written without an exponent. -/
def layout : Layout := ⟨-5, 15, "+"⟩

/-- A hexadecimal digit. -/
def hexDigit (n : Nat) : Char := Nat.digitChar n

/-- What is written for a character within a text. -/
def encodeChar (c : Char) : List Char :=
  match c with
  | '"' => ['\\', '"']
  | '\\' => ['\\', '\\']
  | '\x08' => ['\\', 'b']
  | '\t' => ['\\', 't']
  | '\n' => ['\\', 'n']
  | '\x0c' => ['\\', 'f']
  | '\r' => ['\\', 'r']
  | c =>
    if c.toNat < 0x20 then
      ['\\', 'u', '0', '0', hexDigit (c.toNat / 16), hexDigit (c.toNat % 16)]
    else [c]

/-- A text as JSON. -/
def encodeText (cs : List Char) : List Char := '"' :: cs.flatMap encodeChar ++ ['"']

/-- A number as JSON. -/
def encodeNumber : JsonNumber → List Char
  | .whole n => (toString n).toList
  | .float x => (layout.text x).toList

mutual

/-- A value as JSON without blanks. -/
def encode : Json → List Char
  | .null => "null".toList
  | .bool true => "true".toList
  | .bool false => "false".toList
  | .number n => encodeNumber n
  | .text s => encodeText s.toList
  | .array items => '[' :: encodeItems items ++ [']']
  | .object members => '\x7b' :: encodeMembers members ++ ['\x7d']

/-- The items of an array, set apart by commas. -/
def encodeItems : List Json → List Char
  | [] => []
  | [v] => encode v
  | v :: w :: rest => encode v ++ ',' :: encodeItems (w :: rest)

/-- The members of an object, set apart by commas. -/
def encodeMembers : List (String × Json) → List Char
  | [] => []
  | [(k, v)] => encodeText k.toList ++ ':' :: encode v
  | (k, v) :: m :: rest =>
    encodeText k.toList ++ ':' :: encode v ++ ',' :: encodeMembers (m :: rest)

end

/-- A value as JSON without blanks. -/
def compact (v : Json) : String := .ofList (encode v)

/-- The lines of the items of a list, with a comma behind all but the last. -/
def itemLines : List (List Char) → List Char
  | [] => []
  | [s] => "  ".toList ++ encodeText s ++ ['\n']
  | s :: t :: rest => "  ".toList ++ encodeText s ++ [',', '\n'] ++ itemLines (t :: rest)

/-- A list of texts as a JSON array with one on each line. -/
def listLines (texts : List String) : String :=
  if texts.isEmpty then "[]"
  else .ofList ('[' :: '\n' :: itemLines (texts.map String.toList) ++ [']'])

end Json

end EnvAudit
