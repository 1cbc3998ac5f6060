import EnvAudit.Json.Printer
import EnvAudit.Text.Quoted

/-!
# EnvAudit.Json.Fault

What can be wrong with a JSON text, and where:

1. a `SyntaxFault` breaks the rules of JSON;
2. a `Mismatch` is well-formed but not what was expected at its place.

A fault found while reading a text has a position: the line, counted from one, and the number of
bytes of that line read.
-/

namespace EnvAudit

/-- What breaks the rules of JSON. -/
inductive SyntaxFault
  | endInList
  | endInObject
  | endInString
  | endInValue
  | colonExpected
  | listCommaOrEnd
  | objectCommaOrEnd
  | identExpected
  | valueExpected
  | invalidEscape
  | invalidNumber
  | numberOutOfRange
  | controlCharacter
  | keyNotString
  | loneSurrogate
  | trailingComma
  | trailingCharacters
  | endOfHexEscape
  | nestedTooDeeply
deriving Repr, DecidableEq, Inhabited

/-- What breaks the rules, in words. -/
def SyntaxFault.message : SyntaxFault → String
  | .endInList => "EOF while parsing a list"
  | .endInObject => "EOF while parsing an object"
  | .endInString => "EOF while parsing a string"
  | .endInValue => "EOF while parsing a value"
  | .colonExpected => "expected \x60:\x60"
  | .listCommaOrEnd => "expected \x60,\x60 or \x60]\x60"
  | .objectCommaOrEnd => "expected \x60,\x60 or \x60\x7d\x60"
  | .identExpected => "expected ident"
  | .valueExpected => "expected value"
  | .invalidEscape => "invalid escape"
  | .invalidNumber => "invalid number"
  | .numberOutOfRange => "number out of range"
  | .controlCharacter => "control character (\\u0000-\\u001F) found while parsing a string"
  | .keyNotString => "key must be a string"
  | .loneSurrogate => "lone leading surrogate in hex escape"
  | .trailingComma => "trailing comma"
  | .trailingCharacters => "trailing characters"
  | .endOfHexEscape => "unexpected end of hex escape"
  | .nestedTooDeeply => "recursion limit exceeded"

/-- A value that was found where another was expected; of a list or an object only that it is
one. -/
inductive Surprise
  | null
  | bool (b : Bool)
  | number (n : JsonNumber)
  | text (s : String)
  | list
  | object
deriving Repr, DecidableEq, Inhabited

/-- The value that was found, in words. -/
def Surprise.message : Surprise → String
  | .null => "null"
  | .bool b => s!"boolean \x60{b}\x60"
  | .number (.whole n) => s!"integer \x60{n}\x60"
  | .number (.float x) => "floating point \x60" ++ Json.layout.text x ++ "\x60"
  | .text s => "string " ++ Quoted.quote s
  | .list => "sequence"
  | .object => "map"

/-- What a value is when it is not what was expected. -/
def Json.surprise : Json → Surprise
  | .null => .null
  | .bool b => .bool b
  | .number n => .number n
  | .text s => .text s
  | .array _ => .list
  | .object _ => .object

/-- How a value is not what was expected. -/
inductive Mismatch
  | type (found : Surprise) (expected : String)
  | missing (field : String)
  | duplicate (field : String)
  | length (found : Nat) (expected : String)
deriving Repr, DecidableEq, Inhabited

/-- The mismatch in words. -/
def Mismatch.message : Mismatch → String
  | .type found expected => "invalid type: " ++ found.message ++ ", expected " ++ expected
  | .missing field => s!"missing field \x60{field}\x60"
  | .duplicate field => s!"duplicate field \x60{field}\x60"
  | .length found expected => s!"invalid length {found}, expected {expected}"

/-- A position in a text: the line, counted from one, and the bytes of it read. -/
structure Position where
  line : Nat
  column : Nat
deriving Repr, DecidableEq, Inhabited

/-- What is wrong with a JSON text. -/
inductive JsonFault
  | grammar (fault : SyntaxFault)
  | mismatch (fault : Mismatch)
deriving Repr, DecidableEq, Inhabited

/-- What is wrong, in words. -/
def JsonFault.message : JsonFault → String
  | .grammar f => f.message
  | .mismatch f => f.message

/-- What is wrong with a JSON text and where. -/
structure JsonError where
  fault : JsonFault
  position : Position
deriving Repr, DecidableEq, Inhabited

/-- What is wrong and where, in words. -/
def JsonError.message (e : JsonError) : String :=
  s!"{e.fault.message} at line {e.position.line} column {e.position.column}"

end EnvAudit
