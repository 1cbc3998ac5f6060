import EnvAudit.Json.Fault

/-!
# EnvAudit.Json.Input

Reading the smallest parts of a JSON text: blanks, words, texts and numbers.

1. a reader stops at the first fault; `fail` reports it where the reader stands, `failBehind` behind
   the next byte;
2. a text is closed by a quote and has no control characters; `\u` escapes of surrogates come in
   pairs;
3. of a number the first digits that fit in 64 bits count, further digits only by their place.
-/

namespace EnvAudit

namespace Position

/-- The position after a character. -/
def after (p : Position) (c : Char) : Position :=
  if c = '\n' then ⟨p.line + 1, 0⟩ else ⟨p.line, p.column + c.utf8Size⟩

/-- The position after the next `n` bytes. -/
def afterBytes (p : Position) : Nat → List Char → Position
  | _, [] => p
  | n, c :: cs =>
    if n = 0 then p
    else if c.utf8Size ≤ n then afterBytes (p.after c) (n - c.utf8Size) cs
    else ⟨p.line, p.column + n⟩

end Position

/-- What is left of a JSON text. -/
structure JsonInput where
  rest : List Char
  position : Position
deriving Repr

/-- The start of a text. -/
def JsonInput.start (text : String) : JsonInput := ⟨text.toList, ⟨1, 0⟩⟩

/-- Readers of parts of a JSON text. -/
abbrev JsonReader := StateT JsonInput (Except JsonError)

namespace JsonReader

/-! ## Faults -/

/-- Report a fault where the reader stands. -/
def fail {α : Type} (f : JsonFault) : JsonReader α := do
  throw ⟨f, (← get).position⟩

/-- Report a broken rule where the reader stands. -/
def refuse {α : Type} (f : SyntaxFault) : JsonReader α := fail (.grammar f)

/-- Report a broken rule behind the next byte. -/
def refuseBehind {α : Type} (f : SyntaxFault) : JsonReader α := do
  let s ← get
  throw ⟨.grammar f, s.position.afterBytes 1 s.rest⟩

/-! ## Characters -/

/-- The next character. -/
def peek : JsonReader (Option Char) := do return (← get).rest.head?

/-- Go past some characters. -/
def advance (count : Nat) : JsonReader Unit :=
  modify fun s => ⟨s.rest.drop count, (s.rest.take count).foldl Position.after s.position⟩

/-- Whether a character may stand between the parts of a JSON text. -/
def isSpace (c : Char) : Bool := c = ' ' || c = '\n' || c = '\t' || c = '\r'

/-- Go past blanks, and give the next character. -/
def next : JsonReader (Option Char) := do
  advance ((← get).rest.takeWhile isSpace).length
  peek

/-- How many characters are left. -/
def left : JsonReader Nat := do return (← get).rest.length

/-- Go past the rest of a word. -/
def word : List Char → JsonReader Unit
  | [] => return
  | c :: cs => do
    match ← peek with
    | none => refuse .endInValue
    | some d =>
      if d != c then refuseBehind .identExpected
      advance 1
      word cs

/-! ## Texts -/

/-- The value of a hexadecimal digit. -/
def hexValue? (c : Char) : Option Nat := CharSet.hexDigit? c.toLower

/-- Read four hexadecimal digits. They are taken as four bytes, whatever these are. -/
def hex4 : JsonReader Nat := do
  let s ← get
  match (s.rest.take 4).mapM hexValue? with
  | some [a, b, c, d] =>
    advance 4
    return ((a * 16 + b) * 16 + c) * 16 + d
  | _ =>
    let bytes := (s.rest.take 4).foldl (fun n c => n + c.utf8Size) 0
    let fault : SyntaxFault := if 4 ≤ bytes then .invalidEscape else .endInString
    throw ⟨.grammar fault, s.position.afterBytes 4 s.rest⟩

/-- The next character of a text. -/
def nextInText : JsonReader Char := do
  match ← peek with
  | some c => return c
  | none => refuse .endInString

/-- Go past a character that must come next within an escape. -/
def demand (c : Char) : JsonReader Unit := do
  if (← nextInText) != c then refuseBehind .endOfHexEscape
  advance 1

/-- Read what stands behind `\u`. -/
def unicodeEscape : JsonReader Char := do
  let n ← hex4
  if 0xdc00 ≤ n ∧ n ≤ 0xdfff then refuse .loneSurrogate
  if n < 0xd800 ∨ 0xdfff < n then return Char.ofNat n
  demand '\\'
  demand 'u'
  let m ← hex4
  if m < 0xdc00 ∨ 0xdfff < m then refuse .loneSurrogate
  return Char.ofNat (0x10000 + (n - 0xd800) * 0x400 + (m - 0xdc00))

/-- The character that a letter behind a backslash stands for. -/
def escaped? : Char → Option Char
  | '"' => some '"'
  | '\\' => some '\\'
  | '/' => some '/'
  | 'b' => some '\x08'
  | 'f' => some '\x0c'
  | 'n' => some '\n'
  | 'r' => some '\r'
  | 't' => some '\t'
  | _ => none

/-- Read what stands behind a backslash. -/
def escape : JsonReader Char := do
  let c ← nextInText
  if c = 'u' then
    advance 1
    unicodeEscape
  else
    match escaped? c with
    | some d => advance 1; return d
    | none => refuseBehind .invalidEscape

/-- Read the characters of a text and the quote that closes it. -/
def textBody : Nat → JsonReader (List Char)
  | 0 => refuse .endInString
  | n + 1 => do
    let c ← nextInText
    if c = '"' then
      advance 1
      return []
    else if c = '\\' then
      advance 1
      let c ← escape
      return c :: (← textBody n)
    else if c < ' ' then refuseBehind .controlCharacter
    else
      advance 1
      return c :: (← textBody n)

/-- Read a text, its opening quote included. -/
def quoted : JsonReader String := do
  let n ← left
  advance 1
  return .ofList (← textBody n)

/-- Go past what stands behind a backslash. -/
def skipEscape : JsonReader Unit := do
  let c ← nextInText
  if c = 'u' then
    advance 1
    let _ ← hex4
  else if (escaped? c).isSome then advance 1
  else refuseBehind .invalidEscape

/-- Go past the characters of a text and the quote that closes it. -/
def skipTextBody : Nat → JsonReader Unit
  | 0 => refuse .endInString
  | n + 1 => do
    let c ← nextInText
    if c = '"' then advance 1
    else if c = '\\' then
      advance 1
      skipEscape
      skipTextBody n
    else if c < ' ' then refuse .controlCharacter
    else
      advance 1
      skipTextBody n

/-- Go past a text, its opening quote included. -/
def skipQuoted : JsonReader Unit := do
  let n ← left
  advance 1
  skipTextBody n

/-! ## Numbers -/

/-- Read decimal digits. -/
def digits : JsonReader (List Char) := do
  let ds := (← get).rest.takeWhile Char.isDigit
  advance ds.length
  return ds

/-- The value of a decimal digit. -/
def digitValue (c : Char) : Nat := c.toNat - 48

/-- Append digits to a number as long as it stays within a limit: the number and the digits that
were not appended. -/
def appendDigits (limit n : Nat) : List Char → Nat × List Char
  | [] => (n, [])
  | d :: ds =>
    if 10 * n + digitValue d ≤ limit then appendDigits limit (10 * n + digitValue d) ds
    else (n, d :: ds)

/-- The largest number of 64 bits. -/
def maxWhole : Nat := Nat.pow 2 64 - 1

/-- The largest number of 31 bits. -/
def maxExponent : Nat := Nat.pow 2 31 - 1

/-- The binary number of a significand and an exponent of ten. -/
def float (negative : Bool) (n : Nat) (exponent : Int) : JsonReader JsonNumber := do
  match Binary64.ofDecimal? negative n exponent with
  | some x => return .float x
  | none => refuse .numberOutOfRange

/-- Read an exponent, its mark included. -/
def exponent (negative : Bool) (n : Nat) (before : Int) : JsonReader JsonNumber := do
  advance 1
  let c ← peek
  if c = some '+' ∨ c = some '-' then advance 1
  match ← peek with
  | none => refuse .endInValue
  | some d => if !d.isDigit then refuseBehind .invalidNumber
  let s ← get
  let ds ← digits
  match appendDigits maxExponent 0 ds with
  | (e, []) => float negative n (if c = some '-' then before - e else before + e)
  | (_, beyond) =>
    if n ≠ 0 ∧ c ≠ some '-' then
      let count := ds.length - beyond.length + 1
      throw ⟨.grammar .numberOutOfRange, s.position.afterBytes count s.rest⟩
    return .float (Binary64.zero.withSign negative)

/-- Whether an exponent comes next. -/
def atExponent : JsonReader Bool := do
  let c ← peek
  return c = some 'e' || c = some 'E'

/-- Read the part of a number behind its point, the point included. -/
def fraction (negative : Bool) (n : Nat) (before : Int) : JsonReader JsonNumber := do
  advance 1
  let ds ← digits
  if ds.isEmpty then
    match ← peek with
    | some _ => refuseBehind .invalidNumber
    | none => refuse .endInValue
  let (n, beyond) := appendDigits maxWhole n ds
  let before := before - (ds.length - beyond.length : Nat)
  if ← atExponent then exponent negative n before
  else float negative n before

/-- A whole number, as a binary number if it does not fit in 64 bits with its sign. -/
def whole (negative : Bool) (n : Nat) : JsonReader JsonNumber :=
  if !negative then return .whole n
  else if n = 0 ∨ Nat.pow 2 63 < n then float true n 0
  else return .whole (-n)

/-- Read a number behind its sign. -/
def unsigned (negative : Bool) : JsonReader JsonNumber := do
  match ← peek with
  | none => refuse .endInValue
  | some c =>
    if !c.isDigit then refuseBehind .invalidNumber
    if c = '0' then advance 1
    let ds ← if c = '0' then pure ['0'] else digits
    if c = '0' ∧ (← peek).any Char.isDigit then refuseBehind .invalidNumber
    let (n, beyond) := appendDigits maxWhole 0 ds
    if (← peek) = some '.' then fraction negative n beyond.length
    else if ← atExponent then exponent negative n beyond.length
    else if beyond.isEmpty then whole negative n
    else float negative n beyond.length

/-- Read a number. -/
def number : JsonReader JsonNumber := do
  if (← peek) = some '-' then
    advance 1
    unsigned true
  else unsigned false

/-- Go past the exponent of a number, if it has one. -/
def skipExponent : JsonReader Unit := do
  if ← atExponent then
    advance 1
    let c ← peek
    if c = some '+' ∨ c = some '-' then advance 1
    if !(← peek).any Char.isDigit then refuseBehind .invalidNumber
    let _ ← digits

/-- Go past a number. -/
def skipNumber : JsonReader Unit := do
  if (← peek) = some '-' then advance 1
  let c ← peek
  if !c.any Char.isDigit then refuseBehind .invalidNumber
  if c = some '0' then
    advance 1
    if (← peek).any Char.isDigit then refuseBehind .invalidNumber
  else
    let _ ← digits
  if (← peek) = some '.' then
    advance 1
    if (← digits).isEmpty then refuseBehind .invalidNumber
  skipExponent

end JsonReader

end EnvAudit
