import EnvAudit.Json.Reader

/-!
# EnvAudit.Json.Typed

Reading JSON that has a known shape, either from a text or from a value:

1. a `Field` of a record has a name and says what its value makes of the record so far; it is
   required or may be left out;
2. a record is an object, in which other members are passed over, or a list of the values of its
   fields in order;
3. what does not have the shape is a `Mismatch`; from a text it is reported where the reader stands
   when it is found out.
-/

namespace EnvAudit

/-- A field of a record: its name, whether it may be left out, and how its value, read by an `m`,
is put into the record. -/
structure Field (m : Type → Type) (σ : Type) where
  name : String
  required : Bool
  read : σ → m σ

/-- What is expected where a list does not have a value for each field of a record. -/
def elementsText (record : String) (count : Nat) : String :=
  s!"struct {record} with {count} " ++ (if count = 1 then "element" else "elements")

namespace JsonReader

/-! ## From a text -/

/-- Report a mismatch where the reader stands. -/
def mismatch {α : Type} (m : Mismatch) : JsonReader α := fail (.mismatch m)

/-- What the next value is; a list or an object is not entered. -/
def surprise : JsonReader Surprise := do
  match ← peek with
  | some 'n' => advance 1; word "ull".toList; return .null
  | some 't' => advance 1; word "rue".toList; return .bool true
  | some 'f' => advance 1; word "alse".toList; return .bool false
  | some '"' => return .text (← quoted)
  | some '[' => return .list
  | some '\x7b' => return .object
  | some c =>
    if c = '-' || c.isDigit then return .number (← number)
    refuseBehind .valueExpected
  | none => refuse .valueExpected

/-- Report that the next value is not what was expected. -/
def unexpected {α : Type} (expected : String) : JsonReader α := do
  let s ← surprise
  mismatch (.type s expected)

/-- The first character of the next value. -/
def ahead : JsonReader Char := do
  match ← next with
  | some c => return c
  | none => refuse .endInValue

/-- Read a text. -/
def text : JsonReader String := do
  if (← ahead) = '"' then quoted else unexpected "a string"

/-- Read a list. -/
def list {α : Type} (item : JsonReader α) : JsonReader (List α) := do
  if (← ahead) = '[' then
    let n ← left
    advance 1
    items item n true
  else unexpected "a sequence"

/-- Go past the entries of a list or object and its end, in at most `n` steps. `after` says whether
an entry has been passed. -/
def skipEntries (close : Char) (atEnd noComma : SyntaxFault) (entry : JsonReader Unit) :
    Nat → Bool → JsonReader Unit
  | 0, _ => refuse atEnd
  | n + 1, after => do
    match ← next with
    | none => refuse atEnd
    | some c =>
      if c = close then advance 1
      else
        if after then
          if c != ',' then refuseBehind noComma
          advance 1
        entry
        skipEntries close atEnd noComma entry n true

/-- Go past the name of a member and the colon behind it. -/
def skipName : JsonReader Unit := do
  match ← next with
  | some '"' => skipQuoted; colon
  | some _ => refuseBehind .keyNotString
  | none => refuse .endInObject

/-- Go past a value, in at most `n` steps. -/
def skipValue : Nat → JsonReader Unit
  | 0 => refuse .endInValue
  | n + 1 => do
    match ← next with
    | none => refuse .endInValue
    | some 'n' => advance 1; word "ull".toList
    | some 't' => advance 1; word "rue".toList
    | some 'f' => advance 1; word "alse".toList
    | some '"' => skipQuoted
    | some '[' =>
      let steps ← left
      advance 1
      skipEntries ']' .endInList .listCommaOrEnd (skipValue n) steps false
    | some '\x7b' =>
      let steps ← left
      advance 1
      let entry := do skipName; skipValue n
      skipEntries '\x7d' .endInObject .objectCommaOrEnd entry steps false
    | some c => if c = '-' || c.isDigit then skipNumber else refuseBehind .valueExpected

/-- Read a member of a record. With the record come the names of the fields read. -/
def recordMember {σ : Type} (fields : List (Field JsonReader σ)) (s : σ × List String)
    (name : String) : JsonReader (σ × List String) := do
  match fields.find? fun f => f.name = name with
  | none =>
    colon
    skipValue (← left)
    return s
  | some f =>
    if s.2.contains name then
      closeObject
      mismatch (.duplicate name)
    colon
    let v ← f.read s.1
    return (v, name :: s.2)

/-- Read the values of the fields of a record from a list; `count` have been read. -/
def recordItems {σ : Type} (expected : String) :
    List (Field JsonReader σ) → Nat → σ → JsonReader σ
  | [], _, s => do
    closeList
    return s
  | f :: fs, count, s => do
    if ← hasItem (count = 0) then
      recordItems expected fs (count + 1) (← f.read s)
    else if f.required then
      closeList
      mismatch (.length count expected)
    else recordItems expected fs count s

/-- Read a record. -/
def record {σ : Type} (name : String) (fields : List (Field JsonReader σ)) (s : σ) :
    JsonReader σ := do
  match ← ahead with
  | '[' =>
    advance 1
    recordItems (elementsText name fields.length) fields 0 s
  | '\x7b' =>
    let n ← left
    advance 1
    let (s, seen) ← members (recordMember fields) n true (s, [])
    match fields.find? fun f => f.required && !seen.contains f.name with
    | some f => mismatch (.missing f.name)
    | none => return s
  | _ => unexpected s!"struct {name}"

end JsonReader

namespace Json

/-! ## From a value -/

/-- Values that have the shape asked for, or how one has not. -/
abbrev Typed := Except Mismatch

/-- A value that is a text. -/
def text? : Json → Typed String
  | .text s => .ok s
  | v => .error (.type v.surprise "a string")

/-- A value that is a text or null. -/
def optionalText? : Json → Typed (Option String)
  | .null => .ok none
  | v => v.text?.map some

/-- A value that is a list of values of one shape. -/
def list? {α : Type} (item : Json → Typed α) : Json → Typed (List α)
  | .array vs => vs.mapM item
  | v => .error (.type v.surprise "a sequence")

/-- Fields whose values are read from other values. -/
abbrev ValueField (σ : Type) := Field (ReaderT Json Typed) σ

/-- Read the members of a record. With the record come the names of the fields read. -/
def recordMembers {σ : Type} (fields : List (ValueField σ)) :
    List (String × Json) → σ → List String → Typed (σ × List String)
  | [], s, seen => .ok (s, seen)
  | (name, v) :: ms, s, seen =>
    match fields.find? fun f => f.name = name with
    | none => recordMembers fields ms s seen
    | some f => do recordMembers fields ms (← f.read s v) (name :: seen)

/-- Read the values of the fields of a record from a list; `count` have been read. -/
def recordItems {σ : Type} (expected : String) :
    List (ValueField σ) → Nat → List Json → σ → Typed σ
  | [], _, [], s => .ok s
  | [], count, rest, _ => .error (.length (count + rest.length) "fewer elements in array")
  | f :: fs, count, v :: vs, s => do recordItems expected fs (count + 1) vs (← f.read s v)
  | f :: fs, count, [], s =>
    if f.required then .error (.length count expected)
    else recordItems expected fs count [] s

/-- A value that is a record. -/
def record? {σ : Type} (name : String) (fields : List (ValueField σ)) (s : σ) : Json → Typed σ
  | .array vs => recordItems (elementsText name fields.length) fields 0 vs s
  | .object ms => do
    let (s, seen) ← recordMembers fields ms s []
    match fields.find? fun f => f.required && !seen.contains f.name with
    | some f => .error (.missing f.name)
    | none => .ok s
  | v => .error (.type v.surprise s!"struct {name}")

end Json

end EnvAudit
