import EnvAudit.Json.Input

/-!
# EnvAudit.Json.Reader

Reading JSON texts as values:

1. `items` and `members` read what stands between brackets and braces, one entry at a time;
2. lists and objects may be nested to a limited depth only;
3. `Json.read?` reads a text that holds one value and nothing else.
-/

namespace EnvAudit

namespace JsonReader

/-! ## Lists and objects -/

/-- Whether another item of a list comes, and go past the comma before it. -/
def hasItem (first : Bool) : JsonReader Bool := do
  match ← next with
  | none => refuse .endInList
  | some ']' => return false
  | some c =>
    if first then return true
    if c != ',' then refuseBehind .listCommaOrEnd
    advance 1
    match ← next with
    | some ']' => refuseBehind .trailingComma
    | some _ => return true
    | none => refuse .endInValue

/-- Go past the end of a list. -/
def closeList : JsonReader Unit := do
  match ← next with
  | some ']' => advance 1
  | some ',' =>
    advance 1
    match ← next with
    | some ']' => refuseBehind .trailingComma
    | _ => refuseBehind .trailingCharacters
  | some _ => refuseBehind .trailingCharacters
  | none => refuse .endInList

/-- Read the items of a list and its closing bracket, in at most `n` steps. -/
def items {α : Type} (item : JsonReader α) : Nat → Bool → JsonReader (List α)
  | 0, _ => refuse .endInList
  | n + 1, first => do
    if ← hasItem first then
      let v ← item
      return v :: (← items item n false)
    closeList
    return []

/-- Whether another member of an object comes, and go past the comma before it. -/
def hasMember (first : Bool) : JsonReader Bool := do
  match ← next with
  | none => refuse .endInObject
  | some '\x7d' => return false
  | some c =>
    if first then
      if c != '"' then refuseBehind .keyNotString
      return true
    if c != ',' then refuseBehind .objectCommaOrEnd
    advance 1
    match ← next with
    | some '"' => return true
    | some '\x7d' => refuseBehind .trailingComma
    | some _ => refuseBehind .keyNotString
    | none => refuse .endInValue

/-- Go past the end of an object, if it comes. -/
def closeObject : JsonReader Unit := do
  if (← next) = some '\x7d' then advance 1

/-- Go past the colon between the name of a member and its value. -/
def colon : JsonReader Unit := do
  match ← next with
  | some ':' => advance 1
  | some _ => refuseBehind .colonExpected
  | none => refuse .endInObject

/-- Read the members of an object and its closing brace, in at most `n` steps. `member` is given
what it made of the members before and the name, and reads the colon and the value. -/
def members {σ : Type} (member : σ → String → JsonReader σ) : Nat → Bool → σ → JsonReader σ
  | 0, _, _ => refuse .endInObject
  | n + 1, first, s => do
    if ← hasMember first then
      let name ← quoted
      let s ← member s name
      members member n false s
    else
      closeObject
      return s

/-! ## Values -/

/-- How deep lists and objects may be nested. -/
def maxDepth : Nat := 127

/-- Read a value within which lists and objects may be nested to some depth. -/
def value (depth : Nat) : JsonReader Json := do
  match ← next with
  | none => refuse .endInValue
  | some 'n' => advance 1; word "ull".toList; return .null
  | some 't' => advance 1; word "rue".toList; return .bool true
  | some 'f' => advance 1; word "alse".toList; return .bool false
  | some '"' => return .text (← quoted)
  | some '[' =>
    match depth with
    | 0 => refuseBehind .nestedTooDeeply
    | depth + 1 =>
      let n ← left
      advance 1
      return .array (← items (value depth) n true)
  | some '\x7b' =>
    match depth with
    | 0 => refuseBehind .nestedTooDeeply
    | depth + 1 =>
      let n ← left
      advance 1
      let member := fun (ms : List (String × Json)) name => do
        colon
        let v ← value depth
        return Json.putMember ms name v
      return .object (← members member n true [])
  | some c =>
    if c = '-' || c.isDigit then return .number (← number)
    refuseBehind .valueExpected

/-- Refuse anything that is left but blanks. -/
def finish : JsonReader Unit := do
  if (← next).isSome then refuseBehind .trailingCharacters

/-- Read a whole text. -/
def whole? {α : Type} (r : JsonReader α) (text : String) : Except JsonError α :=
  (do
    let v ← r
    finish
    return v : JsonReader α).run' (.start text)

end JsonReader

/-- Read a text that holds one value. -/
def Json.read? (text : String) : Except JsonError Json :=
  (JsonReader.value JsonReader.maxDepth).whole? text

end EnvAudit
