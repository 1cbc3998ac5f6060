import EnvAudit.Decimal.Shortest

/-!
# EnvAudit.Json.Basic

JSON values. The members of an object keep the order in which their names first came; a name that
comes again gives its member a new value at the old place. Whole numbers that fit in 64 bits, with
or without a sign, are kept exactly and all others as binary numbers.
-/

namespace EnvAudit

/-- A JSON number. -/
inductive JsonNumber
  | whole (n : Int)
  | float (x : Binary64)
deriving Repr, DecidableEq, Inhabited

/-- A JSON value. -/
inductive Json
  | null
  | bool (b : Bool)
  | number (n : JsonNumber)
  | text (s : String)
  | array (items : List Json)
  | object (members : List (String × Json))
deriving Repr, Inhabited

namespace Json

/-- Give a member of an object a value. -/
def putMember (members : List (String × Json)) (name : String) (value : Json) :
    List (String × Json) :=
  match members with
  | [] => [(name, value)]
  | m :: rest => if m.1 = name then (name, value) :: rest else m :: putMember rest name value

/-- The value of a member of an object. -/
def member? (v : Json) (name : String) : Option Json :=
  match v with
  | .object members => (members.find? fun m => m.1 = name).map Prod.snd
  | _ => none

end Json

end EnvAudit
