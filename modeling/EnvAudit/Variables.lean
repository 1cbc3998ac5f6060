import Std.Data.TreeMap

/-!
# EnvAudit.Variables

Declared variables: each name has one value, and the names are kept in ascending order of code
points. Of several values for one name the last counts.
-/

namespace EnvAudit

/-- The value of each declared name. -/
abbrev Variables := Std.TreeMap String String compare

namespace Variables

/-- The variables declared by a list of names with values; of several for one name the last
counts. -/
def ofPairs (pairs : List (String × String)) : Variables :=
  pairs.foldl (fun vars p => vars.insert p.1 p.2) ∅

/-- Whether a name is declared, with whatever value. -/
def declares (vars : Variables) (name : String) : Bool := vars.contains name

end Variables

end EnvAudit
