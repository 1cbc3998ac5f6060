import EnvAudit.Text.Category
import EnvAudit.Text.Property
import EnvAudit.Text.Script

/-!
# EnvAudit.Text.Named

Sets of characters by name. A name may be that of a property, a general category or a script; it is
read without regard to case, blanks, `_`, `-` and a leading `is`. A property with a value, as in
`Script=Greek`, can be the general category, the script, or the scripts a character is used with.
-/

namespace EnvAudit.CharSet

/-- A name in lower case, without separators, characters outside ASCII, and a leading `is`. The
name `isc` keeps its start, since without it it would name another set. -/
def plainName (name : String) : String :=
  let plain := fun (cs : List Char) =>
    (cs.filter fun c => c.toNat < 0x80 && c != ' ' && c != '_' && c != '-').map Char.toLower
  let cs := name.toList
  if (cs.take 2).map Char.toLower = ['i', 's'] then
    let rest := plain (cs.drop 2)
    if rest = ['c'] then "isc" else .ofList rest
  else .ofList (plain cs)

/-- The characters that a property, category or script of that name has. -/
def named? (name : String) : Option CharSet :=
  let name := plainName name
  (Property.find? name).or ((Category.find? name).or (Script.find? name))

/-- The characters for which a property has a value. -/
def valued? (property value : String) : Option CharSet :=
  let property := plainName property
  let value := plainName value
  if property = "gc" ∨ property = "generalcategory" then Category.find? value
  else if property = "sc" ∨ property = "script" then Script.find? value
  else if property = "scx" ∨ property = "scriptextensions" then Script.findExtended? value
  else none

/-- The numeric characters: digits, numerals and fractions of any script. -/
def numeric : CharSet := Category.setOf ["nd", "nl", "no"]

end EnvAudit.CharSet
