import EnvAudit.Json.Printer

/-!
# EnvAudit.Report

The reports of a check and of a scan. Parts of a report are set off by colours, if the terminal
shows them.
-/

namespace EnvAudit

/-- How a part of a report is set off. -/
inductive Style
  | green
  | red
  | bold
  | boldGreen
  | boldRed
deriving Repr, DecidableEq, Inhabited

/-- The codes that switch a style on. -/
def Style.codes : Style → String
  | .green => "32"
  | .red => "31"
  | .bold => "1"
  | .boldGreen => "1;32"
  | .boldRed => "1;31"

/-- The code that ends a style. -/
def Style.reset : String := "\x1b[0m"

/-- A text set off in a style, if colours are shown. Where the text ends a style of its own, the
style begins anew. -/
def Style.paint (style : Style) (color : Bool) (text : String) : String :=
  if color then
    let start := "\x1b[" ++ style.codes ++ "m"
    start ++ text.replace reset (reset ++ start) ++ reset
  else text

namespace Report

/-- The mark of a success. -/
def successMark : String := "✓"

/-- The mark of a failure. -/
def failureMark : String := "✘"

/-- The one or the other, as fits a number. -/
def plural (count : Nat) (one many : String) : String := if count = 1 then one else many

/-- A line that reports a success. -/
def done (color : Bool) (text : String) : String :=
  Style.green.paint color successMark ++ " " ++ Style.green.paint color text ++ "\n"

/-- The report that every variable is declared. -/
def success (color : Bool) (names files : Nat) : String :=
  let counted := s!"Checked {files} source " ++ plural files "file" "files"
  let all := s!"all {names} environment " ++ plural names "variable is" "variables are"
  done color (counted ++ " - " ++ all ++ " declared")

/-- The line that names a variable that is not declared. -/
def undeclared (color : Bool) (name : String) : String :=
  Style.boldRed.paint color "error" ++ ": environment variable \"" ++ name ++
    "\" is not declared\n"

/-- The line that says where to declare variables. -/
def advice (color : Bool) (count : Nat) (declaredIn : String) : String :=
  Style.red.paint color failureMark ++ " Add the missing " ++
    plural count "variable" "variables" ++ " to " ++ Style.bold.paint color declaredIn ++
    " to continue\n"

/-- The report of the variables that are not declared. -/
def missing (color : Bool) (names : List String) (declaredIn : String) : String :=
  if names.isEmpty then ""
  else
    String.join (names.map (undeclared color)) ++ "\n" ++ advice color names.length declaredIn

/-- The names of variables, one on each line or as a JSON array. -/
def listing (json : Bool) (names : List String) : String :=
  if json then Json.listLines names ++ "\n" else String.join (names.map (· ++ "\n"))

end Report

end EnvAudit
