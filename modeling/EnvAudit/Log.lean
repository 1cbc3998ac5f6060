import EnvAudit.Event
import EnvAudit.Text.Blank
import EnvAudit.Text.Named

/-!
# EnvAudit.Log

The log: which notes are shown, and the line for a note.

A filter is a list of rules, written one behind the other with commas between them:

1. a rule is a level, or it is for the parts of the program whose names start with a text, up to a
   level, as in `scan=debug`; without a level all is shown;
2. brackets make a rule narrower: `[{name}]` is for notes that have a field of that name, and a
   name without braces, or a field with a value, for notes made within an activity. No note is;
3. of the rules for a note the one with the longest text counts, then one with a field, and of rules
   that are alike the last one. Notes without a rule are not shown.
-/

namespace EnvAudit

/-- A rule of a filter. -/
structure LogRule where
  /-- How the names of the parts start. -/
  area : String := ""
  /-- The field that a note must have. -/
  field? : Option String := none
  /-- Whether the rule is for notes made within an activity. -/
  withinActivity : Bool := false
  /-- How many levels are shown. -/
  levels : Nat
deriving Repr, DecidableEq, Inhabited

/-- Why a text is no rule. -/
inductive LogRuleFault
  | malformed
  | levelUnknown
deriving Repr, DecidableEq, Inhabited

/-- What is wrong with a rule. -/
def LogRuleFault.message : LogRuleFault → String
  | .malformed => "invalid filter directive"
  | .levelUnknown =>
    "error parsing level filter: expected one of \"off\", \"error\", \"warn\", \"info\", " ++
      "\"debug\", \"trace\", or a number 0-5"

/-- Which notes are shown. -/
structure LogFilter where
  rules : List LogRule
deriving Repr, DecidableEq, Inhabited

namespace LogRule

/-- Whether a rule is for a note. -/
def isFor (r : LogRule) (e : Event) : Bool :=
  !r.withinActivity && r.area.toList.isPrefixOf e.area.toList &&
    r.field?.all fun name => name = "message" || e.fields.any (·.1 = name)

/-- Whether a rule counts more than another. -/
def outweighs (a b : LogRule) : Bool :=
  if a.area.length = b.area.length then
    match a.field?, b.field? with
    | some x, some y => y < x
    | x, y => x.isSome && y.isNone
  else b.area.length < a.area.length

end LogRule

namespace LogFilter

/-- The filter used unless another is asked for. -/
def ofDebug (debug : Bool) : LogFilter :=
  ⟨[⟨"envcheck", none, false, (if debug then Level.debug else Level.warn).rank⟩]⟩

/-- The rule of two that counts, the second if they are alike. -/
def closer (a b : LogRule) : LogRule := if a.outweighs b then a else b

/-- The rule that counts for a note. -/
def ruleFor? (f : LogFilter) (e : Event) : Option LogRule :=
  match f.rules.filter (·.isFor e) with
  | [] => none
  | r :: rs => some (rs.foldl closer r)

/-- Whether a note is shown. -/
def shows (f : LogFilter) (e : Event) : Bool :=
  (f.ruleFor? e).any fun r => e.level.rank ≤ r.levels

end LogFilter

namespace LogRule

/-! ## Written rules -/

/-- The words for how many levels are shown. -/
def levelWords : List (String × Nat) :=
  [("off", 0), ("error", 1), ("warn", 2), ("info", 3), ("debug", 4), ("trace", 5)]

/-- How many levels are asked for by a word or a number. -/
def levels? (word : List Char) : Option Nat :=
  let digits := match word with
    | '+' :: rest => rest
    | cs => cs
  if digits != [] && digits.all (·.isDigit) then
    let n := digits.foldl (fun n d => 10 * n + (d.toNat - '0'.toNat)) 0
    if n ≤ 5 then some n else none
  else levelWords.lookup (String.ofList (word.map Char.toLower))

/-- A rule with the level that a text gives. Without a text all levels are shown. -/
def withLevel (r : LogRule) (text : List Char) : Except LogRuleFault LogRule :=
  match text with
  | [] => .ok r
  | _ => match levels? text with
    | some n => .ok { r with levels := n }
    | none => .error .levelUnknown

/-- Whether a rule can start with the character. -/
def isStart (c : Char) : Bool :=
  c = '-' || c = ':' || c = '_' || Property.alphabetic.contains c || CharSet.numeric.contains c

/-- Read what stands behind the `[` of a rule: the end of the brackets and maybe a level. -/
def readBrackets (r : LogRule) (text : List Char) : Except LogRuleFault LogRule :=
  let isOpen := fun c : Char => c != ']' && c != '\x7b'
  let named := { r with withinActivity := !(text.takeWhile isOpen).isEmpty }
  let levelBehind := fun (r : LogRule) (rest : List Char) => match rest with
    | [] => .ok r
    | '=' :: level => r.withLevel level
    | _ => .error .malformed
  match text.dropWhile isOpen with
  | ']' :: rest => levelBehind { r with withinActivity := true } rest
  | '\x7b' :: inner =>
    let field := inner.takeWhile (· != '\x7d')
    match inner.dropWhile (· != '\x7d') with
    | '\x7d' :: ']' :: rest =>
      if field.contains '=' then levelBehind { r with withinActivity := true } rest
      else levelBehind { named with field? := some (.ofList field) } rest
    | _ => .error .malformed
  | _ => .error .malformed

/-- Read a rule. The length of the text before `=` is told without the white space around the rule,
so that white space in front of a rule makes its level unreadable. -/
def read (text : List Char) : Except LogRuleFault LogRule :=
  let rule : LogRule := { levels := Level.trace.rank }
  let shown := trim text
  match shown with
  | [] => .error .malformed
  | '[' :: rest => rule.readBrackets rest
  | c :: _ =>
    if isStart c then
      let n := (shown.takeWhile fun c => c != '=' && c != '[').length
      match shown.drop n with
      | [] =>
        match levels? text with
        | some levels => .ok { rule with levels }
        | none => .ok { rule with area := .ofList text }
      | '[' :: rest => { rule with area := .ofList (text.take n) }.readBrackets rest
      | _ => { rule with area := .ofList (text.take n) }.withLevel (text.drop (n + 1))
    else .error .malformed

end LogRule

/-- Read rules set apart by commas; also the texts that are no rules, with what is wrong with
them. -/
def LogFilter.read (text : String) : LogFilter × List (String × LogRuleFault) :=
  let texts := (splitOnChar ',' text.toList).filter (!·.isEmpty)
  let rules := texts.filterMap fun t => (LogRule.read t).toOption
  let refused := texts.filterMap fun t =>
    match LogRule.read t with
    | .ok _ => none
    | .error e => some (String.ofList t, e)
  (⟨if rules.isEmpty then [{ levels := Level.error.rank }] else rules⟩, refused)

namespace Event

/-- The line for a note that was made at a time. -/
def line (e : Event) (time : String) : String :=
  let level := e.level.name
  let fields := e.fields.map fun f => " " ++ f.1 ++ "=" ++ f.2.logged
  time ++ " " ++ "".pushn ' ' (5 - level.length) ++ level ++ " " ++ e.message ++
    String.join fields ++ "\n"

end Event

end EnvAudit
