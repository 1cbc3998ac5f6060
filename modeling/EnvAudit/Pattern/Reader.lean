import EnvAudit.Pattern.Error
import EnvAudit.Pattern.Form
import EnvAudit.Text.Blank
import EnvAudit.Text.Named

/-!
# EnvAudit.Pattern.Reader

Reading a written pattern:

1. outside brackets `\ . + * ? ( ) | [ ] { } ^ $` have a meaning of their own, and a `\` takes it
   from them and from other signs, but gives one to letters;
2. between brackets stand characters, ranges, escapes and further bracketed sets; `&&`, `--` and
   `~~` combine what stands before and behind them, from left to right;
3. under the flag `x` white space and comments from `#` to the end of the line are skipped;
4. look-around and references to groups are refused.

The readers of nested parts take the number of steps they may use; a text of `n` characters needs
no more than `Form.read?` gives them.
-/

namespace EnvAudit

namespace PatternReader

/-- Where the reader of a pattern stands. -/
structure State where
  /-- The characters left. -/
  rest : List Char
  /-- Whether white space and comments are skipped. -/
  spaced : Bool := false
  /-- The number of the last group opened. -/
  lastGroup : Nat := 0
  /-- The names of groups. -/
  names : List (List Char) := []

/-- Readers of parts of a pattern. -/
abbrev Reader := StateT State (Except PatternError)

/-! ## Single characters -/

/-- The characters left after a comment. -/
def afterComment (cs : List Char) : List Char := (cs.dropWhile (· != '\n')).drop 1

/-- The characters left after white space and comments, in at most `n` steps. -/
def afterSpace : Nat → List Char → List Char
  | 0, cs => cs
  | _, [] => []
  | n + 1, c :: cs =>
    if isBlank c then afterSpace n cs
    else if c = '#' then afterSpace n (afterComment cs)
    else c :: cs

/-- The characters left, after white space and comments if they are skipped. -/
def State.onward (s : State) : List Char :=
  if s.spaced then afterSpace s.rest.length s.rest else s.rest

/-- The next character. -/
def peek : Reader (Option Char) := do return (← get).rest.head?

/-- The character behind the next one. -/
def peekSecond : Reader (Option Char) := do return (← get).rest[1]?

/-- Skip white space and comments, if they are skipped. -/
def skipSpace : Reader Unit := modify fun s => { s with rest := s.onward }

/-- Go past some characters. -/
def advance (count : Nat) : Reader Unit := modify fun s => { s with rest := s.rest.drop count }

/-- Go past a character and any white space behind it. -/
def advanceSpace : Reader Unit := do advance 1; skipSpace

/-- Go past these characters if they come next. -/
def eat (cs : List Char) : Reader Bool := do
  let s ← get
  if cs.isPrefixOf s.rest then
    set { s with rest := s.rest.drop cs.length }
    return true
  return false

/-- The next character, or a refusal if there is none. -/
def needed (e : PatternError) : Reader Char := do
  match ← peek with
  | some c => return c
  | none => throw e

/-- Read characters as long as they satisfy a condition, with the white space behind each. -/
def takeSpaced (p : Char → Bool) : Nat → Reader (List Char)
  | 0 => return []
  | n + 1 => do
    match ← peek with
    | some c =>
      if p c then
        advanceSpace
        return c :: (← takeSpaced p n)
      return []
    | none => return []

/-- How many steps reading a run of characters may take. -/
def steps : Reader Nat := do return (← get).rest.length

/-! ## Numbers -/

/-- The largest count of a repetition. -/
def maxCount : Nat := 4294967295

/-- Read a count; `none` stands for no digits. -/
def count? : Reader (Option Nat) := do
  modify fun s => { s with rest := s.rest.dropWhile isBlank }
  let digits ← takeSpaced Char.isDigit (← steps)
  modify fun s => { s with rest := s.rest.dropWhile isBlank }
  if digits.isEmpty then return none
  let n := digits.foldl (fun n d => 10 * n + (d.toNat - 48)) 0
  if maxCount < n then throw .countTooLarge
  return some n

/-- Read a count. -/
def count : Reader Nat := do
  match ← count? with
  | some n => return n
  | none => throw .countEmpty

/-- The value of a hexadecimal digit. -/
def hexValue? (c : Char) : Option Nat := CharSet.hexDigit? c.toLower

/-- The character that hexadecimal digits stand for. -/
def hexChar (digits : List Char) : Except PatternError Char :=
  let n := digits.foldl (fun n d => 16 * n + (hexValue? d).getD 0) 0
  if n.isValidChar then .ok (Char.ofNat n) else .error .hexNoCharacter

/-- Read a given number of hexadecimal digits; the white space after each is skipped. -/
def hexDigits : Nat → Reader (List Char)
  | 0 => return []
  | n + 1 => do
    let c ← needed .escapeUnfinished
    if (hexValue? c).isNone then throw .hexDigitInvalid
    advanceSpace
    return c :: (← hexDigits n)

/-- Read what stands behind `\x`, `\u` or `\U`, where `width` digits stand without braces. -/
def hexLiteral (width : Nat) : Reader Literal := do
  advanceSpace
  if (← needed .escapeUnfinished) = '{' then
    advanceSpace
    let digits ← takeSpaced (· != '}') (← steps)
    if digits.any fun c => (hexValue? c).isNone then throw .hexDigitInvalid
    let _ ← needed .escapeUnfinished
    advanceSpace
    if digits.isEmpty then throw .hexEmpty
    return ⟨← hexChar digits, false⟩
  else
    let digits ← hexDigits width
    return ⟨← hexChar digits, width = 2⟩

/-! ## Escapes -/

/-- What an escape or a single character stands for. -/
inductive Single
  | literal (c : Literal)
  | any
  | edge (e : EdgeForm)
  | set (s : SetForm)

/-- Split a text at the first place where `sep` stands. -/
def splitAt? (sep : List Char) : List Char → Option (List Char × List Char)
  | [] => none
  | c :: cs =>
    if sep.isPrefixOf (c :: cs) then some ([], (c :: cs).drop sep.length)
    else (splitAt? sep cs).map fun (a, b) => (c :: a, b)

/-- The set that stands between the braces of `\p{...}`. -/
def propertySet (negated : Bool) (name : List Char) : SetForm :=
  let valued := fun (parts : List Char × List Char) (negated : Bool) =>
    SetForm.property (.ofList parts.1) (some (.ofList parts.2)) negated
  match splitAt? ['!', '='] name with
  | some parts => valued parts !negated
  | none =>
    match (splitAt? [':'] name).or (splitAt? ['='] name) with
    | some parts => valued parts negated
    | none => .property (.ofList name) none negated

/-- Read what stands behind `\p` or `\P`. -/
def property (negated : Bool) : Reader SetForm := do
  advanceSpace
  let c ← needed .escapeUnfinished
  if c = '{' then
    advanceSpace
    let name ← takeSpaced (· != '}') (← steps)
    let _ ← needed .escapeUnfinished
    advance 1
    return propertySet negated name
  if c = '\\' then throw .propertyNameInvalid
  advanceSpace
  return .property (.ofList [c]) none negated

/-- The characters that have a meaning of their own somewhere in a pattern. -/
def isMeta (c : Char) : Bool := "\\.+*?()|[]\x7b\x7d^$#&-~".toList.contains c

/-- Whether a `\` before a sign leaves the sign itself. -/
def isEscapable (c : Char) : Bool :=
  isMeta c || (c.toNat < 0x80 && !c.isAlphanum && c != '<' && c != '>')

/-- The character that a letter behind a `\` stands for. -/
def control? : Char → Option Char
  | 'a' => some '\x07'
  | 'f' => some '\x0c'
  | 't' => some '\t'
  | 'n' => some '\n'
  | 'r' => some '\r'
  | 'v' => some '\x0b'
  | _ => none

/-- The set that a letter behind a `\` stands for. -/
def common? : Char → Option SetForm
  | 'd' => some (.common .digit false)
  | 'D' => some (.common .digit true)
  | 's' => some (.common .blank false)
  | 'S' => some (.common .blank true)
  | 'w' => some (.common .word false)
  | 'W' => some (.common .word true)
  | _ => none

/-- The kind of word edge that a name between braces stands for. -/
def wordEdge? (name : List Char) : Option WordEdge :=
  if name = "start".toList then some .start
  else if name = "end".toList then some .stop
  else if name = "start-half".toList then some .startHalf
  else if name = "end-half".toList then some .stopHalf
  else none

/-- Read the braces that may stand behind `\b`. Braces that cannot hold a name are left alone. -/
def wordEdge : Reader WordEdge := do
  let s ← get
  if s.rest.head? != some '{' then return .either
  advanceSpace
  let isNameChar := fun (c : Char) => c.isAlpha || c = '-'
  let c ← needed .wordEdgeUnclosed
  if !isNameChar c then
    set s
    return .either
  let name ← takeSpaced isNameChar (← steps)
  if (← peek) != some '}' then throw .wordEdgeUnclosed
  advance 1
  match wordEdge? name with
  | some kind => return kind
  | none => throw .wordEdgeUnknown

/-- Read an escape. -/
def escape : Reader Single := do
  advance 1
  let c ← needed .escapeUnfinished
  if c.isDigit then throw .backreference
  if c = 'x' then return .literal (← hexLiteral 2)
  if c = 'u' then return .literal (← hexLiteral 4)
  if c = 'U' then return .literal (← hexLiteral 8)
  if c = 'p' || c = 'P' then return .set (← property (c = 'P'))
  advance 1
  if let some s := common? c then return .set s
  if isEscapable c then return .literal ⟨c, false⟩
  if let some c := control? c then return .literal ⟨c, false⟩
  match c with
  | 'A' => return .edge .textStart
  | 'z' => return .edge .textEnd
  | 'b' => return .edge (.word (← wordEdge))
  | 'B' => return .edge (.word .neither)
  | '<' => return .edge (.word .start)
  | '>' => return .edge (.word .stop)
  | _ => throw .escapeUnknown

/-! ## Sets -/

/-- The set of ASCII characters of a name. -/
def asciiSet? (name : List Char) : Option AsciiSet :=
  ([("alnum", .alnum), ("alpha", .alpha), ("ascii", .ascii), ("blank", .blank),
    ("cntrl", .cntrl), ("digit", .digit), ("graph", .graph), ("lower", .lower),
    ("print", .print), ("punct", .punct), ("space", .space), ("upper", .upper),
    ("word", .word), ("xdigit", .xdigit)] : List (String × AsciiSet)).find?
      (fun p => p.1.toList = name) |>.map Prod.snd

/-- Read `[:name:]` if it comes next. -/
def ascii? : Reader (Option SetForm) := do
  match (← get).rest with
  | '[' :: ':' :: cs =>
    let (negated, cs) := match cs with
      | '^' :: cs => (true, cs)
      | cs => (false, cs)
    let name := cs.takeWhile (· != ':')
    match asciiSet? name, cs.drop name.length with
    | some s, ':' :: ']' :: cs =>
      modify fun s => { s with rest := cs }
      return some (.ascii s negated)
    | _, _ => return none
  | _ => return none

/-- A set as an item of a bracketed set. -/
def setItem : Single → Except PatternError SetForm
  | .literal c => .ok (.one c)
  | .set s => .ok s
  | .any | .edge _ => .error .classEscapeInvalid

/-- A character as the end of a range. -/
def rangeEnd : Single → Except PatternError Literal
  | .literal c => .ok c
  | _ => .error .classRangeEndInvalid

/-- Read a character or an escape between brackets. -/
def bracketSingle : Reader Single := do
  let c ← needed .classUnclosed
  if c = '\\' then escape
  else
    advance 1
    return .literal ⟨c, false⟩

/-- The character after the next one. Where white space is skipped, the sign that starts a comment
is skipped as well. -/
def peekBehind : Reader (Option Char) := do
  let s ← get
  let behind := s.rest.drop 1
  if !s.spaced then return behind.head?
  match behind.dropWhile isBlank with
  | '#' :: cs => return (cs.dropWhile isBlank).head?
  | cs => return cs.head?

/-- Read a character, an escape or a range between brackets. -/
def bracketItem : Reader SetForm := do
  let first ← bracketSingle
  skipSpace
  let c ← needed .classUnclosed
  let behind ← peekBehind
  if c != '-' || behind = some ']' || behind = some '-' then setItem first
  else
    advanceSpace
    let second ← bracketSingle
    let lo ← rangeEnd first
    let hi ← rangeEnd second
    if hi.char < lo.char then throw .classRangeOutOfOrder
    return .range lo hi

/-- Read dashes, which stand for themselves at the start of a bracketed set. -/
def leadingDashes : Nat → Reader (List SetForm)
  | 0 => return []
  | n + 1 => do
    if (← needed .classUnclosed) = '-' then
      advanceSpace
      return .one ⟨'-', false⟩ :: (← leadingDashes n)
    return []

/-- Read the start of a bracketed set: whether it is negated, and the characters that stand for
themselves at that place only. -/
def bracketStart : Reader (Bool × List SetForm) := do
  advanceSpace
  let negated := (← needed .classUnclosed) = '^'
  if negated then advanceSpace
  let items ← leadingDashes (← steps)
  if items.isEmpty && (← needed .classUnclosed) = ']' then
    advanceSpace
    let _ ← needed .classUnclosed
    return (negated, [.one ⟨']', false⟩])
  let _ ← needed .classUnclosed
  return (negated, items)

/-- The union of the items read, given in reverse. -/
def unionOf : List SetForm → SetForm
  | [item] => item
  | items => .all items.reverse

/-- An operation whose second set is still being read. -/
abbrev Pending := Option (SetOp × SetForm)

/-- The set read so far. -/
def combined (pending : Pending) (items : List SetForm) : SetForm :=
  match pending with
  | none => unionOf items
  | some (kind, first) => .op kind first (unionOf items)

/-- The operation that two equal signs stand for. -/
def setOp? : Char → Option SetOp
  | '&' => some .inter
  | '-' => some .diff
  | '~' => some .symmDiff
  | _ => none

/-- Read the rest of a bracketed set, up to its closing bracket. -/
def bracketBody : Nat → List SetForm → Pending → Reader SetForm
  | 0, _, _ => throw .classUnclosed
  | n + 1, items, pending => do
    skipSpace
    let c ← needed .classUnclosed
    if c = ']' then
      advance 1
      return combined pending items
    if c = '[' then
      match ← ascii? with
      | some item => bracketBody n (item :: items) pending
      | none =>
        let (negated, inner) ← bracketStart
        let body ← bracketBody n inner none
        bracketBody n (.bracket negated body :: items) pending
    else
      match setOp? c, decide ((← peekSecond) = some c) with
      | some kind, true =>
        advance 2
        bracketBody n [] (some (kind, combined pending items))
      | _, _ =>
        let item ← bracketItem
        bracketBody n (item :: items) pending

/-- Read a bracketed set. -/
def bracket : Reader SetForm := do
  let (negated, items) ← bracketStart
  let body ← bracketBody (← steps) items none
  return .bracket negated body

/-! ## Groups and flags -/

/-- The flag of a letter. -/
def flag? : Char → Option Flag
  | 'i' => some .caseless
  | 'm' => some .multiLine
  | 's' => some .dotAll
  | 'U' => some .swapGreed
  | 'u' => some .unicode
  | 'R' => some .crlf
  | 'x' => some .spaced
  | _ => none

/-- Read flags up to a `:` or `)`. `negated` says whether a `-` has been read, and `dangling`
whether it was the last character. -/
def flagChanges : Nat → Bool → Bool → FlagChanges → Reader FlagChanges
  | 0, _, _, _ => throw .flagsUnclosed
  | n + 1, negated, dangling, changes => do
    let c ← needed .flagsUnclosed
    if c = ':' || c = ')' then
      if dangling then throw .flagNegationLast
      return changes.reverse
    if c = '-' then
      if negated then throw .flagNegationTwice
      advance 1
      flagChanges n true true changes
    else
      match flag? c with
      | none => throw .flagUnknown
      | some f =>
        if changes.any fun change => change.1 = f then throw .flagTwice
        advance 1
        flagChanges n negated false ((f, !negated) :: changes)

/-- Whether flags switch skipping of white space on or off. -/
def spacedChange? (changes : FlagChanges) : Option Bool :=
  (changes.find? fun c => c.1 = .spaced).map Prod.snd

/-- Whether a character can be part of the name of a group. -/
def isNameChar (first : Bool) (c : Char) : Bool :=
  c = '_' || Property.alphabetic.contains c ||
    (!first && (c = '.' || c = '[' || c = ']' || CharSet.numeric.contains c))

/-- Read the name of a group, and the `>` behind it. -/
def groupName : Reader Unit := do
  let s ← get
  let name := s.rest.takeWhile (· != '>')
  match name, s.rest.drop name.length with
  | [], [] => throw .groupNameUnclosed
  | [], _ => throw .groupNameEmpty
  | c :: cs, after =>
    if !(isNameChar true c && cs.all (isNameChar false)) then throw .groupNameInvalid
    if after.isEmpty then throw .groupNameUnclosed
    if s.names.contains name then throw .groupNameTwice
    set { s with rest := after.drop 1, names := name :: s.names }

/-- The number of a group that is opened. -/
def nextGroup : Reader Nat := do
  let n := (← get).lastGroup + 1
  modify fun s => { s with lastGroup := n }
  return n

/-- What an opening parenthesis begins. -/
inductive Opening
  | flags (changes : FlagChanges)
  | group (index : Option Nat) (changes : FlagChanges)

/-- Read an opening parenthesis and what belongs to it. -/
def opening : Reader Opening := do
  advanceSpace
  if (← eat "?=".toList) || (← eat "?!".toList) || (← eat "?<=".toList) || (← eat "?<!".toList) then
    throw .lookAround
  if (← eat "?P<".toList) || (← eat "?<".toList) then
    let n ← nextGroup
    groupName
    return .group (some n) []
  if ← eat ['?'] then
    let _ ← needed .groupUnclosed
    let changes ← flagChanges (← steps) false false []
    let c ← needed .flagsUnclosed
    advance 1
    if c = ')' then
      if changes.isEmpty then throw .nothingToRepeat
      return .flags changes
    return .group none changes
  return .group (some (← nextGroup)) []

/-! ## Patterns -/

/-- The parts of a sequence that end with something that can be repeated. -/
def repeatable : List Form → Except PatternError (Form × List Form)
  | [] | .empty :: _ | .flags _ :: _ => .error .nothingToRepeat
  | p :: ps => .ok (p, ps)

/-- Go past a `?`, which makes the repetition before it lazy. -/
def isGreedy : Reader Bool := do return !(← eat ['?'])

/-- Read the braces of a counted repetition. -/
def counts : Reader (Nat × Option Nat) := do
  advanceSpace
  let _ ← needed .countUnclosed
  let least ← count?
  let c ← needed .countUnclosed
  let range ← do
    if c = ',' then
      advanceSpace
      match ← needed .countUnclosed, least with
      | _, none => throw .countEmpty
      | '}', some least => pure (least, none)
      | _, some least => pure (least, some (← count))
    else
      match least with
      | none => throw .countEmpty
      | some least => pure (least, some least)
  if (← peek) != some '}' then throw .countUnclosed
  advanceSpace
  return range

/-- Read an escape or a single character outside brackets. -/
def single (c : Char) : Reader Form := do
  match c with
  | '\\' =>
    match ← escape with
    | .literal c => return .literal c
    | .any => return .any
    | .edge e => return .edge e
    | .set s => return .set s
  | '.' => advance 1; return .any
  | '^' => advance 1; return .edge .lineStart
  | '$' => advance 1; return .edge .lineEnd
  | c => advance 1; return .literal ⟨c, false⟩

/-- The sequence of the parts read, given in reverse. -/
def seqOf : List Form → Form
  | [] => .empty
  | [p] => p
  | ps => .seq ps.reverse

/-- The alternative of the branches read, given in reverse. -/
def altOf : List Form → Form
  | [p] => p
  | ps => .alt ps.reverse

/-- Repeat the part before a repetition sign. -/
def repeated (parts : List Form) (least : Nat) (most : Option Nat) : Reader (List Form) := do
  let (body, before) ← repeatable parts
  let greedy ← isGreedy
  if most.any (· < least) then throw .countOutOfOrder
  return .rep least most greedy body :: before

/-- Read a pattern up to a closing parenthesis or the end. The branches and the parts of the last
branch read so far are given in reverse. -/
def pattern : Nat → List Form → List Form → Reader Form
  | 0, _, _ => throw .groupUnclosed
  | n + 1, branches, parts => do
    skipSpace
    match ← peek with
    | none | some ')' => return altOf (seqOf parts :: branches)
    | some '|' =>
      advance 1
      pattern n (seqOf parts :: branches) []
    | some '(' =>
      match ← opening with
      | .flags changes =>
        if let some spaced := spacedChange? changes then
          modify fun s => { s with spaced := spaced }
        pattern n branches (.flags changes :: parts)
      | .group index changes =>
        let outer := (← get).spaced
        modify fun s => { s with spaced := (spacedChange? changes).getD outer }
        let body ← pattern n [] []
        if (← peek) != some ')' then throw .groupUnclosed
        advance 1
        modify fun s => { s with spaced := outer }
        pattern n branches (.group index changes body :: parts)
    | some '[' =>
      let s ← bracket
      pattern n branches (.set s :: parts)
    | some '?' => advance 1; pattern n branches (← repeated parts 0 (some 1))
    | some '*' => advance 1; pattern n branches (← repeated parts 0 none)
    | some '+' => advance 1; pattern n branches (← repeated parts 1 none)
    | some '{' =>
      let _ ← repeatable parts
      let (least, most) ← counts
      pattern n branches (← repeated parts least most)
    | some c =>
      let p ← single c
      pattern n branches (p :: parts)

end PatternReader

/-- Read a written pattern. -/
def Form.read? (text : List Char) : Except PatternError Form := do
  let steps := 2 * text.length + 2
  let (form, s) ← (PatternReader.pattern steps [] []).run ⟨text, false, 0, []⟩
  if !s.rest.isEmpty then throw .groupUnopened
  if Form.maxDepth < form.depth then throw .nestedTooDeeply
  return form

end EnvAudit
