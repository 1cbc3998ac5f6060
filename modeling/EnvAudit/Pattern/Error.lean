/-!
# EnvAudit.Pattern.Error

Why a text is no pattern. All causes but one lie in how the pattern is written and are reported in
one form; a pattern can also be written well and be too large.
-/

namespace EnvAudit

/-- Why a text is no pattern. -/
inductive PatternError
  | groupUnclosed
  | groupUnopened
  | groupNameEmpty
  | groupNameInvalid
  | groupNameUnclosed
  | groupNameTwice
  | lookAround
  | flagUnknown
  | flagTwice
  | flagNegationTwice
  | flagNegationLast
  | flagsUnclosed
  | nothingToRepeat
  | countUnclosed
  | countEmpty
  | countTooLarge
  | countOutOfOrder
  | backreference
  | escapeUnfinished
  | escapeUnknown
  | hexDigitInvalid
  | hexEmpty
  | hexNoCharacter
  | propertyNameInvalid
  | propertyUnknown
  | classUnclosed
  | classRangeOutOfOrder
  | classRangeEndInvalid
  | classEscapeInvalid
  | wordEdgeUnclosed
  | wordEdgeUnknown
  | nestedTooDeeply
  | notText
  | unicodeNeeded
  | tooLarge
deriving Repr, DecidableEq, Inhabited

/-- The largest size of a pattern in bytes. -/
def PatternError.sizeLimit : Nat := 10485760

/-- What is wrong with the pattern. -/
def PatternError.cause : PatternError → String
  | .groupUnclosed => "unclosed group"
  | .groupUnopened => "unopened group"
  | .groupNameEmpty => "empty capture group name"
  | .groupNameInvalid => "invalid capture group character"
  | .groupNameUnclosed => "unclosed capture group name"
  | .groupNameTwice => "duplicate capture group name"
  | .lookAround =>
    "look-around, including look-ahead and look-behind, is not supported"
  | .flagUnknown => "unrecognized flag"
  | .flagTwice => "duplicate flag"
  | .flagNegationTwice => "flag negation operator repeated"
  | .flagNegationLast => "dangling flag negation operator"
  | .flagsUnclosed => "expected flag but got end of regex"
  | .nothingToRepeat => "repetition operator missing expression"
  | .countUnclosed => "unclosed counted repetition"
  | .countEmpty => "repetition quantifier expects a valid decimal"
  | .countTooLarge => "decimal literal invalid"
  | .countOutOfOrder =>
    "invalid repetition count range, the start must be <= the end"
  | .backreference => "backreferences are not supported"
  | .escapeUnfinished => "incomplete escape sequence, reached end of pattern prematurely"
  | .escapeUnknown => "unrecognized escape sequence"
  | .hexDigitInvalid => "invalid hexadecimal digit"
  | .hexEmpty => "hexadecimal literal empty"
  | .hexNoCharacter => "hexadecimal literal is not a Unicode scalar value"
  | .propertyNameInvalid => "invalid Unicode character class"
  | .propertyUnknown => "Unicode property not found"
  | .classUnclosed => "unclosed character class"
  | .classRangeOutOfOrder =>
    "invalid character class range, the start must be <= the end"
  | .classRangeEndInvalid =>
    "invalid range boundary, must be a literal"
  | .classEscapeInvalid =>
    "invalid escape sequence found in character class"
  | .wordEdgeUnclosed =>
    "special word boundary assertion is unclosed or has an invalid character"
  | .wordEdgeUnknown => "unrecognized special word boundary assertion"
  | .nestedTooDeeply => "exceed the maximum number of nested parentheses/brackets (250)"
  | .notText => "pattern can match invalid UTF-8"
  | .unicodeNeeded => "Unicode not allowed here"
  | .tooLarge => s!"Compiled regex exceeds size limit of {sizeLimit} bytes."

/-- The report of a text that is no pattern. -/
def PatternError.message : PatternError → String
  | .tooLarge => PatternError.tooLarge.cause
  | e => "regex parse error:\nerror: " ++ e.cause

end EnvAudit
