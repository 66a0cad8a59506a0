import PredicateIndex.Decimal.Numeral
import PredicateIndex.Text.Printable

/-!
# What is wrong with an expression

A text that is no expression has one reason, which is the first that reading it from left to right
comes upon.
-/
namespace PredicateIndex.Literal

/-- Why a text is no expression. -/
inductive Reason where
  /-- It does not follow the grammar. -/
  | unreadable
  /-- Two expressions stand side by side in a list. -/
  | missingComma
  /-- A call without parentheses. -/
  | missingParentheses (name : String)
  /-- A condition has no alternative. -/
  | missingElse
  /-- A key has a starred value. -/
  | starredValue
  /-- An argument of a call is set that has no name. -/
  | namelessArgument
  /-- An argument of a call is set that has the name of a value. -/
  | valueArgument (word : String)
  /-- An argument without a name follows one with a name, or several that are unpacked. -/
  | lateArgument (isUnpacked : Bool)
  /-- A comprehension stands among arguments. -/
  | bareComprehension
  /-- A key has no value. -/
  | missingValue
  /-- A key has no colon. -/
  | missingColon
  /-- A name stands before an equals sign. -/
  | assignment
  /-- Something of a kind stands before an equals sign. -/
  | assignmentTo (kind : String)
  /-- Something of a kind stands before a colon and an equals sign. -/
  | naming (kind : String)
  /-- A star stands in a group. -/
  | starred
  /-- A star stands before nothing. -/
  | bareStar
  /-- Two stars stand in a group. -/
  | doubleStarred
  /-- A parenthesis on a line is not closed. -/
  | neverClosed (opening : Char) (line : Nat)
  /-- A parenthesis is not opened. -/
  | unmatched (closing : Char)
  /-- A parenthesis closes another one, which may be on a line before. -/
  | mismatched (closing opening : Char) (line : Option Nat)
  /-- There are too many open parentheses. -/
  | tooNested
  /-- A quoted text has no end. -/
  | unterminated (isTriple : Bool) (line : Nat)
  /-- Two quoted texts of different kinds stand side by side. -/
  | mixed
  /-- A quoted text of bytes has other characters. -/
  | notBytes
  /-- An escape in a quoted text is wrong, between two positions. -/
  | badEscape (start stop : Nat) (complaint : String)
  /-- An escape in a quoted text of bytes is wrong. -/
  | badByte (position : Nat)
  /-- A field in a quoted text is wrong. -/
  | badField (complaint : String)
  /-- A number of a kind is wrongly written. -/
  | badNumber (kind : String)
  /-- An integer has more digits than the limit. -/
  | oversized (digits : Nat)
  /-- A digit is none of a kind of number. -/
  | badDigit (digit : Char) (kind : String)
  /-- A number starts with zeros. -/
  | leadingZeros
  /-- A character is none of an expression. -/
  | badCharacter (point : Nat)
  /-- A backslash is not at the end of a line. -/
  | strayBackslash
  /-- A line after the first is indented. -/
  | indented
  deriving DecidableEq, Repr

/-- The number of a code point in at least four hexadecimal digits. -/
def shownPoint (n : Nat) : String :=
  let digits := (Nat.toDigits 16 n).map Char.toUpper
  String.ofList (List.replicate (4 - digits.length) '0' ++ digits)

/-- The words of a reason. -/
def Reason.message : Reason → String
  | .unreadable => "invalid syntax"
  | .missingComma => "invalid syntax. Perhaps you forgot a comma?"
  | .missingParentheses name =>
    s!"Missing parentheses in call to '{name}'. Did you mean {name}(...)?"
  | .missingElse => "expected 'else' after 'if' expression"
  | .missingValue => "expression expected after dictionary key and ':'"
  | .missingColon => "':' expected after dictionary key"
  | .assignment => "invalid syntax. Maybe you meant '==' or ':=' instead of '='?"
  | .assignmentTo kind => s!"cannot assign to {kind} here. Maybe you meant '==' instead of '='?"
  | .naming kind => s!"cannot use assignment expressions with {kind}"
  | .starredValue => "cannot use a starred expression in a dictionary value"
  | .namelessArgument => "expression cannot contain assignment, perhaps you meant \"==\"?"
  | .valueArgument word => s!"cannot assign to {word}"
  | .lateArgument isUnpacked =>
    "positional argument follows keyword argument" ++ (if isUnpacked then " unpacking" else "")
  | .bareComprehension => "Generator expression must be parenthesized"
  | .bareStar => "Invalid star expression"
  | .starred => "cannot use starred expression here"
  | .doubleStarred => "cannot use double starred expression here"
  | .neverClosed opening _ => s!"'{opening}' was never closed"
  | .unmatched closing => s!"unmatched '{closing}'"
  | .mismatched closing opening line =>
    let place := match line with
      | some n => s!" on line {n}"
      | none => ""
    s!"closing parenthesis '{closing}' does not match opening parenthesis '{opening}'{place}"
  | .tooNested => "too many nested parentheses"
  | .unterminated isTriple line =>
    let kind := if isTriple then "triple-quoted string" else "string"
    s!"unterminated {kind} literal (detected at line {line})"
  | .mixed => "cannot mix bytes and nonbytes literals"
  | .notBytes => "bytes can only contain ASCII literal characters"
  | .badEscape start stop complaint =>
    let last := stop - 1
    s!"(unicode error) 'unicodeescape' codec can't decode bytes in position {start}-{last}: " ++
      complaint
  | .badByte position => s!"(value error) invalid \\x escape at position {position}"
  | .badField complaint => "f-string" ++ complaint
  | .badNumber kind => s!"invalid {kind} literal"
  | .oversized digits =>
    Numeral.oversizedMessage digits ++
      " - Consider hexadecimal for huge integer literals to avoid decimal conversion limits."
  | .badDigit digit kind => s!"invalid digit '{digit}' in {kind} literal"
  | .leadingZeros =>
    "leading zeros in decimal integer literals are not permitted; " ++
      "use an 0o prefix for octal integers"
  | .badCharacter n =>
    let code := shownPoint n
    let c := Char.ofNat n
    if Text.isPrintable c then s!"invalid character '{c}' (U+{code})"
    else s!"invalid non-printable character U+{code}"
  | .strayBackslash => "unexpected character after line continuation character"
  | .indented => "unexpected indent"

end PredicateIndex.Literal
