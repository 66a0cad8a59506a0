import PredicateIndex.Table.Literal.Quotation
import PredicateIndex.Text.Letter

/-!
# The lexemes of an expression

An expression is written in names, numbers, quoted texts and marks. Its parentheses and braces must
match. Outside of them a line break ends the expression.
-/
namespace PredicateIndex.Literal

/-- What kind of number a numeral stands for. -/
inductive NumberKind where
  /-- A real number. -/
  | real
  /-- An imaginary number. -/
  | imaginary
  /-- An integer of more digits than the limit. -/
  | oversized (digits : Nat)
  deriving DecidableEq, Repr

/-- The kind of the number that a numeral stands for. -/
def NumberKind.ofNumeral (cs : List Char) : NumberKind :=
  let digits := cs.filter (· != '_')
  if cs.getLast? == some 'j' || cs.getLast? == some 'J' then .imaginary
  else if digits.all Char.isDigit && cs.head? != some '0' && Numeral.digitLimit < digits.length then
    .oversized digits.length
  else .real

/-- A part of an expression. -/
inductive Lexeme where
  /-- A name or a word of the grammar. -/
  | word (name : String)
  /-- A number. -/
  | number (number : NumberKind)
  /-- A quoted text. -/
  | quoted (quotation : Quotation)
  /-- A mark. -/
  | mark (characters : String)
  /-- The end of a line. -/
  | lineEnd
  /-- The blanks before a line that is indented. -/
  | indent
  deriving DecidableEq, Repr

/-- The quoted text that a lexeme is. -/
def Lexeme.quotation? : Lexeme → Option Quotation
  | .quoted quotation => some quotation
  | _ => none

/-- A lexeme with the number of parentheses that are open after it and the line where it starts. -/
structure Placed where
  /-- The lexeme. -/
  lexeme : Lexeme
  /-- The open parentheses. -/
  depth : Nat
  /-- The line. -/
  line : Nat
  deriving DecidableEq, Repr

/-- Whether a character belongs to a name: a letter, a digit, an underscore or anything beyond the
ASCII characters. -/
def isNameLike (c : Char) : Bool := c.isAlphanum || c == '_' || 0x80 ≤ c.toNat

/-- Whether a text starts with a word that may follow a number directly. -/
def startsWord (cs : List Char) : Bool :=
  (["if", "in", "is"].any fun word => word.toList.isPrefixOf cs) ||
    ["and", "else", "for", "or", "not"].any fun word =>
      word.toList.isPrefixOf cs && !((cs.drop word.length).head?.map isNameLike).getD false

/-- What follows a number of a kind, which must not go on like a name in ASCII characters. -/
def numberEnd (kind : String) (cs : List Char) : Except Reason (List Char) :=
  match cs with
  | c :: _ =>
    if isNameLike c && c.toNat < 0x80 && !startsWord cs then .error (.badNumber kind) else .ok cs
  | [] => .ok []

/-- What follows decimal digits, between which single underscores may stand. -/
def decimalTail : List Char → Except Reason (List Char)
  | '_' :: d :: rest => if d.isDigit then decimalTail rest else .error (.badNumber "decimal")
  | ['_'] => .error (.badNumber "decimal")
  | c :: rest => if c.isDigit then decimalTail rest else .ok (c :: rest)
  | [] => .ok []

/-- What follows a decimal number that may be imaginary. -/
def imaginaryEnd : List Char → Except Reason (List Char)
  | 'j' :: rest | 'J' :: rest => numberEnd "imaginary" rest
  | cs => numberEnd "decimal" cs

/-- What follows a decimal number that may have an exponent. -/
def exponentEnd (cs : List Char) : Except Reason (List Char) :=
  let digits := fun (rest : List Char) => do imaginaryEnd (← decimalTail rest)
  match cs with
  | e :: sign :: rest =>
    if e != 'e' && e != 'E' then imaginaryEnd cs
    else if sign == '+' || sign == '-' then
      if (rest.head?.map Char.isDigit).getD false then digits rest
      else .error (.badNumber "decimal")
    else if sign.isDigit then digits (sign :: rest)
    else numberEnd "decimal" cs
  | _ => imaginaryEnd cs

/-- What follows the whole digits of a decimal number. -/
def wholeEnd (cs : List Char) : Except Reason (List Char) :=
  match cs with
  | '.' :: d :: rest => do
    if d.isDigit then exponentEnd (← decimalTail rest) else exponentEnd (d :: rest)
  | ['.'] => .ok []
  | _ => exponentEnd cs

/-- What follows a number in another base, given whether an underscore may and a digit must come. -/
def basedEnd (isDigit : Char → Bool) (kind : String) (may must : Bool) :
    List Char → Except Reason (List Char)
  | [] => if must then .error (.badNumber kind) else .ok []
  | c :: rest =>
    if c == '_' && may then basedEnd isDigit kind false true rest
    else if isDigit c then basedEnd isDigit kind true false rest
    else if c.isDigit then .error (.badDigit c kind)
    else if must || c == '_' then .error (.badNumber kind)
    else numberEnd kind (c :: rest)

/-- Whether a character is a hexadecimal digit. -/
def isHexDigit (c : Char) : Bool :=
  c.isDigit || ('a' ≤ c && c ≤ 'f') || ('A' ≤ c && c ≤ 'F')

/-- What follows zeros, between which single underscores may stand. -/
def afterZeros : List Char → Except Reason (List Char)
  | '_' :: d :: rest =>
    if d == '0' then afterZeros rest
    else if d.isDigit then .ok (d :: rest) else .error (.badNumber "decimal")
  | ['_'] => .error (.badNumber "decimal")
  | c :: rest => if c == '0' then afterZeros rest else .ok (c :: rest)
  | [] => .ok []

/-- What follows a number that starts with a zero, given what follows the zero. -/
def zeroEnd (cs : List Char) : Except Reason (List Char) :=
  match cs.head?.map Char.toLower with
  | some 'x' => basedEnd isHexDigit "hexadecimal" true true (cs.drop 1)
  | some 'o' => basedEnd (fun c => '0' ≤ c && c ≤ '7') "octal" true true (cs.drop 1)
  | some 'b' => basedEnd (fun c => c == '0' || c == '1') "binary" true true (cs.drop 1)
  | _ => do
    let rest ← afterZeros cs
    let isLong := (rest.head?.map Char.isDigit).getD false
    let after ← if isLong then decimalTail rest else pure rest
    match after with
    | c :: _ =>
      if isLong && !".eEjJ".toList.contains c then throw .leadingZeros else wholeEnd after
    | [] => if isLong then throw .leadingZeros else return []

/-- What follows a quoted text, with the number of the line, or the line where its end is missed. -/
def quotedEnd (quote : Char) (isTriple : Bool) (line : Nat) :
    List Char → Except Nat (List Char × Nat)
  | [] => .error line
  | '\\' :: '\n' :: rest => quotedEnd quote isTriple (line + 1) rest
  | '\\' :: _ :: rest => quotedEnd quote isTriple line rest
  | c :: rest =>
    if c == quote && !isTriple then .ok (rest, line)
    else if c == quote && [quote, quote].isPrefixOf rest then .ok (rest.drop 2, line)
    else if c == '\n' then
      if isTriple then quotedEnd quote isTriple (line + 1) rest else .error line
    else quotedEnd quote isTriple line rest

/-- What follows a quoted text whose first quote was read. -/
def afterQuote (quote : Char) (line : Nat) (cs : List Char) :
    Except Reason (List Char × Nat) :=
  let isTriple := [quote, quote].isPrefixOf cs
  (quotedEnd quote isTriple line (if isTriple then cs.drop 2 else cs)).mapError
    (.unterminated isTriple)

/-- The start of a text before what follows it. -/
def startOf (cs after : List Char) : List Char := cs.take (cs.length - after.length)

/-- A quoted text after a word, given what follows its first quote and what follows it. -/
def quotationOf (word : String) (quote : Char) (cs after : List Char) : Quotation :=
  let inside := startOf cs after
  let isTriple := [quote, quote].isPrefixOf cs
  .ofBody word (if isTriple then (inside.drop 2).take (inside.length - 5) else inside.dropLast)

/-- The words that may stand directly before a quoted text. -/
def quoteWords : List String := ["b", "u", "r", "f", "br", "rb", "fr", "rf"]

/-- The marks of more than one character, the longest first. -/
def longMarks : List String :=
  ["**=", "//=", ">>=", "<<=", "...", "**", "//", ">>", "<<", "<=", ">=", "==", "!=", "->", ":=",
   "+=", "-=", "*=", "/=", "%=", "&=", "|=", "^=", "@="]

/-- The mark at the start of a text. -/
def markAt (cs : List Char) : String :=
  (longMarks.find? fun mark => mark.toList.isPrefixOf cs).getD (String.ofList (cs.take 1))

/-- The first code point of a name that cannot stand where it does. -/
def badIn? (name : List Char) : Option Nat :=
  match Text.codePointsOf name with
  | [] => none
  | first :: others =>
    if 0x80 ≤ first && !Text.startsName first then some first
    else others.find? fun n => 0x80 ≤ n && !Text.continuesName n

/-- The parenthesis that another one closes. -/
def partner (closing : Char) : Char :=
  if closing == ')' then '(' else if closing == '\x7d' then '\x7b' else '['

/-- The most parentheses that may be open. -/
def depthLimit : Nat := 200

/-- The open parentheses with their lines, the last one first, after a mark. -/
def openAfter (opened : List (Char × Nat)) (line : Nat) (c : Char) :
    Except Reason (List (Char × Nat)) :=
  if "([\x7b".toList.contains c then
    if depthLimit ≤ opened.length then .error .tooNested else .ok ((c, line) :: opened)
  else if ")]\x7d".toList.contains c then
    match opened with
    | [] => .error (.unmatched c)
    | (opening, begun) :: rest =>
      if opening == partner c then .ok rest
      else .error (.mismatched c opening (if begun == line then none else some begun))
  else .ok opened

/-- Whether the line that starts a text is indented. -/
def isIndented (cs : List Char) : Bool :=
  match cs, cs.dropWhile fun c => c == ' ' || c == '\t' with
  | c :: _, d :: _ => (c == ' ' || c == '\t') && d != '\n' && d != '#'
  | _, _ => false

/-- What is wrong at the end of a text with open parentheses. -/
def endReason (opened : List (Char × Nat)) : Option Reason :=
  opened.head?.map fun (opening, line) => .neverClosed opening line

/-- The lexemes of a text on a line with open parentheses, and what is wrong at their end. The fuel
bounds the number of characters. -/
def scan : Nat → List (Char × Nat) → Nat → List Char → Except Reason (List Placed × Option Reason)
  | 0, opened, _, _ => .ok ([], endReason opened)
  | _, opened, _, [] => .ok ([], endReason opened)
  | fuel + 1, opened, line, c :: rest => do
    let put := fun (lexeme : Lexeme) (opened : List (Char × Nat)) (last : Nat)
        (after : List Char) => do
      let (more, wrong) ← scan fuel opened last after
      return (⟨lexeme, opened.length, line⟩ :: more, wrong)
    if c == ' ' || c == '\t' || c == '\x0c' then scan fuel opened line rest
    else if c == '#' then scan fuel opened line (rest.dropWhile (· != '\n'))
    else if c == '\n' then
      if opened.isEmpty then do
        let (more, wrong) ← scan fuel opened (line + 1) rest
        let indent := if isIndented rest then [⟨.indent, 0, line + 1⟩] else []
        return (⟨.lineEnd, 0, line⟩ :: indent ++ more, wrong)
      else scan fuel opened (line + 1) rest
    else if c == '\\' then
      match rest with
      | '\n' :: after => scan fuel opened (line + 1) after
      | _ => return ([], some .strayBackslash)
    else if c == '"' || c == '\'' then do
      let (after, last) ← afterQuote c line rest
      put (.quoted (quotationOf "" c rest after)) opened last after
    else if c.isDigit then
      let after ← if c == '0' then zeroEnd rest else do wholeEnd (← decimalTail rest)
      put (.number (.ofNumeral (startOf (c :: rest) after))) opened line after
    else if c == '.' && (rest.head?.map Char.isDigit).getD false then
      let after ← wholeEnd (c :: rest)
      put (.number (.ofNumeral (startOf (c :: rest) after))) opened line after
    else if isNameLike c then
      let name := (c :: rest).takeWhile isNameLike
      let after := (c :: rest).dropWhile isNameLike
      match after with
      | quote :: inside =>
        if (quote == '"' || quote == '\'') &&
            quoteWords.contains (String.ofList (name.map Char.toLower)) then
          let (after, last) ← afterQuote quote line inside
          put (.quoted (quotationOf (String.ofList (name.map Char.toLower)) quote inside after))
            opened last after
        else
          if let some bad := badIn? name then throw (.badCharacter bad)
          put (.word (String.ofList name)) opened line after
      | [] =>
        if let some bad := badIn? name then throw (.badCharacter bad)
        put (.word (String.ofList name)) opened line []
    else if c.toNat < 0x20 || c.toNat == 0x7f then throw (.badCharacter c.toNat)
    else
      let mark := markAt (c :: rest)
      put (.mark mark) (← openAfter opened line c) line (rest.drop (mark.length - 1))

/-- The lexemes of a text, and what is wrong at their end. Empty lines at its start do not count. Each
lexeme takes a character, so the number of characters is fuel enough. -/
def lexemes (cs : List Char) : Except Reason (List Placed × Option Reason) :=
  (scan cs.length [] 1 cs).map fun (placed, wrong) =>
    (placed.dropWhile fun next => next.lexeme == .lineEnd, wrong)

end PredicateIndex.Literal
