import PredicateIndex.Yaml.Scalar

/-!
# From text to tokens

The text is read from left to right. Outside brackets the column at which a list or a mapping starts
opens a block, and a token further to the left closes it. Whether a scalar or a bracket is a key shows
only at the colon after it, so its place is remembered until then: the colon must come on the same
line and within 1024 characters. The tokens for the key and for its block are then put in at the
remembered place.
-/
namespace PredicateIndex.Yaml

/-- A token that may turn out to be a key. -/
structure PossibleKey where
  /-- How many tokens come before it. -/
  position : Nat
  /-- Whether nothing but a key may stand there. -/
  required : Bool
  /-- Its place in the text. -/
  index : Nat
  /-- Its line. -/
  line : Nat
  /-- Its column. -/
  column : Nat
  deriving Repr

/-- The state of reading tokens. -/
structure Scanner where
  /-- Where reading is. -/
  cursor : Cursor
  /-- The columns of the open blocks, the innermost first. -/
  blocks : List Nat := []
  /-- Whether a key may start here. -/
  allowKey : Bool := true
  /-- The possible key at this level of brackets. -/
  possible : Option PossibleKey := none
  /-- The possible keys at the outer levels, the nearest first. -/
  outer : List (Option PossibleKey) := []
  /-- The tokens so far. -/
  tokens : List Token := []
  /-- Whether the end of the text has been reached. -/
  finished : Bool := false
  deriving Repr

namespace Scanner

/-- Whether reading is inside brackets or braces. -/
def inFlow (s : Scanner) : Bool := !s.outer.isEmpty

/-- Add a token. -/
def emit (s : Scanner) (token : Token) : Scanner := { s with tokens := s.tokens ++ [token] }

/-- Add a token of some characters at the cursor. -/
def emitMark (s : Scanner) (token : Token) (length : Nat) : Scanner :=
  { s with tokens := s.tokens ++ [token], cursor := s.cursor.skip length }

/-- Whether a column is to the right of the innermost block. -/
def isDeeper (s : Scanner) (column : Nat) : Bool :=
  match s.blocks with
  | [] => true
  | block :: _ => block < column

/-- Go past blanks, comments and line breaks; outside brackets a key may start on a new line. -/
def skipBlanks : Nat → Scanner → Scanner
  | 0, s => s
  | fuel + 1, s =>
    let blank := s.cursor.skipWhile (· == ' ')
    let after := if blank.rest.head? == some '#' then blank.skipWhile (!isBreak ·) else blank
    if after.rest.head?.any isBreak then
      skipBlanks fuel { s with cursor := after.next, allowKey := s.allowKey || !s.inFlow }
    else { s with cursor := after }

/-- A possible key that has not gone out of reach. -/
def freshKey (s : Scanner) (key : Option PossibleKey) : Except ReadError (Option PossibleKey) :=
  match key with
  | none => .ok none
  | some k =>
    if k.line == s.cursor.line && s.cursor.index - k.index ≤ 1024 then .ok (some k)
    else if k.required then .error .malformed
    else .ok none

/-- Forget the possible keys that have gone out of reach. -/
def dropStaleKeys (s : Scanner) : Except ReadError Scanner := do
  return { s with possible := ← s.freshKey s.possible, outer := ← s.outer.mapM s.freshKey }

/-- Forget the possible key at this level. -/
def dropKey (s : Scanner) : Except ReadError Scanner :=
  if s.possible.any PossibleKey.required then .error .malformed
  else .ok { s with possible := none }

/-- Remember that the next token may be a key. -/
def rememberKey (s : Scanner) : Except ReadError Scanner := do
  if s.allowKey then
    let required := !s.inFlow && s.blocks.head? == some s.cursor.column
    let forgotten ← s.dropKey
    return { forgotten with
      possible := some {
        position := s.tokens.length, required, index := s.cursor.index
        line := s.cursor.line, column := s.cursor.column } }
  else return s

/-- Close the blocks to the right of a column; the end of the text closes all. -/
def closeBlocks (s : Scanner) (column : Option Nat) : Scanner :=
  if s.inFlow then s
  else
    let isClosed := fun block => column.all (· < block)
    { s with
      tokens := s.tokens ++ (s.blocks.takeWhile isClosed).map fun _ => .blockEnd
      blocks := s.blocks.dropWhile isClosed }

/-- Open a block at the cursor if it is to the right of the innermost one. -/
def openBlock (s : Scanner) (token : Token) : Scanner :=
  if s.isDeeper s.cursor.column then
    { s.emit token with blocks := s.cursor.column :: s.blocks }
  else s

/-- The end of the text. -/
def scanEnd (s : Scanner) : Except ReadError Scanner := do
  let closed ← (s.closeBlocks none).dropKey
  return { closed with finished := true }

/-- A mark between documents. -/
def scanSeparator (s : Scanner) (token : Token) : Except ReadError Scanner := do
  let closed ← (s.closeBlocks none).dropKey
  return { closed.emitMark token 3 with allowKey := false }

/-- An opening bracket or brace. -/
def scanOpen (s : Scanner) (token : Token) : Except ReadError Scanner := do
  let saved ← s.rememberKey
  return { saved.emitMark token 1 with
    allowKey := true, possible := none, outer := saved.possible :: saved.outer }

/-- A closing bracket or brace. -/
def scanClose (s : Scanner) (token : Token) : Except ReadError Scanner := do
  let forgotten ← s.dropKey
  match forgotten.outer with
  | [] => throw .malformed
  | possible :: outer =>
    return { forgotten.emitMark token 1 with allowKey := false, possible, outer }

/-- A comma. -/
def scanSeparatorComma (s : Scanner) : Except ReadError Scanner := do
  let forgotten ← s.dropKey
  return { forgotten.emitMark .separator 1 with allowKey := true }

/-- A dash before an item. -/
def scanEntry (s : Scanner) : Except ReadError Scanner := do
  if !s.inFlow && !s.allowKey then throw .malformed
  let opened := if s.inFlow then s else s.openBlock .blockSequence
  let forgotten ← opened.dropKey
  return { forgotten.emitMark .entry 1 with allowKey := true }

/-- A question mark before a key. -/
def scanKey (s : Scanner) : Except ReadError Scanner := do
  if !s.inFlow && !s.allowKey then throw .malformed
  let opened := if s.inFlow then s else s.openBlock .blockMapping
  let forgotten ← opened.dropKey
  return { forgotten.emitMark .key 1 with allowKey := !s.inFlow }

/-- A colon after a remembered key. -/
def scanKnownValue (s : Scanner) (key : PossibleKey) : Scanner :=
  let opensBlock := !s.inFlow && s.isDeeper key.column
  let before := if opensBlock then [Token.blockMapping, .key] else [.key]
  let tokens := s.tokens.take key.position ++ before ++ s.tokens.drop key.position
  { { s with tokens }.emitMark .value 1 with
    blocks := if opensBlock then key.column :: s.blocks else s.blocks
    possible := none, allowKey := false }

/-- A colon before a value. -/
def scanValue (s : Scanner) : Except ReadError Scanner := do
  match s.possible with
  | some key => return s.scanKnownValue key
  | none =>
    if !s.inFlow && !s.allowKey then throw .malformed
    let opened := if s.inFlow then s else s.openBlock .blockMapping
    return { opened.emitMark .value 1 with allowKey := !s.inFlow }

/-- A quoted scalar. -/
def scanQuoted (s : Scanner) (double : Bool) : Except ReadError Scanner := do
  let saved ← s.rememberKey
  let (body, cursor) ← quoted double saved.cursor
  return { saved.emit (.scalar body false) with cursor, allowKey := false }

/-- A plain scalar. -/
def scanPlain (s : Scanner) : Except ReadError Scanner := do
  let saved ← s.rememberKey
  let indent := match saved.blocks with
    | [] => 0
    | block :: _ => block + 1
  let (body, cursor, broken) := plain saved.inFlow indent saved.cursor
  return { saved.emit (.scalar body true) with cursor, allowKey := broken }

/-- Whether a character can start a plain scalar. -/
def startsPlain (s : Scanner) (c : Char) : Bool :=
  if "-?:,[]\x7b\x7d#&*!|>'\"%@`".toList.contains c || isGap (some c) then
    !isGap (s.cursor.peek 1) && (c == '-' || (!s.inFlow && (c == '?' || c == ':')))
  else true

/-- Read the token that starts with a character. -/
def scanToken (s : Scanner) (c : Char) : Except ReadError Scanner :=
  let atStart := s.cursor.column == 0
  let beforeGap := isGap (s.cursor.peek 1)
  if atStart && s.cursor.atMark '-' then s.scanSeparator .documentStart
  else if atStart && s.cursor.atMark '.' then s.scanSeparator .documentEnd
  else if c == '[' then s.scanOpen .openSequence
  else if c == '{' then s.scanOpen .openMapping
  else if c == ']' then s.scanClose .closeSequence
  else if c == '}' then s.scanClose .closeMapping
  else if c == ',' then s.scanSeparatorComma
  else if c == '-' && beforeGap then s.scanEntry
  else if c == '?' && (s.inFlow || beforeGap) then s.scanKey
  else if c == ':' && (s.inFlow || beforeGap) then s.scanValue
  else if c == '\'' then s.scanQuoted false
  else if c == '"' then s.scanQuoted true
  else if s.startsPlain c then s.scanPlain
  else .error .malformed

/-- Go to the next token and close the blocks that end before it. -/
def approach (s : Scanner) : Except ReadError Scanner := do
  let fresh ← (skipBlanks (s.cursor.rest.length + 1) s).dropStaleKeys
  return fresh.closeBlocks (some fresh.cursor.column)

/-- Read the token at the cursor, or the end. -/
def scanHere (s : Scanner) : Except ReadError Scanner :=
  match s.cursor.rest with
  | [] => s.scanEnd
  | c :: _ => s.scanToken c

/-- The tokens so far and a fault after them. What comes from a possible key on is not settled until
its colon is looked for, so the fault comes before it. -/
def failing (s : Scanner) (error : ReadError) : List Token :=
  let waiting := (if s.allowKey then s.outer else s.possible :: s.outer).filterMap fun key =>
    key.map PossibleKey.position
  s.tokens.take (waiting.foldl min s.tokens.length) ++ [.fault error]

/-- Read tokens until the end or a fault. -/
def run : Nat → Scanner → List Token
  | 0, s => s.failing .malformed
  | fuel + 1, s =>
    match s.approach with
    | .error error => s.failing error
    | .ok ready =>
      match ready.scanHere with
      | .error error => ready.failing error
      | .ok after => if after.finished then after.tokens else run fuel after

end Scanner

/-- Whether a document may hold a character. -/
def isAllowed (c : Char) : Bool :=
  let n := c.toNat
  n == 0x9 || n == 0xa || n == 0xd || (0x20 ≤ n && n ≤ 0x7e) || n == 0x85 ||
    (0xa0 ≤ n && n ≤ 0xfffd) || 0x10000 ≤ n

/-- The tokens of a text. A byte order mark at its start is no part of it. -/
def tokens (text : List Char) : List Token :=
  if text.all isAllowed then
    let start : Cursor := { rest := text }
    let cursor := if text.head? == some '\uFEFF' then start.next else start
    Scanner.run (text.length + 1) { cursor }
  else [.fault .malformed]

end PredicateIndex.Yaml
