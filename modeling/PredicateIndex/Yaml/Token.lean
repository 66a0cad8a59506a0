import PredicateIndex.Text.CodePoint

/-!
# Tokens of a configuration document

A document is read as a list of tokens. Besides the marks that stand in the text there are tokens for
the start and the end of a block, which the indentation implies, one before each key, and one for the
place where no token can be read, which counts only if the tokens before it are in order.
-/
namespace PredicateIndex.Yaml

/-- Why a document cannot be read. -/
inductive ReadError where
  /-- It breaks the rules of the format. -/
  | malformed
  /-- A value in it cannot be converted. -/
  | conversion (message : String)
  /-- A number in it does not fit a machine word. -/
  | overflow (message : String)
  deriving DecidableEq, Repr

/-- A token. -/
inductive Token where
  /-- The mark before a document. -/
  | documentStart
  /-- The mark after a document. -/
  | documentEnd
  /-- The start of a list in block form. -/
  | blockSequence
  /-- The start of a mapping in block form. -/
  | blockMapping
  /-- The end of a block. -/
  | blockEnd
  /-- An opening square bracket. -/
  | openSequence
  /-- A closing square bracket. -/
  | closeSequence
  /-- An opening brace. -/
  | openMapping
  /-- A closing brace. -/
  | closeMapping
  /-- A comma between items in brackets or braces. -/
  | separator
  /-- A dash before an item of a block. -/
  | entry
  /-- What stands before a key. -/
  | key
  /-- The colon between a key and its value. -/
  | value
  /-- A scalar, plain or quoted. -/
  | scalar (text : List Char) (plain : Bool)
  /-- The place where reading tokens failed; nothing comes after it. -/
  | fault (error : ReadError)
  deriving DecidableEq, Repr

/-- A place in the text: what is left of it, and where it is. -/
structure Cursor where
  /-- The characters from here on. -/
  rest : List Char
  /-- How many characters came before. -/
  index : Nat := 0
  /-- How many line breaks came before. -/
  line : Nat := 0
  /-- How many characters came before on the line. -/
  column : Nat := 0
  deriving Repr

/-- Whether a character ends a line. -/
def isBreak (c : Char) : Bool :=
  c == '\n' || c == '\r' || c == '\u0085' || c == '\u2028' || c == '\u2029'

/-- Whether a character or the end of the text divides words. -/
def isGap : Option Char → Bool
  | none => true
  | some c => c == ' ' || c == '\t' || isBreak c

/-- What a line break contributes to a text: the special breaks stay, the others are line feeds. -/
def breakText (c : Char) : Char := if c == '\u2028' || c == '\u2029' then c else '\n'

namespace Cursor

/-- The character some places ahead; none at the end. -/
def peek (cursor : Cursor) (ahead : Nat) : Option Char := cursor.rest[ahead]?

/-- Go past one character. A byte order mark takes no column, and what is written before a character
no place. -/
def next (cursor : Cursor) : Cursor :=
  match cursor.rest with
  | [] => cursor
  | c :: rest =>
    if c == Text.mark then { cursor with rest }
    else if isBreak c then
      { rest, index := cursor.index + 1, line := cursor.line + 1, column := 0 }
    else
      { rest, index := cursor.index + 1, line := cursor.line
        column := if c == '\uFEFF' then cursor.column else cursor.column + 1 }

/-- Go past some characters. -/
def skip (cursor : Cursor) : Nat → Cursor
  | 0 => cursor
  | n + 1 => cursor.next.skip n

/-- Go past the characters of a class. -/
def skipWhile (cursor : Cursor) (inClass : Char → Bool) : Cursor :=
  cursor.skip (cursor.rest.takeWhile inClass).length

/-- Whether a three-character mark that stands between documents is here. -/
def atMark (cursor : Cursor) (mark : Char) : Bool :=
  match cursor.rest with
  | a :: b :: c :: _ => a == mark && b == mark && c == mark && isGap (cursor.peek 3)
  | _ => false

/-- Whether a mark of either kind is here. -/
def atSeparator (cursor : Cursor) : Bool := cursor.atMark '-' || cursor.atMark '.'

end Cursor

end PredicateIndex.Yaml
