import PredicateIndex.Table.Literal
import PredicateIndex.Text.Blank
import PredicateIndex.Text.Quoted
import PredicateIndex.Text.Utf8

/-!
# Handlers of tags

A tag that starts with an at sign can have a handler: a name, values in parentheses, or both. The values
must be readable when the tag is closed.
-/
namespace PredicateIndex.Handler

/-- What is wrong with a handler. -/
inductive Fault where
  /-- A part of it cannot be read. -/
  | unreadable (part handler : String) (reason : Literal.Reason)
  /-- It has a null character. -/
  | nullCharacter (handler : String)
  /-- It cannot be encoded. -/
  | unencodable (handler : String) (fault : Utf8.EncodeFault)
  /-- It is no value. -/
  | notValue (handler : String) (reason : Literal.NoValue)
  deriving DecidableEq, Repr

/-- The words of a fault. -/
def Fault.message : Fault → String
  | .unreadable part handler reason =>
    "error parsing " ++ Text.quoted part ++ " in " ++ Text.quoted handler ++ "; " ++ reason.message
  | .nullCharacter handler =>
    "error parsing " ++ Text.quoted handler ++ "; source code string cannot contain null bytes"
  | .unencodable handler fault =>
    "error parsing " ++ Text.quoted handler ++ "; " ++ fault.message
  | .notValue handler reason =>
    "error parsing " ++ Text.quoted handler ++ "; " ++ reason.message

/-- Whether a character can stand in the name of a handler. -/
def isNamed (c : Char) : Bool := c == '.' || Text.isWordChar c

/-- The values of a handler: after a name those in the parentheses, which there may be none of; otherwise
the whole. -/
def values (cs : List Char) : List Char :=
  let after := cs.dropWhile isNamed
  if after.isEmpty then ['(', ')']
  else if after.head? == some '(' && after.getLast? == some ')' && !after.contains '\n' then after
  else cs

/-- Check a handler. -/
def check (handler : String) : Except Fault Unit := do
  let part := values (Text.trim Text.isBlank handler.toList)
  let source := part.dropWhile fun c => c == ' ' || c == '\t'
  if let some fault := Utf8.fault? (String.ofList source) then throw (.unencodable handler fault)
  if part.contains '\x00' then throw (.nullCharacter handler)
  let worth ← (Literal.worth part).mapError (.unreadable (String.ofList part) handler)
  if let some reason := worth.noValue? then throw (.notValue handler reason)

end PredicateIndex.Handler
