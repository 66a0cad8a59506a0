import PredicateIndex.Json.Reader
import PredicateIndex.Yaml.Token

/-!
# Scalars of a configuration document

The text of a scalar. A quoted scalar ends at its quote; in single quotes a doubled quote stands for
one, in double quotes a backslash starts an escape. A plain scalar ends where a comment, a mapping
value or, inside brackets, a bracket or comma begins. All three may go on over several lines: one line
break becomes a space, and further breaks are kept.
-/
namespace PredicateIndex.Yaml

/-- The character that a one-letter escape stands for. -/
def simpleEscape? : Char → Option Char
  | '0' => some '\x00'
  | 'a' => some '\x07'
  | 'b' => some '\x08'
  | 't' | '\t' => some '\t'
  | 'n' => some '\n'
  | 'v' => some '\x0b'
  | 'f' => some '\x0c'
  | 'r' => some '\r'
  | 'e' => some '\x1b'
  | ' ' => some ' '
  | '"' => some '"'
  | '\\' => some '\\'
  | '/' => some '/'
  | 'N' => some '\u0085'
  | '_' => some '\u00a0'
  | 'L' => some '\u2028'
  | 'P' => some '\u2029'
  | _ => none

/-- How many hexadecimal digits follow the letter of a code escape. -/
def codeDigits? : Char → Option Nat
  | 'x' => some 2
  | 'u' => some 4
  | 'U' => some 8
  | _ => none

/-- The number that hexadecimal digits stand for. -/
def hexNumber? (digits : List Char) : Option Nat :=
  digits.foldl (fun n? c => do return 16 * (← n?) + (← Json.hexValue? c)) (some 0)

/-- The further line breaks at a place, with the blanks around them; no mark between documents may
come before the text goes on. -/
def furtherBreaks : Nat → Cursor → Except ReadError (List Char × Cursor)
  | 0, cursor => .ok ([], cursor)
  | fuel + 1, cursor => do
    if cursor.atSeparator then throw .malformed
    let after := cursor.skipWhile fun c => c == ' ' || c == '\t'
    match after.rest with
    | c :: _ =>
      if isBreak c then
        let (breaks, stop) ← furtherBreaks fuel after.next
        return (breakText c :: breaks, stop)
      else return ([], after)
    | [] => return ([], after)

/-- What a line break followed by further ones contributes: alone it is a space. -/
def foldBreaks (first : Char) (further : List Char) : List Char :=
  if breakText first != '\n' then breakText first :: further
  else if further.isEmpty then [' '] else further

/-- The blanks and line breaks inside a quoted scalar. -/
def quotedBlanks (cursor : Cursor) : Except ReadError (List Char × Cursor) := do
  let isBlank := fun c => c == ' ' || c == '\t'
  let blanks := cursor.rest.takeWhile isBlank
  let after := cursor.skipWhile isBlank
  match after.rest with
  | [] => throw .malformed
  | c :: _ =>
    if isBreak c then
      let (further, stop) ← furtherBreaks after.rest.length after.next
      return (foldBreaks c further, stop)
    else return (blanks, after)

/-- The escape after a backslash. -/
def escape (cursor : Cursor) : Except ReadError (List Char × Cursor) := do
  match cursor.rest with
  | [] => throw .malformed
  | c :: rest =>
    match simpleEscape? c, codeDigits? c with
    | some plain, _ => return ([plain], cursor.next)
    | none, some count =>
      let digits := rest.take count
      match hexNumber? digits with
      | some code =>
        if digits.length < count then throw .malformed
        else if code < 0x110000 then return (Text.ofCodePoint code, cursor.skip (count + 1))
        else if code < 0x80000000 then throw (.conversion "chr() arg not in range(0x110000)")
        else throw (.overflow "Python int too large to convert to C int")
      | none => throw .malformed
    | none, none =>
      if isBreak c then furtherBreaks cursor.rest.length cursor.next else throw .malformed

/-- The rest of a quoted scalar up to its closing quote. -/
def quotedRest (double : Bool) : Nat → Cursor → Except ReadError (List Char × Cursor)
  | 0, _ => .error .malformed
  | fuel + 1, cursor => do
    match cursor.rest with
    | [] => throw .malformed
    | c :: rest =>
      if c == (if double then '"' else '\'') then
        if !double && rest.head? == some '\'' then
          let (body, stop) ← quotedRest double fuel (cursor.skip 2)
          return (c :: body, stop)
        else return ([], cursor.next)
      else
        let (part, after) ←
          if double && c == '\\' then escape cursor.next
          else if isGap (some c) then quotedBlanks cursor
          else pure ([c], cursor.next)
        let (body, stop) ← quotedRest double fuel after
        return (part ++ body, stop)

/-- A quoted scalar that starts at its opening quote. -/
def quoted (double : Bool) (cursor : Cursor) : Except ReadError (List Char × Cursor) :=
  quotedRest double (cursor.rest.length + 1) cursor.next

/-- The characters of a plain scalar up to the next blank or mark. -/
def plainWord (inFlow : Bool) : List Char → List Char
  | [] => []
  | c :: rest =>
    let isFlowMark := fun c => c == ',' || c == '[' || c == ']' || c == '{' || c == '}'
    let endsHere :=
      isGap (some c) ||
      (c == ':' && (isGap rest.head? || (inFlow && rest.head?.any isFlowMark))) ||
      (inFlow && (c == '?' || isFlowMark c))
    if endsHere then [] else c :: plainWord inFlow rest

/-- The further line breaks and spaces after a line break in a plain scalar; nothing if a mark
between documents comes. -/
def plainBreaks : Nat → Cursor → Option (List Char) × Cursor
  | 0, cursor => (some [], cursor)
  | fuel + 1, cursor =>
    match cursor.rest with
    | ' ' :: _ => plainBreaks fuel cursor.next
    | c :: _ =>
      if isBreak c then
        if cursor.next.atSeparator then (none, cursor.next)
        else
          let (further, stop) := plainBreaks fuel cursor.next
          (further.map (breakText c :: ·), stop)
      else (some [], cursor)
    | [] => (some [], cursor)

/-- The blanks after a word of a plain scalar: what they contribute, where they end and whether a
line ended. -/
def plainBlanks (cursor : Cursor) : List Char × Cursor × Bool :=
  let spaces := cursor.rest.takeWhile (· == ' ')
  let after := cursor.skipWhile (· == ' ')
  match after.rest with
  | c :: _ =>
    if isBreak c then
      if after.next.atSeparator then ([], after.next, true)
      else
        match plainBreaks after.rest.length after.next with
        | (none, stop) => ([], stop, true)
        | (some further, stop) => (foldBreaks c further, stop, true)
    else (spaces, after, false)
  | [] => (spaces, after, false)

/-- The rest of a plain scalar, given the blanks before it and whether they ended a line. A block
scalar must stay to the right of its block. -/
def plainRest (inFlow : Bool) (indent : Nat) :
    Nat → Cursor → List Char → Bool → List Char × Cursor × Bool
  | 0, cursor, _, broken => ([], cursor, broken)
  | fuel + 1, cursor, blanks, broken =>
    let word := if cursor.rest.head? == some '#' then [] else plainWord inFlow cursor.rest
    if word.isEmpty then ([], cursor, broken)
    else
      let (after, stop, brokenAfter) := plainBlanks (cursor.skip word.length)
      if after.isEmpty || stop.rest.head? == some '#' || (!inFlow && stop.column < indent) then
        (blanks ++ word, stop, brokenAfter)
      else
        let (body, last, brokenLast) := plainRest inFlow indent fuel stop after brokenAfter
        (blanks ++ word ++ body, last, brokenLast)

/-- A plain scalar: its text, where it ends, and whether a line ended after it. -/
def plain (inFlow : Bool) (indent : Nat) (cursor : Cursor) : List Char × Cursor × Bool :=
  plainRest inFlow indent (cursor.rest.length + 1) cursor [] false

end PredicateIndex.Yaml
