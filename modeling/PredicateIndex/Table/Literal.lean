import PredicateIndex.Table.Literal.Worth

/-!
# Expressions

What a text is worth as an expression, and if it is none, why. Expressions are read from left to right. When
one stands directly after another the first reason wins: an open parenthesis at the end of the text,
then a missing comma, then what else is missing.
-/
namespace PredicateIndex.Literal

/-- What kind of thing an expression is. -/
inductive Form where
  /-- A name. -/
  | name (text : String)
  /-- A number or a quoted text. -/
  | constant
  /-- A word that stands for a value. -/
  | value (word : String)
  /-- Anything else, with the words that name its kind. -/
  | other (kind : String)
  deriving DecidableEq, Repr

/-- The words that name the kind of a form. -/
def Form.kind : Form → String
  | .name _ => "name"
  | .constant => "literal"
  | .value word => word
  | .other kind => kind

/-- An expression that was read, and the lexemes after it. -/
structure Found where
  /-- What it is. -/
  form : Form
  /-- What it is worth. -/
  worth : Worth
  /-- The lexemes after it. -/
  rest : List Placed
  deriving DecidableEq, Repr

/-- The words of the grammar. -/
def keywords : List String :=
  ["False", "None", "True", "and", "as", "assert", "async", "await", "break", "class", "continue",
   "def", "del", "elif", "else", "except", "finally", "for", "from", "global", "if", "import", "in",
   "is", "lambda", "nonlocal", "not", "or", "pass", "raise", "return", "try", "while", "with",
   "yield"]

/-- The operators of a level, from the loosest to the tightest. -/
def operators : Nat → List String
  | 0 => ["or"]
  | 1 => ["and"]
  | 3 => ["==", "!=", "<=", "<", ">=", ">", "in", "is"]
  | _ => ["|", "^", "&", "<<", ">>", "+", "-", "*", "/", "//", "%", "@"]

/-- The level of the word that negates. -/
def negation : Nat := 2

/-- The level of the tightest operators. -/
def tightest : Nat := 4

/-- The kind of what the operators of a level make. -/
def levelKind : Nat → String
  | 3 => "comparison"
  | _ => "expression"

/-- The name or mark of the first lexeme. -/
def front (placed : List Placed) : String :=
  match placed with
  | ⟨.word name, _, _⟩ :: _ => name
  | ⟨.mark characters, _, _⟩ :: _ => characters
  | _ => ""

/-- The operator of a level at the front and what follows it. -/
def operator? (n : Nat) (placed : List Placed) : Option (List Placed) :=
  let rest := placed.drop 1
  if n == 3 && front placed == "not" && front rest == "in" then some (rest.drop 1)
  else if n == 3 && front placed == "is" && front rest == "not" then some (rest.drop 1)
  else if (operators n).contains (front placed) then some rest
  else none

/-- Whether lexemes start with a name. -/
def startsName (placed : List Placed) : Bool :=
  match placed with
  | ⟨.word name, _, _⟩ :: _ => !keywords.contains name
  | _ => false

/-- Whether lexemes start with a quoted text. -/
def startsQuoted (placed : List Placed) : Bool :=
  match placed with
  | ⟨.quoted _, _, _⟩ :: _ => true
  | _ => false

/-- Whether what starts with these lexemes may be followed by what looks like a missing comma: a name
before a quoted text, or a word that can also be a name. -/
def mayAdjoin (placed : List Placed) : Bool :=
  (startsName placed && startsQuoted (placed.drop 1)) || ["match", "case", "_"].contains (front placed)

/-- The parentheses that are open after the last lexeme that was read. -/
def lastDepth (before after : List Placed) : Nat :=
  ((before.take (before.length - after.length)).getLast?.map Placed.depth).getD 0

/-- Where a text ends, and how it is read. -/
structure Ending where
  /-- What is wrong at the end. -/
  reason : Option Reason
  /-- Whether reasons other than that are looked for. -/
  isStrict : Bool := true
  deriving Repr

/-- A reading that may find nothing, or a reason why the text is no expression. It keeps how many
lexemes were not looked at. -/
abbrev Reader := OptionT (ExceptT Reason (StateM Nat))

/-- The reading of what may be missing. -/
def attempt {α : Type} (reader : Reader α) : Reader (Option α) := OptionT.lift reader.run

namespace Ending

/-- The name or mark of the first lexeme. At the end of the text its reason is given. -/
def peek (ending : Ending) (placed : List Placed) : Reader String := do
  modify (min (placed.length - 1))
  match placed, ending.reason with
  | [], some reason => throwThe Reason reason
  | _, _ => pure (front placed)

/-- What follows a word or mark, which must come first. -/
def expect (ending : Ending) (characters : String) (placed : List Placed) :
    Reader (List Placed) := do
  if (← ending.peek placed) == characters then return placed.drop 1 else failure

/-- Whether a name comes first and a mark after it. -/
def isNameBefore (ending : Ending) (mark : String) (placed : List Placed) : Reader Bool := do
  if startsName placed then return (← ending.peek (placed.drop 1)) == mark else return false

/-- A reason, if reasons are looked for. -/
def report {α : Type} (ending : Ending) (reason : Reason) : Reader α :=
  if ending.isStrict then throwThe Reason reason else failure

/-- The same ending, for which no other reasons are looked for. -/
def lenient (ending : Ending) : Ending := { ending with isStrict := false }

end Ending

/-- What has a kind that is no single name or value. -/
def made (kind : String) (worth : Worth) (rest : List Placed) : Found :=
  { form := .other kind, worth, rest }

/-- The quoted texts at the front. -/
def quotations (placed : List Placed) : List Quotation :=
  placed.map Placed.lexeme |>.map Lexeme.quotation? |>.takeWhile Option.isSome |>.filterMap id

/-- The first thing that is wrong with quoted texts side by side: a fault of one, or a kind that is not
that of the one before. -/
def quotationFault? : Option Quotation → List Quotation → Option Reason
  | _, [] => none
  | before, next :: rest =>
    if next.fault.isSome then next.fault
    else if before.any fun last => last.isBytes != next.isBytes then some .mixed
    else quotationFault? (some next) rest

/-- Whether a name is that of a former statement. -/
def isStatement (form : Form) : Bool := form == .name "print" || form == .name "exec"

/-- Whether lexemes can name a parameter. -/
def isParameter (placed : Placed) : Bool :=
  match placed.lexeme with
  | .word name => !keywords.contains name
  | .mark characters => [",", "*", "**", "/"].contains characters
  | _ => false

/-- Which arguments of a call came before. -/
inductive Before where
  /-- None with a name. -/
  | unnamed
  /-- One with a name. -/
  | named
  /-- Several that are unpacked by their names. -/
  | unpacked
  deriving DecidableEq, Repr

mutual

/-- Read an expression: operands, a condition between two expressions, or a function. -/
def expression : Nat → Ending → List Placed → Reader Found
  | 0, _, _ => failure
  | fuel + 1, ending, placed => do
    match ← attempt (level fuel ending 0 placed) with
    | some found =>
      adjoined fuel ending placed found
      conditional fuel ending found
    | none =>
      let rest ← ending.expect "lambda" placed
      let body ← ending.expect ":" (rest.dropWhile isParameter)
      return made "lambda" .malformed (← expression fuel ending body).rest

/-- Report an expression that stands directly after another. -/
def adjoined : Nat → Ending → List Placed → Found → Reader Unit
  | 0, _, _, _ => return
  | fuel + 1, ending, placed, found => do
    if ending.isStrict then
      if !mayAdjoin placed then
        if let some next ← attempt (expression fuel ending.lenient found.rest) then
          if !isStatement found.form && lastDepth placed next.rest != 0 then
            ending.report .missingComma
      if let .name name := found.form then
        if found.rest.length + 1 == placed.length then
          if (← ending.peek found.rest) != "(" then
            let next ← attempt (sequence fuel ending found.rest)
            if next.isSome && isStatement found.form then
              ending.report (.missingParentheses name)

/-- Read a condition and an alternative after an expression. -/
def conditional : Nat → Ending → Found → Reader Found
  | 0, _, found => return found
  | fuel + 1, ending, found => do
    if (← ending.peek found.rest) != "if" then return found
    match ← attempt (level fuel ending 0 (found.rest.drop 1)) with
    | none => return found
    | some condition =>
      let mark ← ending.peek condition.rest
      if mark == "else" then
        match ← attempt (expression fuel ending (condition.rest.drop 1)) with
        | some alternative => return made "conditional expression" .malformed alternative.rest
        | none => return found
      else if mark == ":" || !ending.isStrict then return found
      else ending.report .missingElse

/-- Read an expression that may be named. -/
def named : Nat → Ending → List Placed → Reader Found
  | 0, _, _ => failure
  | fuel + 1, ending, placed => do
    if ← ending.isNameBefore ":=" placed then
      return made "named expression" .malformed (← expression fuel ending (placed.drop 2)).rest
    let found ← expression fuel ending placed
    let mark ← ending.peek found.rest
    if mark == ":=" then
      let _ ← expression fuel ending (found.rest.drop 1)
      ending.report (.naming found.form.kind)
    if mark == "=" && ending.isStrict then assigned fuel ending placed found
    return found

/-- Report an expression that stands before an equals sign. -/
def assigned : Nat → Ending → List Placed → Found → Reader Unit
  | 0, _, _, _ => return
  | fuel + 1, ending, placed, found => do
    let loose := ["tuple", "generator expression", "True", "None", "False"]
    let some target ← attempt (level fuel ending tightest placed) | return
    if target.rest != found.rest || loose.contains found.form.kind then return
    let some value ← attempt (level fuel ending tightest (found.rest.drop 1)) | return
    if ["=", ":="].contains (← ending.peek value.rest) then return
    if found.rest.length + 1 == placed.length && startsName placed then ending.report .assignment
    ending.report (.assignmentTo found.form.kind)

/-- Read operands that the operators of a level join. -/
def level : Nat → Ending → Nat → List Placed → Reader Found
  | 0, _, _, _ => failure
  | fuel + 1, ending, n, placed => do
    if n == negation then
      if (← ending.peek placed) == "not" then
        return made "expression" .malformed (← level fuel ending n (placed.drop 1)).rest
      else level fuel ending (n + 1) placed
    else if n < tightest then operands fuel ending n (← level fuel ending (n + 1) placed)
    else operands fuel ending n (← factor fuel ending placed)

/-- Read more operands of a level after one. -/
def operands : Nat → Ending → Nat → Found → Reader Found
  | 0, _, _, found => return found
  | fuel + 1, ending, n, found => do
    let mark ← ending.peek found.rest
    let some rest := operator? n found.rest | return found
    let operand := if n < tightest then level fuel ending (n + 1) rest else factor fuel ending rest
    let some next ← attempt operand | return found
    let worth := if mark == "+" || mark == "-" then found.worth.sum next.worth else .malformed
    operands fuel ending n (made (levelKind n) worth next.rest)

/-- Read a signed operand or a power. -/
def factor : Nat → Ending → List Placed → Reader Found
  | 0, _, _ => failure
  | fuel + 1, ending, placed => do
    let mark ← ending.peek placed
    if ["+", "-", "~"].contains mark then
      let found ← factor fuel ending (placed.drop 1)
      return made "expression" (if mark == "~" then .malformed else found.worth.signed) found.rest
    let base ← if mark == "await" then do
        let found ← primary fuel ending (placed.drop 1)
        pure (made "await expression" .malformed found.rest)
      else primary fuel ending placed
    if (← ending.peek base.rest) != "**" then return base
    match ← attempt (factor fuel ending (base.rest.drop 1)) with
    | some exponent => return made "expression" .malformed exponent.rest
    | none => return base

/-- Read an atom with what is selected from it or called. -/
def primary : Nat → Ending → List Placed → Reader Found
  | 0, _, _ => failure
  | fuel + 1, ending, placed => do trailers fuel ending (← atom fuel ending placed)

/-- Read selections and calls after an expression. -/
def trailers : Nat → Ending → Found → Reader Found
  | 0, _, found => return found
  | fuel + 1, ending, found => do
    let mark ← ending.peek found.rest
    let rest := found.rest.drop 1
    if mark == "." then
      let _ ← ending.peek rest
      if startsName rest then trailers fuel ending (made "attribute" .malformed (rest.drop 1))
      else return found
    else if mark == "(" then
      match ← attempt (arguments fuel ending .unnamed rest) with
      | some after =>
        let isEmptySet := found.form == .name "set" && front rest == ")"
        let worth := if isEmptySet then .emptySet else .malformed
        trailers fuel ending (made "function call" worth after)
      | none => return found
    else return found

/-- Read a single thing. -/
def atom : Nat → Ending → List Placed → Reader Found
  | 0, _, _ => failure
  | fuel + 1, ending, placed => do
    let mark ← ending.peek placed
    match placed with
    | ⟨.number (.oversized digits), _, _⟩ :: _ => throwThe Reason (.oversized digits)
    | ⟨.number kind, _, _⟩ :: rest => return { form := .constant, worth := .ofNumber kind, rest }
    | ⟨.quoted _, _, _⟩ :: _ =>
      let found := quotations placed
      let rest := placed.drop found.length
      let _ ← ending.peek rest
      if let some reason := quotationFault? none found then throwThe Reason reason
      let worth : Worth := if found.any Quotation.hasFields then .malformed else .plain
      return { form := .constant, worth, rest }
    | ⟨.word name, _, _⟩ :: rest =>
      if ["True", "False", "None"].contains name then
        return { form := .value name, worth := .plain, rest }
      else if keywords.contains name then failure
      else return { form := .name name, worth := .malformed, rest }
    | _ :: rest =>
      if mark == "..." then return { form := .value "ellipsis", worth := .plain, rest }
      else if mark == "(" then group fuel ending rest
      else if mark == "\x7b" then collection fuel ending rest
      else failure
    | [] => failure

/-- Read what follows an opening parenthesis. -/
def group : Nat → Ending → List Placed → Reader Found
  | 0, _, _ => failure
  | fuel + 1, ending, placed => do
    let mark ← ending.peek placed
    if mark == ")" then return made "tuple" .plain (placed.drop 1)
    if mark == "yield" then
      let isFrom := (← ending.peek (placed.drop 1)) == "from"
      let start := placed.drop (if isFrom then 2 else 1)
      let value ← attempt (sequence fuel ending start)
      return made "yield expression" .malformed (← ending.expect ")" ((value.map Found.rest).getD start))
    if mark == "*" then starredGroup fuel ending (placed.drop 1)
    else if mark == "**" then
      let found ← expression fuel ending (placed.drop 1)
      let _ ← ending.expect ")" found.rest
      ending.report .doubleStarred
    else
      let found ← named fuel ending placed
      let after ← ending.peek found.rest
      if after == ")" then return { found with rest := found.rest.drop 1 }
      else if after == "," then
        items fuel ending ")" (made "tuple" (Worth.plain.tupleWith found.worth) (found.rest.drop 1))
      else
        let rest ← clauses fuel ending found.rest
        return made "generator expression" .malformed (← ending.expect ")" rest)

/-- Read what follows a star in a group: it must be one of several. -/
def starredGroup : Nat → Ending → List Placed → Reader Found
  | 0, _, _ => failure
  | fuel + 1, ending, placed => do
    if let some found ← attempt (level fuel ending tightest placed) then
      if (← ending.peek found.rest) == "," then
        return ← items fuel ending ")" (made "tuple" .malformed (found.rest.drop 1))
    match ← attempt (expression fuel ending placed) with
    | none => ending.report .bareStar
    | some found =>
      let _ ← ending.expect ")" found.rest
      ending.report .starred

/-- Read the rest of some items up to the mark that closes them. -/
def items : Nat → Ending → String → Found → Reader Found
  | 0, _, _, _ => failure
  | fuel + 1, ending, closing, found => do
    let mark ← ending.peek found.rest
    if mark == closing then return { found with rest := found.rest.drop 1 }
    let item ← if mark == "*" then level fuel ending tightest (found.rest.drop 1)
      else named fuel ending found.rest
    let added := if mark == "*" then .malformed else item.worth
    let worth := if closing == ")" then found.worth.tupleWith added else found.worth.setWith added
    let after ← ending.peek item.rest
    if after == "," then items fuel ending closing { found with worth, rest := item.rest.drop 1 }
    else return { found with worth, rest := ← ending.expect closing item.rest }

/-- Read the arguments of a call, given what came before. -/
def arguments : Nat → Ending → Before → List Placed → Reader (List Placed)
  | 0, _, _, _ => failure
  | fuel + 1, ending, before, placed => do
    let mark ← ending.peek placed
    if mark == ")" then return placed.drop 1
    let following := fun (now : Before) (rest : List Placed) => do
      if (← ending.peek rest) == "," then arguments fuel ending now (rest.drop 1)
      else ending.expect ")" rest
    if mark == "*" then
      match ← attempt (expression fuel ending (placed.drop 1)) with
      | some found => following before found.rest
      | none => throwThe Reason .bareStar
    else if mark == "**" then
      following .unpacked (← expression fuel ending (placed.drop 1)).rest
    else if ← ending.isNameBefore "=" placed then
      let value ← expression fuel ending (placed.drop 2)
      following (if before == .unpacked then before else .named) value.rest
    else
      let found ← expression fuel ending placed
      let after ← ending.peek found.rest
      if after == "=" then
        match found.form with
        | .value word => ending.report (.valueArgument word)
        | _ => ending.report .namelessArgument
      else if before != .unnamed then ending.report (.lateArgument (before == .unpacked))
      else if after == ":=" then
        following before (← expression fuel ending (found.rest.drop 1)).rest
      else if after == "for" || after == "async" then
        let rest ← clauses fuel ending found.rest
        if (← ending.peek rest) == "," then ending.report .bareComprehension
        else ending.expect ")" rest
      else following before found.rest

/-- Read what follows an opening brace: a dictionary or a set. -/
def collection : Nat → Ending → List Placed → Reader Found
  | 0, _, _ => failure
  | fuel + 1, ending, placed => do
    let mark ← ending.peek placed
    if mark == "\x7d" then return made "dict literal" .emptyDictionary (placed.drop 1)
    else if mark == "**" then entries fuel ending (made "dict literal" .emptyDictionary placed)
    else if mark == "*" then items fuel ending "\x7d" (made "set display" .emptySet placed)
    else
      let first ← named fuel ending placed
      let after ← ending.peek first.rest
      let single := Worth.emptySet.setWith first.worth
      if after == ":" then entry fuel ending (made "dict literal" .emptyDictionary []) first
      else if after == "," then
        items fuel ending "\x7d" (made "set display" single (first.rest.drop 1))
      else if after == "\x7d" then return made "set display" single (first.rest.drop 1)
      else
        let rest ← clauses fuel ending first.rest
        return made "set comprehension" .malformed (← ending.expect "\x7d" rest)

/-- Read the rest of the entries of a dictionary. -/
def entries : Nat → Ending → Found → Reader Found
  | 0, _, _ => failure
  | fuel + 1, ending, found => do
    let mark ← ending.peek found.rest
    if mark == "\x7d" then return { found with rest := found.rest.drop 1 }
    else if mark == "**" then
      let item ← level fuel ending tightest (found.rest.drop 1)
      let worth := found.worth.dictionaryWith (.none .unpacked) item.worth
      entryEnd fuel ending { found with worth, rest := item.rest }
    else
      let key ← expression fuel ending found.rest
      if (← ending.peek key.rest) == ":" then entry fuel ending found key
      else ending.report .missingColon

/-- Read the value of a key, and the entries after it. -/
def entry : Nat → Ending → Found → Found → Reader Found
  | 0, _, _, _ => failure
  | fuel + 1, ending, found, key => do
    let start := key.rest.drop 1
    match ← attempt (expression fuel ending start) with
    | some value =>
      let worth := found.worth.dictionaryWith key.worth value.worth
      entryEnd fuel ending { found with worth, rest := value.rest }
    | none =>
      let mark ← ending.peek start
      if mark == "*" then
        let _ ← level fuel ending tightest (start.drop 1)
        ending.report .starredValue
      else if mark == "\x7d" || mark == "," then ending.report .missingValue
      else failure

/-- Read what follows an entry of a dictionary. -/
def entryEnd : Nat → Ending → Found → Reader Found
  | 0, _, _ => failure
  | fuel + 1, ending, found => do
    let mark ← ending.peek found.rest
    if mark == "," then entries fuel ending { found with rest := found.rest.drop 1 }
    else if mark == "\x7d" then return { found with rest := found.rest.drop 1 }
    else
      let rest ← clauses fuel ending found.rest
      return made "dict comprehension" .malformed (← ending.expect "\x7d" rest)

/-- Read the clauses of a comprehension. -/
def clauses : Nat → Ending → List Placed → Reader (List Placed)
  | 0, _, _ => failure
  | fuel + 1, ending, placed => do
    let isAsync := (← ending.peek placed) == "async"
    let start ← ending.expect "for" (if isAsync then placed.drop 1 else placed)
    let source ← ending.expect "in" (← targets fuel ending start)
    let found ← level fuel ending 0 source
    let rest ← if (← ending.peek found.rest) == "if" then do
        let condition ← level fuel ending 0 (found.rest.drop 1)
        pure condition.rest
      else pure found.rest
    return (← attempt (clauses fuel ending rest)).getD rest

/-- Read the targets of a clause. -/
def targets : Nat → Ending → List Placed → Reader (List Placed)
  | 0, _, _ => failure
  | fuel + 1, ending, placed => do
    let found ← level fuel ending tightest placed
    if (← ending.peek found.rest) != "," then return found.rest
    let rest := found.rest.drop 1
    return (← attempt (targets fuel ending rest)).getD rest

/-- Read expressions that commas separate. -/
def sequence : Nat → Ending → List Placed → Reader Found
  | 0, _, _ => failure
  | fuel + 1, ending, placed => do
    let found ← expression fuel ending placed
    if (← ending.peek found.rest) != "," then return found
    match ← attempt (sequence fuel ending (found.rest.drop 1)) with
    | some more => return made "tuple" (found.worth.tupleWith more.worth) more.rest
    | none => return made "tuple" (Worth.plain.tupleWith found.worth) (found.rest.drop 1)

end

/-- The most rules that are applied between two lexemes. -/
def rulesPerLexeme : Nat := 24

/-- The reason of an expression that ends too early, or that of an open parenthesis on a line before
the last lexeme that was looked at. -/
def Ending.preferred (ending : Ending) (reason : Reason) (last : Option Placed) : Reason :=
  match ending.reason, last with
  | some (.neverClosed opening line), some last =>
    if line < last.line then .neverClosed opening line else reason
  | _, _ => reason

/-- Read a whole text. -/
def whole (ending : Ending) (placed : List Placed) : Reader Worth := do
  let found ← sequence (rulesPerLexeme * (placed.length + 2)) ending placed
  let rest := found.rest.dropWhile fun next => next.lexeme == .lineEnd
  let _ ← ending.peek rest
  match rest with
  | [] => return found.worth
  | ⟨.indent, _, _⟩ :: _ => throwThe Reason .indented
  | _ => failure

/-- What a text is worth as an expression; if it is none, the reason. -/
def worth (cs : List Char) : Except Reason Worth := do
  let (placed, reason) ← lexemes cs
  let ending : Ending := { reason }
  let (result, unseen) := (whole ending placed).run.run placed.length
  let last := placed[placed.length - 1 - unseen]?
  match result with
  | .ok (some worth) => return worth
  | .ok none => throw (ending.preferred .unreadable last)
  | .error reason => throw (ending.preferred reason last)

end PredicateIndex.Literal
