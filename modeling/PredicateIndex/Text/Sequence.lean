/-!
# Control sequences of terminals

A control sequence starts with an escape character and an opening bracket, goes on with digits,
semicolons and question marks, and ends with a letter. Texts that do not go to a terminal are printed
without them.
-/
namespace PredicateIndex.Text

/-- Whether a character can stand inside a control sequence. -/
def isParameter (c : Char) : Bool := c.isDigit || c == ';' || c == '?'

/-- What follows the control sequence at the start of a text, if there is one. -/
def afterSequence? : List Char → Option (List Char)
  | '\x1b' :: '[' :: rest =>
    match rest.dropWhile isParameter with
    | c :: after => if c.isAlpha then some after else none
    | [] => none
  | _ => none

/-- Characters without their control sequences. The fuel bounds their number. -/
def withoutSequencesWithin : Nat → List Char → List Char
  | 0, cs => cs
  | _, [] => []
  | fuel + 1, c :: rest =>
    match afterSequence? (c :: rest) with
    | some after => withoutSequencesWithin fuel after
    | none => c :: withoutSequencesWithin fuel rest

/-- A text without its control sequences. Each step takes a character, so its length is fuel enough. -/
def withoutSequences (text : String) : String :=
  String.ofList (withoutSequencesWithin text.length text.toList)

end PredicateIndex.Text
