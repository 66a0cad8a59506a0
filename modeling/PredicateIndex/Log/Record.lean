import PredicateIndex.Log.Level
import PredicateIndex.Value.Display

/-!
# Log records

A record has a level, an event and fields. The name of the logger and the identifier of the running
analysis join the fields; a field named like a fixed part of the record gives way to it. A record is
written as one object, or as one readable line: the level in brackets, the event, the name of the
logger in brackets, and the other fields in the order of their keys. A stack and an exception are
texts that follow the line; if one is given and is no text, the line cannot be written.
-/
namespace PredicateIndex

/-- The identifier that the records of one analysis share. -/
inductive AnalysisId where
  /-- An identifier given by a caller. -/
  | given (name : String)
  /-- An identifier made at random. -/
  | generated
  deriving DecidableEq, Repr

/-- The length of an identifier made at random. -/
def AnalysisId.generatedLength : Nat := 12

/-- The identifier for a request: an empty or absent name gets one made at random. -/
def AnalysisId.ofRequest : Option String → AnalysisId
  | some name => if name.isEmpty then .generated else .given name
  | none => .generated

/-- A log record. -/
structure LogRecord where
  /-- How important it is. -/
  level : LogLevel
  /-- What happened. -/
  event : String
  /-- The fields it was logged with. -/
  fields : Fields := []
  /-- The name of the logger; an empty one counts as none. -/
  logger : Option String := none
  /-- The identifier of the running analysis. -/
  analysisId : Option String := none
  deriving Repr

namespace LogRecord

/-- The record that a word asks for; an exception is looked for unless the fields say otherwise. -/
def ofWord? (word event : String) (fields : Fields) (logger analysisId : Option String) :
    Option LogRecord :=
  (LogLevel.ofWord? word).map fun level =>
    let fields := if word == "exception" && !fields.has "exc_info" then
      fields.put "exc_info" (.bool true) else fields
    { level, event, fields, logger, analysisId }

/-- Whether a field gives way to a fixed part of the record. -/
def isFixed (key : String) : Bool := key == "level" || key == "event" || key == "timestamp"

/-- All fields but the fixed parts. -/
def allFields (record : LogRecord) : Fields :=
  let named : Fields := match record.logger.filter fun name => !name.isEmpty with
    | some name => [("logger", .text name)]
    | none => []
  let logged := record.fields.foldl (fun fields (key, value) => fields.put key value) named
  let plain : Fields := logged.filter fun (key, _) => !isFixed key
  match record.analysisId with
  | some id => plain.put "analysis_id" (.text id)
  | none => plain

/-- The record as one object; whether an exception was looked for is left out. -/
def toValue (record : LogRecord) : Value :=
  .object (("event", .text record.event) :: ("level", .text record.level.name) ::
    record.allFields.remove "exc_info")

/-- Whether a text must be quoted in a line. -/
def needsQuotes (text : String) : Bool :=
  text.toList.any fun c =>
    c == ' ' || c == '\t' || c == '=' || c == '\r' || c == '\n' || c == '"' || c == '\''

/-- A value in a line: a text without special characters stands for itself. -/
def lineValue : Value → String
  | .text s => if needsQuotes s then Text.quoted s else s
  | v => v.literal

/-- The value of a field in brackets. -/
def bracketed (fields : Fields) (key : String) : List String :=
  ((fields.get? key).map fun value => "[" ++ value.display ++ "]").toList

/-- A text without spaces at its end. -/
def trimEnd (text : String) : String :=
  String.ofList (text.toList.reverse.dropWhile (· == ' ')).reverse

/-- The fields that are not written among the others in a line. -/
def isApart (key : String) : Bool :=
  ["logger", "logger_name", "stack", "exception", "exc_info"].contains key

/-- The record as one line, without what follows it. -/
def headLine (record : LogRecord) : String :=
  let fields := record.allFields
  let sorted := (fields.filter fun (key, _) => !isApart key).mergeSort fun a b =>
    !(Text.codePoints b.1 < Text.codePoints a.1)
  let parts := ["[" ++ record.level.name ++ "]", record.event] ++ bracketed fields "logger" ++
    bracketed fields "logger_name" ++ sorted.map fun (key, value) => key ++ "=" ++ lineValue value
  trimEnd (String.intercalate " " (parts.filter fun part => !part.isEmpty))

/-- A field that follows the line: nothing if it is not given, and its text if it is one. -/
def following? (fields : Fields) (key : String) : Option (Option String) :=
  match (fields.get? key).getD .null with
  | .null => some none
  | .text s => some (some s)
  | _ => none

/-- Whether a record asks for the running exception. -/
def asksException (fields : Fields) : Bool :=
  match (fields.get? "exc_info").getD .null with
  | .null => false
  | .bool b => b
  | .int n => n != 0
  | .float x => x.code != 0
  | .text s => !s.isEmpty
  | .list items => !items.isEmpty
  | .object entries => !entries.isEmpty

/-- The record as a line and what follows it, if both can be written. A rule stands between a stack
and an exception. -/
def line? (record : LogRecord) : Option String := do
  let fields := record.allFields
  let stack ← following? fields "stack"
  let exception ← following? fields "exception"
  let rule := if asksException fields || exception.isSome then
    "\n\n" ++ String.ofList (List.replicate 79 '=') ++ "\n" else ""
  return record.headLine ++ ((stack.map fun text => "\n" ++ text ++ rule).getD "")
    ++ ((exception.map ("\n" ++ ·)).getD "")

end LogRecord

end PredicateIndex
