import PredicateIndex.Failure

/-!
# Failures asked for by name

A caller can ask for a failure by the name of its kind and pass the values it speaks about as named
arguments. The values may have any shape: messages show them as text, and the details keep them as
they are. Arguments that the kind does not take are refused before missing ones are.
-/
namespace PredicateIndex.Failure

/-- A failure whose parts are values of any shape. -/
structure Report where
  /-- What kind of failure it is. -/
  code : ErrorCode
  /-- What went wrong. -/
  message : Value
  /-- Whether trying again may help. -/
  retryable : Value := .bool false
  /-- The values the message speaks about. -/
  details : Value := .object []
  deriving Repr

namespace Report

/-- The report as one line. -/
def line (report : Report) : String :=
  s!"[{report.code.number}] {report.code.name}: {report.message.display}"

/-- The report as a value. -/
def toValue (report : Report) : Value :=
  .object [("code", .int report.code.number), ("error", .text report.code.name),
    ("message", report.message), ("retryable", report.retryable), ("details", report.details)]

end Report

/-- Why a request is refused. -/
inductive RequestFault where
  /-- An argument that the kind does not take. -/
  | unexpected (kind argument : String)
  /-- Arguments that the kind needs and that were not given. -/
  | missing (kind : String) (arguments : List String)
  /-- A value that is the number of no code. -/
  | unknownCode (value : Value)
  deriving Repr

/-- Names as they are listed in a sentence. -/
def listing : List String → String
  | [] => ""
  | [a] => s!"'{a}'"
  | [a, b] => s!"'{a}' and '{b}'"
  | names =>
    let last := names.getLastD ""
    String.intercalate ", " (names.dropLast.map fun name => s!"'{name}'") ++ s!", and '{last}'"

/-- The words of a fault. -/
def RequestFault.message : RequestFault → String
  | .unexpected kind argument => s!"{kind}() got an unexpected keyword argument '{argument}'"
  | .missing kind arguments =>
    let noun := if arguments.length == 1 then "argument" else "arguments"
    s!"{kind}() missing {arguments.length} required positional {noun}: {listing arguments}"
  | .unknownCode value => ErrorCode.unknownMessage value

/-- Whether a value counts as given: null, false, zero and everything empty do not. -/
def counts : Value → Bool
  | .null => false
  | .bool b => b
  | .int n => n != 0
  | .float x => x.code != 0
  | .text s => !s.isEmpty
  | .list items => !items.isEmpty
  | .object fields => !fields.isEmpty

/-- Whether an exit code is zero, however it is written. -/
def isZero : Value → Bool
  | .bool b => !b
  | .int n => n == 0
  | .float x => x.code == 0
  | _ => false

/-- A kind of failure that can be asked for. -/
structure Kind where
  /-- The name of the kind. -/
  name : String
  /-- The arguments it needs. -/
  needs : List String
  /-- Whether it takes further arguments, which become its details. -/
  isOpen : Bool := false
  /-- The failure, given the needed arguments by name and the further ones. -/
  report : (String → Value) → Fields → Report

/-- The kinds that can be asked for. -/
def kinds : List Kind :=
  [{ name := "ConfigError.parse_error", needs := ["path", "reason"]
     report := fun arg _ =>
       let path := (arg "path").display
       let reason := (arg "reason").display
       { code := .configParse
         message := .text s!"Failed to parse config at {path}: {reason}"
         details := .object [("path", arg "path"), ("reason", arg "reason")] } },
   { name := "ConfigError.invalid_value", needs := ["field", "value", "reason"]
     report := fun arg _ =>
       let setting := (arg "field").display
       let reason := (arg "reason").display
       { code := .configInvalid
         message := .text s!"Invalid value for '{setting}': {reason}"
         details := .object [("field", arg "field"), ("value", .text (arg "value").display),
           ("reason", arg "reason")] } },
   { name := "AnalyzerError.not_found", needs := ["configured"]
     report := fun arg _ =>
       let configured := arg "configured"
       let place :=
         if counts configured then s!"configured path '{configured.display}'"
         else "bundled or PATH lookup"
       { code := .analyzerNotFound
         message := .text (s!"Analyzer executable could not be located ({place}). "
           ++ "Check the 'analyzer.path' setting.")
         details := .object [("configured", configured)] } },
   { name := "AnalyzerError.failed", needs := ["reason"], isOpen := true
     report := fun arg further =>
       { code := .analyzerFailed, message := arg "reason", retryable := .bool true
         details := .object further } },
   { name := "AnalyzerError.no_output", needs := ["output_name", "exit_code"]
     report := fun arg _ =>
       let output := (arg "output_name").display
       let exit := arg "exit_code"
       { code := .analyzerNoOutput
         message := .text
           (if isZero exit then s!"Analyzer ran successfully but produced no output file ({output})."
            else s!"Analyzer failed (code {exit.display}) and produced no output file.")
         details := .object [("output", arg "output_name"), ("exit_code", exit)] } },
   { name := "AnalyzerError.malformed_output", needs := ["reason"]
     report := fun arg _ =>
       { code := .analyzerMalformed
         message := .text ("Error processing analyzer output: " ++ (arg "reason").display)
         details := .object [("reason", arg "reason")] } },
   { name := "InternalError.unexpected", needs := ["reason"], isOpen := true
     report := fun arg further =>
       { code := .internal
         message := .text ("Internal analysis error: " ++ (arg "reason").display)
         details := .object further } }]

/-- The code whose number a value is; a double counts as the integer it equals. -/
def codeOf? : Value → Option ErrorCode
  | .int n => ErrorCode.ofNumber? n
  | .float x => x.toInt?.bind ErrorCode.ofNumber?
  | _ => none

/-- A failure of a code given by its number. -/
def ofNumber (arguments : Fields) : Except RequestFault Report :=
  let arg := fun name => (arguments.get? name).getD .null
  match codeOf? (arg "code") with
  | none => .error (.unknownCode (arg "code"))
  | some code =>
    .ok { code, message := arg "message"
          retryable := (arguments.get? "retryable").getD (.bool false)
          details := (arguments.get? "details").getD (.object []) }

/-- The failure that is asked for; a name of no kind asks for it by its number. -/
def request (name : String) (arguments : Fields) : Except RequestFault Report :=
  match kinds.find? (·.name == name) with
  | none => ofNumber arguments
  | some kind =>
    let further := arguments.filter fun pair => !kind.needs.contains pair.1
    let missing := kind.needs.filter fun need => !arguments.has need
    match further.head?.filter fun _ => !kind.isOpen with
    | some pair => .error (.unexpected name pair.1)
    | none =>
      if missing.isEmpty then
        .ok (kind.report (fun need => (arguments.get? need).getD .null) further)
      else .error (.missing name missing)

end PredicateIndex.Failure
