import PredicateIndex.Value.Display

/-!
# Reported failures

A failure has a numbered code, a message, whether trying again may help, and details. Codes from
2000 concern the configuration, codes from 3000 the analyzer, and 9001 everything else.
-/
namespace PredicateIndex

/-- The kinds of failure that have a number. -/
inductive ErrorCode where
  /-- A configuration file is no mapping. -/
  | configParse
  /-- A setting has a refused value. -/
  | configInvalid
  /-- No analyzer executable was found. -/
  | analyzerNotFound
  /-- The analyzer could not be run. -/
  | analyzerFailed
  /-- The analyzer wrote no output. -/
  | analyzerNoOutput
  /-- The analyzer's output is no syntax tree. -/
  | analyzerMalformed
  /-- An unexpected error. -/
  | internal
  deriving DecidableEq, Repr

namespace ErrorCode

/-- All codes, in the order of their numbers. -/
def all : List ErrorCode :=
  [.configParse, .configInvalid, .analyzerNotFound, .analyzerFailed, .analyzerNoOutput,
   .analyzerMalformed, .internal]

/-- The number of a code. -/
def number : ErrorCode → Nat
  | .configParse => 2001
  | .configInvalid => 2002
  | .analyzerNotFound => 3001
  | .analyzerFailed => 3002
  | .analyzerNoOutput => 3003
  | .analyzerMalformed => 3004
  | .internal => 9001

/-- The name of a code in logs and reports. -/
def name : ErrorCode → String
  | .configParse => "CONFIG_PARSE_ERROR"
  | .configInvalid => "CONFIG_INVALID_VALUE"
  | .analyzerNotFound => "ANALYZER_NOT_FOUND"
  | .analyzerFailed => "ANALYZER_FAILED"
  | .analyzerNoOutput => "ANALYZER_NO_OUTPUT"
  | .analyzerMalformed => "ANALYZER_MALFORMED_OUTPUT"
  | .internal => "INTERNAL_ERROR"

/-- The code of a number. -/
def ofNumber? (n : Int) : Option ErrorCode := all.find? fun code => (code.number : Int) == n

/-- What is said of a value that is no number of a code. -/
def unknownMessage (v : Value) : String := v.literal ++ " is not a valid ErrorCode"

end ErrorCode

/-- A failure with its context. -/
structure Failure where
  /-- What kind of failure it is. -/
  code : ErrorCode
  /-- What went wrong. -/
  message : String
  /-- Whether trying again may help. -/
  retryable : Bool := false
  /-- The values the message speaks about. -/
  details : Fields := []
  deriving Repr

namespace Failure

/-- The failure as one line. -/
def line (failure : Failure) : String :=
  s!"[{failure.code.number}] {failure.code.name}: {failure.message}"

/-- The failure as a value. -/
def toValue (failure : Failure) : Value :=
  .object [("code", .int failure.code.number), ("error", .text failure.code.name),
    ("message", .text failure.message), ("retryable", .bool failure.retryable),
    ("details", .object failure.details)]

/-- A configuration file that is no mapping. -/
def configParse (path reason : String) : Failure where
  code := .configParse
  message := s!"Failed to parse config at {path}: {reason}"
  details := [("path", .text path), ("reason", .text reason)]

/-- A setting with a refused value, which is given as it is shown. -/
def configInvalid (field shown reason : String) : Failure where
  code := .configInvalid
  message := s!"Invalid value for '{field}': {reason}"
  details := [("field", .text field), ("value", .text shown), ("reason", .text reason)]

/-- No analyzer executable was found; an empty configured path counts as none. -/
def analyzerNotFound (configured : Option String) : Failure where
  code := .analyzerNotFound
  message :=
    let place := match configured with
      | some path => if path.isEmpty then "bundled or PATH lookup" else s!"configured path '{path}'"
      | none => "bundled or PATH lookup"
    s!"Analyzer executable could not be located ({place}). Check the 'analyzer.path' setting."
  details := [("configured", .ofText? configured)]

/-- The analyzer could not be run; trying again may help. -/
def analyzerFailed (reason : String) (details : Fields) : Failure where
  code := .analyzerFailed
  message := reason
  retryable := true
  details

/-- The analyzer wrote no output. -/
def analyzerNoOutput (output : String) (exitCode : Option Int) : Failure where
  code := .analyzerNoOutput
  message :=
    if exitCode == some 0 then
      s!"Analyzer ran successfully but produced no output file ({output})."
    else
      let shown := (Value.ofInt? exitCode).display
      s!"Analyzer failed (code {shown}) and produced no output file."
  details := [("output", .text output), ("exit_code", .ofInt? exitCode)]

/-- The analyzer's output is no syntax tree. -/
def analyzerMalformed (reason : String) : Failure where
  code := .analyzerMalformed
  message := s!"Error processing analyzer output: {reason}"
  details := [("reason", .text reason)]

/-- An unexpected error. -/
def internal (reason : String) (details : Fields) : Failure where
  code := .internal
  message := s!"Internal analysis error: {reason}"
  details

end Failure

end PredicateIndex
