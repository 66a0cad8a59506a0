import PredicateIndex.Log.Destination
import PredicateIndex.Log.Record

/-!
# Where log records go

A record passes three gates on its way to an output. The loggers that programs call and the root of
all loggers have the level of all logging, and each output has its own; an output without a level of
its own has that of all logging. Outputs that share a destination write to it in turn.
-/
namespace PredicateIndex

/-- A written record: an object or a line. -/
inductive LogEntry where
  /-- The record as an object. -/
  | object (value : Value)
  /-- The record as a line. -/
  | line (text : String)
  deriving Repr

/-- The least level of an output. -/
def LogOutput.threshold (output : LogOutput) (settings : LogSettings) : LogLevel :=
  output.level.getD settings.level

/-- Whether an output takes a line: a file takes only what can be encoded. -/
def LogOutput.takes (output : LogOutput) (line : String) : Bool :=
  LogOutput.isStream output.destination || Text.isWellFormed line

/-- A record as an output writes it; one that cannot be written is left out. -/
def LogOutput.write? (output : LogOutput) (record : LogRecord) : Option LogEntry :=
  match output.format with
  | .json => some (.object record.toValue)
  | .console => (record.line?.filter output.takes).map .line

/-- Whether a record has at least a level. -/
def LogRecord.reaches (record : LogRecord) (least : LogLevel) : Bool :=
  least.number ≤ record.level.number

/-- An output that is set up. -/
structure LogHandler where
  /-- The output. -/
  output : LogOutput
  /-- The least level of the records that it is handed. -/
  least : LogLevel
  deriving Repr

/-- A record that an output was handed. -/
structure Handover where
  /-- The position of the output in the settings. -/
  position : Nat
  /-- The output. -/
  output : LogOutput
  /-- The record. -/
  record : LogRecord
  deriving Repr

/-- What is written of a handover. -/
def Handover.written? (handover : Handover) : Option LogEntry :=
  handover.output.write? handover.record

/-- Logging while it goes on. -/
structure Logging where
  /-- The least level of the loggers that programs call. -/
  called : LogLevel
  /-- The least level of the root of all loggers. -/
  root : LogLevel
  /-- The outputs in turn. -/
  handlers : List LogHandler
  /-- What the outputs were handed, in order. -/
  journal : List Handover := []
  deriving Repr

namespace Logging

/-- Logging that is set up and has not logged anything. -/
def start (settings : LogSettings) : Logging :=
  { called := settings.level, root := settings.level
    handlers := settings.outputs.map fun output => { output, least := output.threshold settings } }

/-- What the outputs are handed of a record. -/
def handedOver (handlers : List LogHandler) (record : LogRecord) : List Handover :=
  (handlers.zipIdx.filter fun (handler, _) => record.reaches handler.least).map
    fun (handler, position) => { position, output := handler.output, record }

/-- Log a record. -/
def log (logging : Logging) (record : LogRecord) : Logging :=
  if record.reaches logging.called && record.reaches logging.root then
    { logging with journal := logging.journal ++ handedOver logging.handlers record }
  else logging

/-- Log records one after the other. -/
def logAll (logging : Logging) (records : List LogRecord) : Logging := records.foldl log logging

end Logging

namespace LogSettings

/-- What is written to a destination when records are logged. The null device keeps nothing. -/
def writtenTo (settings : LogSettings) (destination : String) (records : List LogRecord) :
    List LogEntry :=
  if FilePath.ofText destination == LogFile.nullDevice then []
  else
    let journal := ((Logging.start settings).logAll records).journal
    (journal.filter (·.output.destination == destination)).filterMap Handover.written?

/-- The first log file, if there is one. -/
def logFile? (settings : LogSettings) : Option String :=
  (settings.outputs.map LogOutput.destination).find? fun destination =>
    !LogOutput.isStream destination

/-- The settings of a simple setup: one output to the standard error stream. -/
def simple (level : LogLevel) (asJson : Bool) : LogSettings :=
  { level, outputs := [{ format := if asJson then .json else .console }] }

end LogSettings

end PredicateIndex
