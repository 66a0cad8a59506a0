import PredicateIndex.Analyzer.Settings
import PredicateIndex.Decimal.Binary64
import PredicateIndex.Log.Level
import PredicateIndex.Value

/-!
# Configuration

The settings in three sections: where and what to log, how to run the analyzer, and how long the
pipeline waits after a change. Every setting has a default.
-/
namespace PredicateIndex

/-- How log records are written. -/
inductive LogFormat where
  /-- One object per line. -/
  | json
  /-- One readable line. -/
  | console
  deriving DecidableEq, Repr

/-- The configured name of a format. -/
def LogFormat.name : LogFormat → String
  | .json => "json"
  | .console => "console"

/-- All formats. -/
def LogFormat.all : List LogFormat := [.json, .console]

/-- One place that log records go to. -/
structure LogOutput where
  /-- How records are written. -/
  format : LogFormat := .console
  /-- A standard stream, or the absolute path of a file. -/
  destination : String := "stderr"
  /-- The least level that is written; without one, that of all logging. -/
  level : Option LogLevel := none
  deriving DecidableEq, Repr, Inhabited

/-- Whether a destination names a standard stream. -/
def LogOutput.isStream (destination : String) : Bool :=
  destination == "stderr" || destination == "stdout"

/-- The logging section. -/
structure LogSettings where
  /-- The least level that is logged. -/
  level : LogLevel := .info
  /-- The outputs. -/
  outputs : List LogOutput := [{}]
  deriving DecidableEq, Repr, Inhabited

/-- The pipeline section. -/
structure PipelineSettings where
  /-- How many seconds the analysis of a changed document is held back. -/
  debounceSeconds : Binary64 := .ofDecimal false 5 (-1)
  deriving DecidableEq, Repr, Inhabited

/-- The configuration. -/
structure Config where
  /-- The logging section. -/
  logging : LogSettings := {}
  /-- The analyzer section. -/
  analyzer : AnalyzerSettings := {}
  /-- The pipeline section. -/
  pipeline : PipelineSettings := {}
  deriving DecidableEq, Repr, Inhabited

/-- An output as a value. -/
def LogOutput.toValue (output : LogOutput) : Value :=
  .object [("format", .text output.format.name), ("destination", .text output.destination),
    ("level", .ofText? (output.level.map LogLevel.settingName))]

/-- The logging section as a value. -/
def LogSettings.toValue (settings : LogSettings) : Value :=
  .object [("level", .text settings.level.settingName),
    ("outputs", .list (settings.outputs.map LogOutput.toValue))]

/-- The analyzer section as a value. -/
def AnalyzerSettings.toValue (settings : AnalyzerSettings) : Value :=
  .object [("path", .ofText? settings.path), ("args", .list (settings.args.map .text))]

/-- The pipeline section as a value. -/
def PipelineSettings.toValue (settings : PipelineSettings) : Value :=
  .object [("debounce_sec", .float settings.debounceSeconds)]

/-- The configuration as a value. -/
def Config.toValue (config : Config) : Value :=
  .object [("logging", config.logging.toValue), ("analyzer", config.analyzer.toValue),
    ("pipeline", config.pipeline.toValue)]

end PredicateIndex
