/-!
# Settings of the analyzer

What an analysis is run with. The settings of a document come from a provider, which answers at once
or later, and may fail to answer; the defaults apply then.
-/
namespace PredicateIndex

/-- Where the analyzer is and what else it is told. -/
structure AnalyzerSettings where
  /-- The configured executable. -/
  path : Option String := none
  /-- Further arguments, placed before the source file. -/
  args : List String := []
  deriving DecidableEq, Repr, Inhabited

/-- What a provider answers when it is asked for the settings of a file. -/
inductive SettingsAnswer where
  /-- It gives settings. -/
  | given (settings : AnalyzerSettings)
  /-- It raises an exception with a message. -/
  | failed (reason : String)
  deriving DecidableEq, Repr

/-- The settings that a file is analyzed with: those of the answer, else the defaults. -/
def SettingsAnswer.settings : SettingsAnswer → AnalyzerSettings
  | .given settings => settings
  | .failed _ => {}

/-- How a provider answers for each file; without an answer, the one who asks has to wait for it. -/
abbrev SettingsProvider := String → Option SettingsAnswer

/-- The provider that has the same settings for every file. -/
def SettingsProvider.fixed (settings : AnalyzerSettings) : SettingsProvider :=
  fun _ => some (.given settings)

end PredicateIndex
