import PredicateIndex.Analyzer.Locate
import PredicateIndex.Analyzer.Tool

/-!
# The installed analyzer

The analyzer that finds its tool for each call and runs it. A home directory that is not known breaks
the analysis off before anything is tried.
-/
namespace PredicateIndex

/-- What a home directory that cannot be found breaks off. -/
def homeCrash (fault : FilePath.HomeFault) : Crash :=
  match fault with
  | .unknown => .analyzer fault.message
  | .nullCharacter => .conversion fault.message
  | .unencodable _ => .encoding fault.message

/-- The analyzer that runs a program found in its surroundings, in a directory of its own. -/
def installedAnalyzer (around : Locate.Surroundings) (directory : String)
    (program : Tool.Program) : Analyzer := fun call =>
  match Locate.tool around call.settings with
  | .error fault => { result := .error (homeCrash fault) }
  | .ok search =>
    let report := Tool.analyze search.found directory program call.file call.text call.settings
    { report.reply with notices := search.notices ++ report.reply.notices }

end PredicateIndex
