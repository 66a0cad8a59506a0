import PredicateIndex.Text.Quoted
import PredicateIndex.Text.Similar

/-!
# Commands and how they are used

The program has four commands. Each has a line that says how it is used and a help text; the program
itself has both too. What is wrong with the use of a command is told below its usage line, and a name
that is not known is followed by the known ones that resemble it.
-/
namespace PredicateIndex.Cli

/-- The commands of the program. -/
inductive Command where
  /-- Report the predicates and diagnostics of files. -/
  | analyze
  /-- Find where a predicate is defined. -/
  | definition
  /-- List the predicates of a file. -/
  | outline
  /-- List the calls of a predicate. -/
  | refs
  deriving DecidableEq, Repr

/-- What a usage line is about: a command, or the program itself. -/
abbrev Scope := Option Command

namespace Command

/-- All commands in the order in which the help lists them. -/
def all : List Command := [analyze, definition, outline, refs]

/-- The name of a command. -/
def name : Command → String
  | analyze => "analyze"
  | definition => "definition"
  | outline => "outline"
  | refs => "refs"

/-- The command of a name. -/
def ofName? (name : String) : Option Command := all.find? fun command => command.name == name

/-- The arguments of a command, as its usage line names them. -/
def arguments : Command → List String
  | analyze => ["FILES..."]
  | outline => ["FILE"]
  | definition | refs => ["INDICATOR", "FILES..."]

/-- What a command does. -/
def description : Command → String
  | analyze => "Analyze FILES and report predicates and diagnostics per file."
  | definition => "Show where INDICATOR (NAME/ARITY) is defined among FILES."
  | outline => "Show the predicate outline of FILE."
  | refs => "List calls to INDICATOR (NAME/ARITY) across FILES."

end Command

/-- The version of the program. -/
def version : String := "0.1.0"

/-- What the program says about its version. -/
def versionText : String := "clauseindex, version " ++ version ++ "\n"

namespace Scope

/-- The words that start a command line. -/
def words (scope : Scope) : String := String.intercalate " " ("cli" :: scope.toList.map Command.name)

/-- What follows the options in a command line. -/
def arguments : Scope → List String
  | some command => command.arguments
  | none => ["COMMAND", "[ARGS]..."]

/-- The usage line. -/
def usage (scope : Scope) : String :=
  "Usage: " ++ String.intercalate " " (words scope :: "[OPTIONS]" :: arguments scope) ++ "\n"

/-- What a command or the program does. -/
def description : Scope → String
  | some command => command.description
  | none => "clauseindex - predicate definitions and call sites for Prolog sources."

/-- The options with their meaning. -/
def options : Scope → List (String × String)
  | none =>
    [("--version", "Show the version and exit."), ("-v, --verbose", "Enable debug logging"),
     ("--help", "Show this message and exit.")]
  | some .analyze => [("--json", "Output as JSON"), ("--help", "Show this message and exit.")]
  | some _ => [("--help", "Show this message and exit.")]

/-- The commands with their meaning. -/
def commands : Scope → List (String × String)
  | none => Command.all.map fun command => (command.name, command.description)
  | some _ => []

/-- A titled list of names, with their meanings in a column. -/
def listing (title : String) (entries : List (String × String)) : String :=
  let width := (entries.map fun (name, _) => name.length).foldl max 0
  let line := fun ((name, meaning) : String × String) =>
    "  " ++ name ++ String.ofList (List.replicate (width + 2 - name.length) ' ') ++ meaning ++ "\n"
  if entries.isEmpty then "" else "\n" ++ title ++ ":\n" ++ String.join (entries.map line)

/-- The help text. -/
def help (scope : Scope) : String :=
  usage scope ++ "\n  " ++ description scope ++ "\n" ++ listing "Options" (options scope) ++
    listing "Commands" (commands scope)

end Scope

/-- What is wrong with a command line. -/
inductive Problem where
  /-- An option is not known; others have similar names. -/
  | unknownOption (name : String) (similar : List String)
  /-- An option was given a value that it does not take. -/
  | needlessValue (name : String)
  /-- No command is named. -/
  | noCommand
  /-- A command is not known; others have similar names. -/
  | unknownCommand (name : String) (similar : List String)
  /-- An argument is missing. -/
  | missing (argument : String)
  /-- A file does not exist. -/
  | noFile (argument path : String)
  /-- A file is a directory. -/
  | directory (argument path : String)
  /-- There are more arguments than the command takes. -/
  | extra (arguments : List String)
  /-- A value is wrong. -/
  | badValue (reason : String)
  deriving DecidableEq, Repr

/-- The known names that resemble a word, in alphabetical order. -/
def resembling (word : String) (known : List String) : List String :=
  (known.filter (Text.resembles word)).mergeSort

/-- The words that propose other names. -/
def proposal : List String → String
  | [] => ""
  | [name] => " Did you mean " ++ Text.quoted name ++ "?"
  | names => " (Did you mean one of: " ++ String.intercalate ", " (names.map Text.quoted) ++ "?)"

/-- The words of a problem. -/
def Problem.message : Problem → String
  | .unknownOption name similar => "No such option " ++ Text.quoted name ++ "." ++ proposal similar
  | .needlessValue name => "Option " ++ Text.quoted name ++ " does not take a value."
  | .noCommand => "Missing command."
  | .unknownCommand name similar => "No such command " ++ Text.quoted name ++ "." ++ proposal similar
  | .missing argument => s!"Missing argument '{argument}'."
  | .noFile argument path =>
    s!"Invalid value for '{argument}': File " ++ Text.quoted path ++ " does not exist."
  | .directory argument path =>
    s!"Invalid value for '{argument}': File " ++ Text.quoted path ++ " is a directory."
  | .extra arguments =>
    let plural := if arguments.length == 1 then "" else "s"
    let listed := String.intercalate " " arguments
    s!"Got unexpected extra argument{plural} ({listed})"
  | .badValue reason => "Invalid value: " ++ reason

/-- Whether a problem is told below the usage line. -/
def Problem.showsUsage : Problem → Bool
  | .needlessValue _ => false
  | _ => true

/-- What is printed about a problem: the usage line, where help is found, and the problem. -/
def Problem.report (problem : Problem) (scope : Scope) : String :=
  let words := scope.words
  let usage := scope.usage ++ s!"Try '{words} --help' for help.\n\n"
  (if problem.showsUsage then usage else "") ++ "Error: " ++ problem.message ++ "\n"

end PredicateIndex.Cli
