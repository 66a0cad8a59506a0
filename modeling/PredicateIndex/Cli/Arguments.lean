import PredicateIndex.Cli.Usage
import PredicateIndex.Path.Disk
import PredicateIndex.Text.Utf8

/-!
# Reading a command line

The options of the program stand before the name of the command; those of a command may also follow
its arguments. Two dashes end the options. All options are read before any takes effect, and the first
that asks for help or the version ends the reading. Then the arguments are checked in their order,
and last that there are no others.
-/
namespace PredicateIndex.Cli

/-- An option. -/
inductive Flag where
  /-- Show the help text. -/
  | help
  /-- Show the version. -/
  | version
  /-- Log everything. -/
  | verbose
  /-- Print values. -/
  | json
  deriving DecidableEq, Repr

/-- The options of a command or of the program by their long names. -/
def longFlags : Scope → List (String × Flag)
  | none => [("--version", .version), ("--verbose", .verbose), ("--help", .help)]
  | some .analyze => [("--json", .json), ("--help", .help)]
  | some _ => [("--help", .help)]

/-- The options of a command or of the program by their letters. -/
def shortFlags : Scope → List (Char × Flag)
  | none => [('v', .verbose)]
  | some _ => []

/-- The option of a letter. -/
def shortFlag (scope : Scope) (letter : List Char) : Except Problem Flag :=
  match (shortFlags scope).find? fun (known, _) => letter == [known] with
  | some (_, flag) => .ok flag
  | none => .error (.unknownOption (String.ofList ('-' :: letter)) [])

/-- The options that a word gives: one by its long name, or one for each letter after a dash. -/
def flagsOf (scope : Scope) (word : String) : Except Problem (List Flag) :=
  let name := String.ofList (word.toList.takeWhile (· != '='))
  match (longFlags scope).lookup name with
  | some flag => if name == word then .ok [flag] else .error (.needlessValue name)
  | none =>
    if word.startsWith "--" then
      .error (.unknownOption name (resembling name ((longFlags scope).map Prod.fst)))
    else (Text.units (word.toList.drop 1)).mapM (shortFlag scope)

/-- Whether a word gives options: it has a dash and something after it. -/
def isOption (word : String) : Bool := word.startsWith "-" && word != "-"

/-- The options and the arguments of a command line. The options of the program end at the first
argument. -/
def scan (scope : Scope) : List String → Except Problem (List Flag × List String)
  | [] => .ok ([], [])
  | word :: rest =>
    if word == "--" then .ok ([], rest)
    else if isOption word then do
      let flags ← flagsOf scope word
      let (more, arguments) ← scan scope rest
      return (flags ++ more, arguments)
    else if scope.isNone then .ok ([], word :: rest)
    else do
      let (flags, arguments) ← scan scope rest
      return (flags, word :: arguments)

/-- A source file that a command line names. -/
structure SourceFile where
  /-- Its absolute path. -/
  id : String
  /-- Its text. -/
  text : String
  deriving DecidableEq, Repr

/-- The text of a source file: what cannot be decoded is replaced, and all lines end alike. -/
def sourceText (bytes : List UInt8) : String :=
  String.ofList (Utf8.unifyNewlines (Utf8.decodeLossy bytes).toList)

/-- What is to be done. -/
inductive Task where
  /-- Report the predicates and diagnostics of files, as text or as values. -/
  | analyze (asJson : Bool) (files : List SourceFile)
  /-- List the predicates of a file. -/
  | outline (file : SourceFile)
  /-- List the calls of a predicate. -/
  | refs (indicator : String) (files : List SourceFile)
  /-- Find where a predicate is defined. -/
  | definition (indicator : String) (files : List SourceFile)
  deriving DecidableEq, Repr

/-- The command of a task. -/
def Task.command : Task → Command
  | .analyze _ _ => .analyze
  | .outline _ => .outline
  | .refs _ _ => .refs
  | .definition _ _ => .definition

/-- What a command line asks for. -/
inductive Request where
  /-- The help text. -/
  | help (scope : Scope)
  /-- The version. -/
  | version
  /-- A task, with all or the configured logging. -/
  | perform (verbose : Bool) (task : Task)
  deriving DecidableEq, Repr

/-- Why a command line asks for nothing. -/
inductive Refusal where
  /-- It is empty. -/
  | nothing
  /-- It is not as its usage line says. -/
  | usage (scope : Scope) (problem : Problem)
  /-- It names a file by a text with a null character. -/
  | nullCharacter
  /-- It names a file by a text that cannot be encoded. -/
  | unencodable (fault : Utf8.EncodeFault)
  deriving DecidableEq, Repr

/-- The files that a command line can name. -/
structure Workspace where
  /-- The working directory. -/
  directory : FilePath
  /-- The files. -/
  disk : Disk := []
  deriving Repr

/-- The source file that an argument names. -/
def sourceFile (workspace : Workspace) (command : Command) (argument path : String) :
    Except Refusal SourceFile := do
  if let some fault := Utf8.nameFault? path then throw (.unencodable fault)
  if path.toList.contains '\x00' then throw .nullCharacter
  let shown := Utf8.shownName path
  match Disk.place workspace.disk workspace.directory path with
  | .file path bytes => return { id := path.text, text := sourceText bytes }
  | .directory => throw (.usage command (.directory argument shown))
  | .missing => throw (.usage command (.noFile argument shown))

/-- The source files that the last arguments name; there must be one. -/
def sourceFiles (workspace : Workspace) (command : Command) (paths : List String) :
    Except Refusal (List SourceFile) :=
  if paths.isEmpty then .error (.usage command (.missing "FILES..."))
  else paths.mapM (sourceFile workspace command "FILES...")

/-- The task that a command and its arguments name. -/
def task (workspace : Workspace) (command : Command) (flags : List Flag)
    (arguments : List String) : Except Refusal Task :=
  match command, arguments with
  | .analyze, files => do
    return .analyze (flags.contains .json) (← sourceFiles workspace command files)
  | .outline, [] => .error (.usage command (.missing "FILE"))
  | .outline, path :: rest => do
    let file ← sourceFile workspace command "FILE" path
    if rest.isEmpty then return .outline file else throw (.usage command (.extra rest))
  | .refs, indicator :: files => do
    return .refs indicator (← sourceFiles workspace command files)
  | .definition, indicator :: files => do
    return .definition indicator (← sourceFiles workspace command files)
  | .refs, [] | .definition, [] => .error (.usage command (.missing "INDICATOR"))

/-- What options ask for by themselves: the first of help and version. -/
def asked? (scope : Scope) (flags : List Flag) : Option Request :=
  flags.findSome? fun
    | .help => some (.help scope)
    | .version => some .version
    | _ => none

/-- The options and arguments of a scope. -/
def scanned (scope : Scope) (words : List String) : Except Refusal (List Flag × List String) :=
  (scan scope words).mapError (.usage scope)

/-- What words after the name of a command ask for. -/
def readCommand (workspace : Workspace) (verbose : Bool) (command : Command)
    (words : List String) : Except Refusal Request := do
  let (flags, arguments) ← scanned command words
  match asked? command flags with
  | some request => return request
  | none => return .perform verbose (← task workspace command flags arguments)

/-- What an unknown command asks for: it may be an option that stands after two dashes. -/
def readUnknown (name : String) (words : List String) : Except Refusal Request := do
  let (flags, _) ← scanned none words
  match asked? none flags with
  | some request => return request
  | none =>
    throw (.usage none (.unknownCommand name (resembling name (Command.all.map Command.name))))

/-- What a command line asks for. -/
def read (workspace : Workspace) (words : List String) : Except Refusal Request := do
  if words.isEmpty then throw .nothing
  let (flags, rest) ← scanned none words
  match asked? none flags, rest with
  | some request, _ => return request
  | none, [] => throw (.usage none .noCommand)
  | none, name :: after =>
    match Command.ofName? name with
    | some command => readCommand workspace (flags.contains .verbose) command after
    | none => readUnknown name rest

end PredicateIndex.Cli
