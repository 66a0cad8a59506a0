import PredicateIndex.Path.Basic
import PredicateIndex.Path.Url

/-!
# The name of a source copy

The analyzer works on a copy of a document. The copy has the last name of the document's
identifier, which is a path with slashes or backslashes or a URL; an identifier without a name
gives the default name. The analyzer's output is named after the copy without its suffix.
-/
namespace PredicateIndex.SourceName

/-- The name of a copy whose document has none. -/
def default : String := "source.pl"

/-- Whether a text holds the mark of a URL. -/
def isUrl : List Char → Bool
  | [] => false
  | c :: rest => "://".toList.isPrefixOf (c :: rest) || isUrl rest

/-- The path that an identifier names. -/
def pathOf (file : String) : Except Url.Refusal (List Char) :=
  if isUrl file.toList then (Url.path file).map Url.unquote else .ok file.toList

/-- The name of the copy of a document. -/
def ofFile (file : String) : Except Url.Refusal String := do
  let path ← pathOf file
  let slashed := path.map fun c => if c == '\\' then '/' else c
  let name := (FilePath.ofText (String.ofList slashed)).name
  return if name.isEmpty then default else name

/-- The name of the output that the analyzer writes for a copy. -/
def outputOf (name : String) : String := FilePath.stemOf name ++ ".AST.json"

end PredicateIndex.SourceName
