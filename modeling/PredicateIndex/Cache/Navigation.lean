import PredicateIndex.Cache.Lookup

/-!
# Navigation

What an editor asks about the predicate under its cursor, answered in editor coordinates.
-/
namespace PredicateIndex

/-- A range of a file in an editor. -/
structure Location where
  /-- The file. -/
  file : String
  /-- The range. -/
  range : EditorRange
  deriving DecidableEq, Repr

/-- An entry of the outline of a file. -/
structure Symbol where
  /-- The written form of the predicate. -/
  name : String
  /-- What the entry covers. -/
  range : EditorRange
  /-- What is selected when the entry is chosen. -/
  selection : EditorRange
  deriving DecidableEq, Repr

/-- Where a definition stands. -/
def DefinitionMatch.location (found : DefinitionMatch) : Location :=
  { file := found.file, range := found.record.definition.toEditor }

/-- Where a call stands. -/
def CallMatch.location (found : CallMatch) : Location :=
  { file := found.file, range := found.call.location.toEditor }

namespace Cache

/-- The definition of the element under a cursor: a head is its own definition, and a call leads to
the first definition of what it calls. -/
def gotoDefinition (cache : Cache) (file : String) (position : Position) : Option Location := do
  match ← cache.elementAt? file position with
  | .head definition => return definition.location
  | .call reference =>
    return (← cache.definition? reference.call.name reference.call.arity).location

/-- The calls of the predicate under a cursor, followed on request by its first definition. -/
def referencesAt (cache : Cache) (file : String) (position : Position) (withDeclaration : Bool) :
    Option (List Location) := do
  let (name, arity) := (← cache.elementAt? file position).subject
  let calls := (cache.references name arity).map CallMatch.location
  let declaration := if withDeclaration then (cache.definition? name arity).toList else []
  return calls ++ declaration.map DefinitionMatch.location

/-- The outline of a file: one symbol for each predicate. -/
def outline (cache : Cache) (file : String) : Option (List Symbol) := do
  let index ← cache.get? file
  return index.predicates.map fun record =>
    { name := record.key, range := record.definition.toEditor
      selection := record.definition.toEditor }

end Cache

end PredicateIndex
