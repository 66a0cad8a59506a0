import PredicateIndex.Cache.Basic

/-!
# Lookups across files

Questions that the cache answers by going through its files in order: who defines a predicate, who
calls it, and what stands under a cursor.
-/
namespace PredicateIndex

/-- A predicate and the file that defines it. -/
structure DefinitionMatch where
  /-- The defining file. -/
  file : String
  /-- The record of the predicate there. -/
  record : PredicateRecord
  deriving DecidableEq, Repr

/-- A call, the file it stands in and the predicate whose clause it stands in. -/
structure CallMatch where
  /-- The calling file. -/
  file : String
  /-- The call. -/
  call : CallSite
  /-- The calling predicate. -/
  caller : PredicateRecord
  deriving DecidableEq, Repr

/-- What a cursor can stand on. -/
inductive Element where
  /-- The head of a predicate. -/
  | head (definition : DefinitionMatch)
  /-- The name of a called predicate. -/
  | call (reference : CallMatch)
  deriving DecidableEq, Repr

/-- The name and the arity of the predicate that an element speaks of. -/
def Element.subject : Element → String × Int
  | .head definition => (definition.record.name, definition.record.arity)
  | .call reference => (reference.call.name, reference.call.arity)

/-- Whether a call names a predicate. -/
def CallSite.calls (site : CallSite) (name : String) (arity : Int) : Bool :=
  site.name == name && site.arity == arity

/-- The calls of a record, each with the file and the record. -/
def PredicateRecord.callMatches (record : PredicateRecord) (file : String) : List CallMatch :=
  record.calls.map fun call => { file, call, caller := record }

/-- The elements of a record: its head, then its calls. -/
def PredicateRecord.elements (record : PredicateRecord) (file : String) : List Element :=
  .head { file, record } :: (record.callMatches file).map .call

/-- Where an element stands. -/
def Element.location : Element → SourceRange
  | .head definition => definition.record.definition
  | .call reference => reference.call.location

/-- The elements of an index, record by record. -/
def FileIndex.elements (index : FileIndex) (file : String) : List Element :=
  index.predicates.flatMap fun record => record.elements file

namespace Cache

/-- The definitions of a predicate, one for each file that has one. -/
def definitions (cache : Cache) (name : String) (arity : Int) : List DefinitionMatch :=
  cache.entries.filterMap fun (file, index) =>
    (index.predicate? name arity).map fun record => { file, record }

/-- The first definition of a predicate. -/
def definition? (cache : Cache) (name : String) (arity : Int) : Option DefinitionMatch :=
  (cache.definitions name arity).head?

/-- The calls of a predicate in all files. -/
def references (cache : Cache) (name : String) (arity : Int) : List CallMatch :=
  cache.entries.flatMap fun (file, index) =>
    index.predicates.flatMap fun record =>
      (record.callMatches file).filter fun found => found.call.calls name arity

/-- The first element of a file under an editor position. -/
def elementAt? (cache : Cache) (file : String) (position : Position) : Option Element := do
  let index ← cache.get? file
  (index.elements file).find? fun element => element.location.contains position

end Cache

end PredicateIndex
