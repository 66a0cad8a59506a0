import PredicateIndex.Index.Calls

/-!
# Building the index of a tree

Clauses are grouped by the written form of their predicate. The first clause of a predicate fixes
its definition; later clauses add their calls and widen the full range. Building is total: a
clause whose head names no predicate is left out with a notice, and a parse error becomes a
diagnostic.
-/
namespace PredicateIndex

/-- A clause that defines a predicate. -/
structure Clause where
  /-- The name of the predicate. -/
  name : String
  /-- The arity of the predicate. -/
  arity : Int
  /-- The range of the head. -/
  definition : SourceRange
  /-- The range of the whole clause. -/
  full : SourceRange
  /-- The calls of the body. -/
  calls : List CallSite
  deriving DecidableEq, Repr

/-- The name and arity that a head gives to its clause. -/
def Term.headPredicate? : Term → Option (String × Int)
  | .compound _ name arity params =>
    if name.isEmpty then none else some (name, Term.declaredArity arity params)
  | .atom _ text => if text.isEmpty then none else some (text, 0)
  | _ => none

/-- The whole range of an item: its span, else from its position through its head. -/
def Item.fullRange (item : Item) (definition : SourceRange) : SourceRange :=
  match item.span with
  | some span => .ofSpan span.start.line span.start.column span.stop.line span.stop.column
  | none =>
    match item.mark.range? 0 with
    | some start => start.union definition
    | none => definition

/-- The head and the body of an item that is a clause. -/
def ItemBody.clause? : ItemBody → Option (Option Term × List Term)
  | .rule head body => some (head, body)
  | .fact head => some (head, [])
  | _ => none

/-- The clause of an item, if it is one and its head names a predicate. -/
def Item.toClause? (item : Item) : Option Clause := do
  let (head, body) ← item.body.clause?
  let head ← head
  let (name, arity) ← head.headPredicate?
  return { name, arity, definition := head.range, full := item.fullRange head.range,
           calls := Calls.inTerms body }

/-- The diagnostic of an item that is a parse error. -/
def Item.diagnostic? (item : Item) : Option Diagnostic :=
  match item.body with
  | .parseError kind =>
    let orOne := fun (n : Option Int) => if n.getD 0 == 0 then 1 else n.getD 0
    some { line := orOne item.mark.line, character := max (orOne item.mark.column - 1) 0
           message := kind ++ " error" }
  | _ => none

/-- The notices of an item: a clause without a usable head gives one, and any other clause gives
those of its head and of the calls in its body. -/
def Item.notices (file : String) (item : Item) : List IndexNotice :=
  match item.body.clause? with
  | none => []
  | some (head, body) =>
    match head.filter fun t => t.headPredicate?.isSome with
    | none => [.unsupportedHead file item.mark.line (head.map Term.tag)]
    | some t => t.positionNotices ++ Calls.noticesInTerms body

/-- The written form of the predicate of a clause. -/
def Clause.key (clause : Clause) : String := indicator clause.name clause.arity

/-- The record of a predicate with one clause. -/
def Clause.toRecord (clause : Clause) : PredicateRecord where
  name := clause.name
  arity := clause.arity
  definition := clause.definition
  full := clause.full
  calls := clause.calls

/-- A record widened by a further clause. -/
def PredicateRecord.extend (record : PredicateRecord) (clause : Clause) : PredicateRecord :=
  { record with full := record.full.union clause.full, calls := record.calls ++ clause.calls }

/-- Add a clause to the records: to the record of its predicate, or as a new record at the end. -/
def addClause : List PredicateRecord → Clause → List PredicateRecord
  | [], clause => [clause.toRecord]
  | record :: rest, clause =>
    if record.key == clause.key then record.extend clause :: rest
    else record :: addClause rest clause

/-- The clauses of a tree, in source order. -/
def Tree.clauses (tree : Tree) : List Clause := tree.items.filterMap Item.toClause?

/-- The index of a tree. The file is named by the caller, or else by the analyzer. -/
def Tree.index (tree : Tree) (filePath : Option String) : FileIndex where
  filePath := filePath.getD tree.file
  predicates := tree.clauses.foldl addClause []
  diagnostics := tree.items.filterMap Item.diagnostic?

/-- The notices of a tree, item by item. -/
def Tree.notices (tree : Tree) : List IndexNotice := tree.items.flatMap (Item.notices tree.file)

end PredicateIndex
