import PredicateIndex.Text.Utf8
import PredicateIndex.Yaml.Node
import PredicateIndex.Yaml.Resolve
import PredicateIndex.Yaml.Scan

/-!
# From nodes to a document

A repeated key has its last value at its first place, and no list or mapping can be a key. The pairs
of a mapping, or of a list of mappings, under the key `<<` are merged into the mapping that holds it:
they come before its own pairs, and those of the first mapping of a list come last of the merged ones,
so that the nearer value counts. Scalars get their meaning level by level from the outside in, and the
first that has none is the error.
-/
namespace PredicateIndex.Yaml

namespace Node

/-- Whether a node is a plain scalar of some text. -/
def isPlainText (text : String) : Node → Bool
  | .scalar characters isPlain => isPlain && String.ofList characters == text
  | _ => false

/-- A key as it counts in a mapping: the mark of a value is a text there. -/
def asKey (node : Node) : Node :=
  if node.isPlainText valueMark then .scalar valueMark.toList false else node

mutual

/-- The pairs that a node under `<<` brings in. -/
def merged : Node → Except ReadError (List (Node × Node))
  | .mapping pairs => do
    let (fromOthers, own) ← sorted pairs
    return fromOthers ++ own
  | .sequence items => mergedItems items
  | .scalar _ _ => .error .malformed

/-- The pairs that a list of mappings brings in, those of the last mapping first. -/
def mergedItems : List Node → Except ReadError (List (Node × Node))
  | [] => .ok []
  | .mapping pairs :: rest => do
    let (fromOthers, own) ← sorted pairs
    return (← mergedItems rest) ++ (fromOthers ++ own)
  | _ :: _ => .error .malformed

/-- The pairs that are merged into a mapping, and its own. -/
def sorted : List (Node × Node) → Except ReadError (List (Node × Node) × List (Node × Node))
  | [] => .ok ([], [])
  | (key, value) :: rest => do
    if key.isPlainText mergeMark then
      let brought ← merged value
      let (fromOthers, own) ← sorted rest
      return (brought ++ fromOthers, own)
    else
      let (fromOthers, own) ← sorted rest
      return (fromOthers, (key.asKey, value) :: own)

end

/-- The pairs of a mapping after merging. -/
def allPairs (pairs : List (Node × Node)) : Except ReadError (List (Node × Node)) :=
  merged (.mapping pairs)

/-- The meaning of a scalar. -/
def scalarValue (characters : List Char) (isPlain : Bool) : Except ReadError Yaml :=
  if isPlain then resolve characters else .ok (.text (String.ofList characters))

/-- Check a node that is met on a level: a scalar must have a meaning, anything else is put off. -/
def meet : Node → Except ReadError (List Node)
  | .scalar characters isPlain => (scalarValue characters isPlain).map fun _ => []
  | node => .ok [node]

/-- Check the pairs of a mapping: a key must be a scalar. -/
def meetPairs : List (Node × Node) → Except ReadError (List Node)
  | [] => .ok []
  | (key, value) :: rest => do
    let keyParts ← meet key
    if !keyParts.isEmpty then throw .malformed
    return (← meet value) ++ (← meetPairs rest)

/-- Check what stands directly in a list or a mapping, and give what is put off. -/
def putOff : Node → Except ReadError (List Node)
  | .scalar _ _ => .ok []
  | .sequence items => return (← items.mapM meet).flatten
  | .mapping pairs => do meetPairs (← allPairs pairs)

/-- Check nodes that were put off, and what they put off in turn, in order. -/
def checkAll : Nat → List Node → Except ReadError Unit
  | 0, _ => .ok ()
  | _, [] => .ok ()
  | fuel + 1, node :: rest => do
    let further ← putOff node
    checkAll fuel (rest ++ further)

/-- The value of a node; the fuel bounds how deep it is nested. -/
def value : Nat → Node → Except ReadError Yaml
  | 0, _ => .error .malformed
  | _ + 1, .scalar characters isPlain => scalarValue characters isPlain
  | fuel + 1, .sequence items => return .list (← items.mapM (value fuel))
  | fuel + 1, .mapping pairs => do
    let entries ← (← allPairs pairs).foldlM (fun entries (key, item) => do
      return put entries (← value fuel key) (← value fuel item)) []
    return .mapping entries

end Node

/-- Read a document. Line ends of all systems count as line feeds. -/
def read (text : String) : Except ReadError Yaml := do
  let tokens := tokens (Utf8.unifyNewlines text.toList)
  let node ← Node.ofTokens tokens
  let fuel := tokens.length + 2
  Node.checkAll fuel (← node.meet)
  node.value fuel

end PredicateIndex.Yaml
