/-!
# Paths into data

Where in a structured value something stands: the fields and positions that lead there from the
root. Decoding adds the kinds that it chose on the way.
-/
namespace PredicateIndex

/-- One step of a path into decoded data. -/
inductive PathStep where
  /-- The field of an object. -/
  | key (name : String)
  /-- The position in a list. -/
  | index (n : Nat)
  /-- The kind chosen for the node at this place. -/
  | kind (tag : String)
  deriving DecidableEq, Repr

/-- A path from the root of the data. -/
abbrev Path := List PathStep

/-- The text of a step. -/
def PathStep.text : PathStep → String
  | .key name => name
  | .index n => toString n
  | .kind tag => tag

/-- The text of a path: its steps divided by points. -/
def Path.text (path : Path) : String := String.intercalate "." (path.map PathStep.text)

end PredicateIndex
