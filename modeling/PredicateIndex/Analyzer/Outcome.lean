import PredicateIndex.Index.Basic
import PredicateIndex.Tree.Basic

/-!
# Outcomes of an analysis

One run of the analyzer gives a tree or an error. A warning may accompany a tree when the tool
ended abnormally but left usable output. What the tool itself has to say is shown as a diagnostic
at the top of the file.
-/
namespace PredicateIndex

/-- The result of one run of the analyzer. -/
structure Outcome where
  /-- The tree, on success. -/
  tree : Option Tree := none
  /-- What went wrong. -/
  error : Option String := none
  /-- What was odd about a success. -/
  warning : Option String := none
  deriving Repr

namespace Outcome

/-- A success. -/
def ok (tree : Tree) (warning : Option String) : Outcome := { tree := some tree, warning }

/-- A failure. -/
def failed (message : String) : Outcome := { error := some message }

/-- Whether there is a tree. -/
def success (outcome : Outcome) : Bool := outcome.tree.isSome

/-- The tool's own problem at the top of the file; an error hides a warning. -/
def diagnostics (outcome : Outcome) : List Diagnostic :=
  match outcome.error, outcome.warning with
  | some message, _ => [{ line := 1, character := 0, message, severity := .error }]
  | none, some message => [{ line := 1, character := 0, message, severity := .warning }]
  | none, none => []

end Outcome

end PredicateIndex
