import PredicateIndex.Index.Build
import PredicateIndex.Pipeline.State

/-!
# The end of a run

What a run does with the reply of the analyzer. The reply for a document that has been closed is
dropped. A tree is indexed, installed under the generation of the run and published with the
diagnostics of the outcome, unless a newer generation is there; an outcome without a tree is only
published. An analysis that was broken off evicts the index of the file and, if the document is open,
publishes one error at its top.
-/
namespace PredicateIndex.Pipeline

/-- The index that a run installs: that of the tree, with the diagnostics of the outcome added. -/
def installedIndex (file : String) (tree : Tree) (outcome : Outcome) : FileIndex :=
  let index := tree.index (some file)
  { index with diagnostics := index.diagnostics ++ outcome.diagnostics }

/-- Who publishes diagnostics. -/
def diagnosticSource : String := "clauseindex"

/-- Diagnostics as they are published. -/
def forEditor (diagnostics : List Diagnostic) : List EditorDiagnostic :=
  diagnostics.map fun diagnostic => diagnostic.toEditor diagnosticSource

/-- What is published for an analysis that was broken off. -/
def internalDiagnostic (crash : Crash) : EditorDiagnostic where
  range := .point 0 0
  message := (Failure.internal crash.message []).message
  severity := .error
  source := diagnosticSource

namespace State

/-- Evict the index of a file. -/
def evict (state : State) (file : String) : State :=
  let evicted := { state with cache := state.cache.evict file }
  if (state.cache.get? file).isSome then evicted.reportInRun (.cacheEvicted file) else evicted

/-- Install an index and publish its diagnostics; the cached index is returned if it is newer. -/
def install (state : State) (file : String) (generation : Option Int) (index : FileIndex) :
    Option FileIndex × State :=
  match state.cache.install file index generation with
  | (false, _) => (state.cache.get? file, state)
  | (true, cache) =>
    let installed :=
      { state with cache }.reportInRun (.cacheUpdated file index.predicates.length generation)
    (some index,
      (installed.publish file (forEditor index.diagnostics)).reportInRun
        (.runComplete file index.predicates.length index.diagnostics.length))

/-- The end of a run whose analyzer gave an outcome. -/
def concludeOutcome (state : State) (file : String) (generation : Option Int) (outcome : Outcome) :
    Option FileIndex × State :=
  if state.isOpen file then
    match outcome.tree with
    | none =>
      (none, (state.publish file (forEditor outcome.diagnostics)).reportInRun
        (.toolFailed file outcome.error))
    | some tree =>
      let reported := tree.notices.foldl (fun s notice => s.reportInRun (.indexing notice)) state
      reported.install file generation (installedIndex file tree outcome)
  else (none, state)

/-- The end of a run that was broken off. -/
def concludeCrash (state : State) (file : String) (crash : Crash) : State :=
  let evicted := (state.reportInRun (.internalError file)).evict file
  if evicted.isOpen file then evicted.publish file [internalDiagnostic crash] else evicted

/-- The end of a run. -/
def conclude (state : State) (file : String) (generation : Option Int) (reply : Reply) :
    Option FileIndex × State :=
  let reported := reply.notices.foldl (fun s notice => s.reportInRun (.analyzer notice)) state
  match reply.result with
  | .ok outcome => reported.concludeOutcome file generation outcome
  | .error crash => (none, reported.concludeCrash file crash)

end State

end PredicateIndex.Pipeline
