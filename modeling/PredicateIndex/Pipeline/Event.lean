import PredicateIndex.Pipeline.State

/-!
# Events of documents

How the pipeline answers to what happens to documents. Opening and saving trigger an analysis at
once, a change triggers one after a delay, a change of the settings triggers one for every open
document, and closing drops what is known about the file. A file has at most one run in flight: a
trigger that comes while one is pending is dropped.
-/
namespace PredicateIndex.Pipeline

/-- What happens to documents. -/
inductive Event where
  /-- A document is opened. -/
  | opened (file text : String) (version : Int)
  /-- The text of a document changes. -/
  | changed (file text : String) (version : Option Int)
  /-- A document is saved, perhaps with a new text. -/
  | saved (file : String) (text : Option String)
  /-- A document is closed. -/
  | closed (file : String)
  /-- The settings change, perhaps to given ones for every file. -/
  | configured (settings : Option AnalyzerSettings)
  /-- All open documents are to be analyzed again. -/
  | reanalyzed
  deriving DecidableEq, Repr

namespace State

/-- Start a run for a file under the next generation. -/
def start (state : State) (file : String) : TaskId × State :=
  let generation := state.nextGeneration
  let (run, spawned) :=
    (state.report (.runQueued file generation)).spawn (.run file (some generation))
      fun task => [.settle file task]
  (run, { spawned with
    nextGeneration := generation + 1
    pending := spawned.pending.put file run })

/-- Start a run for an open document that has none pending; the flag says whether one started. -/
def trigger (state : State) (file : String) : Bool × State :=
  if state.pending.has file then (false, state.report (.alreadyPending file))
  else if state.isOpen file then (true, (state.start file).2)
  else (false, state)

/-- Set the open document of a file. -/
def setDocument (state : State) (file : String) (document : Document) : State :=
  { state with documents := state.documents.put file document }

/-- Drop the waiting request of a file. -/
def cancelRequest (state : State) (file : String) : State :=
  { state with debouncer := state.debouncer.cancel file }

/-- Hold back a request to analyze a file. Without a delay it fires on its second turn. -/
def holdBack (state : State) (file : String) : State :=
  let requested := { state with debouncer := state.debouncer.request state.now file () }
  if state.debouncer.delay == 0 then
    requested.enqueue (.alarm file state.debouncer.nextSerial 1)
  else requested

/-- A changed document: a version that is not given goes up by one. -/
def changedDocument (old : Option Document) (text : String) (version : Option Int) : Document where
  text := text
  version := version.getD ((old.map Document.version).getD 0 + 1)

/-- A saved document, unless it stays as it is. -/
def savedDocument? (old : Option Document) (text : Option String) : Option Document :=
  text.map fun text => { text, version := (old.map Document.version).getD 0 }

/-- Trigger an analysis of every open document, in order. -/
def reanalyze (state : State) : State :=
  state.documents.keys.foldl (fun s file => ((s.cancelRequest file).trigger file).2) state

/-- Drop what is known about a file. -/
def close (state : State) (file : String) : State :=
  let closed :=
    { state.putAway file with documents := state.documents.remove file }.cancelRequest file
  { closed with cache := closed.cache.evict file }.publish file []

/-- The state after an event. -/
def handle (state : State) : Event → State
  | .opened file text version =>
    ((((state.report (.documentOpened file)).putAway file).setDocument file
      { text, version }).trigger file).2
  | .changed file text version =>
    (state.setDocument file
      (changedDocument (state.documents.get? file) text version)).holdBack file
  | .saved file text =>
    let saved := match savedDocument? (state.documents.get? file) text with
      | some document => state.setDocument file document
      | none => state
    ((saved.cancelRequest file).trigger file).2
  | .closed file => state.close file
  | .configured settings =>
    let configured := match settings with
      | some given => { state with provider := .fixed given }
      | none => state
    configured.reanalyze
  | .reanalyzed => state.reanalyze

end State

end PredicateIndex.Pipeline
