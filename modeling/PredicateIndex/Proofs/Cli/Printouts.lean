import Mathlib.Data.List.Perm.Basic
import PredicateIndex.Cli.Report
import PredicateIndex.Proofs.Cli.Batch
import PredicateIndex.Proofs.Pipeline.Conclusion

/-!
# What the order of completion decides

The analyses of a batch go on at the same time and may complete in any order. Main result: what is
printed about a predicate is told from the files that call it, or define it, in the order in which
their analyses completed. Two executions of a batch print the same lines about calls, grouped by file;
the place of a definition is that in the defining file whose analysis completed first. So they differ
at most in the order of the files, which the last example shows that they may.
-/
namespace PredicateIndex.Pipeline.State

variable {analyzer : Analyzer} {settings : AnalyzerSettings} {documents : Ledger Document}
  {state : State} {run : TaskId} {file : String} {generation : Option Int}

/-! ## Completion -/

/-- The file whose analysis is completed by an action: a run of it takes in a reply with a tree. -/
def completing? (state : State) : Action → Option String
  | .tick analyzer =>
    match state.queue with
    | .step run :: _ =>
      match state.task? run with
      | some { job := .run file _, phase, .. } =>
        (reply? analyzer state file phase).bind fun reply =>
          if state.isOpen file && (installed? file reply).isSome then some file else none
      | _ => none
    | _ => none
  | _ => none

/-- The files whose analyses are completed by actions, in order. -/
def completions (state : State) : List Action → List String
  | [] => []
  | action :: rest => (state.completing? action).toList ++ (state.act action).completions rest

/-- A reply has an index to install exactly if it has a tree. -/
theorem installed?_eq_some {reply : Reply} {index : FileIndex} :
    installed? file reply = some index ↔ ∃ outcome tree, reply.result = .ok outcome ∧
      outcome.tree = some tree ∧
      { tree.index (some file) with
        diagnostics := (tree.index (some file)).diagnostics ++ outcome.diagnostics } = index := by
  rw [installed?]
  cases reply.result with
  | error crash => simp
  | ok outcome => simp

/-- An analysis is completed exactly if a run offers an index to the cache. -/
theorem completing?_eq_some {action : Action} : state.completing? action = some file ↔
    ∃ analyzer run generation index, action = .tick analyzer ∧
      state.Offers analyzer run file generation index := by
  constructor
  · intro completes
    cases action with
    | tick analyzer =>
      rw [completing?] at completes
      split at completes
      · rename_i run rest queue
        split at completes
        · rename_i analyzed generation phase listeners known
          obtain ⟨reply, replied, completes⟩ := Option.bind_eq_some_iff.mp completes
          split at completes
          · rename_i both
            obtain rfl := Option.some.inj completes
            rw [Bool.and_eq_true, Option.isSome_iff_exists] at both
            obtain ⟨opened, index, has⟩ := both
            obtain ⟨outcome, tree, result, parsed, rfl⟩ := installed?_eq_some.mp has
            exact ⟨analyzer, run, generation, _, rfl, reply, outcome, tree,
              ⟨by rw [queue]; rfl, _, known, rfl, replied⟩, opened, result, parsed, rfl⟩
          · cases completes
        · cases completes
      · cases completes
    | _ => cases completes
  · rintro ⟨analyzer, run, generation, index, rfl, offers⟩
    obtain ⟨reply, outcome, tree, takes, opened, result, parsed, rfl⟩ := offers
    obtain ⟨rest, queue⟩ := List.head?_eq_some_iff.mp takes.next
    obtain ⟨⟨job, phase, listeners⟩, known, rfl, replied⟩ := takes.replied
    have has : (installed? file reply).isSome := by
      rw [installed?_eq_some.mpr ⟨outcome, tree, result, parsed, rfl⟩]
      rfl
    simp only [completing?, queue, known, replied, Option.bind_some, opened, has, Bool.and_self,
      if_true]

/-- A run of a batch takes a reply in before there is an index of its file. -/
theorem Batched.absent_of_takes (batched : Batched analyzer settings documents state)
    {doing : Analyzer} {reply : Reply} (takes : state.Takes doing run file generation reply) :
    state.cache.get? file = none := by
  obtain ⟨t, known, job, unfinished⟩ := takes.unfinished
  obtain ⟨u, again, -, replied⟩ := takes.replied
  obtain rfl := Option.some.inj (known.symm.trans again)
  have stage := stage?_of_unfinished batched.orderly.flight known ⟨generation, job⟩ unfinished
  refine (batched.underway file).absent ?_
  rw [view, stage]
  obtain fresh | ⟨asked, text, away, answer, informed⟩ | ⟨call, answered⟩ := phase_of_reply? replied
  · rw [fresh]
    rfl
  · rw [informed]
    rfl
  · rw [answered]
    rfl

/-- The analysis of a file is completed before there is an index of it. -/
theorem Batched.absent_of_completing? (batched : Batched analyzer settings documents state)
    {action : Action} (completes : state.completing? action = some file) :
    file ∉ state.cache.files := by
  obtain ⟨doing, run, generation, index, -, reply, outcome, tree, takes, -⟩ :=
    completing?_eq_some.mp completes
  exact Ledger.not_mem_keys (batched.absent_of_takes takes)

/-- An action of a batch adds the file whose analysis it completes to the files of the cache. -/
theorem Batched.files_act (batched : Batched analyzer settings documents state) {action : Action}
    (inBatch : action.InBatch analyzer) :
    (state.act action).cache.files = state.cache.files ++ (state.completing? action).toList := by
  cases completes : state.completing? action with
  | some file =>
    have absent := batched.absent_of_completing? completes
    obtain ⟨doing, run, generation, index, rfl, offers⟩ := completing?_eq_some.mp completes
    obtain ⟨reply, outcome, tree, takes, -⟩ := id offers
    obtain ⟨t, known, job, unfinished⟩ := takes.unfinished
    have inTime := timely batched.orderly.dated known job unfinished
    rw [act, offers.cache_tick, Cache.install_of_timely _ _ _ _ inTime]
    exact (Ledger.keys_put _ file index).trans (if_neg absent)
  | none =>
    rw [Option.toList_none, List.append_nil]
    rcases cache_act state action with
      same | ⟨file, evicts, dropped⟩ | ⟨doing, run, file, _, _, rfl, offers⟩
    · rw [same]
    · cases evicts with
      | closed => exact inBatch.elim
      | brokenOff doing run generation reply crash takes replied =>
        -- What is broken off was never installed, so that nothing is dropped.
        have absent := Ledger.not_mem_keys (batched.absent_of_takes takes)
        rw [dropped]
        refine (Ledger.keys_remove _ file).trans (List.filter_eq_self.mpr fun other listed => ?_)
        exact bne_iff_ne.mpr (ne_of_mem_of_not_mem listed absent)
    · rw [completing?_eq_some.mpr ⟨_, run, _, _, rfl, offers⟩] at completes
      cases completes

/-- The files of the cache after a batch are those whose analyses completed, in this order, and each
of them completed once. -/
theorem Batched.files_play (batched : Batched analyzer settings documents state)
    {actions : List Action} (inBatch : ∀ action ∈ actions, action.InBatch analyzer)
    (distinct : state.cache.files.Nodup) :
    (state.play actions).cache.files = state.cache.files ++ state.completions actions ∧
      (state.play actions).cache.files.Nodup := by
  induction actions generalizing state with
  | nil => exact ⟨(List.append_nil _).symm, distinct⟩
  | cons action rest ih =>
    obtain ⟨here, others⟩ := List.forall_mem_cons.mp inBatch
    have next : Batched analyzer settings documents (state.act action) :=
      batched.play (List.forall_mem_singleton.mpr here)
    have still : (state.act action).cache.files.Nodup := by
      rw [batched.files_act here]
      have single : (state.completing? action).toList.Nodup := by
        cases state.completing? action <;> simp
      refine distinct.append single fun file listed again => ?_
      exact batched.absent_of_completing? (Option.mem_toList.mp again) listed
    obtain ⟨files, apart⟩ := ih next others still
    refine ⟨?_, apart⟩
    rw [play_cons, files, batched.files_act here, completions, List.append_assoc]

end PredicateIndex.Pipeline.State

namespace PredicateIndex.Cli.Batch

open Pipeline (State indexFor)

/-! ## Executions -/

/-- Items that yield nothing may be left out. -/
theorem flatMap_filter_of_nil {α β : Type} {p : α → Bool} {f : α → List β}
    (idle : ∀ a, p a = false → f a = []) (items : List α) :
    (items.filter p).flatMap f = items.flatMap f := by
  induction items with
  | nil => rfl
  | cons item rest ih =>
    rw [List.filter_cons, List.flatMap_cons]
    split
    · rw [List.flatMap_cons, ih]
    · rename_i out
      rw [ih, idle item (eq_false_of_ne_true out), List.nil_append]

/-- A batch that is carried out: once its files are open, work is done, calls of the analyzer are
held back and go on in any order, each file is asked for and then the end, until all has ended. -/
structure Execution (analyzer : Analyzer) (settings : AnalyzerSettings) (files : List SourceFile)
    where
  /-- What is done, in order. -/
  actions : List Pipeline.Action
  /-- Each file is asked for, then the end. -/
  asks : Asks analyzer (files.map (fun file => .lookup file.id) ++ [.shutdown]) actions
  /-- In the end every task has ended. -/
  complete : ∀ t ∈ ((opened settings files).play actions).tasks, t.result?.isSome

/-- The index that a batch has of a file. -/
def index? (analyzer : Analyzer) (settings : AnalyzerSettings) (files : List SourceFile)
    (file : String) : Option FileIndex :=
  indexFor analyzer settings file ((opened settings files).documents.get? file)

/-- Where a file of a batch defines a predicate. -/
def record? (analyzer : Analyzer) (settings : AnalyzerSettings) (files : List SourceFile)
    (name : String) (arity : Nat) (file : String) : Option PredicateRecord :=
  (index? analyzer settings files file).bind fun index => index.predicate? name arity

/-- The line about a call. -/
def callLine (reference : CallMatch) : Print :=
  .out (place reference.file reference.call.location ++ "  in " ++ reference.caller.key)

/-- The calls of a predicate in a file of a batch. -/
def calls (analyzer : Analyzer) (settings : AnalyzerSettings) (files : List SourceFile)
    (name : String) (arity : Nat) (file : String) : List CallMatch :=
  (index? analyzer settings files file).toList.flatMap fun index =>
    index.predicates.flatMap fun record =>
      (record.callMatches file).filter fun found => found.call.calls name arity

variable {analyzer : Analyzer} {settings : AnalyzerSettings} {files : List SourceFile}

/-- A batch that is run is an execution if all has ended. -/
theorem exists_execution_run
    (complete : ∀ t ∈ (run analyzer settings files).state.tasks, t.result?.isSome) :
    ∃ execution : Execution analyzer settings files,
      (opened settings files).play execution.actions = (run analyzer settings files).state := by
  obtain ⟨actions, asks, same⟩ := run_eq_play analyzer settings files
  exact ⟨⟨actions, asks, by rw [← same]; exact complete⟩, same.symm⟩

namespace Execution

variable (execution : Execution analyzer settings files) (name : String) (arity : Nat)

/-- The batch in the end. -/
def batch : Batch := { state := (opened settings files).play execution.actions }

/-- The files in the order in which their analyses completed. -/
def order : List String := (opened settings files).completions execution.actions

/-- The files that call a predicate, in the order in which their analyses completed. -/
def callers : List String :=
  execution.order.filter fun file => !(calls analyzer settings files name arity file).isEmpty

/-- The files that define a predicate, in the order in which their analyses completed. -/
def definers : List String :=
  execution.order.filter fun file => (record? analyzer settings files name arity file).isSome

/-- The files of the cache stand in the order of completion, and there is no file twice. -/
theorem files_eq_order :
    execution.batch.state.cache.files = execution.order ∧ execution.order.Nodup := by
  obtain ⟨-, -, opening⟩ := opening_play settings files
  have none : (opened settings files).cache.files = [] :=
    List.eq_nil_iff_forall_not_mem.mpr fun file => Ledger.not_mem_keys (opening file).index
  obtain ⟨same, distinct⟩ := (batched_opened analyzer settings files).files_play
    execution.asks.inBatch (none ▸ List.nodup_nil)
  have order : execution.batch.state.cache.files = execution.order := by
    rw [none, List.nil_append] at same
    exact same
  exact ⟨order, order ▸ distinct⟩

/-- The cache has the indexes of the batch. -/
theorem get?_eq_index? (file : String) :
    execution.batch.state.cache.get? file = index? analyzer settings files file :=
  ((batched_opened analyzer settings files).play execution.asks.inBatch).get?_cache
    execution.complete file

/-- The files whose analyses complete are those with an index. -/
theorem mem_order (file : String) :
    file ∈ execution.order ↔ (index? analyzer settings files file).isSome := by
  rw [← execution.files_eq_order.1, ← execution.get?_eq_index?]
  exact Ledger.mem_keys_iff _ file

/-- The same analyses complete in all executions. -/
theorem order_perm (first second : Execution analyzer settings files) :
    first.order.Perm second.order := by
  refine (List.perm_ext_iff_of_nodup first.files_eq_order.2 second.files_eq_order.2).mpr
    fun file => ?_
  rw [first.mem_order, second.mem_order]

/-- Going over the cache is going over the files in the order of completion. -/
theorem flatMap_entries {β : Type} (f : String × FileIndex → List β) :
    execution.batch.state.cache.entries.flatMap f = execution.order.flatMap fun file =>
      (index? analyzer settings files file).toList.flatMap fun index => f (file, index) := by
  obtain ⟨files, distinct⟩ := execution.files_eq_order
  have keys : execution.batch.state.cache.entries.keys = execution.order := files
  rw [Ledger.flatMap_eq_keys (keys ▸ distinct), keys]
  refine List.flatMap_congr fun file _ => ?_
  rw [← execution.get?_eq_index?]
  rfl

/-- The calls that are found are those in the calling files. -/
theorem references_eq : execution.batch.state.cache.references name arity =
    (execution.callers name arity).flatMap (calls analyzer settings files name arity) := by
  calc execution.batch.state.cache.references name arity
    _ = execution.order.flatMap (calls analyzer settings files name arity) :=
      execution.flatMap_entries _
    _ = (execution.callers name arity).flatMap (calls analyzer settings files name arity) :=
      (flatMap_filter_of_nil (fun file idle => by simpa using idle) _).symm

/-- The definitions that are found are those of the files with a record. -/
theorem definitions_eq : execution.batch.state.cache.definitions name arity =
    execution.order.filterMap fun file =>
      (record? analyzer settings files name arity file).map fun record => { file, record } := by
  rw [Cache.definitions, List.filterMap_eq_flatMap_toList, execution.flatMap_entries,
    List.filterMap_eq_flatMap_toList]
  refine List.flatMap_congr fun file _ => ?_
  rw [record?]
  cases index? analyzer settings files file with
  | none => rfl
  | some index => exact List.flatMap_singleton _ _

/-- The files of the definitions are the defining ones. -/
theorem files_definitions :
    (execution.batch.state.cache.definitions name arity).map DefinitionMatch.file =
      execution.definers name arity := by
  rw [execution.definitions_eq, List.map_filterMap, definers, ← List.filterMap_eq_filter]
  refine List.filterMap_congr fun file _ => ?_
  cases found : record? analyzer settings files name arity file with
  | none => simp [Option.guard, found]
  | some record => simp [Option.guard, found]

/-- A definition that is found is the record of its file. -/
theorem record?_of_mem {found : DefinitionMatch}
    (inside : found ∈ execution.batch.state.cache.definitions name arity) :
    record? analyzer settings files name arity found.file = some found.record := by
  rw [execution.definitions_eq, List.mem_filterMap] at inside
  obtain ⟨file, -, found⟩ := inside
  obtain ⟨record, known, rfl⟩ := Option.map_eq_some_iff.mp found
  exact known

/-! ## Printouts -/

/-- What an execution prints about a predicate, told from the order of completion. -/
structure Tells : Prop where
  /-- The calls are grouped by their files. -/
  references : execution.batch.references name arity =
    { prints := if (execution.callers name arity).isEmpty
        then [.out ("No references to " ++ indicator name arity)]
        else (execution.callers name arity).flatMap fun file =>
          (calls analyzer settings files name arity file).map callLine }
  /-- Without a defining file there is no definition. -/
  missing : execution.definers name arity = [] →
    execution.batch.definitions name arity = .failed ("No definition of " ++ indicator name arity)
  /-- The definition is that of the first defining file, and the others are named in order. -/
  defined : ∀ {file : String} {others : List String},
    execution.definers name arity = file :: others →
      ∃ record, record? analyzer settings files name arity file = some record ∧
        execution.batch.definitions name arity =
          { prints := .out (place file record.definition) :: if others.isEmpty then [] else
              [.err ("also defined in: " ++ String.intercalate ", " others)] }

/-- No call is found exactly if no file calls. -/
theorem isEmpty_references : (execution.batch.state.cache.references name arity).isEmpty =
    (execution.callers name arity).isEmpty := by
  rw [execution.references_eq]
  cases calling : execution.callers name arity with
  | nil => rfl
  | cons file rest =>
    have listed : file ∈ execution.callers name arity := calling ▸ List.mem_cons_self
    have found := (List.mem_filter.mp listed).2
    rw [Bool.not_eq_true', List.isEmpty_eq_false_iff] at found
    simp [found]

/-- What is printed is told from the order of completion. -/
theorem tells : execution.Tells name arity where
  references := by
    rw [Batch.references, execution.isEmpty_references, execution.references_eq]
    split
    · rfl
    · rw [List.map_flatMap]
      rfl
  missing none := by
    have without := execution.files_definitions name arity
    rw [none, List.map_eq_nil_iff] at without
    rw [Batch.definitions, without]
  defined {file others} defining := by
    have named := execution.files_definitions name arity
    rw [defining, List.map_eq_cons_iff] at named
    obtain ⟨found, rest, listed, rfl, rfl⟩ := named
    refine ⟨found.record, execution.record?_of_mem name arity ?_, ?_⟩
    · rw [listed]
      exact List.mem_cons_self
    · rw [Batch.definitions, listed, List.isEmpty_map]

/-- The definition of a predicate is missing exactly if no file defines it. -/
theorem isFailure_definitions : (execution.batch.definitions name arity).isFailure =
    (execution.definers name arity).isEmpty := by
  have tells := execution.tells name arity
  cases defining : execution.definers name arity with
  | nil => rw [tells.missing defining]; rfl
  | cons file others =>
    obtain ⟨record, -, printed⟩ := tells.defined defining
    rw [printed]
    rfl

/-- Two executions of a batch print the same about a predicate up to the order of the files, and this
is the order in which their analyses completed. The lines about calls are grouped by file; the place
that is printed for a definition is the one in the defining file that completed first. Nothing else
depends on the schedule. -/
theorem printouts_up_to_order (first second : Execution analyzer settings files) (name : String)
    (arity : Nat) :
    first.Tells name arity ∧ second.Tells name arity ∧
    (first.callers name arity).Perm (second.callers name arity) ∧
    (first.definers name arity).Perm (second.definers name arity) ∧
    (first.batch.references name arity).prints.Perm
      (second.batch.references name arity).prints ∧
    (first.batch.definitions name arity).isFailure =
      (second.batch.definitions name arity).isFailure ∧
    (first.callers name arity = second.callers name arity →
      first.batch.references name arity = second.batch.references name arity) ∧
    (first.definers name arity = second.definers name arity →
      first.batch.definitions name arity = second.batch.definitions name arity) := by
  have calling : (first.callers name arity).Perm (second.callers name arity) :=
    (first.order_perm second).filter _
  have defining : (first.definers name arity).Perm (second.definers name arity) :=
    (first.order_perm second).filter _
  refine ⟨first.tells name arity, second.tells name arity, calling, defining, ?_, ?_, ?_, ?_⟩
  · rw [(first.tells name arity).references, (second.tells name arity).references,
      calling.isEmpty_eq]
    split
    · exact .refl _
    · exact calling.flatMap_right _
  · rw [first.isFailure_definitions, second.isFailure_definitions, defining.isEmpty_eq]
  · intro same
    rw [(first.tells name arity).references, (second.tells name arity).references, same]
  · intro same
    cases found : second.definers name arity with
    | nil =>
      rw [(first.tells name arity).missing (same.trans found),
        (second.tells name arity).missing found]
    | cons file others =>
      obtain ⟨record, known, printed⟩ := (first.tells name arity).defined (same.trans found)
      obtain ⟨again, knownAgain, printedAgain⟩ := (second.tells name arity).defined found
      obtain rfl := Option.some.inj (known.symm.trans knownAgain)
      rw [printed, printedAgain]

/-- A rule of `p` whose only goal calls `p`. -/
def loop : Tree :=
  let head : Term := .compound { line := some 1, column := some 1 } "p" none [.var {} false "X"]
  let goal : Term := .compound { line := some 1, column := some 9 } "p" none [.var {} false "X"]
  { items := [{ body := .rule (some head) [goal] }] }

/-- An analyzer that finds the rule in every text. -/
def looping : Analyzer := fun _ => { result := .ok { tree := some loop } }

/-- Two files. -/
def twins : List SourceFile := [⟨"/w/a.pl", "p(X) :- p(X)."⟩, ⟨"/w/b.pl", "p(X) :- p(X)."⟩]

/-- The call for the first of two files is held back while the second is analyzed. -/
def overtaking : List Pipeline.Action :=
  let work := List.replicate 5 (.tick looping)
  [[.ask (.lookup "/w/a.pl"), .hold "/w/a.pl"], work, [.release "/w/a.pl"], work,
    [.ask (.lookup "/w/b.pl")], work, [.ask .shutdown], work].flatten

/-- The execution in which the first of two files is overtaken by the second. -/
def overtaken : Execution looping {} twins where
  actions := overtaking
  asks := ⟨by simp [overtaking, Pipeline.Action.InBatch], rfl⟩
  complete := by decide +kernel

/-- A batch that is run without delays is an execution of the two files. -/
theorem exists_execution_run_twins : ∃ execution : Execution looping {} twins,
    execution.batch.state = (run looping {} twins).state :=
  exists_execution_run (by decide +kernel)

/-- Two files complete in either order, and the same lines are printed. -/
theorem printouts_up_to_order_overtaken : ∃ first : Execution looping {} twins,
    first.batch.state = (run looping {} twins).state ∧
      first.definers "p" 1 = ["/w/a.pl", "/w/b.pl"] ∧
      overtaken.definers "p" 1 = ["/w/b.pl", "/w/a.pl"] ∧
      (first.batch.references "p" 1).prints.Perm (overtaken.batch.references "p" 1).prints ∧
      (overtaken.batch.definitions "p" 1).isFailure = false := by
  obtain ⟨first, same⟩ := exists_execution_run_twins
  obtain ⟨-, -, -, -, lines, failure, -⟩ := printouts_up_to_order first overtaken "p" 1
  have order : first.definers "p" 1 = ["/w/a.pl", "/w/b.pl"] := by
    rw [definers, ← first.files_eq_order.1, same]
    decide +kernel
  refine ⟨first, same, order, by decide +kernel, lines, ?_⟩
  rw [← failure, isFailure_definitions, order]
  rfl

/-- Two executions of a batch may print the calls in different orders and give different places for
a definition. -/
theorem not_forall_printouts_eq :
    ¬∀ (analyzer : Analyzer) (settings : AnalyzerSettings) (files : List SourceFile)
      (first second : Execution analyzer settings files) (name : String) (arity : Nat),
      first.batch.references name arity = second.batch.references name arity ∧
        first.batch.definitions name arity = second.batch.definitions name arity := by
  intro alike
  obtain ⟨first, same⟩ := exists_execution_run_twins
  have places := (alike looping {} twins first overtaken "p" 1).2
  rw [Batch.definitions, same] at places
  exact absurd places (by decide +kernel)

end Execution

end PredicateIndex.Cli.Batch
