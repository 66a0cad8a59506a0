import Mathlib.Data.List.Induction
import PredicateIndex.Proofs.Pipeline.LastRun
import PredicateIndex.Proofs.Pipeline.Occasion

/-!
# When an index is stale

The text of an open file is covered at all times: a request waits for it, a run that has not begun
will read it, the last run has read it and waits for its settings or for the analyzer, or a trigger
was dropped that came too late for the run in flight. Every action keeps this, so a file with no run
in flight and no waiting request was read by its last run as it is now, unless such a trigger was
dropped after its text was set.
-/
namespace PredicateIndex.Pipeline

/-- The index of an open file is that of the outcome, with its diagnostics, if there is a tree. -/
theorem View.index_conclude {view : View} (opened : view.document.isSome) (file : String)
    {reply : Reply} {outcome : Outcome} {tree : Tree} (answered : reply.result = .ok outcome)
    (parsed : outcome.tree = some tree) :
    (view.conclude file reply).index = some (installedIndex file tree outcome) := by
  simp only [conclude, answered, if_pos opened, takeOutcome, parsed]

/-- The reply of the analyzer changes the index and the diagnostics of a file at most. -/
theorem View.exists_conclude (view : View) (file : String) (reply : Reply) :
    ∃ index published, view.conclude file reply = { view with index, published } := by
  unfold conclude takeOutcome
  split
  · split
    · split <;> exact ⟨_, _, rfl⟩
    · exact ⟨_, _, rfl⟩
  · split <;> exact ⟨_, _, rfl⟩

namespace State

variable {state start : State} {file text : String} {action : Action} {actions : List Action}
  {run : TaskId} {call : AnalyzerCall}

/-- The next piece of work ends a run. -/
structure Ends (state : State) (analyzer : Analyzer) (run : TaskId) : Prop where
  /-- The run has not ended before. -/
  going : (state.task? run).bind Task.result? = none
  /-- The run has ended afterwards. -/
  ended : (((tick analyzer state).task? run).bind Task.result?).isSome

/-- An action triggers an analysis that is dropped, while the run in flight has begun. -/
structure Drops (state : State) (action : Action) (file : String) : Prop where
  /-- The trigger is dropped because a run is in flight. -/
  dropped : (state.act action).dropped file = state.dropped file + 1
  /-- The run in flight has taken its first step. -/
  begun : ∃ run t, state.pending.get? file = some run ∧ state.task? run = some t ∧ t.phase ≠ .fresh

/-- A trigger for a file was dropped while the run in flight had begun, when its text was set last
or after that. -/
def DroppedSince (start : State) (actions : List Action) (file : String) : Prop :=
  ∃ before action rest, Occurs start actions before action rest ∧
    (∀ later ∈ rest, ¬later.SetsText file) ∧ before.Drops action file

/-- The last run of a file read its text after it was set last. -/
structure LastRead (start : State) (actions : List Action) (file text : String) (run : TaskId) :
    Prop where
  /-- It is the last run. -/
  last : (start.play actions).IsLastRun file run
  /-- It read the text, and the text was not set afterwards. -/
  read : ∃ before analyzer rest, Occurs start actions before (.tick analyzer) rest ∧
    (∀ later ∈ rest, ¬later.SetsText file) ∧ before.Reads file run text

/-- The last run of a file read its text after it was set last, and called the analyzer with it. -/
structure LastCall (start : State) (actions : List Action) (file text : String) (run : TaskId)
    (call : AnalyzerCall) : Prop extends LastRead start actions file text run where
  /-- A step of the run made the call. -/
  called : ∃ before analyzer rest, Occurs start actions before (.tick analyzer) rest ∧
    before.queue.head? = some (.step run) ∧
    (tick analyzer before).calls = before.calls ++ [call]
  /-- The call is for the file. -/
  own : call.file = file
  /-- The text is the one that was read. -/
  current : call.text = text

/-- The last run of a file analyzed its text, and if it succeeded, the index of its tree is there,
with the diagnostics of the outcome. -/
def Analyzed (start : State) (actions : List Action) (file text : String) : Prop :=
  ∃ run call, LastCall start actions file text run call ∧
    ∃ before analyzer rest, Occurs start actions before (.tick analyzer) rest ∧
      before.Ends analyzer run ∧
      ∀ outcome tree, (analyzer call).result = .ok outcome → outcome.tree = some tree →
        (start.play actions).cache.get? file = some { tree.index (some file) with
          diagnostics := (tree.index (some file)).diagnostics ++ outcome.diagnostics }

/-- Why nothing is wrong with the text of an open file, or what went wrong. -/
inductive Covered (start : State) (actions : List Action) (file text : String) : Prop where
  /-- A request waits for it. -/
  | waiting (waits : ((start.play actions).view file).waiting = true)
  /-- A run is in flight that will read it. -/
  | queued (queued : ((start.play actions).view file).stage = some .queued)
  /-- A trigger was dropped. -/
  | missed (missed : DroppedSince start actions file)
  /-- The last run has read it and waits for its settings. -/
  | asking (run : TaskId) (read : LastRead start actions file text run)
    (stage : ((start.play actions).view file).stage = some (.asking text))
  /-- The last run has read it and has its settings. -/
  | informed (run : TaskId) (call : AnalyzerCall) (read : LastRead start actions file text run)
    (own : call.file = file) (current : call.text = text)
    (stage : ((start.play actions).view file).stage = some (.informed call))
  /-- The last run has called the analyzer with it and waits. -/
  | calling (run : TaskId) (call : AnalyzerCall) (made : LastCall start actions file text run call)
    (stage : ((start.play actions).view file).stage = some (.calling call))
  /-- The last run has called the analyzer with it and has an answer. -/
  | answered (run : TaskId) (call : AnalyzerCall) (made : LastCall start actions file text run call)
    (stage : ((start.play actions).view file).stage = some (.answered call))
  /-- The last run has analyzed it. -/
  | analyzed (analyzed : Analyzed start actions file text)
    (stage : ((start.play actions).view file).stage = some .finished ∨
      ((start.play actions).view file).stage = none)

/-- The text is not set later if it is not set by one more action either. -/
theorem keeps_snoc {rest : List Action} (earlier : ∀ later ∈ rest, ¬later.SetsText file)
    (keeps : ¬action.SetsText file) : ∀ later ∈ rest ++ [action], ¬later.SetsText file := by
  intro later inside
  rcases List.mem_append.mp inside with inside | inside
  · exact earlier later inside
  · rw [List.mem_singleton.mp inside]
    exact keeps

/-- A trigger that was dropped was dropped for the same text until it is set again. -/
theorem DroppedSince.snoc (missed : DroppedSince start actions file)
    (keeps : ¬action.SetsText file) : DroppedSince start (actions ++ [action]) file := by
  obtain ⟨before, dropping, rest, occurs, earlier, drops⟩ := missed
  exact ⟨before, dropping, rest ++ [action], occurs.snoc action, keeps_snoc earlier keeps, drops⟩

/-- The last run has read the text until another is started or the text is set again. -/
theorem LastRead.snoc (read : LastRead start actions file text run)
    (scheduled : action.Scheduled) (keeps : ¬action.SetsText file)
    (runs : (((start.play actions).act action).view file).runs =
      ((start.play actions).view file).runs) :
    LastRead start (actions ++ [action]) file text run := by
  obtain ⟨last, before, analyzer, rest, occurs, earlier, reads⟩ := read
  refine ⟨?_, before, analyzer, rest ++ [action], occurs.snoc action, keeps_snoc earlier keeps,
    reads⟩
  rw [play_snoc]
  exact last.act scheduled runs

/-- The last run has called the analyzer with the text until another is started or the text is set
again. -/
theorem LastCall.snoc (made : LastCall start actions file text run call)
    (scheduled : action.Scheduled) (keeps : ¬action.SetsText file)
    (runs : (((start.play actions).act action).view file).runs =
      ((start.play actions).view file).runs) :
    LastCall start (actions ++ [action]) file text run call := by
  obtain ⟨read, ⟨before, analyzer, rest, occurs, made⟩, own, current⟩ := made
  exact ⟨read.snoc scheduled keeps runs,
    ⟨before, analyzer, rest ++ [action], occurs.snoc action, made⟩, own, current⟩

/-- The last run has analyzed the text until another is started, the text is set again or the index
is replaced. -/
theorem Analyzed.snoc (analyzed : Analyzed start actions file text) (scheduled : action.Scheduled)
    (keeps : ¬action.SetsText file)
    (runs : (((start.play actions).act action).view file).runs =
      ((start.play actions).view file).runs)
    (index : (((start.play actions).act action).view file).index =
      ((start.play actions).view file).index) :
    Analyzed start (actions ++ [action]) file text := by
  obtain ⟨run, call, made, before, analyzer, rest, occurs, ends, installed⟩ := analyzed
  refine ⟨run, call, made.snoc scheduled keeps runs, before, analyzer, rest ++ [action],
    occurs.snoc action, ends, fun outcome tree answered parsed => ?_⟩
  rw [play_snoc]
  exact index.trans (installed outcome tree answered parsed)

/-- A stage is that of the run in flight, which is the last one. -/
theorem exists_of_stage (flight : Flight (state.desk [])) {stage : Stage}
    (reached : (state.view file).stage = some stage) : ∃ run t, state.pending.get? file = some run ∧
      state.task? run = some t ∧ t.phase.stage = stage ∧ state.IsLastRun file run := by
  obtain ⟨run, inFlight, found⟩ := Option.bind_eq_some_iff.mp reached
  obtain ⟨t, known, phase⟩ := Option.map_eq_some_iff.mp found
  exact ⟨run, t, inFlight, known, phase, isLastRun_of_pending flight inFlight⟩

/-- Whether the last run has ended is seen from its stage. -/
theorem result?_of_stage (orderly : Orderly (state.desk [])) {stage : Stage}
    (reached : (state.view file).stage = some stage) (last : state.IsLastRun file run) :
    ((state.task? run).bind Task.result?).isSome ↔ stage = .finished := by
  obtain ⟨other, t, inFlight, known, phase, last'⟩ := exists_of_stage orderly.flight reached
  obtain rfl := last.unique last'
  obtain ⟨u, found, isRun⟩ := orderly.flight.isRun inFlight
  obtain rfl : t = u := Option.some.inj (known.symm.trans found)
  have course := orderly.course run t file known isRun
  rw [known, Option.bind_some, Task.result?_eq, ← phase]
  -- a run joins nothing, waits for no runs and is not told to end
  cases at_ : t.phase with
  | joined | draining | ending =>
    rw [at_] at course
    exact course.elim
  | _ => simp [Phase.result?, Phase.stage]

/-- A trigger for an open file starts a run, or is dropped in favour of one that will read the text,
or comes too late. -/
theorem covered_of_trigger (flight : Flight ((start.play actions).desk [])) {view : View}
    (after : ((start.play actions).act action).view file = view.trigger)
    (stage : view.stage = ((start.play actions).view file).stage)
    (dropped : view.dropped = ((start.play actions).view file).dropped)
    (opened : view.document.isSome) : Covered start (actions ++ [action]) file text := by
  cases reached : view.stage with
  | none =>
    refine .queued ?_
    rw [play_snoc, after, View.trigger, reached, if_neg (by simp), if_pos opened]
    rfl
  | some now =>
    rw [View.trigger, reached, if_pos (by simp)] at after
    by_cases queued : now = .queued
    · subst queued
      refine .queued ?_
      rw [play_snoc, after]
    · obtain ⟨run, t, inFlight, known, phase, -⟩ :=
        exists_of_stage flight (stage.symm.trans reached)
      have begun : t.phase ≠ .fresh := by
        intro fresh
        rw [fresh] at phase
        exact queued phase.symm
      have counted := congrArg View.dropped after
      rw [dropped] at counted
      exact .missed ⟨_, action, [], occurs_last start actions action, by simp,
        ⟨counted, run, t, inFlight, known, begun⟩⟩

/-- A run that has called the analyzer with the text and ends with its reply has analyzed it. -/
theorem analyzed_of_conclude {analyzer : Analyzer} {stage : Stage}
    (orderly : Orderly ((start.play actions).desk []))
    (reached : ((start.play actions).view file).stage = some stage) (going : stage ≠ .finished)
    (last : (start.play actions).IsLastRun file run)
    (opened : ((start.play actions).view file).document.isSome)
    (made : LastCall start (actions ++ [.tick analyzer]) file text run call)
    (after : ((start.play actions).act (.tick analyzer)).view file =
      (((start.play actions).view file).conclude file (analyzer call)).finish) :
    Covered start (actions ++ [.tick analyzer]) file text := by
  have still : Orderly (((start.play actions).act (.tick analyzer)).desk []) :=
    orderly.turns (turns_tick _ analyzer)
  have finished :
      (((start.play actions).act (.tick analyzer)).view file).stage = some .finished := by
    rw [after]
    rfl
  have last' := made.last
  rw [play_snoc] at last'
  have ends : (start.play actions).Ends analyzer run := by
    refine ⟨?_, (result?_of_stage still finished last').mpr rfl⟩
    rw [← Option.not_isSome_iff_eq_none, result?_of_stage orderly reached last]
    exact going
  refine .analyzed
    ⟨run, call, made, _, analyzer, [], occurs_last start actions _, ends, ?_⟩ (.inl ?_)
  · intro outcome tree answered parsed
    rw [play_snoc]
    exact (congrArg View.index after).trans (View.index_conclude opened file answered parsed)
  · rw [play_snoc]
    exact finished

/-- How the stage of a run changes that gets an answer or is settled. -/
inductive Stage.Next (file : String) : Option Stage → Option Stage → Prop where
  /-- It stays. -/
  | stay (stage : Option Stage) : Next file stage stage
  /-- The provider answers. -/
  | informed (text : String) (answer : SettingsAnswer) :
    Next file (some (.asking text)) (some (.informed ⟨file, text, answer.settings⟩))
  /-- The analyzer answers. -/
  | answered (call : AnalyzerCall) : Next file (some (.calling call)) (some (.answered call))
  /-- The run is settled. -/
  | settled : Next file (some .finished) none

/-- A file that nothing happens to but that its run goes on without ending stays covered. -/
theorem Covered.keep (covered : Covered start actions file text) (scheduled : action.Scheduled)
    (keeps : ¬action.SetsText file) {stage : Option Stage}
    (after : ((start.play actions).act action).view file =
      { (start.play actions).view file with stage })
    (onward : Stage.Next file ((start.play actions).view file).stage stage) :
    Covered start (actions ++ [action]) file text := by
  have runs := congrArg View.runs after
  have index := congrArg View.index after
  have after' := congrArg View.stage after
  rw [← play_snoc] at after'
  cases covered with
  | waiting waits =>
    refine .waiting ?_
    rw [play_snoc, after]
    exact waits
  | missed missed => exact .missed (missed.snoc keeps)
  | queued queued =>
    rw [queued] at onward
    cases onward
    exact .queued after'
  | asking run read asking =>
    have still := read.snoc scheduled keeps runs
    rw [asking] at onward
    cases onward with
    | stay => exact .asking run still after'
    | informed text answer => exact .informed run _ still rfl rfl after'
  | informed run call read own current informed =>
    rw [informed] at onward
    cases onward
    exact .informed run call (read.snoc scheduled keeps runs) own current after'
  | calling run call made calling =>
    have still := made.snoc scheduled keeps runs
    rw [calling] at onward
    cases onward with
    | stay => exact .calling run call still after'
    | answered call => exact .answered run call still after'
  | answered run call made answered =>
    rw [answered] at onward
    cases onward
    exact .answered run call (made.snoc scheduled keeps runs) after'
  | analyzed analyzed ended =>
    refine .analyzed (analyzed.snoc scheduled keeps runs index) ?_
    rw [after']
    rcases ended with finished | none
    · rw [finished] at onward
      cases onward with
      | stay => exact .inl rfl
      | settled => exact .inr rfl
    · rw [none] at onward
      cases onward
      exact .inr rfl

/-- A run that reads a document is in flight and has not begun. -/
theorem Reads.inFlight (orderly : Orderly (state.desk [])) (reads : state.Reads file run text) :
    state.pending.get? file = some run ∧ (state.view file).stage = some .queued := by
  obtain ⟨t, known, fresh, isRun⟩ := reads.fresh
  have inFlight : state.pending.get? file = some run :=
    orderly.flight.pending known isRun (by rw [Task.result?_eq, fresh]; rfl)
  have stage := stage?_eq _ file inFlight known
  rw [fresh] at stage
  exact ⟨inFlight, stage⟩

/-- A run that begins reads the text, and is the last one. -/
theorem Reads.lastRead (orderly : Orderly ((start.play actions).desk []))
    (reads : (start.play actions).Reads file run text) (analyzer : Analyzer)
    (runs : (((start.play actions).act (.tick analyzer)).view file).runs =
      ((start.play actions).view file).runs) :
    LastRead start (actions ++ [.tick analyzer]) file text run := by
  obtain ⟨inFlight, -⟩ := reads.inFlight orderly
  refine ⟨?_, _, analyzer, [], occurs_last start actions _, by simp, reads⟩
  rw [play_snoc]
  exact (isLastRun_of_pending orderly.flight inFlight).act trivial runs

/-- A run that is to call the analyzer reads the document before, or has its settings. -/
theorem Calls.reads_or_informed (orderly : Orderly (state.desk []))
    (makes : state.Calls file run call) :
    (state.Reads file run call.text ∧ call.file = file) ∨
      (state.view file).stage = some (.informed call) ∧ state.IsLastRun file run := by
  obtain ⟨next, t, known, isRun, made⟩ := makes
  unfold runCall? at made
  split at made
  · rename_i fresh
    split at made
    · rename_i document answer opened provided
      cases made
      exact .inl ⟨⟨next, ⟨t, known, fresh, isRun⟩, document, opened, rfl⟩, rfl⟩
    · cases made
  · rename_i asked text away answer informed
    cases made
    have inFlight : state.pending.get? file = some run :=
      orderly.flight.pending known isRun (by rw [Task.result?_eq, informed]; rfl)
    have stage := stage?_eq _ file inFlight known
    rw [informed] at stage
    exact .inr ⟨stage, isLastRun_of_pending orderly.flight inFlight⟩
  · cases made

/-- A run that calls the analyzer with the text waits for the reply, or has analyzed it if the reply
comes at once. -/
theorem covered_of_called {analyzer : Analyzer} {reply : Option Reply} {document : Document}
    (orderly : Orderly ((start.play actions).desk []))
    (makes : (start.play actions).Calls file run call)
    (replied : reply = none ∨ reply = some (analyzer call))
    (after : ((start.play actions).act (.tick analyzer)).view file =
      ((start.play actions).view file).apply file (.called call reply))
    (opened : ((start.play actions).view file).document = some document)
    (covered : Covered start actions file document.text) :
    Covered start (actions ++ [.tick analyzer]) file document.text := by
  have frame : ∃ stage index published, ((start.play actions).act (.tick analyzer)).view file =
      { (start.play actions).view file with stage, index, published } := by
    rw [after]
    cases reply with
    | none => exact ⟨_, _, _, rfl⟩
    | some reply =>
      obtain ⟨index, published, frame⟩ :=
        ((start.play actions).view file).exists_conclude file reply
      simp only [View.apply, frame]
      exact ⟨_, _, _, rfl⟩
  have runs : (((start.play actions).act (.tick analyzer)).view file).runs =
      ((start.play actions).view file).runs := by
    obtain ⟨stage, index, published, frame⟩ := frame
    rw [frame]
  have called : ∃ before analyzer' rest,
      Occurs start (actions ++ [.tick analyzer]) before (.tick analyzer') rest ∧
        before.queue.head? = some (.step run) ∧
        (tick analyzer' before).calls = before.calls ++ [call] :=
    ⟨_, analyzer, [], occurs_last start actions _, makes.next, makes.calls_tick analyzer⟩
  -- what the run read is the text of the document, and it has made its call with it
  have step : ∀ stage, ((start.play actions).view file).stage = some stage → stage ≠ .finished →
      (start.play actions).IsLastRun file run →
      LastCall start (actions ++ [.tick analyzer]) file document.text run call →
      Covered start (actions ++ [.tick analyzer]) file document.text := by
    intro stage reached going last made
    rcases replied with rfl | rfl
    · refine .calling run call made ?_
      rw [play_snoc, after]
      rfl
    · refine analyzed_of_conclude orderly reached going last ?_ made after
      exact Option.isSome_iff_exists.mpr ⟨document, opened⟩
  rcases makes.reads_or_informed orderly with ⟨reads, own⟩ | ⟨informed, last⟩
  · obtain ⟨inFlight, queued⟩ := reads.inFlight orderly
    obtain ⟨seen, found, same⟩ := reads.reads
    obtain rfl : seen = document := Option.some.inj (found.symm.trans opened)
    exact step .queued queued (by simp) (isLastRun_of_pending orderly.flight inFlight)
      ⟨same ▸ reads.lastRead orderly analyzer runs, called, own, same⟩
  · cases covered with
    | waiting waits =>
      obtain ⟨stage, index, published, frame⟩ := frame
      refine .waiting ?_
      rw [play_snoc, frame]
      exact waits
    | missed missed => exact .missed (missed.snoc id)
    | queued queued => cases informed.symm.trans queued
    | asking other read asking => cases informed.symm.trans asking
    | informed other made read own current informed' =>
      obtain rfl : call = made := by
        rw [informed] at informed'
        cases informed'
        rfl
      obtain rfl := last.unique read.last
      exact step (.informed call) informed (by simp) last
        ⟨read.snoc trivial id runs, called, own, current⟩
    | calling other made read calling => cases informed.symm.trans calling
    | answered other made read answered => cases informed.symm.trans answered
    | analyzed analyzed ended =>
      rw [informed] at ended
      simp at ended

/-- A run that has called the analyzer with the text and has an answer analyzes it. -/
theorem covered_of_concluded {analyzer : Analyzer} {document : Document}
    (orderly : Orderly ((start.play actions).desk []))
    (reached : ((start.play actions).view file).stage = some (.answered call))
    (after : ((start.play actions).act (.tick analyzer)).view file =
      (((start.play actions).view file).conclude file (analyzer call)).finish)
    (opened : ((start.play actions).view file).document = some document)
    (covered : Covered start actions file document.text) :
    Covered start (actions ++ [.tick analyzer]) file document.text := by
  cases covered with
  | waiting waits =>
    obtain ⟨index, published, frame⟩ :=
      ((start.play actions).view file).exists_conclude file (analyzer call)
    refine .waiting ?_
    rw [play_snoc, after, frame]
    exact waits
  | missed missed => exact .missed (missed.snoc id)
  | queued queued => cases reached.symm.trans queued
  | asking run read asking => cases reached.symm.trans asking
  | informed run other read own current informed => cases reached.symm.trans informed
  | calling run other made calling => cases reached.symm.trans calling
  | answered run other made answered =>
    obtain rfl : call = other := by
      rw [reached] at answered
      cases answered
      rfl
    obtain ⟨index, published, frame⟩ :=
      ((start.play actions).view file).exists_conclude file (analyzer call)
    have runs := congrArg View.runs after
    rw [frame] at runs
    refine analyzed_of_conclude orderly reached (by simp) made.last ?_
      (made.snoc trivial id runs) after
    exact Option.isSome_iff_exists.mpr ⟨document, opened⟩
  | analyzed analyzed ended =>
    rw [reached] at ended
    simp at ended

/-- A scheduled action other than a shutdown keeps every open file covered. -/
theorem covered_act (orderly : Orderly ((start.play actions).desk []))
    (running : .shutdown ∉ (start.play actions).jobs) (scheduled : action.Scheduled)
    (covered : ∀ document, (start.play actions).documents.get? file = some document →
      Covered start actions file document.text) {document : Document}
    (opened : ((start.play actions).act action).documents.get? file = some document) :
    Covered start (actions ++ [action]) file document.text := by
  have after : ((start.play actions).act action).view file = _ := view_act orderly scheduled
  have occasion : Occasion _ file action _ := occasion_act orderly.flight action
  generalize (start.play actions).effect action file = effect at after occasion
  have given : (((start.play actions).view file).apply file effect).document = some document := by
    rw [← after]
    exact opened
  -- an effect that triggers an analysis covers the file whatever happened before
  have triggers : ∀ view : View, ((start.play actions).act action).view file = view.trigger →
      view.stage = ((start.play actions).view file).stage →
      view.dropped = ((start.play actions).view file).dropped →
      Covered start (actions ++ [action]) file document.text := by
    intro view trigger stage dropped
    refine covered_of_trigger orderly.flight trigger stage dropped ?_
    have kept : view.trigger.document = view.document := by
      unfold View.trigger
      split
      · rfl
      · split <;> rfl
    rw [← kept, ← trigger, after, given]
    rfl
  cases occasion with
  | nothing action keeps => exact (covered document given).keep scheduled keeps after (.stay _)
  | opened text version => exact triggers _ after rfl rfl
  | changed text version =>
    refine .waiting ?_
    rw [play_snoc, after]
    rfl
  | saved text =>
    cases text with
    | none => exact triggers _ after rfl rfl
    | some text => exact triggers _ after rfl rfl
  | closed => cases given
  | triggered action keeps => exact triggers _ after rfl rfl
  | fired action keeps => exact triggers _ after rfl rfl
  | started analyzer =>
    refine .queued ?_
    rw [play_snoc, after]
    rfl
  | skipped analyzer closed => cases closed.symm.trans given
  | consulted analyzer run text reads =>
    obtain ⟨seen, found, rfl⟩ := reads.reads
    obtain rfl : seen = document := Option.some.inj (found.symm.trans given)
    have runs := (congrArg View.runs after).trans rfl
    refine .asking run (reads.lastRead orderly analyzer runs) ?_
    rw [play_snoc, after]
    rfl
  | informed task answer =>
    refine (covered document given).keep scheduled id after ?_
    cases reached : ((start.play actions).view file).stage with
    | none => exact .stay none
    | some stage =>
      cases stage with
      | asking text => exact .informed text answer
      | _ => exact .stay _
  | called analyzer run call reply makes replied =>
    have unchanged : ((start.play actions).view file).document = some document := by
      cases reply with
      | none => exact given
      | some reply =>
        obtain ⟨index, published, frame⟩ :=
          ((start.play actions).view file).exists_conclude file reply
        rw [View.apply, frame] at given
        exact given
    exact covered_of_called orderly makes replied after unchanged (covered document unchanged)
  | answered action keeps =>
    refine (covered document given).keep scheduled keeps after ?_
    cases reached : ((start.play actions).view file).stage with
    | none => exact .stay none
    | some stage =>
      cases stage with
      | calling call => exact .answered call
      | _ => exact .stay _
  | concluded analyzer call answered =>
    obtain ⟨index, published, frame⟩ :=
      ((start.play actions).view file).exists_conclude file (analyzer call)
    have unchanged : ((start.play actions).view file).document = some document := by
      rw [View.apply, frame] at given
      exact given
    exact covered_of_concluded orderly answered after unchanged (covered document unchanged)
  | settled analyzer finished =>
    refine (covered document given).keep scheduled id after ?_
    rw [finished]
    exact .settled
  | silenced analyzer shutdown => exact (running shutdown).elim

/-- Every open file is covered after every interleaving of scheduled actions without a shutdown. -/
theorem covered_play (provider : SettingsProvider) (delay : Nat) {actions : List Action}
    (scheduled : ∀ action ∈ actions, action.Scheduled) (running : .ask .shutdown ∉ actions)
    {document : Document}
    (opened : ((initial provider delay).play actions).documents.get? file = some document) :
    Covered (initial provider delay) actions file document.text := by
  -- the last action is taken off, since reads and drops are dated by what follows them
  induction actions using List.reverseRecOn generalizing document with
  | nil => simp [initial] at opened
  | append_singleton actions action ih =>
    have earlier : ∀ action ∈ actions, action.Scheduled :=
      fun earlier inside => scheduled earlier (by simp [inside])
    have running' : .ask .shutdown ∉ actions := fun inside => running (by simp [inside])
    rw [play_snoc] at opened
    exact covered_act (orderly_play (orderly_initial provider delay) earlier)
      (shutdown_notMem_jobs_play earlier running' (by simp [initial, jobs]))
      (scheduled action (by simp)) (fun document => ih earlier running') opened

/-- An open file with no run in flight and no waiting request was analyzed by its last run as it is
now, and has the index of that analysis if it succeeded, or else a trigger for it was dropped, when
its text was set last or after that, while the run in flight had already begun. -/
theorem analyzed_or_dropped (provider : SettingsProvider) (delay : Nat) (actions : List Action)
    (scheduled : ∀ action ∈ actions, action.Scheduled) (running : .ask .shutdown ∉ actions)
    (file : String) (document : Document)
    (opened : ((initial provider delay).play actions).documents.get? file = some document)
    (idle : ((initial provider delay).play actions).pending.get? file = none)
    (quiet : ((initial provider delay).play actions).debouncer.isWaiting file = false) :
    Analyzed (initial provider delay) actions file document.text ∨
      DroppedSince (initial provider delay) actions file := by
  have settled : (((initial provider delay).play actions).view file).stage = none := by
    simp [view, stage?, idle]
  cases covered_play provider delay scheduled running opened with
  | waiting waits => cases quiet.symm.trans waits
  | queued queued => cases settled.symm.trans queued
  | missed missed => exact .inr missed
  | asking run read asking => cases settled.symm.trans asking
  | informed run call read own current informed => cases settled.symm.trans informed
  | calling run call made calling => cases settled.symm.trans calling
  | answered run call made answered => cases settled.symm.trans answered
  | analyzed analyzed ended => exact .inl analyzed

/-- An analyzer that finds one fact in every text, named by the text, and warns with the text. -/
def echo : Analyzer := fun call =>
  let mark : Mark := { line := some 1, column := some 1 }
  let head : Term := .atom mark call.text
  { result := .ok (.ok { items := [{ mark, body := .fact (some head) }] } (some call.text)) }

/-- The index of a text of one letter that is analyzed so. -/
def echoed (letter : String) : FileIndex where
  filePath := "a.pl"
  predicates := [{ name := letter, arity := 0, definition := .ofSpan 1 1 1 2,
                   full := .ofSpan 1 1 1 2, calls := [] }]
  diagnostics := [{ line := 1, character := 0, message := letter, severity := .warning }]

/-- A document is opened and analyzed, and saved with another text and analyzed again. -/
def followed : List Action :=
  [.event (.opened "a.pl" "p" 0), .tick echo, .tick echo, .event (.saved "a.pl" (some "q")),
    .tick echo, .tick echo]

/-- A document is opened, and saved with another text while the analyzer is at work on it. -/
def overtaken : List Action :=
  [.hold "a.pl", .event (.opened "a.pl" "p" 0), .tick echo, .event (.saved "a.pl" (some "q")),
    .release "a.pl", .tick echo, .tick echo]

/-- No trigger is dropped where each run has ended before the next trigger comes. -/
theorem not_droppedSince_followed :
    ¬DroppedSince (initial (.fixed {}) 500) followed "a.pl" := by
  rintro ⟨before, action, rest, ⟨past, split, rfl⟩, -, drops⟩
  have none : ∀ n ≤ 6,
      ((initial (.fixed {}) 500).play (followed.take n)).dropped "a.pl" = 0 := by decide +kernel
  have here : followed.take (past.length + 1) = past ++ [action] := by
    rw [split, ← List.singleton_append, ← List.append_assoc]
    exact List.take_left' (by simp)
  have bound : past.length + 1 ≤ 6 := by
    have length := congrArg List.length split
    simp only [followed, List.length_append, List.length_cons, List.length_nil] at length
    omega
  have dropped := drops.dropped
  rw [← play_snoc, ← here, none _ bound] at dropped
  omega

/-- The index of the old text is no analysis of the new one. -/
theorem not_analyzed_overtaken :
    ¬Analyzed (initial (.fixed {}) 500) overtaken "a.pl" "q" := by
  rintro ⟨run, call, made, before, analyzer, rest, ⟨past, split, -⟩, -, installed⟩
  have inside : .tick analyzer ∈ overtaken := by simp [split]
  obtain rfl : analyzer = echo := by simpa [overtaken] using inside
  have index := installed _ _ rfl rfl
  rw [made.current] at index
  exact absurd index (by decide +kernel)

/-- A document that is saved with another text after it was analyzed has the index of the new text,
and one that is saved so while it is analyzed has that of the old one, and a trigger was dropped. -/
theorem analyzed_or_dropped_overtaken :
    ((∀ action ∈ followed, action.Scheduled) ∧ .ask .shutdown ∉ followed ∧
      Analyzed (initial (.fixed {}) 500) followed "a.pl" "q" ∧
      ((initial (.fixed {}) 500).play followed).cache.get? "a.pl" = some (echoed "q")) ∧
    (∀ action ∈ overtaken, action.Scheduled) ∧ .ask .shutdown ∉ overtaken ∧
      DroppedSince (initial (.fixed {}) 500) overtaken "a.pl" ∧
      ((initial (.fixed {}) 500).play overtaken).cache.get? "a.pl" = some (echoed "p") := by
  have scheduled : ∀ action ∈ followed, action.Scheduled := by simp [followed, Action.Scheduled]
  have running : .ask .shutdown ∉ followed := by simp [followed]
  have scheduled' : ∀ action ∈ overtaken, action.Scheduled := by simp [overtaken, Action.Scheduled]
  have running' : .ask .shutdown ∉ overtaken := by simp [overtaken]
  have first := analyzed_or_dropped (.fixed {}) 500 followed scheduled running "a.pl" ⟨"q", 0⟩
    (by decide +kernel) (by decide +kernel) (by decide +kernel)
  have second := analyzed_or_dropped (.fixed {}) 500 overtaken scheduled' running' "a.pl" ⟨"q", 0⟩
    (by decide +kernel) (by decide +kernel) (by decide +kernel)
  exact ⟨⟨scheduled, running, first.resolve_right not_droppedSince_followed, by decide +kernel⟩,
    scheduled', running', second.resolve_left not_analyzed_overtaken, by decide +kernel⟩

end State

end PredicateIndex.Pipeline
