import PredicateIndex.Proofs.Debounce.Trail

/-!
# Keys that others have no part in

Keys are insulated from the others in a script if no callback of another key gives a command about
one of them. Main result: the callbacks of insulated keys run as they would if the script did not
mention any other key. The script without the others is played beside the whole one: an alarm of an
insulated key goes off in both, and one of another key leaves no trace in what both have in common.
-/
namespace PredicateIndex.Debounce

variable {kept : String → Bool}

/-! ## Leaving keys out -/

mutual

/-- A command about certain keys only. -/
def Command.restrict (kept : String → Bool) : Command → List Command
  | .request key tag callback =>
    if kept key then [.request key tag (restrictAll kept callback)] else []
  | .cancel key => if kept key then [.cancel key] else []
  | .cancelAll => [.cancelAll]

/-- Commands about certain keys only. -/
def restrictAll (kept : String → Bool) : List Command → List Command
  | [] => []
  | command :: rest => command.restrict kept ++ restrictAll kept rest

end

mutual

/-- Whether a command and what follows from it are about other keys only. -/
def Command.isForeign (kept : String → Bool) : Command → Bool
  | .request key _ callback => !kept key && areForeign kept callback
  | .cancel key => !kept key
  | .cancelAll => false

/-- Whether commands and what follows from them are about other keys only. -/
def areForeign (kept : String → Bool) : List Command → Bool
  | [] => true
  | command :: rest => command.isForeign kept && areForeign kept rest

end

mutual

/-- Whether callbacks of other keys that a command leads to are about other keys only. -/
def Command.isInsulated (kept : String → Bool) : Command → Bool
  | .request key _ callback =>
    if kept key then areInsulated kept callback else areForeign kept callback
  | .cancel _ => true
  | .cancelAll => true

/-- Whether callbacks of other keys that commands lead to are about other keys only. -/
def areInsulated (kept : String → Bool) : List Command → Bool
  | [] => true
  | command :: rest => command.isInsulated kept && areInsulated kept rest

end

/-- A step with commands about certain keys only. -/
def Step.restrict (kept : String → Bool) : Step → Step
  | .perform commands => .perform (restrictAll kept commands)
  | .advance milliseconds => .advance milliseconds

/-- Whether callbacks of other keys that a step leads to are about other keys only. -/
def Step.isInsulated (kept : String → Bool) : Step → Bool
  | .perform commands => areInsulated kept commands
  | .advance _ => true

/-- The key, the tag and the time of a run, if the key is one of certain ones. -/
def Incident.run? (kept : String → Bool) : Incident → Option (String × String × Nat)
  | .ran _ key callback time => if kept key then some (key, callback.tag, time) else none
  | _ => none

/-- The runs of the callbacks of certain keys. -/
def runsWithin (kept : String → Bool) (moments : List Moment) : List (String × String × Nat) :=
  moments.filterMap fun moment => moment.incident.run? kept

/-- The run at the first moment, if there is one, is the first run. -/
theorem runsWithin_cons (kept : String → Bool) (moment : Moment) (moments : List Moment) :
    runsWithin kept (moment :: moments) =
      (moment.incident.run? kept).toList ++ runsWithin kept moments := by
  rw [runsWithin, List.filterMap_cons]
  cases moment.incident.run? kept <;> rfl

/-- The runs of two stretches are those of both. -/
theorem runsWithin_append (kept : String → Bool) (first second : List Moment) :
    runsWithin kept (first ++ second) = runsWithin kept first ++ runsWithin kept second :=
  List.filterMap_append

/-! ## What two debouncers have in common -/

/-- The waiting requests without their numbers. -/
def plain (alarms : Ledger (Alarm Callback)) : Ledger (Nat × Callback) :=
  alarms.map fun entry => (entry.1, entry.2.deadline, entry.2.action)

/-- The waiting requests of certain keys without their numbers, with commands about these keys
only. -/
def sight (kept : String → Bool) (alarms : Ledger (Alarm Callback)) : Ledger (Nat × Callback) :=
  (alarms.filter fun entry => kept entry.1).map fun entry =>
    (entry.1, entry.2.deadline,
      { tag := entry.2.action.tag, commands := restrictAll kept entry.2.action.commands })

/-- Dropping a key and leaving the numbers out can be done in either order. -/
theorem plain_remove (alarms : Ledger (Alarm Callback)) (key : String) :
    plain (alarms.remove key) = (plain alarms).remove key := by
  rw [plain, plain, Ledger.remove, Ledger.remove, List.filter_map]
  rfl

/-- Dropping a key and looking at certain keys can be done in either order. -/
theorem sight_remove (alarms : Ledger (Alarm Callback)) (key : String) :
    sight kept (alarms.remove key) = (sight kept alarms).remove key := by
  simp only [sight, Ledger.remove, List.filter_map, List.filter_filter, Function.comp_def,
    Bool.and_comm]

/-- Dropping another key cannot be seen. -/
theorem sight_remove_other (alarms : Ledger (Alarm Callback)) {key : String}
    (other : kept key = false) : sight kept (alarms.remove key) = sight kept alarms := by
  rw [sight, sight, Ledger.remove, List.filter_filter]
  congr 1
  refine List.filter_congr fun entry _ => ?_
  cases isKept : kept entry.1 with
  | false => rfl
  | true =>
    have apart : entry.1 ≠ key := by
      rintro rfl
      exact Bool.false_ne_true (other.symm.trans isKept)
    exact bne_iff_ne.mpr apart

/-- One debouncer has the waiting requests of certain keys that another has, and in the other the
callbacks of other keys are about other keys only. -/
structure Shadows (kept : String → Bool) (few all : Debouncer Callback) : Prop where
  /-- The delays are the same. -/
  delay : few.delay = all.delay
  /-- The waiting requests are those of the kept keys. -/
  alarms : plain few.alarms = sight kept all.alarms
  /-- Callbacks of other keys are about other keys only. -/
  insulated : ∀ entry ∈ all.alarms,
    (if kept entry.1 then areInsulated kept entry.2.action.commands
      else areForeign kept entry.2.action.commands) = true

namespace Shadows

variable {few all : Debouncer Callback}

/-- A key that is dropped in both. -/
theorem cancel (shadows : Shadows kept few all) (key : String) :
    Shadows kept (few.cancel key) (all.cancel key) where
  delay := shadows.delay
  alarms := by
    rw [Debouncer.cancel, Debouncer.cancel, plain_remove, sight_remove, shadows.alarms]
  insulated := fun entry inside => shadows.insulated entry (List.mem_of_mem_filter inside)

/-- Another key that is dropped. -/
theorem cancel_other (shadows : Shadows kept few all) {key : String} (other : kept key = false) :
    Shadows kept few (all.cancel key) where
  delay := shadows.delay
  alarms := by rw [Debouncer.cancel, sight_remove_other _ other, shadows.alarms]
  insulated := (shadows.cancel key).insulated

/-- Everything that is dropped in both. -/
theorem cancelAll (shadows : Shadows kept few all) : Shadows kept few.cancelAll all.cancelAll :=
  ⟨shadows.delay, rfl, nofun⟩

/-- After a request the callbacks of other keys are about other keys only, if its own is. -/
theorem insulated_request (shadows : Shadows kept few all) (now : Nat) (key tag : String)
    {commands : List Command}
    (insulated : (Command.request key tag commands).isInsulated kept = true) :
    ∀ entry ∈ (all.request now key { tag, commands }).alarms,
      (if kept entry.1 then areInsulated kept entry.2.action.commands
        else areForeign kept entry.2.action.commands) = true := by
  intro entry inside
  rcases List.mem_append.mp inside with old | new
  · exact shadows.insulated entry (List.mem_of_mem_filter old)
  · rw [List.mem_singleton.mp new]
    rwa [Command.isInsulated] at insulated

/-- A request that is made in both. -/
theorem request (shadows : Shadows kept few all) (now : Nat) {key tag : String}
    {commands : List Command} (isKept : kept key = true)
    (insulated : (Command.request key tag commands).isInsulated kept = true) :
    Shadows kept (few.request now key { tag, commands := restrictAll kept commands })
      (all.request now key { tag, commands }) where
  delay := shadows.delay
  alarms := by
    have old := (shadows.cancel key).alarms
    simp only [Debouncer.cancel, plain, sight] at old
    simp only [Debouncer.request, plain, sight, List.map_append, List.filter_append, old,
      List.filter_cons, isKept, if_true, List.filter_nil, List.map_cons, List.map_nil, shadows.delay]
  insulated := shadows.insulated_request now key tag insulated

/-- A request of another key. -/
theorem request_other (shadows : Shadows kept few all) (now : Nat) {key tag : String}
    {commands : List Command} (other : kept key = false)
    (insulated : (Command.request key tag commands).isInsulated kept = true) :
    Shadows kept few (all.request now key { tag, commands }) where
  delay := shadows.delay
  alarms := by
    have old := (shadows.cancel_other other).alarms
    simp only [Debouncer.cancel, sight] at old
    simp only [Debouncer.request, sight, List.filter_append, List.filter_cons, other,
      Bool.false_eq_true, if_false, List.filter_nil, List.append_nil, old]
  insulated := shadows.insulated_request now key tag insulated

end Shadows

/-! ## Playing both scripts -/

variable {few all : Session}

/-- Commands about other keys cannot be seen. -/
theorem Shadows.foreign (shadows : Shadows kept few.debouncer all.debouncer)
    {commands : List Command} (foreign : areForeign kept commands = true) :
    Shadows kept few.debouncer (all.giveAll commands).debouncer := by
  induction commands generalizing all with
  | nil => exact shadows
  | cons command rest ih =>
    rw [areForeign, Bool.and_eq_true] at foreign
    refine @ih (all.give command) ?_ foreign.2
    have foreign := foreign.1
    cases command with
    | request key tag callback =>
      rw [Command.isForeign, Bool.and_eq_true, Bool.not_eq_true'] at foreign
      refine shadows.request_other all.now foreign.1 ?_
      rw [Command.isInsulated, foreign.1]
      exact foreign.2
    | cancel key =>
      rw [Command.isForeign, Bool.not_eq_true'] at foreign
      exact shadows.cancel_other foreign
    | cancelAll => cases foreign

/-- Commands in one session are in the other those about the kept keys. -/
theorem Shadows.giveAll (shadows : Shadows kept few.debouncer all.debouncer)
    (sameTime : few.now = all.now) {commands : List Command}
    (insulated : areInsulated kept commands = true) :
    Shadows kept (few.giveAll (restrictAll kept commands)).debouncer
      (all.giveAll commands).debouncer := by
  induction commands generalizing few all with
  | nil => exact shadows
  | cons command rest ih =>
    rw [areInsulated, Bool.and_eq_true] at insulated
    obtain ⟨here, others⟩ := insulated
    rw [restrictAll, Session.giveAll, List.foldl_append]
    refine @ih (few.giveAll (command.restrict kept)) (all.give command) ?_ ?_ others
    · cases command with
      | request key tag callback =>
        cases isKept : kept key with
        | true =>
          rw [Command.restrict, if_pos isKept]
          simp only [Session.giveAll, List.foldl_cons, List.foldl_nil, Session.give, sameTime]
          exact shadows.request all.now isKept here
        | false =>
          rw [Command.restrict, isKept]
          exact shadows.request_other all.now isKept here
      | cancel key =>
        cases isKept : kept key with
        | true =>
          rw [Command.restrict, if_pos isKept]
          exact shadows.cancel key
        | false =>
          rw [Command.restrict, isKept]
          exact shadows.cancel_other isKept
      | cancelAll => exact shadows.cancelAll
    · rw [Session.now_giveAll, Session.now_give, sameTime]

/-- No callback runs while commands are given. -/
theorem runsWithin_commands (kept : String → Bool) (session : Session) (commands : List Command) :
    runsWithin kept (session.trailOfCommands commands) = [] := by
  induction commands generalizing session with
  | nil => rfl
  | cons command rest ih =>
    rw [Session.trailOfCommands, runsWithin_cons, ih]
    cases command <;> rfl

/-- One callback runs when an alarm goes off. -/
theorem runsWithin_alarm (kept : String → Bool) (session : Session) (key : String)
    (alarm : Alarm Callback) :
    runsWithin kept (session.trailOfAlarm key alarm) =
      if kept key then [(key, alarm.action.tag, max session.now alarm.deadline)] else [] := by
  rw [Session.trailOfAlarm, runsWithin_cons, runsWithin_commands, Session.rung, Incident.run?]
  cases kept key <;> rfl

/-- The first alarm of all is the first of the kept keys if its key is kept. -/
theorem Shadows.head? (shadows : Shadows kept few.debouncer all.debouncer) {key : String}
    {alarm : Alarm Callback} (isKept : kept key = true)
    (first : all.debouncer.alarms.head? = some (key, alarm)) :
    ∃ same : Alarm Callback, few.debouncer.alarms.head? = some (key, same) ∧
      same.deadline = alarm.deadline ∧
      same.action =
        { tag := alarm.action.tag, commands := restrictAll kept alarm.action.commands } := by
  obtain ⟨rest, listed⟩ := List.head?_eq_some_iff.mp first
  have both := shadows.alarms
  rw [listed, sight, List.filter_cons, if_pos isKept, List.map_cons] at both
  obtain ⟨⟨found, same⟩, others, isFirst, made, -⟩ := List.map_eq_cons_iff.mp both
  simp only [Prod.mk.injEq] at made
  obtain ⟨rfl, deadline, action⟩ := made
  exact ⟨same, by rw [isFirst]; rfl, deadline, action⟩

/-- Nothing is due for the kept keys if nothing is due at all. -/
theorem Shadows.quiet (shadows : Shadows kept few.debouncer all.debouncer) (timely : Timely all)
    {time : Nat} (quiet : all.debouncer.due? time = none) : few.debouncer.due? time = none := by
  rw [Debouncer.due?]
  split
  · rename_i key alarm rest listed
    have among : (key, alarm.deadline, alarm.action) ∈ sight kept all.debouncer.alarms := by
      rw [← shadows.alarms, listed]
      exact List.mem_cons_self
    obtain ⟨entry, inside, same⟩ := List.mem_map.mp among
    have late := timely.lt_of_quiet quiet (List.mem_of_mem_filter inside)
    simp only [Prod.mk.injEq] at same
    rw [if_neg (by omega)]
  · rfl

/-- Letting alarms go off runs the same callbacks of the kept keys in both sessions. -/
theorem Shadows.runUntil (shadows : Shadows kept few.debouncer all.debouncer) (timely : Timely all)
    (notLater : few.now ≤ all.now) (time : Nat) :
    Shadows kept (few.runUntil time).debouncer (all.runUntil time).debouncer ∧
      runsWithin kept (few.trailUntil time) = runsWithin kept (all.trailUntil time) := by
  induction all using Session.runUntil.induct time generalizing few with
  | case1 all key alarm found ih =>
    rw [Session.runUntil_of_due found, Session.trailUntil_of_due found, runsWithin_append,
      runsWithin_alarm]
    obtain ⟨first, due⟩ := Session.head?_of_due found
    have ahead : max all.now alarm.deadline = alarm.deadline := timely.now_ring first
    have timelyAfter : Timely (all.fire key alarm) := timely.course
      (.happen (.alarm first) (Session.course_commands _ alarm.action.commands))
    have callback := shadows.insulated _ (List.mem_of_mem_head? first)
    cases isKept : kept key with
    | true =>
      -- The alarm goes off in both.
      obtain ⟨same, isFirst, deadline, action⟩ := shadows.head? isKept first
      have foundSame : few.debouncer.due? time = some (key, same) := by
        obtain ⟨rest, listed⟩ := List.head?_eq_some_iff.mp isFirst
        rw [Debouncer.due?, listed]
        exact if_pos (by omega)
      rw [if_pos isKept] at callback
      have sameTime : max few.now same.deadline = max all.now alarm.deadline := by omega
      have fired : Shadows kept (few.fire key same).debouncer (all.fire key alarm).debouncer := by
        rw [Session.fire, action]
        exact Shadows.giveAll (shadows.cancel key) sameTime callback
      obtain ⟨after, runs⟩ := ih fired timelyAfter (by rw [Session.now_fire, Session.now_fire]; omega)
      rw [Session.runUntil_of_due foundSame, Session.trailUntil_of_due foundSame, runsWithin_append,
        runsWithin_alarm, isKept, sameTime, action, runs]
      exact ⟨after, rfl⟩
    | false =>
      -- The alarm goes off in one only, and its callback is about other keys.
      rw [isKept] at callback
      have unseen : Shadows kept few.debouncer (all.fire key alarm).debouncer :=
        Shadows.foreign (shadows.cancel_other isKept) callback
      refine ih unseen timelyAfter ?_
      rw [Session.now_fire]
      omega
  | case2 all quiet =>
    have quietFew := shadows.quiet timely quiet
    rw [Session.runUntil_of_quiet quiet, Session.runUntil_of_quiet quietFew,
      Session.trailUntil_of_quiet quiet, Session.trailUntil_of_quiet quietFew]
    exact ⟨shadows, rfl⟩

/-- A step runs the same callbacks of the kept keys in both sessions. -/
theorem Shadows.take (shadows : Shadows kept few.debouncer all.debouncer) (timely : Timely all)
    (sameTime : few.now = all.now) {step : Step} (insulated : step.isInsulated kept = true) :
    Shadows kept (few.take (step.restrict kept)).debouncer (all.take step).debouncer ∧
      (few.take (step.restrict kept)).now = (all.take step).now ∧
      runsWithin kept (few.trailOfStep (step.restrict kept)) =
        runsWithin kept (all.trailOfStep step) := by
  cases step with
  | perform commands =>
    have given := shadows.giveAll sameTime insulated
    have timelyGiven := timely.course (all.course_commands commands)
    have notLater : (few.giveAll (restrictAll kept commands)).now ≤ (all.giveAll commands).now := by
      rw [Session.now_giveAll, Session.now_giveAll]
      exact Nat.le_of_eq sameTime
    obtain ⟨after, runs⟩ := given.runUntil timelyGiven notLater all.now
    refine ⟨?_, ?_, ?_⟩
    · rw [Step.restrict, Session.take, Session.take, Session.perform_eq, Session.perform_eq, sameTime]
      exact after
    · rw [Step.restrict, Session.take, Session.take, Session.now_perform, Session.now_perform,
        sameTime]
    · simp only [Step.restrict, Session.trailOfStep, runsWithin_append, runsWithin_commands,
        Session.now_giveAll, sameTime]
      exact runs
  | advance milliseconds =>
    obtain ⟨after, runs⟩ := shadows.runUntil timely (Nat.le_of_eq sameTime) (all.now + milliseconds)
    simp only [Step.restrict, Session.take, Session.trailOfStep, Session.advance, sameTime]
    exact ⟨after, trivial, runs⟩

/-- A script runs the same callbacks of the kept keys in both sessions. -/
theorem Shadows.trail (shadows : Shadows kept few.debouncer all.debouncer) (timely : Timely all)
    (sameTime : few.now = all.now) {script : List Step}
    (insulated : ∀ step ∈ script, step.isInsulated kept = true) :
    runsWithin kept (few.trail (script.map (Step.restrict kept))) =
      runsWithin kept (all.trail script) := by
  induction script generalizing few all with
  | nil => rfl
  | cons step rest ih =>
    obtain ⟨here, others⟩ := List.forall_mem_cons.mp insulated
    obtain ⟨after, time, runs⟩ := shadows.take timely sameTime here
    rw [List.map_cons, Session.trail, Session.trail, runsWithin_append, runsWithin_append, runs,
      ih after (timely.course (all.course_step step)) time others]

end PredicateIndex.Debounce
