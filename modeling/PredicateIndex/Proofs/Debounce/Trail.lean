import PredicateIndex.Debounce.Session
import PredicateIndex.Proofs.Ledger

/-!
# What happens in a session

A script is any sequence of commands and stretches of time. Beside the session that it leads to, the
incidents on the way are recorded: the commands, those that callbacks give included, and the alarms
that go off, each with the session right after it. Such a trail is a course: from one session to the
next either an incident happens or the clock moves while nothing is due. What holds at every point
of a course is proved once for each of these steps. Main result: the waiting requests are in the order
of their deadlines, and the clock never passes one of them.
-/
namespace PredicateIndex.Debounce

/-! ## Scripts and trails -/

/-- What the user of a session does: give commands at once, or let time pass. -/
inductive Step where
  /-- Give commands, and let everything go off that is due then. -/
  | perform (commands : List Command)
  /-- Let time pass. -/
  | advance (milliseconds : Nat)
  deriving Repr

/-- What happens in a session. -/
inductive Incident where
  /-- A request is made, with its number, at a time. -/
  | asked (serial : Nat) (key : String) (callback : Callback) (time : Nat)
  /-- The request of a key is cancelled. -/
  | dropped (key : String)
  /-- All requests are cancelled. -/
  | droppedAll
  /-- The callback of a request starts to run at a time. -/
  | ran (serial : Nat) (key : String) (callback : Callback) (time : Nat)
  deriving Repr

namespace Incident

/-- Whether an incident is the request for a key, its end or its run. -/
def concerns (key : String) : Incident → Bool
  | .asked _ k _ _ | .dropped k | .ran _ k _ _ => k == key
  | .droppedAll => true

/-- Whether an incident is the run of a callback. -/
def isRun : Incident → Bool
  | .ran .. => true
  | _ => false

/-- Whether an incident is the run of the callback of a request. -/
def runs (number : Nat) : Incident → Bool
  | .ran serial .. => serial == number
  | _ => false

end Incident

/-- An incident, with the session right after it. -/
structure Moment where
  /-- What happens. -/
  incident : Incident
  /-- The session right after it. -/
  after : Session
  deriving Repr

namespace Session

/-- What a command is in a session. -/
def incident (session : Session) : Command → Incident
  | .request key tag commands =>
    .asked session.debouncer.nextSerial key { tag, commands } session.now
  | .cancel key => .dropped key
  | .cancelAll => .droppedAll

/-- A command, with the session after it. -/
def given (session : Session) (command : Command) : Moment where
  incident := session.incident command
  after := session.give command

/-- The session in which an alarm has just gone off and its callback has given no command yet. -/
def ring (session : Session) (key : String) (alarm : Alarm Callback) : Session :=
  { session with
    now := max session.now alarm.deadline
    debouncer := session.debouncer.cancel key
    fired := session.fired ++ [alarm.action.tag] }

/-- An alarm that goes off, with the session in which its callback starts. -/
def rung (session : Session) (key : String) (alarm : Alarm Callback) : Moment where
  incident := .ran alarm.serial key alarm.action (max session.now alarm.deadline)
  after := session.ring key alarm

/-- What happens while commands are given. -/
def trailOfCommands (session : Session) : List Command → List Moment
  | [] => []
  | command :: rest => session.given command :: (session.give command).trailOfCommands rest

/-- What happens when an alarm goes off. -/
def trailOfAlarm (session : Session) (key : String) (alarm : Alarm Callback) : List Moment :=
  session.rung key alarm :: (session.ring key alarm).trailOfCommands alarm.action.commands

/-- What happens until every alarm that is due until a time has gone off. -/
def trailUntil (session : Session) (time : Nat) : List Moment :=
  match _found : session.debouncer.due? time with
  | some (key, alarm) => session.trailOfAlarm key alarm ++ (session.fire key alarm).trailUntil time
  | none => []
termination_by load session.debouncer.alarms
decreasing_by exact load_fire_lt session time key alarm _found

/-- The session after a step. -/
def take (session : Session) : Step → Session
  | .perform commands => session.perform commands
  | .advance milliseconds => session.advance milliseconds

/-- What happens in a step. -/
def trailOfStep (session : Session) : Step → List Moment
  | .perform commands =>
    session.trailOfCommands commands ++
      (session.giveAll commands).trailUntil (session.giveAll commands).now
  | .advance milliseconds => session.trailUntil (session.now + milliseconds)

/-- The session after a script. -/
def play (session : Session) (script : List Step) : Session := script.foldl take session

/-- What happens during a script. -/
def trail (session : Session) : List Step → List Moment
  | [] => []
  | step :: rest => session.trailOfStep step ++ (session.take step).trail rest

end Session

/-! ## Courses -/

/-- What can happen next in a session: any command, or the first alarm going off. -/
inductive Happens (session : Session) : Moment → Prop where
  /-- A command is given. -/
  | command (command : Command) : Happens session (session.given command)
  /-- The first alarm goes off. -/
  | alarm {key : String} {alarm : Alarm Callback}
      (first : session.debouncer.alarms.head? = some (key, alarm)) :
      Happens session (session.rung key alarm)

/-- What happens on the way from one session to another. -/
inductive Course : Session → List Moment → Session → Prop where
  /-- Nothing happens. -/
  | rest (session : Session) : Course session [] session
  /-- Something happens. -/
  | happen {session final : Session} {moment : Moment} {moments : List Moment}
      (next : Happens session moment) (later : Course moment.after moments final) :
      Course session (moment :: moments) final
  /-- The clock moves to a time until which nothing is due. -/
  | wait {session final : Session} {moments : List Moment} {time : Nat} (forward : session.now ≤ time)
      (quiet : session.debouncer.due? time = none)
      (later : Course { session with now := time } moments final) : Course session moments final

namespace Course

variable {session middle final : Session} {moment : Moment} {first second : List Moment}

/-- Two courses in a row are a course. -/
theorem append (early : Course session first middle) (late : Course middle second final) :
    Course session (first ++ second) final := by
  induction early with
  | rest session => exact late
  | happen next _ ih => exact .happen next (ih late)
  | wait forward quiet _ ih => exact .wait forward quiet (ih late)

/-- A course can be cut at everything that happens. -/
theorem cut (course : Course session (first ++ moment :: second) final) :
    ∃ middle, Course session first middle ∧ Happens middle moment ∧
      Course moment.after second final := by
  generalize whole : first ++ moment :: second = moments at course
  induction course generalizing first with
  | rest session => simp at whole
  | @happen session _ next _ happens later ih =>
    cases first with
    | nil =>
      obtain ⟨rfl, rfl⟩ := List.cons.inj whole
      exact ⟨session, .rest session, happens, later⟩
    | cons _ rest =>
      obtain ⟨rfl, others⟩ := List.cons.inj whole
      obtain ⟨middle, early, happens', late⟩ := ih others
      exact ⟨middle, .happen happens early, happens', late⟩
  | wait forward quiet _ ih =>
    obtain ⟨middle, early, happens, late⟩ := ih whole
    exact ⟨middle, .wait forward quiet early, happens, late⟩

end Course

namespace Session

/-- Commands are a course. -/
theorem course_commands (session : Session) (commands : List Command) :
    Course session (session.trailOfCommands commands) (session.giveAll commands) := by
  induction commands generalizing session with
  | nil => exact .rest session
  | cons command rest ih => exact .happen (.command command) (ih (session.give command))

/-- The request that is due is the first one. -/
theorem head?_of_due {session : Session} {time : Nat} {key : String} {alarm : Alarm Callback}
    (found : session.debouncer.due? time = some (key, alarm)) :
    session.debouncer.alarms.head? = some (key, alarm) ∧ alarm.deadline ≤ time := by
  rw [Debouncer.due?] at found
  split at found
  · rename_i first _ rest listed
    split at found
    · rename_i due
      cases found
      exact ⟨by rw [listed]; rfl, due⟩
    · cases found
  · cases found

section Until

variable {session : Session} {time : Nat} {key : String} {alarm : Alarm Callback}

/-- The first alarm goes off if it is due. -/
theorem runUntil_of_due (found : session.debouncer.due? time = some (key, alarm)) :
    session.runUntil time = (session.fire key alarm).runUntil time := by
  rw [runUntil]
  split
  · rename_i found'
    cases found.symm.trans found'
    rfl
  · rename_i none
    cases found.symm.trans none

/-- No alarm goes off if none is due. -/
theorem runUntil_of_quiet (quiet : session.debouncer.due? time = none) :
    session.runUntil time = session := by
  rw [runUntil]
  split
  · rename_i found
    cases quiet.symm.trans found
  · rfl

/-- What happens if the first alarm is due. -/
theorem trailUntil_of_due (found : session.debouncer.due? time = some (key, alarm)) :
    session.trailUntil time =
      session.trailOfAlarm key alarm ++ (session.fire key alarm).trailUntil time := by
  rw [trailUntil]
  split
  · rename_i found'
    cases found.symm.trans found'
    rfl
  · rename_i none
    cases found.symm.trans none

/-- Nothing happens if no alarm is due. -/
theorem trailUntil_of_quiet (quiet : session.debouncer.due? time = none) :
    session.trailUntil time = [] := by
  rw [trailUntil]
  split
  · rename_i found
    cases quiet.symm.trans found
  · rfl

end Until

/-- Letting alarms go off is a course. -/
theorem course_until (session : Session) (time : Nat) :
    Course session (session.trailUntil time) (session.runUntil time) := by
  induction session using runUntil.induct time with
  | case1 session key alarm found ih =>
    rw [trailUntil_of_due found, runUntil_of_due found]
    exact Course.append (.happen (.alarm (head?_of_due found).1)
      (course_commands (session.ring key alarm) alarm.action.commands)) ih
  | case2 session quiet =>
    rw [trailUntil_of_quiet quiet, runUntil_of_quiet quiet]
    exact .rest session

/-- When every alarm that is due until a time has gone off, none is. -/
theorem due?_runUntil (session : Session) (time : Nat) :
    (session.runUntil time).debouncer.due? time = none := by
  induction session using runUntil.induct time with
  | case1 session key alarm found ih => rwa [runUntil_of_due found]
  | case2 session quiet => rwa [runUntil_of_quiet quiet]

/-- Commands do not take time. -/
@[simp] theorem now_give (session : Session) (command : Command) :
    (session.give command).now = session.now := by
  cases command <;> rfl

/-- Commands do not take time. -/
@[simp] theorem now_giveAll (session : Session) (commands : List Command) :
    (session.giveAll commands).now = session.now := by
  induction commands generalizing session with
  | nil => rfl
  | cons command rest ih => exact (ih (session.give command)).trans (now_give session command)

/-- An alarm that goes off moves the clock to its deadline at most. -/
theorem now_fire (session : Session) (key : String) (alarm : Alarm Callback) :
    (session.fire key alarm).now = max session.now alarm.deadline :=
  now_giveAll _ _

/-- Letting alarms go off until a time moves the clock up to that time at most. -/
theorem now_runUntil {session : Session} {time : Nat} (ahead : session.now ≤ time) :
    session.now ≤ (session.runUntil time).now ∧ (session.runUntil time).now ≤ time := by
  induction session using runUntil.induct time with
  | case1 session key alarm found ih =>
    have due := (head?_of_due found).2
    have now := now_fire session key alarm
    rw [runUntil_of_due found]
    have both := ih (by omega)
    omega
  | case2 session quiet =>
    rw [runUntil_of_quiet quiet]
    exact ⟨Nat.le_refl _, ahead⟩

/-- After commands everything goes off that is due at the time. -/
theorem perform_eq (session : Session) (commands : List Command) :
    session.perform commands = (session.giveAll commands).runUntil session.now := by
  rw [perform, now_giveAll]

/-- Alarms that are due at once take no time. -/
theorem now_perform (session : Session) (commands : List Command) :
    (session.perform commands).now = session.now := by
  have both := now_runUntil (Nat.le_of_eq (now_giveAll session commands))
  rw [now_giveAll, ← perform_eq] at both
  exact Nat.le_antisymm both.2 both.1

/-- A step is a course. -/
theorem course_step (session : Session) (step : Step) :
    Course session (session.trailOfStep step) (session.take step) := by
  cases step with
  | perform commands =>
    exact (session.course_commands commands).append (course_until _ _)
  | advance milliseconds =>
    have until' := session.course_until (session.now + milliseconds)
    have rest := until'.append (.wait (now_runUntil (Nat.le_add_right _ _)).2
      (due?_runUntil session _) (.rest _))
    rwa [List.append_nil] at rest

end Session

/-! ## Deadlines -/

/-- The waiting requests of a session are in order: by deadline, none of them past and none too far
away, and with numbers that were given out. -/
structure Timely (session : Session) : Prop where
  /-- They are in the order of their deadlines. -/
  sorted : session.debouncer.alarms.Pairwise fun first second =>
    first.2.deadline ≤ second.2.deadline
  /-- No deadline has passed. -/
  ahead : ∀ entry ∈ session.debouncer.alarms, session.now ≤ entry.2.deadline
  /-- No deadline is further away than that of a request made now. -/
  near : ∀ entry ∈ session.debouncer.alarms,
    entry.2.deadline ≤ session.now + session.debouncer.delay
  /-- The numbers were given out. -/
  numbered : ∀ entry ∈ session.debouncer.alarms, entry.2.serial < session.debouncer.nextSerial

namespace Timely

variable {session final : Session} {moment : Moment} {moments : List Moment}

/-- Fewer requests are in order if all of them are. -/
theorem fewer (timely : Timely session) {alarms : Ledger (Alarm Callback)}
    (some : alarms.Sublist session.debouncer.alarms) {keys fired : List String} :
    Timely { session with debouncer := { session.debouncer with alarms }, keys, fired } where
  sorted := timely.sorted.sublist some
  ahead := fun entry inside => timely.ahead entry (some.subset inside)
  near := fun entry inside => timely.near entry (some.subset inside)
  numbered := fun entry inside => timely.numbered entry (some.subset inside)

/-- A request is the last one, and the others stay in order. -/
theorem request (timely : Timely session) (key tag : String) (commands : List Command) :
    Timely (session.give (.request key tag commands)) := by
  have kept {entry} (inside : entry ∈ session.debouncer.alarms.remove key) :
      entry ∈ session.debouncer.alarms := List.mem_of_mem_filter inside
  have either {entry}
      (inside : entry ∈ (session.give (.request key tag commands)).debouncer.alarms) :
      entry ∈ session.debouncer.alarms ∨ entry.2.deadline = session.now + session.debouncer.delay ∧
        entry.2.serial = session.debouncer.nextSerial := by
    rcases List.mem_append.mp inside with old | new
    · exact .inl (kept old)
    · rw [List.mem_singleton.mp new]
      exact .inr ⟨rfl, rfl⟩
  constructor
  · refine List.pairwise_append.mpr ⟨timely.sorted.sublist List.filter_sublist,
      List.pairwise_singleton _ _, fun old inside new isNew => ?_⟩
    rw [List.mem_singleton.mp isNew]
    exact timely.near old (kept inside)
  · intro entry inside
    rcases either inside with old | ⟨deadline, -⟩
    · exact timely.ahead entry old
    · rw [deadline]
      exact Nat.le_add_right _ _
  · intro entry inside
    rcases either inside with old | ⟨deadline, -⟩
    · exact timely.near entry old
    · exact Nat.le_of_eq deadline
  · intro entry inside
    rcases either inside with old | ⟨-, serial⟩
    · exact Nat.lt_succ_of_lt (timely.numbered entry old)
    · rw [serial]
      exact Nat.lt_succ_self _

/-- The first deadline is the earliest. -/
theorem first_le (timely : Timely session) {first entry : String × Alarm Callback}
    (isFirst : session.debouncer.alarms.head? = some first)
    (inside : entry ∈ session.debouncer.alarms) : first.2.deadline ≤ entry.2.deadline := by
  obtain ⟨rest, listed⟩ := List.head?_eq_some_iff.mp isFirst
  have sorted := timely.sorted
  rw [listed] at sorted inside
  rcases List.mem_cons.mp inside with rfl | inside
  · exact Nat.le_refl _
  · exact (List.pairwise_cons.mp sorted).1 entry inside

/-- The clock can move to the time of the first deadline. -/
theorem until_first (timely : Timely session) {time : Nat} (forward : session.now ≤ time)
    (reached : ∀ entry ∈ session.debouncer.alarms, time ≤ entry.2.deadline) :
    Timely { session with now := time } where
  sorted := timely.sorted
  ahead := reached
  near := fun entry inside =>
    Nat.le_trans (timely.near entry inside) (Nat.add_le_add_right forward _)
  numbered := timely.numbered

/-- No waiting request is due if the first one is not. -/
theorem lt_of_quiet (timely : Timely session) {time : Nat}
    (quiet : session.debouncer.due? time = none) {entry : String × Alarm Callback}
    (inside : entry ∈ session.debouncer.alarms) : time < entry.2.deadline := by
  rw [Debouncer.due?] at quiet
  split at quiet
  · rename_i key alarm rest listed
    split at quiet
    · cases quiet
    · rename_i late
      have first : alarm.deadline ≤ entry.2.deadline :=
        timely.first_le (by rw [listed]; rfl) inside
      omega
  · rename_i none
    rw [none] at inside
    cases inside

/-- The clock can move while nothing is due. -/
theorem wait (timely : Timely session) {time : Nat} (forward : session.now ≤ time)
    (quiet : session.debouncer.due? time = none) : Timely { session with now := time } :=
  timely.until_first forward fun _ inside => Nat.le_of_lt (timely.lt_of_quiet quiet inside)

/-- The time at which the first alarm goes off is its deadline. -/
theorem now_ring (timely : Timely session) {key : String} {alarm : Alarm Callback}
    (first : session.debouncer.alarms.head? = some (key, alarm)) :
    max session.now alarm.deadline = alarm.deadline :=
  Nat.max_eq_right (timely.ahead (key, alarm) (List.mem_of_mem_head? first))

/-- What happens leaves the waiting requests in order. -/
theorem happens (timely : Timely session) (next : Happens session moment) :
    Timely moment.after := by
  cases next with
  | command command =>
    cases command with
    | request key tag commands => exact timely.request key tag commands
    | cancel key => exact timely.fewer List.filter_sublist
    | cancelAll => exact timely.fewer (List.nil_sublist _)
  | @alarm key alarm first =>
    have moved : Timely { session with now := max session.now alarm.deadline } := by
      refine timely.until_first (Nat.le_max_left _ _) fun entry inside => ?_
      rw [timely.now_ring first]
      exact timely.first_le first inside
    exact moved.fewer List.filter_sublist

/-- A course leaves the waiting requests in order. -/
theorem course (timely : Timely session) (course : Course session moments final) :
    Timely final := by
  induction course with
  | rest session => exact timely
  | happen next _ ih => exact ih (timely.happens next)
  | wait forward quiet _ ih => exact ih (timely.wait forward quiet)

/-- Nothing waits at the start. -/
theorem start (delay : Nat) : Timely (Session.start delay) :=
  ⟨List.Pairwise.nil, nofun, nofun, nofun⟩

end Timely

end PredicateIndex.Debounce
