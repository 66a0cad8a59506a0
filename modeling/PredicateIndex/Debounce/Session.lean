import PredicateIndex.Debounce.Basic

/-!
# Debouncing under a clock

A session runs a debouncer on a clock. The callback of a request notes the tag of the request and
then gives commands of its own, so a callback can ask for, replace and cancel requests. Alarms go off
one at a time in the order of their deadlines; the key of an alarm no longer waits when its callback
runs. Commands are finite, so every alarm uses up a part of what was asked, and the clock always
reaches its target.
-/
namespace PredicateIndex.Debounce

/-- What can be asked of a debouncer. -/
inductive Command where
  /-- Hold back a request; when it fires, note the tag and give the commands of its callback. -/
  | request (key tag : String) (callback : List Command)
  /-- Drop the request of a key. -/
  | cancel (key : String)
  /-- Drop all requests. -/
  | cancelAll
  deriving Repr

/-- What fires with a request. -/
structure Callback where
  /-- The tag that is noted. -/
  tag : String
  /-- The commands that follow. -/
  commands : List Command
  deriving Repr

mutual

/-- How many requests a command can lead to. -/
def Command.weight : Command → Nat
  | .request _ _ callback => 1 + weights callback
  | .cancel _ => 0
  | .cancelAll => 0

/-- How many requests a list of commands can lead to. -/
def weights : List Command → Nat
  | [] => 0
  | command :: rest => command.weight + weights rest

end

/-- How many alarms the waiting requests can lead to. -/
def load : Ledger (Alarm Callback) → Nat
  | [] => 0
  | (_, alarm) :: rest => 1 + weights alarm.action.commands + load rest

/-- Requests one after the other lead to the alarms of both. -/
theorem load_append (a b : Ledger (Alarm Callback)) : load (a ++ b) = load a + load b := by
  induction a with
  | nil => simp only [load, List.nil_append, Nat.zero_add]
  | cons pair rest ih => simp only [load, List.cons_append, ih, Nat.add_assoc]

/-- Dropping a request adds nothing to the load. -/
theorem load_remove_le (alarms : Ledger (Alarm Callback)) (key : String) :
    load (alarms.remove key) ≤ load alarms := by
  induction alarms with
  | nil => simp [Ledger.remove, load]
  | cons pair rest ih =>
    by_cases other : pair.1 != key <;>
      simp only [Ledger.remove, load, List.filter_cons, other, if_true, if_false,
        Bool.false_eq_true] at ih ⊢ <;> omega

/-- A debouncer on a clock. -/
structure Session where
  /-- The time. -/
  now : Nat := 0
  /-- The waiting requests. -/
  debouncer : Debouncer Callback
  /-- The keys that were ever asked for, in the order of their first request. -/
  keys : List String := []
  /-- The tags of the requests that fired, in order. -/
  fired : List String := []
  deriving Repr

namespace Session

/-- The session at time zero, with nothing asked. -/
def start (delay : Nat) : Session := { debouncer := { delay } }

/-- The session after one command. -/
def give (session : Session) : Command → Session
  | .request key tag commands =>
    { session with
      debouncer := session.debouncer.request session.now key { tag, commands }
      keys := if session.keys.contains key then session.keys else session.keys ++ [key] }
  | .cancel key => { session with debouncer := session.debouncer.cancel key }
  | .cancelAll => { session with debouncer := session.debouncer.cancelAll }

/-- The session after commands in order. -/
def giveAll (session : Session) (commands : List Command) : Session := commands.foldl give session

/-- The session in which an alarm goes off: the clock moves to its deadline unless that has passed,
the key stops waiting, the tag is noted, and the callback gives its commands. -/
def fire (session : Session) (key : String) (alarm : Alarm Callback) : Session :=
  giveAll
    { session with
      now := max session.now alarm.deadline
      debouncer := session.debouncer.cancel key
      fired := session.fired ++ [alarm.action.tag] }
    alarm.action.commands

/-- A command adds at most its own weight to the load. -/
theorem load_give_le (session : Session) (command : Command) :
    load (session.give command).debouncer.alarms ≤
      load session.debouncer.alarms + command.weight := by
  cases command with
  | request key tag callback =>
    have bound := load_remove_le session.debouncer.alarms key
    simp only [give, Debouncer.request, load_append, load, Command.weight] at bound ⊢
    omega
  | cancel key => exact Nat.le_add_right_of_le (load_remove_le session.debouncer.alarms key)
  | cancelAll => simp [give, Debouncer.cancelAll, load]

/-- Commands add at most their own weights to the load. -/
theorem load_giveAll_le (session : Session) (commands : List Command) :
    load (session.giveAll commands).debouncer.alarms ≤
      load session.debouncer.alarms + weights commands := by
  induction commands generalizing session with
  | nil => simp [giveAll, weights]
  | cons command rest ih =>
    have first := load_give_le session command
    have others := ih (session.give command)
    simp only [giveAll, List.foldl_cons, weights] at others ⊢
    omega

/-- An alarm that goes off reduces the load. -/
theorem load_fire_lt (session : Session) (time : Nat) (key : String) (alarm : Alarm Callback)
    (found : session.debouncer.due? time = some (key, alarm)) :
    load (session.fire key alarm).debouncer.alarms < load session.debouncer.alarms := by
  simp only [Debouncer.due?] at found
  cases listed : session.debouncer.alarms with
  | nil => simp [listed] at found
  | cons first rest =>
    obtain ⟨firstKey, firstAlarm⟩ := first
    simp only [listed] at found
    split at found
    · simp only [Option.some.injEq, Prod.mk.injEq] at found
      obtain ⟨sameKey, sameAlarm⟩ := found
      subst sameKey sameAlarm
      have given := load_giveAll_le
        { session with
          now := max session.now firstAlarm.deadline
          debouncer := session.debouncer.cancel firstKey
          fired := session.fired ++ [firstAlarm.action.tag] }
        firstAlarm.action.commands
      have less := load_remove_le rest firstKey
      simp only [fire, Debouncer.cancel, listed, Ledger.remove, load, List.filter_cons,
        bne_self_eq_false, Bool.false_eq_true, if_false] at given less ⊢
      omega
    · simp at found

/-- The session in which every alarm that is due until a time has gone off. -/
def runUntil (session : Session) (time : Nat) : Session :=
  match _found : session.debouncer.due? time with
  | some (key, alarm) => (session.fire key alarm).runUntil time
  | none => session
termination_by load session.debouncer.alarms
decreasing_by exact load_fire_lt session time key alarm _found

/-- The session after commands, when everything that is due has gone off. -/
def perform (session : Session) (commands : List Command) : Session :=
  let given := session.giveAll commands
  given.runUntil given.now

/-- The session after some time. -/
def advance (session : Session) (milliseconds : Nat) : Session :=
  let target := session.now + milliseconds
  { session.runUntil target with now := target }

/-- The keys with a waiting request, in the order of their first request. -/
def waiting (session : Session) : List String :=
  session.keys.filter session.debouncer.isWaiting

end Session

end PredicateIndex.Debounce
