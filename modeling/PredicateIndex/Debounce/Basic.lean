import PredicateIndex.Ledger

/-!
# Debouncing

A debouncer holds back the latest request of each key for a fixed delay. A newer request for a key
takes the place of the older one, and a request that is cancelled never fires. Time is a count of
milliseconds that the caller provides. Since every request waits equally long, the requests stand in
the order of their deadlines, and the first of them is the next to fire.
-/
namespace PredicateIndex

/-- A request that waits for its deadline. -/
structure Alarm (α : Type) where
  /-- Which request it is: requests are numbered as they come. -/
  serial : Nat
  /-- When it fires. -/
  deadline : Nat
  /-- What is to be done then. -/
  action : α
  deriving DecidableEq, Repr

/-- The waiting requests of each key. -/
structure Debouncer (α : Type) where
  /-- How long a request waits. -/
  delay : Nat
  /-- The number of the next request. -/
  nextSerial : Nat := 0
  /-- The waiting request of each key, in the order of request. -/
  alarms : Ledger (Alarm α) := []
  deriving DecidableEq, Repr

namespace Debouncer

variable {α : Type}

/-- Drop the waiting request of a key. -/
def cancel (debouncer : Debouncer α) (key : String) : Debouncer α :=
  { debouncer with alarms := debouncer.alarms.remove key }

/-- Drop all waiting requests. -/
def cancelAll (debouncer : Debouncer α) : Debouncer α := { debouncer with alarms := [] }

/-- Take a request for a key; the request of that key that was waiting is dropped. -/
def request (debouncer : Debouncer α) (now : Nat) (key : String) (action : α) : Debouncer α where
  delay := debouncer.delay
  nextSerial := debouncer.nextSerial + 1
  alarms := debouncer.alarms.remove key ++
    [(key, { serial := debouncer.nextSerial, deadline := now + debouncer.delay, action })]

/-- Whether a key has a waiting request. -/
def isWaiting (debouncer : Debouncer α) (key : String) : Bool := debouncer.alarms.has key

/-- The first waiting request that is due at a time. -/
def due? (debouncer : Debouncer α) (time : Nat) : Option (String × Alarm α) :=
  match debouncer.alarms with
  | (key, alarm) :: _ => if alarm.deadline ≤ time then some (key, alarm) else none
  | [] => none

end Debouncer

end PredicateIndex
