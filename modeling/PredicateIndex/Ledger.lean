/-!
# Ledgers

A ledger maps keys to entries and remembers in which order the keys came in. It is a list of pairs:
writing to a known key keeps the place of the key, a new key goes to the end, and a key that is
erased and written again is a new key.
-/
namespace PredicateIndex

/-- Entries under keys, in the order in which the keys came in. -/
abbrev Ledger (α : Type) := List (String × α)

namespace Ledger

variable {α : Type}

/-- The entry of a key. -/
def get? (ledger : Ledger α) (key : String) : Option α := List.lookup key ledger

/-- Whether a key is present. -/
def has (ledger : Ledger α) (key : String) : Bool := (get? ledger key).isSome

/-- The keys in order. -/
def keys (ledger : Ledger α) : List String := ledger.map Prod.fst

/-- Write the entry of a key: a known key keeps its place, a new key goes to the end. -/
def put : Ledger α → String → α → Ledger α
  | [], key, entry => [(key, entry)]
  | (k, old) :: rest, key, entry =>
    if k == key then (k, entry) :: rest else (k, old) :: put rest key entry

/-- Remove a key and its entry. -/
def remove (ledger : Ledger α) (key : String) : Ledger α :=
  ledger.filter fun pair => pair.1 != key

/-- The ledger that results from writing pairs one after another: a repeated key has its last entry
at its first place. -/
def ofPairs (pairs : List (String × α)) : Ledger α :=
  pairs.foldl (fun ledger pair => put ledger pair.1 pair.2) []

end Ledger

end PredicateIndex
