import PredicateIndex.Index.Basic
import PredicateIndex.Ledger

/-!
# The cache of file indexes

The latest index of each file, in the order in which the files came in, and beside it the generation
of the analysis that produced it. Installing an index under an older generation than the recorded
one is refused and changes nothing, so a slow analysis cannot overwrite a newer one. An index that is
installed without a generation is always taken and leaves the record of generations as it is.
-/
namespace PredicateIndex

/-- The indexes of files and the generations they were installed under. -/
structure Cache where
  /-- The index of each file. -/
  entries : Ledger FileIndex := []
  /-- The generation recorded for a file. -/
  generations : Ledger Int := []
  deriving DecidableEq, Repr, Inhabited

namespace Cache

/-- The cache without entries. -/
def empty : Cache := {}

/-- The index of a file. -/
def get? (cache : Cache) (file : String) : Option FileIndex := cache.entries.get? file

/-- The generation recorded for a file. -/
def generation? (cache : Cache) (file : String) : Option Int := cache.generations.get? file

/-- The files with an entry, in order. -/
def files (cache : Cache) : List String := cache.entries.keys

/-- Whether an installation comes too late: a newer generation is recorded for the file. -/
def isStale (cache : Cache) (file : String) (generation : Option Int) : Bool :=
  match generation, cache.generation? file with
  | some offered, some recorded => offered < recorded
  | _, _ => false

/-- The cache after an index of a file is written, with its generation if it has one. -/
def write (cache : Cache) (file : String) (index : FileIndex) (generation : Option Int) : Cache where
  entries := cache.entries.put file index
  generations := match generation with
    | some number => cache.generations.put file number
    | none => cache.generations

/-- Install an index unless it is stale; the flag says whether it was installed. -/
def install (cache : Cache) (file : String) (index : FileIndex) (generation : Option Int) :
    Bool × Cache :=
  if cache.isStale file generation then (false, cache)
  else (true, cache.write file index generation)

/-- Drop the entry and the generation of a file. -/
def evict (cache : Cache) (file : String) : Cache where
  entries := cache.entries.remove file
  generations := cache.generations.remove file

end Cache

end PredicateIndex
