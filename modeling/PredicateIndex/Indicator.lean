import PredicateIndex.Decimal.Count

/-!
# Predicate indicators

The written form of a predicate is its name, a slash and its arity. It is cut at the last slash.
The arity must consist of digit characters, and they must be decimal digits to have a value.
-/
namespace PredicateIndex.Indicator

/-- Why a text is no indicator. -/
inductive Refusal where
  /-- It has no name, no slash or an arity that is not made of digits. -/
  | malformed (value : String)
  /-- Its arity has no value. -/
  | arity (fault : Count.Fault)
  deriving DecidableEq, Repr

/-- The words of a refusal. -/
def Refusal.message : Refusal → String
  | .malformed value => s!"expected NAME/ARITY, got '{value}'"
  | .arity fault => fault.message

/-- The name and the arity of an indicator. -/
def parse (value : String) : Except Refusal (String × Nat) :=
  let reversed := value.toList.reverse
  let arity := (reversed.takeWhile (· != '/')).reverse
  match reversed.dropWhile (· != '/') with
  | _ :: c :: rest =>
    if Count.isWritten arity then
      ((Count.read arity).mapError .arity).map fun n => (String.ofList (c :: rest).reverse, n)
    else .error (.malformed value)
  | _ => .error (.malformed value)

end PredicateIndex.Indicator
