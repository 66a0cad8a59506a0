import PredicateIndex.Proofs.Yaml

/-!
# Readers of configuration documents

A reader makes a document of the bytes of a file, says why they are none, or gives up with something
else. What a format allows, and what a reader makes of it, is left open: of any reader it is only known
that no key of a mapping comes twice. One reader is given, which knows what settings are written in by
hand: it does not read block scalars, anchors, tags and directives.
-/
namespace PredicateIndex.Yaml

/-- Something that was raised and is no complaint about a document. -/
structure Raised where
  /-- The name of its kind. -/
  kind : String
  /-- What it says. -/
  message : String
  deriving DecidableEq, Repr

/-- What reading bytes comes to. -/
inductive Reading where
  /-- A document. -/
  | document (value : Yaml)
  /-- A complaint that they are no document. -/
  | malformed (reason : String)
  /-- Something else that was raised. -/
  | raised (raised : Raised)
  deriving Repr

/-- A reader of documents. -/
structure Reader where
  /-- What the bytes of a file come to. -/
  read : List UInt8 → Reading
  /-- No key of a mapping comes twice, nor of a mapping that is one of its values. -/
  keyed : ∀ bytes entries, read bytes = .document (.mapping entries) → Keyed entries

/-- What is said of a text that breaks the rules of the format. -/
def malformedReason : String := "<yaml error>"

/-- What a text comes to. -/
def Reading.ofText (text : String) : Reading :=
  match Yaml.read text with
  | .ok value => .document value
  | .error .malformed => .malformed malformedReason
  | .error (.conversion message) => .raised { kind := "ValueError", message }
  | .error (.overflow message) => .raised { kind := "OverflowError", message }

/-- A text that comes to a document is read as the document. -/
theorem Reading.read_of_ofText {text : String} {value : Yaml} (comes : ofText text = .document value) :
    Yaml.read text = .ok value := by
  rw [ofText] at comes
  split at comes
  · rename_i found read
    rw [read, Reading.document.inj comes]
  all_goals cases comes

/-- The reader of settings that are written by hand, in UTF-8. -/
def Reader.byHand : Reader where
  read bytes :=
    match Utf8.decode bytes with
    | .ok decoded => .ofText decoded
    | .error fault => .raised { kind := "UnicodeDecodeError", message := fault.message }
  keyed bytes entries comes := by
    split at comes
    · exact keyed_of_read (Reading.read_of_ofText comes)
    · cases comes

end PredicateIndex.Yaml
