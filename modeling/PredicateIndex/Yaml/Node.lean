import PredicateIndex.Yaml.Token

/-!
# From tokens to nodes

A document is one node: a scalar, a list of nodes, or a mapping from nodes to nodes. In a block a
missing value is an empty plain scalar; the items of a list may stand at the column of the key that
the list belongs to. In brackets a single pair is a mapping of its own. Nothing is said here about
what a scalar means, so whether the tokens are in order does not depend on it.
-/
namespace PredicateIndex.Yaml

/-- A part of a document whose scalars have no meaning yet. -/
inductive Node where
  /-- A scalar, plain or quoted. -/
  | scalar (characters : List Char) (isPlain : Bool)
  /-- A list. -/
  | sequence (items : List Node)
  /-- A mapping, with its pairs as they are written. -/
  | mapping (pairs : List (Node × Node))
  deriving Repr, Inhabited

namespace Node

/-- The node of a missing value. -/
def empty : Node := .scalar [] true

/-- The error of tokens that are not in order: the fault, if reading them failed here. -/
def errorAt : List Token → ReadError
  | .fault error :: _ => error
  | _ => .malformed

/-- Whether the next token is one of some. -/
def startsWith (tokens : List Token) (expected : List Token) : Bool :=
  tokens.head?.any expected.contains

/-- The tokens after the comma that all items but the first need. -/
def afterComma (first : Bool) (tokens : List Token) : Except ReadError (List Token) :=
  match first, tokens with
  | true, _ => .ok tokens
  | false, .separator :: rest => .ok rest
  | false, _ => .error (errorAt tokens)

mutual

/-- A node. A node in block form may be a block; a value in a mapping may also be a list whose items
stand at the column of the key. -/
def parse (inBlock unindented : Bool) : Nat → List Token → Except ReadError (Node × List Token)
  | 0, _ => .error .malformed
  | fuel + 1, tokens =>
    match tokens with
    | .scalar characters isPlain :: rest => .ok (.scalar characters isPlain, rest)
    | .openSequence :: rest => do
      let (items, rest) ← flowItems true fuel rest
      return (.sequence items, rest)
    | .openMapping :: rest => do
      let (pairs, rest) ← flowPairs true fuel rest
      return (.mapping pairs, rest)
    | .blockSequence :: rest =>
      if inBlock then do
        let (items, rest) ← blockItems fuel rest
        return (.sequence items, rest)
      else .error .malformed
    | .blockMapping :: rest =>
      if inBlock then do
        let (pairs, rest) ← blockPairs fuel rest
        return (.mapping pairs, rest)
      else .error .malformed
    | .entry :: _ =>
      if unindented then do
        let (items, rest) ← unindentedItems fuel tokens
        return (.sequence items, rest)
      else .error .malformed
    | _ => .error (errorAt tokens)

/-- A node, or the empty one before one of some tokens. -/
def parseOrEmpty (inBlock unindented : Bool) (stops : List Token) :
    Nat → List Token → Except ReadError (Node × List Token)
  | 0, _ => .error .malformed
  | fuel + 1, tokens =>
    if startsWith tokens stops then .ok (empty, tokens) else parse inBlock unindented fuel tokens

/-- The items of a list in block form. -/
def blockItems : Nat → List Token → Except ReadError (List Node × List Token)
  | 0, _ => .error .malformed
  | fuel + 1, tokens =>
    match tokens with
    | .entry :: rest => do
      let (item, rest) ← parseOrEmpty true false [.entry, .blockEnd] fuel rest
      let (items, rest) ← blockItems fuel rest
      return (item :: items, rest)
    | .blockEnd :: rest => .ok ([], rest)
    | _ => .error (errorAt tokens)

/-- The items of a list that opens no block. -/
def unindentedItems : Nat → List Token → Except ReadError (List Node × List Token)
  | 0, _ => .error .malformed
  | fuel + 1, tokens =>
    match tokens with
    | .entry :: rest => do
      let (item, rest) ← parseOrEmpty true false [.entry, .key, .value, .blockEnd] fuel rest
      let (items, rest) ← unindentedItems fuel rest
      return (item :: items, rest)
    | _ => .ok ([], tokens)

/-- The pairs of a mapping in block form. -/
def blockPairs : Nat → List Token → Except ReadError (List (Node × Node) × List Token)
  | 0, _ => .error .malformed
  | fuel + 1, tokens =>
    match tokens with
    | .key :: rest => do
      let (key, rest) ← parseOrEmpty true true [.key, .value, .blockEnd] fuel rest
      let (value, rest) ← blockValue fuel rest
      let (pairs, rest) ← blockPairs fuel rest
      return ((key, value) :: pairs, rest)
    | .blockEnd :: rest => .ok ([], rest)
    | _ => .error (errorAt tokens)

/-- The value of a pair in block form; without a colon it is empty. -/
def blockValue : Nat → List Token → Except ReadError (Node × List Token)
  | 0, _ => .error .malformed
  | fuel + 1, tokens =>
    match tokens with
    | .value :: rest => parseOrEmpty true true [.key, .value, .blockEnd] fuel rest
    | _ => .ok (empty, tokens)

/-- The value of a pair in brackets or braces; without a colon it is empty. -/
def flowValue (stops : List Token) : Nat → List Token → Except ReadError (Node × List Token)
  | 0, _ => .error .malformed
  | fuel + 1, tokens =>
    match tokens with
    | .value :: rest => parseOrEmpty false false stops fuel rest
    | _ => .ok (empty, tokens)

/-- The items in brackets; all but the first come after a comma. -/
def flowItems (first : Bool) : Nat → List Token → Except ReadError (List Node × List Token)
  | 0, _ => .error .malformed
  | fuel + 1, tokens =>
    match tokens with
    | .closeSequence :: rest => .ok ([], rest)
    | _ => do
      let tokens ← afterComma first tokens
      match tokens with
      | .closeSequence :: rest => return ([], rest)
      | .key :: rest =>
        let (key, rest) ← parseOrEmpty false false [.value, .separator, .closeSequence] fuel rest
        let (value, rest) ← flowValue [.separator, .closeSequence] fuel rest
        let (items, rest) ← flowItems false fuel rest
        return (.mapping [(key, value)] :: items, rest)
      | _ =>
        let (item, rest) ← parse false false fuel tokens
        let (items, rest) ← flowItems false fuel rest
        return (item :: items, rest)

/-- The pairs in braces; all but the first come after a comma. -/
def flowPairs (first : Bool) : Nat → List Token → Except ReadError (List (Node × Node) × List Token)
  | 0, _ => .error .malformed
  | fuel + 1, tokens =>
    match tokens with
    | .closeMapping :: rest => .ok ([], rest)
    | _ => do
      let tokens ← afterComma first tokens
      match tokens with
      | .closeMapping :: rest => return ([], rest)
      | .key :: rest =>
        let (key, rest) ← parseOrEmpty false false [.value, .separator, .closeMapping] fuel rest
        let (value, rest) ← flowValue [.separator, .closeMapping] fuel rest
        let (pairs, rest) ← flowPairs false fuel rest
        return ((key, value) :: pairs, rest)
      | _ =>
        let (key, rest) ← parse false false fuel tokens
        let (pairs, rest) ← flowPairs false fuel rest
        return ((key, empty) :: pairs, rest)

end

/-- The node of the document whose tokens these are; nothing but marks after a document may
follow. -/
def ofTokens (tokens : List Token) : Except ReadError Node := do
  let fuel := 4 * tokens.length + 4
  let (node, rest) ← match tokens with
    | [] => pure (empty, [])
    | .documentStart :: rest =>
      if rest.isEmpty then pure (empty, [])
      else parseOrEmpty true false [.documentStart, .documentEnd] fuel rest
    | _ => parse true false fuel tokens
  match rest.dropWhile (· == .documentEnd) with
  | [] => return node
  | others => throw (errorAt others)

end Node

end PredicateIndex.Yaml
