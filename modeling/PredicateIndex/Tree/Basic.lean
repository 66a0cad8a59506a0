import PredicateIndex.Value

/-!
# Syntax trees of clause files

The tree of one source file as the analyzer reports it: a list of top-level items, which are
rules, facts, directives, parse errors and items of an unknown kind, over terms. Every node may
carry its one-based line and column and a debugging payload; an item may also carry a span that
reaches from its leading comments to its last token.
-/
namespace PredicateIndex

/-- The debugging payload of a node. -/
inductive Payload where
  /-- One text. -/
  | text (s : String)
  /-- Several texts. -/
  | lines (items : List String)
  deriving DecidableEq, Repr

/-- What every node carries. -/
structure Mark where
  /-- One-based line. -/
  line : Option Int := none
  /-- One-based column. -/
  column : Option Int := none
  /-- Debugging payload. -/
  raw : Option Payload := none
  deriving DecidableEq, Repr, Inhabited

/-- An integer or a double. -/
inductive Number where
  /-- An integer. -/
  | int (n : Int)
  /-- A double. -/
  | float (x : Binary64)
  deriving DecidableEq, Repr

/-- An operator symbol. -/
structure Operator where
  /-- Position and payload. -/
  mark : Mark := {}
  /-- The symbol. -/
  symbol : String := ""
  deriving DecidableEq, Repr

/-- A term. -/
inductive Term where
  /-- An atom. -/
  | atom (mark : Mark) (text : String)
  /-- A variable; an unnamed one has a tag of its own. -/
  | var (mark : Mark) (unnamed : Bool) (name : String)
  /-- A number. -/
  | number (mark : Mark) (value : Number)
  /-- An operator standing alone. -/
  | operator (operator : Operator)
  /-- A name applied to parameters; also how goals appear in bodies. -/
  | compound (mark : Mark) (name : String) (arity : Option Int) (params : List Term)
  /-- An operator between two operands. -/
  | operation (mark : Mark) (operator : Option Operator) (left right : Option Term)
  /-- A list; `head` is set by analyzers that split off the first element. -/
  | list (mark : Mark) (items : List Term) (head tail : Option Term)
  /-- Terms in parentheses. -/
  | group (mark : Mark) (content : List Term)
  /-- The cut. -/
  | cut (mark : Mark)
  /-- A wrapper around a parameter. -/
  | param (mark : Mark) (value : Option Term)
  /-- A term of an unknown kind, or a bare value. -/
  | unknown (mark : Mark) (tag : String)
  deriving Repr, Inhabited

/-- One end of a span, with a one-based column. -/
structure SpanPoint where
  /-- Line. -/
  line : Int
  /-- Column. -/
  column : Int
  deriving DecidableEq, Repr

/-- The extent of a top-level item. -/
structure Span where
  /-- First position. -/
  start : SpanPoint
  /-- Last position. -/
  stop : SpanPoint
  deriving DecidableEq, Repr

/-- What a top-level item says. -/
inductive ItemBody where
  /-- A clause with a body. -/
  | rule (head : Option Term) (body : List Term)
  /-- A clause without a body. -/
  | fact (head : Option Term)
  /-- A directive. -/
  | directive (goals : List Term)
  /-- A place the analyzer could not read. -/
  | parseError (kind : String)
  /-- An item of an unknown kind. -/
  | unknown (tag : String)
  deriving Repr

/-- A top-level item. -/
structure Item where
  /-- Position and payload. -/
  mark : Mark := {}
  /-- Extent, if the analyzer reports it. -/
  span : Option Span := none
  /-- What it says. -/
  body : ItemBody
  deriving Repr

/-- The tree of one file. -/
structure Tree where
  /-- The path the analyzer reports. -/
  file : String := ""
  /-- The top-level items in source order. -/
  items : List Item := []
  deriving Repr, Inhabited

/-- The kinds of term. -/
inductive TermKind where
  /-- Atoms. -/
  | atom
  /-- Variables. -/
  | var
  /-- Numbers. -/
  | number
  /-- Operators standing alone. -/
  | operator
  /-- Names applied to parameters. -/
  | compound
  /-- Operators between operands. -/
  | operation
  /-- Lists. -/
  | list
  /-- Terms in parentheses. -/
  | group
  /-- Cuts. -/
  | cut
  /-- Wrapped parameters. -/
  | param
  /-- Everything else. -/
  | unknown
  deriving DecidableEq, Repr

namespace TermKind

/-- The name of a kind in paths. -/
def name : TermKind → String
  | .atom => "atom"
  | .var => "var"
  | .number => "number"
  | .operator => "operator"
  | .compound => "functor"
  | .operation => "infix"
  | .list => "list"
  | .group => "parenthesis"
  | .cut => "cut"
  | .param => "param"
  | .unknown => "unknown"

/-- The kind of a tag; every other tag is unknown. -/
def ofTag (tag : String) : TermKind :=
  if tag == "atom" then .atom
  else if tag == "var" || tag == "unnamed_var" then .var
  else if tag == "number" then .number
  else if tag == "operator" then .operator
  else if tag == "functor" then .compound
  else if tag == "infix" then .operation
  else if tag == "list" then .list
  else if tag == "parenthesis" then .group
  else if tag == "cut" then .cut
  else if tag == "param" then .param
  else .unknown

end TermKind

/-- The kinds of top-level item. -/
inductive ItemKind where
  /-- Clauses with a body. -/
  | rule
  /-- Clauses without a body. -/
  | fact
  /-- Directives. -/
  | directive
  /-- Places the analyzer could not read. -/
  | parseError
  /-- Everything else. -/
  | unknown
  deriving DecidableEq, Repr

namespace ItemKind

/-- The name of a kind in paths. -/
def name : ItemKind → String
  | .rule => "rule"
  | .fact => "fact"
  | .directive => "directive"
  | .parseError => "parseerror"
  | .unknown => "unknown"

/-- The kind of a tag; every other tag is unknown. -/
def ofTag (tag : String) : ItemKind :=
  if tag == "rule" then .rule
  else if tag == "fact" then .fact
  else if tag == "directive" then .directive
  else if tag == "parseerror" then .parseError
  else .unknown

end ItemKind

namespace Term

/-- Position and payload of a term. -/
def mark : Term → Mark
  | .atom mark _ | .var mark _ _ | .number mark _ | .compound mark _ _ _ | .operation mark _ _ _
  | .list mark _ _ _ | .group mark _ | .cut mark | .param mark _ | .unknown mark _ => mark
  | .operator symbol => symbol.mark

/-- The tag that names the kind of a term. -/
def tag : Term → String
  | .atom .. => "atom"
  | .var _ unnamed _ => if unnamed then "unnamed_var" else "var"
  | .number .. => "number"
  | .operator .. => "operator"
  | .compound .. => "functor"
  | .operation .. => "infix"
  | .list .. => "list"
  | .group .. => "parenthesis"
  | .cut .. => "cut"
  | .param .. => "param"
  | .unknown _ tag => tag

/-- The arity of a compound: the one it declares, else the number of its parameters. -/
def declaredArity (arity : Option Int) (params : List Term) : Int := arity.getD params.length

end Term

/-- The tag that names the kind of an item. -/
def ItemBody.tag : ItemBody → String
  | .rule .. => "rule"
  | .fact .. => "fact"
  | .directive .. => "directive"
  | .parseError .. => "parseerror"
  | .unknown tag => tag

/-- Whether a mark has a position: both numbers are present and not zero. -/
def Mark.hasPosition (mark : Mark) : Bool :=
  mark.line.any (· != 0) && mark.column.any (· != 0)

end PredicateIndex
