import Ancestry.Decimal.Binary64
import Ancestry.Decimal.Integer

/-!
# Nodes of YAML

A document is a tree of scalars, sequences and mappings. What a plain scalar without a tag
stands for is told from its text; a tag may ask for one kind, and a scalar that does not
comply is a node without a value. A number that is no integer keeps its text.

A mapping is written as a row of nodes, keys and values by turns. A key has to have a
value as a node and may not be given twice.
-/
namespace Ancestry.Yaml

inductive Node
  | null
  | bool (b : Bool)
  | integer (n : Int)
  | real (text : String)
  | text (s : String)
  /-- A node that has no value. -/
  | void
  | sequence (items : List Node)
  | mapping (entries : List (Node × Node))
  deriving Repr

namespace Node

/-! ## Equality -/

mutual

/-- Whether two nodes are the same, entries of mappings in the same order. -/
def same : Node → Node → Bool
  | null, null => true
  | bool a, bool b => a = b
  | integer a, integer b => a = b
  | real a, real b => a = b
  | text a, text b => a = b
  | void, void => true
  | sequence xs, sequence ys => sameItems xs ys
  | mapping xs, mapping ys => sameEntries xs ys
  | _, _ => false

def sameItems : List Node → List Node → Bool
  | [], [] => true
  | x :: xs, y :: ys => same x y && sameItems xs ys
  | _, _ => false

def sameEntries : List (Node × Node) → List (Node × Node) → Bool
  | [], [] => true
  | (k, v) :: xs, (l, w) :: ys => same k l && same v w && sameEntries xs ys
  | _, _ => false

end

/-! ## Scalars -/

/-- The texts of infinities and of what is no number that begin with a point. -/
def unusualNumbers : List String :=
  [".inf", ".Inf", ".INF", "+.inf", "+.Inf", "+.INF", "-.inf", "-.Inf", "-.INF",
    ".nan", ".NAN"]

/-- Whether a text is a number; the words for infinities and for what is no number are. -/
def isReal (s : String) : Bool :=
  s ∈ unusualNumbers || (Binary64.read s.toList).isSome

/-- An integer in base sixteen or eight behind its mark, or behind a plus sign. -/
def markedInteger : List Char → Option Int
  | '0' :: 'x' :: digits => Decimal.readInt64 16 digits
  | '0' :: 'o' :: digits => Decimal.readInt64 8 digits
  | '+' :: digits => Decimal.readInt64 10 digits
  | _ => none

/-- What a plain scalar without a tag stands for. -/
def ofPlain (s : String) : Node :=
  match markedInteger s.toList with
  | some n => .integer n
  | none =>
    if s = "~" || s = "null" then .null
    else if s = "true" then .bool true
    else if s = "false" then .bool false
    else
      match Decimal.readInt64 10 s.toList with
      | some n => .integer n
      | none => if isReal s then .real s else .text s

/-- A tag as the prefix it stands for and the rest of it. -/
structure Tag where
  space : String
  suffix : String
  deriving Repr, DecidableEq

/-- The prefix of the tags that are common to all. -/
def commonSpace : String := "tag:yaml.org,2002:"

/-- What a plain scalar stands for if a common tag asks for a kind. -/
def ofCommonTag (suffix s : String) : Node :=
  match suffix with
  | "bool" => if s = "true" then .bool true else if s = "false" then .bool false else .void
  | "int" =>
    match Decimal.readInt64 10 s.toList with
    | some n => .integer n
    | none => .void
  | "float" => if isReal s then .real s else .void
  | "null" => if s = "~" || s = "null" then .null else .void
  | _ => .text s

/-- What a scalar stands for. -/
def ofScalar (isPlain : Bool) (tag : Option Tag) (s : String) : Node :=
  if !isPlain then .text s
  else
    match tag with
    | none => ofPlain s
    | some t => if t.space = commonSpace then ofCommonTag t.suffix s else .text s

/-! ## Mappings -/

def isVoid : Node → Bool
  | void => true
  | _ => false

/-- Pairs up a row of keys and values. A node without a value is passed over in the place
of a key, and a key at the end has no value and is left out. -/
def entriesOf : List Node → List (Node × Node)
  | [] => []
  | [_] => []
  | k :: v :: rest => if k.isVoid then entriesOf (v :: rest) else (k, v) :: entriesOf rest

/-- Whether no key is given twice. -/
def distinctKeys : List (Node × Node) → Bool
  | [] => true
  | (k, _) :: rest => !rest.any (fun e => k.same e.1) && distinctKeys rest

/-- The mapping that a row of nodes makes. -/
def mappingOf? (row : List Node) : Option Node :=
  let entries := entriesOf row
  if distinctKeys entries then some (.mapping entries) else none

end Node
end Ancestry.Yaml
