import Ancestry.Yaml.Lexer
import Ancestry.Yaml.Node

/-!
# Documents

A text holds any number of documents. Each may begin with directives, which give meanings
to the handles of tags, and holds one node. Nodes are read from the tokens by descending
into collections, so the tokens that close a collection are always those that belong to it.

An anchor names a node from the place where it is written, but the node is there for an
alias only when it is complete; an alias inside its own node has no value.
-/
namespace Ancestry.Yaml

/-- A name for a node, which is missing while the node is being read. -/
structure Anchor where
  number : Nat
  name : List Char
  node : Option Node

/-- What is left to be read, and what has been named. -/
structure Reading where
  rest : List Token
  /-- The anchors so far, newest first. -/
  anchors : List Anchor
  /-- The meanings of the handles of tags. -/
  handles : List (List Char × List Char)

/-- What stands before the content of a node. -/
structure Properties where
  anchor : Option Nat
  tag : Option Node.Tag

/-- Where a node stands. Only in the field of a block may a sequence begin without being
indented, and only outside brackets may a block begin. -/
inductive Place
  | entry
  | field
  | bracket
  deriving DecidableEq

namespace Reading

def next? (r : Reading) : Option Token := r.rest.head?

def drop (r : Reading) : Reading := { r with rest := r.rest.tail }

/-- Whether the next token is one of some. -/
def nextIn (r : Reading) (ts : List Token) : Bool := r.next?.any ts.contains

/-- The node an alias refers to; nothing if there is no such name. -/
def named? (r : Reading) (name : List Char) : Option Node :=
  (r.anchors.find? (·.name = name)).map fun a => a.node.getD .void

/-- A new name for the node that comes, and its number. -/
def mark (r : Reading) (name : List Char) : Nat × Reading :=
  let number := r.anchors.length
  (number, { r with anchors := ⟨number, name, none⟩ :: r.anchors })

/-- The node with a number is complete. -/
def complete (r : Reading) (anchor : Option Nat) (n : Node) : Reading :=
  match anchor with
  | none => r
  | some number =>
    { r with anchors := r.anchors.map fun a =>
        if a.number = number then { a with node := some n } else a }

/-! ## Properties -/

def meaning? (r : Reading) (handle : List Char) : Option (List Char) := r.handles.lookup handle

/-- What a tag stands for. Two exclamation marks have a meaning of their own, and another
handle that is a name between two marks has to be declared. -/
def resolve (r : Reading) (handle suffix : List Char) : Option Node.Tag :=
  let tag (space : List Char) : Node.Tag := ⟨String.ofList space, String.ofList suffix⟩
  match r.meaning? handle with
  | some space => some (tag space)
  | none =>
    if handle = "!!".toList then some (tag Node.commonSpace.toList)
    else if isNamedHandle handle then none
    else some (tag handle)

/-- An anchor in front, if there is one. -/
def takeAnchor (r : Reading) : Option Nat × Reading :=
  match r.next? with
  | some (.anchor name) =>
    let (number, r) := r.drop.mark name
    (some number, r)
  | _ => (none, r)

/-- A tag in front, if there is one. -/
def takeTag (r : Reading) : Option (Option Node.Tag × Reading) :=
  match r.next? with
  | some (.tag handle suffix) => (r.resolve handle suffix).map fun t => (some t, r.drop)
  | _ => some (none, r)

/-- An anchor and a tag, in either order and each at most once. -/
def takeProperties (r : Reading) : Option (Properties × Reading) := do
  match r.takeAnchor with
  | (some anchor, r) =>
    let (tag, r) ← r.takeTag
    return (⟨some anchor, tag⟩, r)
  | (none, r) =>
    let (tag, r) ← r.takeTag
    if tag.isSome then
      let (anchor, r) := r.takeAnchor
      return (⟨anchor, tag⟩, r)
    else return (⟨none, none⟩, r)

/-- A node without content, which has to have properties. -/
def bareNode (p : Properties) (r : Reading) : Option (Node × Reading) :=
  if p.anchor.isSome || p.tag.isSome then some (.ofScalar true p.tag "", r) else none

/-! ## Nodes -/

mutual

/-- Reads a node. -/
def node : Nat → Place → Reading → Option (Node × Reading)
  | 0, _, _ => none
  | fuel + 1, place, r =>
    match r.next? with
    | some (.alias name) => (r.named? name).map fun n => (n, r.drop)
    | _ => do
      let (p, r) ← r.takeProperties
      let (n, r) ← content fuel place p r
      return (n, r.complete p.anchor n)

/-- Reads a node whose properties have been read. -/
def content : Nat → Place → Properties → Reading → Option (Node × Reading)
  | 0, _, _, _ => none
  | fuel + 1, place, p, r =>
    match r.next? with
    | some (.scalar isPlain s) => some (.ofScalar isPlain p.tag (String.ofList s), r.drop)
    | some .flowSequence =>
      (flowItems fuel true r.drop).map fun (items, r) => (.sequence items, r)
    | some .flowMapping => do
      let (row, r) ← flowFields fuel true r.drop
      return (← Node.mappingOf? row, r)
    | some .blockSequence =>
      if place = .bracket then bareNode p r
      else (blockItems fuel r.drop).map fun (items, r) => (.sequence items, r)
    | some .blockMapping =>
      if place = .bracket then bareNode p r
      else do
        let (row, r) ← blockFields fuel r.drop
        return (← Node.mappingOf? row, r)
    | some .blockEntry =>
      if place = .field then (looseItems fuel r).map fun (items, r) => (.sequence items, r)
      else bareNode p r
    | _ => bareNode p r

/-- Reads a node, or null if one of some tokens shows that it is missing. -/
def nodeOrNull : Nat → Place → List Token → Reading → Option (Node × Reading)
  | 0, _, _, _ => none
  | fuel + 1, place, missing, r =>
    if r.nextIn missing then some (.null, r) else node fuel place r

/-- Reads the entries of a sequence that is indented. -/
def blockItems : Nat → Reading → Option (List Node × Reading)
  | 0, _ => none
  | fuel + 1, r =>
    match r.next? with
    | some .blockEnd => some ([], r.drop)
    | some .blockEntry => do
      let (n, r) ← nodeOrNull fuel .entry [.blockEntry, .blockEnd] r.drop
      let (items, r) ← blockItems fuel r
      return (n :: items, r)
    | _ => none

/-- Reads the entries of a sequence that is not indented, which ends by itself. -/
def looseItems : Nat → Reading → Option (List Node × Reading)
  | 0, _ => none
  | fuel + 1, r =>
    match r.next? with
    | some .blockEntry => do
      let (n, r) ← nodeOrNull fuel .entry [.blockEntry, .key, .value, .blockEnd] r.drop
      let (items, r) ← looseItems fuel r
      return (n :: items, r)
    | _ => some ([], r)

/-- Reads the keys and values of a block. -/
def blockFields : Nat → Reading → Option (List Node × Reading)
  | 0, _ => none
  | fuel + 1, r => do
    let missing := [Token.key, .value, .blockEnd]
    match r.next? with
    | some .blockEnd => return ([], r.drop)
    | some .key =>
      let (k, r) ← nodeOrNull fuel .field missing r.drop
      let (v, r) ← valueAfter fuel .field missing r
      let (row, r) ← blockFields fuel r
      return (k :: v :: row, r)
    | some .value =>
      let (v, r) ← valueAfter fuel .field missing r
      let (row, r) ← blockFields fuel r
      return (.null :: v :: row, r)
    | _ => none

/-- Reads the value behind a key; without a mark it is null. -/
def valueAfter : Nat → Place → List Token → Reading → Option (Node × Reading)
  | 0, _, _, _ => none
  | fuel + 1, place, missing, r =>
    if r.next? = some .value then nodeOrNull fuel place missing r.drop else some (.null, r)

/-- Reads keys and values in brackets. -/
def flowFields : Nat → Bool → Reading → Option (List Node × Reading)
  | 0, _, _ => none
  | fuel + 1, isFirst, r => do
    if r.next? = some .flowMappingEnd then return ([], r.drop)
    let r ← if isFirst then some r else if r.next? = some .flowEntry then some r.drop else none
    match r.next? with
    | some .flowMappingEnd => return ([], r.drop)
    | some .key =>
      let (k, r) ← nodeOrNull fuel .bracket [.value, .flowEntry, .flowMappingEnd] r.drop
      let (v, r) ← valueAfter fuel .bracket [.flowEntry, .flowMappingEnd] r
      let (row, r) ← flowFields fuel false r
      return (k :: v :: row, r)
    | some .value =>
      let (v, r) ← valueAfter fuel .bracket [.flowEntry, .flowMappingEnd] r
      let (row, r) ← flowFields fuel false r
      return (.null :: v :: row, r)
    | _ =>
      let (k, r) ← node fuel .bracket r
      let (row, r) ← flowFields fuel false r
      return (k :: .null :: row, r)

/-- Reads the entries of a sequence in brackets. A key among them makes a mapping of one
field. -/
def flowItems : Nat → Bool → Reading → Option (List Node × Reading)
  | 0, _, _ => none
  | fuel + 1, isFirst, r => do
    if r.next? = some .flowSequenceEnd then return ([], r.drop)
    let r ← if isFirst then some r else if r.next? = some .flowEntry then some r.drop else none
    match r.next? with
    | some .flowSequenceEnd => return ([], r.drop)
    | some .key =>
      let (n, r) ← loneField fuel r.drop
      let (items, r) ← flowItems fuel false r
      return (n :: items, r)
    | _ =>
      let (n, r) ← node fuel .bracket r
      let (items, r) ← flowItems fuel false r
      return (n :: items, r)

/-- Reads a field that stands alone in a sequence in brackets. If its key is missing, the
token that shows so is used up. -/
def loneField : Nat → Reading → Option (Node × Reading)
  | 0, _ => none
  | fuel + 1, r => do
    let missing := [Token.value, .flowEntry, .flowSequenceEnd]
    let (k, r) ← if r.nextIn missing then some (.null, r.drop) else node fuel .bracket r
    let (v, r) ← valueAfter fuel .bracket [.flowEntry, .flowSequenceEnd] r
    return (.mapping (Node.entriesOf [k, v]), r)

end

/-! ## Documents -/

def isDirective : Token → Bool
  | .version | .tagDirective .. => true
  | _ => false

/-- Past the directives of a document. Each replaces the handles of the one before it. -/
def directives (handles : List (List Char × List Char)) (hasVersion : Bool) :
    List Token → Option (List (List Char × List Char) × List Token)
  | .version :: rest => if hasVersion then none else directives [] true rest
  | .tagDirective handle space :: rest => directives [(handle, space)] hasVersion rest
  | rest => some (handles, rest)

/-- Reads the node of a document behind its mark; nothing there is null. -/
def markedContent (fuel : Nat) (r : Reading) : Option (Node × Reading) :=
  match r.next? with
  | some .documentStart | some .documentEnd | some .streamEnd => some (.null, r)
  | some t => if isDirective t then some (.null, r) else r.node fuel .entry
  | none => none

/-- Reads one document. Only where that is allowed may it go without a mark. -/
def document (fuel : Nat) (mayGoUnmarked : Bool) (tokens : List Token) :
    Option (Node × Reading) := do
  let (handles, rest) ← directives [] false tokens
  let r : Reading := ⟨rest, [], handles⟩
  if r.next? = some .documentStart then markedContent fuel r.drop
  else if mayGoUnmarked && !tokens.head?.any isDirective then r.node fuel .entry
  else none

/-- Behind a document: whether the next one may go without a mark. Directives may only
follow the mark that ends a document. -/
def afterDocument : List Token → Option (Bool × List Token)
  | .documentEnd :: rest => some (true, rest)
  | t :: rest => if isDirective t then none else some (false, t :: rest)
  | [] => some (false, [])

/-- Reads all documents. -/
def documentsFrom (fuel : Nat) : Nat → Bool → List Token → Option (List Node)
  | 0, _, _ => none
  | bound + 1, mayGoUnmarked, tokens =>
    let tokens := tokens.dropWhile (· = .documentEnd)
    if tokens.head? = some .streamEnd then some []
    else do
      let (n, r) ← document fuel mayGoUnmarked tokens
      let (mayGoUnmarked, rest) ← afterDocument r.rest
      let ns ← documentsFrom fuel bound mayGoUnmarked rest
      return n :: ns

end Reading

/-- The documents in a text, unless it is malformed. -/
def documents (text : List Char) : Option (List Node) := do
  let ts ← tokens text
  Reading.documentsFrom (4 * ts.length + 8) (ts.length + 1) true ts

end Ancestry.Yaml
