import Ancestry.Settings.Value
import Ancestry.Text.Blank

/-!
# Paths to settings

A key names a place in a tree of settings: a name, a name below another, or an element of
a list. Going along a path makes what is missing and replaces what is in the way. A key
that is no path is taken as a name.
-/
namespace Ancestry.Settings

inductive KeyPath
  | name (s : String)
  | child (parent : KeyPath) (s : String)
  | element (parent : KeyPath) (index : Int)
  deriving Repr, DecidableEq

namespace KeyPath

/-- ASCII letters, digits, spaces, underscores and hyphens. -/
def isNameChar (c : Char) : Bool := c.isAlphanum || c = ' ' || c = '_' || c = '-'

/-- A name in front, which is not empty, and the rest. -/
def takeName (cs : List Char) : Option (String × List Char) :=
  let name := cs.takeWhile isNameChar
  if name = [] then none else some (String.ofList name, cs.drop name.length)

def isGap (c : Char) : Bool := c = ' ' || c = '\t'

/-- An index behind an opening bracket, and what follows the closing one. -/
def takeIndex (cs : List Char) : Option (Int × List Char) :=
  let inside := cs.takeWhile (· ≠ ']')
  let digits := Text.strip isGap inside
  match cs.drop inside.length, digits with
  | ']' :: rest, d :: _ =>
    if d = '+' then none else (Decimal.readInt64 10 digits).map fun index => (index, rest)
  | _, _ => none

/-- Goes on behind a path that was read. -/
def extend (done : KeyPath) : Nat → List Char → Option KeyPath
  | _, [] => some done
  | 0, _ => none
  | fuel + 1, '.' :: cs =>
    match takeName cs with
    | some (s, rest) => extend (.child done s) fuel rest
    | none => none
  | fuel + 1, '[' :: cs =>
    match takeIndex cs with
    | some (index, rest) => extend (.element done index) fuel rest
    | none => none
  | _ + 1, _ => none

def parse? (cs : List Char) : Option KeyPath :=
  match takeName cs with
  | some (s, rest) => extend (.name s) rest.length rest
  | none => none

/-- The path that a key stands for. -/
def ofKey (key : String) : KeyPath := (parse? key.toList).getD (.name key)

/-- A change of one value, which may fail. -/
abbrev Change := Value → Except Fault Value

/-- Changes what is under a name in a table. -/
def alterField (name : String) (change : Change) (v : Value) : Except Fault Value := do
  let key := Text.lowerCase name
  let changed ← change ((v.field? key).getD (.scalar none .null))
  return v.asTable.withField key changed

/-- The place of an index in a list; negative ones count from its end. -/
def placeOf (index : Int) (size : Nat) : Except Fault Nat :=
  if 0 ≤ index then .ok index.toNat
  else if index.natAbs ≤ size then .ok (size - index.natAbs)
  else .error .breakdown

/-- Changes an element of a list, which is made long enough. -/
def alterElement (index : Int) (change : Change) (v : Value) : Except Fault Value := do
  match v.asList with
  | .list origin items =>
    let place ← placeOf index items.length
    let long := items ++ List.replicate (place + 1 - items.length) (.scalar none .null)
    let changed ← change (long.getD place (.scalar none .null))
    return .list origin (long.set place changed)
  | other => return other

/-- Changes the value at the end of a path. -/
def alter (change : Change) : KeyPath → Change
  | .name s => alterField s change
  | .child parent s => alter (alterField s change) parent
  | .element parent index => alter (alterElement index change) parent

/-- Puts a value at the end of a path. Under a name, tables are merged. -/
def set (value : Value) : KeyPath → Change
  | .name s => fun root => .ok (root.put s value)
  | .child parent s => alter (fun v => .ok (v.put s value)) parent
  | .element parent index => alter (alterElement index fun _ => .ok value) parent

/-- Puts values under their keys, one after the other. -/
def setAll (root : Value) : Fields → Except Fault Value
  | [] => .ok root
  | (key, value) :: rest => do setAll (← (ofKey key).set value root) rest

end KeyPath

/-- The tree of the sources, one over the other, over what is set where nobody sets it. -/
def build (defaults : Fields) (sources : List Fields) : Except Fault Value := do
  let given ← sources.foldlM KeyPath.setAll .emptyTable
  KeyPath.setAll (← KeyPath.setAll .emptyTable defaults) given.fields

end Ancestry.Settings
