import Ancestry.Decimal.Shortest
import Ancestry.Text.LowerCase
import Ancestry.Text.Quoted

/-!
# Values of settings

What a source of settings says is a tree: scalars, lists and tables. A value knows where
it was given, except where it was put together from several places. Tables are merged name
by name and anything else is replaced; names are compared in lower case.

A value is read as a truth value or as text. Numbers and several words stand for truth
values, and every scalar but null has a text.
-/
namespace Ancestry.Settings

inductive Scalar
  | null
  | bool (b : Bool)
  | integer (n : Int)
  | number (x : Binary64)
  | text (s : String)
  deriving Repr, DecidableEq

/-- Where a value was given, if that was one place. -/
abbrev Origin := Option String

inductive Value
  | scalar (origin : Origin) (s : Scalar)
  | list (origin : Origin) (items : List Value)
  | table (origin : Origin) (fields : List (String × Value))
  deriving Repr

/-- What a source says, by key. -/
abbrev Fields := List (String × Value)

/-- Why no settings could be made. -/
inductive Fault
  /-- The file is not there or cannot be read. -/
  | unreadable (text : String)
  /-- The file has no place for its content in a table of settings. -/
  | malformed (text file : String)
  /-- The file is not in the format at all. -/
  | notYaml (file : String)
  /-- A value is not of the kind that is asked for. -/
  | mismatch (found expected : String) (key : Option String) (origin : Origin)
  | message (text : String)
  /-- The input is beyond what can be loaded, and the program breaks down. -/
  | breakdown
  deriving Repr, DecidableEq

namespace Fault

def describe : Fault → String
  | unreadable text => text
  | malformed text file => s!"{text} in {file}"
  | notYaml file => s!"malformed YAML in {file}"
  | mismatch found expected key origin =>
    s!"invalid type: {found}, expected {expected}"
      ++ (match key with
        | some k => s!" for key `{k}`"
        | none => "")
      ++ (match origin with
        | some o => s!" in {o}"
        | none => "")
  | message text => text
  | breakdown => "the program breaks down"

/-- The key of a part, seen from the whole. -/
def joinKey (outer : String) : Option String → String
  | none => outer
  | some inner => if inner.startsWith "[" then outer ++ inner else outer ++ "." ++ inner

/-- A fault in the part under a name. -/
def under (name : String) : Fault → Fault
  | mismatch found expected key origin => mismatch found expected (some (joinKey name key)) origin
  | other => other

end Fault

/-- A scalar, for a message about its kind. -/
def Scalar.describe : Scalar → String
  | null => "unit value"
  | bool b => s!"boolean `{b}`"
  | integer n => s!"64-bit integer `{n}`"
  | number x => s!"floating point `{x.text}`"
  | text s => "string " ++ Text.quoted s.toList

/-- The words that stand for yes and for no. -/
def yesWords : List String := ["1", "true", "on", "yes"]

def noWords : List String := ["0", "false", "off", "no"]

namespace Value

def emptyTable : Value := table none []

/-- A value, for a message about its kind. -/
def describe : Value → String
  | scalar _ s => s.describe
  | list .. => "sequence"
  | table .. => "map"

def origin : Value → Origin
  | scalar o _ | list o _ | table o _ => o

def mismatch (v : Value) (expected : String) : Fault :=
  .mismatch v.describe expected none v.origin

def isNull : Value → Bool
  | scalar _ .null => true
  | _ => false

/-- The value as a truth value. -/
def toBool (v : Value) : Except Fault Bool :=
  match v with
  | scalar _ (.bool b) => .ok b
  | scalar _ (.integer n) => .ok (n ≠ 0)
  | scalar _ (.number x) => .ok (!x.isZero)
  | scalar origin (.text s) =>
    let word := Text.lowerCase s
    if word ∈ yesWords then .ok true
    else if word ∈ noWords then .ok false
    else .error (mismatch (scalar origin (.text word)) "a boolean")
  | _ => .error (v.mismatch "a boolean")

/-- The value as text. -/
def toText (v : Value) : Except Fault String :=
  match v with
  | scalar _ (.bool b) => .ok (toString b)
  | scalar _ (.integer n) => .ok (toString n)
  | scalar _ (.number x) => .ok x.text
  | scalar _ (.text s) => .ok s
  | _ => .error (v.mismatch "a string")

/-- The fields of a table; other values have none. -/
def fields : Value → List (String × Value)
  | table _ fs => fs
  | _ => []

/-- The value made a table, which loses what it was. -/
def asTable : Value → Value
  | table o fs => table o fs
  | _ => emptyTable

/-- The value made a list, which loses what it was. -/
def asList : Value → Value
  | list o items => list o items
  | _ => list none []

def field? (v : Value) (name : String) : Option Value := v.fields.lookup name

/-- Fields with one of them set; a new one goes to the end. -/
def setField (name : String) (v : Value) : List (String × Value) → List (String × Value)
  | [] => [(name, v)]
  | (other, w) :: rest =>
    if other = name then (name, v) :: rest else (other, w) :: setField name v rest

@[simp] theorem lookup_setField_self (name : String) (v : Value)
    (fs : List (String × Value)) : (setField name v fs).lookup name = some v := by
  induction fs with
  | nil => simp [setField]
  | cons f rest ih =>
    obtain ⟨other, w⟩ := f
    by_cases same : other = name
    · simp [setField, same]
    · have differs : (name == other) = false := by simpa using Ne.symm same
      simp [setField, same, List.lookup_cons, differs, ih]

theorem lookup_setField_ne {name other : String} (differ : other ≠ name) (v : Value)
    (fs : List (String × Value)) : (setField name v fs).lookup other = fs.lookup other := by
  have unlike : (other == name) = false := by simpa using differ
  induction fs with
  | nil => simp [setField, List.lookup_cons, unlike]
  | cons f rest ih =>
    obtain ⟨first, w⟩ := f
    by_cases same : first = name
    · subst same
      simp [setField, List.lookup_cons, unlike]
    · simp [setField, same, List.lookup_cons, ih]

/-- A table with one field set. -/
def withField (target : Value) (name : String) (v : Value) : Value :=
  match target with
  | table o fs => table o (setField name v fs)
  | _ => table none [(name, v)]

mutual

/-- Puts a value under a name. What is no table becomes one. -/
def put (target : Value) (name : String) : Value → Value
  | .table _ incoming =>
    let key := Text.lowerCase name
    target.asTable.withField key (merge ((target.field? key).getD emptyTable) incoming)
  | .scalar o s => target.withField (Text.lowerCase name) (.scalar o s)
  | .list o items => target.withField (Text.lowerCase name) (.list o items)

/-- Puts values under their names, one after the other. -/
def merge (target : Value) : List (String × Value) → Value
  | [] => target
  | (name, v) :: rest => merge (put target name v) rest

end

end Value
end Ancestry.Settings
