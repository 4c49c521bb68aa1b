import Ancestry.Settings.Environment
import Ancestry.Settings.Value
import Ancestry.System.World

/-!
# What settings are read with

The program does not read its sources itself. It has the file of variables loaded into its
environment, names a file of settings and the rules by which variables are settings, says what
is set where nobody sets it, and asks for the tree that all this makes and for the values in
it. Whoever does that is a parameter of the program.

Two of the functions here are none that the program calls. They are what the others are told
in: which assignments there are in the file of variables, and what a text stands for in a
variable.
-/
namespace Ancestry.Settings

/-- By which names variables are settings. -/
structure VariableRules where
  /-- How the names begin, in whatever case. -/
  start : String
  /-- What stands between that and the key. -/
  startSeparator : String
  /-- What stands between the names in a key. -/
  separator : String
  deriving Repr, DecidableEq

namespace VariableRules

/-- A point for each separator, from the left. The first number says how many characters are
still those of a separator. -/
def toPoints (separator : List Char) : Nat → List Char → List Char
  | rest + 1, _ :: cs => toPoints separator rest cs
  | 0, c :: cs =>
    if separator.isPrefixOf (c :: cs) then '.' :: toPoints separator (separator.length - 1) cs
    else c :: toPoints separator 0 cs
  | _, [] => []

/-- The key that a variable sets, in lower case, if it is a setting. -/
def key? (rules : VariableRules) (name : String) : Option String :=
  let front := (Text.lowerCase (rules.start ++ rules.startSeparator)).toList
  let lower := (Text.lowerCase name).toList
  if front.isPrefixOf lower then
    some (String.ofList (toPoints rules.separator.toList 0 (lower.drop front.length)))
  else none

end VariableRules

structure Backend where
  /-- The assignments in the file of variables, in order, if all of it can be read. Where there
  is no such file there are none. What a line assigns may depend on the environment. -/
  assignments : World → Environment → Option (List (String × String))
  /-- The environment of a process when the file of variables was loaded. -/
  supply : World → Environment → Except Fault Environment
  /-- What the file of a name says. One that need not be there may be missing. -/
  readFile : World → Bytes → Bool → Except Fault Fields
  /-- What a text stands for in a variable. -/
  ofVariable : String → Value
  /-- What the variables say that are settings. -/
  readVariables : VariableRules → Environment → Except Fault Fields
  /-- The tree that some sources make together over what is set where nobody sets it. -/
  build : Fields → List Fields → Except Fault Value
  /-- A value as a truth value. -/
  toBool : Value → Except Fault Bool
  /-- A value as text. -/
  toText : Value → Except Fault String

end Ancestry.Settings
