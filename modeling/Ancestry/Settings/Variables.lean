import Ancestry.Decimal.Shortest
import Ancestry.Settings.Backend

/-!
# Settings in variables

Variables whose names begin with a prefix are settings. A value that reads as a truth value,
an integer or a number is one, and otherwise it is text.
-/
namespace Ancestry.Settings

/-- Where the values of variables come from. -/
def environmentOrigin : String := "the environment"

/-- The value that a text stands for. -/
def Scalar.ofText (s : String) : Scalar :=
  let lower := Text.lowerCase s
  if lower = "true" then .bool true
  else if lower = "false" then .bool false
  else
    match Decimal.readInt64 10 s.toList with
    | some n => .integer n
    | none =>
      match Binary64.read s.toList with
      | some x => .number x
      | none => .text s

/-- What a variable sets. -/
def variableValue (text : String) : Value := .scalar (some environmentOrigin) (.ofText text)

/-- All variables as text; one that is none breaks the program down. -/
def textVariables : Environment → Except Fault (List (String × String))
  | [] => .ok []
  | (name, value) :: rest =>
    match Utf8.text? value with
    | some s => (textVariables rest).map ((name, s) :: ·)
    | none => .error .breakdown

/-- The settings that are there and what one more variable sets, if it is a setting. -/
def enter (rules : VariableRules) (done : Fields) (v : String × String) : Fields :=
  match rules.key? v.1 with
  | some key => Value.setField key (variableValue v.2) done
  | none => done

/-- The settings in the environment by key; a later variable replaces an earlier one. -/
def ofEnvironment (rules : VariableRules) (env : Environment) : Except Fault Fields :=
  (textVariables env).map (·.foldl (enter rules) [])

end Ancestry.Settings
