import Ancestry.Text.Utf8

/-!
# The environment of a process

Variables have names that are text and values that need not be. A variable is looked for by
its name; a value that is no text counts as missing where a text is asked for.
-/
namespace Ancestry

/-- The variables of a process, in the order in which they were set. -/
abbrev Environment := List (String × Bytes)

namespace Environment

/-- What stands behind a name and an equals sign in the entry of a variable, if the entry
begins so. A name that has an equals sign in it goes on into the value. -/
def valueBehind? (name : String) (entry : String × Bytes) : Option Bytes :=
  let start := Bytes.ofString (name ++ "=")
  let whole := Bytes.ofString (entry.1 ++ "=") ++ entry.2
  if start.isPrefixOf whole then some (whole.drop start.length) else none

/-- The text of a variable; one that holds no text counts as missing. -/
def text? (env : Environment) (name : String) : Option String :=
  (env.findSome? (valueBehind? name)).bind Utf8.text?

/-- The environment with a variable set, in its place or at the end. -/
def set (env : Environment) (name : String) (value : Bytes) : Environment :=
  if env.any (·.1 = name) then env.map fun e => if e.1 = name then (name, value) else e
  else env ++ [(name, value)]

end Environment

end Ancestry
