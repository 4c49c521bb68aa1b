import Ancestry.Diagnostics
import Ancestry.Settings
import Ancestry.Settings.Backend

/-!
# Loading settings

Settings come from a file and from the environment. What the environment says goes over
what the file says, and both together go over the defaults. Only then is it looked at what
kind of value each setting has, so a wrong value does no harm if another covers it.
-/
namespace Ancestry.Settings

/-! ## Reading out -/

section Reading
variable (b : Backend)

/-- A truth value that may be missing. -/
def optionalBool (v : Option Value) : Except Fault (Option Bool) :=
  match v with
  | none => .ok none
  | some v => if v.isNull then .ok none else (b.toBool v).map some

/-- A path, which has to be there. -/
def requiredPath (name : String) (v : Option Value) : Except Fault Bytes :=
  match v with
  | none => .error (.message s!"missing field `{name}`")
  | some v => (b.toText v).map Bytes.ofString

/-- Says in which part a fault is. -/
def inPart {α : Type} (part : String) (r : Except Fault α) : Except Fault α :=
  r.mapError (Fault.under part)

/-- The settings of the library in a table. -/
def preloadOfTable (v : Value) : Except Fault PreloadSettings := do
  let install ← inPart "install" (optionalBool b (v.field? "install"))
  let library ← inPart "library" (requiredPath b "library" (v.field? "library"))
  let preloadFile ← inPart "preload_file" (requiredPath b "preload_file" (v.field? "preload_file"))
  return ⟨install, library, preloadFile⟩

/-- The settings of the library in a list, by position. -/
def preloadOfList (items : List Value) : Except Fault PreloadSettings := do
  let item (i : Nat) : Except Fault Value :=
    match items[i]? with
    | some v => .ok v
    | none =>
      .error (.message s!"invalid length {i}, expected struct PreloadSettings with 3 elements")
  let install ← inPart "[0]" (optionalBool b (← item 0))
  let library ← inPart "[1]" ((b.toText (← item 1)).map Bytes.ofString)
  let preloadFile ← inPart "[2]" ((b.toText (← item 2)).map Bytes.ofString)
  return ⟨install, library, preloadFile⟩

/-- A scalar where settings were expected. -/
def describeMisplaced : Scalar → String
  | .integer n => s!"integer `{n}`"
  | .number x => s!"floating point `{x.textWithPoint}`"
  | other => other.describe

def preloadOf (v : Value) : Except Fault PreloadSettings :=
  match v with
  | .table .. => preloadOfTable b v
  | .list _ items => preloadOfList b items
  | .scalar _ s =>
    .error (.message s!"invalid type: {describeMisplaced s}, expected struct PreloadSettings")

/-- The settings in a tree of values. -/
def ofValue (root : Value) : Except Fault Settings := do
  let enableLog ← inPart "enable_log" (optionalBool b (root.field? "enable_log"))
  match root.field? "preload" with
  | none => throw (.message "missing field `preload`")
  | some v => return ⟨enableLog, ← inPart "preload" (preloadOf b v)⟩

end Reading

/-! ## Sources -/

/-- What is set where nobody sets it. -/
def defaults : Fields :=
  [("preload.library", .scalar none (.text defaultLibrary)),
    ("preload.preload_file", .scalar none (.text defaultPreloadFile))]

/-- The variables that are settings: two underscores separate the names in a key. -/
def variableRules : VariableRules := ⟨"PIDTRACK", "_", "__"⟩

/-- Loads the settings, and says so. A file that is named has to be there. -/
def load (b : Backend) (w : World) (env : Environment) (file : Option Bytes) :
    Except Fault (Settings × List Record) := do
  let env ← b.supply w env
  let name := Bytes.ofString ((file.map Utf8.lossy).getD defaultFile)
  let fromFile ← b.readFile w name file.isSome
  let fromVariables ← b.readVariables variableRules env
  let settings ← ofValue b (← b.build defaults [fromFile, fromVariables])
  return (settings, [⟨.debug, "pidtrack::settings", s!"Parsed settings: {settings.describe}"⟩])

end Ancestry.Settings
