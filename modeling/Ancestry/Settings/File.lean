import Ancestry.Settings.KeyPath
import Ancestry.System.World
import Ancestry.Yaml.Document

/-!
# Files of settings

A file is named with or without its ending. A file of exactly that name comes first, and
then the names with an ending added. It holds one document, whose root has to be a table,
or none, which is as good as an empty table. Every value knows the file by its path from
the working directory.
-/
namespace Ancestry.Settings

/-! ## Names -/

/-- The names on the way from the root to a path, without those that lead nowhere. -/
def wayTo (directory : Location) (path : Bytes) : List Name :=
  (if Path.isAbsolute path then [] else directory)
    ++ (Path.names path).filter (· ≠ Path.dot)

/-- Names in a row as a path. -/
def joined (names : List Name) : Bytes := [Path.slash].intercalate names

/-- The names without those they share with a place, after a step up for each name that
only the place has. -/
def fromPlace : Location → List Name → List Name
  | [], names => names
  | place, [] => place.map fun _ => Path.dotDot
  | p :: place, n :: names =>
    if p = n then fromPlace place names
    else (p :: place).map (fun _ => Path.dotDot) ++ n :: names

/-- The file at the end of a way, as it is shown. -/
def shownName (directory : Location) (way : List Name) : String :=
  Utf8.lossy (joined (fromPlace directory way))

/-- A way with something added to its last name, which may not be a step up. -/
def extended (way : List Name) (ending : Name) : Option (List Name) :=
  match way.getLast? with
  | some last => if last = Path.dotDot then none else some (way.dropLast ++ [last ++ ending])
  | none => none

/-- The endings a file of settings may have, in the order in which they are tried. -/
def endings : List Name := [Bytes.ofString ".yaml", Bytes.ofString ".yml"]

/-- The way to the file that a name stands for. -/
def findFile (w : World) (name : Bytes) : Option (List Name) :=
  let way := wayTo w.directory name
  if w.isFile name then some way
  else
    (endings.filterMap (extended way)).find? fun way =>
      w.isFile (Path.slash :: joined way)

/-! ## Content -/

mutual

/-- The value of a node in a file. -/
def valueOf (file : String) : Yaml.Node → Except Fault Value
  | .null => .ok (.scalar (some file) .null)
  | .void => .ok (.scalar (some file) .null)
  | .bool b => .ok (.scalar (some file) (.bool b))
  | .integer n => .ok (.scalar (some file) (.integer n))
  | .text s => .ok (.scalar (some file) (.text s))
  | .real s =>
    match Binary64.read s.toList with
    | some x => .ok (.scalar (some file) (.number x))
    | none => .error (.malformed s!"Parsing {s} as floating point number failed" file)
  | .sequence items => (itemsOf file items).map (.list (some file))
  | .mapping entries => (fieldsOf file [] entries).map (.table (some file))

def itemsOf (file : String) : List Yaml.Node → Except Fault (List Value)
  | [] => .ok []
  | n :: rest => do
    let v ← valueOf file n
    return v :: (← itemsOf file rest)

/-- The fields of a mapping behind those that are done. Only texts and integers can be
names. -/
def fieldsOf (file : String) (done : Fields) :
    List (Yaml.Node × Yaml.Node) → Except Fault Fields
  | [] => .ok done
  | (.text name, n) :: rest => do
    let v ← valueOf file n
    fieldsOf file (Value.setField name v done) rest
  | (.integer name, n) :: rest => do
    let v ← valueOf file n
    fieldsOf file (Value.setField (toString name) v done) rest
  | _ => .error .breakdown

end

/-- The root of a file, from its documents. -/
def rootOf (file : String) : List Yaml.Node → Except Fault Value
  | [] => .ok (.table (some file) [])
  | [n] => valueOf file n
  | ns => .error (.malformed s!"Got {ns.length} YAML documents, expected 1" file)

/-- The fields that the text of a file gives. -/
def readText (file : String) (text : List Char) : Except Fault Fields :=
  match Yaml.documents text with
  | none => .error (.notYaml file)
  | some ns => do
    match ← rootOf file ns with
    | .table _ fields => return fields
    | other =>
      throw (.malformed s!"invalid type: {other.describe}, expected a map in {file}" file)

/-- The fields that a file gives. One that nobody asked for may be missing or unreadable. -/
def readFile (w : World) (name : Bytes) (isAskedFor : Bool) :
    Except Fault Fields :=
  let giveUp (text : String) : Except Fault Fields :=
    if isAskedFor then .error (.unreadable text) else .ok []
  match findFile w name with
  | none => giveUp s!"configuration file \"{Utf8.lossy name}\" not found"
  | some way =>
    match w.readText (Path.slash :: joined way) with
    | .error e => giveUp e.message
    | .ok text => readText (shownName w.directory way) text

end Ancestry.Settings
