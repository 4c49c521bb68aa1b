import Ancestry.Settings.Environment
import Ancestry.Settings.Value
import Ancestry.System.World
import Ancestry.Text.Blank
import Ancestry.Text.Property.Alphanumeric

/-!
# The file of variables

A file named `.env`, in the working directory or above it, may set variables that are not
set yet. Lines have a name, an equals sign and a value; a value may have parts in quotes,
which may go on over several lines, backslashes before some characters, and names of
other variables after dollar signs. The first line that is not so ends the reading, and
the lines before it have their effect.
-/
namespace Ancestry.DotEnv

/-! ## Lines -/

/-- What the next character of a line may mean. -/
inductive Quoting
  | complete
  | blank
  | escape
  | strong
  | strongEscape
  | weak
  | weakEscape
  | comment
  deriving Repr, DecidableEq

namespace Quoting

/-- After a character that opens or escapes something, or else stands for itself. -/
def opened (c : Char) : Quoting :=
  if c = '\\' then escape else if c = '"' then weak else if c = '\'' then strong else complete

def next (q : Quoting) (c : Char) : Quoting :=
  match q with
  | complete =>
    if Text.isBlank c && c ≠ '\n' && c ≠ '\r' then blank else opened c
  | blank => if c = '#' then comment else opened c
  | escape => complete
  | weak => if c = '\\' then weakEscape else if c = '"' then complete else weak
  | weakEscape => weak
  | strong => if c = '\\' then strongEscape else if c = '\'' then complete else strong
  | strongEscape => strong
  | comment => comment

/-- What stands before a comment, and where the line leaves off. -/
def follow : Quoting → List Char → List Char × Quoting
  | q, [] => ([], q)
  | q, c :: rest =>
    if q.next c = comment then ([], comment)
    else
      let (kept, last) := follow (q.next c) rest
      (c :: kept, last)

end Quoting

/-- A line without its end. -/
def dropLineEnd (line : List Char) : List Char :=
  if line.getLast? = some '\n' then
    let body := line.dropLast
    if body.getLast? = some '\r' then body.dropLast else body
  else line

/-- The lines of a file with their ends. Where the file is no text there is no line. -/
def physicalLines (data : Bytes) : List (Option (List Char)) :=
  let all := Text.pieces (· = 10) data
  let ended := all.dropLast.map (· ++ [10])
  let last := all.getLast?.toList.filter (· ≠ [])
  (ended ++ last).map fun line => (Utf8.decode line).toOption

/-- The lines put together where quotes go on; where that fails there is no line. -/
def logicalLines (q : Quoting) (held : List Char) :
    List (Option (List Char)) → List (Option (List Char))
  | [] => if q = .complete then [] else [none]
  | none :: _ => [none]
  | some line :: rest =>
    let whole := held ++ line
    if (whole.dropWhile Text.isBlank).head? = some '#' then
      some [] :: logicalLines .complete [] rest
    else
      match q.follow line with
      | (_, .complete) => some (dropLineEnd whole) :: logicalLines .complete [] rest
      | (kept, .comment) => some (held ++ kept) :: logicalLines .complete [] rest
      | (_, q) => logicalLines q whole rest

/-! ## Values -/

/-- Whether the name of a variable is being read. -/
inductive Naming
  | off
  | plain
  | braced
  deriving Repr, DecidableEq

/-- A value being read; the characters read so far are in reverse. -/
structure Reading where
  output : List Char
  strong : Bool
  weak : Bool
  escaped : Bool
  /-- A blank has ended the value. -/
  ended : Bool
  naming : Naming
  name : List Char

namespace Reading

def start : Reading := ⟨[], false, false, false, false, .off, []⟩

def push (r : Reading) (c : Char) : Reading := { r with output := c :: r.output }

/-- Puts the value of the variable that was named in its place. -/
def substitute (value : String → String) (r : Reading) : Reading :=
  let text := (value (String.ofList r.name.reverse)).toList
  { r with output := text.reverse ++ r.output, name := [] }

/-- The character that a backslash before it stands for. -/
def unescape (c : Char) : Option Char :=
  if c = 'n' then some '\n'
  else if c = '\\' || c = '\'' || c = '"' || c = '$' || c = ' ' then some c
  else none

/-- A character in the name of a variable, or the first one behind it. -/
def inName (value : String → String) (r : Reading) (c : Char) : Reading :=
  if Text.isAlphanumeric c then { r with name := c :: r.name }
  else if r.naming = .braced then
    if c = '}' then { r.substitute value with naming := .off }
    else { r with name := c :: r.name }
  else if c = '{' && r.name = [] then { r with naming := .braced }
  else
    let r := r.substitute value
    if c = '$' then { r with naming := .plain } else { r with naming := .off }.push c

/-- A character outside strong quotes and names. -/
def inText (r : Reading) (c : Char) : Reading :=
  if c = '$' then { r with naming := .plain }
  else if c = '\\' then { r with escaped := true }
  else if r.weak then
    if c = '"' then { r with weak := false } else r.push c
  else if c = '\'' then { r with strong := true }
  else if c = '"' then { r with weak := true }
  else if c = ' ' || c = '\t' then { r with ended := true }
  else r.push c

/-- The value read, if nothing is left open. -/
def finish (value : String → String) (r : Reading) : Option (List Char) :=
  if r.naming = .braced || r.strong || r.weak then none
  else some (r.substitute value).output.reverse

/-- Reads a value to its end; behind a blank only a comment may follow. -/
def run (value : String → String) (r : Reading) : List Char → Option (List Char)
  | [] => r.finish value
  | c :: rest =>
    if r.ended then
      if c = ' ' || c = '\t' then run value r rest
      else if c = '#' then r.finish value
      else none
    else if r.escaped then
      match unescape c with
      | some d => run value ({ r with escaped := false }.push d) rest
      | none => none
    else if r.strong then
      run value (if c = '\'' then { r with strong := false } else r.push c) rest
    else if r.naming ≠ .off then run value (r.inName value c) rest
    else run value (r.inText c) rest

end Reading

/-! ## Assignments -/

def isNameStart (c : Char) : Bool := c.isAlpha || c = '_'

def isNameChar (c : Char) : Bool := c.isAlphanum || c = '_' || c = '.'

/-- A name in front and what follows it, blanks skipped. -/
def takeName (cs : List Char) : Option (List Char × List Char) :=
  match cs with
  | [] => none
  | c :: _ =>
    if isNameStart c then
      some (cs.takeWhile isNameChar, (cs.dropWhile isNameChar).dropWhile Text.isBlank)
    else none

/-- The name that is assigned to, and the text of its value. -/
def takeAssignment (cs : List Char) : Option (List Char × List Char) :=
  match takeName cs with
  | some (name, '=' :: rest) => some (name, rest.dropWhile Text.isBlank)
  | some (name, rest) =>
    if name = "export".toList then
      match takeName rest with
      | some (name, '=' :: rest) => some (name, rest.dropWhile Text.isBlank)
      | _ => none
    else none
  | none => none

/-- What a line says. -/
inductive Line
  | nothing
  | assign (name : String) (value : String)
  | bad
  deriving Repr, DecidableEq

/-- Reads a line; `value` gives the values of variables. -/
def Line.read (value : String → String) (line : List Char) : Line :=
  let line := Text.strip Text.isBlank line
  if line = [] || line.head? = some '#' then nothing
  else
    match takeAssignment line with
    | none => bad
    | some (name, rest) =>
      if rest = [] || rest.head? = some '#' then assign (String.ofList name) ""
      else
        match Reading.start.run value rest with
        | some text => assign (String.ofList name) (String.ofList text)
        | none => bad

/-- What a name stands for inside a line. -/
def known (env : Environment) (earlier : List (String × String)) (name : String) : String :=
  match env.text? name with
  | some s => s
  | none => (earlier.lookup name).getD ""

/-- The environment after the lines of a file; `earlier` holds what they assigned so far.
A value with a zero byte cannot be set. -/
def apply (env : Environment) (earlier : List (String × String)) :
    List (Option (List Char)) → Except Settings.Fault Environment
  | some line :: rest =>
    match Line.read (known env earlier) line with
    | .bad => .ok env
    | .nothing => apply env earlier rest
    | .assign name s =>
      let earlier := (name, s) :: earlier
      if (env.text? name).isSome then apply env earlier rest
      else if s.toList.contains '\x00' then .error .breakdown
      else apply (env.set name (Bytes.ofString s)) earlier rest
  | _ => .ok env

/-- The assignments of lines that can all be read, in order. -/
def assignmentsOf (env : Environment) (earlier : List (String × String)) :
    List (Option (List Char)) → Option (List (String × String))
  | [] => some []
  | none :: _ => none
  | some line :: rest =>
    match Line.read (known env earlier) line with
    | .bad => none
    | .nothing => assignmentsOf env earlier rest
    | .assign name s =>
      let earlier := (name, s) :: earlier
      if (env.text? name).isSome then (assignmentsOf env earlier rest).map ((name, s) :: ·)
      else if s.toList.contains '\x00' then none
      else
        (assignmentsOf (env.set name (Bytes.ofString s)) earlier rest).map ((name, s) :: ·)

/-- A mark that some writers put in front of a text. -/
def dropMark (data : Bytes) : Bytes :=
  match data with
  | 0xEF :: 0xBB :: 0xBF :: rest => rest
  | _ => data

def fileName : Name := Bytes.ofString ".env"

/-- The content of the nearest file of variables, from a directory upwards. A directory of
that name is passed over. -/
def find (w : World) (directory : Location) : Nat → Option Bytes
  | 0 => none
  | steps + 1 =>
    match w.files.resolve directory .follow fileName with
    | .ok (.found _ (.file _ content)) => some content
    | .error .notFound | .ok _ =>
      if directory = [] then none else find w directory.dropLast steps
    | .error _ => none

/-- The lines of the nearest file of variables. -/
def linesAround (w : World) : List (Option (List Char)) :=
  match find w w.directory (w.directory.length + 1) with
  | none => []
  | some data => logicalLines .complete [] (physicalLines (dropMark data))

/-- The assignments in the nearest file of variables. -/
def assignments (w : World) (env : Environment) : Option (List (String × String)) :=
  assignmentsOf env [] (linesAround w)

/-- Sets the variables that the nearest file of variables has and the environment has
not. -/
def load (w : World) (env : Environment) : Except Settings.Fault Environment :=
  apply env [] (linesAround w)

end Ancestry.DotEnv
