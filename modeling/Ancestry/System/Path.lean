import Ancestry.System.FileSystem
import Ancestry.Text.Blank

/-!
# Following paths

A path is walked name by name from the root or from a working directory. Every name
but the last has to lead to a directory; links on the way are followed, up to forty of
them. The walk ends at something that is there, or at a free name in a directory that
is, which is what making a new entry needs to know.
-/
namespace Ancestry

namespace Path

def slash : UInt8 := 47

def isAbsolute (path : Bytes) : Bool := path.head? = some slash

/-- A path that ends in a slash can only mean a directory. -/
def endsInSlash (path : Bytes) : Bool := path.getLast? = some slash

/-- The nonempty names between slashes. -/
def names (path : Bytes) : List Name := (Text.pieces (· = slash) path).filter (· ≠ [])

def dot : Name := [46]

def dotDot : Name := [46, 46]

/-- The longest name, in bytes. -/
def maxName : Nat := 255

/-- The length from which on a path is too long. -/
def tooLong : Nat := 4096

/-- How many links are followed before the walk is given up. -/
def maxLinks : Nat := 40

end Path

/-- What is done with a link that a path ends in. -/
inductive LastLink
  | keep
  | follow
  /-- It is followed to a place where a file may be made. -/
  | create
  deriving Repr, DecidableEq

/-- The names that a path or a link leads along. A slash at the end asks for a directory.
Where a file is to be made, that is refused as any directory is, without a look at the last
name, so the directory around it stands for it. -/
def Path.steps (path : Bytes) (toCreate : Bool) : List Name :=
  let names := Path.names path
  if Path.endsInSlash path then (if toCreate then names.dropLast else names) ++ [Path.dot]
  else names

/-- Where a walk ended. -/
inductive Target
  | found (location : Location) (node : Node)
  | free (directory : Location) (name : Name)
  deriving Repr, DecidableEq

/-- How far a walk gets without following a link. -/
inductive Stretch
  | ended (result : Except SystemError Target)
  | link (start : Location) (names : List Name)

namespace FileSystem

/-- Walks from a place until the names are used up or a link has to be followed. -/
def stretch (fs : FileSystem) (last : LastLink) (here : Location) : List Name → Stretch
  | [] =>
    match fs.get? here with
    | some node => .ended (.ok (.found here node))
    | none => .ended (.error .notFound)
  | name :: rest =>
    match fs.get? here with
    | some (.directory _) =>
      if name = Path.dot then stretch fs last here rest
      else if name = Path.dotDot then stretch fs last here.dropLast rest
      else if Path.maxName < name.length then .ended (.error .nameTooLong)
      else
        match fs.get? (here ++ [name]) with
        | none =>
          if rest = [] then .ended (.ok (.free here name)) else .ended (.error .notFound)
        | some (.symlink target) =>
          if rest = [] && last = .keep then
            .ended (.ok (.found (here ++ [name]) (.symlink target)))
          else
            .link (if Path.isAbsolute target then [] else here)
              (Path.steps target (rest = [] && last = .create) ++ rest)
        | some _ => stretch fs last (here ++ [name]) rest
    | _ => .ended (.error .notDirectory)

/-- Walks on through a bounded number of links. -/
def walk (fs : FileSystem) (last : LastLink) :
    Nat → Location → List Name → Except SystemError Target
  | links, here, names =>
    match fs.stretch last here names, links with
    | .ended result, _ => result
    | .link _ _, 0 => .error .linkLoop
    | .link start names, links + 1 => walk fs last links start names

/-- What a path leads to, whether or not it ends in a slash, unless a file is to be made. -/
def locate (fs : FileSystem) (directory : Location) (last : LastLink) (path : Bytes) :
    Except SystemError Target :=
  if path = [] then .error .notFound
  else if Path.tooLong ≤ path.length then .error .nameTooLong
  else
    fs.walk last Path.maxLinks (if Path.isAbsolute path then [] else directory)
      (if last = .create then Path.steps path true else Path.names path)

/-- What a path leads to; one that ends in a slash has to lead to a directory. -/
def resolve (fs : FileSystem) (directory : Location) (last : LastLink) (path : Bytes) :
    Except SystemError Target :=
  match fs.locate directory (if Path.endsInSlash path then .follow else last) path with
  | .ok (.found loc node) =>
    if Path.endsInSlash path && !node.isDirectory then .error .notDirectory
    else .ok (.found loc node)
  | result => result

end FileSystem
end Ancestry
