import Ancestry.System.Error
import Ancestry.Text.Utf8

/-!
# File systems

A file system is a finite table from places to what is there. A place is the list of
names that leads to it from the root, which is a directory and cannot be replaced.
The table is read through `get?`, and every change is described by what it does to
that reading.
-/
namespace Ancestry

abbrev Name := Bytes

/-- The names from the root down to an entry. -/
abbrev Location := List Name

/-- What is opened as a file is but keeps nothing: a device, or a pipe that somebody holds
open at its other end. -/
structure Special where
  /-- What one reads from it up to its end, if it has an end. -/
  supply : Option Bytes
  /-- Why it does not take what is written to it, if it does not. -/
  refusal : Option SystemError
  deriving Repr, DecidableEq

namespace Special

/-- The device that is empty and takes everything. -/
def null : Special := ⟨some [], none⟩

/-- The device that never ends and never has room. -/
def full : Special := ⟨none, some .noSpace⟩

/-- A pipe, whose other end gives everyone the same bytes and takes what comes. -/
def pipe (supply : Bytes) : Special := ⟨some supply, none⟩

end Special

inductive Node
  | file (mode : Nat) (content : Bytes)
  | directory (mode : Nat)
  | symlink (target : Bytes)
  | socket (mode : Nat) (endpoint : Nat)
  | special (mode : Nat) (kind : Special)
  deriving Repr, DecidableEq

namespace Node

def isDirectory : Node → Bool
  | directory _ => true
  | _ => false

def isFile : Node → Bool
  | file .. => true
  | _ => false

/-- The permission bits; links have none of their own. -/
def mode : Node → Nat
  | file mode _ | directory mode | socket mode _ | special mode _ => mode
  | symlink _ => 0o777

def withMode (mode : Nat) : Node → Node
  | file _ content => file mode content
  | directory _ => directory mode
  | socket _ endpoint => socket mode endpoint
  | special _ kind => special mode kind
  | symlink target => symlink target

end Node

structure FileSystem where
  entries : List (Location × Node)
  deriving Repr, DecidableEq

namespace FileSystem

def get? (fs : FileSystem) (loc : Location) : Option Node :=
  if loc = [] then some (.directory 0o755)
  else (fs.entries.find? (·.1 = loc)).map (·.2)

/-- The file system without an entry. -/
def remove (fs : FileSystem) (loc : Location) : FileSystem :=
  ⟨fs.entries.filter (·.1 ≠ loc)⟩

/-- Whether one place is below another. -/
def isBelow (loc other : Location) : Bool := loc.isPrefixOf other && other ≠ loc

/-- The file system without what is below an entry. -/
def clear (fs : FileSystem) (loc : Location) : FileSystem :=
  ⟨fs.entries.filter fun e => !isBelow loc e.1⟩

/-- Whether nothing is below an entry. -/
def isBare (fs : FileSystem) (loc : Location) : Bool :=
  fs.entries.all fun e => !isBelow loc e.1

/-- The file system with an entry put in place of what was there. -/
def set (fs : FileSystem) (loc : Location) (node : Node) : FileSystem :=
  ⟨(loc, node) :: (fs.remove loc).entries⟩

theorem get?_set_self (fs : FileSystem) {loc : Location} (h : loc ≠ []) (node : Node) :
    (fs.set loc node).get? loc = some node := by
  simp [get?, set, h]

theorem get?_remove_self (fs : FileSystem) {loc : Location} (h : loc ≠ []) :
    (fs.remove loc).get? loc = none := by
  simp [get?, remove, h, List.find?_eq_none]

theorem find?_filter_ne {α : Type} (entries : List (Location × α)) {loc other : Location}
    (h : other ≠ loc) :
    (entries.filter (·.1 ≠ loc)).find? (·.1 = other) = entries.find? (·.1 = other) := by
  rw [List.find?_filter]
  congr 1
  funext e
  by_cases he : e.1 = other <;> simp_all

theorem get?_remove_ne (fs : FileSystem) {loc other : Location} (h : other ≠ loc) :
    (fs.remove loc).get? other = fs.get? other := by
  simp only [get?, remove, find?_filter_ne fs.entries h]

theorem get?_set_ne (fs : FileSystem) {loc other : Location} (h : other ≠ loc) (node : Node) :
    (fs.set loc node).get? other = fs.get? other := by
  have head : ¬ loc = other := fun e => h e.symm
  unfold set
  rw [← get?_remove_ne fs h]
  simp [get?, head]

end FileSystem
end Ancestry
