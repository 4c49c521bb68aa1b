/-!
# The error number

A process has one error number, which any call may overwrite. Work that must not be
noticed saves the number first and puts it back at its end. Saved numbers nest: the
newest is put back first.
-/
namespace Ancestry

structure Errno where
  current : Int32
  /-- The numbers saved and not yet put back, newest first. -/
  saved : List Int32
  deriving Repr, DecidableEq

namespace Errno

/-- What can happen to the error number. -/
inductive Step
  | set (value : Int32)
  | save
  | drop
  deriving Repr, DecidableEq

/-- A number with nothing saved. -/
def ofValue (value : Int32) : Errno := ⟨value, []⟩

def set (e : Errno) (value : Int32) : Errno := { e with current := value }

def save (e : Errno) : Errno := { e with saved := e.current :: e.saved }

/-- Puts the newest saved number back; nothing happens if there is none. -/
def drop (e : Errno) : Errno :=
  match e.saved with
  | [] => e
  | value :: rest => ⟨value, rest⟩

def step (e : Errno) : Step → Errno
  | .set value => e.set value
  | .save => e.save
  | .drop => e.drop

def run (e : Errno) (steps : List Step) : Errno := steps.foldl step e

/-- The number after each of some steps. -/
def trace (e : Errno) : List Step → List Int32
  | [] => []
  | s :: rest => (e.step s).current :: trace (e.step s) rest

@[simp] theorem drop_save (e : Errno) : e.save.drop = e := rfl

/-- Whatever is set between a save and its drop is forgotten. -/
@[simp] theorem drop_set_save (e : Errno) (value : Int32) : (e.save.set value).drop = e := rfl

end Errno
end Ancestry
