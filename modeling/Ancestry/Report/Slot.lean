import Ancestry.Report.Wrapper

/-!
# Finding what is wrapped

The function behind a wrapped call is looked up by its name when it is first needed, and
its address is kept in a slot from then on. A lookup that finds nothing leaves the slot
empty, so the next call tries again.
-/
namespace Ancestry

/-- An address is never zero. -/
abbrev Address := { a : UInt64 // a ≠ 0 }

structure Slot where
  name : Bytes
  address? : Option Address
  /-- The number of lookups made so far. -/
  lookups : Nat
  deriving Repr, DecidableEq

namespace Slot

def fresh (name : Bytes) : Slot := ⟨name, none, 0⟩

/-- What each lookup finds, counted from the first. -/
abbrev Loader := Nat → Option Address

/-- A loader that finds the same at every lookup. -/
def always (found : Option Address) : Loader := fun _ => found

/-- The address of the function, looked up if it is not known yet. -/
def resolve (loader : Loader) (s : Slot) : Option Address × Slot :=
  match s.address? with
  | some address => (some address, s)
  | none =>
    let found := loader s.lookups
    (found, { s with address? := found, lookups := s.lookups + 1 })

/-- The ways a slot is used. A wrapped call without a function behind it leaves the
slot alone. -/
inductive Use
  | address
  | resolve
  | unresolved
  deriving Repr, DecidableEq

inductive Answer
  | found (address? : Option Address)
  | returned (value errno : Int32)
  deriving Repr, DecidableEq

def use (loader : Loader) (s : Slot) : Use → Answer × Slot
  | .address | .resolve =>
    let (address?, s) := s.resolve loader
    (.found address?, s)
  | .unresolved =>
    let (value, e) := Wrapper.unresolved (Errno.ofValue 0)
    (.returned value e.current, s)

/-- The answers to some uses, one after the other, each with the slot it leaves. -/
def trace (loader : Loader) (s : Slot) : List Use → List (Answer × Slot)
  | [] => []
  | u :: rest => s.use loader u :: trace loader (s.use loader u).2 rest

/-- The names of the calls that a process can find. -/
def known : List String := ["getpid", "getppid", "fork", "execve"]

/-- Whether a name can be found does not change while a process runs. -/
def loaderFor (name : Bytes) : Loader :=
  always (if name ∈ known.map Bytes.ofString then some ⟨1, by decide⟩ else none)

end Slot
end Ancestry
