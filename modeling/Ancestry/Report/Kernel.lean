import Ancestry.Report.Slot
import Ancestry.System.Scene

/-!
# The calls as a process sees them

A process calls fork and execve without knowing that they are wrapped. The calls below
find what is wrapped, report to the well-known places, and do what is wrapped: a fork
gives a child that ends with some status, and an exec runs a program or is refused.
-/
namespace Ancestry

structure Kernel where
  world : World
  /-- The programs that can be run and the status each ends with. -/
  programs : List (Location × UInt8)
  deriving Repr, DecidableEq

namespace Kernel

/-- A system with its two simplest programs. -/
def bare : Kernel where
  world := World.bare
  programs := [(World.place "/usr/bin/true", 0), (World.place "/usr/bin/false", 1)]

/-- The status of the program at a path. What is there but is no program is refused. -/
def execve (k : Kernel) (path : Bytes) : Except SystemError UInt8 :=
  match k.world.find .follow path with
  | .error e => .error e
  | .ok (loc, _) =>
    match k.programs.find? (·.1 = loc) with
    | some (_, status) => .ok status
    | none => .error .permissionDenied

/-- The part of an exit status that a parent gets to see. -/
def exitStatus (status : Int32) : UInt8 := UInt8.ofInt status.toInt

/-- A process in this system. -/
def host (k : Kernel) : Host := ⟨k.world, Errno.ofValue 0, 1, 2, Limits.unlimited⟩

/-- What a process gets whose call has nothing behind it. -/
def unresolved (h : Host) : Int32 × Host :=
  let (value, errno) := Wrapper.unresolved h.errno
  (value, { h with errno := errno })

/-- The process that a fork makes. -/
def infant : Pid := 3

/-- The wrapped fork, as the parent sees it. -/
def wrappedFork (k : Kernel) : Int32 × Host :=
  let slot := Slot.fresh (Bytes.ofString "fork")
  match (slot.resolve (Slot.loaderFor slot.name)).1 with
  | some _ => Wrapper.forkAndReport (fun h => (infant, h)) .wellKnown k.host
  | none => unresolved k.host

/-- The wrapped exec: the status of the program that has run, or the value returned. -/
def wrappedExecve (k : Kernel) (path : Bytes) : (UInt8 ⊕ Int32) × Host :=
  let slot := Slot.fresh (Bytes.ofString "execve")
  match (slot.resolve (Slot.loaderFor slot.name)).1 with
  | some _ =>
    Wrapper.reportAndExecve (fun path h =>
      match k.execve path with
      | .ok status => (.inl status, h)
      | .error e => (.inr (-1), { h with errno := h.errno.set e.errno })) .wellKnown path k.host
  | none => let (value, h) := unresolved k.host; (.inr value, h)

/-- The status of a child that ends with a given status. -/
def forkStatus (k : Kernel) (status : Int32) : Option UInt8 :=
  if 0 < k.wrappedFork.1 then some (exitStatus status) else none

/-- The status of a child that runs a program, or ends with the error number if it
cannot. -/
def forkExecveStatus (k : Kernel) (path : Bytes) : Option UInt8 :=
  match k.wrappedExecve path with
  | (.inl status, _) => if 0 < k.wrappedFork.1 then some status else none
  | (.inr _, h) => k.forkStatus h.errno.current

end Kernel
end Ancestry
