import Ancestry.Report.Errno
import Ancestry.Report.LogSink
import Ancestry.Report.SocketSink
import Ancestry.Relation

/-!
# The process that is reported on

A host is a process with its ids, its error number and the limits it runs under, in a
world. The calls below are those that reporting makes in it. Each may fail, and then
leaves its error in the host's error number.
-/
namespace Ancestry

structure Limits where
  /-- The size no file may grow beyond. -/
  fileSize : Option Nat
  /-- Neither a file can be opened nor a socket be made. -/
  descriptorsUsedUp : Bool
  /-- What the first calls of a transmission get for an answer, where it is not that all has
  been taken. -/
  sends : List Transmission.Reply
  deriving Repr

namespace Limits

def unlimited : Limits := ⟨none, false, []⟩

/-- Why a file at a path cannot be opened, whatever is there. A path that no call could take
is refused first. -/
def refusal? (limits : Limits) (path : Bytes) : Option IoError :=
  if !limits.descriptorsUsedUp then none
  else if World.hasNul path then some .nulInPath
  else if path = [] then some (.system .notFound)
  else if Path.tooLong ≤ path.length then some (.system .nameTooLong)
  else some (.system .tooManyOpenFiles)

/-- Writes a line to the log as a process can that runs under these limits. -/
def writeLine (limits : Limits) (w : World) (path text : Bytes) : Except IoError Unit × World :=
  match limits.refusal? path with
  | some e => (.error e, w)
  | none => LogSink.writeLine w limits.fileSize path text

/-- Sends a payload as a process can that runs under these limits. -/
def send (limits : Limits) (w : World) (path payload : Bytes) : Except IoError Unit × World :=
  SocketSink.send w limits.descriptorsUsedUp limits.sends path payload

end Limits

structure Host where
  world : World
  errno : Errno
  parent : Pid
  self : Pid
  limits : Limits
  deriving Repr

namespace Host

/-- The host after a call that came to a result and changed its world. -/
def after {α : Type} (h : Host) (result : Except IoError α) (world : World) : Host :=
  { h with
    world := world
    errno :=
      match result with
      | .ok _ => h.errno
      | .error e => h.errno.set (e.errnoAfter h.errno.current) }

/-- Asks whether a path leads anywhere. -/
def probe (h : Host) (path : Bytes) : Bool × Host :=
  (h.world.pathExists path, h.after (h.world.status path) h.world)

def writeLine (h : Host) (path text : Bytes) : Except IoError Unit × Host :=
  let (result, world) := h.limits.writeLine h.world path text
  (result, h.after result world)

/-- The host after a transmission's calls. One that was interrupted leaves its error behind
although the transmission goes on. -/
def disturbed (h : Host) (payload : Bytes) : Host :=
  let calls := (SocketSink.transmit h.limits.sends payload).calls
  if (h.limits.sends.take calls).any (·.outcome = .interrupted) then
    { h with errno := h.errno.set SystemError.interrupted.errno }
  else h

def send (h : Host) (path payload : Bytes) : Except IoError Unit × Host :=
  let (result, world) := h.limits.send h.world path payload
  (result, (h.disturbed payload).after result world)

def save (h : Host) : Host := { h with errno := h.errno.save }

/-- Puts the newest saved error number back. -/
def restore (h : Host) : Host := { h with errno := h.errno.drop }

end Host
end Ancestry
