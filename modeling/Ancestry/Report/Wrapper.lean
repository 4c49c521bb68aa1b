import Ancestry.Report.Reporter

/-!
# Calls that are reported

A wrapped call does what the function behind it does, with a report beside it. A fork is
reported after it has happened, and only in the parent, which alone knows the new process.
An exec is reported before, since a successful one does not come back.
-/
namespace Ancestry

/-- Which side of a fork a process is on. -/
inductive Forked
  | failed
  | child
  | parent (infant : Pid)
  deriving Repr, DecidableEq

namespace Forked

def ofReturn (value : Int32) : Forked :=
  if value = 0 then child else if 0 < value then parent value else failed

def toReturn : Forked → Int32
  | failed => -1
  | child => 0
  | parent infant => infant

end Forked

namespace Wrapper

/-- A call without arguments: the value it returns and the host it leaves. -/
abbrev Fork := Host → Int32 × Host

def forkAndReport (wrapped : Fork) (r : Reporter) (h : Host) : Int32 × Host :=
  let (value, h) := wrapped h
  match Forked.ofReturn value with
  | .parent infant => (Forked.toReturn (.parent infant), r.report (some infant) h)
  | forked => (forked.toReturn, h)

/-- The arguments and the result of the wrapped call are passed on as they are. -/
def reportAndExecve {α β : Type} (wrapped : α → Host → β × Host) (r : Reporter)
    (arguments : α) (h : Host) : β × Host :=
  wrapped arguments (r.report none h)

/-- What a wrapped call comes to when no function is found behind it. -/
def unresolved (e : Errno) : Int32 × Errno := (-1, e.set SystemError.notImplemented.errno)

end Wrapper
end Ancestry
