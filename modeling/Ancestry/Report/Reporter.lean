import Ancestry.Report.Host
import Ancestry.Relation.Buffer

/-!
# Reporting a relation

A reporter knows a log and a socket. When a relation is to be reported it asks which of
the two paths leads anywhere, and then tries each that does once, the log first. What
the tries come to is of no interest to the host, and its error number is put back.
-/
namespace Ancestry

structure Reporter where
  log : Bytes
  socket : Bytes
  deriving Repr, DecidableEq

namespace Reporter

def logPath : String := "/var/log/pidtrack.log"

def socketPath : String := "/tmp/docker-systemd-pidtrack.sock"

/-- The reporter every process uses. -/
def wellKnown : Reporter := ⟨Bytes.ofString logPath, Bytes.ofString socketPath⟩

/-- Hands a relation to the sinks that exist. -/
def deliver (r : Reporter) (relation : Relation) (h : Host) : Host :=
  let (toLog, h) := h.save.probe r.log
  let (toSocket, h) := h.probe r.socket
  let text := relation.encode
  let h := if toLog then (h.writeLine r.log text).2 else h
  let h := if toSocket then (h.send r.socket text).2 else h
  h.restore

/-- Reports the host and its parent, and for a fork the new process. -/
def report (r : Reporter) (infant? : Option Pid) (h : Host) : Host :=
  r.deliver ⟨h.parent, h.self, infant?⟩ h

end Reporter
end Ancestry
