import Ancestry.Supervisor.Connection
import Ancestry.System.World

/-!
# Listening for messages

A listener takes the place of whatever a former run left at its path, except a
directory, and lets everyone connect. It handles connection after connection: a message
that is not good is reported, and so is a connection that could not be accepted at once.
Neither ends the listening. When it is over, the entry at the path is removed.
-/
namespace Ancestry

structure Listener where
  path : Bytes
  endpoint : Nat
  deriving Repr, DecidableEq

/-- A connection as the listener meets it. Accepting may fail before it succeeds. -/
structure Visit where
  firstRefusal : Option SystemError
  arrival : Arrival
  deriving Repr, DecidableEq

namespace Listener

def source : String := Connection.source

/-- The permission bits that let every process connect. -/
def openToAll : Nat := 0o666

/-- Removes what a former run left behind, if anything. -/
def clear (w : World) (path : Bytes) : Except Failure (World × List Record) :=
  match w.unlink path with
  | .ok w => .ok (w, [⟨.debug, source, s!"Removed stale socket {Utf8.lossy path}"⟩])
  | .error (.system .notFound) => .ok (w, [])
  | .error e => .error ⟨[s!"Failed to remove {Utf8.lossy path}"], .io e⟩

/-- Starts to listen at a path. A failure after the first step leaves what the earlier
steps did. -/
def bind (w : World) (path : Bytes) : Except Failure Listener × World × List Record :=
  match clear w path with
  | .error f => (.error f, w, [])
  | .ok (w, records) =>
    match Failure.during s!"Failed to bind {Utf8.lossy path}" (w.bind path) with
    | .error f => (.error f, w, records)
    | .ok (endpoint, w) =>
      match Failure.during s!"Failed to set permissions on {Utf8.lossy path}"
          (w.setMode path openToAll) with
      | .error f => (.error f, w.close endpoint, records)
      | .ok w =>
        (.ok ⟨path, endpoint⟩, w,
          records ++ [⟨.info, source, s!"Listening for relations on {Utf8.lossy path}"⟩])

/-- A warning of the listener. -/
def warning (text : String) : Record := ⟨.warn, source, "PID-TRACK: " ++ text⟩

/-- What a refused connection gives rise to. -/
def refusal (e : SystemError) : Record :=
  warning ("accept failed: " ++ (IoError.system e).message)

/-- Handles one connection to its end: the tracker after it and what was reported. -/
def attend (t : Tracker) (v : Visit) : Tracker × List Record :=
  let receipt := Connection.handle t v.arrival
  let complaint :=
    match receipt.result with
    | .ok _ => []
    | .error f => [warning f.summary]
  (receipt.tracker, v.firstRefusal.toList.map refusal ++ receipt.records ++ complaint)

/-- Handles connections one after the other: what there was after each. -/
def serve (t : Tracker) : List Visit → List (Tracker × List Record)
  | [] => []
  | v :: more => attend t v :: serve (attend t v).1 more

/-- The tracker after all connections. -/
def served (t : Tracker) (vs : List Visit) : Tracker := vs.foldl (fun t v => (attend t v).1) t

/-- Stops listening and removes the entry at the path, if that can be done. -/
def close (l : Listener) (w : World) : World :=
  let w := w.close l.endpoint
  match w.unlink l.path with
  | .ok w => w
  | .error _ => w

end Listener
end Ancestry
