import Ancestry.Failure
import Ancestry.Supervisor.Replay
import Ancestry.System.World

/-!
# The log file of the supervisor

Replaying reads the file at a path. Enabling makes the file if it is not there, and lets
everyone append to it; what it holds stays.
-/
namespace Ancestry.LogFile

/-- The permission bits that let every process write. -/
def openToAll : Nat := 0o666

/-- Replays the log at a path into a tracker. -/
def replay (w : World) (path : Bytes) (t : Tracker) : Except Failure ReplayStats × Replay :=
  match Failure.during s!"Failed to open {Utf8.lossy path}" (w.openRead path) with
  | .error f => (.error f, Replay.start t)
  | .ok node =>
    let during {α : Type} : Except IoError α → Except Failure α :=
      Failure.during s!"Failed to read {Utf8.lossy path}"
    match World.contentOf node with
    | .error e => (during (.error e), Replay.start t)
    | .ok data =>
      let (result, s) := Replay.read t data
      (during result, s)

/-- Makes the log if need be, which switches it on. -/
def enable (w : World) (path : Bytes) : Except Failure Unit × World :=
  match Failure.during s!"Failed to create {Utf8.lossy path}" (w.openOrCreate path) with
  | .error f => (.error f, w)
  | .ok (_, w) =>
    match Failure.during s!"Failed to set permissions on {Utf8.lossy path}"
        (w.setMode path openToAll) with
    | .error f => (.error f, w)
    | .ok w => (.ok (), w)

end Ancestry.LogFile
