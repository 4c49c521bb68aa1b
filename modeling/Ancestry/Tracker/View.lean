import Ancestry.Json
import Ancestry.Tracker.Search

/-!
# Views of a tracker

The snapshot lists every process that has children, by increasing pid, with its
children in the order of their first report. The dump is the snapshot as lines, the
JSON value is the snapshot with the time at which each edge was seen first. What those
times are is given by the caller.
-/
namespace Ancestry.Tracker

/-- A process and its children. -/
abbrev Family := Pid × List Pid

def snapshot (t : Tracker) : List Family :=
  (t.parents.mergeSort (· ≤ ·)).map fun p => (p, t.children p)

/-- Pids in brackets. -/
def listText (ps : List Pid) : String :=
  "[" ++ ", ".intercalate (ps.map Relation.pidText) ++ "]"

def lineOf (f : Family) : String := Relation.pidText f.1 ++ ":" ++ listText f.2

/-- One line for each process that has children, by increasing pid. -/
def dump (t : Tracker) : List String := t.snapshot.map lineOf

/-- The snapshot as a JSON object, every edge with its time. -/
def toJson (firstSeen : Edge → String) (t : Tracker) : Json :=
  .obj (t.snapshot.map fun f =>
    (Relation.pidText f.1,
      .arr (f.2.map fun p =>
        .obj [("pid", .int p.toInt), ("first_seen", .str (firstSeen ⟨f.1, p⟩))])))

/-- The processes of a list that still run, in its order. -/
def live (alive : Pid → Bool) (ps : List Pid) : List Pid := ps.filter alive

/-- The three lists about one process as a JSON object, fields by name. -/
def reportJson (alive : Pid → Bool) (t : Tracker) (p : Pid) : Json :=
  let pids (ps : List Pid) : Json := .arr (ps.map fun q => .int q.toInt)
  .obj [("adopted", pids (t.adopted p)), ("alive", pids (live alive (t.descendants p))),
    ("descendants", pids (t.descendants p)), ("pid", .int p.toInt)]

/-- The three lists about one process as lines. -/
def reportLines (alive : Pid → Bool) (t : Tracker) (p : Pid) : List String :=
  ["descendants: " ++ listText (t.descendants p), "adopted:     " ++ listText (t.adopted p),
    "alive:       " ++ listText (live alive (t.descendants p))]

end Ancestry.Tracker
