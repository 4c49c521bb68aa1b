import Ancestry.Diagnostics
import Ancestry.System.Error
import Ancestry.Text.Quoted
import Ancestry.Tracker

/-!
# Replaying a log

A log holds one relation to a line. Lines that are blank are passed over, and lines that
are no relation are counted and reported but do no harm: processes that append at the
same time can leave a torn line. Bytes that are no text end the replay, and what was read
before them stays recorded.
-/
namespace Ancestry

/-- What a line of a log means. -/
inductive LogLine
  | blank
  | relation (r : Relation)
  | malformed (e : RelationError)
  deriving Repr, DecidableEq

def LogLine.ofChars (line : List Char) : LogLine :=
  if line.all Text.isBlank then blank
  else
    match Relation.ofChars line with
    | .ok r => relation r
    | .error e => malformed e

/-- How many lines of a log were relations, and how many should have been. -/
structure ReplayStats where
  relations : Nat
  malformed : Nat
  deriving Repr, DecidableEq

def ReplayStats.describe (s : ReplayStats) : String :=
  s!"ReplayStats \x7b relations: {s.relations}, malformed: {s.malformed} \x7d"

/-- A replay that has come to some line. -/
structure Replay where
  tracker : Tracker
  stats : ReplayStats
  records : List Record
  deriving Repr, DecidableEq

namespace Replay

/-- Where the records of this module say they come from. -/
def source : String := "pidtrack::logfile"

def start (t : Tracker) : Replay := ⟨t, ⟨0, 0⟩, []⟩

def log (s : Replay) (level : Level) (text : String) : Replay :=
  { s with records := s.records ++ [⟨level, source, text⟩] }

/-- Takes one line; lines are numbered from one. -/
def step (s : Replay) (number : Nat) (line : List Char) : Replay :=
  match LogLine.ofChars line with
  | .blank => s
  | .relation r =>
    { s with
      tracker := s.tracker.add r
      stats := { s.stats with relations := s.stats.relations + 1 } }
  | .malformed e =>
    { s with stats := { s.stats with malformed := s.stats.malformed + 1 } }.log .warn
      s!"Skipping malformed line {number}: {Text.quoted line} ({e.message})"

/-- Takes lines up to the first that is no text. -/
def readLines (s : Replay) (number : Nat) : List Bytes → Except IoError Unit × Replay
  | [] => (.ok (), s)
  | line :: more =>
    match Utf8.decode line with
    | .error _ => (.error .malformedText, s)
    | .ok cs => readLines (s.step number cs) (number + 1) more

/-- Records that the replay came to its end. -/
def finish (s : Replay) : Replay := s.log .debug ("Replayed " ++ s.stats.describe)

/-- Replays the bytes of a log into a tracker. -/
def read (t : Tracker) (data : Bytes) : Except IoError ReplayStats × Replay :=
  match (start t).readLines 1 (Text.lines data) with
  | (.error e, s) => (.error e, s)
  | (.ok (), s) => (.ok s.stats, s.finish)

end Replay
end Ancestry
