import Ancestry.Diagnostics
import Ancestry.Failure
import Ancestry.Text.Quoted
import Ancestry.Tracker

/-!
# One message

A connection carries one message without a frame: it ends where the sender closes. No
more than a fixed number of bytes are read, whatever is sent. The message is recorded if
the reading went well and the bytes are the text of a relation, and else nothing changes.
-/
namespace Ancestry

/-- What arrives on a connection: pieces in order, and then its end or a broken line. -/
structure Arrival where
  pieces : List Bytes
  isReset : Bool
  deriving Repr, DecidableEq

/-- What came of a message. -/
structure Receipt where
  result : Except Failure Relation
  tracker : Tracker
  records : List Record
  deriving Repr

namespace Connection

/-- The most bytes that are read of a message. -/
def maxMessage : Nat := 65536

def source : String := "pidtrack::listener"

/-- The front of the pieces, up to a number of bytes. -/
def takeUpTo (most : Nat) : List Bytes → Bytes
  | [] => []
  | piece :: more => piece.take most ++ takeUpTo (most - piece.length) more

theorem takeUpTo_eq (most : Nat) (pieces : List Bytes) :
    takeUpTo most pieces = pieces.flatten.take most := by
  induction pieces generalizing most with
  | nil => simp [takeUpTo]
  | cons piece more ih => rw [takeUpTo, ih, List.flatten_cons, List.take_append]

/-- Reads to the end of the message. A broken line is noticed only by one who still
reads. -/
def receive (a : Arrival) : Except IoError Bytes :=
  let message := takeUpTo maxMessage a.pieces
  if a.isReset && message.length < maxMessage then .error (.system .connectionReset)
  else .ok message

/-- The relation that the bytes of a message are the text of. -/
def decode (message : Bytes) : Except Failure Relation :=
  match Utf8.decode message with
  | .error e => .error ⟨["Message malformed"], .malformed e⟩
  | .ok cs =>
    match Relation.ofChars cs with
    | .error e => .error ⟨["Message malformed: " ++ Text.quoted cs], .relation e⟩
    | .ok r => .ok r

/-- Reads one message and records it. -/
def handle (t : Tracker) (a : Arrival) : Receipt :=
  match Failure.during "Failed to read message" (receive a) with
  | .error f => ⟨.error f, t, []⟩
  | .ok message =>
    match decode message with
    | .error f => ⟨.error f, t, []⟩
    | .ok r => ⟨.ok r, t.add r, [⟨.debug, source, "Relation " ++ r.text⟩]⟩

end Connection
end Ancestry
