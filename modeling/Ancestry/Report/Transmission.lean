import Ancestry.System.Error
import Ancestry.Text.Utf8

/-!
# Sending a payload piece by piece

A call that sends may take any part of what it is offered, and the rest is offered again.
An interrupted call is made anew. The transmission ends when nothing is left, when a
call takes nothing, or when a call fails for another reason.
-/
namespace Ancestry.Transmission

/-- What one call came to. -/
inductive Outcome (ε : Type)
  | taken (count : Nat)
  | interrupted
  | failed (e : ε)
  deriving Repr, DecidableEq

/-- What the system says to a call that sends: how many bytes it took, or why it failed. -/
abbrev Reply := Except SystemError Nat

/-- What that means for the transmission. -/
def Reply.outcome : Reply → Outcome SystemError
  | .ok count => .taken count
  | .error e => if e = .interrupted then .interrupted else .failed e

/-- How a transmission stands after some calls. -/
inductive Ending (ε : Type)
  | complete
  | nothingTaken
  | failed (e : ε)
  /-- Something is left and there has been no reason to stop. -/
  | unfinished
  deriving Repr, DecidableEq

structure Progress (ε : Type) where
  accepted : Bytes
  /-- The number of calls made. -/
  calls : Nat
  ending : Ending ε
  deriving Repr, DecidableEq

/-- One more call in front of what follows, which took some bytes. -/
def Progress.after {ε : Type} (taken : Bytes) (p : Progress ε) : Progress ε :=
  { p with accepted := taken ++ p.accepted, calls := p.calls + 1 }

/-- Sends a payload when the calls come to the outcomes of a list, of which only those
are used that are needed. -/
def send {ε : Type} (payload : Bytes) : List (Outcome ε) → Progress ε
  | [] => ⟨[], 0, if payload = [] then .complete else .unfinished⟩
  | outcome :: later =>
    if payload = [] then ⟨[], 0, .complete⟩
    else
      match outcome with
      | .interrupted => (send payload later).after []
      | .failed e => ⟨[], 1, .failed e⟩
      | .taken 0 => ⟨[], 1, .nothingTaken⟩
      | .taken count => (send (payload.drop count) later).after (payload.take count)

end Ancestry.Transmission
