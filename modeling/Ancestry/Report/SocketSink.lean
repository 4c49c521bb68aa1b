import Ancestry.Report.SocketAddress
import Ancestry.Report.Transmission

/-!
# The listener as a place for reports

A report goes to the listener as one connection that carries its text and nothing else.
The path is checked before a socket is made, and the socket before the connection. What was
taken of the text when a call fails has been sent, and the listener gets it.
-/
namespace Ancestry.SocketSink
open Transmission (Reply Progress Ending)

/-- What a transmission comes to for the one who asked for it. One that could go on has to
be asked for again. -/
def outcome : Ending SystemError → Except IoError Unit
  | .complete => .ok ()
  | .nothingTaken => .error .shortWrite
  | .failed e => .error (.system e)
  | .unfinished => .error (.system .tryAgain)

/-- A transmission whose first calls get some replies. Later ones take all they are offered. -/
def transmit (replies : List Reply) (payload : Bytes) : Progress SystemError :=
  Transmission.send payload (replies.map (·.outcome) ++ [.taken payload.length])

/-- Connects to a path, sends a payload and closes. No socket can be made when the
descriptors are used up. -/
def send (w : World) (descriptorsUsedUp : Bool) (replies : List Reply) (path payload : Bytes) :
    Except IoError Unit × World :=
  match SocketAddress.ofPath path with
  | .error e => (.error (.system e), w)
  | .ok address =>
    if descriptorsUsedUp then (.error (.system .tooManyOpenFiles), w)
    else
      match w.connect address.path with
      | .error e => (.error (.system e), w)
      | .ok endpoint =>
        let progress := transmit replies payload
        (outcome progress.ending, w.deliver endpoint progress.accepted)

end Ancestry.SocketSink
