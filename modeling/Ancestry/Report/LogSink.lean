import Ancestry.System.World

/-!
# The log as a place for reports

A report becomes one line at the end of a file that has to be there already. The line
and its newline go out in one write, and a write that takes less than both is an error,
although what was taken stays in the file.
-/
namespace Ancestry.LogSink

def newline : UInt8 := 10

/-- Appends a line to an existing file, which may not grow past a limit. -/
def writeLine (w : World) (limit : Option Nat) (path text : Bytes) :
    Except IoError Unit × World :=
  match w.openAppend path with
  | .error e => (.error e, w)
  | .ok loc =>
    match w.append loc limit (text ++ [newline]) with
    | (.error e, w) => (.error (.system e), w)
    | (.ok taken, w) =>
      if taken = text.length + 1 then (.ok (), w) else (.error .shortWrite, w)

end Ancestry.LogSink
