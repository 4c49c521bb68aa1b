import Ancestry.Relation
import Ancestry.System.Error

/-!
# Failures of the supervisor

A failure has a cause and, around it, what was being done, outermost first. On one line
the parts are joined by colons. For the eye the outermost part stands alone and the
others follow as its causes.
-/
namespace Ancestry

inductive Cause
  | io (e : IoError)
  | relation (e : RelationError)
  | malformed (e : Utf8.Malformed)
  | message (text : String)
  deriving Repr, DecidableEq

def Cause.describe : Cause → String
  | io e => e.message
  | relation e => e.message
  | malformed e => e.message
  | message text => text

structure Failure where
  /-- What was being done, outermost first. -/
  context : List String
  cause : Cause
  deriving Repr, DecidableEq

namespace Failure

def ofCause (cause : Cause) : Failure := ⟨[], cause⟩

/-- The failure seen from one step further out. -/
def within (what : String) (f : Failure) : Failure := { f with context := what :: f.context }

def chain (f : Failure) : List String := f.context ++ [f.cause.describe]

/-- All parts on one line. -/
def summary (f : Failure) : String := ": ".intercalate f.chain

/-- Lines after the first, moved right. -/
def hang (indent : String) (text : String) : String :=
  ("\n" ++ indent).intercalate (text.splitOn "\n")

/-- The causes below a failure; several are numbered. -/
def causes : List String → String
  | [] => ""
  | [one] => "\n\nCaused by:\n    " ++ hang "    " one
  | many =>
    "\n\nCaused by:" ++ String.join (many.zipIdx.map fun (text, i) =>
      s!"\n    {i}: " ++ hang "       " text)

/-- The failure over several lines. -/
def report (f : Failure) : String :=
  match f.chain with
  | [] => ""
  | top :: below => top ++ causes below

/-- A step of input or output whose failure says what was being done. -/
def during {α : Type} (what : String) : Except IoError α → Except Failure α
  | .ok a => .ok a
  | .error e => .error ⟨[what], .io e⟩

end Failure
end Ancestry
