import Ancestry.CommandLine.Arguments
import Ancestry.Proofs.JsonReading

/-!
# What is known of the tools

The log and the pid of a replay are values of options. A value that stands behind its option in the
same argument may be anything that such a value may be. If it stands in an argument of its own, it
may not look like an option, so neither a negative pid nor a path that begins with a hyphen can be
given that way. An empty path is never taken, and neither is a file of settings without a name that
the environment names. What is given otherwise is understood, and a line that is not understood is
refused with a code of its own.

A JSON value that was written down can be read back.
-/
namespace Ancestry.CommandLine
open Reading

/-- Where the value of an option stands: in the same argument, or in the next one. -/
inductive Placement
  | attached
  | apart
  deriving Repr, DecidableEq

/-- An option by its long name. -/
def Opt.spelled (o : Opt) : Bytes := hyphen :: hyphen :: Bytes.ofString o.longName

/-- The arguments that give an option its value. -/
def Opt.given (o : Opt) (value : Bytes) : Placement → List Bytes
  | .attached => [o.spelled ++ equalsSign :: value]
  | .apart => [o.spelled, value]

/-- What does not look like an option. -/
def Standing (value : Bytes) : Prop := ∀ b rest, value ≠ hyphen :: b :: rest

/-- A command line that asks for a replay of a log. -/
structure ReplayLine where
  log : Bytes
  logPlace : Placement
  pid : Option (Pid × Placement)
  asJson : Bool
  deriving Repr, DecidableEq

namespace ReplayLine

/-- The arguments for the pid. -/
def pidArgs : Option (Pid × Placement) → List Bytes
  | none => []
  | some (p, place) => Opt.pid.given (Utf8.encode (Relation.pidChars p)) place

/-- The arguments for the form. -/
def formArgs (asJson : Bool) : List Bytes := if asJson then [Opt.json.spelled] else []

def options (l : ReplayLine) : List Bytes :=
  Opt.log.given l.log l.logPlace ++ (pidArgs l.pid ++ formArgs l.asJson)

def args (l : ReplayLine) : List Bytes := Bytes.ofString CommandName.replay.text :: l.options

/-- The values can be told from options. -/
structure Clear (l : ReplayLine) : Prop where
  named : l.log ≠ []
  path : l.logPlace = .apart → Standing l.log
  pid : ∀ p, l.pid = some (p, .apart) → 0 ≤ p.toInt

/-- What is asked for. The environment may name a file of settings. -/
def invocation (l : ReplayLine) (fallback : Option Bytes) : Invocation :=
  ⟨false, fallback, .replay (some l.log) (l.pid.map (·.1)) l.asJson⟩

end ReplayLine

/-! ## Laws -/

/-- What may be relied on in whatever tools the program has. -/
structure Tools.Lawful (tools : Tools) : Prop where
  understands : ∀ {l : ReplayLine} {fallback : Option Bytes}, l.Clear → fallback ≠ some [] →
    tools.understand fallback l.args = .ok (l.invocation fallback)
  refuses : ∀ {l : ReplayLine} {fallback : Option Bytes}, ¬ (l.Clear ∧ fallback ≠ some []) →
    ∃ text, tools.understand fallback l.args = .error ⟨2, text⟩
  pretty : ∀ j, Json.read (tools.pretty j) = some j

end Ancestry.CommandLine
