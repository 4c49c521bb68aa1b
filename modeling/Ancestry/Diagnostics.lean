/-!
# Diagnostics

What a run has to say about itself: records with a level and the part of the program
they come from. Records are data; the command line decides which are shown and how.
-/
namespace Ancestry

/-- How much a record matters, least first. -/
inductive Level
  | trace
  | debug
  | info
  | warn
  | error
  deriving Repr, DecidableEq

def Level.name : Level → String
  | trace => "TRACE"
  | debug => "DEBUG"
  | info => "INFO"
  | warn => "WARN"
  | error => "ERROR"

/-- The place of a level from the most important on. -/
def Level.rank : Level → Nat
  | error => 1
  | warn => 2
  | info => 3
  | debug => 4
  | trace => 5

structure Record where
  level : Level
  source : String
  text : String
  deriving Repr, DecidableEq

/-- A record as one line, level first. -/
def Record.line (r : Record) : String := r.level.name ++ " " ++ r.text

end Ancestry
