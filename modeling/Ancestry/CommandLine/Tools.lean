import Ancestry.Json
import Ancestry.Relation
import Ancestry.Settings.Backend

/-!
# What the program works with

A command line asks for one of three commands, with its options. How it is read is not the
program's own, and neither is how settings are read nor how a JSON value is written down: the
program finds these things ready and is told what they come to.
-/
namespace Ancestry.CommandLine

inductive Command
  | listen
  | replay (log : Option Bytes) (pid : Option Pid) (asJson : Bool)
  | install (library : Option Bytes)
  deriving Repr, DecidableEq

structure Invocation where
  isVerbose : Bool
  /-- The file of settings. -/
  config : Option Bytes
  command : Command
  deriving Repr, DecidableEq

/-- The variable that names a file of settings. -/
def configVariable : String := "PIDTRACK_CONFIG"

/-- How a run ends whose command line is not understood, and what it says. -/
structure Refusal where
  code : Nat
  text : String
  deriving Repr, DecidableEq

structure Tools where
  /-- Reads a command line; the environment may name a file of settings. -/
  understand : Option Bytes → List Bytes → Except Refusal Invocation
  settings : Settings.Backend
  /-- A JSON value over several lines. -/
  pretty : Json → String

end Ancestry.CommandLine
