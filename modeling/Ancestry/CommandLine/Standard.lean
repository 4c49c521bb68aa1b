import Ancestry.CommandLine.Arguments
import Ancestry.Settings.Standard

/-!
# The tools of the program

Command lines, settings and JSON texts as the program meets them when it runs.
-/
namespace Ancestry.CommandLine

def Tools.standard : Tools where
  understand := fun fallback args => (Invocation.read fallback args).mapError UsageError.refusal
  settings := .standard
  pretty := Json.pretty

end Ancestry.CommandLine
