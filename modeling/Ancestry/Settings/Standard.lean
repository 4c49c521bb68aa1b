import Ancestry.Settings.DotEnv
import Ancestry.Settings.File
import Ancestry.Settings.Variables

/-!
# The backend of the program

Files of variables and of settings, variables and trees of values as the program meets them
when it runs.
-/
namespace Ancestry.Settings

def Backend.standard : Backend where
  assignments := DotEnv.assignments
  supply := DotEnv.load
  readFile := Settings.readFile
  ofVariable := variableValue
  readVariables := Settings.ofEnvironment
  build := Settings.build
  toBool := Value.toBool
  toText := Value.toText

end Ancestry.Settings
