import Ancestry.Text.Quoted
import Ancestry.Text.Utf8

/-!
# Settings

What the supervisor is told about itself: whether to switch the log on, and whether and
how to have the reporting library loaded. An option that was not given stays open.
-/
namespace Ancestry

structure PreloadSettings where
  install : Option Bool
  library : Bytes
  preloadFile : Bytes
  deriving Repr, DecidableEq

structure Settings where
  enableLog : Option Bool
  preload : PreloadSettings
  deriving Repr, DecidableEq

namespace Settings

/-- The library that reports, where it is installed. -/
def defaultLibrary : String := "/usr/local/lib/libpidtrack_preload.so"

/-- The list of the libraries the loader adds to every program. -/
def defaultPreloadFile : String := "/etc/ld.so.preload"

/-- The file of settings that is read when no other is named. -/
def defaultFile : String := "/etc/pidtrack.yaml"

/-- An option for the reader of a program. -/
def describeOption : Option Bool → String
  | none => "None"
  | some b => s!"Some({b})"

/-- The settings with their fields by name. -/
def describe (s : Settings) : String :=
  let path (p : Bytes) := Text.quoted (Utf8.lossy p).toList
  let preload :=
    s!"install: {describeOption s.preload.install}, library: {path s.preload.library}, "
      ++ s!"preload_file: {path s.preload.preloadFile}"
  s!"Settings \x7b enable_log: {describeOption s.enableLog}, "
    ++ s!"preload: PreloadSettings \x7b {preload} \x7d \x7d"

end Settings
end Ancestry
