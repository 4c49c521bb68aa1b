import Ancestry.Settings
import Ancestry.Supervisor.Listener
import Ancestry.Supervisor.LogFile
import Ancestry.Supervisor.PreloadList
import Ancestry.Tracker.View

/-!
# A run of the supervisor

A run switches the log on and lists the library, as far as the settings ask for it, then
listens until it is told to stop, and at the end prints what it has learnt. The steps
come in this order and the first that fails ends the run; the earlier ones stay done.
-/
namespace Ancestry

structure Daemon where
  settings : Settings
  socket : Bytes
  log : Bytes
  deriving Repr, DecidableEq

namespace Daemon

def source : String := "pidtrack"

def note (text : String) : Record := ⟨.info, source, text⟩

/-- A step that may fail, with the world and the records so far. -/
abbrev Step (α : Type) := Except Failure α × World × List Record

/-- Goes on with the next step if the last went well. -/
def andThen {α β : Type} (s : Step α) (next : α → World → Step β) : Step β :=
  match s with
  | (.error f, w, records) => (.error f, w, records)
  | (.ok a, w, records) =>
    let (result, w, more) := next a w
    (result, w, records ++ more)

/-- Switches the log on if the settings ask for it. -/
def enableLog (d : Daemon) (w : World) : Step Unit :=
  if d.settings.enableLog.getD false then
    match LogFile.enable w d.log with
    | (.error f, w) => (.error f, w, [])
    | (.ok (), w) => (.ok (), w, [note s!"Relation log enabled at {Utf8.lossy d.log}"])
  else (.ok (), w, [])

/-- Lists the library if the settings ask for it. That the library is missing is no
reason to stop. -/
def install (d : Daemon) (w : World) : Step Unit :=
  let preload := d.settings.preload
  if preload.install.getD false then
    let doubt :=
      if w.pathExists preload.library then []
      else
        let text :=
          s!"Preload library {Utf8.lossy preload.library} not found; processes will not report"
        [⟨.warn, source, text⟩]
    let (result, w, records) := PreloadList.ensure w preload.preloadFile preload.library
    (result.map fun _ => (), w, doubt ++ records)
  else (.ok (), w, [])

/-- What a run came to. -/
structure Outcome where
  result : Except Failure Unit
  world : World
  records : List Record
  tracker : Tracker
  /-- The lines printed at the end. -/
  output : List String
  deriving Repr

/-- A run that meets some connections and is then told to stop. -/
def run (d : Daemon) (w : World) (visits : List Visit) : Outcome :=
  let ready :=
    andThen (d.enableLog w) fun _ w => andThen (d.install w) fun _ w => Listener.bind w d.socket
  match ready with
  | (.error f, w, records) => ⟨.error f, w, records, Tracker.empty, []⟩
  | (.ok listener, w, records) =>
    let attended := (Listener.serve Tracker.empty visits).flatMap (·.2)
    let tracker := Listener.served Tracker.empty visits
    ⟨.ok (), listener.close w,
      records ++ [note "Tracking active. Press Ctrl-C to exit."] ++ attended
        ++ [note "Exiting..."],
      tracker, tracker.dump⟩

end Daemon
end Ancestry
