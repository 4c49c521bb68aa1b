import Std.Time.Format
import Ancestry.CommandLine.Program
import Ancestry.CommandLine.Standard

/-!
# The command

The files a run may look at are read beforehand, the run is computed, and what it changed
in files is written back. Messages for a listening run come from the standard input, one to
a line, and the end of the input is the signal to stop.
-/
namespace Ancestry.Main
open CommandLine (Tools)

/-- What is at a path: a file or a directory, links followed. -/
def lookAt (path : String) : IO (Option Node) := do
  try
    let content ← IO.FS.readBinFile path
    return some (.file 0o644 content.toList)
  catch
  | .inappropriateType _ 21 _ => return some (.directory 0o755)
  | _ => return none

def shownPath (loc : Location) : String := Utf8.lossy (Path.slash :: Settings.joined loc)

/-- Takes what is at a place into a world, with the directories on the way to it. -/
def takeIn (w : World) (done : Location) : List Name → IO World
  | [] => return w
  | name :: rest => do
    if name = Path.dotDot then takeIn w done.dropLast rest
    else
      let loc := done ++ [name]
      match w.files.get? loc with
      | some _ => takeIn w loc rest
      | none =>
        match ← lookAt (shownPath loc) with
        | some node => takeIn { w with files := w.files.set loc node } loc rest
        | none => return w

/-- Takes what is at a path into a world. -/
def takeInPath (w : World) (path : Bytes) : IO World :=
  takeIn w [] (Settings.wayTo w.directory path)

/-- The files that settings can come from. -/
def settingsFiles (w : World) (file : Option Bytes) : List Bytes :=
  let way := Settings.wayTo w.directory (file.getD (Bytes.ofString Settings.defaultFile))
  let files := way :: Settings.endings.filterMap (Settings.extended way)
  let variableFiles := (List.range (w.directory.length + 1)).map fun n =>
    w.directory.take n ++ [DotEnv.fileName]
  (files ++ variableFiles).map fun way => Path.slash :: Settings.joined way

/-- The files that a command works on. -/
def commandFiles (settings : Settings) : CommandLine.Command → List Bytes
  | .listen =>
    [Bytes.ofString Reporter.logPath, Bytes.ofString Reporter.socketPath,
      settings.preload.library, settings.preload.preloadFile]
  | .replay log _ _ => [log.getD (Bytes.ofString Reporter.logPath)]
  | .install _ => [settings.preload.preloadFile]

/-- The world as far as a run can see it. -/
def survey (env : Environment) (args : List Bytes) : IO World := do
  let directory := Path.names (Bytes.ofString (← IO.currentDir).toString)
  let w ← takeIn ⟨⟨[]⟩, directory, [], 0, [], []⟩ [] directory
  match Tools.standard.understand (env.lookup CommandLine.configVariable) args with
  | .error _ => return w
  | .ok i =>
    let w ← (settingsFiles w i.config).foldlM takeInPath w
    match Settings.load .standard w env i.config with
    | .error _ => return w
    | .ok (settings, _) => (commandFiles settings i.command).foldlM takeInPath w

/-- The variables of this process. -/
def processVariables : IO Environment := do
  let bytes ← IO.FS.readBinFile "/proc/self/environ"
  return (Text.pieces (· = 0) bytes.toList).filterMap fun entry => do
    let name ← Utf8.text? (entry.takeWhile (· ≠ CommandLine.Reading.equalsSign))
    return (name, (entry.dropWhile (· ≠ CommandLine.Reading.equalsSign)).drop 1)

/-- Those of the processes in the log of a run that are running. -/
def running (w : World) (env : Environment) (args : List Bytes) : IO (List Pid) := do
  match Tools.standard.understand (env.lookup CommandLine.configVariable) args with
  | .ok ⟨_, _, .replay log (some _) _⟩ =>
    let path := log.getD (Bytes.ofString Reporter.logPath)
    let (_, r) := LogFile.replay w path .empty
    (r.tracker.edges.map (·.child)).filterM fun p => do
      return (← lookAt s!"/proc/{p}/stat").isSome
  | _ => return []

/-- The messages of a listening run. -/
partial def messages (input : IO.FS.Stream) : IO (List Visit) := do
  let line ← input.getLine
  if line.isEmpty then return []
  let visit : Visit := ⟨none, ⟨[Bytes.ofString line], false⟩⟩
  return visit :: (← messages input)

def visits (env : Environment) (args : List Bytes) : IO (List Visit) := do
  match Tools.standard.understand (env.lookup CommandLine.configVariable) args with
  | .ok ⟨_, _, .listen⟩ => messages (← IO.getStdin)
  | _ => return []

/-- Writes back what a run has changed in files. -/
def writeBack (before after : World) : IO Unit :=
  after.files.entries.forM fun (loc, node) => do
    match before.files.get? loc, node with
    | some (.file old content), .file mode changed =>
      if content ≠ changed then
        let h ← IO.FS.Handle.mk (shownPath loc) .append
        h.write ⟨(changed.drop content.length).toArray⟩
      if old ≠ mode then openToAll loc
    | none, .file mode content =>
      IO.FS.writeBinFile (shownPath loc) ⟨content.toArray⟩
      if mode = LogFile.openToAll then openToAll loc
    | _, _ => return
where
  openToAll (loc : Location) : IO Unit :=
    let right : IO.AccessRight := { read := true, write := true }
    IO.setAccessRights (shownPath loc) { user := right, group := right, other := right }

/-- The time, as it is written. -/
def timeText : IO String := do
  let zone := Std.Time.TimeZone.ZoneRules.UTC
  let now := Std.Time.DateTime.ofTimestamp (← Std.Time.Timestamp.now) zone
  return now.format "uuuu-MM-dd'T'HH:mm:ss.SSSSSSSSS'Z'"

/-- The code of a run that breaks down. -/
def panicCode : Nat := 101

/-- One run: gives its exit code. -/
def run (args : List Bytes) : IO UInt32 := do
  let env ← processVariables
  let w ← survey env args
  let alive ← running w env args
  let now ← timeText
  let around : CommandLine.Surroundings :=
    ⟨w, env, fun p => p ∈ alive, fun _ => now, panicCode⟩
  let exit := CommandLine.run .standard around (← visits env args) args
  writeBack w exit.world
  (← IO.getStdout).putStr exit.stdout
  (← IO.getStderr).putStr exit.stderr
  return exit.code.toUInt32

end Ancestry.Main

def main (args : List String) : IO UInt32 :=
  Ancestry.Main.run (args.map Ancestry.Bytes.ofString)
