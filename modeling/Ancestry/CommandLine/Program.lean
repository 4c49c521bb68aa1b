import Ancestry.CommandLine.LogFilter
import Ancestry.CommandLine.Tools
import Ancestry.Report.Reporter
import Ancestry.Settings.Loading
import Ancestry.Supervisor.Daemon

/-!
# The program

A run reads the command line and the settings and carries the command out. What it says
about itself goes to the second output, as far as the filter lets it through, and what was
asked for goes to the first. A fault ends the run and is the last thing said.
-/
namespace Ancestry.CommandLine

/-- What the program finds around it. -/
structure Surroundings where
  world : World
  environment : Environment
  /-- Which processes are running. -/
  alive : Pid → Bool
  /-- The time at which an edge is seen first, as it is written. -/
  firstSeen : Edge → String
  /-- The code a run ends with that breaks down, which is up to how the program was built. -/
  panicCode : Nat

/-- How a run ended. -/
structure Exit where
  code : Nat
  stdout : String
  stderr : String
  world : World

/-- What a command came to. -/
structure Result where
  outcome : Except Failure Unit
  output : List String
  records : List Record
  world : World

def source : String := "pidtrack"

/-! ## Commands -/

/-- Replays a log and prints what it says. -/
def replay (tools : Tools) (s : Surroundings) (log : Option Bytes) (pid : Option Pid)
    (asJson : Bool) : Result :=
  let path := log.getD (Bytes.ofString Reporter.logPath)
  match LogFile.replay s.world path .empty with
  | (.error f, r) => ⟨.error f, [], r.records, s.world⟩
  | (.ok stats, r) =>
    let read := s!"Read {stats.relations} relations from {Utf8.lossy path}"
      ++ s!" ({stats.malformed} malformed)"
    let output :=
      match pid, asJson with
      | none, true => [tools.pretty (r.tracker.toJson s.firstSeen)]
      | none, false => r.tracker.dump
      | some p, true => [tools.pretty (r.tracker.reportJson s.alive p)]
      | some p, false => r.tracker.reportLines s.alive p
    ⟨.ok (), output, r.records ++ [⟨.info, source, read⟩], s.world⟩

/-- Adds a library to the list of those that are loaded with every program. -/
def install (w : World) (settings : PreloadSettings) (library : Option Bytes) : Result :=
  let library := library.getD settings.library
  let (result, w, records) := PreloadList.ensure w settings.preloadFile library
  match result with
  | .error f => ⟨.error f, [], records, w⟩
  | .ok changed =>
    let line :=
      if changed then s!"Added {Utf8.lossy library} to {Utf8.lossy settings.preloadFile}"
      else s!"{Utf8.lossy library} already preloaded"
    ⟨.ok (), [line], records, w⟩

/-- Listens at the well-known places to those who come until it is told to stop. -/
def listen (w : World) (settings : Settings) (visits : List Visit) : Result :=
  let d : Daemon :=
    ⟨settings, Bytes.ofString Reporter.socketPath, Bytes.ofString Reporter.logPath⟩
  let outcome := d.run w visits
  ⟨outcome.result, outcome.output, outcome.records, outcome.world⟩

def carryOut (tools : Tools) (s : Surroundings) (settings : Settings) (visits : List Visit) :
    Command → Result
  | .listen => listen s.world settings visits
  | .replay log pid asJson => replay tools s log pid asJson
  | .install library => install s.world settings.preload library

/-! ## Output -/

/-- Lines after the first, moved right. -/
def hung (text : String) : String := Failure.hang "    " text

/-- A record as it is shown. -/
def shownRecord (r : Record) : String :=
  let level := r.level.name ++ String.ofList (List.replicate (5 - r.level.name.length) ' ')
  s!"[{level} {r.source}] " ++ hung r.text

def lines (ls : List String) : String := String.join (ls.map (· ++ "\n"))

/-- The variable that says which records are shown. -/
def filterVariable : String := "RUST_LOG"

/-- The filter of a run, with complaints about it. -/
def filterOf (env : Environment) (isVerbose : Bool) : LogFilter × List String :=
  LogFilter.read ((env.text? filterVariable).getD (if isVerbose then "info" else "warn"))

/-- The end of a run that failed before its command. -/
def failed (w : World) (code : Nat) (said : List String) : Exit := ⟨code, "", lines said, w⟩

/-- How a fault is shown that ends a run. -/
def finalWord (text : String) : String := "Error: " ++ text

/-! ## Runs -/

/-- A run whose command line is understood. -/
def perform (tools : Tools) (s : Surroundings) (visits : List Visit) (i : Invocation) : Exit :=
  let (filter, complaints) := filterOf s.environment i.isVerbose
  let shown (rs : List Record) : List String := (rs.filter filter.shows).map shownRecord
  match Settings.load tools.settings s.world s.environment i.config with
  | .error .breakdown => failed s.world s.panicCode complaints
  | .error fault => failed s.world 1 (complaints ++ [finalWord fault.describe])
  | .ok (settings, notes) =>
    let result := carryOut tools s settings visits i.command
    let said := complaints ++ shown (notes ++ result.records)
    match result.outcome with
    | .error f => ⟨1, lines result.output, lines (said ++ [finalWord f.report]), result.world⟩
    | .ok () => ⟨0, lines result.output, lines said, result.world⟩

/-- A run of the program. Only listening meets anyone. -/
def run (tools : Tools) (s : Surroundings) (visits : List Visit) (args : List Bytes) : Exit :=
  match tools.understand (s.environment.lookup configVariable) args with
  | .error refusal => failed s.world refusal.code [refusal.text]
  | .ok i => perform tools s visits i

end Ancestry.CommandLine
