import Ancestry.CommandLine.Program
import Ancestry.Proofs.BadLines
import Ancestry.Proofs.LineByLine
import Ancestry.Proofs.ReplayArguments
import Ancestry.Proofs.TrackerViews
import Ancestry.System.Scene

/-!
# What a replay prints

A replay that is asked for on the command line prints what the tracker of the log answers: all
families, or three lists about one process, as lines or as JSON. The JSON text can be read back, and
what is read is what the tracker says.

Nothing is printed before the settings and the whole log have been read. A run that cannot read them
prints nothing, and no run touches a file. A fault of the settings ends it with the code of a
failure, unless the program breaks down over them.
-/
namespace Ancestry

namespace Tracker

/-- What is told about one process. -/
structure Kin where
  pid : Pid
  descendants : List Pid
  adopted : List Pid
  alive : List Pid
  deriving Repr, DecidableEq

/-- What a tracker tells, given which processes run. -/
def kin (alive : Pid → Bool) (t : Tracker) (p : Pid) : Kin :=
  ⟨p, t.descendants p, t.adopted p, (t.descendants p).filter alive⟩

/-- The three lines about a process. -/
def Kin.lines (k : Kin) : List (List Char) :=
  ["descendants: ".toList ++ listChars k.descendants, "adopted:     ".toList ++ listChars k.adopted,
    "alive:       ".toList ++ listChars k.alive]

def pid? : Json → Option Pid
  | .int v => if (Int32.ofInt v).toInt = v then some (Int32.ofInt v) else none
  | _ => none

def pids? : Json → Option (List Pid)
  | .arr items => items.mapM pid?
  | _ => none

/-- What a JSON object tells about a process, in whatever order its fields are. -/
def kin? : Json → Option Kin
  | .obj fields => do
    let pid ← pid? (← fields.lookup "pid")
    let descendants ← pids? (← fields.lookup "descendants")
    let adopted ← pids? (← fields.lookup "adopted")
    let alive ← pids? (← fields.lookup "alive")
    return ⟨pid, descendants, adopted, alive⟩
  | _ => none

end Tracker

namespace CommandLine

/-- Lines as they are printed, each with its newline. -/
def printed (lines : List (List Char)) : List Char := lines.flatMap (· ++ ['\n'])

/-- A text shows what a tracker says, of one process or of all, in the form that is asked for. -/
def Shows (alive : Pid → Bool) (t : Tracker) (text : String) : Option Pid → Bool → Prop
  | none, false => text.toList = printed (t.dump.map String.toList)
  | none, true => (Json.read text).bind Tracker.families? = some t.snapshot
  | some p, false => text.toList = printed (t.kin alive p).lines
  | some p, true => (Json.read text).bind Tracker.kin? = some (t.kin alive p)

/-- The tracker that a log of text is folded into. -/
def folded (log : List Char) : Tracker :=
  Tracker.empty.addAll (Replay.relationsOf (Replay.visible 1 (Text.textLines log)))

/-- How a run that is to replay a log has to end. -/
structure Replayed (b : Settings.Backend) (s : Surroundings) (config : Option Bytes) (log : Bytes)
    (pid : Option Pid) (asJson : Bool) (exit : Exit) : Prop where
  untouched : exit.world = s.world
  shown : ∀ settings data cs, Settings.load b s.world s.environment config = .ok settings →
    s.world.Holds log data → Utf8.decode data = .ok cs →
      exit.code = 0 ∧ Shows s.alive (folded cs) exit.stdout pid asJson
  unread : ∀ settings e, Settings.load b s.world s.environment config = .ok settings →
    s.world.readText log = .error e → exit.code = 1 ∧ exit.stdout = ""
  -- A breakdown does not come back as an error that the run could end with.
  unsettled : ∀ fault, Settings.load b s.world s.environment config = .error fault →
    exit.code = (if fault = .breakdown then s.panicCode else 1) ∧ exit.stdout = ""

end CommandLine

/-! ## Text -/

namespace Tracker

theorem toList_reportLines (alive : Pid → Bool) (t : Tracker) (p : Pid) :
    (t.reportLines alive p).map String.toList = (t.kin alive p).lines := by
  simp only [reportLines, Kin.lines, kin, live, List.map_cons, List.map_nil, String.toList_append,
    toList_listText]

/-! ## JSON -/

theorem pid?_int (p : Pid) : pid? (.int p.toInt) = some p := by
  simp [pid?]

theorem pids?_arr (ps : List Pid) : pids? (.arr (ps.map fun p => .int p.toInt)) = some ps :=
  mapM_map pid?_int ps

theorem kin?_reportJson (alive : Pid → Bool) (t : Tracker) (p : Pid) :
    kin? (t.reportJson alive p) = some (t.kin alive p) := by
  simp [kin?, reportJson, List.lookup_cons, pids?_arr, pid?_int, kin, live]

end Tracker

/-! ## The log -/

namespace Replay

/-- A log that is read to its end is text as a whole. -/
theorem isText_of_readable (data : Bytes) (readable : Readable data) : Utf8.IsText data := by
  by_cases more : (10 : UInt8) ∈ data
  · obtain ⟨line, after, cut, single⟩ := List.eq_append_cons_of_mem more
    have shorter : after.length < data.length := by
      simp +arith [cut]
    rw [Readable, cut, Text.lines_cons single] at readable
    obtain ⟨first, rest⟩ := List.forall_mem_cons.mp readable
    obtain ⟨cs, read⟩ := Utf8.isText_of_dropFinalReturn first
    obtain ⟨ds, others⟩ := isText_of_readable after rest
    rw [Utf8.decode_eq_ok_iff] at read others
    have whole : data = Utf8.encode (cs ++ '\n' :: ds) := by
      rw [cut, Utf8.encode_append, Utf8.encode_cons, ← read, ← others]
      rfl
    exact ⟨_, Utf8.decode_eq_ok_iff.mpr whole⟩
  · by_cases empty : data = []
    · exact ⟨[], by rw [empty, Utf8.decode_eq_ok_iff]; rfl⟩
    · have one : Text.lines data = [data] := by
        rw [Text.lines_eq, Text.pieces_of_not_mem more]
        simp [empty]
      exact readable data (by rw [one]; exact List.mem_cons_self)
termination_by data.length

end Replay

namespace LogFile
variable {w : World} {path : Bytes}

/-- A replay fails on all that cannot be read as text. -/
theorem replay_unread {e : IoError} (unread : w.readText path = .error e) (t : Tracker) :
    ∃ f, (replay w path t).1 = .error f := by
  cases opened : w.openRead path with
  | error e =>
    simp only [replay, opened, Failure.during]
    exact ⟨_, rfl⟩
  | ok node =>
    cases content : World.contentOf node with
    | error e =>
      simp only [replay, opened, Failure.during, content]
      exact ⟨_, rfl⟩
    | ok data =>
      have stops : ¬ Replay.Readable data := by
        intro readable
        obtain ⟨cs, text⟩ := Replay.isText_of_readable data readable
        simp only [World.readText, World.read, opened, content, text] at unread
        cases unread
      have failed := Replay.read_malformedText stops t
      simp only [replay, opened, Failure.during, content, failed]
      exact ⟨_, rfl⟩

end LogFile

/-! ## Output -/

namespace CommandLine

theorem toList_lines (ls : List String) : (lines ls).toList = printed (ls.map String.toList) := by
  rw [lines, String.toList_join, printed, List.flatMap_map, List.flatMap_map]
  exact List.flatMap_congr fun l _ => String.toList_append

theorem lines_singleton (text : String) : lines [text] = text ++ "\n" := by
  rw [← String.toList_inj, toList_lines, String.toList_append]
  exact List.flatMap_singleton ..

variable {tools : Tools} {s : Surroundings} {log : Bytes}

/-- What a replay prints about the tracker it has made. -/
def output (tools : Tools) (s : Surroundings) (t : Tracker) : Option Pid → Bool → List String
  | none, true => [tools.pretty (t.toJson s.firstSeen)]
  | none, false => t.dump
  | some p, true => [tools.pretty (t.reportJson s.alive p)]
  | some p, false => t.reportLines s.alive p

/-- A JSON value that is printed can be read back. -/
theorem read_printed (lawful : tools.Lawful) (j : Json) :
    Json.read (lines [tools.pretty j]) = some j := by
  rw [lines_singleton]
  exact Json.read_line (lawful.pretty j)

theorem shows_output (lawful : tools.Lawful) (s : Surroundings) (t : Tracker) (pid : Option Pid)
    (asJson : Bool) : Shows s.alive t (lines (output tools s t pid asJson)) pid asJson := by
  cases pid with
  | none =>
    cases asJson with
    | false => exact toList_lines t.dump
    | true =>
      rw [Shows, output, read_printed lawful, Option.bind_some, Tracker.families?_toJson]
  | some p =>
    cases asJson with
    | false =>
      rw [Shows, output, toList_lines, Tracker.toList_reportLines]
    | true =>
      rw [Shows, output, read_printed lawful, Option.bind_some, Tracker.kin?_reportJson]

/-! ## The command -/

/-- A log of text is replayed, and what it is folded into is printed. -/
theorem replay_of_holds (tools : Tools) {data : Bytes} {cs : List Char}
    (there : s.world.Holds log data) (text : Utf8.decode data = .ok cs) (pid : Option Pid)
    (asJson : Bool) :
    (replay tools s (some log) pid asJson).outcome = .ok () ∧
      (replay tools s (some log) pid asJson).output = output tools s (folded cs) pid asJson := by
  obtain rfl := Utf8.decode_eq_ok_iff.mp text
  obtain ⟨state, replayed, tracker⟩ := LogFile.replay_holds there .empty
  rw [Replay.relationsIn_eq 1] at tracker
  have known : state.tracker = folded cs := tracker
  cases pid <;> cases asJson <;>
    simp only [replay, Option.getD_some, replayed, output, known, and_self]

theorem replay_of_unread (tools : Tools) {e : IoError} (unread : s.world.readText log = .error e)
    (pid : Option Pid) (asJson : Bool) :
    (∃ f, (replay tools s (some log) pid asJson).outcome = .error f) ∧
      (replay tools s (some log) pid asJson).output = [] := by
  obtain ⟨f, failed⟩ := LogFile.replay_unread unread .empty
  cases result : LogFile.replay s.world log .empty with
  | mk outcome state =>
    rw [result] at failed
    obtain rfl : outcome = .error f := failed
    simp only [replay, Option.getD_some, result]
    exact ⟨⟨f, rfl⟩, trivial⟩

theorem replay_world (s : Surroundings) (log : Bytes) (pid : Option Pid) (asJson : Bool) :
    (replay tools s (some log) pid asJson).world = s.world := by
  rw [replay]
  split <;> rfl

theorem perform_of_fault (visits : List Visit) (i : Invocation) {fault : Settings.Fault}
    (failed : Settings.load tools.settings s.world s.environment i.config = .error fault) :
    (perform tools s visits i).world = s.world ∧
      (perform tools s visits i).code = (if fault = .breakdown then s.panicCode else 1) ∧
      (perform tools s visits i).stdout = "" := by
  cases fault <;> simp only [perform, failed] <;> exact ⟨rfl, rfl, rfl⟩

/-- With settings it is the command that decides how the run ends. -/
theorem perform_of_load (visits : List Visit) (i : Invocation) {loaded : Settings × List Record}
    (settled : Settings.load tools.settings s.world s.environment i.config = .ok loaded) :
    (perform tools s visits i).world = (carryOut tools s loaded.1 visits i.command).world ∧
      (perform tools s visits i).stdout =
        lines (carryOut tools s loaded.1 visits i.command).output ∧
      (perform tools s visits i).code =
        if (carryOut tools s loaded.1 visits i.command).outcome.isOk then 0 else 1 := by
  obtain ⟨settings, notes⟩ := loaded
  simp only [perform, settled]
  generalize carryOut tools s settings visits i.command = result
  obtain ⟨outcome, output, records, world⟩ := result
  cases outcome <;> exact ⟨rfl, rfl, rfl⟩

/-- A command line that is understood as that of a replay is carried out like that. -/
theorem replayed_perform (lawful : tools.Lawful) (s : Surroundings) (visits : List Visit)
    (isVerbose : Bool) (config : Option Bytes) (log : Bytes) (pid : Option Pid) (asJson : Bool) :
    Replayed tools.settings s config log pid asJson
      (perform tools s visits ⟨isVerbose, config, .replay (some log) pid asJson⟩) := by
  let i : Invocation := ⟨isVerbose, config, .replay (some log) pid asJson⟩
  change Replayed tools.settings s config log pid asJson (perform tools s visits i)
  have command (settings : Settings) :
      carryOut tools s settings visits i.command = replay tools s (some log) pid asJson := rfl
  refine ⟨?_, ?_, ?_, fun fault failed => (perform_of_fault visits i failed).2⟩
  · cases settled : Settings.load tools.settings s.world s.environment config with
    | error fault => exact (perform_of_fault visits i settled).1
    | ok loaded =>
      obtain ⟨world, -⟩ := perform_of_load visits i settled
      rw [world, command, replay_world]
  · intro loaded data cs settled there text
    obtain ⟨-, stdout, code⟩ := perform_of_load visits i settled
    obtain ⟨outcome, printed⟩ := replay_of_holds tools there text pid asJson
    rw [code, stdout, command, outcome, printed]
    exact ⟨rfl, shows_output lawful s (folded cs) pid asJson⟩
  · intro loaded e settled unread
    obtain ⟨-, stdout, code⟩ := perform_of_load visits i settled
    obtain ⟨⟨f, outcome⟩, nothing⟩ := replay_of_unread tools unread pid asJson
    rw [code, stdout, command, outcome, nothing]
    exact ⟨rfl, rfl⟩

/-- However a replay is asked for, the run shows what the tracker of the log says and touches
nothing, or it ends with an error and shows nothing. A plain command line asks for just what stands
in it if its values can be told from options and are not empty, and is refused if not. -/
theorem replay_shows (lawful : tools.Lawful) (s : Surroundings) (visits : List Visit) :
    let fallback := s.environment.lookup configVariable
    (∀ args isVerbose config log pid asJson,
      tools.understand fallback args = .ok ⟨isVerbose, config, .replay (some log) pid asJson⟩ →
        Replayed tools.settings s config log pid asJson (run tools s visits args)) ∧
    (∀ l : ReplayLine, l.Clear → fallback ≠ some [] →
      Replayed tools.settings s fallback l.log (l.pid.map (·.1)) l.asJson
        (run tools s visits l.args)) ∧
    ∀ l : ReplayLine, ¬ (l.Clear ∧ fallback ≠ some []) →
      (run tools s visits l.args).code = 2 ∧ (run tools s visits l.args).stdout = "" ∧
        (run tools s visits l.args).world = s.world := by
  intro fallback
  have understood : ∀ args isVerbose config log pid asJson,
      tools.understand fallback args = .ok ⟨isVerbose, config, .replay (some log) pid asJson⟩ →
        Replayed tools.settings s config log pid asJson (run tools s visits args) := by
    intro args isVerbose config log pid asJson read
    rw [run, read]
    exact replayed_perform lawful s visits isVerbose config log pid asJson
  refine ⟨understood, fun l clear unnamed => ?_, fun l unclear => ?_⟩
  · exact understood _ _ _ _ _ _ (lawful.understands clear unnamed)
  · obtain ⟨text, refused⟩ := lawful.refuses unclear
    rw [run, refused]
    exact ⟨rfl, rfl, rfl⟩

/-- A bare world with a log that tells of a negative pid. -/
def odd : World :=
  { World.bare with
    files := World.bare.files.set (World.place "/tmp/work/l")
      (.file 0o666 (Bytes.ofString "-7:5\n")) }

/-- Nobody runs around it. -/
def oddly (environment : Environment) : Surroundings :=
  ⟨odd, environment, fun _ => false, fun _ => "T", 101⟩

/-- A negative pid in the argument of its option is understood, and its line is printed. -/
theorem replay_shows_odd :
    let line : ReplayLine := ⟨Bytes.ofString "l", .apart, some (-7, .attached), false⟩
    Tools.standard.Lawful ∧
      line.args = ["replay", "--log", "l", "--pid=-7"].map Bytes.ofString ∧
      (run .standard (oddly []) [] line.args).code = 0 ∧
      (run .standard (oddly []) [] line.args).stdout.toList =
        printed ((folded "-7:5\n".toList).kin (fun _ => false) (-7)).lines := by
  intro line
  have clear : line.Clear := by
    refine ⟨by decide, fun _ b rest looks => ?_, fun p asked => ?_⟩
    · cases looks
    · cases asked
  have settled : (Settings.load .standard odd [] none).isOk = true := by decide +kernel
  have there : odd.Holds line.log (Utf8.encode "-7:5\n".toList) := ⟨_, _, rfl⟩
  obtain ⟨-, shown, -⟩ := replay_shows Tools.standard_lawful (oddly []) []
  have replayed := shown line clear nofun
  cases loaded : Settings.load .standard odd [] none with
  | error fault => rw [loaded] at settled; cases settled
  | ok result =>
    obtain ⟨code, text⟩ := replayed.shown result _ _ loaded there (Utf8.decode_encode _)
    exact ⟨Tools.standard_lawful, by decide +kernel, code, text⟩

/-- A negative pid in an argument of its own is taken for an option, though settings and log can be
read. An environment that is no text breaks the program down, and the run does not end as one that
failed. -/
theorem negative_pid_refused :
    let log := Bytes.ofString "l"
    let line : ReplayLine := ⟨log, .apart, some (-7, .apart), false⟩
    let broken : Environment := [("A", [0xff])]
    (Settings.load .standard odd [] none).isOk = true ∧
    odd.Holds log (Utf8.encode "-7:5\n".toList) ∧
    line.args = ["replay", "--log", "l", "--pid", "-7"].map Bytes.ofString ∧
    (run .standard (oddly []) [] line.args).code = 2 ∧
    (run .standard (oddly []) [] line.args).stdout = "" ∧
    Settings.load .standard odd broken none = .error .breakdown ∧
    (run .standard (oddly broken) [] (["replay", "--log", "l"].map Bytes.ofString)).code = 101 := by
  refine ⟨by decide +kernel, ⟨_, _, rfl⟩, by decide +kernel, by decide +kernel, by decide +kernel,
    by decide +kernel, by decide +kernel⟩

end CommandLine
end Ancestry
