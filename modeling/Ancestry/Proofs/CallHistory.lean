import Ancestry.Proofs.Delivery
import Ancestry.Report.Wrapper
import Ancestry.System.Scene

/-!
# A history of wrapped calls

Processes make wrapped calls one after the other, each with its own ids, error number
and limits, in one world. The log is read before the first call and again after the
last. What the second reading adds to the first is the relations of the calls that were
reported, in the order of the calls: every exec, and every fork that made a process.

The wrapped functions themselves are arbitrary but for what the system promises of them:
they give the process no new ids and leave the log alone. A write that takes less than a
whole line is outside of this, and so is a log that ends in an open line, which the first
report would be joined to.
-/
namespace Ancestry

/-- A wrapped call with the function behind it. -/
inductive Action : Type 1
  | fork (original : Wrapper.Fork)
  | exec {α β : Type} (original : α → Host → β × Host) (arguments : α)

/-- A process keeps its ids, and a path leads to what it led to. -/
structure Spares (path : Bytes) (h next : Host) : Prop where
  parent : next.parent = h.parent
  self : next.self = h.self
  status : next.world.status path = h.world.status path

def Action.Spares (path : Bytes) : Action → Prop
  | fork original => ∀ h, Ancestry.Spares path h (original h).2
  | exec original arguments =>
    ∀ h, (original arguments h).2.world.status path = h.world.status path

structure Call : Type 1 where
  process : Process
  action : Action

namespace Call

/-- The world after a call. -/
def after (r : Reporter) (w : World) (c : Call) : World :=
  match c.action with
  | .fork original => (Wrapper.forkAndReport original r (c.process.host w)).2.world
  | .exec original arguments =>
    (Wrapper.reportAndExecve original r arguments (c.process.host w)).2.world

/-- What there is to report of a call. -/
def relation? (w : World) (c : Call) : Option Relation :=
  match c.action with
  | .fork original =>
    let value := (original (c.process.host w)).1
    if 0 < value then some (.fork c.process.parent c.process.self value) else none
  | .exec .. => some (.exec c.process.parent c.process.self)

/-- The host at the time of the report: a fork is reported when it is over, an exec before
it begins. -/
def reporting (w : World) (c : Call) : Host :=
  match c.action with
  | .fork original => (original (c.process.host w)).2
  | .exec .. => c.process.host w

/-- Whether the line of a call, if it has one, is written whole. -/
def LogsWhole (r : Reporter) (w : World) (c : Call) : Prop :=
  ∀ relation, c.relation? w = some relation → r.LogsWhole relation (c.reporting w)

end Call

namespace CallHistory

/-- The world after some calls. -/
def run (r : Reporter) (w : World) : List Call → World
  | [] => w
  | c :: more => run r (c.after r w) more

/-- What some calls have to report, in their order. -/
def reported (r : Reporter) (w : World) : List Call → List Relation
  | [] => []
  | c :: more => (c.relation? w).toList ++ reported r (c.after r w) more

/-- No line of some calls is cut short. -/
def Uncut (r : Reporter) (w : World) : List Call → Prop
  | [] => True
  | c :: more => c.LogsWhole r w ∧ Uncut r (c.after r w) more

end CallHistory

/-! ## One call -/

theorem ofReturn_of_pos {value : Int32} (positive : 0 < value) :
    Forked.ofReturn value = .parent value := by
  have nonzero : value ≠ 0 := by
    rintro rfl
    exact absurd positive (by decide)
  rw [Forked.ofReturn, if_neg nonzero, if_pos positive]

theorem after_fork_of_pos {r : Reporter} {original : Wrapper.Fork} {h : Host}
    (positive : 0 < (original h).1) :
    (Wrapper.forkAndReport original r h).2 = r.report (some (original h).1) (original h).2 := by
  simp only [Wrapper.forkAndReport, ofReturn_of_pos positive]

theorem after_fork_of_not_pos {r : Reporter} {original : Wrapper.Fork} {h : Host}
    (spent : ¬ 0 < (original h).1) :
    (Wrapper.forkAndReport original r h).2 = (original h).2 := by
  by_cases zero : (original h).1 = 0 <;>
    simp only [Wrapper.forkAndReport, Forked.ofReturn, zero, spent, if_true, if_false]

namespace Call

/-- One call adds its line to the log, if it has one. -/
theorem after_holds {r : Reporter} {w : World} {c : Call} {content : Bytes}
    (there : w.Holds r.log content) (spares : c.action.Spares r.log)
    (whole : c.LogsWhole r w) :
    (c.after r w).Holds r.log
      (content ++ Utf8.encode ((c.relation? w).toList.flatMap Replay.lineOf)) := by
  obtain ⟨process, action⟩ := c
  cases action with
  | fork original =>
    have spared := spares (process.host w)
    have still : (original (process.host w)).2.world.Holds r.log content :=
      there.of_status spared.status
    by_cases positive : 0 < (original (process.host w)).1
    · have told : relation? w ⟨process, .fork original⟩ =
          some (.fork process.parent process.self (original (process.host w)).1) :=
        if_pos positive
      have line := Reporter.deliver_holds still (whole _ told)
      rw [told, after]
      dsimp only
      rw [after_fork_of_pos positive, Reporter.report, spared.parent, spared.self]
      rw [Option.toList_some, List.flatMap_cons, List.flatMap_nil, List.append_nil]
      exact line
    · -- The fork has failed, or this is the new process: nothing is reported.
      have silent : relation? w ⟨process, .fork original⟩ = none := if_neg positive
      rw [silent, after]
      dsimp only
      rw [after_fork_of_not_pos positive, Option.toList_none, List.flatMap_nil, Utf8.encode_nil,
        List.append_nil]
      exact still
  | exec original arguments =>
    have line := Reporter.deliver_holds (h := process.host w) there (whole _ rfl)
    rw [relation?, Option.toList_some, List.flatMap_cons, List.flatMap_nil, List.append_nil]
    exact line.of_status (spares (r.report none (process.host w)))

end Call

/-! ## All calls -/

namespace CallHistory

/-- The log grows by the lines of what is reported. -/
theorem run_holds {r : Reporter} {w : World} {calls : List Call} {content : Bytes}
    (there : w.Holds r.log content) (spare : ∀ c ∈ calls, c.action.Spares r.log)
    (uncut : Uncut r w calls) :
    (run r w calls).Holds r.log
      (content ++ Utf8.encode ((reported r w calls).flatMap Replay.lineOf)) := by
  induction calls generalizing w content with
  | nil =>
    rw [reported, List.flatMap_nil, Utf8.encode_nil, List.append_nil]
    exact there
  | cons c more ih =>
    obtain ⟨first, later⟩ := List.forall_mem_cons.mp spare
    obtain ⟨whole, uncut⟩ := uncut
    have grown := ih (c.after_holds there first whole) later uncut
    rw [reported, List.flatMap_append, Utf8.encode_append, ← List.append_assoc]
    exact grown

/-- Replaying the log after some wrapped calls is replaying it before them and then adding
what they reported. The count of relations grows by as much, and the count of malformed lines
does not change. -/
theorem replay_run (r : Reporter) (w : World) (calls : List Call) (content : Bytes)
    (there : w.Holds r.log content) (isText : ∃ text, Utf8.decode content = .ok text)
    (ended : content = [] ∨ content.getLast? = some LogSink.newline)
    (spare : ∀ c ∈ calls, c.action.Spares r.log) (uncut : Uncut r w calls) (t : Tracker) :
    ∃ before after earlier later,
      LogFile.replay w r.log t = (.ok before, earlier) ∧
      LogFile.replay (run r w calls) r.log t = (.ok after, later) ∧
      later.tracker = earlier.tracker.addAll (reported r w calls) ∧
      after.relations = before.relations + (reported r w calls).length ∧
      after.malformed = before.malformed := by
  obtain ⟨text, decoded⟩ := isText
  obtain rfl := Utf8.decode_eq_ok_iff.mp decoded
  have closed : Text.Ended text := Text.ended_iff.mp ended
  have grown := run_holds there spare uncut
  rw [← Utf8.encode_append] at grown
  obtain ⟨earlier, replayed, tracker⟩ := LogFile.replay_holds there t
  obtain ⟨later, again, tracker'⟩ := LogFile.replay_holds grown t
  refine ⟨_, _, earlier, later, replayed, again, ?_, ?_, ?_⟩
  · rw [tracker', tracker, Replay.relationsIn_grown closed, Tracker.addAll_append]
  · dsimp only
    rw [Replay.relationsIn_grown closed, List.length_append]
  · exact Replay.malformedIn_grown closed _

/-- A bare world with a log of one line. -/
def logged : World :=
  { World.bare with
    files := World.bare.files.set (World.place Reporter.logPath)
      (.file 0o666 (Bytes.ofString "1:2\n")) }

/-- A fork that makes a process, one that fails, and an exec that is refused, by a process
that has little room left in its files and whose listener hangs up early. -/
def sample : List Call :=
  [⟨⟨100, 200, Errno.ofValue 0, Limits.unlimited⟩, .fork fun h => (7, h)⟩,
    ⟨⟨100, 200, Errno.ofValue 0, Limits.unlimited⟩,
      .fork fun h => (-1, { h with errno := h.errno.set 11 })⟩,
    ⟨⟨-2147483648, -1, Errno.ofValue 0, ⟨some 64, false, [.ok 5, .error .brokenPipe]⟩⟩,
      .exec (fun (_ : Unit) h => ((-1 : Int32), { h with errno := h.errno.set 2 })) ()⟩]

theorem replay_run_sample :
    reported .wellKnown logged sample = [.fork 100 200 7, .exec (-2147483648) (-1)] ∧
      ∃ before after earlier later,
        LogFile.replay logged Reporter.wellKnown.log .empty = (.ok before, earlier) ∧
        LogFile.replay (run .wellKnown logged sample) Reporter.wellKnown.log .empty =
          (.ok after, later) ∧
        later.tracker = earlier.tracker.addAll (reported .wellKnown logged sample) ∧
        after.relations = before.relations + (reported .wellKnown logged sample).length ∧
        after.malformed = before.malformed := by
  have there : logged.Holds Reporter.wellKnown.log (Bytes.ofString "1:2\n") :=
    ⟨World.place Reporter.logPath, 0o666, rfl⟩
  have isText : ∃ text, Utf8.decode (Bytes.ofString "1:2\n") = .ok text :=
    ⟨"1:2\n".toList, Utf8.decode_encode _⟩
  have spare : ∀ c ∈ sample, c.action.Spares Reporter.wellKnown.log := by
    simp only [sample, List.forall_mem_cons, List.not_mem_nil, false_implies, implies_true,
      and_true]
    exact ⟨fun _ => ⟨rfl, rfl, rfl⟩, fun _ => ⟨rfl, rfl, rfl⟩, fun _ => rfl⟩
  have uncut : Uncut .wellKnown logged sample := by
    refine ⟨?_, ?_, ?_, trivial⟩
    · rintro _ ⟨⟩
      rfl
    · rintro _ ⟨⟩
    · rintro _ ⟨⟩
      rfl
  exact ⟨rfl, replay_run .wellKnown logged sample _ there isText (.inr rfl) spare uncut .empty⟩

end CallHistory
end Ancestry
