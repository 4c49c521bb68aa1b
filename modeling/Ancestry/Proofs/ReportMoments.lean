import Ancestry.Proofs.ChannelAgreement
import Ancestry.Proofs.IndependentSinks
import Ancestry.Proofs.TornLines

/-!
# When reports are made, and how often

An exec is reported before it begins, since it does not come back if it succeeds. A fork is
reported when it is over, by the process that has made a new one, and not at all where it failed
or in the new process itself. Each report reaches the log and the listener once: the log
gets as much of the line as its file may still take, and the listener, if one answers, one
connection with as much of the payload as is taken. Between a report and the function it is about
nothing else happens.

The functions behind the calls may do anything, to the sinks too. What a whole history adds
to a sink can be told as one sum only if they leave that sink alone.
-/
namespace Ancestry
open World

/-- A wrapped function leaves a part of the world as it is. -/
def Action.Leaves {α : Type} (part : World → α) : Action → Prop
  | fork original => ∀ h, part (original h).2.world = part h.world
  | exec original arguments => ∀ h, part (original arguments h).2.world = part h.world

/-- A relation that is reported, and by whom and where. -/
structure Notice where
  relation : Relation
  limits : Limits
  world : World

namespace Notice

def line (n : Notice) : Bytes := n.relation.encode ++ [LogSink.newline]

/-- How far the log may grow by the process that reports. -/
def allowance (r : Reporter) (n : Notice) : Option Nat := n.limits.allowance n.world r.log

def attempt (r : Reporter) (n : Notice) : Attempt := ⟨n.relation, n.allowance r⟩

/-- As much of the payload as the calls that send it take. -/
def sent (n : Notice) : Bytes :=
  (SocketSink.transmit n.limits.sends n.relation.encode).accepted

/-- What arrives for a report. -/
def arrivals (r : Reporter) (n : Notice) : List Delivery :=
  (n.world.answering n.limits.descriptorsUsedUp r.socket).toList.map (⟨·, n.sent⟩)

end Notice

/-- From the world of a notice to another one, both sinks were told once, and nothing else
happened. -/
structure Reported (r : Reporter) (n : Notice) (v : World) : Prop where
  line : ∀ loc mode content, n.world.status r.log = .ok (loc, .file mode content) →
    v.files.get? loc =
      some (.file mode (content ++ front (n.allowance r) content.length n.line))
  elsewhere : ∀ loc, (∀ mode content, n.world.status r.log ≠ .ok (loc, .file mode content)) →
    v.files.get? loc = n.world.files.get? loc
  payload : v.deliveries = n.world.deliveries ++ n.arrivals r
  directory : v.directory = n.world.directory
  listening : v.listening = n.world.listening
  endpoints : v.endpoints = n.world.endpoints
  obstacles : v.obstacles = n.world.obstacles

/-- How a call goes, with what is reported on the way. -/
inductive Call.Unfolds (r : Reporter) (w : World) : Call → List Notice → World → Prop
  | exec {α β : Type} {p : Process} {original : α → Host → β × Host} {arguments : α}
      {begun : World} :
      Reported r ⟨.exec p.parent p.self, p.limits, w⟩ begun →
      Unfolds r w ⟨p, .exec original arguments⟩ [⟨.exec p.parent p.self, p.limits, w⟩]
        (original arguments (p.host begun)).2.world
  | parent {p : Process} {original : Wrapper.Fork} {value : Int32} {left : Host} {told : World} :
      original (p.host w) = (value, left) → 0 < value →
      Reported r ⟨.fork left.parent left.self value, left.limits, left.world⟩ told →
      Unfolds r w ⟨p, .fork original⟩ [⟨.fork left.parent left.self value, left.limits, left.world⟩]
        told
  | silent {p : Process} {original : Wrapper.Fork} {value : Int32} {left : Host} :
      original (p.host w) = (value, left) → ¬ 0 < value →
      Unfolds r w ⟨p, .fork original⟩ [] left.world

namespace CallHistory

/-- How some calls go one after the other, with all that is reported, in its order. -/
inductive Unfolds (r : Reporter) : World → List Call → List Notice → World → Prop
  | done (w : World) : Unfolds r w [] [] w
  | call {w u v : World} {c : Call} {calls : List Call} {first later : List Notice} :
      c.Unfolds r w first u → Unfolds r u calls later v →
      Unfolds r w (c :: calls) (first ++ later) v

end CallHistory

/-! ## One report -/

theorem Reporter.deliver_reported (r : Reporter) (relation : Relation) (h : Host) :
    Reported r ⟨relation, h.limits, h.world⟩ (r.deliver relation h).world := by
  rw [deliver_world_eq]
  refine ⟨fun loc mode content found => ?_, fun loc apart => ?_, ?_, rfl, rfl, rfl, rfl⟩
  · dsimp only
    rw [pathExists_of_status found, if_pos rfl]
    exact h.limits.writeLine_get?_self _ found
  · dsimp only
    split
    · exact h.limits.writeLine_get?_ne _ apart
    · rfl
  · dsimp only [Notice.arrivals]
    split
    · exact SocketSink.send_deliveries _ _ _ _ _
    · rename_i absent
      have silent : h.world.answering h.limits.descriptorsUsedUp r.socket = none := by
        rw [Option.eq_none_iff_forall_ne_some]
        intro endpoint found
        obtain ⟨⟨⟨loc, mode, there⟩, -⟩, -⟩ := answering_eq_some.mp found
        exact absent (pathExists_of_status there)
      rw [silent, Option.toList_none, List.map_nil, List.append_nil]

namespace Reported
variable {r : Reporter} {n : Notice} {v : World}

theorem sameScene (told : Reported r n v) : SameScene n.world v := by
  refine ⟨fun loc => ?_, told.directory, told.listening, told.obstacles⟩
  by_cases grows : ∃ mode content, n.world.status r.log = .ok (loc, .file mode content)
  · obtain ⟨mode, content, found⟩ := grows
    rw [told.line loc mode content found, status_found found]
    rfl
  · rw [told.elsewhere loc fun mode content found => grows ⟨mode, content, found⟩]

theorem holds (told : Reported r n v) {content : Bytes} (there : n.world.Holds r.log content) :
    v.Holds r.log (content ++ Utf8.encode ((n.attempt r).written content.length).inLog) := by
  obtain ⟨loc, mode, found⟩ := there
  have grown := told.line loc mode content found
  have fits : front (n.allowance r) content.length n.line =
      Utf8.encode ((n.attempt r).written content.length).inLog :=
    (n.attempt r).front_line content.length
  exact ⟨loc, mode, fits ▸ told.sameScene.status_eq found grown⟩

end Reported

/-! ## One call -/

/-- The wrapped calls are reported at the right moment, whatever is behind them. -/
theorem Call.unfolds_after (r : Reporter) (w : World) (c : Call) :
    ∃ notices, c.Unfolds r w notices (c.after r w) := by
  obtain ⟨p, action⟩ := c
  cases action with
  | fork original =>
    rw [after]
    dsimp only
    by_cases positive : 0 < (original (p.host w)).1
    · rw [after_fork_of_pos positive]
      exact ⟨_, .parent rfl positive (r.deliver_reported _ _)⟩
    · rw [after_fork_of_not_pos positive]
      exact ⟨_, .silent rfl positive⟩
  | exec original arguments =>
    -- The function begins as the caller is, in the world that the report has left.
    have begun : r.report none (p.host w) = p.host (r.report none (p.host w)).world :=
      r.deliver_eq _ _
    rw [after]
    dsimp only
    rw [Wrapper.reportAndExecve, begun]
    exact ⟨_, .exec (r.deliver_reported _ (p.host w))⟩

theorem Action.Leaves.fork {α : Type} {part : World → α} {original : Wrapper.Fork} {h left : Host}
    {value : Int32} (leaves : (Action.fork original).Leaves part)
    (forked : original h = (value, left)) : part left.world = part h.world := by
  have spared := leaves h
  rw [forked] at spared
  exact spared

namespace Call.Unfolds
variable {r : Reporter} {w v : World} {c : Call} {notices : List Notice}

theorem deliveries (unfolds : c.Unfolds r w notices v)
    (leaves : c.action.Leaves (·.deliveries)) :
    v.deliveries = w.deliveries ++ notices.flatMap (·.arrivals r) := by
  cases unfolds with
  | @exec α β p original arguments begun told =>
    have spared : (original arguments (p.host begun)).2.world.deliveries = begun.deliveries :=
      leaves (p.host begun)
    rw [spared, List.flatMap_singleton]
    exact told.payload
  | parent forked positive told =>
    rw [told.payload, List.flatMap_singleton, leaves.fork forked]
    rfl
  | silent forked spent =>
    rw [List.flatMap_nil, List.append_nil]
    exact leaves.fork forked

theorem holds (unfolds : c.Unfolds r w notices v) (leaves : c.action.Leaves (·.status r.log))
    {content : Bytes} (there : w.Holds r.log content) :
    v.Holds r.log
      (content ++ Utf8.encode
        ((Attempt.allWritten content.length (notices.map (·.attempt r))).flatMap
          Written.inLog)) := by
  cases unfolds with
  | @exec α β p original arguments begun told =>
    have grown := told.holds there
    simp only [List.map_cons, List.map_nil, Attempt.allWritten, List.flatMap_singleton]
    exact grown.of_status (leaves (p.host begun))
  | parent forked positive told =>
    have still : World.Holds _ r.log content := there.of_status (leaves.fork forked)
    have grown := told.holds still
    simp only [List.map_cons, List.map_nil, Attempt.allWritten, List.flatMap_singleton]
    exact grown
  | silent forked spent =>
    simp only [List.map_nil, Attempt.allWritten, List.flatMap_nil, Utf8.encode_nil,
      List.append_nil]
    exact there.of_status (leaves.fork forked)

end Call.Unfolds

/-! ## All calls -/

theorem Written.length_encode_flatMap (writings : List Written) :
    (Utf8.encode (writings.flatMap inLog)).length = (writings.flatMap inLog).length := by
  apply Relation.length_encode_of_ascii
  intro c member
  obtain ⟨p, -, member⟩ := List.mem_flatMap.mp member
  exact Replay.ascii_of_mem_lineOf c (List.mem_of_mem_take member)

theorem Attempt.allWritten_append (size : Nat) (attempts more : List Attempt) :
    allWritten size (attempts ++ more) =
      allWritten size attempts ++
        allWritten (size + ((allWritten size attempts).flatMap Written.inLog).length) more := by
  induction attempts generalizing size with
  | nil => rfl
  | cons a rest ih =>
    rw [List.cons_append, allWritten, allWritten, ih, List.cons_append, List.flatMap_cons,
      List.length_append, Nat.add_assoc]

namespace CallHistory

theorem unfolds_run (r : Reporter) (w : World) (calls : List Call) :
    ∃ notices, Unfolds r w calls notices (run r w calls) := by
  induction calls generalizing w with
  | nil => exact ⟨[], .done w⟩
  | cons c more ih =>
    obtain ⟨first, unfolds⟩ := c.unfolds_after r w
    obtain ⟨later, history⟩ := ih (c.after r w)
    exact ⟨first ++ later, .call unfolds history⟩

namespace Unfolds
variable {r : Reporter} {w v : World} {calls : List Call} {notices : List Notice}

theorem deliveries (history : Unfolds r w calls notices v)
    (leave : ∀ c ∈ calls, c.action.Leaves (·.deliveries)) :
    v.deliveries = w.deliveries ++ notices.flatMap (·.arrivals r) := by
  induction history with
  | done w => rw [List.flatMap_nil, List.append_nil]
  | call first later ih =>
    obtain ⟨leaves, leave⟩ := List.forall_mem_cons.mp leave
    rw [ih leave, first.deliveries leaves, List.flatMap_append, List.append_assoc]

theorem holds (history : Unfolds r w calls notices v)
    (leave : ∀ c ∈ calls, c.action.Leaves (·.status r.log)) {content : Bytes}
    (there : w.Holds r.log content) :
    v.Holds r.log
      (content ++ Utf8.encode
        ((Attempt.allWritten content.length (notices.map (·.attempt r))).flatMap
          Written.inLog)) := by
  induction history generalizing content with
  | done w =>
    simp only [List.map_nil, Attempt.allWritten, List.flatMap_nil, Utf8.encode_nil,
      List.append_nil]
    exact there
  | call first later ih =>
    obtain ⟨leaves, leave⟩ := List.forall_mem_cons.mp leave
    -- The later lines meet a log that is longer by the first.
    have grown := ih leave (first.holds leaves there)
    rw [List.length_append, Written.length_encode_flatMap, List.append_assoc,
      ← Utf8.encode_append, ← List.flatMap_append, ← Attempt.allWritten_append,
      ← List.map_append] at grown
    exact grown

end Unfolds

/-- Whatever the functions behind the calls do, every exec is reported before its function begins
and nothing is after it; nothing of a fork is reported before its function has ended, and
afterwards it is if that made a process. Each time both sinks are told once. Where no
function touches what was delivered, the listeners have got the reports in the order of the
calls; and where none touches the log, so has the log, each line as far as it fits. -/
theorem reported_once (r : Reporter) (w : World) (calls : List Call) :
    ∃ notices,
      Unfolds r w calls notices (run r w calls) ∧
      ((∀ c ∈ calls, c.action.Leaves (·.deliveries)) →
        (run r w calls).deliveries = w.deliveries ++ notices.flatMap (·.arrivals r)) ∧
      ∀ content, w.Holds r.log content → (∀ c ∈ calls, c.action.Leaves (·.status r.log)) →
        (run r w calls).Holds r.log
          (content ++ Utf8.encode
            ((Attempt.allWritten content.length (notices.map (·.attempt r))).flatMap
              Written.inLog)) := by
  obtain ⟨notices, history⟩ := unfolds_run r w calls
  exact ⟨notices, history, history.deliveries, fun content there leave => history.holds leave there⟩

open Channels in
theorem reported_once_sample :
    (run here attentive sample).deliveries =
      [⟨0, Bytes.ofString "100:200:7"⟩, ⟨0, Bytes.ofString "-2147"⟩] ∧
    ∃ notices,
      Unfolds here attentive sample notices (run here attentive sample) ∧
      (run here attentive sample).deliveries =
        attentive.deliveries ++ notices.flatMap (·.arrivals here) ∧
      (run here attentive sample).Holds here.log
        ([] ++ Utf8.encode
          ((Attempt.allWritten 0 (notices.map (·.attempt here))).flatMap Written.inLog)) := by
  have leave {α : Type} (part : World → α) : ∀ c ∈ sample, c.action.Leaves part := by
    simp only [sample, List.forall_mem_cons, List.not_mem_nil, false_implies, implies_true,
      and_true]
    exact ⟨fun _ => rfl, fun _ => rfl, fun _ => rfl⟩
  obtain ⟨notices, history, deliveries, log⟩ := reported_once here attentive sample
  exact ⟨rfl, notices, history, deliveries (leave _), log [] attentive_holds (leave _)⟩

end CallHistory
end Ancestry
