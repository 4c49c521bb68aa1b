import Ancestry.Proofs.Delivery
import Ancestry.Supervisor.Connection
import Ancestry.System.Scene
import Ancestry.Tracker.View

/-!
# The log and the listener tell the same

Relations are reported one after the other while an empty log is there and a listener
answers. The supervisor can learn them from the log, whose bytes are cut into lines and
trimmed, or from the connections, each of which is read to its end as one message. Both
ways lead to the same tracker, nothing is malformed and nothing is rejected.

Two paths that lead somewhere are not enough for that. The path of the listener has to
fit into a socket address, which is asked only when a report is sent: the log can be
written where the listener cannot be reached. A log may refuse to be written, or have no room
for the whole line, while the listener answers; and a payload may break off after the line was
written. Whether that happens is no concern of the processes, which are never told.
-/
namespace Ancestry

/-- A relation and the process that reports it. -/
structure Report where
  process : Process
  relation : Relation

/-- Two trackers that answer every question alike. -/
structure SameViews (t u : Tracker) : Prop where
  children : ∀ p, t.children p = u.children p
  size : t.size = u.size
  dump : t.dump = u.dump
  descendants : ∀ p, t.descendants p = u.descendants p
  adopted : ∀ p, t.adopted p = u.adopted p

theorem SameViews.refl (t : Tracker) : SameViews t t :=
  ⟨fun _ => rfl, rfl, rfl, fun _ => rfl, fun _ => rfl⟩

namespace Channels

/-- The world after some reports. -/
def after (r : Reporter) (w : World) : List Report → World
  | [] => w
  | report :: more => after r (r.deliver report.relation (report.process.host w)).world more

/-- No line of some reports is cut short. -/
def Uncut (r : Reporter) (w : World) : List Report → Prop
  | [] => True
  | report :: more =>
    r.LogsWhole report.relation (report.process.host w) ∧
      Uncut r (r.deliver report.relation (report.process.host w)).world more

/-- The payloads that reach an endpoint while the reports are made. -/
def arrived (r : Reporter) (w : World) (reports : List Report) (endpoint : Nat) : List Bytes :=
  ((after r w reports).received endpoint).drop (w.received endpoint).length

/-- Connections that carry some payloads, one each, in pieces of any size. -/
def Carry (arrivals : List Arrival) (payloads : List Bytes) : Prop :=
  arrivals.map (·.pieces.flatten) = payloads ∧ ∀ a ∈ arrivals, a.isReset = false

/-- The tracker after some connections. -/
def attended (t : Tracker) (arrivals : List Arrival) : Tracker :=
  arrivals.foldl (fun t a => (Connection.handle t a).tracker) t

/-- What the log has to tell after some reports is what the listener was told meanwhile. -/
def Agree (r : Reporter) (w : World) (reports : List Report) (endpoint : Nat) : Prop :=
  ∀ arrivals, Carry arrivals (arrived r w reports endpoint) →
    (∃ stats replayed,
      LogFile.replay (after r w reports) r.log .empty = (.ok stats, replayed) ∧
      stats.malformed = 0 ∧ SameViews replayed.tracker (attended .empty arrivals)) ∧
    ∀ a ∈ arrivals, ∀ t, ∃ relation, (Connection.handle t a).result = .ok relation

end Channels

/-! ## One connection -/

namespace Connection

theorem decode_encode (relation : Relation) : decode relation.encode = .ok relation := by
  rw [decode, Relation.encode_eq, Utf8.decode_encode]
  dsimp only
  rw [Relation.ofChars_toChars]

theorem receive_encode {a : Arrival} {relation : Relation}
    (carried : a.pieces.flatten = relation.encode) (closed : a.isReset = false) :
    receive a = .ok relation.encode := by
  have short : relation.encode.length ≤ maxMessage := by
    have widest := relation.length_toChars_le
    rw [Relation.encode_eq, Relation.length_encode_toChars]
    unfold Relation.maxLength at widest
    unfold maxMessage
    omega
  rw [receive, takeUpTo_eq, carried, List.take_of_length_le short, closed]
  rfl

/-- A connection that carries the text of a relation adds that relation. -/
theorem handle_encode {a : Arrival} {relation : Relation}
    (carried : a.pieces.flatten = relation.encode) (closed : a.isReset = false) (t : Tracker) :
    (handle t a).result = .ok relation ∧ (handle t a).tracker = t.add relation := by
  simp only [handle, receive_encode carried closed, Failure.during, decode_encode, and_self]

end Connection

/-! ## All reports -/

namespace Channels

/-- Every report adds its line to the log and its payload to what the listener is sent. -/
theorem after_both {r : Reporter} {w : World} {reports : List Report} {content : Bytes}
    {endpoint : Nat} (there : w.Holds r.log content) (answers : w.Answers r.socket endpoint)
    (short : r.socket.length < World.socketPathRoom) (uncut : Uncut r w reports)
    (taken : ∀ report ∈ reports, report.process.limits.TakesWhole report.relation.encode) :
    (after r w reports).Holds r.log
        (content ++ Utf8.encode ((reports.map (·.relation)).flatMap Replay.lineOf)) ∧
      (after r w reports).received endpoint =
        w.received endpoint ++ (reports.map (·.relation)).map Relation.encode := by
  induction reports generalizing w content with
  | nil =>
    simp only [after, List.map_nil, List.flatMap_nil, Utf8.encode_nil, List.append_nil]
    exact ⟨there, trivial⟩
  | cons report more ih =>
    obtain ⟨first, later⟩ := List.forall_mem_cons.mp taken
    obtain ⟨whole, uncut⟩ := uncut
    obtain ⟨grown, still, received⟩ :=
      Reporter.deliver_both (h := report.process.host w) there whole answers short first
    obtain ⟨logged, arrived⟩ := ih grown still uncut later
    rw [after, List.map_cons, List.flatMap_cons, Utf8.encode_append, ← List.append_assoc,
      List.map_cons]
    refine ⟨logged, ?_⟩
    rw [arrived, received, List.append_assoc, List.singleton_append]
    rfl

theorem arrived_eq {r : Reporter} {w : World} {reports : List Report} {endpoint : Nat}
    {payloads : List Bytes}
    (h : (after r w reports).received endpoint = w.received endpoint ++ payloads) :
    arrived r w reports endpoint = payloads := by
  rw [arrived, h, List.drop_left]

/-- Connections that carry the texts of some relations add these relations, and none is
rejected. -/
theorem attended_encode {arrivals : List Arrival} {relations : List Relation}
    (carry : Carry arrivals (relations.map Relation.encode)) (t : Tracker) :
    attended t arrivals = t.addAll relations ∧
      ∀ a ∈ arrivals, ∀ t, ∃ relation, (Connection.handle t a).result = .ok relation := by
  obtain ⟨carried, closed⟩ := carry
  induction arrivals generalizing relations t with
  | nil =>
    cases relations with
    | nil => exact ⟨rfl, fun a member => absurd member List.not_mem_nil⟩
    | cons relation more => cases carried
  | cons a arrivals ih =>
    cases relations with
    | nil => cases carried
    | cons relation more =>
      obtain ⟨carries, carried⟩ := List.cons.inj carried
      obtain ⟨ends, closed⟩ := List.forall_mem_cons.mp closed
      have handled := Connection.handle_encode carries ends
      obtain ⟨trackers, accepted⟩ := ih (t.add relation) carried closed
      refine ⟨?_, List.forall_mem_cons.mpr ⟨fun t => ⟨relation, (handled t).1⟩, accepted⟩⟩
      rw [attended, List.foldl_cons, (handled t).2]
      exact trackers

/-- A listener whose path fits into a socket address learns what stands in the log, as long
as every line is written and every payload is taken whole. -/
theorem channels_agree (r : Reporter) (w : World) (reports : List Report) (endpoint : Nat)
    (there : w.Holds r.log []) (answers : w.Answers r.socket endpoint)
    (short : r.socket.length < World.socketPathRoom) (uncut : Uncut r w reports)
    (taken : ∀ report ∈ reports, report.process.limits.TakesWhole report.relation.encode) :
    (arrived r w reports endpoint).length = reports.length ∧ Agree r w reports endpoint := by
  obtain ⟨logged, received⟩ := after_both there answers short uncut taken
  have payloads := arrived_eq received
  refine ⟨by rw [payloads, List.length_map, List.length_map], ?_⟩
  intro arrivals carry
  rw [payloads] at carry
  obtain ⟨trackers, accepted⟩ := attended_encode carry .empty
  obtain ⟨replayed, replay, tracker⟩ := LogFile.replay_holds logged .empty
  refine ⟨⟨_, replayed, replay, ?_, ?_⟩, accepted⟩
  · exact Replay.malformedIn_grown (.inl rfl) _
  · rw [tracker, trackers]
    exact Replay.relationsIn_grown (.inl rfl) _ ▸ SameViews.refl _

/-- A bare world with an empty log and a listener, each in the working directory. -/
def attentive : World :=
  { World.bare with
    files := (World.bare.files.set (World.place "/tmp/work/log") (.file 0o666 [])).set
      (World.place "/tmp/work/s") (.socket 0o755 0)
    listening := [0]
    endpoints := 1 }

def here : Reporter := ⟨Bytes.ofString "log", Bytes.ofString "s"⟩

theorem attentive_holds : attentive.Holds here.log [] :=
  ⟨World.place "/tmp/work/log", 0o666, rfl⟩

theorem attentive_answers : attentive.Answers here.socket 0 :=
  ⟨⟨World.place "/tmp/work/s", 0o755, rfl⟩, by decide⟩

/-- A report by a process with some limits. -/
def reportUnder (limits : Limits) : Report := ⟨⟨1, 2, Errno.ofValue 0, limits⟩, .exec 1 2⟩

/-- Two reports by a process without limits and by one with room for both lines, whose payload
goes out in two parts after an interruption. -/
def sample : List Report :=
  [reportUnder .unlimited,
    ⟨⟨0, 2, Errno.ofValue 11, ⟨some 64, false, [.error .interrupted, .ok 3]⟩⟩,
      .fork (-2147483648) (-1) 2147483647⟩]

theorem channels_agree_sample :
    (arrived here attentive sample 0).length = 2 ∧ Agree here attentive sample 0 := by
  have uncut : Uncut here attentive sample := ⟨rfl, rfl, trivial⟩
  have taken : ∀ report ∈ sample, report.process.limits.TakesWhole report.relation.encode := by
    simp only [sample, List.forall_mem_cons, List.not_mem_nil, false_implies, implies_true,
      and_true]
    exact ⟨rfl, rfl⟩
  exact channels_agree here attentive sample 0 attentive_holds attentive_answers (by decide) uncut
    taken

theorem not_agree_of_silence {r : Reporter} {w : World} {reports : List Report} {endpoint : Nat}
    {cs : List Char} {p : Pid} (logged : (after r w reports).Holds r.log (Utf8.encode cs))
    (silent : arrived r w reports endpoint = [])
    (told : (Tracker.empty.addAll (Replay.relationsIn (Text.textLines cs))).children p ≠ []) :
    ¬ Agree r w reports endpoint := by
  intro agree
  have carry : Carry [] (arrived r w reports endpoint) :=
    ⟨silent.symm, fun a member => absurd member List.not_mem_nil⟩
  obtain ⟨⟨stats, replayed, replay, -, same⟩, -⟩ := agree [] carry
  obtain ⟨s, again, tracker⟩ := LogFile.replay_holds logged .empty
  rw [again] at replay
  cases replay
  rw [← tracker, same.children] at told
  exact told rfl

/-- The same places by a path for the socket that is longer than an address can hold. -/
def roundabout : Reporter :=
  ⟨Bytes.ofString "log",
    (List.replicate 54 (Bytes.ofString "./")).flatten ++ Bytes.ofString "s"⟩

/-- The same places, where the log is on a file system that may only be read. -/
def guarded : World :=
  { attentive with obstacles := [⟨.write, World.place "/tmp/work/log", .readOnly⟩] }

/-- Both paths lead to what they should, and still the listener learns nothing of a line in
the log, since its own path is too long, or the log does not hold what the listener was told,
since the line was refused or cut short, or a payload breaks off that stands whole in the log. -/
theorem channels_may_disagree :
    attentive.Holds roundabout.log [] ∧ attentive.Answers roundabout.socket 0 ∧
      attentive.Holds here.log [] ∧ attentive.Answers here.socket 0 ∧
      guarded.Holds here.log [] ∧ guarded.Answers here.socket 0 ∧
      ¬ Agree roundabout attentive [reportUnder .unlimited] 0 ∧
      ¬ Agree here guarded [reportUnder .unlimited] 0 ∧
      ¬ Agree here attentive [reportUnder ⟨some 2, false, []⟩] 0 ∧
      ¬ Agree here attentive [reportUnder ⟨none, false, [.error .brokenPipe]⟩] 0 := by
  have roundaboutAnswers : attentive.Answers roundabout.socket 0 :=
    ⟨⟨World.place "/tmp/work/s", 0o755, rfl⟩, by decide⟩
  have guardedHolds : guarded.Holds here.log [] := ⟨World.place "/tmp/work/log", 0o666, rfl⟩
  have guardedAnswers : guarded.Answers here.socket 0 :=
    ⟨⟨World.place "/tmp/work/s", 0o755, rfl⟩, by decide⟩
  refine ⟨attentive_holds, roundaboutAnswers, attentive_holds, attentive_answers, guardedHolds,
    guardedAnswers, ?_, ?_, ?_, ?_⟩
  · have logged : (after roundabout attentive [reportUnder .unlimited]).Holds roundabout.log
        (Utf8.encode "1:2\n".toList) := ⟨World.place "/tmp/work/log", 0o666, rfl⟩
    exact not_agree_of_silence (p := 1) logged rfl (by decide)
  · intro agree
    have unwritten : (after here guarded [reportUnder .unlimited]).Holds here.log
        (Utf8.encode []) := ⟨World.place "/tmp/work/log", 0o666, rfl⟩
    have carry : Carry [⟨[Bytes.ofString "1:2"], false⟩]
        (arrived here guarded [reportUnder .unlimited] 0) := ⟨rfl, by simp⟩
    obtain ⟨⟨stats, replayed, replay, -, same⟩, -⟩ := agree _ carry
    obtain ⟨s, again, tracker⟩ := LogFile.replay_holds unwritten .empty
    rw [again] at replay
    cases replay
    have empty : replayed.tracker.size = 0 := by
      rw [tracker]
      rfl
    rw [same.size] at empty
    exact absurd empty (by decide +kernel)
  · intro agree
    have torn : (after here attentive [reportUnder ⟨some 2, false, []⟩]).Holds here.log
        (Utf8.encode "1:".toList) := ⟨World.place "/tmp/work/log", 0o666, rfl⟩
    have carry : Carry [⟨[Bytes.ofString "1:2"], false⟩]
        (arrived here attentive [reportUnder ⟨some 2, false, []⟩] 0) := ⟨rfl, by simp⟩
    obtain ⟨⟨stats, replayed, replay, sound, -⟩, -⟩ := agree _ carry
    obtain ⟨s, again, -⟩ := LogFile.replay_holds torn .empty
    rw [again] at replay
    cases replay
    have one : Replay.malformedIn (Text.textLines "1:".toList) = 1 := rfl
    rw [one] at sound
    cases sound
  · intro agree
    -- The connection came about, and it carries nothing.
    have carry : Carry [⟨[], false⟩]
        (arrived here attentive [reportUnder ⟨none, false, [.error .brokenPipe]⟩] 0) :=
      ⟨rfl, by simp⟩
    obtain ⟨-, accepted⟩ := agree _ carry
    obtain ⟨relation, handled⟩ := accepted _ List.mem_cons_self .empty
    have rejected : (Connection.handle .empty ⟨[], false⟩).result.isOk = false := by
      decide +kernel
    rw [handled] at rejected
    cases rejected

end Channels
end Ancestry
