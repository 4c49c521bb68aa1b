import Ancestry.Proofs.LogReplay
import Ancestry.Proofs.PathFrame
import Ancestry.Proofs.PiecewiseSending
import Ancestry.Report.Reporter
import Ancestry.Supervisor.LogFile

/-!
# What a report leaves behind

A report is one line at the end of the log and one payload at the listener's endpoint,
and nothing else in the world. The line is there whole exactly if the write says so. As much
of the payload is there as the calls that send took, if the path fits into a socket address, a
socket can be had, and the path leads to an endpoint that listens.

Neither a line nor a payload changes where a path leads or which endpoints listen, so
reports made one after the other find the same log and the same listener.
-/
namespace Ancestry

/-- A process without its world. -/
structure Process where
  parent : Pid
  self : Pid
  errno : Errno
  limits : Limits

def Process.host (p : Process) (w : World) : Host := ⟨w, p.errno, p.parent, p.self, p.limits⟩

namespace World

/-- A path leads to a regular file with some content. -/
def Holds (w : World) (path content : Bytes) : Prop :=
  ∃ loc mode, w.status path = .ok (loc, .file mode content)

/-- A path leads to a socket whose endpoint accepts connections. -/
def Answers (w : World) (path : Bytes) (endpoint : Nat) : Prop :=
  (∃ loc mode, w.status path = .ok (loc, .socket mode endpoint)) ∧ endpoint ∈ w.listening

/-- The payloads that arrived at an endpoint, in the order of their arrival. -/
def received (w : World) (endpoint : Nat) : List Bytes :=
  (w.deliveries.filter (·.endpoint = endpoint)).map (·.payload)

/-- Two worlds in which paths lead to the same places and the same endpoints listen. What
files hold and what was delivered may differ. -/
structure SameScene (w v : World) : Prop where
  alike : FileSystem.Alike w.files v.files
  directory : v.directory = w.directory
  listening : v.listening = w.listening
  obstacles : v.obstacles = w.obstacles

theorem SameScene.refl (w : World) : SameScene w w := ⟨fun _ => rfl, rfl, rfl, rfl⟩

theorem SameScene.trans {w v u : World} (first : SameScene w v) (second : SameScene v u) :
    SameScene w u :=
  ⟨fun loc => (first.alike loc).trans (second.alike loc),
    second.directory.trans first.directory, second.listening.trans first.listening,
    second.obstacles.trans first.obstacles⟩

theorem pathExists_of_status {w : World} {path : Bytes} {entry : Location × Node}
    (found : w.status path = .ok entry) : w.pathExists path = true := by
  rw [pathExists, found]

theorem Holds.openRead {w : World} {path content : Bytes} (there : w.Holds path content) :
    ∃ mode, w.openRead path = .ok (.file mode content) := by
  obtain ⟨loc, mode, found⟩ := there
  exact ⟨mode, by rw [World.openRead, found]⟩

theorem Holds.of_status {w v : World} {path content : Bytes} (there : w.Holds path content)
    (same : v.status path = w.status path) : v.Holds path content := by
  obtain ⟨loc, mode, found⟩ := there
  exact ⟨loc, mode, same.trans found⟩

theorem SameScene.answers {w v : World} (same : SameScene w v) {path : Bytes} {endpoint : Nat}
    (answers : w.Answers path endpoint) : v.Answers path endpoint := by
  obtain ⟨⟨loc, mode, found⟩, listens⟩ := answers
  obtain ⟨sound, found⟩ := status_eq_ok.mp found
  obtain ⟨other, found, shape⟩ := find_alike same.alike same.directory found
  refine ⟨⟨loc, mode, status_eq_ok.mpr ⟨sound, ?_⟩⟩, same.listening ▸ listens⟩
  cases other <;> cases shape
  exact found

theorem received_deliver (w : World) (endpoint : Nat) (payload : Bytes) :
    (w.deliver endpoint payload).received endpoint = w.received endpoint ++ [payload] := by
  simp [received, deliver]

/-- An entry that is a file is still what its path leads to when the file is written. -/
theorem status_set_file {w : World} {path : Bytes} {loc : Location} {mode : Nat}
    {content : Bytes} (found : w.status path = .ok (loc, .file mode content)) (more : Bytes) :
    ({ w with files := w.files.set loc (.file mode more) } : World).status path =
      .ok (loc, .file mode more) := by
  obtain ⟨sound, found⟩ := status_eq_ok.mp found
  have there := find_found found
  have below : loc ≠ [] := by
    rintro rfl
    cases there
  -- The path leads to the same place, and what is there is what was put there.
  have alike := FileSystem.alike_set_file there more
  obtain ⟨other, still, -⟩ :=
    find_alike (v := { w with files := w.files.set loc (.file mode more) }) alike rfl found
  have now := find_found still
  rw [FileSystem.get?_set_self w.files below] at now
  obtain rfl := Option.some.inj now
  exact status_eq_ok.mpr ⟨sound, still⟩

end World
open World

/-! ## One line -/

/-- The front of some bytes that a file of some size takes. -/
def World.front (limit : Option Nat) (size : Nat) (bytes : Bytes) : Bytes :=
  bytes.take (limit.elim bytes.length (· - size))

theorem room_front {limit : Option Nat} {size : Nat} {bytes taken : Bytes}
    (fits : room limit size bytes = .ok taken) : taken = front limit size bytes := by
  cases limit with
  | none =>
    cases fits
    exact List.take_length.symm
  | some most =>
    unfold room at fits
    dsimp only at fits
    split at fits
    · cases fits
    · cases fits
      rfl

theorem room_refused {limit : Option Nat} {size : Nat} {bytes : Bytes} {e : SystemError}
    (refused : room limit size bytes = .error e) :
    e = .fileTooLarge ∧ front limit size bytes = [] := by
  cases limit with
  | none => cases refused
  | some most =>
    unfold room at refused
    dsimp only at refused
    split at refused
    · rename_i full
      cases refused
      have nothing : most - size = 0 := Nat.sub_eq_zero_of_le full
      exact ⟨rfl, List.take_eq_nil_iff.mpr (.inl nothing)⟩
    · cases refused

theorem room_whole {limit : Option Nat} {size : Nat} {bytes taken : Bytes}
    (fits : room limit size bytes = .ok taken) (all : taken.length = bytes.length) :
    taken = bytes := by
  have front : taken <+: bytes := room_front fits ▸ List.take_prefix _ bytes
  exact front.eq_of_length all

namespace LogSink

/-- A line that was written whole stands at the end of the log, and nothing else is
different. -/
theorem writeLine_whole {w : World} {limit : Option Nat} {path content text : Bytes}
    (there : w.Holds path content) (whole : (writeLine w limit path text).1 = .ok ()) :
    (writeLine w limit path text).2.Holds path (content ++ (text ++ [newline])) ∧
      SameScene w (writeLine w limit path text).2 ∧
      (writeLine w limit path text).2.deliveries = w.deliveries := by
  obtain ⟨loc, mode, found⟩ := there
  have entry : w.files.get? loc = some (.file mode content) :=
    find_found (status_eq_ok.mp found).2
  cases opened : w.openAppend path with
  | error e => simp only [writeLine, opened, reduceCtorEq] at whole
  | ok place =>
    obtain ⟨node, found', -⟩ := openAppend_eq_ok.mp opened
    cases found.symm.trans found'
    cases fits : room limit content.length (text ++ [newline]) with
    | error e =>
      simp only [writeLine, opened, append, entry, fits, reduceCtorEq] at whole
    | ok taken =>
      simp only [writeLine, opened, append, entry, fits] at whole ⊢
      split at whole
      · rename_i all
        have same : taken = text ++ [newline] :=
          room_whole fits (by rw [all, List.length_append, List.length_singleton])
        rw [if_pos all, same]
        refine ⟨⟨loc, mode, status_set_file found _⟩, ⟨?_, rfl, rfl, rfl⟩, rfl⟩
        exact FileSystem.alike_set_file entry _
      · cases whole

end LogSink

/-! ## One payload -/

/-- Where no call meets with anything, all is taken. -/
theorem SocketSink.transmit_nil (payload : Bytes) :
    ∃ calls, transmit [] payload = ⟨payload, calls, .complete⟩ := by
  cases payload with
  | nil => exact ⟨0, rfl⟩
  | cons b rest =>
    refine ⟨1, ?_⟩
    simp only [transmit, List.map_nil, List.nil_append, List.length_cons, Transmission.send,
      List.cons_ne_nil, if_false, List.drop_succ_cons, List.drop_length, List.take_succ_cons,
      List.take_length, Transmission.Progress.after, if_true, List.append_nil, Nat.zero_add]

theorem SocketSink.transmit_complete {replies : List Transmission.Reply} {payload : Bytes} :
    (transmit replies payload).ending = .complete ↔
      (transmit replies payload).accepted = payload := by
  obtain ⟨outcomes, course⟩ := Transmission.exists_course payload
    (replies.map (·.outcome) ++ [.taken payload.length])
  exact course.complete_iff

/-- Whether the calls that send a payload take all of it, one after the other. -/
def Limits.TakesWhole (limits : Limits) (payload : Bytes) : Prop :=
  (SocketSink.transmit limits.sends payload).ending = .complete

theorem SocketAddress.exists_ofPath {path : Bytes} (short : path.length < socketPathRoom)
    (nonempty : path ≠ []) (sound : hasNul path = false) :
    ∃ address, SocketAddress.ofPath path = .ok address ∧ address.path = path := by
  have usable : ¬ (path = [] ∨ 0 ∈ path) := by
    rintro (empty | nul)
    · exact nonempty empty
    · rw [hasNul, List.contains_eq_mem, decide_eq_false_iff_not] at sound
      exact sound nul
  have fits : ∃ address, SocketAddress.ofPath path = .ok address := by
    unfold SocketAddress.ofPath
    rw [dif_neg (Nat.not_le.mpr short), if_neg usable]
    exact ⟨_, rfl⟩
  obtain ⟨address, made⟩ := fits
  exact ⟨address, made, SocketAddress.path_of_ofPath made⟩

namespace SocketSink

/-- Sending changes nothing in the world but what was delivered. -/
theorem send_world (w : World) (descriptorsUsedUp : Bool) (replies : List Transmission.Reply)
    (path payload : Bytes) :
    ∃ arrived, (send w descriptorsUsedUp replies path payload).2 =
      { w with deliveries := w.deliveries ++ arrived } := by
  unfold send
  split
  · exact ⟨[], by rw [List.append_nil]⟩
  split
  · exact ⟨[], by rw [List.append_nil]⟩
  split
  · exact ⟨[], by rw [List.append_nil]⟩
  · rename_i endpoint _
    exact ⟨_, rfl⟩

/-- A payload arrives, as far as it is taken, where a listener answers, if its path fits into
an address and a socket can be had. -/
theorem send_answered {w : World} {path : Bytes} {endpoint : Nat}
    (answers : w.Answers path endpoint) (short : path.length < socketPathRoom)
    (replies : List Transmission.Reply) (payload : Bytes) :
    send w false replies path payload =
      (outcome (transmit replies payload).ending,
        w.deliver endpoint (transmit replies payload).accepted) := by
  obtain ⟨⟨loc, mode, found⟩, listens⟩ := answers
  obtain ⟨sound, found⟩ := status_eq_ok.mp found
  obtain ⟨address, made, back⟩ := SocketAddress.exists_ofPath short (find_ne_nil found) sound
  have reached : w.connect path = .ok endpoint := by
    rw [connect, found]
    exact if_pos listens
  simp only [send, made, back, reached, Bool.false_eq_true, if_false]

theorem send_status (w : World) (descriptorsUsedUp : Bool) (replies : List Transmission.Reply)
    (path payload other : Bytes) :
    (send w descriptorsUsedUp replies path payload).2.status other = w.status other := by
  obtain ⟨arrived, sent⟩ := send_world w descriptorsUsedUp replies path payload
  rw [sent]
  rfl

end SocketSink

/-! ## One report -/

namespace Reporter

theorem encode_lineOf (relation : Relation) :
    Utf8.encode (Replay.lineOf relation) = relation.encode ++ [LogSink.newline] := by
  rw [Replay.lineOf, Utf8.encode_append, Relation.encode_eq]
  rfl

theorem deliver_world (r : Reporter) (relation : Relation) (h : Host) :
    (r.deliver relation h).world =
      let logged :=
        if h.world.pathExists r.log then
          (h.limits.writeLine h.world r.log relation.encode).2
        else h.world
      if h.world.pathExists r.socket then
        (h.limits.send logged r.socket relation.encode).2
      else logged := by
  unfold deliver Host.probe Host.writeLine Host.send Host.disturbed
  dsimp only [Host.save, Host.restore, Host.after]
  cases h.world.pathExists r.log <;> cases h.world.pathExists r.socket <;>
    simp only [if_true, Bool.false_eq_true, if_false]

/-- Whether the line of a report is written whole. -/
def LogsWhole (r : Reporter) (relation : Relation) (h : Host) : Prop :=
  (h.limits.writeLine h.world r.log relation.encode).1 = .ok ()

/-- A line that was written whole took a descriptor, so there was one. -/
theorem LogsWhole.writeLine_eq {r : Reporter} {relation : Relation} {h : Host}
    (whole : r.LogsWhole relation h) :
    h.limits.descriptorsUsedUp = false ∧
      h.limits.writeLine h.world r.log relation.encode =
        LogSink.writeLine h.world h.limits.fileSize r.log relation.encode ∧
      (LogSink.writeLine h.world h.limits.fileSize r.log relation.encode).1 = .ok () := by
  unfold LogsWhole Limits.writeLine at *
  cases refused : h.limits.refusal? r.log with
  | some e =>
    rw [refused] at whole
    cases whole
  | none =>
    rw [refused] at whole
    refine ⟨?_, rfl, whole⟩
    unfold Limits.refusal? at refused
    rw [← Bool.not_eq_true]
    intro usedUp
    rw [usedUp] at refused
    simp only [Bool.not_true, Bool.false_eq_true, if_false] at refused
    split at refused
    · cases refused
    split at refused
    · cases refused
    split at refused <;> cases refused

/-- Whatever the path of the socket leads to, the log grows by the line of the relation. -/
theorem deliver_holds {r : Reporter} {relation : Relation} {h : Host} {content : Bytes}
    (there : h.world.Holds r.log content) (whole : r.LogsWhole relation h) :
    (r.deliver relation h).world.Holds r.log
      (content ++ Utf8.encode (Replay.lineOf relation)) := by
  rw [encode_lineOf]
  obtain ⟨-, plain, done⟩ := whole.writeLine_eq
  obtain ⟨grown, -, -⟩ := LogSink.writeLine_whole there done
  obtain ⟨loc, mode, found⟩ := there
  rw [deliver_world, pathExists_of_status found, if_pos rfl, plain]
  dsimp only
  split
  · exact grown.of_status (SocketSink.send_status _ _ _ _ _ _)
  · exact grown

/-- Where both paths lead to what they should, the log grows by the line of the relation and
the listener is sent its text. -/
theorem deliver_both {r : Reporter} {relation : Relation} {h : Host} {content : Bytes}
    {endpoint : Nat} (there : h.world.Holds r.log content) (whole : r.LogsWhole relation h)
    (answers : h.world.Answers r.socket endpoint) (short : r.socket.length < socketPathRoom)
    (taken : h.limits.TakesWhole relation.encode) :
    (r.deliver relation h).world.Holds r.log
        (content ++ Utf8.encode (Replay.lineOf relation)) ∧
      (r.deliver relation h).world.Answers r.socket endpoint ∧
      (r.deliver relation h).world.received endpoint =
        h.world.received endpoint ++ [relation.encode] := by
  refine ⟨deliver_holds there whole, ?_⟩
  obtain ⟨free, plain, done⟩ := whole.writeLine_eq
  obtain ⟨-, same, deliveries⟩ := LogSink.writeLine_whole there done
  obtain ⟨loc, mode, found⟩ := there
  obtain ⟨⟨place, permissions, socket⟩, -⟩ := id answers
  have still := same.answers answers
  rw [deliver_world, pathExists_of_status found, pathExists_of_status socket, plain]
  simp only [if_true, Limits.send, free, SocketSink.send_answered still short,
    SocketSink.transmit_complete.mp taken]
  refine ⟨still, ?_⟩
  rw [received_deliver, received, deliveries]
  rfl

end Reporter

/-! ## Reading the log back -/

namespace LogFile

theorem replay_holds {w : World} {path : Bytes} {cs : List Char}
    (there : w.Holds path (Utf8.encode cs)) (t : Tracker) :
    ∃ s, replay w path t =
        (.ok ⟨(Replay.relationsIn (Text.textLines cs)).length,
          Replay.malformedIn (Text.textLines cs)⟩, s) ∧
      s.tracker = t.addAll (Replay.relationsIn (Text.textLines cs)) := by
  obtain ⟨mode, opened⟩ := there.openRead
  obtain ⟨s, read, tracker⟩ := Replay.read_encode t cs
  refine ⟨s, ?_, tracker⟩
  simp only [replay, opened, Failure.during, contentOf, read]

end LogFile
end Ancestry
