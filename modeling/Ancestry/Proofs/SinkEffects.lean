import Ancestry.Proofs.Delivery

/-!
# What a sink can do to the world

A line can be added to one file, and nothing else can come of an attempt to write it: no entry is
made, and what is no regular file stays what it is. How much of the line is added is told by how
far the file may grow, which is not at all where it cannot be opened. A payload, or the front of
it, can be added to what was delivered. The two never touch the same part of the world, so each
does what it would do if the other had not been there, whichever comes first.
-/
namespace Ancestry

namespace World

/-- How far a file at a path may grow by one who has some limit. One that cannot be opened has
room for nothing. -/
def allowance (w : World) (path : Bytes) (limit : Option Nat) : Option Nat :=
  if (w.openAppend path).isOk then limit else some 0

theorem allowance_of_opened {w : World} {path : Bytes} {loc : Location}
    (opened : w.openAppend path = .ok loc) (limit : Option Nat) :
    w.allowance path limit = limit := by
  rw [allowance, opened]
  rfl

theorem front_allowance_of_refused {w : World} {path : Bytes} {e : IoError}
    (refused : w.openAppend path = .error e) (limit : Option Nat) (size : Nat) (bytes : Bytes) :
    front (w.allowance path limit) size bytes = [] := by
  rw [allowance, refused, front]
  exact List.take_eq_nil_iff.mpr (.inl (Nat.zero_sub size))

theorem append_cases (w : World) (loc : Location) (limit : Option Nat) (bytes : Bytes) :
    ((w.append loc limit bytes).2 = w ∧
      ∀ mode content, w.files.get? loc = some (.file mode content) →
        front limit content.length bytes = []) ∨
    ∃ mode content, w.files.get? loc = some (.file mode content) ∧
      (w.append loc limit bytes).2 =
        { w with
          files := w.files.set loc
            (.file mode (content ++ front limit content.length bytes)) } := by
  cases entry : w.files.get? loc with
  | none => exact .inl ⟨by rw [append, entry], by simp⟩
  | some node =>
    cases node with
    | file mode content =>
      cases fits : room limit content.length bytes with
      | error e =>
        obtain ⟨-, full⟩ := room_refused fits
        refine .inl ⟨by simp only [append, entry, fits], fun mode' content' same => ?_⟩
        cases same
        exact full
      | ok taken =>
        refine .inr ⟨mode, content, rfl, ?_⟩
        simp only [append, entry, fits, room_front fits]
    | special mode kind =>
      refine .inl ⟨?_, by simp⟩
      rw [append, entry]
      dsimp only
      split <;> rfl
    | _ => exact .inl ⟨by rw [append, entry], by simp⟩

/-- What was delivered is no part of a write. -/
theorem append_deliveries (w : World) (deliveries : List Delivery) (loc : Location)
    (limit : Option Nat) (bytes : Bytes) :
    append { w with deliveries := deliveries } loc limit bytes =
      ((w.append loc limit bytes).1,
        { (w.append loc limit bytes).2 with deliveries := deliveries }) := by
  unfold append
  dsimp only
  split
  · split <;> rfl
  · split <;> rfl
  · rfl

theorem status_found {w : World} {path : Bytes} {loc : Location} {node : Node}
    (found : w.status path = .ok (loc, node)) : w.files.get? loc = some node :=
  find_found (status_eq_ok.mp found).2

theorem SameScene.find_eq_error {w v : World} (same : SameScene w v) {last : LastLink}
    {path : Bytes} {e : SystemError} (refused : w.find last path = .error e) :
    v.find last path = .error e := by
  have alike := FileSystem.resolve_alike same.alike w.directory last path
  unfold find at refused ⊢
  rw [same.directory]
  split at refused
  · cases refused
  · rename_i around name target
    rw [target] at alike
    split <;> simp_all [Except.map, Target.shape]
  · rename_i target
    rw [target] at alike
    split <;> simp_all [Except.map, Target.shape]

theorem SameScene.connect_eq {w v : World} (same : SameScene w v) (path : Bytes) :
    v.connect path = w.connect path := by
  cases reached : w.find .follow path with
  | error e => rw [connect, connect, reached, same.find_eq_error reached]
  | ok entry =>
    obtain ⟨loc, node⟩ := entry
    obtain ⟨other, found, shape⟩ := find_alike same.alike same.directory reached
    -- An endpoint is part of the shape of a node, and what a file holds does not matter here.
    rw [connect, connect, reached, found]
    cases node <;> cases other <;> cases shape <;> simp only [same.listening]

/-- A path leads to what is at its place now. -/
theorem SameScene.status_eq {w v : World} (same : SameScene w v) {path : Bytes} {loc : Location}
    {node later : Node} (found : w.status path = .ok (loc, node))
    (there : v.files.get? loc = some later) : v.status path = .ok (loc, later) := by
  obtain ⟨sound, found⟩ := status_eq_ok.mp found
  obtain ⟨other, still, -⟩ := find_alike same.alike same.directory found
  rw [find_found still] at there
  exact status_eq_ok.mpr ⟨sound, Option.some.inj there ▸ still⟩

/-- Which paths can be opened to be written is part of the scene. -/
theorem SameScene.openAppend_eq {w v : World} (same : SameScene w v) (path : Bytes) :
    v.openAppend path = w.openAppend path := by
  unfold openAppend status
  cases hasNul path with
  | true => rfl
  | false =>
    simp only [Bool.false_eq_true, if_false]
    cases reached : w.find .follow path with
    | error e => rw [same.find_eq_error reached]
    | ok entry =>
      obtain ⟨loc, node⟩ := entry
      obtain ⟨other, found, shape⟩ := find_alike same.alike same.directory reached
      -- What refuses to be written does so by its kind and its place.
      rw [found]
      cases node <;> cases other <;> cases shape <;>
        simp only [unwritable?, refusesWriting, refusal?, same.obstacles]

theorem SameScene.allowance_eq {w v : World} (same : SameScene w v) (path : Bytes)
    (limit : Option Nat) : v.allowance path limit = w.allowance path limit := by
  rw [allowance, allowance, same.openAppend_eq]

/-- The endpoint that a payload for a path arrives at: that of a listener that answers, if a
socket can be had and the path fits into an address. -/
def answering (w : World) (descriptorsUsedUp : Bool) (path : Bytes) : Option Nat :=
  if descriptorsUsedUp = true ∨ socketPathRoom ≤ path.length then none
  else
    match w.status path with
    | .ok (_, .socket _ endpoint) => if endpoint ∈ w.listening then some endpoint else none
    | _ => none

theorem answering_eq_some {w : World} {descriptorsUsedUp : Bool} {path : Bytes}
    {endpoint : Nat} :
    w.answering descriptorsUsedUp path = some endpoint ↔
      w.Answers path endpoint ∧ path.length < socketPathRoom ∧ descriptorsUsedUp = false := by
  unfold answering Answers
  by_cases unable : descriptorsUsedUp = true ∨ socketPathRoom ≤ path.length
  · rw [if_pos unable]
    refine ⟨nofun, ?_⟩
    rintro ⟨-, short, free⟩
    rw [free] at unable
    exact absurd (unable.resolve_left Bool.false_ne_true) (Nat.not_le.mpr short)
  · rw [if_neg unable]
    have able : path.length < socketPathRoom ∧ descriptorsUsedUp = false := by
      rw [not_or, Nat.not_le, Bool.not_eq_true] at unable
      exact unable.symm
    split
    · rename_i loc mode endpoint' found
      rw [Option.ite_none_right_eq_some, Option.some_inj]
      constructor
      · rintro ⟨listens, rfl⟩
        exact ⟨⟨⟨loc, mode, found⟩, listens⟩, able⟩
      · rintro ⟨⟨⟨loc', mode', found'⟩, listens⟩, -⟩
        rw [found] at found'
        cases found'
        exact ⟨listens, rfl⟩
    · rename_i other
      refine ⟨nofun, ?_⟩
      rintro ⟨⟨⟨loc, mode, found⟩, -⟩, -⟩
      exact absurd found (other loc mode endpoint)

theorem answers_of_connect {w : World} {path : Bytes} {endpoint : Nat}
    (sound : hasNul path = false) (reached : w.connect path = .ok endpoint) :
    w.Answers path endpoint := by
  unfold connect at reached
  split at reached
  · cases reached
  · rename_i loc mode endpoint' found
    split at reached
    · rename_i listens
      cases reached
      exact ⟨⟨loc, mode, status_eq_ok.mpr ⟨sound, found⟩⟩, listens⟩
    · cases reached
  · cases reached

end World
open World

namespace LogSink

/-- All that can come of an attempt to write a line. -/
theorem writeLine_cases (w : World) (limit : Option Nat) (path text : Bytes) :
    ((writeLine w limit path text).2 = w ∧
      ∀ loc mode content, w.status path = .ok (loc, .file mode content) →
        front (w.allowance path limit) content.length (text ++ [newline]) = []) ∨
    ∃ loc mode content, w.status path = .ok (loc, .file mode content) ∧
      (writeLine w limit path text).2 =
        { w with
          files := w.files.set loc
            (.file mode (content ++
              front (w.allowance path limit) content.length (text ++ [newline]))) } := by
  cases opened : w.openAppend path with
  | error e =>
    exact .inl ⟨by rw [writeLine, opened], fun _ _ _ _ => front_allowance_of_refused opened _ _ _⟩
  | ok loc =>
    obtain ⟨node, found, -⟩ := openAppend_eq_ok.mp opened
    rw [allowance_of_opened opened]
    have written : (writeLine w limit path text).2 =
        (w.append loc limit (text ++ [newline])).2 := by
      simp only [writeLine, opened]
      split
      · rename_i refused
        rw [refused]
      · rename_i taken
        rw [taken]
        split <;> rfl
    rw [written]
    rcases w.append_cases loc limit (text ++ [newline]) with
      ⟨same, full⟩ | ⟨mode, content, entry, grown⟩
    · refine .inl ⟨same, fun loc' mode content found' => ?_⟩
      obtain ⟨rfl, rfl⟩ : loc = loc' ∧ node = .file mode content := by
        rw [found] at found'
        cases found'
        exact ⟨rfl, rfl⟩
      exact full mode content (status_found found)
    · refine .inr ⟨loc, mode, content, ?_, grown⟩
      rw [status_found found] at entry
      rw [found, Option.some.inj entry]

section
variable {w : World} {path : Bytes} (limit : Option Nat) (text : Bytes)

/-- The file that the path leads to takes as much of the line as it may grow by. -/
theorem writeLine_get?_self {loc : Location} {mode : Nat} {content : Bytes}
    (found : w.status path = .ok (loc, .file mode content)) :
    (writeLine w limit path text).2.files.get? loc =
      some (.file mode (content ++
        front (w.allowance path limit) content.length (text ++ [newline]))) := by
  have entry := status_found found
  rcases writeLine_cases w limit path text with
    ⟨same, full⟩ | ⟨loc', mode', content', found', grown⟩
  · rw [same, full loc mode content found, List.append_nil, entry]
  · rw [found] at found'
    cases found'
    have below : loc ≠ [] := by
      rintro rfl
      cases entry
    rw [grown, FileSystem.get?_set_self w.files below]

/-- Everything else is as it was. -/
theorem writeLine_get?_ne {loc : Location}
    (apart : ∀ mode content, w.status path ≠ .ok (loc, .file mode content)) :
    (writeLine w limit path text).2.files.get? loc = w.files.get? loc := by
  rcases writeLine_cases w limit path text with
    ⟨same, -⟩ | ⟨loc', mode', content', found', grown⟩
  · rw [same]
  · have other : loc ≠ loc' := by
      rintro rfl
      exact apart mode' content' found'
    rw [grown, FileSystem.get?_set_ne w.files other]

end

/-- An attempt changes nothing in the world but files. -/
theorem writeLine_world (w : World) (limit : Option Nat) (path text : Bytes) :
    ∃ files, (writeLine w limit path text).2 = { w with files := files } := by
  rcases writeLine_cases w limit path text with ⟨same, -⟩ | ⟨loc, mode, content, -, grown⟩
  · exact ⟨w.files, same⟩
  · exact ⟨_, grown⟩

theorem sameScene_writeLine (w : World) (limit : Option Nat) (path text : Bytes) :
    SameScene w (writeLine w limit path text).2 := by
  rcases writeLine_cases w limit path text with ⟨same, -⟩ | ⟨loc, mode, content, found, grown⟩
  · rw [same]
    exact .refl _
  · rw [grown]
    exact ⟨FileSystem.alike_set_file (status_found found) _, rfl, rfl, rfl⟩

/-- What is written, and what comes of it, does not depend on what was delivered. -/
theorem writeLine_deliveries (w : World) (deliveries : List Delivery) (limit : Option Nat)
    (path text : Bytes) :
    writeLine { w with deliveries := deliveries } limit path text =
      ((writeLine w limit path text).1,
        { (writeLine w limit path text).2 with deliveries := deliveries }) := by
  have opened : ({ w with deliveries := deliveries } : World).openAppend path =
      w.openAppend path := rfl
  unfold writeLine
  rw [opened]
  cases w.openAppend path with
  | error e => rfl
  | ok loc =>
    dsimp only
    rw [append_deliveries]
    generalize w.append loc limit (text ++ [newline]) = appended
    obtain ⟨taken | e, v⟩ := appended
    · rfl
    · dsimp only
      split <;> rfl

end LogSink

theorem SocketAddress.sound_of_ofPath {path : Bytes} {address : SocketAddress}
    (made : SocketAddress.ofPath path = .ok address) :
    path.length < socketPathRoom ∧ hasNul path = false := by
  unfold SocketAddress.ofPath at made
  split at made
  · cases made
  · rename_i short
    split at made
    · cases made
    · rename_i usable
      refine ⟨Nat.not_le.mp short, ?_⟩
      rw [hasNul, List.contains_eq_mem, decide_eq_false_iff_not]
      exact fun nul => usable (.inr nul)

namespace SocketSink

section
variable (w : World) (descriptorsUsedUp : Bool) (replies : List Transmission.Reply)
  (path payload : Bytes)

theorem send_files : (send w descriptorsUsedUp replies path payload).2.files = w.files := by
  obtain ⟨arrived, sent⟩ := send_world w descriptorsUsedUp replies path payload
  rw [sent]

theorem sameScene_send : SameScene w (send w descriptorsUsedUp replies path payload).2 := by
  obtain ⟨arrived, sent⟩ := send_world w descriptorsUsedUp replies path payload
  rw [sent]
  exact ⟨fun _ => rfl, rfl, rfl, rfl⟩

/-- As much of a payload as is taken arrives at the endpoint that answers, in one connection, and
nothing anywhere if there is none. -/
theorem send_deliveries :
    (send w descriptorsUsedUp replies path payload).2.deliveries =
      w.deliveries ++ (w.answering descriptorsUsedUp path).toList.map
        (⟨·, (transmit replies payload).accepted⟩) := by
  cases found : w.answering descriptorsUsedUp path with
  | some endpoint =>
    obtain ⟨answers, short, rfl⟩ := answering_eq_some.mp found
    rw [send_answered answers short]
    rfl
  | none =>
    rw [Option.toList_none, List.map_nil, List.append_nil]
    unfold send
    split
    · rfl
    · rename_i address made
      obtain ⟨short, sound⟩ := SocketAddress.sound_of_ofPath made
      split
      · rfl
      · rename_i free
        split
        · rfl
        · -- Where a connection is made, somebody answers.
          rename_i endpoint reached
          rw [SocketAddress.path_of_ofPath made] at reached
          have answers := answers_of_connect sound reached
          rw [answering_eq_some.mpr ⟨answers, short, Bool.not_eq_true _ ▸ free⟩] at found
          cases found

end

/-- What is sent, and what comes of it, depends on the scene only. -/
theorem send_sameScene {w v : World} (same : SameScene w v) (old : v.deliveries = w.deliveries)
    (descriptorsUsedUp : Bool) (replies : List Transmission.Reply) (path payload : Bytes) :
    send v descriptorsUsedUp replies path payload =
      ((send w descriptorsUsedUp replies path payload).1,
        { v with
          deliveries := (send w descriptorsUsedUp replies path payload).2.deliveries }) := by
  unfold send
  cases SocketAddress.ofPath path with
  | error e =>
    dsimp only
    rw [← old]
  | ok address =>
    dsimp only
    rw [same.connect_eq]
    split
    · rw [← old]
    · cases w.connect address.path with
      | error e =>
        dsimp only
        rw [← old]
      | ok endpoint =>
        dsimp only [deliver]
        rw [old]

end SocketSink

/-! ## What a process can add to a log -/

namespace Limits

/-- How far a file at a path may grow by a process. Without a descriptor it does not grow. -/
def allowance (limits : Limits) (w : World) (path : Bytes) : Option Nat :=
  if (limits.refusal? path).isSome then some 0 else w.allowance path limits.fileSize

/-- Limits do not come into it, but for the size of the file, or else nothing can be opened,
whatever the world. -/
theorem plain_or_refused (limits : Limits) (path : Bytes) :
    (∀ w, limits.allowance w path = w.allowance path limits.fileSize ∧
      ∀ text, limits.writeLine w path text = LogSink.writeLine w limits.fileSize path text) ∨
    ∃ e, ∀ w, limits.allowance w path = some 0 ∧
      ∀ text, limits.writeLine w path text = (.error e, w) := by
  unfold allowance writeLine
  cases limits.refusal? path with
  | none => exact .inl fun w => ⟨rfl, fun text => rfl⟩
  | some e => exact .inr ⟨e, fun w => ⟨rfl, fun text => rfl⟩⟩

section
variable (limits : Limits) {w : World} {path : Bytes} (text : Bytes)

theorem writeLine_get?_self {loc : Location} {mode : Nat} {content : Bytes}
    (found : w.status path = .ok (loc, .file mode content)) :
    (limits.writeLine w path text).2.files.get? loc =
      some (.file mode (content ++
        front (limits.allowance w path) content.length (text ++ [LogSink.newline]))) := by
  rcases limits.plain_or_refused path with plain | ⟨e, refused⟩
  · rw [(plain w).1, (plain w).2]
    exact LogSink.writeLine_get?_self _ text found
  · rw [(refused w).1, (refused w).2, front, Option.elim_some, Nat.zero_sub, List.take_zero,
      List.append_nil]
    exact status_found found

theorem writeLine_get?_ne {loc : Location}
    (apart : ∀ mode content, w.status path ≠ .ok (loc, .file mode content)) :
    (limits.writeLine w path text).2.files.get? loc = w.files.get? loc := by
  rcases limits.plain_or_refused path with plain | ⟨e, refused⟩
  · rw [(plain w).2]
    exact LogSink.writeLine_get?_ne _ text apart
  · rw [(refused w).2]

end

theorem writeLine_world (limits : Limits) (w : World) (path text : Bytes) :
    ∃ files, (limits.writeLine w path text).2 = { w with files := files } := by
  rcases limits.plain_or_refused path with plain | ⟨e, refused⟩
  · rw [(plain w).2]
    exact LogSink.writeLine_world w _ path text
  · rw [(refused w).2]
    exact ⟨w.files, rfl⟩

theorem sameScene_writeLine (limits : Limits) (w : World) (path text : Bytes) :
    SameScene w (limits.writeLine w path text).2 := by
  rcases limits.plain_or_refused path with plain | ⟨e, refused⟩
  · rw [(plain w).2]
    exact LogSink.sameScene_writeLine w _ path text
  · rw [(refused w).2]
    exact .refl _

theorem writeLine_deliveries (limits : Limits) (w : World) (deliveries : List Delivery)
    (path text : Bytes) :
    limits.writeLine { w with deliveries := deliveries } path text =
      ((limits.writeLine w path text).1,
        { (limits.writeLine w path text).2 with deliveries := deliveries }) := by
  rcases limits.plain_or_refused path with plain | ⟨e, refused⟩
  · rw [(plain _).2, (plain w).2]
    exact LogSink.writeLine_deliveries w deliveries _ path text
  · rw [(refused _).2, (refused w).2]

end Limits
end Ancestry
