import Ancestry.Proofs.SinkEffects
import Ancestry.System.Scene

/-!
# What is left of a line, and what is said of it

A line and its newline go out in one write, of which a file that may not grow past a limit takes
the front. So every call leaves one piece of its line behind what is there: all of it, a part, or
nothing. It reports success for the first and an error for the other two, and the piece stays
where it is, so the next call finds the file longer by it, and meets its own limit sooner.

The calls may use different paths for the same file. A path that leads nowhere, or to what cannot
be written, or to what the system does not let anyone write, is refused before anything is done.
-/
namespace Ancestry
open World

/-- A text to be written as a line, where, and the size that the file may get by it. -/
structure Writing where
  path : Bytes
  text : Bytes
  limit : Option Nat
  deriving Repr, DecidableEq

namespace Writing

def line (a : Writing) : Bytes := a.text ++ [LogSink.newline]

/-- What a file of some size takes of the line. -/
def piece (a : Writing) (size : Nat) : Bytes := front a.limit size a.line

/-- The pieces that some writings leave at the end of a file of some size, one each. -/
def pieces (size : Nat) : List Writing → List Bytes
  | [] => []
  | a :: more => a.piece size :: pieces (size + (a.piece size).length) more

/-- What is said of a writing is what has become of its line. -/
structure Honest (a : Writing) (piece : Bytes) (outcome : Except IoError Unit) : Prop where
  whole : outcome = .ok () ↔ piece = a.line
  cut : ∀ e, outcome = .error e →
    piece <+: a.line ∧ piece ≠ a.line ∧
      e = if piece = [] then .system .fileTooLarge else .shortWrite

/-- So it is for each of some writings, with their pieces and outcomes in the same order. -/
inductive AllHonest : List Writing → List Bytes → List (Except IoError Unit) → Prop
  | done : AllHonest [] [] []
  | next {a : Writing} {piece : Bytes} {outcome : Except IoError Unit} {more : List Writing}
      {pieces : List Bytes} {outcomes : List (Except IoError Unit)} :
      a.Honest piece outcome → AllHonest more pieces outcomes →
      AllHonest (a :: more) (piece :: pieces) (outcome :: outcomes)

end Writing

namespace World

/-- A path can be opened to be written, and what is at a place is written then. -/
def LeadsTo (w : World) (path : Bytes) (loc : Location) : Prop :=
  w.openAppend path = .ok loc

/-- A path that leads nowhere, to a directory, to a socket, or to where writing is refused. -/
def Unwritable (w : World) (path : Bytes) : Prop :=
  ∀ loc node, w.status path = .ok (loc, node) →
    (∃ mode, node = .directory mode) ∨ (∃ mode endpoint, node = .socket mode endpoint) ∨
      ∃ e, w.refusal? [.write] loc = some e

end World

/-- Makes some writings, one after the other. -/
def LogSink.writeAll (w : World) : List Writing → List (Except IoError Unit) × World
  | [] => ([], w)
  | a :: more =>
    let (outcome, w) := writeLine w a.limit a.path a.text
    let (outcomes, w) := writeAll w more
    (outcome :: outcomes, w)

/-! ## One writing -/

namespace World

/-- A write of something fails only if nothing fits. -/
theorem room_eq {bytes : Bytes} (something : bytes ≠ []) (limit : Option Nat) (size : Nat) :
    room limit size bytes =
      if front limit size bytes = [] then .error .fileTooLarge
      else .ok (front limit size bytes) := by
  cases fits : room limit size bytes with
  | error e =>
    obtain ⟨rfl, nothing⟩ := room_refused fits
    rw [if_pos nothing]
  | ok taken =>
    have taken_eq := room_front fits
    have some : front limit size bytes ≠ [] := by
      cases limit with
      | none =>
        rw [front, Option.elim, List.take_length]
        exact something
      | some most =>
        have below : ¬ most ≤ size := by
          intro full
          rw [room, if_pos full] at fits
          cases fits
        rw [front, Option.elim, Ne, List.take_eq_nil_iff, not_or]
        exact ⟨Nat.sub_ne_zero_of_lt (Nat.not_le.mp below), something⟩
    rw [if_neg some, taken_eq]

/-- Such a path cannot be opened to be written, and any other can. -/
theorem unwritable_iff {w : World} {path : Bytes} :
    w.Unwritable path ↔ ∃ e, w.openAppend path = .error e := by
  unfold Unwritable openAppend
  cases found : w.status path with
  | error e => exact ⟨fun _ => ⟨e, rfl⟩, fun _ => nofun⟩
  | ok entry =>
    obtain ⟨loc, node⟩ := entry
    have refused : (∃ e, w.unwritable? loc node = some e) ↔
        (∃ mode, node = .directory mode) ∨ (∃ mode endpoint, node = .socket mode endpoint) ∨
          ∃ e, w.refusal? [.write] loc = some e := by
      cases node <;> simp [unwritable?, refusesWriting]
    constructor
    · intro all
      obtain ⟨e, why⟩ := refused.mpr (all loc node rfl)
      exact ⟨.system e, by simp only [why]⟩
    · rintro ⟨e, failed⟩ loc' node' ⟨⟩
      apply refused.mp
      cases why : w.unwritable? loc node with
      | some e => exact ⟨e, rfl⟩
      | none =>
        simp only [why] at failed
        cases failed

theorem SameScene.leadsTo {w v : World} (same : SameScene w v) {path : Bytes} {loc : Location}
    (leads : w.LeadsTo path loc) : v.LeadsTo path loc :=
  (same.openAppend_eq path).trans leads

/-- What is at the place is what the path leads to. -/
theorem LeadsTo.status_eq {w : World} {path : Bytes} {loc : Location} {node : Node}
    (leads : w.LeadsTo path loc) (there : w.files.get? loc = some node) :
    w.status path = .ok (loc, node) := by
  obtain ⟨other, found, -⟩ := openAppend_eq_ok.mp leads
  rw [found, Option.some.inj ((status_found found).symm.trans there)]

end World

namespace LogSink

/-- A file takes a piece, and how long that is decides what is said. -/
theorem writeLine_file {w : World} {a : Writing} {loc : Location} {mode : Nat} {content : Bytes}
    (opened : w.LeadsTo a.path loc) (entry : w.files.get? loc = some (.file mode content)) :
    (writeLine w a.limit a.path a.text).1 =
      if a.piece content.length = [] then .error (.system .fileTooLarge)
      else if (a.piece content.length).length = a.text.length + 1 then .ok ()
      else .error .shortWrite := by
  have opened : w.openAppend a.path = .ok loc := opened
  have fits : room a.limit content.length (a.text ++ [newline]) =
      if a.piece content.length = [] then .error .fileTooLarge
      else .ok (a.piece content.length) :=
    room_eq (List.concat_ne_nil _ _) a.limit content.length
  by_cases nothing : a.piece content.length = []
  · rw [if_pos nothing] at fits ⊢
    simp only [writeLine, opened, append, entry, fits]
  · rw [if_neg nothing] at fits ⊢
    simp only [writeLine, opened, append, entry, fits]
    split <;> rfl

theorem honest_writeLine {w : World} {a : Writing} {loc : Location} {mode : Nat}
    {content : Bytes} (opened : w.LeadsTo a.path loc)
    (entry : w.files.get? loc = some (.file mode content)) :
    a.Honest (a.piece content.length) (writeLine w a.limit a.path a.text).1 := by
  have among : a.piece content.length <+: a.line := List.take_prefix _ _
  have something : a.line ≠ [] := List.concat_ne_nil _ _
  -- A front of a line is all of it if it is as long.
  have all : (a.piece content.length).length = a.text.length + 1 ↔
      a.piece content.length = a.line := by
    have length : a.line.length = a.text.length + 1 := by
      rw [Writing.line, List.length_append, List.length_singleton]
    rw [← length]
    exact ⟨among.eq_of_length, congrArg List.length⟩
  rw [writeLine_file opened entry]
  by_cases nothing : a.piece content.length = []
  · rw [if_pos nothing, nothing]
    refine ⟨⟨nofun, fun same => absurd same.symm something⟩, ?_⟩
    rintro e ⟨⟩
    exact ⟨List.nil_prefix, something.symm, rfl⟩
  · rw [if_neg nothing]
    by_cases whole : a.piece content.length = a.line
    · rw [if_pos (all.mpr whole)]
      exact ⟨⟨fun _ => whole, fun _ => rfl⟩, nofun⟩
    · rw [if_neg (mt all.mp whole)]
      refine ⟨⟨nofun, fun same => absurd same whole⟩, ?_⟩
      rintro e ⟨⟩
      exact ⟨among, whole, (if_neg nothing).symm⟩

/-! ## All writings -/

theorem writeAll_world (w : World) (writings : List Writing) :
    ∃ files, (writeAll w writings).2 = { w with files := files } := by
  induction writings generalizing w with
  | nil => exact ⟨w.files, rfl⟩
  | cons a more ih =>
    obtain ⟨files, first⟩ := writeLine_world w a.limit a.path a.text
    obtain ⟨last, later⟩ := ih (writeLine w a.limit a.path a.text).2
    exact ⟨last, later.trans (by rw [first])⟩

/-- Writings that all go to one file leave that file longer by their pieces, and nothing else
happens. -/
theorem writeAll_file {w : World} {loc : Location} {mode : Nat} {content : Bytes}
    (there : w.files.get? loc = some (.file mode content)) {writings : List Writing}
    (lead : ∀ a ∈ writings, w.LeadsTo a.path loc) :
    (writeAll w writings).2.files.get? loc =
        some (.file mode (content ++ (Writing.pieces content.length writings).flatten)) ∧
      (∀ other ≠ loc, (writeAll w writings).2.files.get? other = w.files.get? other) ∧
      Writing.AllHonest writings (Writing.pieces content.length writings)
        (writeAll w writings).1 := by
  induction writings generalizing w content with
  | nil =>
    refine ⟨?_, fun _ _ => rfl, .done⟩
    rw [Writing.pieces, List.flatten_nil, List.append_nil]
    exact there
  | cons a more ih =>
    obtain ⟨first, later⟩ := List.forall_mem_cons.mp lead
    have found := first.status_eq there
    have grown := writeLine_get?_self a.limit a.text found
    rw [allowance_of_opened first] at grown
    have scene := sameScene_writeLine w a.limit a.path a.text
    -- The file is longer by the first piece when the next writing meets it.
    obtain ⟨rest, elsewhere, honest⟩ := ih grown fun b member => scene.leadsTo (later b member)
    rw [List.length_append, List.append_assoc] at rest
    rw [List.length_append] at honest
    refine ⟨rest, fun other apart => ?_, .next (honest_writeLine first there) honest⟩
    refine (elsewhere other apart).trans (writeLine_get?_ne a.limit a.text ?_)
    rintro mode' content' same
    rw [found] at same
    cases same
    exact apart rfl

/-- Whatever texts are written to a file one after the other, under whatever limits and by whatever
paths, the file is its old content and then one piece for each call. A call succeeds exactly if its
piece is its text with the newline, and a failed one leaves less than that, from the front. Where
nothing can be opened to be written, a call fails and nothing happens. -/
theorem writeAll_pieces {w : World} {loc : Location} {mode : Nat} {content : Bytes}
    (there : w.files.get? loc = some (.file mode content)) (writings : List Writing)
    (lead : ∀ a ∈ writings, w.LeadsTo a.path loc) :
    let pieces := Writing.pieces content.length writings
    let run := writeAll w writings
    run.2.files.get? loc = some (.file mode (content ++ pieces.flatten)) ∧
    Writing.AllHonest writings pieces run.1 ∧
    (∀ other ≠ loc, run.2.files.get? other = w.files.get? other) ∧
    (∃ files, run.2 = { w with files := files }) ∧
    ∀ (v : World) (path : Bytes),
      (v.Unwritable path ↔ ∃ e, v.openAppend path = .error e) ∧
      ∀ e, v.openAppend path = .error e →
        ∀ limit text, writeLine v limit path text = (.error e, v) := by
  obtain ⟨grown, elsewhere, honest⟩ := writeAll_file there lead
  refine ⟨grown, honest, elsewhere, writeAll_world w writings, fun v path => ⟨unwritable_iff, ?_⟩⟩
  intro e refused limit text
  rw [writeLine, refused]

/-- A bare world with a log whose last line was not ended. -/
def openEnded : World :=
  { World.bare with
    files := World.bare.files.set (World.place "/tmp/work/log")
      (.file 0o600 (Bytes.ofString "1:2\n3")) }

/-- An empty text, one that is cut within, one that lacks its newline only, one for which there is
no room, and a whole one of two lines. -/
def tries : List Writing :=
  [⟨Bytes.ofString "log", [], none⟩,
    ⟨Bytes.ofString "./log", Bytes.ofString "10:20", some 8⟩,
    ⟨Bytes.ofString "/tmp/work/log", Bytes.ofString "4:5", some 11⟩,
    ⟨Bytes.ofString "log", Bytes.ofString "6:7", some 11⟩,
    ⟨Bytes.ofString "log", Bytes.ofString "\n8:9", none⟩]

theorem writeAll_pieces_tries :
    let log := World.place "/tmp/work/log"
    openEnded.files.get? log = some (.file 0o600 (Bytes.ofString "1:2\n3")) ∧
    (∀ a ∈ tries, openEnded.LeadsTo a.path log) ∧
    (writeAll openEnded tries).2.files.get? log =
      some (.file 0o600 (Bytes.ofString "1:2\n3\n104:5\n8:9\n")) ∧
    Writing.AllHonest tries
      [Bytes.ofString "\n", Bytes.ofString "10", Bytes.ofString "4:5", [],
        Bytes.ofString "\n8:9\n"]
      (writeAll openEnded tries).1 := by
  intro log
  have there : openEnded.files.get? log = some (.file 0o600 (Bytes.ofString "1:2\n3")) := rfl
  have lead : ∀ a ∈ tries, openEnded.LeadsTo a.path log := by
    simp only [tries, List.forall_mem_cons, List.not_mem_nil, false_implies, implies_true,
      and_true]
    exact ⟨rfl, rfl, rfl, rfl, rfl⟩
  have pieces : Writing.pieces (Bytes.ofString "1:2\n3").length tries =
      [Bytes.ofString "\n", Bytes.ofString "10", Bytes.ofString "4:5", [],
        Bytes.ofString "\n8:9\n"] := by
    decide +kernel
  obtain ⟨grown, honest, -⟩ := writeAll_pieces there tries lead
  rw [pieces] at grown honest
  exact ⟨there, lead, grown, honest⟩

end LogSink
end Ancestry
