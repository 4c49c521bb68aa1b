import Ancestry.Proofs.LogReplay
import Ancestry.Supervisor.LogFile

/-!
# Replaying any bytes

A log need not be text. Its lines are read up to the first that is none, and what a replay
does is told by the lines read: the relations among them are added in their order, and the
malformed ones are counted. Whether the replay comes to its end depends on nothing but
whether all lines are text.

If a log that ends with a newline is read to its end, what is put behind it is read after
it. If not, nothing that is put behind it is ever read.
-/
namespace Ancestry

/-- Bytes that some characters are encoded as. -/
def Utf8.IsText (data : Bytes) : Prop := ∃ cs, Utf8.decode data = .ok cs

theorem Utf8.isText_encode (cs : List Char) : IsText (encode cs) :=
  ⟨cs, decode_encode cs⟩

namespace Replay

/-- The lines before the first that is no text. -/
def legible : List Bytes → List (List Char)
  | [] => []
  | line :: more =>
    match Utf8.decode line with
    | .ok cs => cs :: legible more
    | .error _ => []

theorem legible_encode (lines : List (List Char)) : legible (lines.map Utf8.encode) = lines := by
  induction lines with
  | nil => rfl
  | cons line more ih => rw [List.map_cons, legible, Utf8.decode_encode, ih]

/-- The lines of a log that a replay reads. -/
def linesRead (data : Bytes) : List (List Char) := legible (Text.lines data)

/-- A log that is read to its end. -/
def Readable (data : Bytes) : Prop := ∀ line ∈ Text.lines data, Utf8.IsText line

theorem linesRead_encode (cs : List Char) : linesRead (Utf8.encode cs) = Text.textLines cs := by
  rw [linesRead, Text.lines_encode, legible_encode]

theorem readable_encode (cs : List Char) : Readable (Utf8.encode cs) := by
  intro line member
  rw [Text.lines_encode] at member
  obtain ⟨chars, -, rfl⟩ := List.mem_map.mp member
  exact Utf8.isText_encode chars

/-! ## Logs put behind others -/

theorem legible_append_of_text {lines : List Bytes} (text : ∀ line ∈ lines, Utf8.IsText line)
    (more : List Bytes) : legible (lines ++ more) = legible lines ++ legible more := by
  induction lines with
  | nil => rfl
  | cons line lines ih =>
    obtain ⟨⟨cs, read⟩, text⟩ := List.forall_mem_cons.mp text
    simp only [List.cons_append, legible, read, ih text]

theorem legible_append_of_not_text {lines : List Bytes}
    (stops : ¬ ∀ line ∈ lines, Utf8.IsText line) (more : List Bytes) :
    legible (lines ++ more) = legible lines := by
  induction lines with
  | nil => exact absurd (List.forall_mem_nil _) stops
  | cons line lines ih =>
    cases read : Utf8.decode line with
    | error e => simp only [List.cons_append, legible, read]
    | ok cs =>
      have later : ¬ ∀ line ∈ lines, Utf8.IsText line := by
        intro text
        exact stops (List.forall_mem_cons.mpr ⟨⟨cs, read⟩, text⟩)
      simp only [List.cons_append, legible, read, ih later]

section Append
variable {data : Bytes} (ended : data = [] ∨ data.getLast? = some 10)
include ended

theorem linesRead_append_of_readable (readable : Readable data) (more : Bytes) :
    linesRead (data ++ more) = linesRead data ++ linesRead more := by
  rw [linesRead, Text.lines_append ended, legible_append_of_text readable]
  rfl

theorem linesRead_append_of_not_readable (stops : ¬ Readable data) (more : Bytes) :
    linesRead (data ++ more) = linesRead data := by
  rw [linesRead, Text.lines_append ended, legible_append_of_not_text stops]
  rfl

theorem readable_append (more : Bytes) :
    Readable (data ++ more) ↔ Readable data ∧ Readable more := by
  rw [Readable, Text.lines_append ended]
  exact List.forall_mem_append

end Append

/-! ## What a replay comes to -/

theorem readLines_steps (s : Replay) (number : Nat) (lines : List Bytes) :
    (s.readLines number lines).2 = s.steps number (legible lines) := by
  induction lines generalizing s number with
  | nil => rfl
  | cons line more ih =>
    cases read : Utf8.decode line with
    | error e => simp only [readLines, legible, read, steps]
    | ok cs =>
      simp only [readLines, legible, read, steps]
      exact ih _ _

theorem readLines_eq_ok (s : Replay) (number : Nat) (lines : List Bytes) :
    (s.readLines number lines).1 = .ok () ↔ ∀ line ∈ lines, Utf8.IsText line := by
  induction lines generalizing s number with
  | nil => simp [readLines]
  | cons line more ih =>
    cases read : Utf8.decode line with
    | error e => simp [readLines, read, Utf8.IsText]
    | ok cs => simp [readLines, read, ih, Utf8.IsText]

theorem read_state (t : Tracker) (data : Bytes) :
    (read t data).2.tracker = t.addAll (relationsIn (linesRead data)) ∧
      (read t data).2.stats =
        ⟨(relationsIn (linesRead data)).length, malformedIn (linesRead data)⟩ := by
  have steps := readLines_steps (start t) 1 (Text.lines data)
  have same : (read t data).2.tracker = ((start t).readLines 1 (Text.lines data)).2.tracker ∧
      (read t data).2.stats = ((start t).readLines 1 (Text.lines data)).2.stats := by
    unfold read
    split <;> rename_i reading <;> rw [reading] <;> exact ⟨rfl, rfl⟩
  rw [same.1, same.2, steps, steps_tracker, steps_stats]
  simp only [start, linesRead, Nat.zero_add, and_self]

theorem read_eq_ok (t : Tracker) (data : Bytes) :
    (∃ stats, (read t data).1 = .ok stats) ↔ Readable data := by
  rw [Readable, ← readLines_eq_ok (start t) 1]
  unfold read
  split <;> rename_i reading <;> rw [reading] <;> simp

/-- A replay that comes to its end tells what it counted. -/
theorem read_result {data : Bytes} (readable : Readable data) (t : Tracker) :
    (read t data).1 = .ok (read t data).2.stats := by
  obtain ⟨stats, result⟩ := (read_eq_ok t data).mpr readable
  unfold read at result ⊢
  split
  · rename_i reading
    rw [reading] at result
    cases result
  · rfl

/-- A line that is no text is the only thing that ends a replay early. -/
theorem read_malformedText {data : Bytes} (stops : ¬ Readable data) (t : Tracker) :
    (read t data).1 = .error .malformedText := by
  have only (s : Replay) (number : Nat) (lines : List Bytes) :
      (s.readLines number lines).1 = .ok () ∨
        (s.readLines number lines).1 = .error .malformedText := by
    induction lines generalizing s number with
    | nil => exact .inl rfl
    | cons line more ih =>
      rw [readLines]
      split
      · exact .inr rfl
      · exact ih _ _
  have failed : ((start t).readLines 1 (Text.lines data)).1 = .error .malformedText :=
    (only _ _ _).resolve_left fun done => stops ((readLines_eq_ok _ _ _).mp done)
  unfold read
  split <;> rename_i reading <;> rw [reading] at failed
  · exact congrArg Except.error (Except.error.inj failed)
  · cases failed

theorem mem_relationsIn {lines : List (List Char)} {r : Relation} :
    r ∈ relationsIn lines ↔ ∃ line ∈ lines, LogLine.ofChars line = .relation r := by
  have kind (line : List Char) :
      (LogLine.ofChars line).relation? = some r ↔ LogLine.ofChars line = .relation r := by
    cases LogLine.ofChars line <;> simp [LogLine.relation?]
  simp only [relationsIn, List.mem_filterMap, kind]

end Replay

namespace LogFile

/-- What a replay adds is settled by the log, whatever the tracker knew before. -/
theorem exists_replay_tracker (w : World) (path : Bytes) :
    ∃ relations, ∀ t, (replay w path t).2.tracker = t.addAll relations := by
  unfold replay
  cases w.openRead path with
  | error e => exact ⟨[], fun _ => rfl⟩
  | ok node =>
    cases content : World.contentOf node with
    | error e => exact ⟨[], fun t => by simp only [Failure.during, content]; rfl⟩
    | ok data =>
      refine ⟨Replay.relationsIn (Replay.linesRead data), fun t => ?_⟩
      simp only [Failure.during, content]
      exact (Replay.read_state t data).1

end LogFile
end Ancestry
