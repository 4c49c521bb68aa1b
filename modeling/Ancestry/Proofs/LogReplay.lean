import Ancestry.Proofs.Encoding
import Ancestry.Proofs.LogLines
import Ancestry.Supervisor.Replay

/-!
# Replaying a log of text

The replay of a text comes to its end, and what it leaves can be told line by line: the
tracker has the relations of the lines added in their order, and the two counts are the
numbers of lines that are relations and of lines that are malformed.

A log grows by lines. A text that ends with a newline, followed by the lines of some
relations, is replayed as the text alone and then those relations.
-/
namespace Ancestry

namespace LogLine

/-- The relation of a line that is one. -/
def relation? : LogLine → Option Relation
  | relation r => some r
  | _ => none

def isMalformed : LogLine → Bool
  | malformed _ => true
  | _ => false

theorem ofChars_toChars (r : Relation) : ofChars r.toChars = relation r := by
  have visible : ¬ r.toChars.all Text.isBlank = true := by
    obtain ⟨c, rest, chars⟩ := List.exists_cons_of_ne_nil r.toChars_ne_nil
    have blank : Text.isBlank c = false :=
      Relation.isBlank_of_mem_toChars (chars ▸ List.mem_cons_self : c ∈ r.toChars)
    rw [chars, List.all_cons, blank, Bool.false_and]
    exact Bool.false_ne_true
  rw [ofChars, if_neg visible, Relation.ofChars_toChars]

end LogLine

namespace Tracker

theorem addAll_append (t : Tracker) (rs more : List Relation) :
    t.addAll (rs ++ more) = (t.addAll rs).addAll more :=
  List.foldl_append

end Tracker

namespace Replay

/-- The replay after some lines, the first of which has a given number. -/
def steps (s : Replay) (number : Nat) : List (List Char) → Replay
  | [] => s
  | line :: more => (s.step number line).steps (number + 1) more

/-- The relations of some lines, in their order. -/
def relationsIn (lines : List (List Char)) : List Relation :=
  lines.filterMap fun line => (LogLine.ofChars line).relation?

/-- The number of lines that are neither blank nor a relation. -/
def malformedIn (lines : List (List Char)) : Nat :=
  lines.countP fun line => (LogLine.ofChars line).isMalformed

/-! ## One line and all lines -/

theorem step_tracker (s : Replay) (number : Nat) (line : List Char) :
    (s.step number line).tracker = s.tracker.addAll (relationsIn [line]) := by
  cases kind : LogLine.ofChars line <;>
    simp [step, log, relationsIn, LogLine.relation?, Tracker.addAll, kind]

theorem step_stats (s : Replay) (number : Nat) (line : List Char) :
    (s.step number line).stats =
      ⟨s.stats.relations + (relationsIn [line]).length,
        s.stats.malformed + malformedIn [line]⟩ := by
  cases kind : LogLine.ofChars line <;>
    simp [step, log, relationsIn, malformedIn, LogLine.relation?, LogLine.isMalformed, kind]

theorem relationsIn_append (lines more : List (List Char)) :
    relationsIn (lines ++ more) = relationsIn lines ++ relationsIn more :=
  List.filterMap_append

theorem malformedIn_append (lines more : List (List Char)) :
    malformedIn (lines ++ more) = malformedIn lines + malformedIn more :=
  List.countP_append

/-- What the steps do to the tracker is what the relations of the lines do. -/
theorem steps_tracker (s : Replay) (number : Nat) (lines : List (List Char)) :
    (s.steps number lines).tracker = s.tracker.addAll (relationsIn lines) := by
  induction lines generalizing s number with
  | nil => rfl
  | cons line more ih =>
    rw [steps, ih, step_tracker, ← Tracker.addAll_append, ← relationsIn_append,
      List.singleton_append]

theorem steps_stats (s : Replay) (number : Nat) (lines : List (List Char)) :
    (s.steps number lines).stats =
      ⟨s.stats.relations + (relationsIn lines).length,
        s.stats.malformed + malformedIn lines⟩ := by
  induction lines generalizing s number with
  | nil => rfl
  | cons line more ih =>
    have first : line :: more = [line] ++ more := rfl
    rw [steps, ih, step_stats, first, relationsIn_append, malformedIn_append,
      List.length_append, ← Nat.add_assoc, ← Nat.add_assoc]

/-- Lines of text never stop a replay. -/
theorem readLines_encode (s : Replay) (number : Nat) (lines : List (List Char)) :
    s.readLines number (lines.map Utf8.encode) = (.ok (), s.steps number lines) := by
  induction lines generalizing s number with
  | nil => rfl
  | cons line more ih =>
    rw [List.map_cons, readLines, Utf8.decode_encode]
    exact ih _ _

/-! ## Whole logs -/

theorem read_encode (t : Tracker) (cs : List Char) :
    ∃ s, read t (Utf8.encode cs) =
        (.ok ⟨(relationsIn (Text.textLines cs)).length, malformedIn (Text.textLines cs)⟩, s) ∧
      s.tracker = t.addAll (relationsIn (Text.textLines cs)) := by
  refine ⟨((start t).steps 1 (Text.textLines cs)).finish, ?_, ?_⟩
  · rw [read, Text.lines_encode, readLines_encode]
    dsimp only
    rw [steps_stats]
    simp only [start, Nat.zero_add]
  · rw [finish, log, steps_tracker]
    rfl

/-- The line of a relation, as it stands in a log. -/
def lineOf (r : Relation) : List Char := r.toChars ++ ['\n']

theorem textLines_lineOf (r : Relation) : Text.textLines (lineOf r) = [r.toChars] := by
  apply Text.textLines_line
  · intro member
    exact absurd (Relation.toNat_of_mem_toChars member) (by decide)
  · intro member
    exact absurd (Relation.toNat_of_mem_toChars member) (by decide)

theorem ended_lineOf (r : Relation) : Text.Ended (lineOf r) :=
  .inr List.getLast?_concat

theorem textLines_flatMap_lineOf (rs : List Relation) :
    Text.textLines (rs.flatMap lineOf) = rs.map Relation.toChars := by
  induction rs with
  | nil => rfl
  | cons r rs ih =>
    rw [List.flatMap_cons, Text.textLines_append (ended_lineOf r), textLines_lineOf, ih,
      List.map_cons, List.singleton_append]

theorem relationsIn_toChars (rs : List Relation) :
    relationsIn (rs.map Relation.toChars) = rs := by
  induction rs with
  | nil => rfl
  | cons r rs ih =>
    rw [List.map_cons, ← List.singleton_append, relationsIn_append, ih]
    simp [relationsIn, LogLine.ofChars_toChars, LogLine.relation?]

theorem malformedIn_toChars (rs : List Relation) :
    malformedIn (rs.map Relation.toChars) = 0 := by
  induction rs with
  | nil => rfl
  | cons r rs ih =>
    rw [List.map_cons, ← List.singleton_append, malformedIn_append, ih]
    simp [malformedIn, LogLine.ofChars_toChars, LogLine.isMalformed]

/-- Lines written behind an ended text are replayed behind it, and none is malformed. -/
theorem relationsIn_grown {cs : List Char} (ended : Text.Ended cs) (rs : List Relation) :
    relationsIn (Text.textLines (cs ++ rs.flatMap lineOf)) =
      relationsIn (Text.textLines cs) ++ rs := by
  rw [Text.textLines_append ended, relationsIn_append, textLines_flatMap_lineOf,
    relationsIn_toChars]

theorem malformedIn_grown {cs : List Char} (ended : Text.Ended cs) (rs : List Relation) :
    malformedIn (Text.textLines (cs ++ rs.flatMap lineOf)) =
      malformedIn (Text.textLines cs) := by
  rw [Text.textLines_append ended, malformedIn_append, textLines_flatMap_lineOf,
    malformedIn_toChars, Nat.add_zero]

end Replay
end Ancestry
