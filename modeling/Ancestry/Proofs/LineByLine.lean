import Ancestry.Proofs.LogReplay

/-!
# A replay line by line

A replay of text is settled by its lines, each by itself. A line of nothing but blanks is passed
over, but has a number. Any other is a relation and is added, or is none and is reported with its
number and what stands in it. So the tracker, the counts and the records of a replay can be read
off the numbered lines that are not blank, and every line is counted once.
-/
namespace Ancestry

/-- A line is one of three things. A relation may have blanks around it, a blank line nothing
else. -/
theorem LogLine.ofChars_cases (line : List Char) :
    (line.all Text.isBlank = true ∧ ofChars line = blank) ∨
    (line.all Text.isBlank = false ∧
      ((∃ r, Relation.ofChars line = .ok r ∧ ofChars line = relation r) ∨
        ∃ e, Relation.ofChars line = .error e ∧ ofChars line = malformed e)) := by
  unfold ofChars
  by_cases empty : line.all Text.isBlank = true
  · exact .inl ⟨empty, if_pos empty⟩
  · rw [if_neg empty]
    refine .inr ⟨Bool.not_eq_true _ ▸ empty, ?_⟩
    cases read : Relation.ofChars line with
    | ok r => exact .inl ⟨r, rfl, rfl⟩
    | error e => exact .inr ⟨e, rfl, rfl⟩

namespace Replay

/-- The lines that are not blank, with their numbers. The first line has a given one. -/
def visible (first : Nat) (lines : List (List Char)) : List (List Char × Nat) :=
  (lines.zipIdx first).filter fun (line, _) => !line.all Text.isBlank

/-- The relations among some lines. -/
def relationsOf (numbered : List (List Char × Nat)) : List Relation :=
  numbered.filterMap fun (line, _) => (Relation.ofChars line).toOption

/-- A line that is no relation, and why it is none. -/
structure Skipped where
  number : Nat
  line : List Char
  reason : RelationError
  deriving Repr, DecidableEq

/-- The lines that are no relation. -/
def skippedOf (numbered : List (List Char × Nat)) : List Skipped :=
  numbered.filterMap fun (line, number) =>
    match Relation.ofChars line with
    | .ok _ => none
    | .error e => some ⟨number, line, e⟩

/-- What is reported about a line that is no relation. -/
def Skipped.warning (s : Skipped) : Record :=
  ⟨.warn, source,
    s!"Skipping malformed line {s.number}: {Text.quoted s.line} ({s.reason.message})"⟩

/-- What is reported at the end of a replay. -/
def summary (stats : ReplayStats) : Record := ⟨.debug, source, "Replayed " ++ stats.describe⟩

/-! ## One line -/

theorem visible_cons (first : Nat) (line : List Char) (more : List (List Char)) :
    visible first (line :: more) = visible first [line] ++ visible (first + 1) more := by
  rw [visible, List.zipIdx_cons, ← List.singleton_append, List.filter_append]
  rfl

theorem relationsOf_append (numbered more : List (List Char × Nat)) :
    relationsOf (numbered ++ more) = relationsOf numbered ++ relationsOf more :=
  List.filterMap_append

theorem skippedOf_append (numbered more : List (List Char × Nat)) :
    skippedOf (numbered ++ more) = skippedOf numbered ++ skippedOf more :=
  List.filterMap_append

theorem relationsIn_line (number : Nat) (line : List Char) :
    relationsIn [line] = relationsOf (visible number [line]) := by
  rcases LogLine.ofChars_cases line with ⟨empty, kind⟩ | ⟨shown, ⟨r, read, kind⟩ | ⟨e, read, kind⟩⟩
  · simp [relationsIn, relationsOf, visible, kind, empty, LogLine.relation?]
  · simp [relationsIn, relationsOf, visible, kind, shown, read, LogLine.relation?, Except.toOption]
  · simp [relationsIn, relationsOf, visible, kind, shown, read, LogLine.relation?, Except.toOption]

theorem malformedIn_line (number : Nat) (line : List Char) :
    malformedIn [line] = (skippedOf (visible number [line])).length := by
  rcases LogLine.ofChars_cases line with ⟨empty, kind⟩ | ⟨shown, ⟨r, read, kind⟩ | ⟨e, read, kind⟩⟩
  · simp [malformedIn, skippedOf, visible, kind, empty, LogLine.isMalformed]
  · simp [malformedIn, skippedOf, visible, kind, shown, read, LogLine.isMalformed]
  · simp [malformedIn, skippedOf, visible, kind, shown, read, LogLine.isMalformed]

/-- A step reports its line if that is no relation, and else says nothing. -/
theorem step_records (s : Replay) (number : Nat) (line : List Char) :
    (s.step number line).records =
      s.records ++ (skippedOf (visible number [line])).map Skipped.warning := by
  rcases LogLine.ofChars_cases line with ⟨empty, kind⟩ | ⟨shown, ⟨r, read, kind⟩ | ⟨e, read, kind⟩⟩
  · simp [step, skippedOf, visible, kind, empty]
  · simp [step, skippedOf, visible, kind, shown, read]
  · simp [step, log, skippedOf, visible, kind, shown, read, Skipped.warning]

/-! ## All lines -/

theorem relationsIn_eq (number : Nat) (lines : List (List Char)) :
    relationsIn lines = relationsOf (visible number lines) := by
  induction lines generalizing number with
  | nil => rfl
  | cons line more ih =>
    rw [visible_cons, relationsOf_append, ← relationsIn_line, ← ih (number + 1),
      ← relationsIn_append, List.singleton_append]

theorem malformedIn_eq (number : Nat) (lines : List (List Char)) :
    malformedIn lines = (skippedOf (visible number lines)).length := by
  induction lines generalizing number with
  | nil => rfl
  | cons line more ih =>
    rw [visible_cons, skippedOf_append, List.length_append, ← malformedIn_line, ← ih (number + 1),
      ← malformedIn_append, List.singleton_append]

theorem steps_records (s : Replay) (number : Nat) (lines : List (List Char)) :
    (s.steps number lines).records =
      s.records ++ (skippedOf (visible number lines)).map Skipped.warning := by
  induction lines generalizing s number with
  | nil => simp [steps, visible, skippedOf]
  | cons line more ih =>
    rw [steps, ih, step_records, visible_cons number line more, skippedOf_append,
      List.map_append, List.append_assoc]

/-- A line that is not blank is a relation or is skipped. -/
theorem length_relationsOf_add_skippedOf (numbered : List (List Char × Nat)) :
    (relationsOf numbered).length + (skippedOf numbered).length = numbered.length := by
  induction numbered with
  | nil => rfl
  | cons first more ih =>
    obtain ⟨line, number⟩ := first
    cases read : Relation.ofChars line with
    | ok r =>
      simp only [relationsOf, skippedOf, List.filterMap_cons, read, Except.toOption,
        List.length_cons] at ih ⊢
      omega
    | error e =>
      simp only [relationsOf, skippedOf, List.filterMap_cons, read, Except.toOption,
        List.length_cons] at ih ⊢
      omega

theorem length_visible (first : Nat) (lines : List (List Char)) :
    (visible first lines).length + lines.countP (·.all Text.isBlank) = lines.length := by
  induction lines generalizing first with
  | nil => rfl
  | cons line more ih =>
    have rest := ih (first + 1)
    rw [visible_cons, List.length_append, List.countP_cons, List.length_cons]
    by_cases empty : line.all Text.isBlank = true
    · simp [visible, empty] at rest ⊢
      omega
    · simp [visible, empty] at rest ⊢
      omega

/-! ## A whole log -/

/-- A log of text is read to its end. The relations of its lines are added in their order, a line
that is neither blank nor a relation is reported by its number, once and in order, and each line is
counted as a relation, as malformed, or is blank. -/
theorem read_text (t : Tracker) {data : Bytes} {cs : List Char}
    (text : Utf8.decode data = .ok cs) :
    let lines := Text.textLines cs
    let relations := relationsOf (visible 1 lines)
    let skipped := skippedOf (visible 1 lines)
    let stats : ReplayStats := ⟨relations.length, skipped.length⟩
    read t data =
        (.ok stats,
          ⟨t.addAll relations, stats, skipped.map Skipped.warning ++ [summary stats]⟩) ∧
      relations.length + skipped.length + lines.countP (·.all Text.isBlank) = lines.length := by
  intro lines relations skipped stats
  obtain rfl : data = Utf8.encode cs := Utf8.decode_eq_ok_iff.mp text
  have last : (start t).steps 1 lines =
      ⟨t.addAll relations, stats, skipped.map Skipped.warning⟩ := by
    have tracker := steps_tracker (start t) 1 lines
    have counts := steps_stats (start t) 1 lines
    have records := steps_records (start t) 1 lines
    rw [relationsIn_eq 1] at tracker counts
    rw [malformedIn_eq 1] at counts
    generalize (start t).steps 1 lines = s at tracker counts records
    cases s
    simp only [start, Nat.zero_add, List.nil_append] at tracker counts records
    rw [tracker, counts, records]
  constructor
  · rw [read, Text.lines_encode, readLines_encode, last]
    rfl
  · rw [length_relationsOf_add_skippedOf, length_visible]

/-- A log with a line that ends in a carriage return, one of a blank that is not of ASCII, one that
is no relation, and a last one that was not ended. -/
def mixedLog : String := "1:10\r\n\u00a0\n10:20:\n-1:7:+08\r"

theorem read_text_mixed :
    let stats : ReplayStats := ⟨2, 1⟩
    read .empty (Bytes.ofString mixedLog) =
      (.ok stats,
        ⟨Tracker.empty.addAll [.exec 1 10, .fork (-1) 7 8], stats,
          [Skipped.warning ⟨3, "10:20:".toList, .invalidPid⟩, summary stats]⟩) ∧
      2 + 1 + 1 = (Text.textLines mixedLog.toList).length := by
  have text : Utf8.decode (Bytes.ofString mixedLog) = .ok mixedLog.toList :=
    Utf8.decode_encode _
  have relations : relationsOf (visible 1 (Text.textLines mixedLog.toList)) =
      [.exec 1 10, .fork (-1) 7 8] := by
    decide +kernel
  have skipped : skippedOf (visible 1 (Text.textLines mixedLog.toList)) =
      [⟨3, "10:20:".toList, .invalidPid⟩] := by
    decide +kernel
  have blank : (Text.textLines mixedLog.toList).countP (·.all Text.isBlank) = 1 := by
    decide +kernel
  obtain ⟨result, counted⟩ := read_text .empty text
  rw [relations, skipped] at result
  rw [relations, skipped, blank] at counted
  exact ⟨result, counted⟩

end Replay
end Ancestry
