import Ancestry.Proofs.LegibleLines

/-!
# Lines that are no relation

A line between others that is text, but no relation, is read past: all that was recorded
without it is recorded with it. A line that is not even text ends the replay. What stands before
it stays recorded, and what stands behind it is lost, so such a line does no harm only where
there was nothing to lose: no relation is left behind it, or the replay ended before.
-/
namespace Ancestry

/-- The bytes of a line do not say a relation: they are no text, or a text that is none. -/
def NoRelation (line : Bytes) : Prop :=
  ∀ cs r, Utf8.decode line = .ok cs → Relation.ofChars cs ≠ .ok r

/-- A replay of some bytes records what a replay of others does, and counts as much. -/
def Replay.Unharmed (data spoiled : Bytes) : Prop :=
  ∀ t, (read t spoiled).2.tracker = (read t data).2.tracker ∧
    (read t spoiled).2.stats.relations = (read t data).2.stats.relations

theorem LogLine.relation_of_ofChars {cs : List Char} {r : Relation}
    (read : ofChars cs = relation r) : Relation.ofChars cs = .ok r := by
  unfold ofChars at read
  split at read
  · cases read
  · cases result : Relation.ofChars cs with
    | error e =>
      rw [result] at read
      cases read
    | ok s =>
      rw [result] at read
      rw [relation.inj read]

/-! ## The return before a newline -/

namespace Text

theorem strip_concat {α : Type} {p : α → Bool} {c : α} (drops : p c) (cs : List α) :
    strip p (cs ++ [c]) = strip p cs := by
  apply trimmed_iff.mp
  obtain ⟨tight, u, v, around, before, behind⟩ := trimmed_strip p cs
  refine ⟨tight, u, v ++ [c], ?_, before, ?_⟩
  · rw [← List.append_assoc, ← around]
  · exact List.forall_mem_append.mpr ⟨behind, List.forall_mem_singleton.mpr drops⟩

end Text

theorem Relation.ofChars_dropReturn (line : List Char) :
    ofChars (Text.dropReturn line) = ofChars line := by
  unfold Text.dropReturn
  split
  · rename_i last
    obtain ⟨front, rfl⟩ := List.getLast?_eq_some_iff.mp last
    rw [List.dropLast_concat, ofChars, ofChars, Text.strip_concat (by decide)]
  · rfl

namespace Utf8

theorem decode_dropFinalReturn {line : Bytes} {cs : List Char} (text : decode line = .ok cs) :
    decode (Text.dropFinalReturn line) = .ok (Text.dropReturn cs) := by
  rw [decode_eq_ok_iff] at text ⊢
  rw [text, Text.dropFinalReturn_encode]

theorem isText_of_dropFinalReturn {line : Bytes} (text : IsText (Text.dropFinalReturn line)) :
    IsText line := by
  unfold Text.dropFinalReturn at text
  split at text
  · rename_i last
    obtain ⟨front, rfl⟩ := List.getLast?_eq_some_iff.mp last
    obtain ⟨cs, read⟩ := text
    rw [List.dropLast_concat, decode_eq_ok_iff] at read
    -- A return is a character of its own and can stand behind any text.
    have whole : front ++ [13] = encode (cs ++ ['\r']) := by
      rw [read, encode_append]
      rfl
    rw [whole]
    exact isText_encode _
  · exact text

end Utf8

/-! ## One more line -/

theorem Text.lines_cons {line : Bytes} (single : 10 ∉ line) (after : Bytes) :
    lines (line ++ 10 :: after) = dropFinalReturn line :: lines after := by
  rw [lines_append_cons, pieces_of_not_mem single]
  rfl

namespace Replay

theorem linesRead_cons_of_not_text {line : Bytes} (single : 10 ∉ line)
    (stops : ¬ Utf8.IsText line) (after : Bytes) : linesRead (line ++ 10 :: after) = [] := by
  rw [linesRead, Text.lines_cons single, legible]
  split
  · rename_i cs read
    exact absurd (Utf8.isText_of_dropFinalReturn ⟨cs, read⟩) stops
  · rfl

theorem relationsIn_linesRead_cons {line : Bytes} (single : 10 ∉ line) (bad : NoRelation line)
    (text : Utf8.IsText line) (after : Bytes) :
    relationsIn (linesRead (line ++ 10 :: after)) = relationsIn (linesRead after) := by
  obtain ⟨cs, read⟩ := text
  have alone : relationsIn [Text.dropReturn cs] = [] := by
    rw [List.eq_nil_iff_forall_not_mem]
    intro r member
    obtain ⟨chars, there, reads⟩ := mem_relationsIn.mp member
    rw [List.mem_singleton.mp there] at reads
    have relation := LogLine.relation_of_ofChars reads
    rw [Relation.ofChars_dropReturn] at relation
    exact bad cs r read relation
  have first : linesRead (line ++ 10 :: after) = [Text.dropReturn cs] ++ linesRead after := by
    rw [linesRead, Text.lines_cons single, legible, Utf8.decode_dropFinalReturn read]
    rfl
  rw [first, relationsIn_append, alone, List.nil_append]

theorem unharmed_of_relationsIn {data spoiled : Bytes}
    (same : relationsIn (linesRead spoiled) = relationsIn (linesRead data)) :
    Unharmed data spoiled := by
  intro t
  obtain ⟨tracker, stats⟩ := read_state t data
  obtain ⟨tracker', stats'⟩ := read_state t spoiled
  rw [tracker, tracker', stats, stats', same]
  exact ⟨rfl, rfl⟩

theorem Unharmed.length_eq {data spoiled : Bytes} (unharmed : Unharmed data spoiled) :
    (relationsIn (linesRead spoiled)).length = (relationsIn (linesRead data)).length := by
  have count := (unharmed .empty).2
  rwa [(read_state _ data).2, (read_state _ spoiled).2] at count

section Between
variable {before line : Bytes} (ended : before = [] ∨ before.getLast? = some 10)
  (single : 10 ∉ line)
include ended single

theorem unharmed_of_text (bad : NoRelation line) (text : Utf8.IsText line) (after : Bytes) :
    Unharmed (before ++ after) (before ++ (line ++ 10 :: after)) := by
  apply unharmed_of_relationsIn
  by_cases readable : Readable before
  · rw [linesRead_append_of_readable ended readable, linesRead_append_of_readable ended readable,
      relationsIn_append, relationsIn_append, relationsIn_linesRead_cons single bad text]
  · rw [linesRead_append_of_not_readable ended readable,
      linesRead_append_of_not_readable ended readable]

theorem linesRead_of_not_text (stops : ¬ Utf8.IsText line) (after : Bytes) :
    linesRead (before ++ (line ++ 10 :: after)) = linesRead before := by
  by_cases readable : Readable before
  · rw [linesRead_append_of_readable ended readable, linesRead_cons_of_not_text single stops,
      List.append_nil]
  · rw [linesRead_append_of_not_readable ended readable]

theorem not_readable_of_not_text (stops : ¬ Utf8.IsText line) (after : Bytes) :
    ¬ Readable (before ++ (line ++ 10 :: after)) := by
  intro readable
  have rest := ((readable_append ended _).mp readable).2
  rw [Readable, Text.lines_cons single] at rest
  exact stops (Utf8.isText_of_dropFinalReturn (rest _ List.mem_cons_self))

theorem unharmed_iff_of_not_text (stops : ¬ Utf8.IsText line) (after : Bytes) :
    Unharmed (before ++ after) (before ++ (line ++ 10 :: after)) ↔
      ¬ Readable before ∨ relationsIn (linesRead after) = [] := by
  have kept := linesRead_of_not_text ended single stops after
  by_cases readable : Readable before
  · have whole := linesRead_append_of_readable ended readable after
    constructor
    · intro unharmed
      have count := unharmed.length_eq
      rw [kept, whole, relationsIn_append, List.length_append] at count
      exact .inr (List.length_eq_zero_iff.mp (by omega))
    · rintro (never | nothing)
      · exact absurd readable never
      · apply unharmed_of_relationsIn
        rw [kept, whole, relationsIn_append, nothing, List.append_nil]
  · have nothing := linesRead_append_of_not_readable ended readable after
    exact iff_of_true (unharmed_of_relationsIn (by rw [kept, nothing])) (.inl readable)

end Between

/-- A line that is no relation does no harm exactly if it is text, or if what stands before it
already ends the replay, or if no relation can be read behind it. One that is no text ends the
replay with an error, and only what stands before it is recorded. -/
theorem unharmed_iff {before line : Bytes} (ended : before = [] ∨ before.getLast? = some 10)
    (single : 10 ∉ line) (bad : NoRelation line) (after : Bytes) :
    (Unharmed (before ++ after) (before ++ line ++ 10 :: after) ↔
      Utf8.IsText line ∨ ¬ Readable before ∨ relationsIn (linesRead after) = []) ∧
    (¬ Utf8.IsText line → ∀ t,
      (read t (before ++ line ++ 10 :: after)).1 = .error .malformedText ∧
      (read t (before ++ line ++ 10 :: after)).2.tracker =
        t.addAll (relationsIn (linesRead before))) := by
  rw [List.append_assoc]
  constructor
  · by_cases text : Utf8.IsText line
    · exact iff_of_true (unharmed_of_text ended single bad text after) (.inl text)
    · rw [unharmed_iff_of_not_text ended single text, or_iff_right text]
  · intro stops t
    refine ⟨read_malformedText (not_readable_of_not_text ended single stops after) t, ?_⟩
    rw [(read_state t _).1, linesRead_of_not_text ended single stops]

/-- A byte that begins no character. -/
theorem not_isText_stray : ¬ Utf8.IsText [0xFF] := by
  have refused : (Utf8.decode [0xFF]).isOk = false := by decide +kernel
  rintro ⟨cs, read⟩
  rw [read] at refused
  cases refused

theorem noRelation_stray : NoRelation [0xFF] :=
  fun cs _ read => absurd ⟨cs, read⟩ not_isText_stray

/-- A zero byte in a pid is read past, and a byte that is no text is not. -/
theorem unharmed_iff_between :
    let before := Bytes.ofString "1:10\n"
    let after := Bytes.ofString "20:40\n"
    Unharmed (before ++ after) (before ++ Bytes.ofString "10:2\x001" ++ 10 :: after) ∧
    ∀ t, (read t (before ++ [0xFF] ++ 10 :: after)).1 = .error .malformedText ∧
      (read t (before ++ [0xFF] ++ 10 :: after)).2.tracker = t.addAll [.exec 1 10] := by
  intro before after
  have ended : before = [] ∨ before.getLast? = some 10 := .inr (by decide)
  have torn : NoRelation (Bytes.ofString "10:2\x001") := by
    intro cs r read
    rw [Bytes.ofString, Utf8.decode_encode] at read
    have refused : (Relation.ofChars "10:2\x001".toList).isOk = false := by decide +kernel
    rw [← Except.ok.inj read]
    intro parsed
    rw [parsed] at refused
    cases refused
  have kept : relationsIn (linesRead before) = [.exec 1 10] := by decide +kernel
  constructor
  · exact (unharmed_iff ended (by decide) torn after).1.mpr (.inl (Utf8.isText_encode _))
  · rw [← kept]
    exact (unharmed_iff ended (by decide) noRelation_stray after).2 not_isText_stray

/-- A line that is no relation is not the only one affected: a byte that is no text takes what
stands behind it along. -/
theorem stray_byte_harms :
    let before := Bytes.ofString "1:10\n"
    let after := Bytes.ofString "20:40\n"
    before.getLast? = some 10 ∧ 10 ∉ [(0xFF : UInt8)] ∧ NoRelation [0xFF] ∧
      ¬ Unharmed (before ++ after) (before ++ [0xFF] ++ 10 :: after) := by
  refine ⟨by decide, by decide, noRelation_stray, fun unharmed => ?_⟩
  have counts := (unharmed .empty).2
  revert counts
  decide +kernel

end Replay
end Ancestry
