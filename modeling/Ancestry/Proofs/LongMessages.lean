import Ancestry.Proofs.BoundedReading
import Ancestry.Proofs.Encoding

/-!
# Messages that are too long

No more is read of a message than there is room for, and what is read is taken for the message.
Nobody looks at what is behind it. So a message that is too long is refused if its front is no text
of a relation, and otherwise the relation of the front is recorded, although the message itself is
the text of another one or of none.

A relation as it is written is much shorter than that. A front that is the text of a relation has
blanks at its ends, or a field with a plus sign or with zeros that could be left out.
-/
namespace Ancestry
open Text Decimal

/-! ## Zeros that could be left out -/

theorem Decimal.ofDigitChars_zeros (n : Nat) (ds : List Char) :
    Nat.ofDigitChars 10 (List.replicate n '0' ++ ds) 0 = Nat.ofDigitChars 10 ds 0 := by
  induction n with
  | zero => rfl
  | succ n ih =>
    rw [List.replicate_succ, List.cons_append, Nat.ofDigitChars_cons]
    exact ih

theorem Decimal.numeral_zeros (n : Nat) {ds : List Char} (nonempty : ds ≠ [])
    (digits : ∀ c ∈ ds, c.isDigit) :
    Numeral (List.replicate n '0' ++ ds) (Nat.ofDigitChars 10 ds 0 : Nat) := by
  have all : ∀ c ∈ List.replicate n '0' ++ ds, c.isDigit := by
    intro c member
    cases List.mem_append.mp member with
    | inl zero =>
      rw [List.eq_of_mem_replicate zero]
      rfl
    | inr digit => exact digits c digit
  have numeral := Numeral.mk .bare (List.append_ne_nil_of_right_ne_nil _ nonempty) all
  rwa [ofDigitChars_zeros] at numeral

theorem Decimal.toNat_of_mem_numeral {f : List Char} {v : Int} (numeral : Numeral f v) {c : Char}
    (member : c ∈ f) : c.toNat = 43 ∨ c.toNat = 45 ∨ 48 ≤ c.toNat ∧ c.toNat ≤ 57 := by
  cases numeral with
  | mk sign nonempty digits =>
    cases List.mem_append.mp member with
    | inl front =>
      cases sign with
      | bare => cases front
      | plus => exact .inl (List.mem_singleton.mp front ▸ rfl)
      | minus => exact .inr (.inl (List.mem_singleton.mp front ▸ rfl))
    | inr digit => exact .inr (.inr (toNat_of_isDigit (digits c digit)))

theorem Utf8.encode_replicate {c : Char} (ascii : c.toNat < 0x80) (n : Nat) :
    encode (List.replicate n c) = List.replicate n (UInt8.ofNat c.toNat) := by
  induction n with
  | zero => rfl
  | succ n ih =>
    rw [List.replicate_succ, encode_cons, encodeChar_of_ascii ascii, ih]
    rfl

namespace Relation
variable {f g : List Char} {p q : Pid}

/-- Two pids with a colon between them, with whatever signs and zeros, are an exec. -/
theorem denotes_exec (first : IsPid f p) (second : IsPid g q) :
    Denotes (f ++ ':' :: g) (.ok (exec p q)) := by
  have noColon {h : List Char} {r : Pid} (pid : IsPid h r) : ':' ∉ h := by
    intro member
    have range := toNat_of_mem_numeral pid member
    have colon : ':'.toNat = 58 := rfl
    omega
  have noBlank : ∀ c ∈ f ++ ':' :: g, isAsciiBlank c = false := by
    intro c member
    have range : c.toNat = 43 ∨ c.toNat = 45 ∨ 48 ≤ c.toNat ∧ c.toNat ≤ 58 := by
      cases List.mem_append.mp member with
      | inl inFirst =>
        have := toNat_of_mem_numeral first inFirst
        omega
      | inr behind =>
        cases List.mem_cons.mp behind with
        | inl colon =>
          subst colon
          decide
        | inr inSecond =>
          have := toNat_of_mem_numeral second inSecond
          omega
    rw [Bool.eq_false_iff]
    intro ascii
    have blank := isBlank_of_isAsciiBlank ascii
    simp only [isBlank, Bool.or_eq_true, Bool.and_eq_true, decide_eq_true_eq] at blank
    omega
  have tight : Tight isAsciiBlank (f ++ ':' :: g) :=
    ⟨fun c h => noBlank c (List.mem_of_head? h), fun c h => noBlank c (List.mem_of_getLast? h)⟩
  have separated : Separated ':' [f, g] (f ++ ':' :: g) := by
    refine ⟨List.cons_ne_nil _ _, fun h member => ?_, by simp⟩
    cases List.mem_cons.mp member with
    | inl same => exact same ▸ noColon first
    | inr other => exact List.mem_singleton.mp other ▸ noColon second
  exact .mk ⟨tight, [], [], by simp, by simp, by simp⟩ separated (.exec first second)

end Relation

namespace Connection
section Front
variable {t : Tracker} {a : Arrival} {r : Relation}

theorem outcome_long {stream : Bytes} (long : maxMessage ≤ stream.length) (broken : Bool) :
    outcome broken stream = .ok (stream.take maxMessage) := by
  rw [outcome, if_neg]
  omega

/-- A message with a full front is handled as a message that is this front and ends. -/
theorem handle_front (long : maxMessage ≤ a.pieces.flatten.length) (t : Tracker) :
    handle t a = handle t ⟨[a.pieces.flatten.take maxMessage], false⟩ := by
  have front : receive ⟨[a.pieces.flatten.take maxMessage], false⟩ =
      .ok (a.pieces.flatten.take maxMessage) := by
    rw [receive_eq, List.flatten_singleton]
    exact outcome_ended rfl (List.length_take_le _ _)
  rw [handle, handle, front, receive_eq, outcome_long long]

/-- The front of a message, known to be the text of some characters. -/
theorem front_eq {cs : List Char} {rest : Bytes}
    (text : a.pieces.flatten = Utf8.encode cs ++ rest) (more : rest ≠ [])
    (full : (Utf8.encode cs).length = maxMessage) :
    maxMessage < a.pieces.flatten.length ∧
      a.pieces.flatten.take maxMessage = Utf8.encode cs := by
  have behind : 0 < rest.length := List.length_pos_iff.mpr more
  rw [text, List.take_left' full, List.length_append, full]
  exact ⟨Nat.lt_add_of_pos_right behind, rfl⟩

theorem result_long (long : maxMessage ≤ a.pieces.flatten.length) (t : Tracker) :
    (handle t a).result = decode (a.pieces.flatten.take maxMessage) :=
  handle_received ((receive_eq a).trans (outcome_long long _)) t

theorem recorded_long (long : maxMessage ≤ a.pieces.flatten.length)
    (spells : Spells (a.pieces.flatten.take maxMessage) r) (t : Tracker) :
    (handle t a).result = .ok r ∧ (handle t a).tracker = t.add r := by
  have told : (handle t a).result = .ok r := (result_long long t).trans (decode_of_spells spells)
  rw [handle_added, told]
  exact ⟨rfl, rfl⟩

/-- A text as long as what is read of a message is not the one its relation is written with. -/
theorem not_canonical_of_full {message : Bytes} {cs : List Char}
    (full : message.length = maxMessage) (text : message = Utf8.encode cs)
    (spells : Spells message r) :
    ¬ (Tight isAsciiBlank cs ∧ ∃ fields, Separated ':' fields cs ∧ ∀ f ∈ fields, Canonical f) := by
  obtain ⟨same, encoded, denotes⟩ := spells
  have one : cs = same := Utf8.encode_injective (text.symm.trans encoded)
  rw [one, ← Relation.eq_toChars_iff (Relation.ofChars_eq_iff.mpr denotes)]
  intro written
  have short := r.length_toChars_le
  rw [encoded, written, Relation.length_encode_toChars] at full
  unfold maxMessage at full
  unfold Relation.maxLength at short
  omega

end Front

/-- Of a message that is too long the front is received, however it comes, and what is behind the
front changes nothing. The message is refused and leaves the tracker as it was exactly if its front
is the text of no relation; otherwise the relation of the front is recorded. There is none in a
front without blanks at its ends whose fields are all canonical. -/
theorem oversized_refused_iff (t : Tracker) {a : Arrival}
    (long : maxMessage < a.pieces.flatten.length) :
    let front := a.pieces.flatten.take maxMessage
    (∀ received, Reads a.isReset [] a.pieces.flatten received ↔ received = .ok front) ∧
    (∀ b : Arrival, maxMessage ≤ b.pieces.flatten.length →
      b.pieces.flatten.take maxMessage = front → handle t b = handle t a) ∧
    (((∃ f, (handle t a).result = .error f) ∧ (handle t a).tracker = t) ↔
      ∀ r, ¬ Spells front r) ∧
    (∀ r, Spells front r → (handle t a).result = .ok r ∧ (handle t a).tracker = t.add r) ∧
    ∀ cs r, front = Utf8.encode cs → Spells front r →
      ¬ (Tight isAsciiBlank cs ∧
        ∃ fields, Separated ':' fields cs ∧ ∀ f ∈ fields, Canonical f) := by
  intro front
  have enough : maxMessage ≤ a.pieces.flatten.length := Nat.le_of_lt long
  have full : front.length = maxMessage := List.length_take_of_le enough
  refine ⟨fun received => ?_, fun b enoughToo same => ?_,
    ⟨fun refused r spells => ?_, fun none => ?_⟩, fun r spells => recorded_long enough spells t,
    fun cs r text spells => not_canonical_of_full full text spells⟩
  · rw [reads_iff, outcome_long enough]
  · rw [handle_front enoughToo, handle_front enough, same]
  · obtain ⟨⟨f, told⟩, -⟩ := refused
    cases told.symm.trans (recorded_long enough spells t).1
  · cases told : (handle t a).result with
    | error f =>
      rw [handle_added, told]
      exact ⟨⟨f, rfl⟩, rfl⟩
    | ok r => exact absurd (decode_eq_ok.mp ((result_long enough t).symm.trans told)) (none r)

/-- The text of a relation, blanks up to where the reading stops, and one byte more. -/
def padded : Arrival :=
  ⟨[Bytes.ofString "1:10", List.replicate 65532 32, Bytes.ofString "x"], false⟩

theorem flatten_padded :
    padded.pieces.flatten =
      Utf8.encode ("1:10".toList ++ List.replicate 65532 ' ') ++ Bytes.ofString "x" := by
  rw [Utf8.encode_append, Utf8.encode_replicate (by decide), List.append_assoc]
  rfl

/-- The byte behind the blanks makes the message no relation, and the relation is recorded. -/
theorem oversized_refused_iff_padded :
    maxMessage < padded.pieces.flatten.length ∧
    (handle .empty padded).result = .ok (.exec 1 10) ∧
    (handle .empty padded).tracker = Tracker.empty.add (.exec 1 10) := by
  have length : (Utf8.encode ("1:10".toList ++ List.replicate 65532 ' ')).length = maxMessage := by
    rw [Utf8.encode_append, Utf8.encode_replicate (by decide), List.length_append,
      List.length_replicate]
    rfl
  obtain ⟨long, front⟩ := front_eq flatten_padded (by decide) length
  have blanks : ∀ c ∈ List.replicate 65532 ' ', isAsciiBlank c := by
    intro c member
    rw [List.eq_of_mem_replicate member]
    rfl
  have read := Relation.ofChars_around (.exec 1 10) (u := []) (by simp) blanks
  have spells : Spells (padded.pieces.flatten.take maxMessage) (.exec 1 10) :=
    ⟨_, front, Relation.ofChars_eq_iff.mp read⟩
  obtain ⟨-, -, -, recorded, -⟩ := oversized_refused_iff .empty long
  exact ⟨long, recorded _ spells⟩

/-- The text of a relation with zeros that could be left out, so many that the reading stops
before the last digit. -/
def overflowing : Arrival :=
  ⟨[Bytes.ofString "7:", List.replicate 65533 48, Bytes.ofString "12"], false⟩

theorem flatten_overflowing :
    overflowing.pieces.flatten =
      Utf8.encode ("7".toList ++ ':' :: (List.replicate 65533 '0' ++ "1".toList)) ++
        Bytes.ofString "2" := by
  rw [Utf8.encode_append, Utf8.encode_cons, Utf8.encode_append,
    Utf8.encode_replicate (by decide), List.append_assoc, List.append_assoc, List.append_assoc]
  rfl

/-- A message that is too long can be recorded, and what is recorded need not be what it says: of
process twelve only the first digit is read. -/
theorem oversized_recorded :
    maxMessage < overflowing.pieces.flatten.length ∧
    Spells overflowing.pieces.flatten (.exec 7 12) ∧
    (handle .empty overflowing).result = .ok (.exec 7 1) ∧
    (handle .empty overflowing).tracker.children 7 = [1] := by
  have seven : Relation.IsPid "7".toList 7 := readInt32_eq_some.mp rfl
  have one : Relation.IsPid (List.replicate 65533 '0' ++ "1".toList) 1 :=
    numeral_zeros 65533 (by decide) (by simp)
  have twelve : Relation.IsPid (List.replicate 65533 '0' ++ "12".toList) 12 :=
    numeral_zeros 65533 (by decide) (by simp)
  have length :
      (Utf8.encode ("7".toList ++ ':' :: (List.replicate 65533 '0' ++ "1".toList))).length =
        maxMessage := by
    rw [Utf8.encode_append, Utf8.encode_cons, Utf8.encode_append,
      Utf8.encode_replicate (by decide), List.length_append, List.length_append,
      List.length_append, List.length_replicate]
    rfl
  obtain ⟨long, front⟩ := front_eq flatten_overflowing (by decide) length
  have cut : Spells (overflowing.pieces.flatten.take maxMessage) (.exec 7 1) :=
    ⟨_, front, Relation.denotes_exec seven one⟩
  have whole : Spells overflowing.pieces.flatten (.exec 7 12) := by
    refine ⟨_, ?_, Relation.denotes_exec seven twelve⟩
    rw [flatten_overflowing, Bytes.ofString, ← Utf8.encode_append, List.append_assoc,
      List.cons_append, List.append_assoc]
    rfl
  obtain ⟨told, tracker⟩ := recorded_long (Nat.le_of_lt long) cut .empty
  refine ⟨long, whole, told, ?_⟩
  rw [tracker]
  decide

end Connection
end Ancestry
