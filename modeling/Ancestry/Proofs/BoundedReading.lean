import Ancestry.Proofs.ArrivalOrder
import Ancestry.Proofs.Grammar

/-!
# A message is taken whole or not at all

The bytes of a connection come in pieces, and how they are cut is decided by the sender and by the
system: a piece may end inside a number or inside a character. The reading goes on until the bytes
end, the line breaks or there is no more room, and what it comes to depends on the bytes alone.

A message that is not too long is then recorded or refused. It is recorded if its bytes ended and
are the text of a relation. Whatever else was received, a relation before a broken line included,
leaves the tracker as it was. What becomes of longer messages is not told here.
-/
namespace Ancestry

/-- A message that is not too long. One that breaks off is shorter, so that the break is seen. -/
def Arrival.Fits (a : Arrival) : Prop :=
  a.pieces.flatten.length ≤ Connection.maxMessage ∧
    (a.isReset = true → a.pieces.flatten.length < Connection.maxMessage)

namespace Connection

/-! ## Reading -/

/-- One message as it is read: what is kept so far, what is still to come, and what is received in
the end. A turn takes some of the bytes to come, as many as there happen to be, but at least one
and no more than there is room for. -/
inductive Reads (broken : Bool) : Bytes → Bytes → Except IoError Bytes → Prop
  | turn {kept piece rest : Bytes} {received : Except IoError Bytes} :
      piece ≠ [] → (kept ++ piece).length ≤ maxMessage →
      Reads broken (kept ++ piece) rest received → Reads broken kept (piece ++ rest) received
  | full {kept rest : Bytes} : kept.length = maxMessage → Reads broken kept rest (.ok kept)
  | ended {kept : Bytes} : broken = false → Reads broken kept [] (.ok kept)
  | lost {kept : Bytes} : broken = true → kept.length < maxMessage →
      Reads broken kept [] (.error (.system .connectionReset))

/-- What is received of a stream: its front, unless it is seen to break off. -/
def outcome (broken : Bool) (stream : Bytes) : Except IoError Bytes :=
  if broken = true ∧ stream.length < maxMessage then .error (.system .connectionReset)
  else .ok (stream.take maxMessage)

section Reading
variable {broken : Bool} {kept rest stream : Bytes} {received : Except IoError Bytes}

theorem outcome_full (full : kept.length = maxMessage) (rest : Bytes) :
    outcome broken (kept ++ rest) = .ok kept := by
  have long : ¬ (broken = true ∧ (kept ++ rest).length < maxMessage) := by
    rw [List.length_append]
    omega
  rw [outcome, if_neg long, List.take_left' full]

theorem outcome_ended (ended : broken = false) (room : kept.length ≤ maxMessage) :
    outcome broken kept = .ok kept := by
  have whole : ¬ (broken = true ∧ kept.length < maxMessage) := by simp [ended]
  rw [outcome, if_neg whole, List.take_of_length_le room]

theorem outcome_lost (lost : broken = true) (short : kept.length < maxMessage) :
    outcome broken kept = .error (.system .connectionReset) :=
  if_pos ⟨lost, short⟩

/-- Each turn moves bytes from those to come to those kept, so the two together stay the same and
what is received at the end is settled at the beginning. -/
theorem Reads.received_eq (reads : Reads broken kept rest received)
    (room : kept.length ≤ maxMessage) : received = outcome broken (kept ++ rest) := by
  induction reads with
  | turn _ fits _ ih => rw [ih fits, List.append_assoc]
  | full full => exact (outcome_full full _).symm
  | ended ended => rw [List.append_nil, outcome_ended ended room]
  | lost lost short => rw [List.append_nil, outcome_lost lost short]

/-- Where nothing is left to take, the reading is over. -/
theorem reads_last (broken : Bool) (room : kept.length ≤ maxMessage)
    (last : rest = [] ∨ kept.length = maxMessage) :
    Reads broken kept rest (outcome broken (kept ++ rest)) := by
  by_cases full : kept.length = maxMessage
  · rw [outcome_full full]
    exact .full full
  · have empty : rest = [] := last.resolve_right full
    subst empty
    rw [List.append_nil]
    cases broken with
    | false =>
      rw [outcome_ended rfl room]
      exact .ended rfl
    | true =>
      have short : kept.length < maxMessage := Nat.lt_of_le_of_ne room full
      rw [outcome_lost rfl short]
      exact .lost rfl short

/-- All that there is room for can be taken at once. -/
theorem reads_outcome (broken : Bool) (stream : Bytes) :
    Reads broken [] stream (outcome broken stream) := by
  by_cases empty : stream = []
  · exact reads_last broken (Nat.zero_le _) (.inl empty)
  · have some : stream.take maxMessage ≠ [] := by
      rw [ne_eq, List.take_eq_nil_iff, not_or]
      exact ⟨by decide, empty⟩
    have length : (stream.take maxMessage).length = min maxMessage stream.length :=
      List.length_take
    have done : stream.drop maxMessage = [] ∨ (stream.take maxMessage).length = maxMessage := by
      rw [List.drop_eq_nil_iff]
      omega
    have fits : (stream.take maxMessage).length ≤ maxMessage := List.length_take_le _ _
    have last : Reads broken (stream.take maxMessage) (stream.drop maxMessage)
        (outcome broken stream) := by
      have after := reads_last broken fits done
      rwa [List.take_append_drop] at after
    have whole : Reads broken [] (stream.take maxMessage ++ stream.drop maxMessage)
        (outcome broken stream) := .turn some fits last
    rwa [List.take_append_drop] at whole

theorem reads_iff : Reads broken [] stream received ↔ received = outcome broken stream := by
  constructor
  · exact fun reads => reads.received_eq (Nat.zero_le _)
  · intro same
    rw [same]
    exact reads_outcome broken stream

/-- The pieces of the sender are one way to cut the stream. -/
theorem receive_eq (a : Arrival) : receive a = outcome a.isReset a.pieces.flatten := by
  have noticed : (a.pieces.flatten.take maxMessage).length < maxMessage ↔
      a.pieces.flatten.length < maxMessage := by
    rw [List.length_take]
    omega
  simp only [receive, takeUpTo_eq, outcome, Bool.and_eq_true, decide_eq_true_eq, noticed]

end Reading

/-! ## What a message amounts to -/

/-- The bytes of a message are the text of a relation. -/
def Spells (message : Bytes) (r : Relation) : Prop :=
  ∃ cs, message = Utf8.encode cs ∧ Relation.Denotes cs (.ok r)

/-- What is made of a stream that is not too long. A break is noticed first, then bytes that are no
text, then a text that is no relation. -/
inductive Verdict (broken : Bool) (stream : Bytes) : Except Failure Relation → Prop
  | relation {r : Relation} : broken = false → Spells stream r → Verdict broken stream (.ok r)
  | lost : broken = true → Verdict broken stream
      (.error ⟨["Failed to read message"], .io (.system .connectionReset)⟩)
  | noText {e : Utf8.Malformed} : broken = false → Utf8.decode stream = .error e →
      Verdict broken stream (.error ⟨["Message malformed"], .malformed e⟩)
  | noRelation {cs : List Char} {e : RelationError} : broken = false →
      stream = Utf8.encode cs → Relation.Denotes cs (.error e) → Verdict broken stream
      (.error ⟨["Message malformed: " ++ Text.quoted cs], .relation e⟩)

section Handling
variable {t : Tracker} {a : Arrival} {message : Bytes} {r : Relation}

theorem decode_eq_ok {message : Bytes} :
    decode message = .ok r ↔ ∃ cs, message = Utf8.encode cs ∧ Relation.Denotes cs (.ok r) := by
  simp only [← Utf8.decode_eq_ok_iff, ← Relation.ofChars_eq_iff]
  unfold decode
  cases Utf8.decode message with
  | error e => simp
  | ok cs =>
    dsimp only
    cases denoted : Relation.ofChars cs with
    | error e => simp [denoted]
    | ok s => simp [denoted]

theorem decode_of_spells (spells : Spells message r) : decode message = .ok r :=
  decode_eq_ok.mpr spells

theorem verdict_decode (message : Bytes) : Verdict false message (decode message) := by
  unfold decode
  cases read : Utf8.decode message with
  | error e => exact .noText rfl read
  | ok cs =>
    have text : message = Utf8.encode cs := Utf8.decode_eq_ok_iff.mp read
    dsimp only
    cases known : Relation.ofChars cs with
    | error e => exact .noRelation rfl text (Relation.ofChars_eq_iff.mp known)
    | ok r => exact .relation rfl ⟨cs, text, Relation.ofChars_eq_iff.mp known⟩

theorem Verdict.decode_eq {result : Except Failure Relation}
    (verdict : Verdict false message result) : decode message = result := by
  cases verdict with
  | relation _ spells => exact decode_of_spells spells
  | lost broken => cases broken
  | noText _ read => rw [decode, read]
  | noRelation _ text denotes =>
    rw [decode, text, Utf8.decode_encode]
    dsimp only
    rw [Relation.ofChars_eq_iff.mpr denotes]

theorem verdict_ok_iff {broken : Bool} {stream : Bytes} :
    Verdict broken stream (.ok r) ↔ broken = false ∧ Spells stream r := by
  constructor
  · intro verdict
    cases verdict with
    | relation whole spells => exact ⟨whole, spells⟩
  · exact fun ⟨whole, spells⟩ => .relation whole spells

theorem handle_received (received : receive a = .ok message) (t : Tracker) :
    (handle t a).result = decode message := by
  rw [handle, received, Failure.during]
  cases known : decode message <;> simp only [known]

theorem handle_lost {e : IoError} (received : receive a = .error e) (t : Tracker) :
    (handle t a).result = .error ⟨["Failed to read message"], .io e⟩ := by
  rw [handle, received, Failure.during]

/-- Of a message that fits, everything is received or the break is noticed. -/
theorem handle_verdict (fits : a.Fits) (t : Tracker) :
    Verdict a.isReset a.pieces.flatten (handle t a).result := by
  cases reset : a.isReset with
  | true =>
    have received : receive a = .error (.system .connectionReset) :=
      (receive_eq a).trans (outcome_lost reset (fits.2 reset))
    rw [handle_lost received]
    exact .lost rfl
  | false =>
    have received : receive a = .ok a.pieces.flatten :=
      (receive_eq a).trans (outcome_ended reset fits.1)
    rw [handle_received received]
    exact verdict_decode a.pieces.flatten

theorem Verdict.eq_lost {stream : Bytes} {result : Except Failure Relation}
    (verdict : Verdict true stream result) :
    result = .error ⟨["Failed to read message"], .io (.system .connectionReset)⟩ := by
  cases verdict with
  | lost => rfl
  | relation whole => cases whole
  | noText whole => cases whole
  | noRelation whole => cases whole

theorem Verdict.unique {broken : Bool} {stream : Bytes} {result other : Except Failure Relation}
    (verdict : Verdict broken stream result) (again : Verdict broken stream other) :
    result = other := by
  cases broken with
  | false => exact verdict.decode_eq.symm.trans again.decode_eq
  | true => exact verdict.eq_lost.trans again.eq_lost.symm

/-- What is returned has nothing to do with what was recorded before. -/
theorem handle_result_eq (t u : Tracker) (a : Arrival) :
    (handle t a).result = (handle u a).result := by
  cases received : receive a with
  | error e => rw [handle_lost received, handle_lost received]
  | ok message => rw [handle_received received, handle_received received]

/-- The tracker is touched where a relation is returned and nowhere else. -/
theorem handle_added (t : Tracker) (a : Arrival) :
    (handle t a).tracker = t.addAll (handle t a).result.toOption.toList := by
  rw [handle_tracker, relation?, handle_result_eq .empty t]

theorem handle_congr {b : Arrival} (same : b.message = a.message) (t : Tracker) :
    handle t b = handle t a := by
  obtain ⟨bytes, reset⟩ := Prod.mk.inj same
  rw [handle, handle, receive_eq, receive_eq, bytes, reset]

end Handling

/-- A message that is not too long is recorded whole or not at all, and it does not matter in which
pieces it comes and is read. A relation is returned exactly if the bytes ended and are its text, and
is then added to the tracker; of everything else an error tells, and the tracker is as before. -/
theorem handle_all_or_nothing (t : Tracker) {a : Arrival} (fits : a.Fits) :
    (∀ received, Reads a.isReset [] a.pieces.flatten received ↔ received = receive a) ∧
    (∀ b : Arrival, b.message = a.message → handle t b = handle t a) ∧
    (∀ result, (handle t a).result = result ↔ Verdict a.isReset a.pieces.flatten result) ∧
    (∀ r, (handle t a).result = .ok r ↔ a.isReset = false ∧ Spells a.pieces.flatten r) ∧
    (∀ r, (handle t a).result = .ok r → (handle t a).tracker = t.add r) ∧
    ∀ f, (handle t a).result = .error f → (handle t a).tracker = t := by
  have verdict (result : Except Failure Relation) :
      (handle t a).result = result ↔ Verdict a.isReset a.pieces.flatten result := by
    constructor
    · intro same
      exact same ▸ handle_verdict fits t
    · exact (handle_verdict fits t).unique
  refine ⟨fun received => ?_, fun b same => handle_congr same t, verdict, fun r => ?_,
    fun r told => ?_, fun f told => ?_⟩
  · rw [receive_eq, reads_iff]
  · rw [verdict, verdict_ok_iff]
  · rw [handle_added, told]
    rfl
  · rw [handle_added, told]
    rfl

/-- A relation in pieces that end inside a pid, with an empty one among them. -/
def scattered (isReset : Bool) : Arrival :=
  ⟨[Bytes.ofString "10:2", [], Bytes.ofString "0:3", Bytes.ofString "0\n"], isReset⟩

/-- The pieces are recorded as one message if they end, and not at all if they break off. -/
theorem handle_all_or_nothing_scattered :
    let before := Tracker.empty.add (.exec 1 10)
    (handle before (scattered false)).result = .ok (.fork 10 20 30) ∧
    (handle before (scattered false)).tracker = before.add (.fork 10 20 30) ∧
    (handle before (scattered true)).result =
      .error ⟨["Failed to read message"], .io (.system .connectionReset)⟩ ∧
    (handle before (scattered true)).tracker = before := by
  intro before
  have short : (scattered false).pieces.flatten.length < maxMessage := by decide
  have text : Relation.ofChars "10:20:30\n".toList = .ok (.fork 10 20 30) := by rfl
  have spells : Spells (scattered false).pieces.flatten (.fork 10 20 30) :=
    ⟨"10:20:30\n".toList, rfl, Relation.ofChars_eq_iff.mp text⟩
  obtain ⟨-, -, -, whole, recorded, -⟩ :=
    handle_all_or_nothing before (a := scattered false) ⟨Nat.le_of_lt short, nofun⟩
  obtain ⟨-, -, verdict, -, -, unchanged⟩ :=
    handle_all_or_nothing before (a := scattered true) ⟨Nat.le_of_lt short, fun _ => short⟩
  have told := (whole _).mpr ⟨rfl, spells⟩
  have lost := (verdict _).mpr (.lost rfl)
  exact ⟨told, recorded _ told, lost, unchanged _ lost⟩

end Connection
end Ancestry
