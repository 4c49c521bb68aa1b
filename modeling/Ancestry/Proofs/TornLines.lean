import Ancestry.Proofs.Delivery
import Ancestry.Proofs.LegibleLines
import Ancestry.Proofs.LinePieces
import Ancestry.Proofs.TrackerHistory
import Ancestry.System.Scene

/-!
# Lines that were cut short

A file that may not grow past a limit takes the front of a line and drops the rest. The
front stays where it is and nothing ends it, so the next line goes on behind it. What every
attempt leaves is settled by the size of the log and the limit alone, and so are the lines
that a replay finds: each is made of remnants and at most one whole text, which ends it.

A line without a remnant is the text of the relation it was written for. A line with one is
whatever its characters happen to mean, since nothing in it tells that some are missing. Such a
line may be malformed, and it may be a relation that was never reported. A remnant spoils no
line but the one it stands in, so there are no more spoiled lines than there are remnants.
-/
namespace Ancestry
open Replay (lineOf relationsIn malformedIn linesRead Readable)

/-- A line to be written, and the size that the log may get by it. -/
structure Attempt where
  relation : Relation
  limit : Option Nat
  deriving Repr, DecidableEq

/-- What a log took of the line of a relation. -/
structure Written where
  relation : Relation
  taken : Nat
  deriving Repr, DecidableEq

namespace Written

def inLog (p : Written) : List Char := (lineOf p.relation).take p.taken

/-- What was taken without the newline. -/
def chars (p : Written) : List Char := p.relation.toChars.take p.taken

/-- The newline was taken too. -/
def isWhole (p : Written) : Bool := p.relation.toChars.length < p.taken

/-- Something was taken, but not the newline. -/
def isRemnant (p : Written) : Bool := 0 < p.taken && p.taken ≤ p.relation.toChars.length

/-- The text of a line to which all of some writings went. -/
def text (line : List Written) : List Char := line.flatMap chars

def isTorn (line : List Written) : Bool := line.any isRemnant

/-- Which writings stand in one line, behind those that an open line has already. A line is
ended by the first that is whole, and without one it is open until the end. -/
def lines (opened : List Written) : List Written → List (List Written)
  | [] => if text opened = [] then [] else [opened]
  | p :: more =>
    if p.isWhole then (opened ++ [p]) :: lines [] more else lines (opened ++ [p]) more

end Written

namespace Attempt

/-- How much of its line an attempt can write at the end of a log. -/
def room (a : Attempt) (size : Nat) : Nat :=
  a.limit.elim (lineOf a.relation).length (· - size)

def written (a : Attempt) (size : Nat) : Written := ⟨a.relation, a.room size⟩

/-- The attempt with the room that there is for it at a path. -/
def allowed (w : World) (path : Bytes) (a : Attempt) : Attempt :=
  { a with limit := w.allowance path a.limit }

/-- What the attempts of a list leave at the end of a log of some size. -/
def allWritten (size : Nat) : List Attempt → List Written
  | [] => []
  | a :: more => a.written size :: allWritten (size + (a.written size).inLog.length) more

end Attempt

/-- Makes some attempts at a log, one after the other. -/
def LogSink.writeLines (w : World) (path : Bytes) :
    List Attempt → List (Except IoError Unit) × World
  | [] => ([], w)
  | a :: more =>
    let (outcome, w) := writeLine w a.limit path a.relation.encode
    let (outcomes, w) := writeLines w path more
    (outcome :: outcomes, w)

/-! ## What an attempt leaves -/

theorem encode_take_of_ascii {cs : List Char} (ascii : ∀ c ∈ cs, c.toNat < 0x80) (n : Nat) :
    (Utf8.encode cs).take n = Utf8.encode (cs.take n) := by
  induction cs generalizing n with
  | nil => simp
  | cons c cs ih =>
    obtain ⟨first, ascii⟩ := List.forall_mem_cons.mp ascii
    cases n with
    | zero => rfl
    | succ n =>
      rw [List.take_succ_cons, Utf8.encode_cons, Utf8.encode_cons, Utf8.encodeChar_of_ascii first,
        List.singleton_append, List.take_succ_cons, ih ascii, List.singleton_append]

theorem Replay.ascii_of_mem_lineOf {r : Relation} : ∀ c ∈ lineOf r, c.toNat < 0x80 := by
  intro c member
  rcases List.mem_append.mp member with member | newline
  · have range := Relation.toNat_of_mem_toChars member
    omega
  · rw [List.mem_singleton.mp newline]
    decide

namespace Written

theorem inLog_eq (p : Written) :
    p.inLog = p.chars ++ if p.isWhole then ['\n'] else [] := by
  unfold inLog lineOf chars isWhole
  rw [List.take_append]
  by_cases whole : p.relation.toChars.length < p.taken
  · have rest : ['\n'].length ≤ p.taken - p.relation.toChars.length := by
      rw [List.length_singleton]
      omega
    rw [decide_eq_true whole, if_pos rfl, List.take_of_length_le rest]
  · have none : p.taken - p.relation.toChars.length = 0 := by omega
    rw [decide_eq_false whole, none]
    rfl

theorem chars_of_isWhole {p : Written} (whole : p.isWhole) : p.chars = p.relation.toChars :=
  List.take_of_length_le (Nat.le_of_lt (of_decide_eq_true whole))

theorem chars_eq_nil {p : Written} (cut : p.isWhole = false) (clean : p.isRemnant = false) :
    p.chars = [] := by
  simp only [isWhole, decide_eq_false_iff_not] at cut
  simp only [isRemnant, Bool.and_eq_false_iff, decide_eq_false_iff_not] at clean
  have nothing : p.taken = 0 := by omega
  rw [chars, nothing, List.take_zero]

theorem isWhole_eq (p : Written) :
    p.isWhole = decide (p.inLog.length = (lineOf p.relation).length) := by
  rw [isWhole, decide_eq_decide, inLog, List.length_take, lineOf, List.length_append,
    List.length_singleton]
  omega

theorem length_inLog (p : Written) : (Utf8.encode p.inLog).length = p.inLog.length := by
  apply Relation.length_encode_of_ascii
  intro c member
  exact Replay.ascii_of_mem_lineOf c (List.mem_of_mem_take member)

end Written

/-- As much of a line as fits, in characters. -/
theorem Attempt.front_line (a : Attempt) (size : Nat) :
    World.front a.limit size (a.relation.encode ++ [LogSink.newline]) =
      Utf8.encode (a.written size).inLog := by
  rw [← Reporter.encode_lineOf, World.front, encode_take_of_ascii Replay.ascii_of_mem_lineOf,
    Relation.length_encode_of_ascii Replay.ascii_of_mem_lineOf]
  rfl

namespace LogSink

/-- An attempt leaves what the log has room for, and it fails unless that is all. -/
theorem writeLine_written {w : World} {path content : Bytes} (there : w.Holds path content)
    (a : Attempt) :
    (writeLine w a.limit path a.relation.encode).2.Holds path
        (content ++ Utf8.encode ((a.allowed w path).written content.length).inLog) ∧
      (writeLine w a.limit path a.relation.encode).1.isOk =
        ((a.allowed w path).written content.length).isWhole := by
  obtain ⟨loc, mode, found⟩ := there
  constructor
  · have grown := writeLine_get?_self a.limit a.relation.encode found
    have scene := sameScene_writeLine w a.limit path a.relation.encode
    have piece := (a.allowed w path).front_line content.length
    exact ⟨loc, mode, piece ▸ scene.status_eq found grown⟩
  · cases opened : w.openAppend path with
    | error e =>
      -- Nothing has room in a log that cannot be opened.
      have nothing : w.allowance path a.limit = some 0 := by
        rw [World.allowance, opened]
        rfl
      rw [writeLine, opened]
      simp [Attempt.written, Attempt.allowed, Attempt.room, nothing, Written.isWhole, Except.isOk,
        Except.toBool]
    | ok place =>
      obtain ⟨node, found', -⟩ := World.openAppend_eq_ok.mp opened
      cases found.symm.trans found'
      let b : Writing := ⟨path, a.relation.encode, a.limit⟩
      have same : a.allowed w path = a := by
        rw [Attempt.allowed, World.allowance_of_opened opened]
      have piece : b.piece content.length = Utf8.encode (a.written content.length).inLog :=
        a.front_line content.length
      have line : b.line = Utf8.encode (lineOf a.relation) :=
        (Reporter.encode_lineOf a.relation).symm
      have whole := (honest_writeLine (a := b) opened (World.status_found found)).whole
      rw [piece, line] at whole
      -- A front of a line is the line if it is as long.
      have all : Utf8.encode (a.written content.length).inLog = Utf8.encode (lineOf a.relation) ↔
          (a.written content.length).isWhole = true := by
        rw [Written.isWhole_eq, decide_eq_true_iff]
        exact ⟨fun same => congrArg _ (Utf8.encode_injective same),
          fun same => congrArg _ ((List.take_prefix _ _).eq_of_length same)⟩
      rw [all] at whole
      rw [same, Bool.eq_iff_iff, ← whole]
      cases (writeLine w a.limit path a.relation.encode).1 <;> simp [Except.isOk, Except.toBool]

theorem writeLines_written {w : World} {path content : Bytes} (there : w.Holds path content)
    (attempts : List Attempt) :
    let written := Attempt.allWritten content.length (attempts.map (·.allowed w path))
    (writeLines w path attempts).2.Holds path
        (content ++ Utf8.encode (written.flatMap Written.inLog)) ∧
      (writeLines w path attempts).1.map (·.isOk) = written.map Written.isWhole := by
  induction attempts generalizing w content with
  | nil =>
    refine ⟨?_, rfl⟩
    rw [List.map_nil, Attempt.allWritten, List.flatMap_nil, Utf8.encode_nil, List.append_nil]
    exact there
  | cons a more ih =>
    obtain ⟨first, outcome⟩ := writeLine_written there a
    -- The next attempt meets a log that is longer by what the first one left.
    obtain ⟨rest, outcomes⟩ := ih first
    have scene := sameScene_writeLine w a.limit path a.relation.encode
    have still : (Attempt.allowed (writeLine w a.limit path a.relation.encode).2 path) =
        Attempt.allowed w path := by
      funext b
      rw [Attempt.allowed, Attempt.allowed, scene.allowance_eq]
    rw [still, List.length_append, Written.length_inLog] at rest outcomes
    rw [List.append_assoc, ← Utf8.encode_append] at rest
    refine ⟨rest, ?_⟩
    rw [List.map_cons, Attempt.allWritten, List.map_cons, ← outcome, ← outcomes]
    rfl

end LogSink

/-! ## The lines of a log with remnants -/

namespace Written

theorem text_append (line more : List Written) : text (line ++ more) = text line ++ text more :=
  List.flatMap_append

theorem text_concat (line : List Written) (p : Written) :
    text (line ++ [p]) = text line ++ p.chars := by
  rw [text_append, text, text, List.flatMap_singleton]

theorem not_mem_text {line : List Written} {c : Char} (h : c.toNat < 45) : c ∉ text line := by
  intro member
  obtain ⟨p, -, member⟩ := List.mem_flatMap.mp member
  have range := Relation.toNat_of_mem_toChars (List.mem_of_mem_take member)
  omega

theorem pieces_text (line : List Written) : Text.pieces (· = '\n') (text line) = [text line] :=
  Text.pieces_of_not_mem (not_mem_text (by decide))

theorem dropReturn_text (line : List Written) : Text.dropReturn (text line) = text line := by
  apply if_neg
  intro last
  exact not_mem_text (by decide) (List.mem_of_getLast? last)

/-- The lines that are found are those that the writings stand in. -/
theorem textLines_written (opened writings : List Written) :
    Text.textLines (text opened ++ writings.flatMap inLog) = (lines opened writings).map text := by
  -- Every writing moves into the open line, and the first whole one leaves an empty line behind.
  induction writings generalizing opened with
  | nil =>
    rw [List.flatMap_nil, List.append_nil, Text.textLines, pieces_text, lines]
    by_cases empty : text opened = []
    · simp [empty]
    · simp [empty]
  | cons p more ih =>
    rw [List.flatMap_cons, inLog_eq, lines]
    by_cases whole : p.isWhole
    · have grouped : text opened ++ (p.chars ++ ['\n'] ++ more.flatMap inLog) =
          text (opened ++ [p]) ++ '\n' :: more.flatMap inLog := by
        simp [text_concat]
      rw [if_pos whole, if_pos whole, List.map_cons, ← ih [], grouped, Text.textLines_newline,
        pieces_text, List.map_singleton, dropReturn_text]
      rfl
    · have grouped : text opened ++ (p.chars ++ [] ++ more.flatMap inLog) =
          text (opened ++ [p]) ++ more.flatMap inLog := by
        simp [text_concat]
      rw [if_neg whole, if_neg whole, grouped, ih]

theorem text_of_unended {line : List Written} (unended : ∀ p ∈ line, p.isWhole = false)
    (sound : isTorn line = false) : text line = [] := by
  rw [text, List.flatMap_eq_nil_iff]
  intro p member
  have clean : p.isRemnant = false := Bool.eq_false_iff.mpr (List.any_eq_false.mp sound p member)
  exact chars_eq_nil (unended p member) clean

/-- A line that nothing was cut from is the text of one relation, written whole. -/
theorem whole_of_not_isTorn {opened writings line : List Written}
    (before : ∀ p ∈ opened, p.isWhole = false) (member : line ∈ lines opened writings)
    (sound : isTorn line = false) :
    ∃ p ∈ writings, p.isWhole ∧ text line = p.relation.toChars := by
  induction writings generalizing opened with
  | nil =>
    rw [lines] at member
    split at member
    · cases member
    · -- A line that stays open is not empty, so a remnant stands in it.
      rename_i full
      rw [List.mem_singleton.mp member] at sound
      exact absurd (text_of_unended before sound) full
  | cons p more ih =>
    rw [lines] at member
    by_cases whole : p.isWhole
    · rw [if_pos whole] at member
      rcases List.mem_cons.mp member with rfl | later
      · refine ⟨p, List.mem_cons_self, whole, ?_⟩
        rw [isTorn, List.any_append, Bool.or_eq_false_iff] at sound
        rw [text_concat, text_of_unended before sound.1, List.nil_append, chars_of_isWhole whole]
      · obtain ⟨q, there, found⟩ := ih (by simp) later
        exact ⟨q, List.mem_cons_of_mem p there, found⟩
    · rw [if_neg whole] at member
      have still : ∀ q ∈ opened ++ [p], q.isWhole = false := by
        intro q there
        rcases List.mem_append.mp there with old | new
        · exact before q old
        · rw [List.mem_singleton.mp new]
          exact Bool.eq_false_iff.mpr whole
      obtain ⟨q, there, found⟩ := ih still member
      exact ⟨q, List.mem_cons_of_mem p there, found⟩

/-- A remnant stands in one line only. -/
theorem countP_isTorn_lines (opened writings : List Written) :
    (lines opened writings).countP isTorn ≤ (opened ++ writings).countP isRemnant := by
  -- The remnants of the open line count only when it ends, and then for one line at the most.
  have torn (line : List Written) : (if isTorn line then 1 else 0) ≤ line.countP isRemnant := by
    split
    · rename_i some
      rw [isTorn, List.any_eq_true] at some
      exact List.countP_pos_iff.mpr some
    · exact Nat.zero_le _
  induction writings generalizing opened with
  | nil =>
    rw [lines, List.append_nil]
    split
    · exact Nat.zero_le _
    · rw [List.countP_singleton]
      exact torn opened
  | cons p more ih =>
    have regroup : opened ++ p :: more = (opened ++ [p]) ++ more := by simp
    rw [lines, regroup]
    split
    · have first := torn (opened ++ [p])
      have rest := ih []
      rw [List.nil_append] at rest
      rw [List.countP_cons, List.countP_append]
      omega
    · exact ih (opened ++ [p])

/-- What a line without a remnant is read as. -/
theorem ofChars_of_not_isTorn {writings line : List Written} (member : line ∈ lines [] writings)
    (sound : isTorn line = false) :
    ∃ p ∈ writings, p.isWhole ∧ LogLine.ofChars (text line) = .relation p.relation := by
  obtain ⟨p, there, whole, same⟩ := whole_of_not_isTorn (by simp) member sound
  exact ⟨p, there, whole, by rw [same, LogLine.ofChars_toChars]⟩

section Found
variable {writings : List Written} {found : List (List Written)}
  (among : found <+: lines [] writings)
include among

theorem relation_of_found {r : Relation} (member : r ∈ relationsIn (found.map text)) :
    (∃ p ∈ writings, p.relation = r) ∨
      ∃ line ∈ lines [] writings, isTorn line ∧ LogLine.ofChars (text line) = .relation r := by
  obtain ⟨cs, there, read⟩ := Replay.mem_relationsIn.mp member
  obtain ⟨line, place, rfl⟩ := List.mem_map.mp there
  have stands : line ∈ lines [] writings := among.subset place
  cases torn : isTorn line with
  | true => exact .inr ⟨line, stands, torn, read⟩
  | false =>
    obtain ⟨p, written, -, whole⟩ := ofChars_of_not_isTorn stands torn
    rw [whole] at read
    exact .inl ⟨p, written, LogLine.relation.inj read⟩

theorem malformedIn_found :
    malformedIn (found.map text) ≤ (lines [] writings).countP isTorn := by
  have only : malformedIn (found.map text) ≤ found.countP isTorn := by
    rw [malformedIn, List.countP_map]
    apply List.countP_mono_left
    intro line there malformed
    rw [← Bool.not_eq_false]
    intro sound
    obtain ⟨p, -, -, whole⟩ := ofChars_of_not_isTorn (among.subset there) sound
    rw [Function.comp_apply, whole] at malformed
    cases malformed
  exact Nat.le_trans only among.sublist.countP_le

end Found

/-- A replay that comes to the end of the log finds all the lines behind it, and one that does not
finds none. -/
theorem linesRead_written {content : Bytes} (ended : content = [] ∨ content.getLast? = some 10)
    (writings : List Written) :
    ∃ found, found <+: lines [] writings ∧ (Readable content → found = lines [] writings) ∧
      linesRead (content ++ Utf8.encode (writings.flatMap inLog)) =
        linesRead content ++ found.map text := by
  by_cases readable : Readable content
  · refine ⟨lines [] writings, List.prefix_rfl, fun _ => rfl, ?_⟩
    rw [Replay.linesRead_append_of_readable ended readable, Replay.linesRead_encode,
      ← textLines_written]
    rfl
  · refine ⟨[], List.nil_prefix, fun read => absurd read readable, ?_⟩
    rw [Replay.linesRead_append_of_not_readable ended readable, List.map_nil, List.append_nil]

end Written

theorem Attempt.relation_of_mem_allWritten {attempts : List Attempt} {size : Nat} {p : Written}
    (member : p ∈ allWritten size attempts) : ∃ a ∈ attempts, a.relation = p.relation := by
  induction attempts generalizing size with
  | nil => cases member
  | cons a more ih =>
    rcases List.mem_cons.mp member with rfl | later
    · exact ⟨a, List.mem_cons_self, rfl⟩
    · obtain ⟨b, there, same⟩ := ih later
      exact ⟨b, List.mem_cons_of_mem a there, same⟩

/-! ## What a replay makes of it -/

namespace LogFile

theorem replay_bytes {w : World} {path data : Bytes} (there : w.Holds path data) (t : Tracker) :
    replay w path t =
      (Failure.during s!"Failed to read {Utf8.lossy path}" (Replay.read t data).1,
        (Replay.read t data).2) := by
  obtain ⟨mode, opened⟩ := there.openRead
  simp only [replay, opened, Failure.during, World.contentOf]

/-- Behind a log that ends with a newline, attempts with any limits leave as much of their lines
as there was room for, which is none in a log that cannot be opened. A replay then records the
relations of that log, and further only those of attempts or such as stand in a torn line; a line
that is not torn is that of an attempt, and malformed lines are torn. There are not more torn lines
than remnants. -/
theorem replay_writeLines {w : World} {path content : Bytes} (there : w.Holds path content)
    (ended : content = [] ∨ content.getLast? = some LogSink.newline) (attempts : List Attempt) :
    let written := Attempt.allWritten content.length (attempts.map (·.allowed w path))
    let lines := Written.lines [] written
    let run := LogSink.writeLines w path attempts
    run.2.Holds path (content ++ Utf8.encode (written.flatMap Written.inLog)) ∧
    run.1.map (·.isOk) = written.map Written.isWhole ∧
    (∃ recorded,
      (∀ t, let replayed := replay run.2 path t
        replayed.2.tracker = t.addAll recorded ∧
        replayed.2.stats.relations = recorded.length ∧
        replayed.2.stats.malformed ≤
          malformedIn (linesRead content) + lines.countP Written.isTorn ∧
        (Readable content → replayed.1 = .ok replayed.2.stats)) ∧
      (∀ r ∈ recorded,
        r ∈ relationsIn (linesRead content) ∨ (∃ a ∈ attempts, a.relation = r) ∨
        ∃ line ∈ lines, Written.isTorn line ∧
          LogLine.ofChars (Written.text line) = .relation r) ∧
      (Readable content →
        recorded = relationsIn (linesRead content) ++ relationsIn (lines.map Written.text))) ∧
    (∀ line ∈ lines, Written.isTorn line = false →
      ∃ p ∈ written, p.isWhole ∧ LogLine.ofChars (Written.text line) = .relation p.relation) ∧
    lines.countP Written.isTorn ≤ written.countP Written.isRemnant := by
  intro written lines run
  obtain ⟨holds, outcomes⟩ := LogSink.writeLines_written there attempts
  obtain ⟨found, among, all, read⟩ := Written.linesRead_written ended written
  refine ⟨holds, outcomes,
    ⟨relationsIn (linesRead content) ++ relationsIn (found.map Written.text), fun t => ?_,
      fun r member => ?_, fun readable => by rw [all readable]⟩,
    fun line => Written.ofChars_of_not_isTorn, Written.countP_isTorn_lines [] written⟩
  · obtain ⟨tracker, stats⟩ := Replay.read_state t
      (content ++ Utf8.encode (written.flatMap Written.inLog))
    rw [read, Replay.relationsIn_append] at tracker stats
    rw [Replay.malformedIn_append] at stats
    rw [replay_bytes holds]
    refine ⟨tracker, by rw [stats], ?_, fun readable => ?_⟩
    · rw [stats]
      exact Nat.add_le_add_left (Written.malformedIn_found among) _
    · have whole : Readable (content ++ Utf8.encode (written.flatMap Written.inLog)) :=
        (Replay.readable_append ended _).mpr ⟨readable, Replay.readable_encode _⟩
      rw [Replay.read_result whole]
      rfl
  · rcases List.mem_append.mp member with old | new
    · exact .inl old
    rcases Written.relation_of_found among new with ⟨p, there, same⟩ | torn
    · obtain ⟨b, allowed, same'⟩ := Attempt.relation_of_mem_allWritten there
      obtain ⟨a, attempt, rfl⟩ := List.mem_map.mp allowed
      exact .inr (.inl ⟨a, attempt, same'.trans same⟩)
    · exact .inr (.inr torn)

/-- A bare world with a log in the working directory. -/
def withLog (content : Bytes) : World :=
  { World.bare with
    files := World.bare.files.set (World.place "/tmp/work/log") (.file 0o666 content) }

def log : Bytes := Bytes.ofString "log"

theorem withLog_holds (content : Bytes) : (withLog content).Holds log content :=
  ⟨World.place "/tmp/work/log", 0o666, rfl⟩

/-- Behind a log of one relation, a line cut after three bytes, two whole ones, a line cut before
its first byte, and a last one that wants only its newline. -/
def mishaps : List Attempt :=
  [⟨.exec 100 200, some 7⟩, ⟨.exec 5 6, none⟩, ⟨.fork 7 8 (-1), some 64⟩, ⟨.exec 3 4, some 11⟩,
    ⟨.exec 3 4, some 21⟩]

/-- The world after the mishaps. -/
def spoiled : World := (LogSink.writeLines (withLog (Bytes.ofString "1:2\n")) log mishaps).2

theorem replay_writeLines_mishaps :
    spoiled.Holds log (Bytes.ofString "1:2\n1005:6\n7:8:-1\n3:4") ∧
    ∀ t, (replay spoiled log t).2.tracker =
      t.addAll [.exec 1 2, .exec 1005 6, .fork 7 8 (-1), .exec 3 4] := by
  have readable : Readable (Bytes.ofString "1:2\n") := Replay.readable_encode _
  obtain ⟨holds, -, ⟨recorded, replays, -, all⟩, -, -⟩ :=
    replay_writeLines (withLog_holds (Bytes.ofString "1:2\n")) (.inr (by decide)) mishaps
  have relations : recorded = [.exec 1 2, .exec 1005 6, .fork 7 8 (-1), .exec 3 4] := by
    rw [all readable]
    decide +kernel
  have left : Bytes.ofString "1:2\n" ++
      Utf8.encode ((Attempt.allWritten (Bytes.ofString "1:2\n").length
        (mishaps.map (·.allowed (withLog (Bytes.ofString "1:2\n")) log))).flatMap
          Written.inLog) = Bytes.ofString "1:2\n1005:6\n7:8:-1\n3:4" := by
    decide +kernel
  rw [left] at holds
  rw [← relations]
  exact ⟨holds, fun t => (replays t).1⟩

theorem not_carried {attempts : List Attempt} {t : Tracker} {e : Edge} (there : e ∈ t.edges)
    (absent : ∀ a ∈ attempts, e ∉ a.relation.links) :
    ¬ ∃ recorded : List Relation,
      (∀ r ∈ recorded, r ∈ relationsIn (linesRead []) ∨ ∃ a ∈ attempts, a.relation = r) ∧
      t = Tracker.empty.addAll recorded := by
  rintro ⟨recorded, carried, rfl⟩
  obtain ⟨r, member, link⟩ := Tracker.mem_edges_addAll.mp there
  obtain ⟨a, attempt, rfl⟩ := (carried r member).resolve_left List.not_mem_nil
  exact absent a attempt link

/-- A replay records what no attempt was to write: one line was cut so that it reads as another
relation, and the remnant of one became the front of the next. -/
theorem cut_lines_forge :
    (withLog []).Holds log [] ∧
    ∀ attempts ∈ [[⟨.exec 12 34, some 4⟩], [⟨.exec 1 2, some 1⟩, ⟨.exec 5 6, none⟩]],
      ¬ ∃ recorded : List Relation,
        (∀ r ∈ recorded, r ∈ relationsIn (linesRead []) ∨ ∃ a ∈ attempts, a.relation = r) ∧
        (replay (LogSink.writeLines (withLog []) log attempts).2 log .empty).2.tracker =
          Tracker.empty.addAll recorded := by
  refine ⟨withLog_holds [], List.forall_mem_cons.mpr ⟨?_, List.forall_mem_singleton.mpr ?_⟩⟩
  · exact not_carried (e := ⟨12, 3⟩) (by decide +kernel) (by decide)
  · exact not_carried (e := ⟨15, 6⟩) (by decide +kernel) (by decide)

end LogFile
end Ancestry
