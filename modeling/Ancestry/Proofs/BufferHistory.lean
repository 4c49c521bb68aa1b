import Ancestry.Proofs.Encoding

/-!
# A buffer over its whole history

Some steps fill the buffer anew: a clear leaves nothing in it, and a relation leaves its whole
text. What was there before them has no say any more, although its bytes are still there, behind
the payload, until a piece is copied over them. So the payload can be read off the history: the
text of the last such step, and behind it the pieces that were taken since then. A piece is taken
if it fits, the last byte of the buffer included. A refused one changes nothing, and a shorter one
after it may be taken again.
-/
namespace Ancestry.Relation.Buffer

/-- The buffer after some steps. -/
def run (b : Buffer) : List Step → Buffer
  | [] => b
  | s :: more => run (b.step s).2 more

/-- What a step leaves in the buffer whatever it held, if it fills the buffer anew. -/
def Step.text? : Step → Option Bytes
  | .push _ => none
  | .clear => some []
  | .write r => some (Bytes.ofString r.text)

/-- Those of some pieces that are taken when they are added in order. -/
def taken (b : Buffer) : List Bytes → List Bytes
  | [] => []
  | piece :: more =>
    match b.step (.push piece) with
    | (true, next) => piece :: taken next more
    | (false, next) => taken next more

variable {b : Buffer} {piece : Bytes}

@[simp] theorem run_append (b : Buffer) (steps more : List Step) :
    b.run (steps ++ more) = (b.run steps).run more := by
  induction steps generalizing b with
  | nil => rfl
  | cons s steps ih => exact ih (b.step s).2

/-! ## One step -/

theorem step_push_taken :
    (b.step (.push piece)).1 = true ↔ b.length + piece.length ≤ maxLength :=
  push?_isSome

theorem payload_step_taken (taken : (b.step (.push piece)).1 = true) :
    (b.step (.push piece)).2.payload = b.payload ++ piece := by
  obtain ⟨next, pushed⟩ := Option.isSome_iff_exists.mp taken
  have held : b.push piece = next := by rw [push, pushed, Option.getD_some]
  rw [step, held]
  exact payload_of_push? pushed

theorem step_refused (refused : (b.step (.push piece)).1 = false) :
    (b.step (.push piece)).2 = b := by
  have nothing : b.push? piece = none :=
    Option.isNone_iff_eq_none.mp (Option.isSome_eq_false_iff.mp refused)
  rw [step, push, nothing, Option.getD_none]

theorem payload_step_anew {s : Step} {text : Bytes} (anew : s.text? = some text) (b : Buffer) :
    (b.step s).2.payload = text := by
  cases s with
  | push piece => cases anew
  | clear =>
    cases anew
    exact payload_clear b
  | write r =>
    cases anew
    rw [step, payload_write, Bytes.ofString, Relation.text, String.toList_ofList]

/-! ## A history -/

/-- Pieces that are added in order end up behind what was there, without those refused. -/
theorem payload_run_pushes (b : Buffer) (pieces : List Bytes) :
    (b.run (pieces.map .push)).payload = b.payload ++ (b.taken pieces).flatten := by
  induction pieces generalizing b with
  | nil => simp [run, taken]
  | cons piece pieces ih =>
    rw [List.map_cons, run, ih, taken]
    split
    case h_1 next stepped =>
      have added := payload_step_taken (congrArg Prod.fst stepped)
      rw [added, stepped, List.flatten_cons, List.append_assoc]
    case h_2 next stepped =>
      have kept : next = b := by
        have refused := step_refused (congrArg Prod.fst stepped)
        rwa [stepped] at refused
      rw [stepped, kept]

/-- A history is pieces only, or there is a last step in it that fills the buffer anew. -/
theorem exists_last_anew (steps : List Step) :
    (∃ pieces : List Bytes, steps = pieces.map .push) ∨
      ∃ before s text, ∃ pieces : List Bytes,
        steps = before ++ s :: pieces.map .push ∧ s.text? = some text := by
  induction steps with
  | nil => exact .inl ⟨[], rfl⟩
  | cons s steps ih =>
    rcases ih with ⟨pieces, rfl⟩ | ⟨before, last, text, pieces, rfl, anew⟩
    · cases s with
      | push piece => exact .inl ⟨piece :: pieces, rfl⟩
      | clear => exact .inr ⟨[], .clear, _, pieces, rfl, rfl⟩
      | write r => exact .inr ⟨[], .write r, _, pieces, rfl, rfl⟩
    · exact .inr ⟨s :: before, last, text, pieces, rfl, anew⟩

/-- After any steps on a fresh buffer its length is within the thirty-five bytes, and the payload
is what the history says: the pieces taken since the last step that has filled the buffer anew,
behind the text that this step has left, or all pieces taken if there was no such step. A piece
that comes next is taken exactly if it fits into what remains, and leaves the buffer alone
otherwise. A relation that comes next leaves its whole text and nothing of what was there. -/
theorem history_spelled (steps : List Step) :
    let b := empty.run steps
    (b.length ≤ 35 ∧ b.payload.length = b.length) ∧
    ((∃ pieces : List Bytes, steps = pieces.map .push ∧
        b.payload = (empty.taken pieces).flatten) ∨
      ∃ before s text, ∃ pieces : List Bytes,
        steps = before ++ s :: pieces.map .push ∧ s.text? = some text ∧
        b.payload = text ++ ((empty.run (before ++ [s])).taken pieces).flatten) ∧
    (∀ piece : Bytes,
      ((b.step (.push piece)).1 = true ↔ piece.length ≤ 35 - b.length) ∧
      ((b.step (.push piece)).1 = true → (b.step (.push piece)).2.payload = b.payload ++ piece) ∧
      ((b.step (.push piece)).1 = false → (b.step (.push piece)).2 = b)) ∧
    ∀ r : Relation, (b.step (.write r)).2.payload = Bytes.ofString r.text := by
  intro b
  have within : b.length ≤ 35 := b.length_le
  refine ⟨⟨within, length_payload b⟩, ?_, fun piece => ⟨?_, payload_step_taken, step_refused⟩,
    fun r => payload_step_anew rfl b⟩
  · rcases exists_last_anew steps with ⟨pieces, only⟩ | ⟨before, s, text, pieces, split, anew⟩
    · refine .inl ⟨pieces, only, ?_⟩
      calc b.payload = empty.payload ++ (empty.taken pieces).flatten := by
            rw [← payload_run_pushes, ← only]
        _ = (empty.taken pieces).flatten := by rw [payload_empty, List.nil_append]
    · refine .inr ⟨before, s, text, pieces, split, anew, ?_⟩
      have filled : (empty.run (before ++ [s])).payload = text := by
        rw [run_append]
        exact payload_step_anew anew _
      have parts : steps = (before ++ [s]) ++ pieces.map .push := by
        rw [split, List.append_assoc, List.singleton_append]
      calc b.payload = ((empty.run (before ++ [s])).run (pieces.map .push)).payload := by
            rw [← run_append, ← parts]
        _ = text ++ ((empty.run (before ++ [s])).taken pieces).flatten := by
            rw [payload_run_pushes, filled]
  · rw [step_push_taken, maxLength]
    omega

/-- The bytes of a relation that was cleared are still there, and the payload has none of them. -/
example :
    let b := empty.run [.write (exec 11 22), .clear, .push (Bytes.ofString "7")]
    b.payload = Bytes.ofString "7" ∧ b.cells.take 5 = Bytes.ofString "71:22" := by
  decide +kernel

end Ancestry.Relation.Buffer
