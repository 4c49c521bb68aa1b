import Ancestry.Relation

/-!
# The buffer a relation is written into

A reporting process must not allocate, so a relation is written into a buffer of
thirty-five bytes: three times the longest pid, and two colons. A piece that does not
fit is refused whole and leaves the buffer as it was. Clearing the buffer only forgets
how far it was filled; its bytes stay until others are written over them.
-/
namespace Ancestry

/-- The longest text of a relation, in bytes. -/
def Relation.maxLength : Nat := 3 * 11 + 2

structure Relation.Buffer where
  /-- All bytes there is room for. Those beyond the length are left over from before. -/
  cells : Bytes
  length : Nat
  cells_length : cells.length = Relation.maxLength
  length_le : length ≤ Relation.maxLength

namespace Relation.Buffer

def empty : Buffer := ⟨List.replicate maxLength 0, 0, List.length_replicate, Nat.zero_le _⟩

/-- The bytes that were written and not cleared. -/
def payload (b : Buffer) : Bytes := b.cells.take b.length

def clear (b : Buffer) : Buffer := ⟨b.cells, 0, b.cells_length, Nat.zero_le _⟩

@[simp] theorem payload_empty : empty.payload = [] := rfl

@[simp] theorem payload_clear (b : Buffer) : b.clear.payload = [] := rfl

@[simp] theorem length_payload (b : Buffer) : b.payload.length = b.length := by
  rw [payload, List.length_take, b.cells_length]
  exact Nat.min_eq_left b.length_le

/-- The bytes after a piece was copied over those behind the payload. -/
def overlaid (b : Buffer) (piece : Bytes) : Bytes :=
  b.payload ++ piece ++ b.cells.drop (b.length + piece.length)

theorem length_overlaid {b : Buffer} {piece : Bytes}
    (h : b.length + piece.length ≤ maxLength) : (b.overlaid piece).length = maxLength := by
  simp only [overlaid, List.length_append, length_payload, List.length_drop, b.cells_length]
  omega

/-- The buffer with a piece added, unless it is too long for what is left. -/
def push? (b : Buffer) (piece : Bytes) : Option Buffer :=
  if h : b.length + piece.length ≤ maxLength then
    some ⟨b.overlaid piece, b.length + piece.length, length_overlaid h, h⟩
  else none

theorem push?_isSome {b : Buffer} {piece : Bytes} :
    (b.push? piece).isSome ↔ b.length + piece.length ≤ maxLength := by
  unfold push?
  split <;> simp [*]

/-- What a buffer holds after a piece was added; no byte that was left over is in it. -/
theorem payload_of_push? {b next : Buffer} {piece : Bytes} (h : b.push? piece = some next) :
    next.payload = b.payload ++ piece := by
  unfold push? at h
  split at h
  · cases h
    exact List.take_left' (by rw [List.length_append, length_payload])
  · cases h

/-- Adds a piece if it fits. -/
def push (b : Buffer) (piece : Bytes) : Buffer := (b.push? piece).getD b

/-- The pieces a relation is written in. -/
def piecesOf (r : Relation) : List Bytes :=
  let field (p : Pid) := Utf8.encode (Relation.pidChars p)
  let colon := Utf8.encode [':']
  [field r.parent, colon, field r.child]
    ++ r.infant.toList.flatMap fun p => [colon, field p]

/-- Adds the pieces in order and stops at the first that does not fit. -/
def pushAll (b : Buffer) : List Bytes → Buffer
  | [] => b
  | piece :: more =>
    match b.push? piece with
    | some b => pushAll b more
    | none => b

/-- The buffer after a relation was written into it; what it held before is gone. -/
def write (before : Buffer) (r : Relation) : Buffer := before.clear.pushAll (piecesOf r)

/-- What can be done to a buffer. -/
inductive Step
  | push (piece : Bytes)
  | clear
  | write (r : Relation)

/-- One step and whether it was taken; only a piece can be refused. -/
def step (b : Buffer) : Step → Bool × Buffer
  | .push piece => ((b.push? piece).isSome, b.push piece)
  | .clear => (true, b.clear)
  | .write r => (true, b.write r)

end Relation.Buffer

/-- The bytes of a relation as a report carries them, written through the buffer. -/
def Relation.encode (r : Relation) : Bytes :=
  (Relation.Buffer.empty.write r).payload

end Ancestry
