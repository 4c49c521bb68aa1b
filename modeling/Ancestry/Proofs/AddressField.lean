import Ancestry.Proofs.OnePayload

/-!
# The field of a socket address

The path of a socket is written into an array of signed characters that holds zeros, one byte after
the other, and what does not fit would be left out without a word. So whether it fits is asked
before, and the array has to have a place more for the zero at the end. Then the bytes up to the
first zero are the path and nothing else, whatever bytes it is made of, and no two paths have the
same address.
-/
namespace Ancestry.SocketAddress
open World

/-- The places of an array after bytes were written to them in order, as many as there are of
both. -/
def overwritten : List Int8 → Bytes → List Int8
  | _ :: places, b :: bytes => b.toInt8 :: overwritten places bytes
  | places, _ => places

/-- The bytes of a whole address. -/
def wholeLength : Nat := familyLength + socketPathRoom

/-- Bytes beyond the last place are left out, and places beyond the last byte stay zero. -/
theorem overwritten_zeros (places : Nat) (path : Bytes) :
    (overwritten (List.replicate places 0) path).map Int8.toUInt8 =
      path.take places ++ List.replicate (places - path.length) 0 := by
  induction path generalizing places with
  | nil =>
    have still : overwritten (List.replicate places 0) [] = List.replicate places 0 := by
      cases places <;> rfl
    rw [still, List.map_replicate, List.take_nil, List.nil_append]
    rfl
  | cons b bytes ih =>
    cases places with
    | zero => simp [overwritten]
    | succ places =>
      rw [List.replicate_succ, overwritten, List.map_cons, ih, List.take_succ_cons,
        List.length_cons, Nat.add_sub_add_right, UInt8.toUInt8_toInt8]
      rfl

variable {path : Bytes} {a : SocketAddress}

theorem ofPath_eq_tooLong : ofPath path = .error .nameTooLong ↔ 108 ≤ path.length := by
  unfold ofPath
  split
  case isTrue long => exact ⟨fun _ => long, fun _ => rfl⟩
  case isFalse short =>
    split <;>
    · refine ⟨fun refused => ?_, fun long => absurd long short⟩
      cases refused

/-- What is refused though it is short enough is empty or has a zero in it. -/
theorem ofPath_eq_invalid :
    ofPath path = .error .invalidArgument ↔ path.length < 108 ∧ ¬ Addressable path := by
  unfold ofPath
  split
  case isTrue long =>
    refine ⟨fun refused => ?_, fun unfit => absurd long (Nat.not_le.mpr unfit.1)⟩
    cases refused
  case isFalse short =>
    have short : path.length < 108 := Nat.not_le.mp short
    split
    case isTrue unusable =>
      refine ⟨fun _ => ⟨short, fun fits => ?_⟩, fun _ => rfl⟩
      rcases unusable with rfl | zero
      · exact absurd fits.nonempty (by decide)
      · exact fits.sound zero
    case isFalse usable =>
      refine ⟨fun refused => ?_, fun unfit => ?_⟩
      · cases refused
      · exact absurd (.of_not (Nat.le_of_lt_succ short) usable) unfit.2

/-- An address is filled with its path and zeros, and counts one zero behind it. -/
theorem ofPath_eq_ok (made : ofPath path = .ok a) :
    path.length < 108 ∧ a.field = fill path ∧ a.length = familyLength + path.length + 1 := by
  unfold ofPath at made
  split at made
  case isTrue => cases made
  case isFalse short =>
    split at made
    case isTrue => cases made
    case isFalse =>
      cases made
      exact ⟨Nat.not_le.mp short, rfl, rfl⟩

theorem ofPath_isOk : (∃ a, ofPath path = .ok a) ↔ Addressable path := by
  constructor
  · rintro ⟨a, made⟩
    refine Classical.byContradiction fun unfit => ?_
    rw [ofPath_eq_invalid.mpr ⟨(ofPath_eq_ok made).1, unfit⟩] at made
    cases made
  · intro fits
    obtain ⟨a, made, -⟩ := fits.exists_ofPath
    exact ⟨a, made⟩

/-- The array that the path was written to. -/
theorem field_of_ofPath (made : ofPath path = .ok a) :
    a.field = (overwritten (List.replicate 108 0) path).map Int8.toUInt8 := by
  obtain ⟨short, filled, -⟩ := ofPath_eq_ok made
  rw [filled, overwritten_zeros, List.take_of_length_le (Nat.le_of_lt short)]
  rfl

/-- A path has an address exactly if it has a byte, at most 107 of them, and no zero among them.
The field of the address is what the array holds after the path was written to it: the path up to
the first zero, zeros from there on. Its length counts the family, the path and one zero, within
the whole address, and no other path has this field. Paths that are too long and paths that are
otherwise unfit are refused with an error of their own. -/
theorem ofPath_exact (path : Bytes) :
    ((∃ a, ofPath path = .ok a) ↔ Addressable path) ∧
    (∀ a, ofPath path = .ok a →
      a.field = (overwritten (List.replicate 108 0) path).map Int8.toUInt8 ∧
      a.field.length = 108 ∧
      a.field.takeWhile (· ≠ 0) = path ∧
      (∀ b ∈ a.field.drop path.length, b = 0) ∧
      a.length = familyLength + path.length + 1 ∧ a.length ≤ wholeLength ∧
      ∀ other b, ofPath other = .ok b → b.field = a.field → other = path) ∧
    (ofPath path = .error .nameTooLong ↔ 108 ≤ path.length) ∧
    (ofPath path = .error .invalidArgument ↔ path.length < 108 ∧ ¬ Addressable path) := by
  refine ⟨ofPath_isOk, fun a made => ?_, ofPath_eq_tooLong, ofPath_eq_invalid⟩
  obtain ⟨short, filled, length⟩ := ofPath_eq_ok made
  refine ⟨field_of_ofPath made, a.field_length, path_of_ofPath made, ?_, length, ?_, ?_⟩
  · intro b behind
    rw [filled, fill, List.drop_left] at behind
    exact List.eq_of_mem_replicate behind
  · rw [length, wholeLength, Nat.add_assoc]
    exact Nat.add_le_add_left short familyLength
  · intro other b made' same
    calc other = b.path := (path_of_ofPath made').symm
      _ = a.path := by rw [SocketAddress.path, same, SocketAddress.path]
      _ = path := path_of_ofPath made

end Ancestry.SocketAddress
