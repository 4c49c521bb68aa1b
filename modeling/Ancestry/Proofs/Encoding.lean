import Ancestry.Proofs.Grammar
import Ancestry.Proofs.Utf8RoundTrip
import Ancestry.Relation.Buffer

/-!
# The encoding of relations

The buffer has room for every relation, so writing one never stops early and the bytes
are those of the whole text, whatever the buffer held before. Reading them gives the
relation back, with any ASCII blanks around them.

Many texts denote one relation. The encoding is the one among them that has no blanks at
its ends and a canonical numeral in every field.
-/
namespace Ancestry.Relation
open Decimal Text

/-! ## The characters of a text -/

theorem mem_toChars {r : Relation} {c : Char} (h : c ∈ r.toChars) :
    c = ':' ∨ c = '-' ∨ c.isDigit = true := by
  rcases mem_intercalate h with h | ⟨f, member, h⟩
  · exact .inl h
  · obtain ⟨p, -, rfl⟩ := List.mem_map.mp member
    exact .inr (mem_digits h)

theorem toNat_of_mem_toChars {r : Relation} {c : Char} (h : c ∈ r.toChars) :
    c.toNat = 45 ∨ 48 ≤ c.toNat ∧ c.toNat ≤ 58 := by
  rcases mem_toChars h with rfl | rfl | digit
  · exact .inr ⟨by decide, by decide⟩
  · exact .inl rfl
  · have range := toNat_of_isDigit digit
    exact .inr ⟨range.1, by omega⟩

theorem isBlank_of_mem_toChars {r : Relation} {c : Char} (h : c ∈ r.toChars) :
    isBlank c = false := by
  have range := toNat_of_mem_toChars h
  rw [Bool.eq_false_iff]
  intro blank
  simp only [isBlank, Bool.or_eq_true, Bool.and_eq_true, decide_eq_true_eq] at blank
  omega

theorem isAsciiBlank_of_mem_toChars {r : Relation} {c : Char} (h : c ∈ r.toChars) :
    isAsciiBlank c = false := by
  rw [Bool.eq_false_iff]
  intro blank
  exact Bool.eq_false_iff.mp (isBlank_of_mem_toChars h) (isBlank_of_isAsciiBlank blank)

theorem toChars_ne_nil (r : Relation) : r.toChars ≠ [] := by
  obtain ⟨parent, child, infant⟩ := r
  cases infant <;> simp [toChars, pids]

theorem tight_toChars (r : Relation) : Tight isAsciiBlank r.toChars where
  front _ h := isAsciiBlank_of_mem_toChars (List.mem_of_head? h)
  back _ h := isAsciiBlank_of_mem_toChars (List.mem_of_getLast? h)

theorem colon_not_mem_pidChars (p : Pid) : ':' ∉ pidChars p := by
  intro h
  rcases mem_digits h with h | h
  · cases h
  · exact absurd h (by decide)

theorem separated_toChars (r : Relation) : Separated ':' (r.pids.map pidChars) r.toChars where
  nonempty := by simp [pids]
  clean f member := by
    obtain ⟨p, -, rfl⟩ := List.mem_map.mp member
    exact colon_not_mem_pidChars p
  joined := rfl

theorem means_pids (r : Relation) : Means (r.pids.map pidChars) (.ok r) := by
  obtain ⟨parent, child, infant⟩ := r
  cases infant with
  | none => exact .exec (numeral_digits _) (numeral_digits _)
  | some infant => exact .fork (numeral_digits _) (numeral_digits _) (numeral_digits _)

/-- Blanks around the text of a relation do no harm. -/
theorem ofChars_around (r : Relation) {u v : List Char} (before : ∀ c ∈ u, isAsciiBlank c)
    (behind : ∀ c ∈ v, isAsciiBlank c) : ofChars (u ++ r.toChars ++ v) = .ok r :=
  ofChars_eq_iff.mpr
    (.mk ⟨tight_toChars r, u, v, rfl, before, behind⟩ (separated_toChars r) (means_pids r))

@[simp] theorem ofChars_toChars (r : Relation) : ofChars r.toChars = .ok r := by
  simpa using ofChars_around r (u := []) (v := []) (by simp) (by simp)

theorem toChars_injective {r s : Relation} (h : r.toChars = s.toChars) : r = s := by
  have read := ofChars_toChars r
  rw [h, ofChars_toChars] at read
  exact (Except.ok.inj read).symm

/-! ## The buffer -/

namespace Buffer

/-- Pieces that fit together are all taken. -/
theorem payload_pushAll {b : Buffer} {pieces : List Bytes}
    (h : b.length + pieces.flatten.length ≤ maxLength) :
    (b.pushAll pieces).payload = b.payload ++ pieces.flatten := by
  induction pieces generalizing b with
  | nil => simp [pushAll]
  | cons piece pieces ih =>
    rw [List.flatten_cons, List.length_append] at h
    have fits : (b.push? piece).isSome := push?_isSome.mpr (by omega)
    obtain ⟨next, pushed⟩ := Option.isSome_iff_exists.mp fits
    have held := payload_of_push? pushed
    have length : next.length = b.length + piece.length := by
      rw [← length_payload, held, List.length_append, length_payload]
    rw [pushAll, pushed]
    dsimp only
    rw [ih (by omega), held, List.flatten_cons, List.append_assoc]

theorem flatten_piecesOf (r : Relation) : (piecesOf r).flatten = Utf8.encode r.toChars := by
  obtain ⟨parent, child, infant⟩ := r
  cases infant with
  | none => simp [piecesOf, toChars, pids, Utf8.encode_append]
  | some infant => simp [piecesOf, toChars, pids, Utf8.encode_append]

end Buffer

theorem length_encode_of_ascii {cs : List Char} (h : ∀ c ∈ cs, c.toNat < 0x80) :
    (Utf8.encode cs).length = cs.length := by
  induction cs with
  | nil => rfl
  | cons c cs ih =>
    obtain ⟨ascii, h⟩ := List.forall_mem_cons.mp h
    rw [Utf8.encode_cons, Utf8.encodeChar_of_ascii ascii, List.singleton_append,
      List.length_cons, List.length_cons, ih h]

/-- The bound is reached by the least pid in all three places. -/
theorem length_toChars_le (r : Relation) : r.toChars.length ≤ maxLength := by
  have len (p : Pid) : (pidChars p).length ≤ 11 := length_digits_le p
  obtain ⟨parent, child, infant⟩ := r
  have lp := len parent
  have lc := len child
  cases infant with
  | none =>
    simp only [toChars, pids, Option.toList_none, List.map_cons, List.map_nil,
      List.intercalate_cons_cons, List.intercalate_singleton, List.length_append,
      List.length_singleton, maxLength]
    omega
  | some infant =>
    have li := len infant
    simp only [toChars, pids, Option.toList_some, List.map_cons, List.map_nil,
      List.intercalate_cons_cons, List.intercalate_singleton, List.length_append,
      List.length_singleton, maxLength]
    omega

theorem length_encode_toChars (r : Relation) :
    (Utf8.encode r.toChars).length = r.toChars.length := by
  apply length_encode_of_ascii
  intro c member
  have range := toNat_of_mem_toChars member
  omega

/-- Whatever the buffer held, it holds the whole text afterwards. -/
theorem payload_write (before : Buffer) (r : Relation) :
    (before.write r).payload = Utf8.encode r.toChars := by
  have fits : before.clear.length + (Buffer.piecesOf r).flatten.length ≤ maxLength := by
    rw [Buffer.flatten_piecesOf, length_encode_toChars, ← Buffer.length_payload,
      Buffer.payload_clear, List.length_nil, Nat.zero_add]
    exact length_toChars_le r
  rw [Buffer.write, Buffer.payload_pushAll fits, Buffer.flatten_piecesOf, Buffer.payload_clear,
    List.nil_append]

theorem encode_eq (r : Relation) : r.encode = Utf8.encode r.toChars :=
  payload_write Buffer.empty r

/-! ## The texts of one relation -/

theorem fields_of_canonical {fields : List (List Char)} {r : Relation}
    (means : Means fields (.ok r)) (canonical : ∀ f ∈ fields, Canonical f) :
    fields = r.pids.map pidChars := by
  have written {f : List Char} {p : Pid} (pid : IsPid f p) (member : f ∈ fields) :
      f = pidChars p := eq_digits_of_canonical pid (canonical f member)
  cases means with
  | exec hp hq =>
    rw [written hp (by simp), written hq (by simp)]
    rfl
  | fork hp hq hr =>
    rw [written hp (by simp), written hq (by simp), written hr (by simp)]
    rfl

theorem eq_toChars_iff {cs : List Char} {r : Relation} (h : ofChars cs = .ok r) :
    cs = r.toChars ↔
      Tight isAsciiBlank cs ∧ ∃ fields, Separated ':' fields cs ∧ ∀ f ∈ fields, Canonical f := by
  constructor
  · rintro rfl
    refine ⟨tight_toChars r, _, separated_toChars r, fun f member => ?_⟩
    obtain ⟨p, -, rfl⟩ := List.mem_map.mp member
    exact canonical_digits p.toInt
  · rintro ⟨tight, fields, separated, canonical⟩
    rw [ofChars, strip_of_tight tight, separated_iff.mp separated, ofFields_eq_iff] at h
    rw [← separated.joined, fields_of_canonical h canonical]
    rfl

/-- Writing a relation and reading its text undo each other. The buffer never cuts the
text, whatever it held, blanks around the text are passed over, and no other relation is
written alike. Of the texts that are read as the relation, the written one is that
without blanks at its ends in which every field is canonical. -/
theorem write_parse (before : Buffer) (r : Relation) :
    (before.write r).payload = Bytes.ofString r.text ∧
    (∀ u v : String, (∀ c ∈ u.toList, isAsciiBlank c) → (∀ c ∈ v.toList, isAsciiBlank c) →
      parse (u ++ r.text ++ v) = .ok r) ∧
    (∀ (other : Relation) (held : Buffer),
      (held.write other).payload = (before.write r).payload → other = r) ∧
    ∀ s : String, parse s = .ok r →
      (Bytes.ofString s = (before.write r).payload ↔
        Tight isAsciiBlank s.toList ∧
          ∃ fields, Separated ':' fields s.toList ∧ ∀ f ∈ fields, Canonical f) := by
  have chars : r.text.toList = r.toChars := String.toList_ofList
  refine ⟨?_, fun u v before behind => ?_, fun other held same => ?_, fun s read => ?_⟩
  · rw [payload_write, Bytes.ofString, chars]
  · rw [parse, String.toList_append, String.toList_append, chars]
    exact ofChars_around r before behind
  · rw [payload_write, payload_write] at same
    exact toChars_injective (Utf8.encode_injective same)
  · rw [payload_write, ← eq_toChars_iff read]
    exact ⟨Utf8.encode_injective, congrArg Utf8.encode⟩

/-- The widest relation in a buffer that held another, and a text of one relation that is
not its encoding. -/
theorem write_parse_widest :
    let widest := fork (-2147483648) (-2147483648) (-2147483648)
    let used := Buffer.empty.write (exec 1 2)
    (used.write widest).payload = Bytes.ofString "-2147483648:-2147483648:-2147483648" ∧
    parse (" \t" ++ widest.text ++ "\n") = .ok widest ∧
    parse "7:+8" = .ok (exec 7 8) ∧ Bytes.ofString "7:+8" ≠ (used.write (exec 7 8)).payload := by
  intro widest used
  have read : parse "7:+8" = .ok (exec 7 8) := by rfl
  refine ⟨(write_parse used widest).1.trans (by decide +kernel), ?_, read, ?_⟩
  · have before : ∀ c ∈ " \t".toList, isAsciiBlank c := List.all_eq_true.mp rfl
    have behind : ∀ c ∈ "\n".toList, isAsciiBlank c := List.all_eq_true.mp rfl
    exact (write_parse used widest).2.1 " \t" "\n" before behind
  · intro same
    obtain ⟨-, fields, separated, canonical⟩ :=
      ((write_parse used (exec 7 8)).2.2.2 "7:+8" read).mp same
    rw [← separated_iff.mp separated] at canonical
    exact (canonical ['+', '8'] (by decide)).noPlus ['8'] rfl

end Ancestry.Relation
