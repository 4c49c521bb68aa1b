import Ancestry.Proofs.Splitting
import Ancestry.Proofs.Utf8RoundTrip

/-!
# The lines of a log

The lines of a log are cut from its bytes, before anything is known about its text.
Newlines and carriage returns are bytes of their own in an encoded text, so the lines of
such a log are the encodings of the lines of its text.

A text that ends with a newline has no open line: whatever is put behind it adds lines
and changes none.
-/
namespace Ancestry.Text
open Utf8

/-- One carriage return at the end, dropped. -/
def dropReturn (line : List Char) : List Char :=
  if line.getLast? = some '\r' then line.dropLast else line

/-- The lines of a text: the pieces between its newlines without a final return, and what
follows the last newline as it stands, unless it is empty. -/
def textLines (cs : List Char) : List (List Char) :=
  (pieces (· = '\n') cs).dropLast.map dropReturn ++
    (pieces (· = '\n') cs).getLast?.toList.filter (· ≠ [])

/-- A text in which no line is left open. -/
def Ended (cs : List Char) : Prop := cs = [] ∨ cs.getLast? = some '\n'

/-! ## Lines of bytes and lines of characters -/

theorem pieces_append_of_forall_not {α : Type} {p : α → Bool} {xs : List α}
    (h : ∀ c ∈ xs, p c = false) {ys first : List α} {rest : List (List α)}
    (cut : pieces p ys = first :: rest) : pieces p (xs ++ ys) = (xs ++ first) :: rest := by
  induction xs with
  | nil => exact cut
  | cons c xs ih =>
    obtain ⟨keep, h⟩ := List.forall_mem_cons.mp h
    rw [List.cons_append, pieces_cons, ih h, keep]
    rfl

theorem newline_not_mem_encodeChar {c : Char} (h : c ≠ '\n') :
    ∀ b ∈ encodeChar c, decide (b = (10 : UInt8)) = false := by
  intro b member
  rw [decide_eq_false_iff_not]
  rintro rfl
  exact h (Char.toNat_inj.mp (ascii_mem_encodeChar member (by decide)))

/-- The newlines of a text are the bytes of value ten of its encoding. -/
theorem pieces_encode (cs : List Char) :
    pieces (· = (10 : UInt8)) (encode cs) = (pieces (· = '\n') cs).map encode := by
  induction cs with
  | nil => rfl
  | cons c cs ih =>
    obtain ⟨first, rest, cut⟩ := List.exists_cons_of_ne_nil (pieces_ne_nil (· = '\n') cs)
    rw [cut, List.map_cons] at ih
    by_cases newline : c = '\n'
    · subst newline
      change pieces (· = (10 : UInt8)) (10 :: encode cs) = _
      rw [pieces_cons, pieces_cons, ih, cut]
      rfl
    · rw [encode_cons, pieces_append_of_forall_not (newline_not_mem_encodeChar newline) ih,
        pieces_cons, cut, decide_eq_false newline]
      rfl

theorem getLast?_append_nonempty {α : Type} (xs : List α) {ys : List α} (h : ys ≠ []) :
    (xs ++ ys).getLast? = ys.getLast? := by
  rw [List.getLast?_append, List.getLast?_eq_some_getLast h, Option.some_or]

theorem encodeChar_ne_nil (c : Char) : encodeChar c ≠ [] := by
  unfold encodeChar
  dsimp only
  repeat' split
  all_goals exact List.cons_ne_nil _ _

theorem getLast?_encode {cs : List Char} {c : Char} (ascii : c.toNat < 0x80) :
    (encode cs).getLast? = some (UInt8.ofNat c.toNat) ↔ cs.getLast? = some c := by
  have byte : (UInt8.ofNat c.toNat).toNat = c.toNat := toNat_ofNat (by omega)
  rcases List.eq_nil_or_concat cs with rfl | ⟨front, d, rfl⟩
  · simp
  rw [List.concat_eq_append, encode_append, encode_cons, encode_nil, List.append_nil,
    getLast?_append_nonempty _ (encodeChar_ne_nil d), List.getLast?_concat]
  constructor
  · intro h
    have same := ascii_mem_encodeChar (List.mem_of_getLast? h) (by omega)
    rw [Char.toNat_inj.mp (same.trans byte)]
  · intro h
    obtain rfl := Option.some.inj h
    rw [encodeChar_of_ascii ascii]
    rfl

theorem ended_iff {cs : List Char} :
    encode cs = [] ∨ (encode cs).getLast? = some 10 ↔ Ended cs := by
  have newline : (encode cs).getLast? = some 10 ↔ cs.getLast? = some '\n' :=
    getLast?_encode (c := '\n') (by decide)
  have empty : encode cs = [] ↔ cs = [] := ⟨fun h => encode_injective h, fun h => by rw [h]; rfl⟩
  rw [newline, empty]
  exact Iff.rfl

theorem dropFinalReturn_encode (line : List Char) :
    dropFinalReturn (encode line) = encode (dropReturn line) := by
  have last : (encode line).getLast? = some 13 ↔ line.getLast? = some '\r' :=
    getLast?_encode (c := '\r') (by decide)
  unfold dropFinalReturn dropReturn
  by_cases ret : line.getLast? = some '\r'
  · obtain ⟨front, rfl⟩ := List.getLast?_eq_some_iff.mp ret
    rw [if_pos (last.mpr ret), if_pos ret, List.dropLast_concat, encode_append]
    exact List.dropLast_concat
  · rw [if_neg (fun h => ret (last.mp h)), if_neg ret]

theorem lines_eq (data : Bytes) :
    lines data = (pieces (· = (10 : UInt8)) data).dropLast.map dropFinalReturn ++
      (pieces (· = (10 : UInt8)) data).getLast?.toList.filter (· ≠ []) := by
  unfold lines
  dsimp only
  split
  · rename_i last
    rw [last]
    rfl
  · rename_i none
    cases last : (pieces (· = (10 : UInt8)) data).getLast? with
    | none => simp
    | some piece =>
      cases piece with
      | nil => simp
      | cons b rest => exact absurd last (none b rest)

/-- The lines of an encoded text are its encoded lines. -/
theorem lines_encode (cs : List Char) : lines (encode cs) = (textLines cs).map encode := by
  have nonempty (line : List Char) : encode line ≠ [] ↔ line ≠ [] :=
    not_congr ⟨fun h => encode_injective h, fun h => by rw [h]; rfl⟩
  rw [lines_eq, textLines, pieces_encode, List.map_append, ← List.map_dropLast, List.map_map,
    List.map_map, List.getLast?_map, Option.toList_map, List.filter_map]
  congr 2
  · exact funext dropFinalReturn_encode
  · exact List.filter_congr fun line _ => decide_eq_decide.mpr (nonempty line)

/-! ## Lines put behind others -/

section Lines
variable {α : Type} (p : α → Bool) (f : List α → List α)

/-- The pieces of a text as lines. All but the last are closed, and `f` is applied to them;
the last is a line only if it is not empty. -/
def linesBy (cs : List α) : List (List α) :=
  (pieces p cs).dropLast.map f ++ (pieces p cs).getLast?.toList.filter (· ≠ [])

theorem linesBy_append_cons (cs more : List α) {sep : α} (h : p sep = true) :
    linesBy p f (cs ++ sep :: more) = (pieces p cs).map f ++ linesBy p f more := by
  have nonempty := pieces_ne_nil p more
  unfold linesBy
  rw [pieces_append_cons p cs more h, List.dropLast_append_of_ne_nil nonempty,
    getLast?_append_nonempty _ nonempty, List.map_append, List.append_assoc]

/-- Behind a text that ends with a separator the lines go on. -/
theorem linesBy_append {cs : List α} {sep : α} (h : p sep = true)
    (ended : cs = [] ∨ cs.getLast? = some sep) (more : List α) :
    linesBy p f (cs ++ more) = linesBy p f cs ++ linesBy p f more := by
  rcases ended with rfl | ended
  · rfl
  · obtain ⟨front, rfl⟩ := List.getLast?_eq_some_iff.mp ended
    have alone := linesBy_append_cons p f front [] h
    rw [List.append_assoc, List.singleton_append, linesBy_append_cons p f front more h, alone,
      List.append_assoc]
    rfl

end Lines

theorem lines_append_cons (data more : Bytes) :
    lines (data ++ 10 :: more) =
      (pieces (· = (10 : UInt8)) data).map dropFinalReturn ++ lines more := by
  rw [lines_eq, lines_eq more]
  exact linesBy_append_cons _ dropFinalReturn data more (by decide)

theorem lines_append {data : Bytes} (ended : data = [] ∨ data.getLast? = some 10)
    (more : Bytes) : lines (data ++ more) = lines data ++ lines more := by
  rw [lines_eq, lines_eq data, lines_eq more]
  exact linesBy_append _ dropFinalReturn (by decide) ended more

theorem textLines_newline (cs more : List Char) :
    textLines (cs ++ '\n' :: more) =
      (pieces (· = '\n') cs).map dropReturn ++ textLines more :=
  linesBy_append_cons _ dropReturn cs more (by decide)

theorem textLines_append {cs : List Char} (ended : Ended cs) (more : List Char) :
    textLines (cs ++ more) = textLines cs ++ textLines more :=
  linesBy_append _ dropReturn (by decide) ended more

theorem textLines_line {line : List Char} (closed : '\n' ∉ line) (noReturn : '\r' ∉ line) :
    textLines (line ++ ['\n']) = [line] := by
  have whole : pieces (· = '\n') line = [line] := pieces_of_not_mem closed
  have bare : line.getLast? ≠ some '\r' := fun h => noReturn (List.mem_of_getLast? h)
  rw [textLines_newline, whole, List.map_singleton, dropReturn, if_neg bare]
  rfl

end Ancestry.Text
