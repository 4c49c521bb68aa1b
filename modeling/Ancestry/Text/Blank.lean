/-!
# Blanks, trimming and splitting

Two notions of blank are in use. The relation text allows the five blanks of ASCII
around it, the vertical tab not among them. Lines of a log and entries of a preload
list go by the White_Space property of Unicode.

Splitting keeps empty pieces, so the pieces joined by their separator are the text
again. Words are the nonempty pieces between blanks.
-/
namespace Ancestry.Text

/-- Space, tab, line feed, form feed and carriage return. -/
def isAsciiBlank (c : Char) : Bool :=
  c = ' ' || c = '\t' || c = '\n' || c = '\x0c' || c = '\r'

/-- The White_Space property. -/
def isBlank (c : Char) : Bool :=
  let v := c.toNat
  (9 ≤ v && v ≤ 13) || v = 0x20 || v = 0x85 || v = 0xA0 || v = 0x1680
    || (0x2000 ≤ v && v ≤ 0x200A) || v = 0x2028 || v = 0x2029 || v = 0x202F
    || v = 0x205F || v = 0x3000

theorem isBlank_of_isAsciiBlank {c : Char} (h : isAsciiBlank c) : isBlank c := by
  simp only [isAsciiBlank, Bool.or_eq_true, decide_eq_true_eq] at h
  rcases h with (((rfl | rfl) | rfl) | rfl) | rfl <;> decide

variable {α : Type}

/-- Drops what satisfies `p` at both ends. -/
def strip (p : α → Bool) (cs : List α) : List α :=
  ((cs.dropWhile p).reverse.dropWhile p).reverse

/-- One more element on the first piece. -/
def extendFirst (c : α) : List (List α) → List (List α)
  | [] => [[c]]
  | piece :: more => (c :: piece) :: more

/-- The pieces between the elements that satisfy `p`; there is always at least one. -/
def pieces (p : α → Bool) (cs : List α) : List (List α) :=
  cs.foldr (fun c done => if p c then [] :: done else extendFirst c done) [[]]

@[simp] theorem pieces_nil (p : α → Bool) : pieces p [] = [[]] := rfl

theorem pieces_cons (p : α → Bool) (c : α) (cs : List α) :
    pieces p (c :: cs) = if p c then [] :: pieces p cs else extendFirst c (pieces p cs) := rfl

theorem pieces_ne_nil (p : α → Bool) (cs : List α) : pieces p cs ≠ [] := by
  cases cs with
  | nil => simp
  | cons c cs =>
    rw [pieces_cons]
    split
    · simp
    · cases pieces p cs <;> simp [extendFirst]

/-- The nonempty pieces between blanks. -/
def words (cs : List Char) : List (List Char) :=
  (pieces isBlank cs).filter (· ≠ [])

/-- One carriage return at the end, dropped. -/
def dropFinalReturn (line : List UInt8) : List UInt8 :=
  if line.getLast? = some 13 then line.dropLast else line

/-- The lines of a log: a line feed ends a line and takes one carriage return before
it along; what follows the last line feed is a line unless it is empty, and keeps its
carriage return. -/
def lines (data : List UInt8) : List (List UInt8) :=
  let all := pieces (· = 10) data
  let ended := all.dropLast.map dropFinalReturn
  match all.getLast? with
  | some (b :: rest) => ended ++ [b :: rest]
  | _ => ended

end Ancestry.Text
