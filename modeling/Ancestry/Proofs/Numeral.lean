import Ancestry.Relation

/-!
# Numerals in base ten

A numeral is an optional sign before one or more digits, and its value is the positional
value of the digits under that sign. Reading a pid accepts exactly the numerals whose
value is a pid, leading zeros and the plus sign included.

Writing gives a numeral back, of at most eleven characters for a pid. It is the only
canonical one: no plus sign, no zero that could be left out, and no minus before zero
alone. Bases other than ten are not treated here.
-/
namespace Ancestry.Decimal

/-- What may stand before the digits of a number. -/
inductive Sign
  | bare
  | plus
  | minus
  deriving Repr, DecidableEq

namespace Sign

def chars : Sign → List Char
  | bare => []
  | plus => ['+']
  | minus => ['-']

def apply : Sign → Nat → Int
  | minus, n => -(n : Int)
  | _, n => n

end Sign

/-- A text that is a sign and at least one digit, beside its value. -/
inductive Numeral : List Char → Int → Prop
  | mk (sign : Sign) {ds : List Char} (nonempty : ds ≠ []) (digits : ∀ c ∈ ds, c.isDigit) :
      Numeral (sign.chars ++ ds) (sign.apply (Nat.ofDigitChars 10 ds 0))

/-- A text without any sign or zero that could be left out of a number. -/
structure Canonical (cs : List Char) : Prop where
  noPlus : ∀ ds, cs ≠ '+' :: ds
  noLeadingZero : ∀ d ds, cs ≠ '0' :: d :: ds ∧ cs ≠ '-' :: '0' :: d :: ds
  noNegativeZero : cs ≠ ['-', '0']

/-! ## Digits -/

theorem isDigit_iff {c : Char} : c.isDigit = true ↔ '0' ≤ c ∧ c ≤ '9' := by
  simp only [Char.isDigit, Bool.and_eq_true, decide_eq_true_eq, Char.le_def]

theorem toNat_of_isDigit {c : Char} (h : c.isDigit = true) : 48 ≤ c.toNat ∧ c.toNat ≤ 57 := by
  rw [isDigit_iff, Char.le_def, Char.le_def, UInt32.le_iff_toNat_le, UInt32.le_iff_toNat_le] at h
  exact h

theorem digitValue_of_isDigit {c : Char} (h : c.isDigit = true) :
    digitValue c = some (c.toNat - '0'.toNat) := by
  rw [digitValue, if_pos (isDigit_iff.mp h)]
  rfl

/-- Letters have values too, but none below ten. -/
theorem isDigit_of_digitValue {c : Char} {d : Nat} (h : digitValue c = some d) (small : d < 10) :
    c.isDigit = true := by
  unfold digitValue at h
  split at h
  · rename_i digit
    exact isDigit_iff.mpr digit
  · split at h
    · rename_i letter
      have low : 97 ≤ c.toNat := UInt32.le_iff_toNat_le.mp (Char.le_def.mp letter.1)
      simp only [Option.some.injEq] at h
      omega
    · split at h
      · rename_i letter
        have low : 65 ≤ c.toNat := UInt32.le_iff_toNat_le.mp (Char.le_def.mp letter.1)
        simp only [Option.some.injEq] at h
        omega
      · cases h

theorem pushDigit_of_isDigit {c : Char} (h : c.isDigit = true) (v : Nat) :
    pushDigit 10 (some v) c = some (10 * v + (c.toNat - '0'.toNat)) := by
  have range := toNat_of_isDigit h
  have small : c.toNat - '0'.toNat < 10 := by
    change c.toNat - 48 < 10
    omega
  simp only [pushDigit, digitValue_of_isDigit h, small, ↓reduceIte, Nat.mul_comm v 10]

theorem pushDigit_of_not_isDigit {c : Char} (h : ¬ c.isDigit = true) (v : Option Nat) :
    pushDigit 10 v c = none := by
  cases v with
  | none => rfl
  | some v =>
    cases value : digitValue c with
    | none => simp only [pushDigit, value]
    | some d =>
      have large : ¬ d < 10 := fun small => h (isDigit_of_digitValue value small)
      simp only [pushDigit, value, large, ↓reduceIte]

theorem foldl_pushDigit_none (cs : List Char) : cs.foldl (pushDigit 10) none = none := by
  induction cs with
  | nil => rfl
  | cons c cs ih => simpa only [List.foldl_cons, pushDigit] using ih

/-- The fold over the characters knows of nothing but digits, and adds them up by place. -/
theorem foldl_pushDigit_eq_some {cs : List Char} {a v : Nat} :
    cs.foldl (pushDigit 10) (some a) = some v ↔
      (∀ c ∈ cs, c.isDigit) ∧ v = Nat.ofDigitChars 10 cs a := by
  induction cs generalizing a with
  | nil =>
    simp only [List.foldl_nil, Option.some.injEq, List.not_mem_nil, false_implies, implies_true,
      Nat.ofDigitChars_nil, true_and]
    exact eq_comm
  | cons c cs ih =>
    by_cases digit : c.isDigit = true
    · rw [List.foldl_cons, pushDigit_of_isDigit digit, ih, Nat.ofDigitChars_cons]
      simp only [List.forall_mem_cons, digit, true_and]
    · rw [List.foldl_cons, pushDigit_of_not_isDigit digit, foldl_pushDigit_none]
      constructor
      · intro h
        cases h
      · intro h
        exact absurd (h.1 c List.mem_cons_self) digit

theorem readDigits_eq_some {cs : List Char} {v : Nat} :
    readDigits 10 cs = some v ↔
      cs ≠ [] ∧ (∀ c ∈ cs, c.isDigit) ∧ v = Nat.ofDigitChars 10 cs 0 := by
  unfold readDigits
  split
  · simp_all
  · rename_i nonempty
    rw [foldl_pushDigit_eq_some]
    simp only [ne_eq, nonempty, not_false_eq_true, true_and]

/-! ## Reading -/

theorem readSigned_minus (ds : List Char) :
    readSigned 10 ('-' :: ds) = (readDigits 10 ds).map Sign.minus.apply := by
  rw [readSigned]
  cases readDigits 10 ds <;> rfl

theorem readSigned_plus (ds : List Char) :
    readSigned 10 ('+' :: ds) = (readDigits 10 ds).map Sign.plus.apply := by
  rw [readSigned]
  cases readDigits 10 ds <;> rfl

theorem readSigned_bare {cs : List Char} (minus : ∀ ds, cs ≠ '-' :: ds)
    (plus : ∀ ds, cs ≠ '+' :: ds) :
    readSigned 10 cs = (readDigits 10 cs).map Sign.bare.apply := by
  rw [readSigned.eq_3 10 cs minus plus]
  cases readDigits 10 cs <;> rfl

/-- Every text is cut in one way into a sign and what stands behind it. -/
theorem exists_readSigned (cs : List Char) :
    ∃ (sign : Sign) (ds : List Char), cs = sign.chars ++ ds ∧
      readSigned 10 cs = (readDigits 10 ds).map sign.apply := by
  by_cases minus : ∃ ds, cs = '-' :: ds
  · obtain ⟨ds, rfl⟩ := minus
    exact ⟨.minus, ds, rfl, readSigned_minus ds⟩
  · by_cases plus : ∃ ds, cs = '+' :: ds
    · obtain ⟨ds, rfl⟩ := plus
      exact ⟨.plus, ds, rfl, readSigned_plus ds⟩
    · exact ⟨.bare, cs, rfl, readSigned_bare (fun ds h => minus ⟨ds, h⟩) fun ds h => plus ⟨ds, h⟩⟩

theorem ne_sign_cons {cs ds : List Char} {sign : Char} (h : ∀ c ∈ cs, c.isDigit)
    (noDigit : ¬ sign.isDigit = true) : cs ≠ sign :: ds := by
  rintro rfl
  exact noDigit (h sign List.mem_cons_self)

theorem readSigned_sign (sign : Sign) {ds : List Char} (digits : ∀ c ∈ ds, c.isDigit) :
    readSigned 10 (sign.chars ++ ds) = (readDigits 10 ds).map sign.apply := by
  cases sign with
  | bare =>
    apply readSigned_bare
    · exact fun _ => ne_sign_cons digits (by decide)
    · exact fun _ => ne_sign_cons digits (by decide)
  | plus => exact readSigned_plus ds
  | minus => exact readSigned_minus ds

theorem readSigned_eq_some {cs : List Char} {v : Int} :
    readSigned 10 cs = some v ↔ Numeral cs v := by
  constructor
  · intro h
    obtain ⟨sign, ds, rfl, reading⟩ := exists_readSigned cs
    rw [reading] at h
    obtain ⟨n, read, rfl⟩ := Option.map_eq_some_iff.mp h
    obtain ⟨nonempty, digits, rfl⟩ := readDigits_eq_some.mp read
    exact Numeral.mk sign nonempty digits
  · rintro ⟨sign, nonempty, digits⟩
    rw [readSigned_sign sign digits, readDigits_eq_some.mpr ⟨nonempty, digits, rfl⟩]
    rfl

/-- A pid is read from the numerals of its value and from nothing else. -/
theorem readInt32_eq_some {cs : List Char} {p : Int32} :
    readInt32 cs = some p ↔ Numeral cs p.toInt := by
  have bounds : -2147483648 ≤ p.toInt ∧ p.toInt ≤ 2147483647 :=
    ⟨p.le_toInt, Int.le_of_lt_add_one p.toInt_lt⟩
  rw [← readSigned_eq_some, readInt32, readBetween]
  constructor
  · intro h
    obtain ⟨v, read, rfl⟩ := Option.map_eq_some_iff.mp h
    cases signed : readSigned 10 cs with
    | none => simp [signed] at read
    | some w =>
      simp only [signed, Option.ite_none_right_eq_some, Option.some.injEq] at read
      obtain ⟨range, rfl⟩ := read
      rw [Int32.toInt_ofInt_of_le (by omega) (by omega)]
  · intro h
    simp only [h, bounds, and_self, ↓reduceIte, Option.map_some, Int32.ofInt_toInt]

/-! ## Writing -/

theorem digitChar_of_isDigit {c : Char} (h : c.isDigit = true) :
    Nat.digitChar (c.toNat - '0'.toNat) = c := by
  have range := toNat_of_isDigit h
  have table : ∀ n < 10, Nat.digitChar n = Char.ofNat (48 + n) := by decide
  change Nat.digitChar (c.toNat - 48) = c
  rw [table _ (by omega), Nat.add_sub_cancel' range.1, Char.ofNat_toNat]

/-- The digits of an integer are a numeral of it. -/
theorem numeral_digits (v : Int) : Numeral (digits v) v := by
  have isDigit : ∀ c ∈ Nat.toDigits 10 v.natAbs, c.isDigit :=
    fun c member => Nat.isDigit_of_mem_toDigits (by decide) (by decide) member
  unfold digits
  split
  · rename_i negative
    have numeral := Numeral.mk .minus Nat.toDigits_ne_nil isDigit
    have value : Sign.minus.apply (Nat.ofDigitChars 10 (Nat.toDigits 10 v.natAbs) 0) = v := by
      simp only [Sign.apply, Nat.ofDigitChars_ten_toDigits]
      omega
    rwa [value] at numeral
  · rename_i nonnegative
    have numeral := Numeral.mk .bare Nat.toDigits_ne_nil isDigit
    have value : Sign.bare.apply (Nat.ofDigitChars 10 (Nat.toDigits 10 v.natAbs) 0) = v := by
      simp only [Sign.apply, Nat.ofDigitChars_ten_toDigits]
      omega
    rwa [value] at numeral

theorem readInt32_digits (p : Int32) : readInt32 (digits p.toInt) = some p :=
  readInt32_eq_some.mpr (numeral_digits p.toInt)

/-- Nothing but digits and the minus sign is ever written. -/
theorem mem_digits {v : Int} {c : Char} (h : c ∈ digits v) : c = '-' ∨ c.isDigit = true := by
  unfold digits at h
  split at h
  · rcases List.mem_cons.mp h with rfl | h
    · exact .inl rfl
    · exact .inr (Nat.isDigit_of_mem_toDigits (by decide) (by decide) h)
  · exact .inr (Nat.isDigit_of_mem_toDigits (by decide) (by decide) h)

/-- The longest pid is the least one, a minus sign and ten digits. -/
theorem length_digits_le (p : Int32) : (digits p.toInt).length ≤ 11 := by
  have low := p.le_toInt
  have high := p.toInt_lt
  have short : (Nat.toDigits 10 p.toInt.natAbs).length ≤ 10 := by
    rw [Nat.length_toDigits_le_iff (by decide) (by decide)]
    omega
  unfold digits
  split
  · rw [List.length_cons]
    omega
  · omega

/-! ## The canonical numeral -/

theorem toDigits_push {n : Nat} (positive : 0 < n) {c : Char} (digit : c.isDigit = true) :
    Nat.toDigits 10 (10 * n + (c.toNat - '0'.toNat)) = Nat.toDigits 10 n ++ [c] := by
  have range := toNat_of_isDigit digit
  have small : c.toNat - '0'.toNat < 10 := by
    change c.toNat - 48 < 10
    omega
  rw [← Nat.toDigits_append_toDigits (by decide) positive small, Nat.toDigits_of_lt_base small,
    digitChar_of_isDigit digit]

/-- Digits behind a positive number are the last digits of what they make of it. -/
theorem toDigits_ofDigitChars_of_pos {n : Nat} (positive : 0 < n) {ds : List Char}
    (digits : ∀ c ∈ ds, c.isDigit) :
    Nat.toDigits 10 (Nat.ofDigitChars 10 ds n) = Nat.toDigits 10 n ++ ds := by
  induction ds generalizing n with
  | nil => simp
  | cons c ds ih =>
    obtain ⟨digit, digits⟩ := List.forall_mem_cons.mp digits
    rw [Nat.ofDigitChars_cons, ih (by omega) digits, toDigits_push positive digit,
      List.append_assoc, List.singleton_append]

/-- Digits without a leading zero are the ones their value is written with. -/
theorem toDigits_ofDigitChars {ds : List Char} (nonempty : ds ≠ [])
    (digits : ∀ c ∈ ds, c.isDigit) (leading : ∀ d rest, ds ≠ '0' :: d :: rest) :
    Nat.toDigits 10 (Nat.ofDigitChars 10 ds 0) = ds := by
  obtain ⟨c, ds, rfl⟩ := List.exists_cons_of_ne_nil nonempty
  obtain ⟨digit, digits⟩ := List.forall_mem_cons.mp digits
  have range := toNat_of_isDigit digit
  have small : c.toNat - '0'.toNat < 10 := by
    change c.toNat - 48 < 10
    omega
  rw [Nat.ofDigitChars_cons, Nat.mul_zero, Nat.zero_add]
  by_cases zero : c = '0'
  · subst zero
    cases ds with
    | nil => rfl
    | cons d rest => exact absurd rfl (leading d rest)
  · have positive : 0 < c.toNat - '0'.toNat := by
      have apart : c.toNat ≠ '0'.toNat := fun h => zero (Char.toNat_inj.mp h)
      change c.toNat ≠ 48 at apart
      change 0 < c.toNat - 48
      omega
    rw [toDigits_ofDigitChars_of_pos positive digits, Nat.toDigits_of_lt_base small,
      digitChar_of_isDigit digit, List.singleton_append]

theorem head?_toDigits_ne_zero {n : Nat} (positive : 0 < n) :
    (Nat.toDigits 10 n).head? ≠ some '0' := by
  induction n using Nat.strongRecOn with
  | ind n ih =>
    by_cases small : n < 10
    · rw [Nat.toDigits_of_lt_base small, List.head?_cons, ne_eq, Option.some.injEq,
        Nat.digitChar_eq_zero]
      omega
    · have shorter := ih (n / 10) (by omega) (by omega)
      obtain ⟨c, cs, first⟩ := List.exists_cons_of_ne_nil (Nat.toDigits_ne_nil (n := n / 10))
      rw [first] at shorter
      rwa [Nat.toDigits_of_base_le (by decide) (by omega), first]

theorem toDigits_ne_leading_zero (n : Nat) (d : Char) (ds : List Char) :
    Nat.toDigits 10 n ≠ '0' :: d :: ds := by
  intro h
  by_cases zero : n = 0
  · subst zero
    cases h
  · exact head?_toDigits_ne_zero (Nat.pos_of_ne_zero zero) (by rw [h, List.head?_cons])

theorem toDigits_ne_sign {n : Nat} {ds : List Char} {sign : Char}
    (noDigit : ¬ sign.isDigit = true) : Nat.toDigits 10 n ≠ sign :: ds :=
  ne_sign_cons (fun _ h => Nat.isDigit_of_mem_toDigits (by decide) (by decide) h) noDigit

theorem canonical_digits (v : Int) : Canonical (digits v) := by
  unfold digits
  split
  · rename_i negative
    refine ⟨fun ds h => ?_, fun d ds => ⟨fun h => ?_, fun h => ?_⟩, fun h => ?_⟩
    · cases h
    · cases h
    · exact toDigits_ne_leading_zero _ d ds (List.cons.inj h).2
    · have zero : Nat.toDigits 10 v.natAbs = ['0'] := (List.cons.inj h).2
      have value := congrArg (Nat.ofDigitChars 10 · 0) zero
      simp only [Nat.ofDigitChars_ten_toDigits] at value
      change v.natAbs = 0 at value
      omega
  · refine ⟨fun ds h => ?_, fun d ds => ⟨fun h => ?_, fun h => ?_⟩, fun h => ?_⟩
    · exact toDigits_ne_sign (by decide) h
    · exact toDigits_ne_leading_zero _ d ds h
    · exact toDigits_ne_sign (by decide) h
    · exact toDigits_ne_sign (by decide) h

/-- There is one canonical numeral to a value. -/
theorem eq_digits_of_canonical {cs : List Char} {v : Int} (numeral : Numeral cs v)
    (canonical : Canonical cs) : cs = digits v := by
  obtain ⟨sign, nonempty, digitsOf⟩ := numeral
  rename_i ds
  cases sign with
  | bare =>
    have written := toDigits_ofDigitChars nonempty digitsOf fun d rest =>
      (canonical.noLeadingZero d rest).1
    change ds = digits (Nat.ofDigitChars 10 ds 0 : Nat)
    rw [digits, if_neg (by omega), Int.natAbs_natCast, written]
  | plus => exact absurd rfl (canonical.noPlus ds)
  | minus =>
    have written := toDigits_ofDigitChars nonempty digitsOf fun d rest h =>
      (canonical.noLeadingZero d rest).2 (h ▸ rfl)
    have nonzero : Nat.ofDigitChars 10 ds 0 ≠ 0 := by
      intro zero
      rw [zero] at written
      exact canonical.noNegativeZero (written ▸ rfl)
    change '-' :: ds = digits (-(Nat.ofDigitChars 10 ds 0 : Nat))
    rw [digits, if_pos (by omega), Int.natAbs_neg, Int.natAbs_natCast, written]

theorem eq_digits_iff_canonical {cs : List Char} {v : Int} (numeral : Numeral cs v) :
    cs = digits v ↔ Canonical cs :=
  ⟨fun h => h ▸ canonical_digits v, eq_digits_of_canonical numeral⟩

end Ancestry.Decimal
