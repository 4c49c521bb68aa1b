/-!
# Integers in text

Reading takes an optional sign and at least one digit, to a base, and refuses a value
outside given bounds. Leading zeros are allowed and so is a plus sign; nothing else
is, blanks and separators included. Writing is in base ten without a plus sign.
-/
namespace Ancestry.Decimal

/-- The value of a digit in some base up to thirty-six; letters count in both cases. -/
def digitValue (c : Char) : Option Nat :=
  if '0' ≤ c ∧ c ≤ '9' then some (c.toNat - 48)
  else if 'a' ≤ c ∧ c ≤ 'z' then some (c.toNat - 87)
  else if 'A' ≤ c ∧ c ≤ 'Z' then some (c.toNat - 55)
  else none

/-- One more digit at the end of a number. -/
def pushDigit (base : Nat) (value : Option Nat) (c : Char) : Option Nat :=
  match value, digitValue c with
  | some v, some d => if d < base then some (v * base + d) else none
  | _, _ => none

/-- The number with these digits; an empty text has none. -/
def readDigits (base : Nat) (cs : List Char) : Option Nat :=
  if cs = [] then none else cs.foldl (pushDigit base) (some 0)

/-- The integer written by a sign and digits, of whatever size. -/
def readSigned (base : Nat) : List Char → Option Int
  | '-' :: cs => (readDigits base cs).map fun n => -(n : Int)
  | '+' :: cs => (readDigits base cs).map fun n => (n : Int)
  | cs => (readDigits base cs).map fun n => (n : Int)

/-- The integer, if it lies between the bounds. -/
def readBetween (low high : Int) (base : Nat) (cs : List Char) : Option Int :=
  match readSigned base cs with
  | some v => if low ≤ v ∧ v ≤ high then some v else none
  | none => none

/-- A signed integer of sixty-four bits. -/
def readInt64 (base : Nat) (cs : List Char) : Option Int :=
  readBetween (-9223372036854775808) 9223372036854775807 base cs

/-- A signed integer of thirty-two bits. -/
def readInt32 (cs : List Char) : Option Int32 :=
  (readBetween (-2147483648) 2147483647 10 cs).map Int32.ofInt

/-- The digits of an integer, after a minus sign if it is negative. -/
def digits (v : Int) : List Char :=
  if v < 0 then '-' :: Nat.toDigits 10 v.natAbs else Nat.toDigits 10 v.natAbs

end Ancestry.Decimal
