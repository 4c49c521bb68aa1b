import Ancestry.Decimal.Integer

/-!
# Binary numbers of 64 bits

A finite number is a significand of at most 53 bits times a power of two that is not below
the least; the significand is as large as that allows, so each number has one form. A
fraction is rounded to the nearest number, and a tie goes to the even significand. What is
too large becomes infinite. All of it is exact arithmetic on whole numbers.

The text of a number may have a sign, digits with a point among them, and an exponent; the
words for infinity and for what is no number are read in either case.
-/
namespace Ancestry

inductive Binary64
  | nan
  | infinite (negative : Bool)
  /-- A significand times a power of two. -/
  | finite (negative : Bool) (significand : Nat) (exponent : Int)
  deriving Repr, DecidableEq

namespace Binary64

/-- The number of bits of a full significand, less one. -/
def precision : Nat := 52

def leastExponent : Int := -1074

def greatestExponent : Int := 971

def isZero : Binary64 → Bool
  | finite _ significand _ => significand = 0
  | _ => false

def isFinite : Binary64 → Bool
  | finite .. => true
  | _ => false

/-- A quotient rounded to the nearest whole number, ties to the even one. -/
def roundDiv (num den : Nat) : Nat :=
  let q := num / den
  let r := num % den
  if 2 * r < den then q else if den < 2 * r then q + 1 else q + q % 2

/-- The exponent of the greatest power of two that is at most `num / den`. -/
def floorLog2 (num den : Nat) : Int :=
  let e : Int := (Nat.log2 num : Int) - (Nat.log2 den : Int)
  if den * Nat.pow 2 e.toNat ≤ num * Nat.pow 2 (-e).toNat then e else e - 1

/-- A number from a significand that may be one bit too long. -/
def ofSignificand (negative : Bool) (significand : Nat) (exponent : Int) : Binary64 :=
  let (significand, exponent) :=
    if significand = Nat.pow 2 (precision + 1) then (Nat.pow 2 precision, exponent + 1)
    else (significand, exponent)
  if greatestExponent < exponent then infinite negative
  else finite negative significand exponent

/-- The number nearest to a fraction. -/
def ofFraction (negative : Bool) (num den : Nat) : Binary64 :=
  if num = 0 then finite negative 0 leastExponent
  else
    let exponent := max (floorLog2 num den - precision) leastExponent
    ofSignificand negative
      (roundDiv (num * Nat.pow 2 (-exponent).toNat) (den * Nat.pow 2 exponent.toNat)) exponent

/-- No decimal number with more digits before its point is finite. -/
def mostDigits : Int := 310

/-- A decimal number with more zeros behind its point is nearest to zero. -/
def mostZeros : Int := 330

/-- The number nearest to `digits` times a power of ten. Far outside the range of the
format the power is not computed. -/
def ofDecimal (negative : Bool) (digits : List Char) (exponent : Int) : Binary64 :=
  let digits := digits.dropWhile (· = '0')
  let size := digits.length + exponent
  match Decimal.readDigits 10 digits with
  | none => finite negative 0 leastExponent
  | some value =>
    if mostDigits < size then infinite negative
    else if size < -mostZeros then finite negative 0 leastExponent
    else ofFraction negative (value * Nat.pow 10 exponent.toNat) (Nat.pow 10 (-exponent).toNat)

/-- A sign in front, if there is one: whether it is a minus, and the rest. -/
def takeSign : List Char → Bool × List Char
  | '-' :: rest => (true, rest)
  | '+' :: rest => (false, rest)
  | rest => (false, rest)

/-- The exponent behind the digits of a number, which may be missing. -/
def readExponent : List Char → Option Int
  | [] => some 0
  | mark :: rest =>
    if mark = 'e' || mark = 'E' then
      let (negative, digits) := takeSign rest
      (Decimal.readDigits 10 digits).map fun n => if negative then -(n : Int) else n
    else none

/-- A number without its sign. -/
def readUnsigned (negative : Bool) (cs : List Char) : Option Binary64 :=
  let word := String.ofList (cs.map Char.toLower)
  if word = "inf" || word = "infinity" then some (infinite negative)
  else if word = "nan" then some nan
  else
    let whole := cs.takeWhile Char.isDigit
    let rest := cs.dropWhile Char.isDigit
    let (part, rest) :=
      match rest with
      | '.' :: rest => (rest.takeWhile Char.isDigit, rest.dropWhile Char.isDigit)
      | rest => ([], rest)
    if whole = [] && part = [] then none
    else
      (readExponent rest).map fun exponent =>
        ofDecimal negative (whole ++ part) (exponent - part.length)

/-- The number that a text stands for. -/
def read (cs : List Char) : Option Binary64 :=
  let (negative, rest) := takeSign cs
  readUnsigned negative rest

end Binary64
end Ancestry
