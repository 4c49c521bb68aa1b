import Ancestry.Decimal.Binary64

/-!
# The shortest decimal text of a number

A number is written with the fewest digits that are still nearer to it than to any other
number, and among those with the digits nearest to it. The point is written where it
falls, however many zeros that takes; there is no exponent.
-/
namespace Ancestry.Binary64

/-- A whole number times a power of ten. -/
structure Digits where
  value : Nat
  exponent : Int
  deriving Repr, DecidableEq

/-- A number four times enlarged, with the ends of the interval of what rounds to it, as
multiples of a common unit; the ends belong to it if the significand is even. -/
structure Interval where
  low : Nat
  value : Nat
  high : Nat
  closed : Bool
  /-- The unit is two to this power. -/
  unit : Int
  deriving Repr, DecidableEq

/-- Below a power of two the numbers lie twice as close. -/
def interval (significand : Nat) (exponent : Int) : Interval where
  low := 4 * significand
    - (if significand = Nat.pow 2 precision ∧ leastExponent < exponent then 1 else 2)
  value := 4 * significand
  high := 4 * significand + 2
  closed := significand % 2 = 0
  unit := exponent - 2

namespace Interval

/-- What the unit of an interval is multiplied by to count in powers of ten. -/
def scale (i : Interval) (exponent : Int) : Nat :=
  Nat.pow 2 i.unit.toNat * Nat.pow 10 (-exponent).toNat

/-- What a power of ten is multiplied by to be compared with the interval. -/
def step (i : Interval) (exponent : Int) : Nat :=
  Nat.pow 2 (-i.unit).toNat * Nat.pow 10 exponent.toNat

def contains (i : Interval) (d : Digits) : Bool :=
  let low := i.low * i.scale d.exponent
  let here := d.value * i.step d.exponent
  let high := i.high * i.scale d.exponent
  (low < here && here < high) || (i.closed && (low = here || here = high))

/-- The two multiples of a power of ten around the value: the one of them in the interval
that is nearer to the value, and the greater one if both are as near. -/
def nearest? (i : Interval) (exponent : Int) : Option Digits :=
  let value := i.value * i.scale exponent
  let step := i.step exponent
  let below : Digits := ⟨value / step, exponent⟩
  let above : Digits := ⟨value / step + 1, exponent⟩
  match i.contains below, i.contains above with
  | true, true => some (if 2 * (value % step) < step then below else above)
  | true, false => some below
  | false, true => some above
  | false, false => none

/-- The first power of ten, going down, with a multiple in the interval. -/
def search (i : Interval) : Nat → Int → Option Digits
  | 0, _ => none
  | tries + 1, exponent =>
    match i.nearest? exponent with
    | some d => some d
    | none => search i tries (exponent - 1)

end Interval

/-- No finite number reaches this power of ten. -/
def topPower : Int := 309

/-- More powers of ten than lie between the top and the smallest number. -/
def powers : Nat := 700

/-- The fewest digits for a number that is not zero. -/
def shortest (significand : Nat) (exponent : Int) : Digits :=
  let guess : Int := (Nat.log2 significand + exponent) * 30103 / 100000 + 2
  ((interval significand exponent).search powers (min guess topPower)).getD ⟨0, 0⟩

/-- Digits with a point before the last `places` of them. -/
def pointed (digits : List Char) (places : Nat) : List Char :=
  let padded := List.replicate (places + 1 - digits.length) '0' ++ digits
  let whole := padded.take (padded.length - places)
  let part := (padded.drop (padded.length - places)).reverse.dropWhile (· = '0') |>.reverse
  if part = [] then whole else whole ++ '.' :: part

/-- A decimal number written out. -/
def Digits.chars (d : Digits) : List Char :=
  let digits := Decimal.digits d.value
  if 0 ≤ d.exponent then digits ++ List.replicate d.exponent.toNat '0'
  else pointed digits (-d.exponent).toNat

def chars : Binary64 → List Char
  | nan => ['N', 'a', 'N']
  | infinite negative => (if negative then ['-'] else []) ++ ['i', 'n', 'f']
  | finite negative significand exponent =>
    (if negative then ['-'] else [])
      ++ (if significand = 0 then ['0'] else (shortest significand exponent).chars)

def text (x : Binary64) : String := String.ofList x.chars

/-- The text with a point in it, as long as the number is finite. -/
def textWithPoint (x : Binary64) : String :=
  if x.isFinite && !x.chars.contains '.' then x.text ++ ".0" else x.text

end Ancestry.Binary64
