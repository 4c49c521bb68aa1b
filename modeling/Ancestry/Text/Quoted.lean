import Ancestry.Text.Property.GraphemeExtend
import Ancestry.Text.Property.Unprintable

/-!
# Quoted text

Messages show foreign text in double quotes. A quote and a backslash get a backslash,
the common controls their letter, and whatever would not be seen, or would join the
character before it, is written by its number. Everything else stands as it is, so a
reader can tell where the text begins and ends and what is in it.
-/
namespace Ancestry.Text

/-- Lower case hexadecimal digits, without leading zeros. -/
def hexDigits (n : Nat) : List Char := Nat.toDigits 16 n

/-- A character by its number. -/
def numbered (c : Char) : List Char :=
  ['\\', 'u', '\x7b'] ++ hexDigits c.toNat ++ ['\x7d']

def escaped (c : Char) : List Char :=
  if c = '"' then ['\\', '"']
  else if c = '\\' then ['\\', '\\']
  else if c = '\n' then ['\\', 'n']
  else if c = '\r' then ['\\', 'r']
  else if c = '\t' then ['\\', 't']
  else if c.toNat = 0 then ['\\', '0']
  else if 0x20 ≤ c.toNat && c.toNat < 0x7F then [c]
  else if isGraphemeExtend c || isUnprintable c then numbered c
  else [c]

/-- A text in double quotes. -/
def quoted (cs : List Char) : String :=
  String.ofList ('"' :: cs.flatMap escaped ++ ['"'])

end Ancestry.Text
