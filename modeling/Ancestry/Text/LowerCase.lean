import Ancestry.Text.Property.Cased
import Ancestry.Text.Property.CaseIgnorable
import Ancestry.Text.Property.LowerCaseMap

/-!
# Lower case of a text

Characters are lowered one by one with two exceptions. The dotted capital I becomes
an i with a dot above, and a capital sigma at the end of a word becomes a final one.
-/
namespace Ancestry.Text

def lowerChar (c : Char) : List Char :=
  if c = '\u0130' then ['i', '\u0307']
  else
    match lowerCaseRuns.find? (·.covers c.toNat) with
    | some run => [Char.ofNat (c.toNat + run.distance).toNat]
    | none => [c]

/-- Whether the first character that casing does not look through has a case. -/
def startsCased (cs : List Char) : Bool :=
  match cs.dropWhile isCaseIgnorable with
  | c :: _ => isCased c
  | [] => false

/-- Lowers a text with the text before it, nearest character first, in view. -/
def lowerAfter (before : List Char) : List Char → List Char
  | [] => []
  | c :: rest =>
    let lowered :=
      if c = '\u03A3' then
        [if startsCased before && !startsCased rest then '\u03C2' else '\u03C3']
      else lowerChar c
    lowered ++ lowerAfter (c :: before) rest

def lowerCase (s : String) : String := String.ofList (lowerAfter [] s.toList)

end Ancestry.Text
