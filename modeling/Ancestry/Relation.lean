import Ancestry.Decimal.Integer
import Ancestry.Text.Blank
import Ancestry.Text.Utf8

/-!
# Relations

One observed event: a process and its parent, and for a fork the new process too. The
text of a relation is its pids in base ten with colons between them; the number of
fields tells an exec from a fork.

Reading is more liberal than writing. ASCII blanks around the text are dropped and a
field may have a plus sign or leading zeros. Fields are read from the left, so a field
that is no pid is reported unless it stands after the third; only then are the fields
counted. No meaning is given to single pids here, minus one included.
-/
namespace Ancestry

/-- A process identifier, a signed number of thirty-two bits. -/
abbrev Pid := Int32

structure Relation where
  parent : Pid
  child : Pid
  infant : Option Pid
  deriving Repr, DecidableEq

/-- Why a text is no relation. -/
inductive RelationError
  | fieldCount (found : Nat)
  | invalidPid
  deriving Repr, DecidableEq

def RelationError.message : RelationError → String
  | fieldCount found => s!"expected 2 or 3 fields, found {found}"
  | invalidPid => "field is not a decimal pid"

namespace Relation

/-- A process about to become another program. -/
def exec (parent child : Pid) : Relation := ⟨parent, child, none⟩

/-- A process that made another one. -/
def fork (parent child infant : Pid) : Relation := ⟨parent, child, some infant⟩

/-- The digits of a pid. -/
def pidChars (p : Pid) : List Char := Decimal.digits p.toInt

def pidText (p : Pid) : String := String.ofList (pidChars p)

/-- The fields in order. -/
def pids (r : Relation) : List Pid := r.parent :: r.child :: r.infant.toList

/-- The text of a relation, character by character. -/
def toChars (r : Relation) : List Char :=
  [':'].intercalate (r.pids.map pidChars)

def text (r : Relation) : String := String.ofList r.toChars

/-- Reads the fields of a text already cut at its colons. -/
def ofFields (fields : List (List Char)) : Except RelationError Relation :=
  match (fields.take 3).mapM Decimal.readInt32 with
  | none => .error .invalidPid
  | some values =>
    match fields.length, values with
    | 2, [parent, child] => .ok (exec parent child)
    | 3, [parent, child, infant] => .ok (fork parent child infant)
    | n, _ => .error (.fieldCount n)

def ofChars (cs : List Char) : Except RelationError Relation :=
  ofFields (Text.pieces (· = ':') (Text.strip Text.isAsciiBlank cs))

def parse (s : String) : Except RelationError Relation := ofChars s.toList

/-- The relation with its fields by name, for the reader of a program. -/
def describe (r : Relation) : String :=
  let infant :=
    match r.infant with
    | some p => s!"Some({pidText p})"
    | none => "None"
  s!"Relation \x7b parent: {pidText r.parent}, child: {pidText r.child}, infant: {infant} \x7d"

end Relation
end Ancestry
