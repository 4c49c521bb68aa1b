/-!
# Where a reader stands in a text

A cursor knows what is left of a text, its line and column, and whether nothing but blanks
stands before it on its line. Reading past the end gives the null character, which ends a
text wherever it stands.
-/
namespace Ancestry.Yaml

def isEnd (c : Char) : Bool := c = '\x00'

def isBreak (c : Char) : Bool := c = '\n' || c = '\r'

def isBlank (c : Char) : Bool := c = ' ' || c = '\t'

def isBreakOrEnd (c : Char) : Bool := isBreak c || isEnd c

def isBlankOrEnd (c : Char) : Bool := isBlank c || isBreakOrEnd c

/-- The characters that structure a collection in brackets. -/
def isFlow (c : Char) : Bool := c = ',' || c = '[' || c = ']' || c = '{' || c = '\x7d'

/-- Letters, digits, underscores and hyphens. -/
def isWord (c : Char) : Bool := c.isAlphanum || c = '_' || c = '-'

structure Cursor where
  rest : List Char
  index : Nat
  line : Nat
  column : Nat
  /-- Nothing but blanks stands before the cursor on its line. -/
  atMargin : Bool
  deriving Repr

namespace Cursor

def start (text : List Char) : Cursor := ⟨text, 0, 0, 0, true⟩

/-- The character some places ahead. -/
def ahead (c : Cursor) (places : Nat) : Char := c.rest.getD places '\x00'

def here (c : Cursor) : Char := c.ahead 0

/-- Past some characters of one line. -/
def skip (c : Cursor) (count : Nat) : Cursor :=
  { c with
    rest := c.rest.drop count
    index := c.index + count
    column := c.column + count }

/-- Past some characters of which one is no blank. -/
def take (c : Cursor) (count : Nat) : Cursor := { c.skip count with atMargin := false }

/-- Past the end of a line, which may be two characters. -/
def nextLine (c : Cursor) : Cursor :=
  let count :=
    if c.here = '\r' && c.ahead 1 = '\n' then 2 else if isBreak c.here then 1 else 0
  if count = 0 then c
  else
    { rest := c.rest.drop count, index := c.index + count, line := c.line + 1, column := 0,
      atMargin := true }

/-- How many characters from here on satisfy a test. -/
def run (c : Cursor) (p : Char → Bool) : Nat := (c.rest.takeWhile p).length

/-- The characters from here on that satisfy a test. -/
def word (c : Cursor) (p : Char → Bool) : List Char := c.rest.takeWhile p

/-- Past a comment, up to the end of its line. -/
def skipComment (c : Cursor) : Cursor := c.take (c.run fun d => !isBreakOrEnd d)

/-- A marker of three characters in the first column, with a blank or nothing behind. -/
def atMarker (c : Cursor) (mark : Char) : Bool :=
  c.column = 0 && c.here = mark && c.ahead 1 = mark && c.ahead 2 = mark
    && isBlankOrEnd (c.ahead 3)

/-- A marker that begins or ends a document. -/
def atDocumentMarker (c : Cursor) : Bool := c.atMarker '-' || c.atMarker '.'

end Cursor
end Ancestry.Yaml
