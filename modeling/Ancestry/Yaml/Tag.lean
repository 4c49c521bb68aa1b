import Ancestry.Yaml.Scalar

/-!
# Properties and directives

A node may have an anchor, by which it is named, and a tag, which says what it is. A tag
begins with a handle that directives at the head of a document may give a meaning to. Each
reader here takes a cursor at the first character and gives what it read and the cursor
behind it.
-/
namespace Ancestry.Yaml

/-- The characters of a name: all but blanks, brackets, commas and a byte order mark. -/
def isAnchorChar (d : Char) : Bool := !isBlankOrEnd d && !isFlow d && d ≠ '\ufeff'

/-- Reads the name behind the character that marks an anchor or an alias. -/
def readAnchor (c : Cursor) : Option (List Char × Cursor) :=
  let c := c.take 1
  let name := c.word isAnchorChar
  if name = [] then none else some (name, c.take name.length)

def isUriChar (d : Char) : Bool :=
  (isWord d && d ≠ '_') || "#;/?:@&=+$,_.!~*'()[]%".toList.contains d

def isTagChar (d : Char) : Bool := isUriChar d && !isFlow d && d ≠ '!'

/-- Reads a handle: an exclamation mark, letters, and perhaps another mark. -/
def readHandle (c : Cursor) : Option (List Char × Cursor) :=
  if c.here ≠ '!' then none
  else
    let name := '!' :: (c.skip 1).word isWord
    let c := c.take name.length
    if c.here = '!' then some (name ++ ['!'], c.take 1) else some (name, c)

/-- Whether a handle is more than one exclamation mark and ends in one. -/
def isNamedHandle (handle : List Char) : Bool :=
  2 ≤ handle.length && handle.getLast? = some '!'

/-- How many bytes are escaped together if the first is a given one. -/
def escapedWidth (first : Nat) : Option Nat :=
  if first < 0x80 then some 1
  else if 0xC0 ≤ first && first < 0xE0 then some 2
  else if 0xE0 ≤ first && first < 0xF0 then some 3
  else if 0xF0 ≤ first && first < 0xF8 then some 4
  else none

/-- Reads the bytes that follow the first one of an escaped character. -/
def readTrailing : Nat → Nat → List Char → Option Nat
  | 0, value, _ => some value
  | count + 1, value, '%' :: cs =>
    match hexValue 2 cs with
    | some n => if n / 64 = 2 then readTrailing count (value * 256 + n) (cs.drop 2) else none
    | none => none
  | _ + 1, _, _ => none

/-- Reads a character written as escaped bytes, which are the digits of its number to the
base 256; says how many characters that took. -/
def readEscaped (cs : List Char) : Option (Char × Nat) := do
  let first ← hexValue 2 (cs.drop 1)
  let width ← escapedWidth first
  let number ← readTrailing (width - 1) first (cs.drop 3)
  let d ← charOf number
  return (d, 3 * width)

/-- Reads characters of an address, some of them escaped. -/
def readUri (p : Char → Bool) : Nat → Cursor → List Char → Option (List Char × Cursor)
  | 0, c, text => some (text, c)
  | fuel + 1, c, text =>
    if c.here = '%' && p '%' then
      match readEscaped c.rest with
      | some (d, count) => readUri p fuel (c.take count) (text ++ [d])
      | none => none
    else if p c.here then readUri p fuel (c.take 1) (text ++ [c.here])
    else some (text, c)

/-- Reads a tag that is written out in angle brackets. -/
def readVerbatim (c : Cursor) : Option (List Char × Cursor) := do
  let (text, c) ← readUri isUriChar (c.rest.length + 1) (c.take 2) []
  if c.here = '>' then return (text, c.take 1) else failure

/-- Reads the handle and the suffix of a tag. Behind a named handle there has to be a
suffix. -/
def readTagParts (c : Cursor) : Option (List Char × List Char × Cursor) := do
  if c.ahead 1 = '<' then
    let (suffix, c) ← readVerbatim c
    return ([], suffix, c)
  else
    let (handle, c) ← readHandle c
    let named := isNamedHandle handle
    let begun := if named then [] else handle.drop 1
    let (suffix, c) ← readUri isTagChar (c.rest.length + 1) c begun
    if named then
      if suffix = [] then failure
      return (handle, suffix, c)
    else if suffix = [] then return ([], ['!'], c)
    else return (['!'], suffix, c)

/-- Reads a tag, behind which something has to separate it from what follows. -/
def readTag (inFlow : Bool) (c : Cursor) : Option (List Char × List Char × Cursor) := do
  let (handle, suffix, c) ← readTagParts c
  if isBlankOrEnd c.here || (inFlow && isFlow c.here) then return (handle, suffix, c) else failure

/-! ## Directives -/

/-- The kinds of a line that begins with a percent sign. -/
inductive Directive
  | version
  | tag (handle replacement : List Char)

def skipBlanks (c : Cursor) : Cursor := c.skip (c.run isBlank)

/-- The most digits of a version number. -/
def versionDigits : Nat := 9

/-- Past a version number. -/
def skipVersionNumber (c : Cursor) : Option Cursor :=
  let count := c.run Char.isDigit
  if count = 0 || versionDigits < count then none else some (c.take count)

def readVersion (c : Cursor) : Option (Directive × Cursor) := do
  let c ← skipVersionNumber (skipBlanks c)
  if c.here ≠ '.' then failure
  return (.version, ← skipVersionNumber (c.take 1))

/-- Reads what a handle is replaced by. -/
def readReplacement (c : Cursor) : Option (List Char × Cursor) :=
  if c.here = '!' then readUri isUriChar (c.rest.length + 1) (c.take 1) ['!']
  else if isTagChar c.here then readUri isUriChar (c.rest.length + 1) c []
  else none

def readTagDirective (c : Cursor) : Option (Directive × Cursor) := do
  let (handle, c) ← readHandle (skipBlanks c)
  if !isNamedHandle handle && handle ≠ ['!'] then failure
  let (replacement, c) ← readReplacement (skipBlanks c)
  if isBlankOrEnd c.here then return (.tag handle replacement, c) else failure

/-- Reads a directive to the end of its line. One of an unknown name means nothing. -/
def readDirective (c : Cursor) : Option (Directive × Cursor) := do
  let c := c.take 1
  let name := c.word isWord
  let c := c.take name.length
  if name = [] || !isBlankOrEnd c.here then failure
  let (directive, c) ←
    if name = "YAML".toList then readVersion c
    else if name = "TAG".toList then readTagDirective c
    else some (.tag [] [], c.skipComment)
  let (c, _) ← c.skipSpace true
  if isBreakOrEnd c.here then return (directive, c.nextLine) else failure

end Ancestry.Yaml
