import Ancestry.Decimal.Integer
import Ancestry.Yaml.Cursor

/-!
# Scalars of YAML

A scalar is written plain, in quotes, or as a block of lines. Inside plain and quoted
scalars the gap between two lines is a space, and each further line break a line break.
A block keeps its line breaks, or joins its lines by the same rule, and says how many line
breaks its end keeps. Each reader here takes a cursor at the beginning of a scalar and
gives its text and the cursor behind it, or nothing where the scalar is malformed.
-/
namespace Ancestry.Yaml

/-- What stands between two pieces of a scalar. -/
structure Gap where
  /-- The blanks before the first line break. -/
  blanks : List Char
  breaks : Nat
  /-- The first line break was escaped and does not count. -/
  escaped : Bool

namespace Gap

def none : Gap := ⟨[], 0, false⟩

def newlines (count : Nat) : List Char := List.replicate count '\n'

/-- The text of a gap. -/
def text (g : Gap) : List Char :=
  if g.escaped then newlines g.breaks
  else
    match g.breaks with
    | 0 => g.blanks
    | 1 => [' ']
    | more + 1 => newlines more

end Gap

/-- Past blanks and a comment behind them, with the blanks. A comment may not stand
directly behind something else. -/
def Cursor.skipSpace (c : Cursor) (tabs : Bool) : Option (Cursor × List Char) :=
  let gap := c.word fun d => d = ' ' || (tabs && d = '\t')
  let c := c.skip gap.length
  if c.here = '#' then if gap = [] then none else some (c.skipComment, gap)
  else some (c, gap)

/-- Past the gap at the cursor, in a scalar whose lines have to be indented by some
columns. A tab may not stand in for the indentation, except on a line that is empty; the end
of such a line does not count if it has a comment. -/
def Cursor.skipGap (indent : Int) (skipsEmpty : Bool) :
    Nat → Cursor → Gap → Option (Cursor × Gap)
  | 0, c, g => some (c, g)
  | fuel + 1, c, g =>
    if isBlank c.here then
      if g.breaks = 0 && !g.escaped then
        skipGap indent skipsEmpty fuel (c.skip 1) { g with blanks := g.blanks ++ [c.here] }
      else if c.here = '\t' && (c.column : Int) < indent then
        if skipsEmpty then
          match c.skipSpace true with
          | some (c, _) =>
            if isBreakOrEnd c.here then skipGap indent skipsEmpty fuel c g else Option.none
          | Option.none => Option.none
        else Option.none
      else skipGap indent skipsEmpty fuel (c.skip 1) g
    else if isBreak c.here then
      let counts := g.breaks = 0 || c.atMargin
      skipGap indent skipsEmpty fuel c.nextLine
        { g with breaks := if counts then g.breaks + 1 else g.breaks }
    else some (c, g)

/-! ## Plain scalars -/

/-- Whether a character, with the next one behind it, can be part of a plain scalar. -/
def isPlain (inFlow : Bool) (d next : Char) : Bool :=
  if isBlankOrEnd d then false
  else if d = ':' && isBlankOrEnd next then false
  else if d = ':' && inFlow && isFlow next then false
  else !(inFlow && isFlow d)

/-- How many characters in front can be part of a plain scalar. -/
def plainRun (inFlow : Bool) : List Char → Nat
  | [] => 0
  | d :: rest => if isPlain inFlow d (rest.headD '\x00') then plainRun inFlow rest + 1 else 0

/-- Reads on in a plain scalar, behind a gap. -/
def plainFrom (inFlow : Bool) (indent : Int) :
    Nat → Cursor → List Char → Gap → Option (List Char × Cursor)
  | 0, c, text, _ => some (text, c)
  | fuel + 1, c, text, gap =>
    if c.atDocumentMarker || c.here = '#' then some (text, c)
    else if inFlow && c.here = '-' && isFlow (c.ahead 1) then none
    else
      let count := plainRun inFlow c.rest
      let text := if count = 0 then text else text ++ gap.text ++ c.rest.take count
      let c := if count = 0 then c else c.take count
      if !(isBlank c.here || isBreak c.here) then some (text, c)
      else
        match c.skipGap indent true (c.rest.length + 1) Gap.none with
        | none => none
        | some (c, gap) =>
          if !inFlow && (c.column : Int) < indent then some (text, c)
          else plainFrom inFlow indent fuel c text gap

/-- Reads a plain scalar, whose lines are indented by at least some columns. -/
def plainScalar (inFlow : Bool) (indent : Int) (c : Cursor) : Option (List Char × Cursor) :=
  if inFlow && (c.column : Int) < indent then none
  else
    match plainFrom inFlow indent (c.rest.length + 1) c [] Gap.none with
    | some ([], _) => none
    | result => result

/-! ## Quoted scalars -/

/-- The value of some hexadecimal digits in front. -/
def hexValue (count : Nat) (cs : List Char) : Option Nat :=
  let digits := cs.take count
  if digits.length = count && digits.all fun d => (Decimal.digitValue d).any (· < 16) then
    Decimal.readDigits 16 digits
  else none

/-- The character with a number, if there is one. -/
def charOf (n : Nat) : Option Char := if n.isValidChar then some (Char.ofNat n) else none

/-- The character that an escape stands for, and the length of the escape behind the
backslash. -/
def unescape : List Char → Option (Char × Nat)
  | [] => none
  | d :: rest =>
    let coded (count : Nat) : Option (Char × Nat) :=
      ((hexValue count rest).bind charOf).map fun e => (e, count + 1)
    match d with
    | '0' => some ('\x00', 1)
    | 'a' => some ('\x07', 1)
    | 'b' => some ('\x08', 1)
    | 't' | '\t' => some ('\t', 1)
    | 'n' => some ('\n', 1)
    | 'v' => some ('\x0b', 1)
    | 'f' => some ('\x0c', 1)
    | 'r' => some ('\r', 1)
    | 'e' => some ('\x1b', 1)
    | ' ' => some (' ', 1)
    | '"' => some ('"', 1)
    | '/' => some ('/', 1)
    | '\\' => some ('\\', 1)
    | 'N' => some ('\u0085', 1)
    | '_' => some ('\u00a0', 1)
    | 'L' => some ('\u2028', 1)
    | 'P' => some ('\u2029', 1)
    | 'x' => coded 2
    | 'u' => coded 4
    | 'U' => coded 8
    | _ => none

/-- The characters that only stand for themselves between quotes. -/
def isOrdinary (quote d : Char) : Bool := !isBlankOrEnd d && d ≠ quote && d ≠ '\\'

/-- Reads a piece without blanks; the last part says that it ends in an escaped line
break. -/
def quotedRun (quote : Char) :
    Nat → Cursor → List Char → Option (List Char × Cursor × Bool)
  | 0, c, text => some (text, c, false)
  | fuel + 1, c, text =>
    if isBlankOrEnd c.here then some (text, c, false)
    else if c.here = quote then
      if quote = '\'' && c.ahead 1 = '\'' then quotedRun quote fuel (c.take 2) (text ++ [quote])
      else some (text, c, false)
    else if quote = '"' && c.here = '\\' then
      if isBreak (c.ahead 1) then some (text, (c.take 1).nextLine, true)
      else
        match unescape (c.rest.drop 1) with
        | some (d, count) => quotedRun quote fuel (c.take (count + 1)) (text ++ [d])
        | none => none
    else
      let word := c.here :: (c.skip 1).word (isOrdinary quote)
      quotedRun quote fuel (c.take word.length) (text ++ word)

/-- Reads on in a quoted scalar up to its closing quote. -/
def quotedFrom (quote : Char) (indent : Int) :
    Nat → Cursor → List Char → Option (List Char × Cursor)
  | 0, _, _ => none
  | fuel + 1, c, text =>
    if c.atDocumentMarker || isEnd c.here || (c.column : Int) < indent then none
    else
      match quotedRun quote (c.rest.length + 1) c text with
      | none => none
      | some (text, c, escaped) =>
        if c.here = quote then some (text, c.take 1)
        else
          match c.skipGap indent false (c.rest.length + 1) ⟨[], 0, escaped⟩ with
          | none => none
          | some (c, gap) => quotedFrom quote indent fuel c (text ++ gap.text)

/-- Whether a quoted scalar that began on a line may be followed by what is there. -/
def mayFollowQuoted (inFlow : Bool) (line : Nat) (c : Cursor) : Bool :=
  isBreakOrEnd c.here
    || (inFlow && (c.here = ',' || c.here = '\x7d' || c.here = ']' || c.here = ':'))
    || (!inFlow && c.here = ':' && c.line = line)

/-- Reads a scalar in quotes. -/
def quotedScalar (inFlow : Bool) (indent : Int) (c : Cursor) : Option (List Char × Cursor) := do
  let (text, after) ← quotedFrom c.here indent (c.rest.length + 1) (c.take 1) []
  let (after, _) ← after.skipSpace true
  if mayFollowQuoted inFlow c.line after then return (text, after) else failure

/-! ## Blocks -/

/-- Which line breaks at the end of a block are kept: none, one, or all. -/
inductive Chomping
  | strip
  | clip
  | keep
  deriving Repr, DecidableEq

/-- A chomping mark in front, if there is one. -/
def Chomping.read (c : Cursor) : Option (Chomping × Cursor) :=
  if c.here = '+' then some (keep, c.take 1)
  else if c.here = '-' then some (strip, c.take 1)
  else none

/-- An indentation mark in front: zero if there is none, and refused if it says zero. -/
def readIncrement (c : Cursor) : Option (Nat × Cursor) :=
  if c.here = '0' then none
  else if c.here.isDigit then some (c.here.toNat - '0'.toNat, c.take 1)
  else some (0, c)

/-- The marks behind the character that begins a block, in either order. -/
def readHeader (c : Cursor) : Option (Chomping × Nat × Cursor) :=
  match Chomping.read c with
  | some (chomping, c) => (readIncrement c).map fun (increment, c) => (chomping, increment, c)
  | none =>
    (readIncrement c).map fun (increment, c) =>
      match if increment = 0 then none else Chomping.read c with
      | some (chomping, c) => (chomping, increment, c)
      | none => (.clip, increment, c)

/-- Past empty lines, and past spaces up to a column or up to something else. Says how
many lines there were and the widest indentation. -/
def skipEmptyLines (upTo : Option Nat) : Nat → Cursor → Nat → Nat → Cursor × Nat × Nat
  | 0, c, breaks, widest => (c, breaks, widest)
  | fuel + 1, c, breaks, widest =>
    let spaces := c.run (· = ' ')
    let c :=
      match upTo with
      | some column => c.skip (min spaces (column - c.column))
      | none => c.skip spaces
    let widest := max widest c.column
    if isBreak c.here then skipEmptyLines upTo fuel c.nextLine (breaks + 1) widest
    else (c, breaks, widest)

/-- A block being read. -/
structure BlockReading where
  text : List Char
  /-- The last line read ended in a line break that is not in the text yet. -/
  pendingBreak : Bool
  /-- The empty lines behind it. -/
  emptyLines : Nat
  /-- The last line began with a blank, so it is not joined with the next. -/
  wasBlank : Bool

/-- Reads the lines of a block. The mark that begins a document is a line like any other. -/
def blockLines (isLiteral : Bool) (indent : Nat) :
    Nat → Cursor → BlockReading → Cursor × BlockReading
  | 0, c, r => (c, r)
  | fuel + 1, c, r =>
    if c.column ≠ indent || isEnd c.here || c.atMarker '.' then (c, r)
    else
      let blank := isBlank c.here
      let joint :=
        if !isLiteral && r.pendingBreak && !r.wasBlank && !blank then
          if r.emptyLines = 0 then [' '] else Gap.newlines r.emptyLines
        else (if r.pendingBreak then ['\n'] else []) ++ Gap.newlines r.emptyLines
      let line := c.word fun d => !isBreakOrEnd d
      let text := r.text ++ joint ++ line
      let c := c.take line.length
      if isEnd c.here then (c, ⟨text, false, 0, blank⟩)
      else
        let (c, emptyLines, _) := skipEmptyLines (some indent) (c.rest.length + 1) c.nextLine 0 0
        blockLines isLiteral indent fuel c ⟨text, true, emptyLines, blank⟩

/-- The text of a block whose lines have been read. -/
def chomp (chomping : Chomping) (indent : Nat) (c : Cursor) (r : BlockReading) : List Char :=
  let ending :=
    if chomping = .strip then []
    else
      (if r.pendingBreak then ['\n'] else [])
        ++ (if isEnd c.here && max indent 1 ≤ c.column then ['\n'] else [])
  r.text ++ ending ++ (if chomping = .keep then Gap.newlines r.emptyLines else [])

/-- The text of a block without content. -/
def emptyBlock (chomping : Chomping) (sameLine hasBreak : Bool) (emptyLines : Nat) : List Char :=
  if chomping = .strip || sameLine then []
  else if chomping = .keep && emptyLines ≠ 0 then Gap.newlines emptyLines
  else if hasBreak then ['\n'] else []

/-- Reads a block inside an indentation. -/
def blockScalar (isLiteral : Bool) (outer : Int) (c : Cursor) : Option (List Char × Cursor) := do
  let line := c.line
  let (chomping, increment, c) ← readHeader (c.take 1)
  let (c, _) ← c.skipSpace true
  if !isBreakOrEnd c.here then failure
  let hasBreak := isBreak c.here
  let c := c.nextLine
  if c.here = '\t' then failure
  let fixed := (max outer 0).toNat + increment
  let (c, emptyLines, widest) :=
    skipEmptyLines (if increment = 0 then none else some fixed) (c.rest.length + 1) c 0 0
  let indent :=
    if increment ≠ 0 then fixed
    else max (max widest (outer + 1).toNat) (if 0 < outer then 1 else 0)
  if isEnd c.here then
    return (emptyBlock chomping (c.line = line) hasBreak emptyLines, c)
  if c.column < indent && outer < (c.column : Int) then failure
  let (c, r) := blockLines isLiteral indent (c.rest.length + 1) c ⟨[], false, emptyLines, false⟩
  return (chomp chomping indent c r, c)

end Ancestry.Yaml
