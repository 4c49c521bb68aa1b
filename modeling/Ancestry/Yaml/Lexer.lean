import Ancestry.Yaml.Tag
import Ancestry.Yaml.Token

/-!
# From text to tokens

The lexer goes through a text once. Indentation is a stack: a deeper line opens a block and
a line further out closes blocks. A key of a table has no mark in front, so every place
where a key may begin is remembered, and when a colon follows, the tokens for the key are
put in at that place. In brackets indentation does not count.

A field in a sequence in brackets is a mapping of its own that has no braces, so the tokens
of braces are put around it. That is done as long as no mapping in brackets has been written
out; from then on a field in a sequence shows by its key alone.
-/
namespace Ancestry.Yaml

/-- An indentation that has been gone beyond. -/
structure Indent where
  column : Int
  /-- Going back to it closes a block. -/
  isBlock : Bool

/-- A place where a key may have begun. -/
structure KeyPlace where
  /-- The number of tokens before it. -/
  position : Nat
  index : Nat
  line : Nat
  column : Nat
  /-- Nothing else can stand there. -/
  isRequired : Bool

structure Lexer where
  cursor : Cursor
  /-- The tokens so far, newest first. -/
  tokens : List Token
  keyAllowed : Bool
  /-- The place of a key at this level, and those at the levels around it. -/
  keyPlace : Option KeyPlace
  outerPlaces : List (Option KeyPlace)
  indent : Int
  indents : List Indent
  /-- How many brackets are open. -/
  depth : Nat
  /-- A mapping has been written out in brackets. -/
  mappingSeen : Bool
  /-- The last colon opened a mapping without braces, which has not ended. -/
  inBareField : Bool
  /-- Where a colon may stand close to what follows it. -/
  closeColonAt : Option Nat
  /-- The last token is an anchor or a tag in the first column. -/
  propertyAtMargin : Bool

namespace Lexer

def start (text : List Char) : Lexer where
  cursor := Cursor.start text
  tokens := []
  keyAllowed := true
  keyPlace := none
  outerPlaces := []
  indent := -1
  indents := []
  depth := 0
  mappingSeen := false
  inBareField := false
  closeColonAt := none
  propertyAtMargin := false

def inFlow (l : Lexer) : Bool := 0 < l.depth

def emit (l : Lexer) (t : Token) : Lexer :=
  { l with tokens := t :: l.tokens, propertyAtMargin := false }

/-- Puts a token before the one that has a position. -/
def insert (l : Lexer) (position : Nat) (t : Token) : Lexer :=
  let behind := l.tokens.length - position
  { l with tokens := l.tokens.take behind ++ t :: l.tokens.drop behind }

def moveTo (l : Lexer) (c : Cursor) : Lexer := { l with cursor := c }

def allowKey (l : Lexer) (allowed : Bool) : Lexer := { l with keyAllowed := allowed }

/-! ## Indentation -/

/-- Closes the blocks that are indented more than a column. -/
def closeBlocks (l : Lexer) (column : Int) : List Indent → Lexer
  | [] => { l with indents := [] }
  | i :: rest =>
    if l.indent ≤ column then { l with indents := i :: rest }
    else
      let l := if i.isBlock then l.emit .blockEnd else l
      closeBlocks { l with indent := i.column } column rest

/-- Goes back to a column; in brackets indentation does not count. -/
def unindent (l : Lexer) (column : Int) : Lexer :=
  if l.inFlow then l else l.closeBlocks column l.indents

/-- Goes back to the last indentation that a block began with. -/
def dropOffsets (l : Lexer) : List Indent → Lexer
  | [] => { l with indents := [] }
  | i :: rest =>
    if i.isBlock then { l with indents := i :: rest }
    else dropOffsets { l with indent := i.column } rest

/-- Inside an entry of a block everything is indented by one column more. -/
def offset (l : Lexer) : Lexer :=
  match l.indents with
  | i :: _ =>
    if !l.inFlow && i.isBlock then
      { l with indents := ⟨l.indent, false⟩ :: l.indents, indent := l.indent + 1 }
    else l
  | [] => l

/-- Drops an offset that turns out to be a block. -/
def dropOffset (l : Lexer) (column : Nat) : Lexer :=
  match l.indents with
  | i :: rest =>
    if l.indent ≤ column && !i.isBlock then { l with indent := i.column, indents := rest } else l
  | [] => l

/-- Opens a block at a column if that is further in. Its token goes to a position, or to
the end. -/
def openBlock (l : Lexer) (column : Nat) (position : Option Nat) (t : Token) : Lexer :=
  if l.inFlow then l
  else
    let l := l.dropOffset column
    if l.indent < column then
      let l := { l with indents := ⟨l.indent, true⟩ :: l.indents, indent := column }
      match position with
      | some p => l.insert p t
      | none => l.emit t
    else l

/-! ## Places of keys -/

/-- Remembers that a key may begin here. -/
def markKey (l : Lexer) : Lexer :=
  if l.keyAllowed then
    let c := l.cursor
    let isRequired :=
      !l.inFlow && l.indent = c.column && (l.indents.head?.map (·.isBlock)).getD false
    { l with keyPlace := some ⟨l.tokens.length, c.index, c.line, c.column, isRequired⟩ }
  else l

/-- Gives up the place of a key; that fails if a key is required there. -/
def dropKey (l : Lexer) : Option Lexer :=
  match l.keyPlace with
  | some p => if p.isRequired then none else some { l with keyPlace := none }
  | none => some l

/-- The longest a key may be. -/
def longestKey : Nat := 1024

/-- Gives up a key that has become too long or has gone over its line. -/
def dropStaleKey (l : Lexer) : Option Lexer :=
  match l.keyPlace with
  | some p =>
    if !l.inFlow && (p.line < l.cursor.line || p.index + longestKey < l.cursor.index) then
      l.dropKey
    else some l
  | none => some l

/-! ## Between tokens -/

/-- Past blanks, comments and line breaks. Tabs may not indent what is in a block. -/
def skipToToken (l : Lexer) : Nat → Option Lexer
  | 0 => some l
  | fuel + 1 =>
    let c := l.cursor
    if c.here = '\t' && !l.indents.isEmpty && c.atMargin && (c.column : Int) < l.indent then
      match c.skipSpace true with
      | some (c, _) => if isBreakOrEnd c.here then skipToToken (l.moveTo c) fuel else none
      | none => none
    else if isBlank c.here then skipToToken (l.moveTo (c.skip 1)) fuel
    else if isBreak c.here then
      skipToToken { l with cursor := c.nextLine, keyAllowed := l.keyAllowed || !l.inFlow } fuel
    else if c.here = '#' then skipToToken (l.moveTo c.skipComment) fuel
    else some l

def toToken (l : Lexer) : Option Lexer := l.skipToToken (l.cursor.rest.length + 1)

/-- Past blanks and a comment on the same line. -/
def skipSpace (l : Lexer) : Option Lexer := do
  let (c, _) ← l.cursor.skipSpace true
  return l.moveTo c

/-! ## Tokens -/

def readStreamEnd (l : Lexer) : Option Lexer := do
  if l.keyPlace.any (·.isRequired) then failure
  let l := { l with keyPlace := none }
  return (l.unindent (-1)).emit .streamEnd

def readDirectiveLine (l : Lexer) : Option Lexer := do
  let l ← (l.unindent (-1)).dropKey
  let (directive, c) ← readDirective l.cursor
  let l := (l.moveTo c).allowKey false
  match directive with
  | .version => return l.emit .version
  | .tag handle replacement => return l.emit (.tagDirective handle replacement)

def readDocumentMarker (l : Lexer) (t : Token) : Option Lexer := do
  let l ← (l.unindent (-1)).dropKey
  return ((l.moveTo (l.cursor.take 3)).allowKey false).emit t

/-- Behind the end of a document nothing may stand on the line. -/
def readDocumentEnd (l : Lexer) : Option Lexer := do
  let l ← (← l.readDocumentMarker .documentEnd).skipSpace
  if isBreakOrEnd l.cursor.here then return l else failure

/-- The most brackets that may be open. -/
def deepest : Nat := 255

def openBracket (l : Lexer) (t : Token) : Option Lexer := do
  let l := l.markKey.offset
  if deepest ≤ l.depth then failure
  let l := { l with
    outerPlaces := l.keyPlace :: l.outerPlaces, keyPlace := none, depth := l.depth + 1
    mappingSeen := l.mappingSeen || t = Token.flowMapping }
  let l ← ((l.allowKey true).moveTo (l.cursor.take 1)).skipSpace
  return l.emit t

/-- Ends a mapping without braces; what was written out before it does not count from then
on. -/
def endBareField (l : Lexer) : Lexer :=
  if l.inBareField then
    { l with inBareField := false, mappingSeen := false }.emit .flowMappingEnd
  else l

def closeBracket (l : Lexer) (t : Token) : Option Lexer := do
  let l ← l.dropKey
  let l := { l with
    keyPlace := l.outerPlaces.head?.getD none, outerPlaces := l.outerPlaces.tail,
    depth := l.depth - 1 }.endBareField
  let l ← ((l.allowKey false).moveTo (l.cursor.take 1)).skipSpace
  let l := if l.inFlow then { l with closeColonAt := some l.cursor.index } else l
  return l.emit t

def readFlowEntry (l : Lexer) : Option Lexer := do
  let l := (← l.dropKey).endBareField
  let l ← ((l.allowKey true).moveTo (l.cursor.take 1)).skipSpace
  return l.emit .flowEntry

def readBlockEntry (l : Lexer) : Option Lexer := do
  if l.inFlow || !l.keyAllowed then failure
  if l.propertyAtMargin && l.cursor.column = 0 && -1 < l.indent then failure
  let column := l.cursor.column
  let l := (l.moveTo (l.cursor.take 1)).openBlock column none .blockSequence
  let (c, gap) ← l.cursor.skipSpace true
  if gap.contains '\t' && c.here = '-' && isBlankOrEnd (c.ahead 1) then failure
  let l := l.moveTo c
  let l := if isBreak c.here || isFlow c.here then l.offset else l
  let l ← l.dropKey
  return (l.allowKey true).emit .blockEntry

/-- Past spaces, comments and line breaks, of which there has to be one. -/
def skipWide (l : Lexer) : Nat → Bool → Option Lexer
  | 0, _ => some l
  | fuel + 1, found =>
    let c := l.cursor
    if c.here = ' ' then skipWide (l.moveTo (c.skip 1)) fuel true
    else if isBreak c.here then
      skipWide { l with cursor := c.nextLine, keyAllowed := l.keyAllowed || !l.inFlow } fuel true
    else if c.here = '#' then skipWide (l.moveTo c.skipComment) fuel found
    else if found then some l else none

/-- A question mark before a key. -/
def readKeyMark (l : Lexer) : Option Lexer := do
  if !l.inFlow && !l.keyAllowed then failure
  let l := { l.openBlock l.cursor.column none .blockMapping with
    mappingSeen := l.mappingSeen || l.inFlow }
  let l ← l.dropKey
  let l := (l.allowKey (!l.inFlow)).moveTo (l.cursor.take 1)
  let l ← l.skipWide (l.cursor.rest.length + 1) false
  if l.cursor.here = '\t' then failure
  return l.emit .key

/-- A colon before a value. The key before it was either marked or is where a key could
begin. The key of a mapping without braces has to be on the line of the colon. -/
def readValueMark (l : Lexer) : Option Lexer := do
  let column := l.cursor.column
  let line := l.cursor.line
  let c := l.cursor.take 1
  let c ←
    if c.here = '\t' then do
      let (c, gap) ← c.skipSpace true
      if !gap.contains ' ' && (c.here = '-' || isWord c.here) then failure
      pure c
    else pure c
  let l := { l.moveTo c with inBareField := l.inFlow && !l.mappingSeen }
  match l.keyPlace with
  | some p =>
    if l.inBareField && p.line < line then failure
    let l := l.insert p.position .key
    let l := if l.inBareField then l.insert p.position .flowMapping else l
    let l := (l.openBlock p.column (some p.position) .blockMapping).offset
    return ({ l with keyPlace := none }.allowKey false).emit .value
  | none =>
    if !l.inFlow && !l.keyAllowed then failure
    let l := if l.inBareField then l.emit .flowMapping else l
    let l := (l.openBlock column none .blockMapping).offset
    return (l.allowKey (!l.inFlow)).emit .value

def readProperty (l : Lexer) (read : Cursor → Option (Token × Cursor)) : Option Lexer := do
  let margin := l.cursor.column = 0
  let l := l.markKey.allowKey false
  let (t, c) ← read l.cursor
  return { (l.moveTo c).emit t with propertyAtMargin := margin }

def readAnchorToken (isAlias : Bool) (l : Lexer) : Option Lexer := do
  let l ← l.readProperty fun c =>
    (readAnchor c).map fun (name, c) => (if isAlias then .alias name else .anchor name, c)
  return if isAlias then { l with propertyAtMargin := false } else l

def readTagToken (l : Lexer) : Option Lexer :=
  l.readProperty fun c =>
    (readTag l.inFlow c).map fun (handle, suffix, c) => (.tag handle suffix, c)

def readBlockScalar (isLiteral : Bool) (l : Lexer) : Option Lexer := do
  let l := l.markKey.allowKey true
  let l := l.dropOffsets l.indents
  let (text, c) ← blockScalar isLiteral l.indent l.cursor
  return (l.moveTo c).emit (.scalar false text)

def readQuoted (l : Lexer) : Option Lexer := do
  let l := l.markKey.allowKey false
  let (text, c) ← quotedScalar l.inFlow l.indent l.cursor
  let l ← (l.moveTo c).toToken
  return { l with closeColonAt := some l.cursor.index }.emit (.scalar false text)

def readPlain (l : Lexer) : Option Lexer := do
  let l := l.markKey.allowKey false
  let l := l.dropOffsets l.indents
  let (text, c) ← plainScalar l.inFlow (l.indent + 1) l.cursor
  return ({ l with keyAllowed := l.keyAllowed || c.atMargin }.moveTo c).emit (.scalar true text)

/-- Reads the token that begins at the cursor. -/
def readToken (l : Lexer) : Option Lexer :=
  let c := l.cursor
  let next := c.ahead 1
  if c.column = 0 && c.here = '%' then l.readDirectiveLine
  else if c.atMarker '-' then l.readDocumentMarker .documentStart
  else if c.atMarker '.' then l.readDocumentEnd
  else if (c.column : Int) < l.indent then none
  else
    match c.here with
    | '[' => l.openBracket .flowSequence
    | '{' => l.openBracket .flowMapping
    | ']' => l.closeBracket .flowSequenceEnd
    | '\x7d' => l.closeBracket .flowMappingEnd
    | ',' => l.readFlowEntry
    | '*' => l.readAnchorToken true
    | '&' => l.readAnchorToken false
    | '!' => l.readTagToken
    | '\'' => l.readQuoted
    | '"' => l.readQuoted
    | '%' | '@' | '\x60' => none
    | '-' => if isBlankOrEnd next then l.readBlockEntry else l.readPlain
    | '?' => if isBlankOrEnd next then l.readKeyMark else l.readPlain
    | ':' =>
      if isBlankOrEnd next || (l.inFlow && (isFlow next || l.closeColonAt = some c.index)) then
        l.readValueMark
      else l.readPlain
    | '|' => if l.inFlow then l.readPlain else l.readBlockScalar true
    | '>' => if l.inFlow then l.readPlain else l.readBlockScalar false
    | _ => l.readPlain

/-- Reads to the end. Every token takes a character at least. -/
def readAll (l : Lexer) : Nat → Option Lexer
  | 0 => none
  | fuel + 1 => do
    let l ← (← l.toToken).dropStaleKey
    let l := l.unindent l.cursor.column
    if isEnd l.cursor.here then l.readStreamEnd else readAll (← l.readToken) fuel

end Lexer

/-- The tokens of a text, unless it is malformed. -/
def tokens (text : List Char) : Option (List Token) :=
  ((Lexer.start text).readAll (text.length + 2)).map (·.tokens.reverse)

end Ancestry.Yaml
