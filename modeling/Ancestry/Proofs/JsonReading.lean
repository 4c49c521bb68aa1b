import Mathlib.Data.List.Forall2
import Ancestry.Json
import Ancestry.Proofs.Numeral
import Ancestry.Proofs.Splitting

/-!
# Reading JSON text

What a JSON text says, for values made of integers, texts, arrays and objects. A scanner goes
through the characters and finds the tokens. It passes over blanks between them, so it finds the
same tokens in both written forms of a value. A machine with a stack then puts the tokens together.

Integers have the form in which they are written: no plus sign and no leading zeros. The fields of
an object keep their order.
-/
namespace Ancestry.Json

/-! ## Tokens -/

inductive Token
  | int (v : Int)
  | str (s : String)
  | leftBracket
  | rightBracket
  | leftBrace
  | rightBrace
  | comma
  | colon
  deriving Repr, DecidableEq

/-- What the scanner is in: nothing, a number, a text, an escape in a text, or the number of a
character in a text. -/
inductive Mode
  | between
  | number (read : List Char)
  | text (read : List Char)
  | escape (read : List Char)
  | code (read digits : List Char)
  deriving Repr, DecidableEq

def isBlank (c : Char) : Bool := c = ' ' || c = '\t' || c = '\n' || c = '\r'

def punctuation (c : Char) : Option Token :=
  if c = '[' then some .leftBracket
  else if c = ']' then some .rightBracket
  else if c = '\x7b' then some .leftBrace
  else if c = '\x7d' then some .rightBrace
  else if c = ',' then some .comma
  else if c = ':' then some .colon
  else none

/-- The character that a letter behind a backslash stands for. -/
def unescape (c : Char) : Option Char :=
  if c = '"' || c = '\\' || c = '/' then some c
  else if c = 'b' then some '\x08'
  else if c = 't' then some '\t'
  else if c = 'n' then some '\n'
  else if c = 'f' then some '\x0c'
  else if c = 'r' then some '\r'
  else none

/-- The integer that is written like this. -/
def integer (cs : List Char) : Option Int :=
  (Decimal.readSigned 10 cs).filter fun v => Decimal.digits v = cs

/-- What a character begins that stands between tokens: the tokens found and the mode. -/
def start (c : Char) : Option (List Token × Mode) :=
  if isBlank c then some ([], .between)
  else if c = '"' then some ([], .text [])
  else if c = '-' || c.isDigit then some ([], .number [c])
  else (punctuation c).map fun token => ([token], .between)

/-- The character with a number of four digits; half of a pair is none. -/
def decode (digits : List Char) : Option Char :=
  (Decimal.readDigits 16 digits).bind fun n => if n.isValidChar then some (Char.ofNat n) else none

/-- One character: the tokens it ends or makes, and the mode after it. -/
def advance : Mode → Char → Option (List Token × Mode)
  | .between, c => start c
  | .number read, c =>
    if c.isDigit then some ([], .number (read ++ [c]))
    else
      (integer read).bind fun v =>
        (start c).map fun (tokens, mode) => (.int v :: tokens, mode)
  | .text read, c =>
    if c = '"' then some ([.str (String.ofList read)], .between)
    else if c = '\\' then some ([], .escape read)
    else if c.toNat < 0x20 then none
    else some ([], .text (read ++ [c]))
  | .escape read, c =>
    if c = 'u' then some ([], .code read [])
    else (unescape c).map fun d => ([], .text (read ++ [d]))
  | .code read digits, c =>
    if digits.length < 3 then some ([], .code read (digits ++ [c]))
    else (decode (digits ++ [c])).map fun d => ([], .text (read ++ [d]))

/-- A text may end between tokens or with a number. -/
def finish : Mode → Option (List Token)
  | .between => some []
  | .number read => (integer read).map fun v => [.int v]
  | _ => none

def scanFrom (mode : Mode) : List Char → Option (List Token)
  | [] => finish mode
  | c :: cs =>
    (advance mode c).bind fun (tokens, next) => (scanFrom next cs).map (tokens ++ ·)

/-- The tokens of a text. -/
def scan (cs : List Char) : Option (List Token) := scanFrom .between cs

/-! ## Values -/

/-- An array or an object that is not closed, with what came before in it. -/
inductive Frame
  | items (before : List Json)
  | fields (before : List (String × Json)) (name : String)

/-- What is to come, with the frames that are open around it, innermost first. -/
inductive Expect
  | value (stack : List Frame)
  /-- An item or the end of an array that has just been opened. -/
  | item (stack : List Frame)
  /-- A field or the end of an object that has just been opened. -/
  | field (stack : List Frame)
  | name (before : List (String × Json)) (stack : List Frame)
  | colon (before : List (String × Json)) (name : String) (stack : List Frame)
  /-- Whatever may come behind a value. -/
  | more (v : Json) (stack : List Frame)

/-- A token where a value is to come. -/
def takeValue (stack : List Frame) : Token → Option Expect
  | .int v => some (.more (.int v) stack)
  | .str s => some (.more (.str s) stack)
  | .leftBracket => some (.item stack)
  | .leftBrace => some (.field stack)
  | _ => none

def take : Expect → Token → Option Expect
  | .value stack, token => takeValue stack token
  | .item stack, .rightBracket => some (.more (.arr []) stack)
  | .item stack, token => takeValue (.items [] :: stack) token
  | .field stack, .rightBrace => some (.more (.obj []) stack)
  | .field stack, .str name => some (.colon [] name stack)
  | .name before stack, .str name => some (.colon before name stack)
  | .colon before name stack, .colon => some (.value (.fields before name :: stack))
  | .more v (.items before :: stack), .comma => some (.value (.items (before ++ [v]) :: stack))
  | .more v (.items before :: stack), .rightBracket => some (.more (.arr (before ++ [v])) stack)
  | .more v (.fields before name :: stack), .comma => some (.name (before ++ [(name, v)]) stack)
  | .more v (.fields before name :: stack), .rightBrace =>
    some (.more (.obj (before ++ [(name, v)])) stack)
  | _, _ => none

/-- The value whose tokens these are. -/
def parse (tokens : List Token) : Option Json :=
  (tokens.foldlM take (.value [])).bind fun
    | .more v [] => some v
    | _ => none

/-- The value that a text is the writing of. -/
def read (text : String) : Option Json := (scan text.toList).bind parse

mutual

/-- The tokens of a value. -/
def tokens : Json → List Token
  | int v => [.int v]
  | str s => [.str s]
  | arr items => .leftBracket :: [.comma].intercalate (itemTokens items) ++ [.rightBracket]
  | obj fields => .leftBrace :: [.comma].intercalate (fieldTokens fields) ++ [.rightBrace]

def itemTokens : List Json → List (List Token)
  | [] => []
  | j :: rest => tokens j :: itemTokens rest

def fieldTokens : List (String × Json) → List (List Token)
  | [] => []
  | (name, j) :: rest => (.str name :: .colon :: tokens j) :: fieldTokens rest

end

/-! ## The tokens of a written value -/

theorem scanFrom_cons {mode next : Mode} {c : Char} (h : advance mode c = some ([], next))
    (cs : List Char) : scanFrom mode (c :: cs) = scanFrom next cs := by
  rw [scanFrom, h]
  simp

/-- A text does not go on a number that stands before it. -/
def Apart (cs : List Char) : Prop := ∀ c ∈ cs.head?, c.isDigit = false

/-- A piece of text has some tokens, if what follows does not go on its last one. -/
def Scans (cs : List Char) (ts : List Token) : Prop :=
  ∀ rest, Apart rest → scan (cs ++ rest) = (scan rest).map (ts ++ ·)

/-- A piece of text has some tokens, whatever follows. -/
def Closed (cs : List Char) (ts : List Token) : Prop :=
  ∀ rest, scan (cs ++ rest) = (scan rest).map (ts ++ ·)

theorem apart_cons {c : Char} (cs : List Char) (h : c.isDigit = false) : Apart (c :: cs) := by
  intro d member
  cases member
  exact h

theorem Apart.append {cs ds : List Char} (h : Apart cs) (h' : Apart ds) : Apart (cs ++ ds) := by
  cases cs with
  | nil => exact h'
  | cons c cs => exact h

section Scans
variable {cs ds : List Char} {ts us : List Token}

theorem Closed.scans (h : Closed cs ts) : Scans cs ts := fun rest _ => h rest

theorem map_append_append (found : Option (List Token)) :
    (found.map (us ++ ·)).map (ts ++ ·) = found.map (ts ++ us ++ ·) := by
  rw [Option.map_map]
  congr 1
  funext more
  exact (List.append_assoc ts us more).symm

theorem Closed.append (first : Closed cs ts) (second : Closed ds us) :
    Closed (cs ++ ds) (ts ++ us) := by
  intro rest
  rw [List.append_assoc, first, second, map_append_append]

theorem Closed.append_scans (first : Closed cs ts) (second : Scans ds us) :
    Scans (cs ++ ds) (ts ++ us) := by
  intro rest after
  rw [List.append_assoc, first, second rest after, map_append_append]

theorem Scans.append (first : Scans cs ts) (second : Scans ds us) (apart : Apart ds) :
    Scans (cs ++ ds) (ts ++ us) := by
  intro rest after
  rw [List.append_assoc, first _ (apart.append after), second rest after, map_append_append]

theorem closed_nil : Closed [] [] := by
  intro rest
  simp

theorem closed_blanks (blank : ∀ c ∈ cs, isBlank c = true) : Closed cs [] := by
  induction cs with
  | nil => exact closed_nil
  | cons c cs ih =>
    intro rest
    have skips : advance .between c = some ([], .between) := if_pos (blank c List.mem_cons_self)
    rw [List.cons_append, scan, scanFrom_cons skips]
    exact ih (fun d member => blank d (List.mem_cons_of_mem _ member)) rest

theorem apart_blanks (blank : ∀ c ∈ cs, isBlank c = true) : Apart cs := by
  intro c member
  have space := blank c (List.mem_of_mem_head? member)
  simp only [isBlank, Bool.or_eq_true, decide_eq_true_eq] at space
  rcases space with ((rfl | rfl) | rfl) | rfl <;> rfl

theorem closed_token {c : Char} {token : Token} (h : start c = some ([token], .between)) :
    Closed [c] [token] := by
  intro rest
  have made : advance .between c = some ([token], .between) := h
  rw [List.cons_append, scan, scanFrom, made]
  rfl

end Scans

/-! ### Numbers -/

theorem integer_digits (v : Int) : integer (Decimal.digits v) = some v := by
  have numeral := Decimal.readSigned_eq_some.mpr (Decimal.numeral_digits v)
  rw [integer, numeral]
  exact if_pos (decide_eq_true rfl)

theorem start_digit {c : Char} (digit : c.isDigit = true) :
    start c = some ([], .number [c]) := by
  have other {d : Char} (noDigit : d.isDigit = false) : c ≠ d := by
    rintro rfl
    cases noDigit.symm.trans digit
  have noBlank : isBlank c = false := by
    simp [isBlank, other (d := ' ') rfl, other (d := '\t') rfl, other (d := '\n') rfl,
      other (d := '\r') rfl]
  simp [start, noBlank, other (d := '"') rfl, digit]

theorem exists_digits (v : Int) :
    ∃ c ds, Decimal.digits v = c :: ds ∧ start c = some ([], .number [c]) ∧
      ∀ d ∈ ds, d.isDigit = true := by
  have isDigit : ∀ c ∈ Nat.toDigits 10 v.natAbs, c.isDigit = true :=
    fun c member => Nat.isDigit_of_mem_toDigits (by decide) (by decide) member
  unfold Decimal.digits
  split
  · exact ⟨'-', _, rfl, rfl, isDigit⟩
  · cases written : Nat.toDigits 10 v.natAbs with
    | nil => exact absurd written Nat.toDigits_ne_nil
    | cons c ds =>
      rw [written] at isDigit
      exact ⟨c, ds, rfl, start_digit (isDigit c List.mem_cons_self),
        fun d member => isDigit d (List.mem_cons_of_mem _ member)⟩

/-- A number ends where something else begins. -/
theorem scanFrom_number {ds rest : List Char} {v : Int} (digits : ∀ d ∈ ds, d.isDigit = true)
    (apart : Apart rest) (read : List Char) (whole : integer (read ++ ds) = some v) :
    scanFrom (.number read) (ds ++ rest) = (scan rest).map ([Token.int v] ++ ·) := by
  induction ds generalizing read with
  | nil =>
    rw [List.append_nil] at whole
    cases rest with
    | nil => simp [scan, scanFrom, finish, whole]
    | cons c cs =>
      have noDigit : c.isDigit = false := apart c rfl
      have ended : advance (.number read) c =
          (start c).map fun (tokens, mode) => (.int v :: tokens, mode) := by
        simp only [advance, noDigit, Bool.false_eq_true, if_false, whole, Option.bind_some]
      rw [List.nil_append, scan, scanFrom, scanFrom, ended]
      cases begun : start c with
      | none => simp [advance, begun]
      | some result =>
        simp only [advance, begun, Option.map_some, Option.bind_some, Option.map_map]
        rfl
  | cons d ds ih =>
    have digit : d.isDigit = true := digits d List.mem_cons_self
    have onward : advance (.number read) d = some ([], .number (read ++ [d])) := if_pos digit
    rw [List.cons_append, scanFrom_cons onward]
    exact ih (fun e member => digits e (List.mem_cons_of_mem _ member)) (read ++ [d])
      (by rwa [List.append_assoc])

theorem scans_digits (v : Int) : Scans (Decimal.digits v) [.int v] := by
  obtain ⟨c, ds, written, begins, digits⟩ := exists_digits v
  intro rest apart
  have whole : integer ([c] ++ ds) = some v := by
    rw [List.singleton_append, ← written, integer_digits]
  have onward : advance .between c = some ([], .number [c]) := begins
  rw [written, List.cons_append, scan, scanFrom_cons onward]
  exact scanFrom_number digits apart [c] whole

/-! ### Texts -/

theorem decode_hexDigits : ∀ n < 0x20,
    decode ['0', '0', hexDigit (n / 16), hexDigit n] = some (Char.ofNat n) := by
  decide

/-- An escaped character is read back, however it is written. -/
theorem scanFrom_escaped (read : List Char) (c : Char) (rest : List Char) :
    scanFrom (.text read) (escaped c ++ rest) = scanFrom (.text (read ++ [c])) rest := by
  have backslash (cs : List Char) :
      scanFrom (.text read) ('\\' :: cs) = scanFrom (.escape read) cs :=
    scanFrom_cons rfl cs
  have letter {d : Char} (noCode : d ≠ 'u') (means : unescape d = some c) :
      scanFrom (.text read) ('\\' :: d :: rest) = scanFrom (.text (read ++ [c])) rest := by
    have onward : advance (.escape read) d = some ([], .text (read ++ [c])) := by
      simp only [advance, noCode, if_false, means, Option.map_some]
    rw [backslash, scanFrom_cons onward]
  unfold escaped
  -- Seven characters have a letter behind the backslash.
  iterate 7
    split
    · rename_i same
      exact letter (by decide) (by rw [same]; rfl)
  rename_i noQuote noBackslash _ _ _ _ _
  split
  · rename_i control
    have last : advance (.code read ['0', '0', hexDigit (c.toNat / 16)]) (hexDigit c.toNat) =
        some ([], .text (read ++ [c])) := by
      have means := decode_hexDigits c.toNat control
      rw [Char.ofNat_toNat] at means
      simp [advance, means]
    simp only [List.cons_append, List.nil_append]
    rw [backslash, scanFrom_cons (c := 'u') rfl, scanFrom_cons (c := '0') rfl,
      scanFrom_cons (c := '0') rfl]
    exact (scanFrom_cons rfl _).trans (scanFrom_cons last rest)
  · rename_i plain
    apply scanFrom_cons
    simp only [advance, noQuote, noBackslash, plain, if_false]

theorem scanFrom_text (cs read rest : List Char) :
    scanFrom (.text read) (cs.flatMap escaped ++ '"' :: rest) =
      (scan rest).map ([Token.str (String.ofList (read ++ cs))] ++ ·) := by
  induction cs generalizing read with
  | nil => simp [scanFrom, advance, scan]
  | cons c cs ih =>
    rw [List.flatMap_cons, List.append_assoc, scanFrom_escaped, ih, List.append_assoc,
      List.singleton_append]

theorem closed_quote (s : String) : Closed (quote s).toList [.str s] := by
  intro rest
  have opened : advance .between '"' = some ([], .text []) := rfl
  have written : (quote s).toList ++ rest = '"' :: (s.toList.flatMap escaped ++ '"' :: rest) := by
    simp [quote]
  rw [written, scan, scanFrom_cons opened, scanFrom_text, List.nil_append, String.ofList_toList]

/-! ### Values -/

section Lists
variable {gap : List Char} {pieces : List (List Char)} {found : List (List Token)}

/-- Pieces with commas between them, and any blanks behind the commas. -/
theorem scans_intercalate (blank : ∀ c ∈ gap, isBlank c = true)
    (scans : List.Forall₂ Scans pieces found) :
    Scans ((',' :: gap).intercalate pieces) ([Token.comma].intercalate found) := by
  induction scans with
  | nil => exact closed_nil.scans
  | @cons piece tokens pieces found now later ih =>
    cases later with
    | nil => simpa using now
    | @cons next nextTokens pieces found now' later =>
      have comma : Closed (',' :: gap) [.comma] :=
        (closed_token (c := ',') rfl).append (closed_blanks blank)
      have behind := now.append (comma.append_scans ih) (apart_cons _ rfl)
      simpa [List.intercalate] using behind

/-- Pieces between two brackets. -/
theorem scans_enclosed (left right : Char) (gap last : List Char) {opens closes : Token}
    (begins : start left = some ([opens], .between))
    (ends : start right = some ([closes], .between)) (noDigit : right.isDigit = false)
    (blank : ∀ c ∈ gap, isBlank c = true) (blankLast : ∀ c ∈ last, isBlank c = true)
    (scans : List.Forall₂ Scans pieces found) :
    Scans (left :: gap ++ (',' :: gap).intercalate pieces ++ (last ++ [right]))
      (opens :: [Token.comma].intercalate found ++ [closes]) := by
  have opened : Closed (left :: gap) [opens] := (closed_token begins).append (closed_blanks blank)
  have closed : Closed (last ++ [right]) [closes] :=
    (closed_blanks blankLast).append (closed_token ends)
  have apart : Apart (last ++ [right]) := (apart_blanks blankLast).append (apart_cons [] noDigit)
  exact (opened.append_scans (scans_intercalate blank scans)).append closed.scans apart

end Lists

theorem scans_int (v : Int) : Scans (String.ofList (Decimal.digits v)).toList [.int v] := by
  rw [String.toList_ofList]
  exact scans_digits v

/-- A field: its name, a colon, any blanks, and its value. -/
theorem scans_field (name : String) (gap : List Char) {cs : List Char} {ts : List Token}
    (blank : ∀ c ∈ gap, isBlank c = true) (value : Scans cs ts) :
    Scans ((quote name).toList ++ ':' :: gap ++ cs) (.str name :: .colon :: ts) := by
  have colon : Closed (':' :: gap) [.colon] := (closed_token rfl).append (closed_blanks blank)
  exact ((closed_quote name).append colon).append_scans value

mutual

theorem scans_compact : (j : Json) → Scans (compact j).toList (tokens j)
  | int v => scans_int v
  | str s => (closed_quote s).scans
  | arr items => by
    have whole := scans_enclosed '[' ']' [] [] rfl rfl rfl nofun nofun (scans_compactItems items)
    simpa [compact, tokens, String.toList_intercalate] using whole
  | obj fields => by
    have whole := scans_enclosed '\x7b' '\x7d' [] [] rfl rfl rfl nofun nofun
      (scans_compactFields fields)
    simpa [compact, tokens, String.toList_intercalate] using whole

theorem scans_compactItems : (items : List Json) →
    List.Forall₂ Scans ((compactItems items).map String.toList) (itemTokens items)
  | [] => .nil
  | j :: rest => .cons (scans_compact j) (scans_compactItems rest)

theorem scans_compactFields : (fields : List (String × Json)) →
    List.Forall₂ Scans ((compactFields fields).map String.toList) (fieldTokens fields)
  | [] => .nil
  | (name, j) :: rest => by
    have field := scans_field name [] nofun (scans_compact j)
    exact .cons (by simpa using field) (scans_compactFields rest)

end

theorem isBlank_newline (level : Nat) : ∀ c ∈ (newline level).toList, isBlank c = true := by
  intro c member
  simp only [newline, String.toList_append, String.toList_ofList, List.mem_append,
    List.mem_replicate] at member
  rcases member with member | ⟨-, rfl⟩
  · cases List.mem_singleton.mp member
    rfl
  · rfl

/-- A block is enclosed whether it is empty or not. -/
theorem scans_block (left right : Char) {opens closes : Token} (level : Nat)
    (begins : start left = some ([opens], .between))
    (ends : start right = some ([closes], .between)) (noDigit : right.isDigit = false)
    {before after : String} (first : before.toList = [left]) (last : after.toList = [right])
    {pieces : List String} {found : List (List Token)}
    (scans : List.Forall₂ Scans (pieces.map String.toList) found) :
    Scans (block before after level pieces).toList
      (opens :: [Token.comma].intercalate found ++ [closes]) := by
  cases pieces with
  | nil =>
    have whole := scans_enclosed left right [] [] begins ends noDigit nofun nofun scans
    simpa [block, first, last] using whole
  | cons piece pieces =>
    have whole := scans_enclosed left right (newline (level + 1)).toList (newline level).toList
      begins ends noDigit (isBlank_newline _) (isBlank_newline _) scans
    simpa [block, String.toList_intercalate, first, last] using whole

mutual

theorem scans_prettyAt (level : Nat) : (j : Json) → Scans (prettyAt level j).toList (tokens j)
  | int v => scans_int v
  | str s => (closed_quote s).scans
  | arr items => by
    have inside := scans_prettyItems (level + 1) items
    rw [prettyAt, tokens]
    exact scans_block '[' ']' level rfl rfl rfl (by simp) (by simp) inside
  | obj fields => by
    have inside := scans_prettyFields (level + 1) fields
    rw [prettyAt, tokens]
    exact scans_block '\x7b' '\x7d' level rfl rfl rfl (by simp) (by simp) inside

theorem scans_prettyItems (level : Nat) : (items : List Json) →
    List.Forall₂ Scans ((prettyItems level items).map String.toList) (itemTokens items)
  | [] => .nil
  | j :: rest => .cons (scans_prettyAt level j) (scans_prettyItems level rest)

theorem scans_prettyFields (level : Nat) : (fields : List (String × Json)) →
    List.Forall₂ Scans ((prettyFields level fields).map String.toList) (fieldTokens fields)
  | [] => .nil
  | (name, j) :: rest => by
    have field := scans_field name [' '] (by simp [isBlank]) (scans_prettyAt level j)
    exact .cons (by simpa using field) (scans_prettyFields level rest)

end

/-! ## The value of the tokens -/

/-- Where an item or the end may come, an item is taken as it is between items. -/
theorem foldlM_item (stack : List Frame) (j : Json) (more : List Token) :
    (tokens j ++ more).foldlM take (.item stack) =
      (tokens j ++ more).foldlM take (.value (.items [] :: stack)) := by
  cases j <;> rw [tokens] <;> rfl

mutual

/-- From where a value is to come, its tokens lead to where it has come. -/
theorem foldlM_tokens (stack : List Frame) : (j : Json) →
    (tokens j).foldlM take (.value stack) = some (.more j stack)
  | int v => rfl
  | str s => rfl
  | arr [] => rfl
  | arr (j :: rest) => by
    have first := foldlM_tokens (.items [] :: stack) j
    have others := foldlM_items stack [] j rest
    rw [tokens, itemTokens, Text.intercalate_cons, List.cons_append, List.foldlM_cons]
    change List.foldlM take (.item stack) _ = _
    rw [List.append_assoc, foldlM_item, List.foldlM_append, first]
    exact others
  | obj [] => rfl
  | obj ((name, j) :: rest) => by
    have first := foldlM_tokens (.fields [] name :: stack) j
    have others := foldlM_fields stack [] name j rest
    rw [tokens, fieldTokens, Text.intercalate_cons]
    simp only [List.cons_append, List.append_assoc, List.foldlM_cons]
    change List.foldlM take (.value (.fields [] name :: stack)) _ = _
    rw [List.foldlM_append, first]
    exact others

theorem foldlM_items (stack : List Frame) (before : List Json) (v : Json) : (rest : List Json) →
    ((itemTokens rest).flatMap ([Token.comma] ++ ·) ++ [Token.rightBracket]).foldlM take
      (.more v (.items before :: stack)) = some (.more (.arr (before ++ v :: rest)) stack)
  | [] => rfl
  | j :: rest => by
    have next := foldlM_tokens (.items (before ++ [v]) :: stack) j
    have others := foldlM_items stack (before ++ [v]) j rest
    rw [itemTokens, List.flatMap_cons]
    simp only [List.cons_append, List.nil_append, List.append_assoc, List.foldlM_cons]
    change List.foldlM take (.value (.items (before ++ [v]) :: stack)) _ = _
    rw [List.foldlM_append, next]
    simpa using others

theorem foldlM_fields (stack : List Frame) (before : List (String × Json)) (name : String)
    (v : Json) : (rest : List (String × Json)) →
    ((fieldTokens rest).flatMap ([Token.comma] ++ ·) ++ [Token.rightBrace]).foldlM take
      (.more v (.fields before name :: stack)) =
        some (.more (.obj (before ++ (name, v) :: rest)) stack)
  | [] => rfl
  | (next, j) :: rest => by
    have value := foldlM_tokens (.fields (before ++ [(name, v)]) next :: stack) j
    have others := foldlM_fields stack (before ++ [(name, v)]) next j rest
    rw [fieldTokens, List.flatMap_cons]
    simp only [List.cons_append, List.nil_append, List.append_assoc, List.foldlM_cons]
    change List.foldlM take (.value (.fields (before ++ [(name, v)]) next :: stack)) _ = _
    rw [List.foldlM_append, value]
    simpa using others

end

theorem parse_tokens (j : Json) : parse (tokens j) = some j := by
  rw [parse, foldlM_tokens]
  rfl

theorem read_of_scans {text : String} {j : Json} (scans : Scans text.toList (tokens j)) :
    read text = some j := by
  have whole := scans [] nofun
  have nothing : scan [] = some [] := rfl
  rw [List.append_nil, nothing, Option.map_some, List.append_nil] at whole
  rw [read, whole, Option.bind_some, parse_tokens]

/-- The compact form of a value is read as that value. -/
theorem read_compact (j : Json) : read j.compact = some j := read_of_scans (scans_compact j)

/-- So is the form over several lines. -/
theorem read_pretty (j : Json) : read j.pretty = some j := read_of_scans (scans_prettyAt 0 j)

/-- A newline is a blank, and it ends a number. -/
theorem scanFrom_newline {mode : Mode} {cs : List Char} {ts : List Token}
    (scans : scanFrom mode cs = some ts) : scanFrom mode (cs ++ ['\n']) = some ts := by
  induction cs generalizing mode ts with
  | nil =>
    cases mode with
    | between =>
      obtain rfl := Option.some.inj scans
      rfl
    | number read =>
      obtain ⟨v, whole, rfl⟩ := Option.map_eq_some_iff.mp scans
      have ended : advance (.number read) '\n' = some ([.int v], .between) := by
        simp [advance, whole, start, isBlank]
      rw [List.nil_append, scanFrom, ended]
      rfl
    | text | escape | code => cases scans
  | cons c cs ih =>
    rw [scanFrom] at scans
    obtain ⟨⟨made, next⟩, onward, scans⟩ := Option.bind_eq_some_iff.mp scans
    obtain ⟨later, rest, rfl⟩ := Option.map_eq_some_iff.mp scans
    rw [List.cons_append, scanFrom, onward, Option.bind_some]
    change (scanFrom next (cs ++ ['\n'])).map (made ++ ·) = _
    rw [ih rest]
    rfl

/-- So a value is read from its text with a newline behind it. -/
theorem read_line {text : String} {j : Json} (value : read text = some j) :
    read (text ++ "\n") = some j := by
  obtain ⟨ts, scans, parsed⟩ := Option.bind_eq_some_iff.mp value
  have line : scan (text ++ "\n").toList = some ts := by
    rw [String.toList_append]
    exact scanFrom_newline scans
  rw [read, line]
  exact parsed

example : (scan "[-1, \"\\u000a\"]".toList) =
    some [.leftBracket, .int (-1), .comma, .str "\n", .rightBracket] := by
  decide

end Ancestry.Json
