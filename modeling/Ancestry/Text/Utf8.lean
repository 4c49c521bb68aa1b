/-!
# Text as bytes

Encoding writes a character as one to four bytes. Decoding reads them back and
refuses the first sequence that no character has, saying where it starts and how
many bytes of it could still have begun a character. A text that stops inside a
sequence is told apart from one that goes on wrongly.

Both directions are written in arithmetic on the byte values, so that a statement
about them is a statement about numbers.
-/
namespace Ancestry

/-- Bytes as they stand in files, messages and paths. -/
abbrev Bytes := List UInt8

namespace Utf8

/-- One character, in the fewest bytes that hold it. -/
def encodeChar (c : Char) : Bytes :=
  let v := c.toNat
  if v < 0x80 then [UInt8.ofNat v]
  else if v < 0x800 then [UInt8.ofNat (0xC0 + v / 64), UInt8.ofNat (0x80 + v % 64)]
  else if v < 0x10000 then
    [UInt8.ofNat (0xE0 + v / 4096), UInt8.ofNat (0x80 + v / 64 % 64),
      UInt8.ofNat (0x80 + v % 64)]
  else
    [UInt8.ofNat (0xF0 + v / 262144), UInt8.ofNat (0x80 + v / 4096 % 64),
      UInt8.ofNat (0x80 + v / 64 % 64), UInt8.ofNat (0x80 + v % 64)]

def encode (cs : List Char) : Bytes := cs.flatMap encodeChar

@[simp] theorem encode_nil : encode [] = [] := rfl

@[simp] theorem encode_cons (c : Char) (cs : List Char) :
    encode (c :: cs) = encodeChar c ++ encode cs := rfl

theorem encode_append (a b : List Char) : encode (a ++ b) = encode a ++ encode b := by
  simp [encode]

/-- The place of the first bytes that are no text. The length is missing when the
bytes end inside a sequence that was right so far. -/
structure Malformed where
  index : Nat
  length : Option Nat
  deriving Repr, DecidableEq

def Malformed.message (m : Malformed) : String :=
  match m.length with
  | some n => s!"invalid utf-8 sequence of {n} bytes from index {m.index}"
  | none => s!"incomplete utf-8 byte sequence from index {m.index}"

/-- What stands at the front of some bytes. -/
inductive Front
  | empty
  | char (c : Char) (rest : Bytes)
  | bad (length : Nat) (rest : Bytes)
  | cut
  deriving Repr, DecidableEq

/-- A byte that can only continue a character. -/
def isContinuation (b : UInt8) : Bool := 0x80 ≤ b.toNat && b.toNat < 0xC0

/-- The values a second byte may have after a first byte of three or four: they leave
out forms that are longer than needed, surrogates, and values past the last one. -/
def isSecond (first second : Nat) : Bool :=
  if first = 0xE0 then 0xA0 ≤ second && second < 0xC0
  else if first = 0xED then 0x80 ≤ second && second < 0xA0
  else if first = 0xF0 then 0x90 ≤ second && second < 0xC0
  else if first = 0xF4 then 0x80 ≤ second && second < 0x90
  else 0x80 ≤ second && second < 0xC0

/-- Six low bits of a continuation byte. -/
def low (b : UInt8) : Nat := b.toNat - 0x80

def front : Bytes → Front
  | [] => .empty
  | a :: rest =>
    if a.toNat < 0x80 then .char (Char.ofNat a.toNat) rest
    else if a.toNat < 0xC2 then .bad 1 rest
    else if a.toNat < 0xE0 then
      match rest with
      | [] => .cut
      | b :: tail =>
        if isContinuation b then .char (Char.ofNat ((a.toNat - 0xC0) * 64 + low b)) tail
        else .bad 1 rest
    else if a.toNat < 0xF0 then
      match rest with
      | [] => .cut
      | b :: afterSecond =>
        if isSecond a.toNat b.toNat then
          match afterSecond with
          | [] => .cut
          | c :: tail =>
            if isContinuation c then
              .char (Char.ofNat ((a.toNat - 0xE0) * 4096 + low b * 64 + low c)) tail
            else .bad 2 afterSecond
        else .bad 1 rest
    else if a.toNat < 0xF5 then
      match rest with
      | [] => .cut
      | b :: afterSecond =>
        if isSecond a.toNat b.toNat then
          match afterSecond with
          | [] => .cut
          | c :: afterThird =>
            if isContinuation c then
              match afterThird with
              | [] => .cut
              | d :: tail =>
                if isContinuation d then
                  .char (Char.ofNat
                    ((a.toNat - 0xF0) * 262144 + low b * 4096 + low c * 64 + low d)) tail
                else .bad 3 afterThird
            else .bad 2 afterSecond
        else .bad 1 rest
    else .bad 1 rest

theorem length_of_front_char {bs rest : Bytes} {c : Char} (h : front bs = .char c rest) :
    rest.length < bs.length := by
  unfold front at h
  repeat' split at h
  all_goals simp_all <;> omega

theorem length_of_front_bad {bs rest : Bytes} {n : Nat} (h : front bs = .bad n rest) :
    rest.length < bs.length := by
  unfold front at h
  repeat' split at h
  all_goals simp_all <;> omega

/-- Reads on from a known index, with the characters read so far in reverse. -/
def decodeFrom (index : Nat) (done : List Char) (bs : Bytes) : Except Malformed (List Char) :=
  match _h : front bs with
  | .empty => .ok done.reverse
  | .char c rest => decodeFrom (index + c.utf8Size) (c :: done) rest
  | .bad n _ => .error ⟨index, some n⟩
  | .cut => .error ⟨index, none⟩
termination_by bs.length
decreasing_by exact length_of_front_char ‹_›

/-- The characters of a text, or the place where it stops being one. -/
def decode (bs : Bytes) : Except Malformed (List Char) := decodeFrom 0 [] bs

/-- Reads on with every malformed sequence shown as one replacement character. -/
def lossyFrom (done : List Char) (bs : Bytes) : List Char :=
  match _h : front bs with
  | .empty => done.reverse
  | .char c rest => lossyFrom (c :: done) rest
  | .bad _ rest => lossyFrom ('\ufffd' :: done) rest
  | .cut => ('\ufffd' :: done).reverse
termination_by bs.length
decreasing_by
  · exact length_of_front_char ‹_›
  · exact length_of_front_bad ‹_›

/-- A text for the eye, whatever the bytes are. -/
def lossy (bs : Bytes) : String := String.ofList (lossyFrom [] bs)

def text? (bs : Bytes) : Option String :=
  match decode bs with
  | .ok cs => some (String.ofList cs)
  | .error _ => none

end Utf8

/-- The bytes of a text. -/
def Bytes.ofString (s : String) : Bytes := Utf8.encode s.toList

end Ancestry
