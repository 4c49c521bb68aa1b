import Ancestry.Diagnostics
import Ancestry.Text.Blank

/-!
# Which records are shown

A filter is written as directives between commas. A directive is the name of a level, for
all sources, or the beginning of the name of a source with or without a level. Of the
directives that fit a source, the one with the longest name decides. Behind a slash stands
a text that a record has to contain.
-/
namespace Ancestry.CommandLine

/-- The rank of the least level that is shown; nothing is shown at zero. -/
abbrev Threshold := Nat

structure Directive where
  /-- How the sources begin that it is about; without a name it is about all. -/
  source : Option (List Char)
  threshold : Threshold
  deriving Repr, DecidableEq

structure LogFilter where
  directives : List Directive
  /-- What a record has to contain. -/
  content : List Char
  deriving Repr, DecidableEq

namespace LogFilter

/-- The names of the thresholds, in capital letters. -/
def thresholdNames : List (String × Threshold) :=
  [("OFF", 0), ("ERROR", 1), ("WARN", 2), ("INFO", 3), ("DEBUG", 4), ("TRACE", 5)]

/-- A threshold by its name, in any case of ASCII letters. -/
def threshold? (cs : List Char) : Option Threshold :=
  thresholdNames.lookup (String.ofList (cs.map Char.toUpper))

def everything : Threshold := 5

def trim (cs : List Char) : List Char := Text.strip Text.isBlank cs

/-- A directive, or the part of it that is malformed. -/
def Directive.read (cs : List Char) : Except (List Char) Directive :=
  match Text.pieces (· = '=') cs with
  | [one] =>
    match threshold? one with
    | some t => .ok ⟨none, t⟩
    | none => .ok ⟨some one, everything⟩
  | [source, level] =>
    let level := trim level
    if level = [] then .ok ⟨some source, everything⟩
    else
      match threshold? level with
      | some t => .ok ⟨some source, t⟩
      | none => .error level
  | _ => .error cs

/-- The directives with one more; it takes the place of one about the same sources. -/
def insert (d : Directive) : List Directive → List Directive
  | [] => [d]
  | e :: rest => if e.source = d.source then d :: rest else e :: insert d rest

/-- A complaint about a malformed part, as one line. -/
def complaint (part : String) : String :=
  "warning: invalid logging spec '" ++ part ++ "', ignoring it"

/-- The directives between commas, and complaints about the malformed ones. -/
def readDirectives (cs : List Char) : List Directive × List String :=
  let parts := ((Text.pieces (· = ',') cs).map trim).filter (· ≠ [])
  parts.foldl (fun (directives, complaints) part =>
    match Directive.read part with
    | .ok d => (insert d directives, complaints)
    | .error bad => (directives, complaints ++ [complaint (String.ofList bad)])) ([], [])

/-- The directive that stands where none is given. -/
def errorsOnly : Directive := ⟨none, 1⟩

def orErrors (ds : List Directive) : List Directive := if ds = [] then [errorsOnly] else ds

/-- Reads a filter, with complaints about what is malformed. -/
def read (s : String) : LogFilter × List String :=
  match Text.pieces (· = '/') s.toList with
  | [directives] =>
    let (ds, complaints) := readDirectives directives
    (⟨orErrors ds, []⟩, complaints)
  | [directives, content] =>
    let (ds, complaints) := readDirectives directives
    (⟨orErrors ds, content⟩, complaints)
  | _ =>
    (⟨[errorsOnly], []⟩,
      ["warning: invalid logging spec '" ++ s ++ "' (too many '/'s), ignoring it"])

def Directive.weight (d : Directive) : Nat := (d.source.map List.length).getD 0

def Directive.fits (source : List Char) (d : Directive) : Bool :=
  d.source.all fun name => name.isPrefixOf source

/-- The directive that decides about a source: of the longest the last. -/
def decisive (f : LogFilter) (source : List Char) : Option Directive :=
  (f.directives.filter (Directive.fits source)).foldl (fun best d =>
    match best with
    | none => some d
    | some b => if Directive.weight b ≤ Directive.weight d then some d else some b) none

/-- Whether a text contains another. -/
def contains (part : List Char) : List Char → Bool
  | [] => part = []
  | c :: cs => part.isPrefixOf (c :: cs) || contains part cs

/-- Whether a record is shown. -/
def shows (f : LogFilter) (r : Record) : Bool :=
  (f.decisive r.source.toList).any (fun d => r.level.rank ≤ d.threshold)
    && contains f.content r.text.toList

end LogFilter
end Ancestry.CommandLine
