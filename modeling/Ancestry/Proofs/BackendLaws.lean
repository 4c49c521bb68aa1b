import Ancestry.Proofs.Splitting
import Ancestry.Settings.Backend

/-!
# What is known of a backend

The rules by which settings are read. The file of variables sets what is not set, and of several
assignments to one name the first counts. What a source says stands under keys, and a key is a way
through tables, from name to name. Sources are put together table by table, and at the end of a way
stands what the last source says that tells anything about it, or else what is set where nobody sets
it. What a text in a variable stands for, and how a value is written as a text, is a matter of its
own.

Keys are taken as far as there is one way to read them: in lower case, and either one name without
any point or bracket, or plain names with points between them. It is left open what is made of the
others, and of sources that have a table where another has something else.
-/
namespace Ancestry

namespace Settings

/-! ## Steps that may fail -/

theorem bind_eq_ok_iff {α β : Type} {x : Except Fault α} {next : α → Except Fault β} {b : β} :
    x >>= next = .ok b ↔ ∃ a, x = .ok a ∧ next a = .ok b := by
  cases x with
  | error => simp [bind, Except.bind]
  | ok a => simp [bind, Except.bind]

theorem map_eq_ok_iff {α β : Type} {x : Except Fault α} {f : α → β} {b : β} :
    x.map f = .ok b ↔ ∃ a, x = .ok a ∧ f a = b := by
  cases x <;> simp [Except.map]

/-! ## Entries -/

/-- No name stands twice. -/
def Distinct {α : Type} (entries : List (String × α)) : Prop := (entries.map Prod.fst).Nodup

/-- Names that stand once and in lower case. -/
structure Tidy (entries : Fields) : Prop where
  distinct : Distinct entries
  lower : ∀ e ∈ entries, Text.lowerCase e.1 = e.1

theorem lookup_entry {α : Type} (e : String × α) (rest : List (String × α)) (key : String) :
    (e :: rest).lookup key = if key = e.1 then some e.2 else rest.lookup key := by
  by_cases here : key = e.1
  · rw [if_pos here, here, List.lookup_cons_self]
  · have unlike : (key == e.1) = false := beq_eq_false_iff_ne.mpr here
    rw [if_neg here, List.lookup_cons, unlike]

theorem mem_of_lookup {α : Type} {entries : List (String × α)} {key : String} {v : α}
    (found : entries.lookup key = some v) : (key, v) ∈ entries := by
  obtain ⟨front, back, rfl, -⟩ := List.lookup_eq_some_iff.mp found
  exact List.mem_append_right _ List.mem_cons_self

namespace Distinct
variable {α : Type}

theorem of_cons {e : String × α} {rest : List (String × α)} (distinct : Distinct (e :: rest)) :
    rest.lookup e.1 = none ∧ Distinct rest := by
  obtain ⟨new, others⟩ := List.nodup_cons.mp distinct
  refine ⟨List.lookup_eq_none_iff.mpr fun other member => ?_, others⟩
  rw [bne_iff_ne]
  intro same
  exact new (same ▸ List.mem_map_of_mem member)

theorem lookup_of_mem {entries : List (String × α)} (distinct : Distinct entries)
    {e : String × α} (member : e ∈ entries) : entries.lookup e.1 = some e.2 := by
  induction entries with
  | nil => cases member
  | cons first rest ih =>
    obtain ⟨once, others⟩ := distinct.of_cons
    rw [lookup_entry]
    rcases List.mem_cons.mp member with rfl | later
    · exact if_pos rfl
    · rw [if_neg, ih others later]
      intro same
      cases once.symm.trans (same ▸ ih others later)

end Distinct

/-! ## Ways -/

namespace Value

def IsTable (v : Value) : Prop := ∃ origin fs, v = .table origin fs

instance : DecidablePred IsTable
  | .table origin fs => .isTrue ⟨origin, fs, rfl⟩
  | .scalar .. | .list .. => .isFalse nofun

/-- What is at the end of a way through tables. -/
def at? : List String → Value → Option Value
  | [], v => some v
  | name :: way, v => (v.field? name).bind (at? way)

/-- Tables go along a way, with tidy names, as far as there is anything, and no table is at the end
of it. -/
def Along : List String → Value → Prop
  | [], v => ¬ v.IsTable
  | name :: way, v => v.IsTable ∧ Tidy v.fields ∧ ∀ u, v.field? name = some u → Along way u

theorem at?_append (front rest : List String) (v : Value) :
    v.at? (front ++ rest) = (v.at? front).bind (at? rest) := by
  induction front generalizing v with
  | nil => rfl
  | cons name front ih =>
    rw [List.cons_append, at?, at?, Option.bind_assoc]
    exact Option.bind_congr fun u _ => ih u

end Value

/-! ## Keys -/

/-- The names in a key, which has points between them. -/
def wayOf (key : String) : List String :=
  (Text.pieces (· = '.') key.toList).map String.ofList

/-- A key that is one name, in lower case. -/
structure IsPlain (key : String) : Prop where
  lower : Text.lowerCase key = key
  noPoint : '.' ∉ key.toList
  noBracket : '[' ∉ key.toList

/-- A character of a name that may stand beside points. -/
def isPlainChar (c : Char) : Bool := c.isAlphanum || c = '_' || c = '-'

/-- A name that may stand beside points. -/
structure IsName (name : String) : Prop where
  lower : Text.lowerCase name = name
  nonempty : name ≠ ""
  chars : ∀ c ∈ name.toList, isPlainChar c = true

/-- A key that there is one way to read. -/
def Spelled (key : String) : Prop := IsPlain key ∨ ∀ name ∈ wayOf key, IsName name

theorem wayOf_ne_nil (key : String) : wayOf key ≠ [] := by
  rw [wayOf, Ne, List.map_eq_nil_iff]
  exact Text.pieces_ne_nil _ _

/-- A key is its names with points between them. -/
theorem intercalate_wayOf (key : String) :
    ['.'].intercalate ((wayOf key).map String.toList) = key.toList := by
  have names : (wayOf key).map String.toList = Text.pieces (· = '.') key.toList := by
    rw [wayOf, List.map_map]
    exact List.map_id'' (fun cs => String.toList_ofList) _
  rw [names, (Text.separated_pieces '.' key.toList).joined]

theorem IsPlain.wayOf {key : String} (plain : IsPlain key) : wayOf key = [key] := by
  rw [Settings.wayOf, Text.pieces_of_not_mem plain.noPoint, List.map_singleton,
    String.ofList_toList]

theorem Spelled.lower {key : String} (spelled : Spelled key) :
    ∀ name ∈ wayOf key, Text.lowerCase name = name := by
  rcases spelled with plain | names
  · rw [plain.wayOf]
    exact List.forall_mem_singleton.mpr plain.lower
  · exact fun name member => (names name member).lower

/-! ## Sources -/

/-- What an entry tells about the end of a way. -/
def toldBy (way : List String) (e : String × Value) : Option Value :=
  if (wayOf e.1).isPrefixOf way then e.2.at? (way.drop (wayOf e.1).length) else none

/-- What a source tells about the end of a way. -/
def tells? (way : List String) (source : Fields) : Option Value := source.findSome? (toldBy way)

/-- A source in which there is one way to read what it says about the end of a way: its keys can be
read, tables lead there and not beyond, and no two entries tell anything about it. -/
structure Clear (way : List String) (source : Fields) : Prop where
  spelled : ∀ e ∈ source, Spelled e.1
  along : ∀ e ∈ source, ∀ rest, way = wayOf e.1 ++ rest → e.2.Along rest
  ends : ∀ e ∈ source, ∀ rest, wayOf e.1 = way ++ rest → rest = []
  once : source.Pairwise fun e e' => toldBy way e = none ∨ toldBy way e' = none

theorem toldBy_front (front rest : List String) {e : String × Value} (key : wayOf e.1 = front) :
    toldBy (front ++ rest) e = e.2.at? rest := by
  rw [toldBy, key, if_pos (List.isPrefixOf_iff_prefix.mpr ⟨rest, rfl⟩), List.drop_left]

theorem toldBy_eq_none {way : List String} {e : String × Value} (apart : ¬ wayOf e.1 <+: way) :
    toldBy way e = none := if_neg fun front => apart (List.isPrefixOf_iff_prefix.mp front)

end Settings

/-! ## Variables -/

namespace Environment

/-- An environment as a system has it. -/
structure WellFormed (env : Environment) : Prop where
  distinct : Settings.Distinct env
  clean : ∀ e ∈ env, '=' ∉ e.1.toList

/-- What is assigned to is not set, or holds a text. -/
def Covers (env : Environment) (pairs : List (String × String)) : Prop :=
  ∀ p ∈ pairs, ∀ raw, env.lookup p.1 = some raw → (Utf8.text? raw).isSome

/-- An environment to which was added what it lacks of some assignments. -/
structure Extends (env : Environment) (pairs : List (String × String)) (all : Environment) :
    Prop where
  formed : all.WellFormed
  lookup : ∀ name, all.lookup name =
    (env.lookup name).or ((pairs.lookup name).map Bytes.ofString)
  members : ∀ e ∈ all, e ∈ env ∨ ∃ p ∈ pairs, e = (p.1, Bytes.ofString p.2)

end Environment

namespace Settings.Backend

/-- The settings that variables are: one entry for each key that a variable sets, with the value of
such a variable. -/
structure Enters (b : Backend) (rules : VariableRules) (env : Environment) (source : Fields) :
    Prop where
  distinct : Distinct source
  values : ∀ e ∈ source, ∃ v ∈ env, rules.key? v.1 = some e.1 ∧
    ∃ text, Utf8.text? v.2 = some text ∧ e.2 = b.ofVariable text
  keys : ∀ v ∈ env, ∀ key, rules.key? v.1 = some key → ∃ value, (key, value) ∈ source

/-! ## Laws -/

/-- What may be relied on in whatever settings are read with. -/
structure Lawful (b : Backend) : Prop where
  /-- What is set stays, and what is not is set by the first line that assigns to it. -/
  supply : ∀ {w : World} {env : Environment} {pairs : List (String × String)},
    b.assignments w env = some pairs → env.WellFormed → env.Covers pairs →
    ∃ all, b.supply w env = .ok all ∧ env.Extends pairs all
  /-- In no table of a file a name stands twice. -/
  readFile : ∀ {w : World} {name : Bytes} {isAskedFor : Bool} {source : Fields},
    b.readFile w name isAskedFor = .ok source →
    ∀ way v, (Value.table none source).at? way = some v → Distinct v.fields
  /-- A variable sets one value. -/
  ofVariable : ∀ text, ¬ (b.ofVariable text).IsTable
  readVariables : ∀ (rules : VariableRules) {env : Environment}, Distinct env →
    (∀ e ∈ env, (Utf8.text? e.2).isSome) →
    ∃ source, b.readVariables rules env = .ok source ∧ b.Enters rules env source
  /-- An environment that is not text altogether cannot be read at all. -/
  readVariables_error : ∀ (rules : VariableRules) {env : Environment} {e : String × Bytes},
    e ∈ env → Utf8.text? e.2 = none → b.readVariables rules env = .error .breakdown
  build : ∀ {defaults : Fields} {sources : List Fields},
    (∀ source ∈ defaults :: sources, ∀ e ∈ source, Spelled e.1) →
    ∃ root, b.build defaults sources = .ok root
  /-- At the end of a way is what the last source says that tells anything about it. -/
  at?_build : ∀ {defaults : Fields} {sources : List Fields} {root : Value} {way : List String},
    b.build defaults sources = .ok root → way ≠ [] →
    (∀ source ∈ defaults :: sources, Clear way source) →
    root.at? way = (defaults :: sources).reverse.findSome? (tells? way)

/-- How texts in variables are read, and how scalars are written as texts: a text that is a truth
word, in whatever case, stands for a truth value, and otherwise one that is an integer of 64 bits or
a number stands for that. -/
structure Converts (b : Backend) : Prop where
  word : ∀ {text : String} (truth : Bool), Text.lowerCase text = toString truth →
    ∃ origin, b.ofVariable text = .scalar origin (.bool truth)
  integer : ∀ {text : String} {n : Int}, Text.lowerCase text ∉ ["true", "false"] →
    Decimal.readInt64 10 text.toList = some n →
    ∃ origin, b.ofVariable text = .scalar origin (.integer n)
  number : ∀ {text : String} {x : Binary64}, Text.lowerCase text ∉ ["true", "false"] →
    Decimal.readInt64 10 text.toList = none → Binary64.read text.toList = some x →
    ∃ origin, b.ofVariable text = .scalar origin (.number x)
  text : ∀ {text : String}, Text.lowerCase text ∉ ["true", "false"] →
    Decimal.readInt64 10 text.toList = none → Binary64.read text.toList = none →
    ∃ origin, b.ofVariable text = .scalar origin (.text text)
  bool_text : ∀ origin truth, b.toText (.scalar origin (.bool truth)) = .ok (toString truth)
  integer_text : ∀ origin n, b.toText (.scalar origin (.integer n)) = .ok (toString n)
  number_text : ∀ origin x, b.toText (.scalar origin (.number x)) = .ok x.text
  text_text : ∀ origin s, b.toText (.scalar origin (.text s)) = .ok s

end Settings.Backend
end Ancestry
