import Ancestry.Proofs.BackendLaws
import Ancestry.Settings.Loading

/-!
# Settings in a source

The settings stand at the ends of four ways, none of which goes on where another ends. A source
that has each of them under its own key, and otherwise only keys that lead elsewhere, says clearly
what it says about a setting: what stands under the key. So does a file that has them in tables, as
long as what it tells about a setting is no table itself.
-/
namespace Ancestry.Settings

/-- The settings that are told one by one. -/
inductive Field
  | enableLog
  | install
  | library
  | preloadFile
  deriving Repr, DecidableEq

namespace Field

def variableName : Field → String
  | enableLog => "PIDTRACK_ENABLE_LOG"
  | install => "PIDTRACK_PRELOAD__INSTALL"
  | library => "PIDTRACK_PRELOAD__LIBRARY"
  | preloadFile => "PIDTRACK_PRELOAD__PRELOAD_FILE"

def name : Field → String
  | enableLog => "enable_log"
  | install => "install"
  | library => "library"
  | preloadFile => "preload_file"

def key : Field → String
  | enableLog => "enable_log"
  | install => "preload.install"
  | library => "preload.library"
  | preloadFile => "preload.preload_file"

/-- The way to it in a tree of values. -/
def way : Field → List String
  | enableLog => ["enable_log"]
  | install => ["preload", "install"]
  | library => ["preload", "library"]
  | preloadFile => ["preload", "preload_file"]

/-- What a tree of values tells about it. -/
def get? (f : Field) (root : Value) : Option Value := root.at? f.way

/-- What is set where nobody sets it. -/
def fallback : Field → Option Value
  | enableLog | install => none
  | library => some (.scalar none (.text defaultLibrary))
  | preloadFile => some (.scalar none (.text defaultPreloadFile))

end Field

/-- A key that has nothing to do with the settings. -/
structure IsOther (key : String) : Prop where
  spelled : Spelled key
  apart : ∀ f : Field, ¬ wayOf key <+: f.way
  beyond : ∀ f : Field, ¬ f.way <+: wayOf key

/-- The name of a variable that has nothing to do with the settings. -/
def IsForeign (name : String) : Prop := ∀ key, variableRules.key? name = some key → IsOther key

/-- Entries that tell the settings one by one. -/
structure Single (entries : Fields) : Prop where
  distinct : Distinct entries
  keys : ∀ e ∈ entries, (∃ f : Field, e.1 = f.key) ∨ IsOther e.1
  single : ∀ e ∈ entries, ¬ e.2.IsTable

/-- A table that tells the settings one by one. -/
structure Sound (fields : Fields) : Prop where
  distinct : Distinct fields
  plain : ∀ e ∈ fields, IsPlain e.1
  preload : ∀ v, fields.lookup "preload" = some v → v.IsTable ∧ Tidy v.fields
  single : ∀ (f : Field) v, f.get? (.table none fields) = some v → ¬ v.IsTable

/-! ## Ways to the settings -/

namespace Field

theorem wayOf_key (f : Field) : wayOf f.key = f.way := by
  cases f <;> decide +kernel

theorem key?_variableName (f : Field) : variableRules.key? f.variableName = some f.key := by
  cases f <;> decide +kernel

theorem isName_of_mem_way {f : Field} {name : String} (member : name ∈ f.way) : IsName name := by
  have fits : ∀ f : Field, ∀ name ∈ f.way, Text.lowerCase name = name ∧ name ≠ "" ∧
      name.toList.all isPlainChar = true := by
    intro f
    cases f <;> decide +kernel
  obtain ⟨lower, nonempty, chars⟩ := fits f name member
  exact ⟨lower, nonempty, List.all_eq_true.mp chars⟩

theorem spelled_key (f : Field) : Spelled f.key :=
  .inr fun _ member => isName_of_mem_way (f.wayOf_key ▸ member)

theorem way_ne_nil (f : Field) : f.way ≠ [] := by
  cases f <;> exact List.cons_ne_nil _ _

/-- No way goes on where another ends. -/
theorem eq_of_way_prefix {f g : Field} (front : g.way <+: f.way) : g = f := by
  have all : ∀ f g : Field, g.way.isPrefixOf f.way → g = f := by
    intro f g
    cases f <;> cases g <;> decide
  exact all f g (List.isPrefixOf_iff_prefix.mpr front)

theorem key_injective {f g : Field} (same : f.key = g.key) : f = g := by
  refine eq_of_way_prefix ⟨[], ?_⟩
  rw [List.append_nil, ← wayOf_key, same, wayOf_key]

end Field

theorem IsOther.ne_key {key : String} (other : IsOther key) (f : Field) : key ≠ f.key := by
  rintro rfl
  exact other.apart f (f.wayOf_key ▸ List.prefix_rfl)

/-! ## Entries by key -/

section Single
variable {entries : Fields} {e : String × Value} {f : Field}

theorem toldBy_single (own : (∃ g : Field, e.1 = g.key) ∨ IsOther e.1) (f : Field) :
    toldBy f.way e = if f.key = e.1 then some e.2 else none := by
  rcases own with ⟨g, own⟩ | other
  · by_cases same : f = g
    · subst same
      have told := toldBy_front f.way [] (own ▸ f.wayOf_key)
      rw [List.append_nil] at told
      rw [told, own, if_pos rfl]
      rfl
    · rw [own, if_neg fun keys => same (Field.key_injective keys), toldBy_eq_none]
      rw [own, g.wayOf_key]
      exact fun front => same (Field.eq_of_way_prefix front).symm
  · rw [toldBy_eq_none (other.apart f), if_neg (other.ne_key f).symm]

theorem Single.tells?_eq (single : Single entries) (f : Field) :
    tells? f.way entries = entries.lookup f.key := by
  have keys := single.keys
  clear single
  induction entries with
  | nil => rfl
  | cons e rest ih =>
    obtain ⟨first, later⟩ := List.forall_mem_cons.mp keys
    have others := ih later
    rw [tells?] at others ⊢
    rw [List.findSome?_cons, toldBy_single first, lookup_entry, others]
    by_cases here : f.key = e.1
    · rw [if_pos here, if_pos here]
    · rw [if_neg here, if_neg here]

theorem Single.clear (single : Single entries) (f : Field) : Clear f.way entries where
  spelled := by
    intro e member
    rcases single.keys e member with ⟨g, own⟩ | other
    · exact own ▸ g.spelled_key
    · exact other.spelled
  along := by
    intro e member rest whole
    have front : wayOf e.1 <+: f.way := ⟨rest, whole.symm⟩
    rcases single.keys e member with ⟨g, own⟩ | other
    · rw [own, g.wayOf_key] at front whole
      obtain rfl := Field.eq_of_way_prefix front
      obtain rfl : rest = [] := List.self_eq_append_right.mp whole
      exact single.single e member
    · exact absurd front (other.apart f)
  ends := by
    intro e member rest whole
    have front : f.way <+: wayOf e.1 := ⟨rest, whole.symm⟩
    rcases single.keys e member with ⟨g, own⟩ | other
    · rw [own, g.wayOf_key] at front whole
      obtain rfl := Field.eq_of_way_prefix front
      exact List.self_eq_append_right.mp whole
    · exact absurd front (other.beyond f)
  once := by
    have names := List.pairwise_map.mp single.distinct
    refine List.Pairwise.imp_of_mem (fun {e e'} here there differ => ?_) names
    rw [toldBy_single (single.keys e here), toldBy_single (single.keys e' there)]
    by_cases own : f.key = e.1
    · exact .inr (if_neg (own ▸ differ))
    · exact .inl (if_neg own)

end Single

theorem single_defaults : Single defaults where
  distinct := by
    rw [Distinct]
    decide
  keys := List.forall_mem_cons.mpr
    ⟨.inl ⟨.library, rfl⟩, List.forall_mem_singleton.mpr (.inl ⟨.preloadFile, rfl⟩)⟩
  single := List.forall_mem_cons.mpr ⟨nofun, List.forall_mem_singleton.mpr nofun⟩

theorem lookup_defaults (f : Field) : defaults.lookup f.key = f.fallback := by
  cases f <;> rfl

/-! ## Tables -/

section Sound
variable {fields : Fields} {name : String} {way : List String}

theorem toldBy_plain {e : String × Value} (plain : IsPlain e.1) (name : String)
    (way : List String) : toldBy (name :: way) e = if name = e.1 then e.2.at? way else none := by
  by_cases same : name = e.1
  · rw [if_pos same, same]
    exact toldBy_front [e.1] way plain.wayOf
  · rw [if_neg same, toldBy_eq_none]
    rw [plain.wayOf, List.cons_prefix_cons]
    exact fun front => same front.1.symm

/-- A table tells what it has. -/
theorem tells?_plain (distinct : Distinct fields) (plain : ∀ e ∈ fields, IsPlain e.1)
    (name : String) (way : List String) :
    tells? (name :: way) fields = (Value.table none fields).at? (name :: way) := by
  change _ = (fields.lookup name).bind (Value.at? way)
  induction fields with
  | nil => rfl
  | cons e rest ih =>
    obtain ⟨once, others⟩ := distinct.of_cons
    obtain ⟨first, later⟩ := List.forall_mem_cons.mp plain
    have further := ih others later
    rw [tells?] at further ⊢
    rw [List.findSome?_cons, toldBy_plain first, lookup_entry, further]
    by_cases same : name = e.1
    · rw [if_pos same, if_pos same, same, once, Option.bind_some]
      cases e.2.at? way <;> rfl
    · rw [if_neg same, if_neg same]

theorem Sound.tells?_eq (sound : Sound fields) (f : Field) :
    tells? f.way fields = f.get? (.table none fields) := by
  obtain ⟨name, way, whole⟩ := List.exists_cons_of_ne_nil f.way_ne_nil
  rw [Field.get?, whole, tells?_plain sound.distinct sound.plain]

/-- What is under a name in the table leads to the setting. -/
theorem Sound.along (sound : Sound fields) {f : Field} {v : Value} (whole : f.way = name :: way)
    (found : fields.lookup name = some v) : v.Along way := by
  have single (w : Value) (told : v.at? way = some w) : ¬ w.IsTable := by
    refine sound.single f w ?_
    rw [Field.get?, whole]
    change (fields.lookup name).bind (Value.at? way) = some w
    rw [found, Option.bind_some, told]
  cases f with
  | enableLog =>
    cases whole
    exact single v rfl
  | install | library | preloadFile =>
    cases whole
    obtain ⟨table, tidy⟩ := sound.preload v found
    refine ⟨table, tidy, fun u under => single u ?_⟩
    rw [Value.at?, under]
    rfl

theorem Sound.clear (sound : Sound fields) (f : Field) : Clear f.way fields where
  spelled := fun e member => .inl (sound.plain e member)
  along := by
    intro e member rest whole
    rw [(sound.plain e member).wayOf] at whole
    exact sound.along whole (sound.distinct.lookup_of_mem member)
  ends := by
    intro e member rest whole
    rw [(sound.plain e member).wayOf] at whole
    obtain ⟨name, way, begins⟩ := List.exists_cons_of_ne_nil f.way_ne_nil
    rw [begins] at whole
    exact (List.append_eq_nil_iff.mp (List.cons.inj whole).2.symm).2
  once := by
    obtain ⟨name, way, whole⟩ := List.exists_cons_of_ne_nil f.way_ne_nil
    have names := List.pairwise_map.mp sound.distinct
    refine List.Pairwise.imp_of_mem (fun {e e'} here there differ => ?_) names
    rw [whole, toldBy_plain (sound.plain e here), toldBy_plain (sound.plain e' there)]
    by_cases own : name = e.1
    · exact .inr (if_neg (own ▸ differ))
    · exact .inl (if_neg own)

end Sound

end Ancestry.Settings
