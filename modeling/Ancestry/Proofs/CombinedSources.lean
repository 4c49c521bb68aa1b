import Ancestry.Proofs.SettingFields

/-!
# What the sources make together

The tree that all sources make together tells each setting as the variables do, or else as the file
of settings, or else as what is set where nobody sets it. From there on the tree does not matter any
more: the settings are made of the four values that decide.
-/
namespace Ancestry.Settings

/-- What a setting comes to. -/
inductive Setting
  | truth (b : Option Bool)
  | path (p : Bytes)
  deriving Repr, DecidableEq

variable {b : Backend}

namespace Field

def convert (b : Backend) (f : Field) (v : Option Value) : Except Fault Setting :=
  match f with
  | enableLog | install => (optionalBool b v).map .truth
  | library | preloadFile => (requiredPath b f.name v).map .path

/-- Its value in settings. -/
def of (s : Settings) : Field → Setting
  | enableLog => .truth s.enableLog
  | install => .truth s.preload.install
  | library => .path s.preload.library
  | preloadFile => .path s.preload.preloadFile

end Field

/-! ## All sources -/

/-- The variables are entered, and each setting has what its variable says. -/
theorem exists_entries (lawful : b.Lawful) {env : Environment} (distinct : Distinct env)
    (own : ∀ e ∈ env, (∃ f : Field, e.1 = f.variableName) ∨ IsForeign e.1)
    (texts : ∀ e ∈ env, (Utf8.text? e.2).isSome) :
    ∃ entries, b.readVariables variableRules env = .ok entries ∧ Single entries ∧ ∀ f : Field,
      entries.lookup f.key =
        ((env.lookup f.variableName).bind Utf8.text?).map b.ofVariable := by
  obtain ⟨entries, read, enters⟩ := lawful.readVariables variableRules distinct texts
  have fieldOf {e : String × Bytes} (there : e ∈ env) {f : Field}
      (sets : variableRules.key? e.1 = some f.key) : e.1 = f.variableName := by
    rcases own e there with ⟨g, mine⟩ | foreign
    · rw [mine, g.key?_variableName] at sets
      rw [mine, Field.key_injective (Option.some.inj sets)]
    · exact absurd rfl ((foreign f.key sets).ne_key f)
  have single : Single entries := by
    refine ⟨enters.distinct, fun e member => ?_, fun e member => ?_⟩
    · obtain ⟨v, there, sets, -⟩ := enters.values e member
      rcases own v there with ⟨f, mine⟩ | foreign
      · rw [mine, f.key?_variableName] at sets
        exact .inl ⟨f, (Option.some.inj sets).symm⟩
      · exact .inr (foreign e.1 sets)
    · obtain ⟨-, -, -, text, -, value⟩ := enters.values e member
      exact value ▸ lawful.ofVariable text
  refine ⟨entries, read, single, fun f => ?_⟩
  cases set : env.lookup f.variableName with
  | none =>
    rw [Option.bind_none, Option.map_none]
    cases entry : entries.lookup f.key with
    | none => rfl
    | some v =>
      obtain ⟨e, there, sets, -⟩ := enters.values _ (mem_of_lookup entry)
      have found := distinct.lookup_of_mem there
      rw [fieldOf there sets] at found
      cases set.symm.trans found
  | some raw =>
    obtain ⟨v, entry⟩ := enters.keys _ (mem_of_lookup set) f.key f.key?_variableName
    obtain ⟨e, there, sets, text, isText, value⟩ := enters.values _ entry
    have found := distinct.lookup_of_mem there
    rw [fieldOf there sets, set] at found
    rw [single.distinct.lookup_of_mem entry, Option.bind_some, Option.some.inj found, isText]
    exact congrArg some value

/-- Each setting has what the environment says, or what the file tells, or what is set where
nobody sets it. -/
theorem exists_root (lawful : b.Lawful) {fields entries : Fields} (sound : Sound fields)
    (single : Single entries) :
    ∃ root, b.build defaults [fields, entries] = .ok root ∧ ∀ f : Field,
      f.get? root = ((entries.lookup f.key).or (f.get? (.table none fields))).or f.fallback := by
  have clear (f : Field) : ∀ source ∈ defaults :: [fields, entries], Clear f.way source := by
    refine List.forall_mem_cons.mpr ⟨single_defaults.clear f, ?_⟩
    exact List.forall_mem_cons.mpr
      ⟨sound.clear f, List.forall_mem_singleton.mpr (single.clear f)⟩
  obtain ⟨root, built⟩ := lawful.build fun source member =>
    (clear .enableLog source member).spelled
  refine ⟨root, built, fun f => ?_⟩
  rw [Field.get?, lawful.at?_build built f.way_ne_nil (clear f), ← single.tells?_eq,
    ← sound.tells?_eq, ← lookup_defaults, ← single_defaults.tells?_eq]
  simp only [List.reverse_cons, List.reverse_nil, List.nil_append, List.cons_append,
    List.findSome?_cons, List.findSome?_nil]
  cases tells? f.way entries <;> cases tells? f.way fields <;> cases tells? f.way defaults <;> rfl

/-! ## Steps in a part -/

theorem inPart_eq_ok_iff {α : Type} {part : String} {x : Except Fault α} {a : α} :
    inPart part x = .ok a ↔ x = .ok a := by
  cases x with
  | ok => exact Iff.rfl
  | error =>
    constructor <;>
    · intro made
      cases made

/-! ## Reading out -/

/-- The settings from the values that decide them. -/
def resolve (b : Backend) (v : Field → Option Value) : Except Fault Settings := do
  let enableLog ← inPart "enable_log" (optionalBool b (v .enableLog))
  let preload ← inPart "preload" do
    let install ← inPart "install" (optionalBool b (v .install))
    let library ← inPart "library" (requiredPath b "library" (v .library))
    let preloadFile ← inPart "preload_file" (requiredPath b "preload_file" (v .preloadFile))
    return ⟨install, library, preloadFile⟩
  return ⟨enableLog, preload⟩

theorem isTable_of_field? {v u : Value} {name : String} (found : v.field? name = some u) :
    v.IsTable := by
  cases v with
  | table origin fs => exact ⟨origin, fs, rfl⟩
  | scalar | list => cases found

theorem at?_single (name : String) (root : Value) : root.at? [name] = root.field? name :=
  Option.bind_fun_some _

theorem at?_part {root part : Value} (found : root.field? "preload" = some part) (name : String) :
    root.at? ["preload", name] = part.field? name := by
  rw [Value.at?, found, Option.bind_some, at?_single]

/-- Where the library is set there is a part that it is in, and this is a table. -/
theorem exists_part {root v : Value} (library : Field.get? .library root = some v) :
    ∃ origin fs, root.field? "preload" = some (.table origin fs) := by
  obtain ⟨part, found, inside⟩ := Option.bind_eq_some_iff.mp library
  rw [at?_single] at inside
  obtain ⟨origin, fs, rfl⟩ := isTable_of_field? inside
  exact ⟨origin, fs, found⟩

theorem ofValue_eq {root v : Value} (library : Field.get? .library root = some v) :
    ofValue b root = resolve b fun f => f.get? root := by
  obtain ⟨origin, fs, found⟩ := exists_part library
  simp only [resolve, Field.get?, Field.way, at?_single, at?_part found]
  rw [ofValue, found]
  rfl

/-- The settings are made exactly if each of them can be converted, and then they have these
values. -/
theorem resolve_eq_ok {v : Field → Option Value} {s : Settings} :
    resolve b v = .ok s ↔ ∀ f : Field, f.convert b (v f) = .ok (f.of s) := by
  simp only [resolve, bind_eq_ok_iff, inPart_eq_ok_iff]
  constructor
  · rintro ⟨e, enableLog, p, ⟨i, install, l, library, q, preloadFile, part⟩, whole⟩
    cases part
    cases whole
    intro f
    cases f with
    | enableLog => exact map_eq_ok_iff.mpr ⟨_, enableLog, rfl⟩
    | install => exact map_eq_ok_iff.mpr ⟨_, install, rfl⟩
    | library => exact map_eq_ok_iff.mpr ⟨_, library, rfl⟩
    | preloadFile => exact map_eq_ok_iff.mpr ⟨_, preloadFile, rfl⟩
  · intro all
    obtain ⟨e, enableLog, sameE⟩ := map_eq_ok_iff.mp (all .enableLog)
    obtain ⟨i, install, sameI⟩ := map_eq_ok_iff.mp (all .install)
    obtain ⟨l, library, sameL⟩ := map_eq_ok_iff.mp (all .library)
    obtain ⟨q, preloadFile, sameQ⟩ := map_eq_ok_iff.mp (all .preloadFile)
    cases sameE
    cases sameI
    cases sameL
    cases sameQ
    exact ⟨_, enableLog, _, ⟨_, install, _, library, _, preloadFile, rfl⟩, rfl⟩

theorem exists_resolve {v : Field → Option Value}
    (all : ∀ f : Field, ∃ value, f.convert b (v f) = .ok value) : ∃ s, resolve b v = .ok s := by
  obtain ⟨_, enableLog⟩ := all .enableLog
  obtain ⟨_, install⟩ := all .install
  obtain ⟨_, library⟩ := all .library
  obtain ⟨_, preloadFile⟩ := all .preloadFile
  obtain ⟨e, readE, rfl⟩ := map_eq_ok_iff.mp enableLog
  obtain ⟨i, readI, rfl⟩ := map_eq_ok_iff.mp install
  obtain ⟨l, readL, rfl⟩ := map_eq_ok_iff.mp library
  obtain ⟨q, readQ, rfl⟩ := map_eq_ok_iff.mp preloadFile
  refine ⟨⟨e, i, l, q⟩, resolve_eq_ok.mpr fun f => ?_⟩
  cases f with
  | enableLog => exact enableLog
  | install => exact install
  | library => exact library
  | preloadFile => exact preloadFile

end Ancestry.Settings
