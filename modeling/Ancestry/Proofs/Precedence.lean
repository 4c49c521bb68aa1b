import Ancestry.Proofs.CombinedSources
import Ancestry.Proofs.StandardBackend
import Ancestry.System.Scene

/-!
# Who decides a setting

Each setting is decided on its own: by its variable if that is set, in the environment or by the
file of variables, else by the file of settings if that tells it, and else by what is set where
nobody sets it. Only the value that decides is converted, and the settings can be loaded exactly if
all four that decide can be. So a value that another goes over may change without any effect, and
what is told about one setting has no effect on the others. This holds with whatever the settings
are read, as long as it is lawful.
-/
namespace Ancestry.Settings

/-- Where the settings of a run come from. -/
structure Sources where
  environment : Environment
  /-- The assignments of the file of variables, in order. -/
  supplied : List (String × String)
  /-- The fields of the file of settings. -/
  fields : Fields

variable {b : Backend}

namespace Sources

/-- What the variable of a setting holds. -/
def given (s : Sources) (f : Field) : Option Bytes :=
  (s.environment.lookup f.variableName).or ((s.supplied.lookup f.variableName).map Bytes.ofString)

/-- What the file of settings tells about a setting. -/
def told (s : Sources) (f : Field) : Option Value := f.get? (.table none s.fields)

/-- What a variable says; if it holds no text, the program breaks down. -/
def said (b : Backend) (raw : Bytes) : Except Fault Value :=
  match Utf8.text? raw with
  | some text => .ok (b.ofVariable text)
  | none => .error .breakdown

/-- The value that decides a setting. -/
def winner (b : Backend) (s : Sources) (f : Field) : Except Fault (Option Value) :=
  match s.given f with
  | some raw => (said b raw).map some
  | none => .ok ((s.told f).or f.fallback)

/-- The setting as it is decided. -/
def decided (b : Backend) (s : Sources) (f : Field) : Except Fault Setting :=
  s.winner b f >>= f.convert b

/-- A run meets these sources. -/
structure Of (b : Backend) (s : Sources) (w : World) (file : Option Bytes) : Prop where
  supplied : b.assignments w s.environment = some s.supplied
  fields : b.readFile w (Bytes.ofString ((file.map Utf8.lossy).getD defaultFile)) file.isSome =
    .ok s.fields

/-- Sources that tell the settings one by one: variables that are not about one of them are not
about any, the file has plain names, and what it tells about a setting is no table. -/
structure Orderly (s : Sources) : Prop where
  formed : s.environment.WellFormed
  covers : s.environment.Covers s.supplied
  others : ∀ e ∈ s.environment, (∃ f : Field, e.1 = f.variableName) ∨
    IsForeign e.1 ∧ (Utf8.text? e.2).isSome
  suppliedOthers : ∀ p ∈ s.supplied, (∃ f : Field, p.1 = f.variableName) ∨ IsForeign p.1
  plain : ∀ e ∈ s.fields, IsPlain e.1
  preload : ∀ v, s.fields.lookup "preload" = some v →
    v.IsTable ∧ ∀ e ∈ v.fields, Text.lowerCase e.1 = e.1
  single : ∀ f v, s.told f = some v → ¬ v.IsTable

end Sources

/-! ## Loading -/

/-- What is handed on once the settings are made. -/
def announced (s : Settings) : Settings × List Record :=
  (s, [⟨.debug, "pidtrack::settings", s!"Parsed settings: {s.describe}"⟩])

namespace Sources
variable {s : Sources} {w : World} {file : Option Bytes}

/-- What the file tells, it tells setting by setting. -/
theorem Of.sound (lawful : b.Lawful) (of : s.Of b w file) (orderly : s.Orderly) :
    Sound s.fields where
  distinct := lawful.readFile of.fields [] _ rfl
  plain := orderly.plain
  preload := by
    intro part found
    obtain ⟨table, lower⟩ := orderly.preload part found
    refine ⟨table, lawful.readFile of.fields ["preload"] part ?_, lower⟩
    rw [at?_single]
    exact found
  single := orderly.single

theorem exists_text_of_winner {f : Field} {raw : Bytes} {v : Option Value}
    (given : s.given f = some raw) (decides : s.winner b f = .ok v) :
    ∃ text, Utf8.text? raw = some text ∧ v = some (b.ofVariable text) := by
  rw [winner, given] at decides
  obtain ⟨value, told, rfl⟩ := map_eq_ok_iff.mp decides
  unfold said at told
  split at told
  case h_1 text read =>
    cases told
    exact ⟨text, read, rfl⟩
  case h_2 => cases told

theorem given_of_winner_error {f : Field} {fault : Fault} (fails : s.winner b f = .error fault) :
    ∃ raw, s.given f = some raw ∧ Utf8.text? raw = none := by
  rw [winner] at fails
  cases given : s.given f with
  | none => rw [given] at fails; cases fails
  | some raw =>
    refine ⟨raw, rfl, ?_⟩
    cases read : Utf8.text? raw with
    | none => rfl
    | some text =>
      rw [given] at fails
      change (said b raw).map some = _ at fails
      rw [said, read] at fails
      cases fails

/-- The variables of a run, as they are after the file of variables was read. -/
theorem exists_variables (lawful : b.Lawful) (of : s.Of b w file) (orderly : s.Orderly) :
    ∃ all, b.supply w s.environment = .ok all ∧ Distinct all ∧
      (∀ f : Field, all.lookup f.variableName = s.given f) ∧
      ∀ e ∈ all, (∃ f : Field, e.1 = f.variableName) ∨
        IsForeign e.1 ∧ (Utf8.text? e.2).isSome := by
  obtain ⟨all, loaded, extension⟩ := lawful.supply of.supplied orderly.formed orderly.covers
  refine ⟨all, loaded, extension.formed.distinct, fun f => extension.lookup _, fun e member => ?_⟩
  rcases extension.members e member with old | ⟨p, added, rfl⟩
  · exact orderly.others e old
  · refine (orderly.suppliedOthers p added).imp_right fun foreign => ⟨foreign, ?_⟩
    rw [Utf8.text?_ofString]
    rfl

/-- Loading goes from the variables to the settings once the file is read. -/
theorem load_of_environment {all : Environment} (of : s.Of b w file)
    (loaded : b.supply w s.environment = .ok all) :
    load b w s.environment file =
      (b.readVariables variableRules all >>= fun entries =>
        b.build defaults [s.fields, entries] >>= ofValue b).map announced := by
  rw [load, loaded]
  change b.readFile _ _ _ >>= _ = _
  rw [of.fields]
  change b.readVariables variableRules all >>= _ = _
  cases b.readVariables variableRules all with
  | error => rfl
  | ok entries =>
    change b.build defaults [s.fields, entries] >>= _ =
      (b.build defaults [s.fields, entries] >>= ofValue b).map announced
    cases b.build defaults [s.fields, entries] with
    | error => rfl
    | ok root =>
      change ofValue b root >>= _ = (ofValue b root).map announced
      cases ofValue b root <;> rfl

/-- Where every variable that decides holds a text, the values that decide are read out. -/
theorem load_eq {v : Field → Option Value} (lawful : b.Lawful) (of : s.Of b w file)
    (orderly : s.Orderly) (decides : ∀ f, s.winner b f = .ok (v f)) :
    load b w s.environment file = (resolve b v).map announced := by
  obtain ⟨all, loaded, distinct, given, fits⟩ := exists_variables lawful of orderly
  have texts : ∀ e ∈ all, (Utf8.text? e.2).isSome := by
    intro e member
    rcases fits e member with ⟨f, own⟩ | ⟨-, text⟩
    · have held : s.given f = some e.2 := by
        rw [← given, ← own]
        exact distinct.lookup_of_mem member
      obtain ⟨text, read, -⟩ := exists_text_of_winner held (decides f)
      rw [read]
      rfl
    · exact text
  obtain ⟨entries, entered, single, entry⟩ := exists_entries lawful distinct
    (fun e member => (fits e member).imp_right And.left) texts
  obtain ⟨root, built, get⟩ := exists_root lawful (of.sound lawful orderly) single
  have values : (fun f => Field.get? f root) = v := by
    funext f
    rw [get, entry, given]
    have winner := decides f
    cases held : s.given f with
    | some raw =>
      obtain ⟨text, read, same⟩ := exists_text_of_winner held winner
      rw [same, Option.bind_some, read]
      rfl
    | none =>
      rw [Sources.winner, held] at winner
      exact Except.ok.inj winner
  -- Nobody needs to set the library, which has a fallback.
  have library : ∃ path, Field.get? .library root = some path := by
    rw [get]
    exact Option.isSome_iff_exists.mp (by simp [Field.fallback])
  obtain ⟨path, library⟩ := library
  rw [load_of_environment of loaded, entered]
  change (b.build defaults [s.fields, entries] >>= ofValue b).map announced = _
  rw [built, ← values, ← ofValue_eq library]
  rfl

theorem load_eq_breakdown {f : Field} {fault : Fault} (lawful : b.Lawful) (of : s.Of b w file)
    (orderly : s.Orderly) (fails : s.winner b f = .error fault) :
    load b w s.environment file = .error .breakdown := by
  obtain ⟨all, loaded, -, given, -⟩ := exists_variables lawful of orderly
  obtain ⟨raw, held, none⟩ := given_of_winner_error fails
  rw [← given] at held
  rw [load_of_environment of loaded,
    lawful.readVariables_error variableRules (mem_of_lookup held) none]
  rfl

/-- Two runs in which a setting has the same variable, or no variable and the same in the file. -/
def Agree (s s' : Sources) (f : Field) : Prop :=
  s.given f = s'.given f ∧ (s.given f = none → s.told f = s'.told f)

theorem Agree.winner {s' : Sources} {f : Field} (agree : Agree s s' f) (b : Backend) :
    s.winner b f = s'.winner b f := by
  obtain ⟨given, told⟩ := agree
  rw [Sources.winner, Sources.winner, ← given]
  cases held : s.given f with
  | some raw => rfl
  | none => rw [told held]

/-- Either all that decides is known, or the run breaks down. -/
theorem decides_or_breakdown (lawful : b.Lawful) (of : s.Of b w file) (orderly : s.Orderly) :
    (∃ v, (∀ f, s.winner b f = .ok (v f)) ∧
      load b w s.environment file = (resolve b v).map announced) ∨
    (∃ f fault, s.winner b f = .error fault) ∧
      load b w s.environment file = .error .breakdown := by
  by_cases all : ∀ f, ∃ v, s.winner b f = .ok v
  · obtain ⟨v, decides⟩ := Classical.skolem.mp all
    exact .inl ⟨v, decides, load_eq lawful of orderly decides⟩
  · obtain ⟨f, undecided⟩ := Classical.not_forall.mp all
    cases fails : s.winner b f with
    | ok v => exact absurd ⟨v, fails⟩ undecided
    | error fault => exact .inr ⟨⟨f, fault, fails⟩, load_eq_breakdown lawful of orderly fails⟩

theorem decided_eq {v : Field → Option Value} (decides : ∀ f, s.winner b f = .ok (v f))
    (f : Field) : s.decided b f = f.convert b (v f) := by
  rw [decided, decides f]
  rfl

theorem decided_ne_ok {f : Field} {fault : Fault} (fails : s.winner b f = .error fault)
    (value : Setting) : s.decided b f ≠ .ok value := by
  rw [decided, fails]
  intro made
  cases made

/-- What the settings come to if they can be loaded. -/
theorem load_eq_ok_iff (lawful : b.Lawful) (of : s.Of b w file) (orderly : s.Orderly)
    (settings : Settings) :
    (∃ records, load b w s.environment file = .ok (settings, records)) ↔
      ∀ f, s.decided b f = .ok (f.of settings) := by
  rcases decides_or_breakdown lawful of orderly with
    ⟨v, decides, loaded⟩ | ⟨⟨f, fault, fails⟩, loaded⟩
  · simp only [decided_eq decides, ← resolve_eq_ok, loaded, map_eq_ok_iff]
    constructor
    · rintro ⟨records, made, resolved, same⟩
      cases same
      exact resolved
    · exact fun resolved => ⟨_, settings, resolved, rfl⟩
  · constructor
    · rintro ⟨records, made⟩
      cases loaded.symm.trans made
    · exact fun all => absurd (all f) (decided_ne_ok fails _)

theorem exists_load_iff (lawful : b.Lawful) (of : s.Of b w file) (orderly : s.Orderly) :
    (∃ loaded, load b w s.environment file = .ok loaded) ↔
      ∀ f, ∃ value, s.decided b f = .ok value := by
  constructor
  · rintro ⟨⟨settings, records⟩, loaded⟩ f
    exact ⟨_, (load_eq_ok_iff lawful of orderly settings).mp ⟨records, loaded⟩ f⟩
  · intro all
    rcases decides_or_breakdown lawful of orderly with
      ⟨v, decides, loaded⟩ | ⟨⟨f, fault, fails⟩, -⟩
    · simp only [decided_eq decides] at all
      obtain ⟨settings, resolved⟩ := exists_resolve all
      exact ⟨announced settings, by rw [loaded, resolved]; rfl⟩
    · obtain ⟨value, made⟩ := all f
      exact absurd made (decided_ne_ok fails value)

theorem load_congr {s' : Sources} {w' : World} {file' : Option Bytes} (lawful : b.Lawful)
    (of : s.Of b w file) (orderly : s.Orderly) (of' : s'.Of b w' file') (orderly' : s'.Orderly)
    (agree : ∀ f, Agree s s' f) :
    load b w s.environment file = load b w' s'.environment file' := by
  rcases decides_or_breakdown lawful of orderly with
    ⟨v, decides, loaded⟩ | ⟨⟨f, fault, fails⟩, loaded⟩
  · rw [loaded, load_eq lawful of' orderly' fun f => (agree f).winner b ▸ decides f]
  · rw [loaded, load_eq_breakdown lawful of' orderly' ((agree f).winner b ▸ fails)]

end Sources

/-- Each setting is decided on its own, by the first source that tells it. The settings can be
loaded exactly if all that decides can be converted. Another run in which what decides is the same
ends in the same way, and one in which it is the same for one setting loads the same for this. -/
theorem load_by_precedence (lawful : b.Lawful) {s : Sources} {w : World} {file : Option Bytes}
    (of : s.Of b w file) (orderly : s.Orderly) :
    (∀ settings, (∃ records, load b w s.environment file = .ok (settings, records)) ↔
      ∀ f, s.decided b f = .ok (f.of settings)) ∧
    ((∃ loaded, load b w s.environment file = .ok loaded) ↔
      ∀ f, ∃ value, s.decided b f = .ok value) ∧
    ∀ (s' : Sources) (w' : World) (file' : Option Bytes), s'.Of b w' file' → s'.Orderly →
      ((∀ f, Sources.Agree s s' f) →
        load b w s.environment file = load b w' s'.environment file') ∧
      ∀ f settings settings' records records', Sources.Agree s s' f →
        load b w s.environment file = .ok (settings, records) →
        load b w' s'.environment file' = .ok (settings', records') →
        f.of settings = f.of settings' := by
  refine ⟨Sources.load_eq_ok_iff lawful of orderly, Sources.exists_load_iff lawful of orderly,
    fun s' w' file' of' orderly' => ⟨Sources.load_congr lawful of orderly of' orderly', ?_⟩⟩
  intro f settings settings' records records' agree loaded loaded'
  have here := (Sources.load_eq_ok_iff lawful of orderly settings).mp ⟨records, loaded⟩ f
  have there := (Sources.load_eq_ok_iff lawful of' orderly' settings').mp ⟨records', loaded'⟩ f
  rw [Sources.decided, agree.winner] at here
  exact Except.ok.inj (here.symm.trans there)

/-! ## A run in which every source tells something -/

/-- A world with a file of settings and a file of variables. -/
def toldWorld : World :=
  let settings := "enable_log: false\npreload:\n  library: /lib/c.so\n  preload_file: /tmp/list\n"
  let assignments := "PIDTRACK_ENABLE_LOG=yes\nPIDTRACK_PRELOAD__LIBRARY=/lib/b.so\n"
  { World.bare with
    files := (World.bare.files.set (World.place "/etc/pidtrack.yaml")
      (.file 0o644 (Bytes.ofString settings))).set (World.place "/tmp/work/.env")
        (.file 0o644 (Bytes.ofString assignments)) }

def toldSources : Sources where
  environment := [("PATH", Bytes.ofString "/bin"),
    ("PIDTRACK_PRELOAD__LIBRARY", Bytes.ofString "/lib/a.so")]
  supplied := [("PIDTRACK_ENABLE_LOG", "yes"), ("PIDTRACK_PRELOAD__LIBRARY", "/lib/b.so")]
  fields := (readFile toldWorld (Bytes.ofString defaultFile) false).toOption.getD []

/-- What comes of it. -/
def toldSettings : Settings :=
  ⟨some true, none, Bytes.ofString "/lib/a.so", Bytes.ofString "/tmp/list"⟩

theorem toldSources_of : toldSources.Of .standard toldWorld none where
  supplied := by decide +kernel
  fields := by
    have read : (readFile toldWorld (Bytes.ofString defaultFile) false).isOk := by decide +kernel
    change readFile toldWorld (Bytes.ofString defaultFile) false = .ok (Option.getD _ [])
    cases result : readFile toldWorld (Bytes.ofString defaultFile) false with
    | error => rw [result] at read; cases read
    | ok fields => rfl

theorem toldSources_orderly : toldSources.Orderly where
  formed := ⟨by rw [Distinct]; decide +kernel, by decide +kernel⟩
  covers := by
    have texts : ∀ e ∈ toldSources.environment, (Utf8.text? e.2).isSome := by decide +kernel
    exact fun p _ raw found => texts (p.1, raw) (mem_of_lookup found)
  others := by
    have unrelated : variableRules.key? "PATH" = none := by decide +kernel
    refine List.forall_mem_cons.mpr ⟨.inr ⟨fun key set => ?_, by decide +kernel⟩, ?_⟩
    · cases unrelated.symm.trans set
    · exact List.forall_mem_singleton.mpr (.inl ⟨.library, rfl⟩)
  suppliedOthers := List.forall_mem_cons.mpr
    ⟨.inl ⟨.enableLog, rfl⟩, List.forall_mem_singleton.mpr (.inl ⟨.library, rfl⟩)⟩
  plain := by
    have plain : ∀ e ∈ toldSources.fields,
        Text.lowerCase e.1 = e.1 ∧ '.' ∉ e.1.toList ∧ '[' ∉ e.1.toList := by decide +kernel
    intro e member
    obtain ⟨lower, noPoint, noBracket⟩ := plain e member
    exact ⟨lower, noPoint, noBracket⟩
  preload := by
    change ∀ v ∈ toldSources.fields.lookup "preload",
      v.IsTable ∧ ∀ e ∈ v.fields, Text.lowerCase e.1 = e.1
    decide +kernel
  single := by
    intro f
    change ∀ v ∈ toldSources.told f, ¬ v.IsTable
    cases f <;> decide +kernel

theorem toldSources_decided (f : Field) :
    toldSources.decided .standard f = .ok (f.of toldSettings) := by
  have converted : (toldSources.decided .standard f).toOption = some (f.of toldSettings) := by
    cases f <;> decide +kernel
  cases decided : toldSources.decided .standard f with
  | error => rw [decided] at converted; cases converted
  | ok value =>
    rw [decided] at converted
    exact congrArg Except.ok (Option.some.inj converted)

/-- The file of variables switches the log on although the file of settings does not, the
environment names the library although both files do, and the list is named by the file of settings
alone. -/
theorem load_by_precedence_toldSources :
    Backend.standard.Lawful ∧ toldSources.Of .standard toldWorld none ∧ toldSources.Orderly ∧
      ∃ records, load .standard toldWorld toldSources.environment none =
        .ok (toldSettings, records) :=
  ⟨Backend.standard_lawful, toldSources_of, toldSources_orderly,
    ((load_by_precedence Backend.standard_lawful toldSources_of toldSources_orderly).1
      toldSettings).mpr toldSources_decided⟩

end Ancestry.Settings
