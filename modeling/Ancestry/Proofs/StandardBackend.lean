import Ancestry.Proofs.PlacedValues
import Ancestry.Proofs.SuppliedVariables
import Ancestry.Settings.Standard

/-!
# The backend of the program is lawful

Files, variables and trees of values, as the program meets them when it runs, keep the laws that are
relied on. What the file of settings gives was read node by node, so no name stands twice in any of
its tables; the variables are entered one after the other, each under its key.
-/
namespace Ancestry.Settings

/-! ## The file -/

/-- Values of a file, each under its own name. -/
def ReadFrom (file : String) (fs : Fields) : Prop :=
  Distinct fs ∧ ∀ e ∈ fs, ∃ n, valueOf file n = .ok e.2

theorem readFrom_nil (file : String) : ReadFrom file [] := ⟨.nil, nofun⟩

/-- Reading goes on behind the first entry only with its value under a name. -/
theorem exists_of_fieldsOf_cons {file : String} {done fs : Fields} {name n : Yaml.Node}
    {rest : List (Yaml.Node × Yaml.Node)}
    (read : fieldsOf file done ((name, n) :: rest) = .ok fs) :
    ∃ key v, valueOf file n = .ok v ∧
      fieldsOf file (Value.setField key v done) rest = .ok fs := by
  cases name with
  | text name =>
    rw [fieldsOf, bind_eq_ok_iff] at read
    exact ⟨name, read⟩
  | integer name =>
    rw [fieldsOf, bind_eq_ok_iff] at read
    exact ⟨toString name, read⟩
  | null | void | bool | real | sequence | mapping => simp [fieldsOf] at read

theorem readFrom_fieldsOf {file : String} {entries : List (Yaml.Node × Yaml.Node)}
    {done fs : Fields} (read : fieldsOf file done entries = .ok fs)
    (before : ReadFrom file done) : ReadFrom file fs := by
  induction entries generalizing done with
  | nil =>
    rw [fieldsOf] at read
    cases read
    exact before
  | cons entry rest ih =>
    obtain ⟨key, v, value, later⟩ := exists_of_fieldsOf_cons read
    refine ih later ⟨distinct_setField before.1 key v, fun e member => ?_⟩
    rcases mem_setField member with rfl | old
    · exact ⟨_, value⟩
    · exact before.2 e old

theorem readFrom_valueOf {file : String} {n : Yaml.Node} {v : Value}
    (read : valueOf file n = .ok v) : ReadFrom file v.fields := by
  cases n with
  | mapping entries =>
    rw [valueOf, map_eq_ok_iff] at read
    obtain ⟨fields, inside, rfl⟩ := read
    exact readFrom_fieldsOf inside (readFrom_nil file)
  | sequence items =>
    rw [valueOf, map_eq_ok_iff] at read
    obtain ⟨_, -, rfl⟩ := read
    exact readFrom_nil file
  | real s =>
    rw [valueOf] at read
    split at read <;> cases read
    exact readFrom_nil file
  | null | void | bool | integer | text =>
    rw [valueOf] at read
    cases read
    exact readFrom_nil file

/-- What was read from a file was so at any depth. -/
theorem readFrom_at? {file : String} {way : List String} {u v : Value}
    (whole : ReadFrom file u.fields) (found : u.at? way = some v) : ReadFrom file v.fields := by
  induction way generalizing u with
  | nil =>
    obtain rfl := Option.some.inj found
    exact whole
  | cons name way ih =>
    obtain ⟨w, under, further⟩ := Option.bind_eq_some_iff.mp found
    obtain ⟨n, read⟩ := whole.2 _ (mem_of_lookup under)
    exact ih (readFrom_valueOf read) further

theorem readFrom_readText {file : String} {text : List Char} {fs : Fields}
    (read : readText file text = .ok fs) : ReadFrom file fs := by
  unfold readText at read
  split at read
  case h_1 => cases read
  case h_2 documents _ =>
    obtain ⟨root, made, same⟩ := bind_eq_ok_iff.mp read
    cases documents with
    | nil =>
      cases made
      cases same
      exact readFrom_nil file
    | cons n others =>
      cases others with
      | cons => cases made
      | nil =>
        cases root with
        | scalar | list => cases same
        | table origin fields =>
          cases same
          exact readFrom_valueOf made

theorem exists_readFrom {w : World} {name : Bytes} {isAskedFor : Bool} {fs : Fields}
    (read : readFile w name isAskedFor = .ok fs) : ∃ file, ReadFrom file fs := by
  have gaveUp {fault : Fault} (up : (if isAskedFor then .error fault else .ok []) = Except.ok fs) :
      ∃ file, ReadFrom file fs := by
    split at up
    · cases up
    · cases up
      exact ⟨"", readFrom_nil ""⟩
  unfold readFile at read
  dsimp only at read
  split at read
  case h_1 => exact gaveUp read
  case h_2 =>
    split at read
    case h_1 => exact gaveUp read
    case h_2 => exact ⟨_, readFrom_readText read⟩

/-! ## The variables -/

theorem not_isTable_variableValue (text : String) : ¬ (variableValue text).IsTable := nofun

theorem exists_textVariables {env : Environment} (texts : ∀ e ∈ env, (Utf8.text? e.2).isSome) :
    ∃ all, textVariables env = .ok all ∧
      (∀ p ∈ all, ∃ v ∈ env, v.1 = p.1 ∧ Utf8.text? v.2 = some p.2) ∧
      ∀ v ∈ env, ∃ p ∈ all, p.1 = v.1 := by
  induction env with
  | nil => exact ⟨[], rfl, nofun, nofun⟩
  | cons v rest ih =>
    obtain ⟨first, later⟩ := List.forall_mem_cons.mp texts
    obtain ⟨text, isText⟩ := Option.isSome_iff_exists.mp first
    obtain ⟨all, rests, origins, entered⟩ := ih later
    refine ⟨(v.1, text) :: all, ?_, ?_, ?_⟩
    · rw [textVariables, isText, rests]
      rfl
    · refine List.forall_mem_cons.mpr ⟨⟨v, List.mem_cons_self, rfl, isText⟩, fun p member => ?_⟩
      obtain ⟨u, there, same⟩ := origins p member
      exact ⟨u, List.mem_cons_of_mem _ there, same⟩
    · refine List.forall_mem_cons.mpr ⟨⟨_, List.mem_cons_self, rfl⟩, fun u member => ?_⟩
      obtain ⟨p, there, same⟩ := entered u member
      exact ⟨p, List.mem_cons_of_mem _ there, same⟩

theorem textVariables_eq_error {env : Environment} {e : String × Bytes} (member : e ∈ env)
    (none : Utf8.text? e.2 = none) : textVariables env = .error .breakdown := by
  induction env with
  | nil => cases member
  | cons first rest ih =>
    obtain ⟨name, raw⟩ := first
    rw [textVariables]
    cases read : Utf8.text? raw with
    | none => rfl
    | some text =>
      rcases List.mem_cons.mp member with rfl | later
      · cases read.symm.trans none
      · rw [ih later]
        rfl

theorem mem_setField_self (name : String) (v : Value) (fs : Fields) :
    (name, v) ∈ Value.setField name v fs :=
  mem_of_lookup (Value.lookup_setField_self name v fs)

/-- A name that was there is still there after another was set. -/
theorem exists_mem_setField {name key : String} {v w : Value} {fs : Fields}
    (member : (key, w) ∈ fs) : ∃ u, (key, u) ∈ Value.setField name v fs := by
  have there : key ∈ (Value.setField name v fs).map Prod.fst := by
    rw [names_setField]
    have old : key ∈ fs.map Prod.fst := List.mem_map_of_mem member
    split
    · exact old
    · exact List.mem_append_left _ old
  obtain ⟨⟨other, u⟩, inside, rfl⟩ := List.mem_map.mp there
  exact ⟨u, inside⟩

section Enter
variable {rules : VariableRules} {all : List (String × String)} {done : Fields}

theorem distinct_foldl_enter (distinct : Distinct done) :
    Distinct (all.foldl (enter rules) done) := by
  induction all generalizing done with
  | nil => exact distinct
  | cons p rest ih =>
    refine ih ?_
    unfold enter
    split
    · exact distinct_setField distinct _ _
    · exact distinct

/-- An entry was there before, or a variable brought it. -/
theorem mem_foldl_enter {e : String × Value} (member : e ∈ all.foldl (enter rules) done) :
    e ∈ done ∨ ∃ p ∈ all, rules.key? p.1 = some e.1 ∧ e.2 = variableValue p.2 := by
  induction all generalizing done with
  | nil => exact .inl member
  | cons p rest ih =>
    rcases ih member with early | ⟨q, later, brought⟩
    · unfold enter at early
      split at early
      case h_1 key sets =>
        rcases mem_setField early with rfl | old
        · exact .inr ⟨p, List.mem_cons_self, sets, rfl⟩
        · exact .inl old
      case h_2 => exact .inl early
    · exact .inr ⟨q, List.mem_cons_of_mem _ later, brought⟩

theorem exists_mem_foldl_enter_of_mem {key : String} {v : Value} (member : (key, v) ∈ done) :
    ∃ u, (key, u) ∈ all.foldl (enter rules) done := by
  induction all generalizing done v with
  | nil => exact ⟨v, member⟩
  | cons p rest ih =>
    rw [List.foldl_cons, enter]
    split
    · obtain ⟨u, kept⟩ := exists_mem_setField member
      exact ih kept
    · exact ih member

/-- Each variable that is a setting has an entry in the end. -/
theorem exists_mem_foldl_enter {p : String × String} {key : String} (member : p ∈ all)
    (sets : rules.key? p.1 = some key) (done : Fields) :
    ∃ u, (key, u) ∈ all.foldl (enter rules) done := by
  induction all generalizing done with
  | nil => cases member
  | cons first rest ih =>
    rcases List.mem_cons.mp member with rfl | later
    · have entered : enter rules done p = Value.setField key (variableValue p.2) done := by
        rw [enter, sets]
      rw [List.foldl_cons, entered]
      exact exists_mem_foldl_enter_of_mem (mem_setField_self _ _ _)
    · exact ih later _

end Enter

theorem exists_ofEnvironment (rules : VariableRules) {env : Environment}
    (texts : ∀ e ∈ env, (Utf8.text? e.2).isSome) :
    ∃ source, ofEnvironment rules env = .ok source ∧ Backend.standard.Enters rules env source := by
  obtain ⟨all, read, origins, entered⟩ := exists_textVariables texts
  refine ⟨all.foldl (enter rules) [], by rw [ofEnvironment, read]; rfl, ?_, ?_, ?_⟩
  · exact distinct_foldl_enter .nil
  · intro e member
    obtain ⟨p, there, sets, value⟩ := (mem_foldl_enter member).resolve_left nofun
    obtain ⟨v, inside, name, text⟩ := origins p there
    exact ⟨v, inside, name ▸ sets, p.2, text, value⟩
  · intro v member key sets
    obtain ⟨p, there, name⟩ := entered v member
    exact exists_mem_foldl_enter there (name.symm ▸ sets) []

/-! ## Laws -/

theorem Backend.standard_lawful : Backend.standard.Lawful where
  supply := DotEnv.exists_load
  readFile read way v found := by
    obtain ⟨file, whole⟩ := exists_readFrom read
    exact (readFrom_at? (u := .table none _) whole found).1
  ofVariable := not_isTable_variableValue
  readVariables rules _ _ := exists_ofEnvironment rules
  readVariables_error rules _ _ member none := by
    change (textVariables _).map _ = _
    rw [textVariables_eq_error member none]
    rfl
  build spelled := ⟨_, build_eq spelled⟩
  at?_build := at?_build

theorem Backend.standard_converts : Backend.standard.Converts where
  word truth same := by
    refine ⟨some environmentOrigin, ?_⟩
    change variableValue _ = _
    rw [variableValue, Scalar.ofText, same]
    cases truth <;> rfl
  integer other read := by
    refine ⟨some environmentOrigin, ?_⟩
    change variableValue _ = _
    simp only [List.mem_cons, List.not_mem_nil, or_false, not_or] at other
    simp only [variableValue, Scalar.ofText, other, if_false, read]
  number other none read := by
    refine ⟨some environmentOrigin, ?_⟩
    change variableValue _ = _
    simp only [List.mem_cons, List.not_mem_nil, or_false, not_or] at other
    simp only [variableValue, Scalar.ofText, other, if_false, none, read]
  text other none noNumber := by
    refine ⟨some environmentOrigin, ?_⟩
    change variableValue _ = _
    simp only [List.mem_cons, List.not_mem_nil, or_false, not_or] at other
    simp only [variableValue, Scalar.ofText, other, if_false, none, noNumber]
  bool_text _ _ := rfl
  integer_text _ _ := rfl
  number_text _ _ := rfl
  text_text _ _ := rfl

end Ancestry.Settings
