import Ancestry.Proofs.MergedTables

/-!
# Values in their places

A key that there is one way to read puts its value at the end of a way, and makes the tables on the
way there. So each entry of a source goes to its place, in whatever order, and what is at the end of
a way afterwards is what the source tells about it, or else what was there. The same holds when what
all sources made together goes over what is set where nobody sets it.

What is there before has to have tables along the way too, and each step keeps that.
-/
namespace Ancestry.Settings

namespace Value

/-- A value in its place at the end of a way, given what was there before. -/
def placed (v : Value) : List String → Option Value → Value
  | [], before => joined before v
  | name :: way, before =>
    let t := before.getD emptyTable
    t.withField name (placed v way (t.field? name))

/-- What is under a name in what may not be there. -/
theorem field?_getD (before : Option Value) (name : String) :
    (before.getD emptyTable).field? name = before.bind (·.field? name) := by
  cases before <;> rfl

/-- What is under a name where a table came in. -/
theorem field?_joined {v : Value} (table : v.IsTable) (tidy : Tidy v.fields)
    (before : Option Value) (name : String) :
    (joined before v).field? name =
      match v.field? name with
      | some u => some (joined (before.bind (·.field? name)) u)
      | none => before.bind (·.field? name) := by
  obtain ⟨origin, fs, rfl⟩ := table
  have tidy : Tidy fs := tidy
  rw [joined, field?_merge tidy, field?_getD]
  rfl

/-! ## What is at the end of a way -/

/-- Where tables go along the way, the incoming value has what it tells and the rest stays. -/
theorem at?_joined {v : Value} {way : List String} (along : v.Along way) (before : Option Value) :
    (joined before v).at? way = (v.at? way).or (before.bind (at? way)) := by
  induction way generalizing v before with
  | nil => rw [joined_of_not_isTable along, at?, Option.some_or]
  | cons name way ih =>
    obtain ⟨table, tidy, further⟩ := along
    have behind : before.bind (at? (name :: way)) =
        (before.bind (·.field? name)).bind (at? way) := (Option.bind_assoc ..).symm
    rw [at?, at?, behind, field?_joined table tidy]
    cases found : v.field? name with
    | none => rw [Option.bind_none, Option.none_or]
    | some u => exact ih (further u found) _

theorem at?_placed_front (v : Value) (front rest : List String) (before : Option Value) :
    (placed v front before).at? (front ++ rest) =
      (joined (before.bind (at? front)) v).at? rest := by
  induction front generalizing before with
  | nil =>
    have whole : before.bind (at? []) = before := Option.bind_fun_some before
    rw [placed, List.nil_append, whole]
  | cons name front ih =>
    rw [placed, List.cons_append, at?, field?_withField, if_pos rfl, Option.bind_some, ih,
      field?_getD, Option.bind_assoc]
    rfl

theorem at?_placed_apart (v : Value) {place way : List String} (before : Option Value)
    (apart : ¬ place <+: way) (ends : ¬ way <+: place) :
    (placed v place before).at? way = before.bind (at? way) := by
  induction place generalizing way before with
  | nil => exact absurd List.nil_prefix apart
  | cons name place ih =>
    cases way with
    | nil => exact absurd List.nil_prefix ends
    | cons other way =>
      rw [placed, at?, field?_withField]
      by_cases same : other = name
      · subst same
        rw [List.prefix_cons_inj] at apart ends
        rw [if_pos rfl, Option.bind_some, ih _ apart ends, field?_getD, Option.bind_assoc]
        rfl
      · rw [if_neg same, field?_getD, Option.bind_assoc]
        rfl

/-! ## Tables along a way -/

theorem tidy_nil : Tidy [] := ⟨.nil, nofun⟩

theorem along_emptyTable (name : String) (way : List String) : emptyTable.Along (name :: way) :=
  ⟨⟨none, [], rfl⟩, tidy_nil, nofun⟩

/-- Along one more name it matters only what is under it. -/
theorem along_getD {before : Option Value} {name : String} {way : List String}
    (along : ∀ u, before = some u → u.Along (name :: way)) :
    (before.getD emptyTable).Along (name :: way) := by
  cases before with
  | none => exact along_emptyTable name way
  | some u => exact along u rfl

theorem isTable_joined {v : Value} (table : v.IsTable) {before : Option Value}
    (kept : (before.getD emptyTable).IsTable) : (joined before v).IsTable := by
  obtain ⟨origin, fs, rfl⟩ := table
  exact isTable_merge kept fs

theorem tidy_joined {v : Value} (table : v.IsTable) (tidy : Tidy v.fields) {before : Option Value}
    (kept : Tidy (before.getD emptyTable).fields) : Tidy (joined before v).fields := by
  obtain ⟨origin, fs, rfl⟩ := table
  exact tidy_merge tidy kept

theorem along_joined {v : Value} {way : List String} (along : v.Along way) {before : Option Value}
    (kept : ∀ u, before = some u → u.Along way) : (joined before v).Along way := by
  induction way generalizing v before with
  | nil => rwa [joined_of_not_isTable along]
  | cons name way ih =>
    obtain ⟨table, tidyBefore, further⟩ := along_getD kept
    obtain ⟨isTable, tidy, brought⟩ := along
    rw [field?_getD] at further
    refine ⟨isTable_joined isTable table, tidy_joined isTable tidy tidyBefore, fun u found => ?_⟩
    rw [field?_joined isTable tidy] at found
    split at found
    case h_1 w incoming =>
      obtain rfl := Option.some.inj found
      exact ih (brought w incoming) further
    case h_2 => exact further u found

/-- A value goes to its place and leaves the tables as they are, if it is one itself where the way
goes on behind its place. -/
theorem along_placed {v : Value} {place way : List String}
    (lower : ∀ name ∈ place, Text.lowerCase name = name)
    (along : ∀ rest, way = place ++ rest → v.Along rest)
    (ends : ∀ rest, place = way ++ rest → rest = []) {before : Option Value}
    (kept : ∀ u, before = some u → u.Along way) : (placed v place before).Along way := by
  induction place generalizing way before with
  | nil => exact along_joined (along way rfl) kept
  | cons name place ih =>
    cases way with
    | nil => cases ends (name :: place) rfl
    | cons other way =>
      obtain ⟨first, later⟩ := List.forall_mem_cons.mp lower
      obtain ⟨table, tidy, further⟩ := along_getD kept
      refine ⟨isTable_withField .., ?_, fun u found => ?_⟩
      · rw [placed, fields_withField]
        exact tidy_setField tidy first _
      · rw [placed, field?_withField] at found
        split at found
        case isTrue same =>
          subst same
          obtain rfl := Option.some.inj found
          refine ih later (fun rest whole => along rest ?_) (fun rest whole => ends rest ?_) further
          · rw [whole, List.cons_append]
          · rw [whole, List.cons_append]
        case isFalse => exact further u found

end Value

/-! ## Keys -/

theorem isNameChar_of_isPlainChar {c : Char} (plain : isPlainChar c = true) :
    KeyPath.isNameChar c = true := by
  simp only [isPlainChar, Bool.or_eq_true, decide_eq_true_eq] at plain
  simp only [KeyPath.isNameChar, Bool.or_eq_true, decide_eq_true_eq]
  rcases plain with (letter | line) | hyphen
  · exact .inl (.inl (.inl letter))
  · exact .inl (.inr line)
  · exact .inr hyphen

namespace KeyPath

/-- What follows a name is nothing, or begins with a point. -/
theorem takeName_append {name : String} (isName : IsName name) (rest : List Char)
    (ends : ∀ c ∈ rest.head?, c = '.') : takeName (name.toList ++ rest) = some (name, rest) := by
  have inside : ∀ c ∈ name.toList, isNameChar c = true :=
    fun c member => isNameChar_of_isPlainChar (isName.chars c member)
  have front : (name.toList ++ rest).takeWhile isNameChar = name.toList := by
    rw [List.takeWhile_append_of_pos inside]
    cases rest with
    | nil => simp
    | cons c rest =>
      rw [ends c rfl]
      exact List.append_nil _
  have some : name.toList ≠ [] := fun none => isName.nonempty (String.toList_inj.mp none)
  simp only [takeName, front, if_neg some, List.drop_left, String.ofList_toList]

theorem extend_names {names : List String} (isNames : ∀ name ∈ names, IsName name) (done : KeyPath)
    {steps : Nat} (enough : names.length ≤ steps) :
    extend done steps (names.flatMap fun name => '.' :: name.toList) =
      some (names.foldl .child done) := by
  induction names generalizing done steps with
  | nil => cases steps <;> rfl
  | cons name names ih =>
    obtain ⟨first, later⟩ := List.forall_mem_cons.mp isNames
    cases steps with
    | zero => cases enough
    | succ steps =>
      have ends : ∀ c ∈ (names.flatMap fun name => '.' :: name.toList).head?, c = '.' := by
        cases names with
        | nil => exact nofun
        | cons => exact fun c head => (Option.some.inj head).symm
      rw [List.flatMap_cons, List.cons_append, extend, takeName_append first _ ends,
        List.foldl_cons]
      exact ih later _ (Nat.le_of_succ_le_succ enough)

theorem length_le_flatMap (names : List String) :
    names.length ≤ (names.flatMap fun name => '.' :: name.toList).length := by
  induction names with
  | nil => exact Nat.le_refl _
  | cons name names ih =>
    rw [List.flatMap_cons, List.length_append, List.length_cons, List.length_cons]
    omega

theorem ofKey_names {key name : String} {names : List String}
    (way : wayOf key = name :: names) (isNames : ∀ n ∈ wayOf key, IsName n) :
    ofKey key = names.foldl .child (.name name) := by
  rw [way] at isNames
  obtain ⟨first, later⟩ := List.forall_mem_cons.mp isNames
  have chars : key.toList =
      name.toList ++ names.flatMap fun n => '.' :: n.toList := by
    rw [← intercalate_wayOf key, way, List.map_cons, Text.intercalate_cons, List.flatMap_map]
    rfl
  have ends : ∀ c ∈ (names.flatMap fun n => '.' :: n.toList).head?, c = '.' := by
    cases names with
    | nil => exact nofun
    | cons => exact fun c head => (Option.some.inj head).symm
  rw [ofKey, parse?, chars, takeName_append first _ ends]
  simp only [extend_names later _ (length_le_flatMap names), Option.getD_some]

theorem takeName_eq_some {cs rest : List Char} {name : String}
    (taken : takeName cs = some (name, rest)) : name.toList ++ rest = cs := by
  unfold takeName at taken
  dsimp only at taken
  split at taken
  case isTrue => cases taken
  case isFalse =>
    obtain ⟨rfl, rfl⟩ := Prod.mk.inj (Option.some.inj taken)
    rw [String.toList_ofList]
    exact List.prefix_iff_eq_append.mp (List.takeWhile_prefix _)

/-- A key without points and brackets is one name. -/
theorem ofKey_plain {key : String} (plain : IsPlain key) : ofKey key = .name key := by
  rw [ofKey, parse?]
  cases taken : takeName key.toList with
  | none => rfl
  | some front =>
    obtain ⟨name, rest⟩ := front
    have whole := takeName_eq_some taken
    cases rest with
    | nil =>
      rw [List.append_nil] at whole
      rw [String.toList_inj.mp whole]
      rfl
    | cons c rest =>
      have member : c ∈ key.toList := whole ▸ List.mem_append_right _ List.mem_cons_self
      have noPoint : c ≠ '.' := fun same => plain.noPoint (same ▸ member)
      have noBracket : c ≠ '[' := fun same => plain.noBracket (same ▸ member)
      have stops : extend (.name name) (c :: rest).length (c :: rest) = none := by
        simp [extend, noPoint, noBracket]
      simp only [stops, Option.getD_none]

/-- The changes under names, one below the other. -/
theorem alter_foldl (change : Change) (names : List String) (path : KeyPath) :
    alter change (names.foldl .child path) = alter (names.foldr alterField change) path := by
  induction names generalizing path with
  | nil => rfl
  | cons name names ih =>
    rw [List.foldl_cons, ih, alter, List.foldr_cons]

theorem foldr_alterField (v : Value) (front : List String) {last : String}
    (lower : ∀ name ∈ front ++ [last], Text.lowerCase name = name) (before : Option Value) :
    (front.foldr alterField fun u => .ok (u.put last v)) (before.getD (.scalar none .null)) =
      .ok (v.placed (front ++ [last]) before) := by
  induction front generalizing before with
  | nil =>
    have lower : Text.lowerCase last = last := lower last List.mem_cons_self
    rw [List.nil_append, Value.placed, List.foldr_nil, Value.put_eq, lower]
    cases before <;> rfl
  | cons name front ih =>
    obtain ⟨first, later⟩ := List.forall_mem_cons.mp lower
    rw [List.foldr_cons, alterField, first, ih later, List.cons_append, Value.placed]
    cases before with
    | none => rfl
    | some u => exact congrArg Except.ok (Value.withField_asTable ..)

/-- A key that there is one way to read puts its value at the end of this way. -/
theorem set_ofKey {key : String} (spelled : Spelled key) (v root : Value) :
    (ofKey key).set v root = .ok (v.placed (wayOf key) (some root)) := by
  have lower := spelled.lower
  rcases spelled with plain | isNames
  · rw [plain.wayOf] at lower ⊢
    rw [ofKey_plain plain]
    exact foldr_alterField v [] lower (some root)
  · obtain ⟨name, names, way⟩ := List.exists_cons_of_ne_nil (wayOf_ne_nil key)
    rw [ofKey_names way isNames]
    rw [way] at lower ⊢
    rcases List.eq_nil_or_concat names with rfl | ⟨front, last, rfl⟩
    · exact foldr_alterField v [] lower (some root)
    · rw [List.concat_eq_append] at lower ⊢
      have placed := foldr_alterField v (name :: front) lower (some root)
      rw [List.foldl_append, List.foldl_cons, List.foldl_nil, set, alter_foldl]
      exact placed

end KeyPath

/-! ## Sources -/

/-- The entries of a source in their places. -/
def placedAll (root : Value) (source : Fields) : Value :=
  source.foldl (fun done e => e.2.placed (wayOf e.1) (some done)) root

theorem setAll_eq {source : Fields} (spelled : ∀ e ∈ source, Spelled e.1) (root : Value) :
    KeyPath.setAll root source = .ok (placedAll root source) := by
  induction source generalizing root with
  | nil => rfl
  | cons e rest ih =>
    obtain ⟨first, later⟩ := List.forall_mem_cons.mp spelled
    obtain ⟨key, v⟩ := e
    rw [KeyPath.setAll, KeyPath.set_ofKey first]
    exact ih later _

theorem foldlM_setAll {sources : List Fields}
    (spelled : ∀ source ∈ sources, ∀ e ∈ source, Spelled e.1) (root : Value) :
    sources.foldlM KeyPath.setAll root = .ok (sources.foldl placedAll root) := by
  induction sources generalizing root with
  | nil => rfl
  | cons source rest ih =>
    obtain ⟨first, later⟩ := List.forall_mem_cons.mp spelled
    rw [List.foldlM_cons, setAll_eq first]
    exact ih later _

/-- Values under plain keys are merged into the root. -/
theorem setAll_plain {source : Fields} (plain : ∀ e ∈ source, IsPlain e.1) (root : Value) :
    KeyPath.setAll root source = .ok (root.merge source) := by
  induction source generalizing root with
  | nil => rw [KeyPath.setAll, Value.merge]
  | cons e rest ih =>
    obtain ⟨key, v⟩ := e
    obtain ⟨first, later⟩ := List.forall_mem_cons.mp plain
    rw [KeyPath.setAll, KeyPath.ofKey_plain first, Value.merge, ← ih later]
    rfl

/-! ### Names -/

theorem isPlain_of_isName {name : String} (isName : IsName name) : IsPlain name where
  lower := isName.lower
  noPoint := fun member => absurd (isName.chars '.' member) (by decide)
  noBracket := fun member => absurd (isName.chars '[' member) (by decide)

/-- The first name of a key is plain as a key, too. -/
theorem Spelled.isPlain_head {key name : String} {way : List String} (spelled : Spelled key)
    (begins : wayOf key = name :: way) : IsPlain name := by
  rcases spelled with plain | isNames
  · rw [plain.wayOf] at begins
    cases begins
    exact plain
  · exact isPlain_of_isName (isNames name (begins ▸ List.mem_cons_self))

theorem plain_placed {e : String × Value} (spelled : Spelled e.1) {root : Value}
    (plain : ∀ f ∈ root.fields, IsPlain f.1) :
    ∀ f ∈ (e.2.placed (wayOf e.1) (some root)).fields, IsPlain f.1 := by
  obtain ⟨name, way, begins⟩ := List.exists_cons_of_ne_nil (wayOf_ne_nil e.1)
  intro f member
  rw [begins, Value.placed, Option.getD_some, Value.fields_withField] at member
  rcases mem_setField member with rfl | old
  · exact spelled.isPlain_head begins
  · exact plain f old

theorem plain_placedAll {source : Fields} (spelled : ∀ e ∈ source, Spelled e.1) {root : Value}
    (plain : ∀ f ∈ root.fields, IsPlain f.1) :
    ∀ f ∈ (placedAll root source).fields, IsPlain f.1 := by
  induction source generalizing root with
  | nil => exact plain
  | cons e rest ih =>
    obtain ⟨first, later⟩ := List.forall_mem_cons.mp spelled
    exact ih later (plain_placed first plain)

theorem plain_foldl_placedAll {sources : List Fields}
    (spelled : ∀ source ∈ sources, ∀ e ∈ source, Spelled e.1) {root : Value}
    (plain : ∀ e ∈ root.fields, IsPlain e.1) :
    ∀ e ∈ (sources.foldl placedAll root).fields, IsPlain e.1 := by
  induction sources generalizing root with
  | nil => exact plain
  | cons source rest ih =>
    obtain ⟨first, later⟩ := List.forall_mem_cons.mp spelled
    exact ih later (plain_placedAll first plain)

/-! ### One way -/

section Clear
variable {way : List String} {source : Fields} {root : Value}

/-- At the end of a way is what the entry tells about it, or what was there. -/
theorem at?_placed {e : String × Value}
    (along : ∀ rest, way = wayOf e.1 ++ rest → e.2.Along rest)
    (ends : ∀ rest, wayOf e.1 = way ++ rest → rest = []) (root : Value) :
    (e.2.placed (wayOf e.1) (some root)).at? way = (toldBy way e).or (root.at? way) := by
  by_cases front : wayOf e.1 <+: way
  · obtain ⟨rest, whole⟩ := front
    rw [← whole, Value.at?_placed_front, Value.at?_joined (along rest whole.symm),
      toldBy_front _ _ rfl, Value.at?_append]
    rfl
  · have apart : ¬ way <+: wayOf e.1 := by
      rintro ⟨rest, whole⟩
      rw [ends rest whole.symm, List.append_nil] at whole
      exact front ⟨[], by rw [List.append_nil, whole]⟩
    rw [Value.at?_placed_apart _ _ front apart, toldBy_eq_none front, Option.none_or]
    rfl

theorem Clear.of_cons {e : String × Value} (clear : Clear way (e :: source)) :
    Clear way source where
  spelled := (List.forall_mem_cons.mp clear.spelled).2
  along := (List.forall_mem_cons.mp clear.along).2
  ends := (List.forall_mem_cons.mp clear.ends).2
  once := (List.pairwise_cons.mp clear.once).2

/-- Where an entry tells something, no other does. -/
theorem Clear.tells?_eq_none {e : String × Value} {v : Value} (clear : Clear way (e :: source))
    (told : toldBy way e = some v) : tells? way source = none := by
  rw [tells?, List.findSome?_eq_none_iff]
  intro other member
  refine ((List.pairwise_cons.mp clear.once).1 other member).resolve_left fun none => ?_
  cases told.symm.trans none

/-- A source that says clearly what is at the end of a way decides it, if it says anything. -/
theorem placedAll_spec (clear : Clear way source) (along : root.Along way) :
    (placedAll root source).Along way ∧
      (placedAll root source).at? way = (tells? way source).or (root.at? way) := by
  induction source generalizing root with
  | nil => exact ⟨along, rfl⟩
  | cons e rest ih =>
    have inside := clear.along e List.mem_cons_self
    have ends := clear.ends e List.mem_cons_self
    have kept : (e.2.placed (wayOf e.1) (some root)).Along way :=
      Value.along_placed (clear.spelled e List.mem_cons_self).lower inside ends
        fun u same => Option.some.inj same ▸ along
    obtain ⟨later, told⟩ := ih clear.of_cons kept
    refine ⟨later, told.trans ?_⟩
    rw [at?_placed inside ends, tells?, tells?, List.findSome?_cons]
    cases here : toldBy way e with
    | none => rw [Option.none_or]
    | some v =>
      have nothing := clear.tells?_eq_none here
      rw [tells?] at nothing
      rw [nothing, Option.none_or]

theorem foldl_placedAll_spec {sources : List Fields} (clear : ∀ source ∈ sources, Clear way source)
    (along : root.Along way) :
    (sources.foldl placedAll root).Along way ∧
      (sources.foldl placedAll root).at? way =
        (sources.reverse.findSome? (tells? way)).or (root.at? way) := by
  induction sources generalizing root with
  | nil => exact ⟨along, rfl⟩
  | cons source rest ih =>
    obtain ⟨first, later⟩ := List.forall_mem_cons.mp clear
    obtain ⟨kept, told⟩ := placedAll_spec first along
    obtain ⟨last, decided⟩ := ih later kept
    refine ⟨last, ?_⟩
    rw [List.foldl_cons, decided, told, List.reverse_cons, List.findSome?_append, Option.or_assoc,
      List.findSome?_singleton]

end Clear

/-! ## All sources -/

section Build
variable {defaults : Fields} {sources : List Fields}

theorem build_eq (spelled : ∀ source ∈ defaults :: sources, ∀ e ∈ source, Spelled e.1) :
    Settings.build defaults sources = .ok ((placedAll .emptyTable defaults).merge
      (sources.foldl placedAll .emptyTable).fields) := by
  obtain ⟨first, later⟩ := List.forall_mem_cons.mp spelled
  have plain : ∀ e ∈ (sources.foldl placedAll .emptyTable).fields, IsPlain e.1 :=
    plain_foldl_placedAll later nofun
  rw [Settings.build, foldlM_setAll later]
  change KeyPath.setAll _ defaults >>= _ = _
  rw [setAll_eq first]
  exact setAll_plain plain _

/-- The last source that tells anything about the end of a way decides what is there. -/
theorem at?_build {way : List String} {root : Value} (built : build defaults sources = .ok root)
    (nonempty : way ≠ []) (clear : ∀ source ∈ defaults :: sources, Clear way source) :
    root.at? way = (defaults :: sources).reverse.findSome? (tells? way) := by
  rw [build_eq fun source member => (clear source member).spelled] at built
  obtain ⟨name, way, rfl⟩ := List.exists_cons_of_ne_nil nonempty
  obtain ⟨first, later⟩ := List.forall_mem_cons.mp clear
  have empty := Value.along_emptyTable name way
  obtain ⟨-, preset⟩ := placedAll_spec first empty
  obtain ⟨along, given⟩ := foldl_placedAll_spec later empty
  have nothing : Value.emptyTable.at? (name :: way) = none := rfl
  rw [nothing, Option.or_none] at preset given
  obtain rfl := Except.ok.inj built
  obtain ⟨origin, fs, table⟩ := along.1
  have merged := Value.at?_joined along (some (placedAll .emptyTable defaults))
  rw [given, Option.bind_some, preset, table] at merged
  rw [List.reverse_cons, List.findSome?_append, List.findSome?_singleton, table]
  exact merged

end Build
end Ancestry.Settings
