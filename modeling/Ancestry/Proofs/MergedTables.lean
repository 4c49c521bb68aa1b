import Ancestry.Proofs.BackendLaws
import Ancestry.Settings.KeyPath

/-!
# What is under a name after tables were merged

A value that is put under a name replaces what was there, unless it is a table: a table goes into
what was there, name by name. What is under other names stays. So after a table was merged into
another, each name of the incoming table has what it brought, and the others have what they had.
This needs names that stand once in the incoming table, and in lower case, which is how they are
compared.
-/
namespace Ancestry.Settings

/-! ## Entries -/

theorem names_setField (name : String) (v : Value) (fs : List (String × Value)) :
    (Value.setField name v fs).map Prod.fst =
      if name ∈ fs.map Prod.fst then fs.map Prod.fst else fs.map Prod.fst ++ [name] := by
  induction fs with
  | nil => rfl
  | cons f rest ih =>
    obtain ⟨other, w⟩ := f
    by_cases same : other = name
    · simp [Value.setField, same]
    · have differs : ¬ name = other := fun equal => same equal.symm
      rw [Value.setField, if_neg same, List.map_cons, ih, List.map_cons]
      by_cases later : name ∈ rest.map Prod.fst <;> simp [later, differs]

theorem distinct_setField {fs : List (String × Value)} (distinct : Distinct fs) (name : String)
    (v : Value) : Distinct (Value.setField name v fs) := by
  rw [Distinct, names_setField]
  split
  case isTrue => exact distinct
  case isFalse new =>
    refine List.nodup_append.mpr
      ⟨distinct, List.pairwise_singleton .., fun other old last added => ?_⟩
    rw [List.mem_singleton] at added
    rintro rfl
    exact new (added ▸ old)

theorem mem_setField {name : String} {v : Value} {fs : List (String × Value)}
    {e : String × Value} (member : e ∈ Value.setField name v fs) : e = (name, v) ∨ e ∈ fs := by
  induction fs with
  | nil => exact .inl (List.mem_singleton.mp member)
  | cons f rest ih =>
    obtain ⟨other, w⟩ := f
    rw [Value.setField] at member
    split at member
    · rcases List.mem_cons.mp member with rfl | later
      · exact .inl rfl
      · exact .inr (List.mem_cons_of_mem _ later)
    · rcases List.mem_cons.mp member with rfl | later
      · exact .inr List.mem_cons_self
      · exact (ih later).imp_right (List.mem_cons_of_mem _)

theorem tidy_setField {fs : List (String × Value)} (tidy : Tidy fs) {name : String}
    (lower : Text.lowerCase name = name) (v : Value) : Tidy (Value.setField name v fs) where
  distinct := distinct_setField tidy.distinct name v
  lower := by
    intro e member
    rcases mem_setField member with rfl | old
    · exact lower
    · exact tidy.lower e old

/-! ## One value -/

namespace Value
variable {t v : Value} {name key : String}

/-- What is under a name where a value was put, given what was there before. -/
def joined (before : Option Value) : Value → Value
  | .table _ incoming => merge (before.getD emptyTable) incoming
  | v => v

theorem joined_of_not_isTable (other : ¬ v.IsTable) (before : Option Value) :
    joined before v = v := by
  cases v with
  | table origin fs => exact absurd ⟨origin, fs, rfl⟩ other
  | scalar => rfl
  | list => rfl

theorem fields_withField (t : Value) (name : String) (v : Value) :
    (t.withField name v).fields = setField name v t.fields := by
  cases t <;> rfl

theorem isTable_withField (t : Value) (name : String) (v : Value) :
    (t.withField name v).IsTable := by
  cases t <;> exact ⟨_, _, rfl⟩

theorem field?_withField (t : Value) (name : String) (v : Value) (key : String) :
    (t.withField name v).field? key = if key = name then some v else t.field? key := by
  rw [field?, fields_withField]
  by_cases same : key = name
  · rw [if_pos same, same, lookup_setField_self]
  · rw [if_neg same, lookup_setField_ne same, field?]

theorem withField_asTable (t : Value) (name : String) (v : Value) :
    t.asTable.withField name v = t.withField name v := by
  cases t <;> rfl

theorem put_eq (t : Value) (name : String) (v : Value) :
    put t name v =
      t.withField (Text.lowerCase name) (joined (t.field? (Text.lowerCase name)) v) := by
  cases v with
  | table origin fs => rw [put, joined, withField_asTable]
  | scalar => rw [put]; rfl
  | list => rw [put]; rfl

theorem field?_put (t : Value) (name : String) (v : Value) (key : String) :
    (put t name v).field? key =
      if key = Text.lowerCase name then some (joined (t.field? key) v) else t.field? key := by
  rw [put_eq, field?_withField]
  split
  case isTrue here => rw [here]
  case isFalse => rfl

theorem isTable_put (t : Value) (name : String) (v : Value) : (put t name v).IsTable := by
  rw [put_eq]
  exact isTable_withField ..

theorem fields_put (t : Value) (name : String) (v : Value) :
    ∃ w, (put t name v).fields = setField (Text.lowerCase name) w t.fields :=
  ⟨_, by rw [put_eq, fields_withField]⟩

theorem tidy_put (tidy : Tidy t.fields) (lower : Text.lowerCase name = name) (v : Value) :
    Tidy (put t name v).fields := by
  obtain ⟨w, fields⟩ := fields_put t name v
  rw [fields, lower]
  exact tidy_setField tidy lower w

/-! ## All values of a table -/

/-- Each name of the incoming table has what it brought, and the others have what they had. -/
theorem field?_merge {entries : List (String × Value)} (tidy : Tidy entries) (t : Value)
    (key : String) :
    (merge t entries).field? key =
      match entries.lookup key with
      | some v => some (joined (t.field? key) v)
      | none => t.field? key := by
  induction entries generalizing t with
  | nil => rw [merge, List.lookup_nil]
  | cons e rest ih =>
    obtain ⟨name, v⟩ := e
    obtain ⟨once, distinct⟩ := tidy.distinct.of_cons
    have lower : Text.lowerCase name = name := tidy.lower (name, v) List.mem_cons_self
    have others : Tidy rest :=
      ⟨distinct, fun e later => tidy.lower e (List.mem_cons_of_mem _ later)⟩
    rw [merge, ih others, field?_put, lower]
    by_cases here : key = name
    · subst here
      rw [once, lookup_entry, if_pos rfl, if_pos rfl]
    · rw [lookup_entry, if_neg here, if_neg here]

theorem tidy_merge {entries : List (String × Value)} (tidy : Tidy entries)
    (before : Tidy t.fields) : Tidy (merge t entries).fields := by
  induction entries generalizing t with
  | nil => rwa [merge]
  | cons e rest ih =>
    obtain ⟨name, v⟩ := e
    have others : Tidy rest :=
      ⟨tidy.distinct.of_cons.2, fun e later => tidy.lower e (List.mem_cons_of_mem _ later)⟩
    rw [merge]
    exact ih others (tidy_put before (tidy.lower (name, v) List.mem_cons_self) v)

theorem isTable_merge (table : t.IsTable) (entries : List (String × Value)) :
    (merge t entries).IsTable := by
  induction entries generalizing t with
  | nil => rwa [merge]
  | cons e rest ih =>
    rw [merge]
    exact ih (isTable_put ..)

end Value

end Ancestry.Settings
