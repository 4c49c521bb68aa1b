import Ancestry.Proofs.BackendLaws
import Ancestry.Proofs.Utf8RoundTrip
import Ancestry.Settings.DotEnv

/-!
# Variables that a file supplies

A variable that is set keeps its value, and one that is not gets the first value that the file of
variables assigns to it. Nothing else changes in the environment. This holds of a file whose lines
can all be read, and of an environment as a system has it: each name once, with no equals sign in
it. A variable whose value is no text is taken by the file as not set, so where one is set that the
file assigns to, it has to hold a text.
-/
namespace Ancestry

namespace Environment

/-! ## Reading a variable -/

theorem equalsSign_not_mem_encode {cs : List Char} (clean : '=' ∉ cs) :
    (61 : UInt8) ∉ Utf8.encode cs := by
  intro inside
  obtain ⟨c, member, among⟩ := List.mem_flatMap.mp inside
  have value : c.toNat = 61 := Utf8.ascii_mem_encodeChar among (by decide)
  have equals : c = '=' := Char.toNat_inj.mp value
  exact clean (equals ▸ member)

/-- An entry is read as the one name and the value. -/
theorem valueBehind?_eq {name : String} {e : String × Bytes} (clean : '=' ∉ name.toList)
    (own : '=' ∉ e.1.toList) : valueBehind? name e = if e.1 = name then some e.2 else none := by
  have split (s : String) : Bytes.ofString (s ++ "=") = Utf8.encode s.toList ++ [61] := by
    rw [Bytes.ofString, String.toList_append, Utf8.encode_append]
    rfl
  rw [valueBehind?, split, split]
  by_cases same : e.1 = name
  · simp [same]
  · rw [if_neg same, if_neg]
    rw [List.isPrefixOf_iff_prefix]
    rintro ⟨rest, whole⟩
    rw [List.append_assoc, List.append_assoc] at whole
    obtain ⟨front, -⟩ := Text.cut_unique (equalsSign_not_mem_encode clean)
      (equalsSign_not_mem_encode own) whole
    exact same (String.toList_inj.mp (Utf8.encode_injective front)).symm

theorem text?_eq {env : Environment} (formed : env.WellFormed) {name : String}
    (clean : '=' ∉ name.toList) : env.text? name = (env.lookup name).bind Utf8.text? := by
  have found : env.findSome? (valueBehind? name) = env.lookup name := by
    obtain ⟨-, own⟩ := formed
    induction env with
    | nil => rfl
    | cons e rest ih =>
      obtain ⟨first, later⟩ := List.forall_mem_cons.mp own
      rw [List.findSome?_cons, valueBehind?_eq clean first, ih later]
      rw [Settings.lookup_entry]
      by_cases same : e.1 = name
      · rw [if_pos same, if_pos same.symm]
      · rw [if_neg same, if_neg (Ne.symm same)]
  rw [text?, found]

/-! ## Setting a variable -/

/-- In its place a variable gets the value only if it was there. -/
theorem lookup_replaced (env : Environment) (name : String) (value : Bytes) (other : String) :
    (env.map fun e => if e.1 = name then (name, value) else e).lookup other =
      if other = name then (env.lookup name).map fun _ => value else env.lookup other := by
  induction env with
  | nil => simp
  | cons e rest ih =>
    obtain ⟨first, old⟩ := e
    rw [List.map_cons, Settings.lookup_entry, ih, Settings.lookup_entry, Settings.lookup_entry]
    by_cases same : other = name
    · subst same
      by_cases here : first = other
      · simp [here]
      · simp [here, Ne.symm here]
    · by_cases here : first = name
      · subst here
        simp [same]
      · simp [here, same]

theorem any_iff (env : Environment) (name : String) :
    env.any (·.1 = name) = true ↔ name ∈ env.map Prod.fst := by
  simp [List.any_eq_true]

theorem lookup_set (env : Environment) (name : String) (value : Bytes) (other : String) :
    (env.set name value).lookup other = if other = name then some value else env.lookup other := by
  unfold set
  split
  case isTrue there =>
    obtain ⟨e, member, same⟩ := List.mem_map.mp ((any_iff env name).mp there)
    have found : (env.lookup name).isSome := by
      rw [Option.isSome_iff_ne_none, Ne, List.lookup_eq_none_iff]
      exact fun missing => bne_iff_ne.mp (missing e member) same.symm
    obtain ⟨old, found⟩ := Option.isSome_iff_exists.mp found
    rw [lookup_replaced, found]
    rfl
  case isFalse new =>
    have missing : env.lookup name = none := by
      rw [List.lookup_eq_none_iff]
      intro e member
      rw [bne_iff_ne]
      intro same
      exact new ((any_iff env name).mpr (same ▸ List.mem_map_of_mem member))
    rw [List.lookup_append]
    rw [Settings.lookup_entry, List.lookup_nil]
    by_cases same : other = name
    · rw [if_pos same, if_pos same, same, missing, Option.none_or]
    · rw [if_neg same, if_neg same, Option.or_none]

theorem mem_set {env : Environment} {name : String} {value : Bytes} {e : String × Bytes}
    (member : e ∈ env.set name value) : e = (name, value) ∨ e ∈ env := by
  unfold set at member
  split at member
  · obtain ⟨old, there, rfl⟩ := List.mem_map.mp member
    split
    · exact .inl rfl
    · exact .inr there
  · rcases List.mem_append.mp member with old | new
    · exact .inr old
    · exact .inl (List.mem_singleton.mp new)

theorem WellFormed.set {env : Environment} (formed : env.WellFormed) {name : String}
    (clean : '=' ∉ name.toList) (value : Bytes) : (env.set name value).WellFormed where
  distinct := by
    unfold Environment.set
    split
    case isTrue =>
      have names : (env.map fun e => if e.1 = name then (name, value) else e).map Prod.fst =
          env.map Prod.fst := by
        rw [List.map_map]
        refine List.map_congr_left fun e _ => ?_
        by_cases same : e.1 = name <;> simp [same]
      rw [Settings.Distinct, names]
      exact formed.distinct
    case isFalse new =>
      rw [any_iff] at new
      rw [Settings.Distinct, List.map_append]
      refine List.nodup_append.mpr
        ⟨formed.distinct, List.pairwise_singleton .., fun other old last added => ?_⟩
      rintro rfl
      obtain rfl : other = name := List.mem_singleton.mp added
      exact new old
  clean := by
    intro e member
    rcases mem_set member with rfl | old
    · exact clean
    · exact formed.clean e old

/-! ## Adding what is missing -/

section Adding
variable {env all : Environment} {pairs : List (String × String)} {name s : String}

theorem extends_nil (formed : env.WellFormed) : env.Extends [] env where
  formed := formed
  lookup := by simp
  members := fun e => .inl

/-- A variable that is set keeps its value whatever is assigned to it. -/
theorem Extends.covered (extension : env.Extends pairs all) {raw : Bytes}
    (there : env.lookup name = some raw) (s : String) : env.Extends ((name, s) :: pairs) all where
  formed := extension.formed
  lookup := by
    intro other
    rw [extension.lookup, Settings.lookup_entry]
    by_cases same : other = name
    · rw [same, there, Option.some_or, Option.some_or]
    · rw [if_neg same]
  members := by
    intro e member
    refine (extension.members e member).imp_right ?_
    rintro ⟨p, later, same⟩
    exact ⟨p, List.mem_cons_of_mem _ later, same⟩

/-- A variable that is not set gets what is assigned to it first. -/
theorem Extends.set (extension : (env.set name (Bytes.ofString s)).Extends pairs all)
    (missing : env.lookup name = none) : env.Extends ((name, s) :: pairs) all where
  formed := extension.formed
  lookup := by
    intro other
    rw [extension.lookup, lookup_set, Settings.lookup_entry]
    by_cases same : other = name
    · rw [if_pos same, if_pos same, same, missing, Option.some_or, Option.none_or, Option.map_some]
    · rw [if_neg same, if_neg same]
  members := by
    intro e member
    rcases extension.members e member with there | ⟨p, later, same⟩
    · rcases mem_set there with rfl | old
      · exact .inr ⟨(name, s), List.mem_cons_self, rfl⟩
      · exact .inl old
    · exact .inr ⟨p, List.mem_cons_of_mem _ later, same⟩

theorem Covers.set (covers : env.Covers ((name, s) :: pairs)) :
    (env.set name (Bytes.ofString s)).Covers pairs := by
  intro p member raw found
  rw [lookup_set] at found
  split at found
  · cases found
    rw [Utf8.text?_ofString]
    rfl
  · exact covers p (List.mem_cons_of_mem _ member) raw found

end Adding

end Environment

namespace DotEnv
open Environment

/-! ## Names -/

theorem clean_of_takeName {cs name rest : List Char} (taken : takeName cs = some (name, rest)) :
    '=' ∉ name := by
  cases cs with
  | nil => cases taken
  | cons c cs =>
    rw [takeName] at taken
    split at taken
    case isFalse => cases taken
    case isTrue =>
      obtain ⟨rfl, -⟩ := Prod.mk.inj (Option.some.inj taken)
      intro inside
      have fits := List.all_eq_true.mp
        (List.all_takeWhile (p := isNameChar) (l := c :: cs)) '=' inside
      exact absurd fits (by decide)

theorem clean_of_takeAssignment {cs name rest : List Char}
    (taken : takeAssignment cs = some (name, rest)) : '=' ∉ name := by
  unfold takeAssignment at taken
  split at taken
  case h_1 direct =>
    obtain ⟨rfl, -⟩ := Prod.mk.inj (Option.some.inj taken)
    exact clean_of_takeName direct
  case h_2 =>
    split at taken
    case isFalse => cases taken
    case isTrue =>
      split at taken
      case h_1 exported =>
        obtain ⟨rfl, -⟩ := Prod.mk.inj (Option.some.inj taken)
        exact clean_of_takeName exported
      case h_2 => cases taken
  case h_3 => cases taken

theorem clean_of_read {value : String → String} {line : List Char} {name s : String}
    (read : Line.read value line = .assign name s) : '=' ∉ name.toList := by
  unfold Line.read at read
  dsimp only at read
  split at read
  case isTrue => cases read
  case isFalse =>
    split at read
    case h_1 => cases read
    case h_2 taken =>
      have clean := clean_of_takeAssignment taken
      split at read
      case isTrue =>
        cases read
        rwa [String.toList_ofList]
      case isFalse =>
        split at read
        case h_1 =>
          cases read
          rwa [String.toList_ofList]
        case h_2 => cases read

/-! ## Lines -/

variable {w : World} {env : Environment} {earlier pairs : List (String × String)}
  {lines : List (Option (List Char))}

/-- What is set stays, and the first assignment to each other name sets it. -/
theorem exists_apply (supplied : assignmentsOf env earlier lines = some pairs)
    (formed : env.WellFormed) (covers : env.Covers pairs) :
    ∃ all, apply env earlier lines = .ok all ∧ env.Extends pairs all := by
  induction lines generalizing env earlier pairs with
  | nil =>
    obtain rfl : pairs = [] := (Option.some.inj supplied).symm
    exact ⟨env, by rw [apply]; exact nofun, extends_nil formed⟩
  | cons line rest ih =>
    cases line with
    | none => cases supplied
    | some line =>
      rw [assignmentsOf] at supplied
      rw [apply]
      cases read : Line.read (known env earlier) line with
      | bad => simp only [read, reduceCtorEq] at supplied
      | nothing =>
        simp only [read] at supplied ⊢
        exact ih supplied formed covers
      | assign name s =>
        have clean := clean_of_read read
        have text := text?_eq formed clean
        simp only [read] at supplied ⊢
        by_cases there : (env.text? name).isSome
        · simp only [there, if_true] at supplied ⊢
          obtain ⟨later, further, rfl⟩ := Option.map_eq_some_iff.mp supplied
          obtain ⟨all, applied, extension⟩ := ih further formed fun p member =>
            covers p (List.mem_cons_of_mem _ member)
          rw [text] at there
          obtain ⟨raw, found, -⟩ := Option.bind_eq_some_iff.mp (Option.some_get there).symm
          exact ⟨all, applied, extension.covered found s⟩
        · by_cases zero : s.toList.contains '\x00'
          · simp only [there, zero, if_true, Bool.false_eq_true, if_false, reduceCtorEq] at supplied
          · simp only [there, zero, Bool.false_eq_true, if_false] at supplied ⊢
            obtain ⟨later, further, rfl⟩ := Option.map_eq_some_iff.mp supplied
            obtain ⟨all, applied, extension⟩ := ih further (formed.set clean _) covers.set
            refine ⟨all, applied, extension.set ?_⟩
            -- Where something is set, the file may only assign if that is a text.
            cases found : env.lookup name with
            | none => rfl
            | some raw =>
              have isText := covers (name, s) List.mem_cons_self raw found
              rw [text, found, Option.bind_some] at there
              exact absurd isText there

theorem exists_load (supplied : assignments w env = some pairs) (formed : env.WellFormed)
    (covers : env.Covers pairs) : ∃ all, load w env = .ok all ∧ env.Extends pairs all :=
  exists_apply supplied formed covers

end DotEnv
end Ancestry
