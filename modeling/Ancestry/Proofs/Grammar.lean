import Ancestry.Proofs.Numeral
import Ancestry.Proofs.Splitting

/-!
# The grammar of relations

Which texts are relations, said without a reader: the blanks around a text are dropped,
what is left is cut at every colon, and each piece that counts has to be a numeral with
the value of a pid. Only the first three pieces count. One of them that is no pid is the
first thing to be complained about; the number of the pieces is the second.

Every text denotes exactly one result, and that is what the reader gives.
-/
namespace Ancestry.Relation
open Decimal Text

/-- A field is the text of a pid, with any sign and any number of leading zeros. -/
abbrev IsPid (field : List Char) (p : Pid) : Prop := Numeral field p.toInt

/-- What the fields of a text amount to. -/
inductive Means : List (List Char) → Except RelationError Relation → Prop
  | invalidPid {fields : List (List Char)} {f : List Char} :
      f ∈ fields.take 3 → (∀ p, ¬ IsPid f p) → Means fields (.error .invalidPid)
  | exec {f g : List Char} {p q : Pid} :
      IsPid f p → IsPid g q → Means [f, g] (.ok (exec p q))
  | fork {f g h : List Char} {p q r : Pid} :
      IsPid f p → IsPid g q → IsPid h r → Means [f, g, h] (.ok (fork p q r))
  | fieldCount {fields : List (List Char)} :
      (∀ f ∈ fields.take 3, ∃ p, IsPid f p) → fields.length ≠ 2 → fields.length ≠ 3 →
      Means fields (.error (.fieldCount fields.length))

/-- What a text denotes: a relation, or the reason why it is none. -/
inductive Denotes (cs : List Char) (result : Except RelationError Relation) : Prop
  | mk {trimmed : List Char} {fields : List (List Char)} :
      Trimmed isAsciiBlank cs trimmed → Separated ':' fields trimmed → Means fields result →
      Denotes cs result

/-! ## Fields -/

theorem mapM_readInt32_eq_none {fields : List (List Char)} :
    fields.mapM readInt32 = none ↔ ∃ f ∈ fields, ∀ p, ¬ IsPid f p := by
  induction fields with
  | nil => simp
  | cons f fields ih =>
    cases read : readInt32 f with
    | none =>
      have noPid : ∀ p, ¬ IsPid f p := by
        intro p pid
        rw [readInt32_eq_some.mpr pid] at read
        cases read
      simp only [List.mapM_cons, read, Option.bind_eq_bind, Option.bind_none, true_iff]
      exact ⟨f, List.mem_cons_self, noPid⟩
    | some p =>
      have pid : IsPid f p := readInt32_eq_some.mp read
      have some : ¬ ∀ q, ¬ IsPid f q := fun none => none p pid
      simp only [List.mapM_cons, read, Option.bind_eq_bind, Option.bind_some, List.mem_cons,
        exists_eq_or_imp, some, false_or, ← ih]
      cases fields.mapM readInt32 <;> simp

theorem ofFields_of_means {fields : List (List Char)} {result : Except RelationError Relation}
    (h : Means fields result) : ofFields fields = result := by
  cases h with
  | invalidPid member noPid =>
    rw [ofFields, mapM_readInt32_eq_none.mpr ⟨_, member, noPid⟩]
  | exec hp hq =>
    simp [ofFields, readInt32_eq_some.mpr hp, readInt32_eq_some.mpr hq]
  | fork hp hq hr =>
    simp [ofFields, readInt32_eq_some.mpr hp, readInt32_eq_some.mpr hq, readInt32_eq_some.mpr hr]
  | fieldCount pids two three =>
    cases read : (fields.take 3).mapM readInt32 with
    | none =>
      obtain ⟨f, member, noPid⟩ := mapM_readInt32_eq_none.mp read
      obtain ⟨p, pid⟩ := pids f member
      exact absurd pid (noPid p)
    | some ps =>
      rw [ofFields, read]
      split <;> simp_all

/-- Fields amount to something whatever they are. -/
theorem exists_means (fields : List (List Char)) : ∃ result, Means fields result := by
  by_cases bad : ∃ f ∈ fields.take 3, ∀ p, ¬ IsPid f p
  · obtain ⟨f, member, noPid⟩ := bad
    exact ⟨_, .invalidPid member noPid⟩
  · have pids : ∀ f ∈ fields.take 3, ∃ p, IsPid f p := by
      intro f member
      apply Classical.byContradiction
      intro none
      exact bad ⟨f, member, fun p pid => none ⟨p, pid⟩⟩
    match fields with
    | [f, g] =>
      obtain ⟨p, hp⟩ := pids f (by simp)
      obtain ⟨q, hq⟩ := pids g (by simp)
      exact ⟨_, .exec hp hq⟩
    | [f, g, h] =>
      obtain ⟨p, hp⟩ := pids f (by simp)
      obtain ⟨q, hq⟩ := pids g (by simp)
      obtain ⟨r, hr⟩ := pids h (by simp)
      exact ⟨_, .fork hp hq hr⟩
    | [] => exact ⟨_, .fieldCount pids (by simp) (by simp)⟩
    | [_] => exact ⟨_, .fieldCount pids (by simp) (by simp)⟩
    | _ :: _ :: _ :: _ :: _ => exact ⟨_, .fieldCount pids (by simp) (by simp)⟩

theorem ofFields_eq_iff {fields : List (List Char)} {result : Except RelationError Relation} :
    ofFields fields = result ↔ Means fields result := by
  constructor
  · rintro rfl
    obtain ⟨result, means⟩ := exists_means fields
    rwa [ofFields_of_means means]
  · exact ofFields_of_means

/-! ## Texts -/

theorem ofChars_eq_iff {cs : List Char} {result : Except RelationError Relation} :
    ofChars cs = result ↔ Denotes cs result := by
  rw [ofChars, ofFields_eq_iff]
  constructor
  · exact fun means => .mk (trimmed_strip isAsciiBlank cs) (separated_pieces ':' _) means
  · rintro ⟨trimmed, separated, means⟩
    rw [trimmed_iff.mp trimmed, separated_iff.mp separated]
    exact means

/-- The reader gives what a text denotes: all of the grammar is accepted, nothing else is,
and of two faults the one in the first three fields is reported. -/
theorem parse_eq_iff_denotes (s : String) (result : Except RelationError Relation) :
    parse s = result ↔ Denotes s.toList result :=
  ofChars_eq_iff

end Ancestry.Relation
