import Mathlib.Algebra.BigOperators.Group.List.Lemmas
import Mathlib.Data.List.Dedup
import Ancestry.Proofs.ChannelAgreement
import Ancestry.Proofs.JsonReading
import Ancestry.Proofs.Reachability
import Ancestry.Proofs.TrackerHistory
import Ancestry.Tracker.View

/-!
# What the views of a tracker tell

The snapshot, the dump and the JSON text show the same families in the same order, and they show
all there is: how many edges are known can be counted on them, and from the dump alone everything
that a tracker can be asked can be answered. A line is cut at its first colon, and the list behind
it at its commas; no digits and no minus sign are either.
-/
namespace Ancestry

namespace Tracker
variable {t u : Tracker}

/-! ## The snapshot -/

theorem mem_snapshot {f : Family} :
    f ∈ t.snapshot ↔ t.children f.1 ≠ [] ∧ f.2 = t.children f.1 := by
  obtain ⟨p, ps⟩ := f
  simp only [snapshot, List.mem_map, List.mem_mergeSort, mem_parents, Prod.mk.injEq]
  constructor
  · rintro ⟨q, known, rfl, rfl⟩
    exact ⟨known, rfl⟩
  · rintro ⟨known, rfl⟩
    exact ⟨p, known, rfl, rfl⟩

theorem nodup_parents (t : Tracker) : t.parents.Nodup := nodup_eraseDups _

/-- The processes stand by increasing pid, so each stands there once. -/
theorem snapshot_increasing (t : Tracker) :
    t.snapshot.Pairwise fun f g => f.1.toInt < g.1.toInt := by
  have trans : ∀ p q r : Pid, decide (p ≤ q) = true → decide (q ≤ r) = true →
      decide (p ≤ r) = true := by
    simp only [decide_eq_true_eq]
    exact fun p q r => Int32.le_trans
  have total : ∀ p q : Pid, (decide (p ≤ q) || decide (q ≤ p)) = true := by
    simp only [Bool.or_eq_true, decide_eq_true_eq]
    exact Int32.le_total
  have sorted := List.pairwise_mergeSort trans total t.parents
  have distinct : (t.parents.mergeSort (· ≤ ·)).Nodup :=
    (List.mergeSort_perm _ _).nodup_iff.mpr t.nodup_parents
  rw [snapshot, List.pairwise_map]
  refine (sorted.and distinct).imp fun {p q} ⟨le, ne⟩ => ?_
  have le : p.toInt ≤ q.toInt := Int32.le_iff_toInt_le.mp (of_decide_eq_true le)
  have ne : p.toInt ≠ q.toInt := fun same => ne (Int32.toInt_inj.mp same)
  exact Int.lt_iff_le_and_ne.mpr ⟨le, ne⟩

theorem length_children (t : Tracker) (p : Pid) :
    (t.children p).length = (t.edges.map (·.parent)).count p := by
  rw [children, List.length_map, ← List.countP_eq_length_filter, List.count, List.countP_map]
  congr 1

theorem length_snapshot (t : Tracker) : (t.snapshot.flatMap (·.2)).length = t.size := by
  have perm : (t.parents.mergeSort (· ≤ ·)).Perm (t.edges.map (·.parent)).dedup := by
    refine (List.mergeSort_perm _ _).trans ?_
    refine (List.perm_ext_iff_of_nodup t.nodup_parents (List.nodup_dedup _)).mpr fun p => ?_
    rw [parents, List.mem_eraseDups, List.mem_dedup]
  have lengths : (t.snapshot.flatMap (·.2)).length =
      ((t.parents.mergeSort (· ≤ ·)).map fun p => (t.edges.map (·.parent)).count p).sum := by
    simp only [snapshot, List.length_flatMap, List.map_map, Function.comp_def, length_children]
  rw [lengths, (perm.map _).sum_eq, List.sum_map_count_dedup_eq_length, List.length_map, size]

theorem isEmpty_iff (t : Tracker) : t.isEmpty = true ↔ t.dump = [] := by
  have none : t.snapshot = [] ↔ t.edges = [] := by
    constructor
    · intro nothing
      apply List.eq_nil_iff_forall_not_mem.mpr
      intro e member
      have child : e.child ∈ t.children e.parent := mem_children.mpr member
      have known : (e.parent, t.children e.parent) ∈ t.snapshot :=
        mem_snapshot.mpr ⟨List.ne_nil_of_mem child, rfl⟩
      rw [nothing] at known
      cases known
    · intro nothing
      apply List.eq_nil_iff_forall_not_mem.mpr
      intro f member
      exact (mem_snapshot.mp member).1 (by simp [children, nothing])
  rw [dump, List.map_eq_nil_iff, none, isEmpty, size, decide_eq_true_eq, List.length_eq_zero_iff]

/-- The snapshot holds all children there are. -/
theorem children_of_snapshot (same : t.snapshot = u.snapshot) (p : Pid) :
    t.children p = u.children p := by
  by_cases known : t.children p = []
  · by_cases knownToo : u.children p = []
    · rw [known, knownToo]
    · have there : (p, u.children p) ∈ t.snapshot := same ▸ mem_snapshot.mpr ⟨knownToo, rfl⟩
      exact (mem_snapshot.mp there).2.symm
  · have there : (p, t.children p) ∈ u.snapshot := same ▸ mem_snapshot.mpr ⟨known, rfl⟩
    exact (mem_snapshot.mp there).2

/-! ## Searches -/

theorem explore_congr (same : ∀ p, t.children p = u.children p) (root : Pid)
    (seen found stack : List Pid) :
    t.explore root seen found stack = u.explore root seen found stack := by
  fun_induction explore t root seen found stack with
  | case1 seen found => rw [explore]
  | case2 seen found p stack old ih => rw [ih, explore.eq_2 u, if_pos old]
  | case3 seen found p stack new ih =>
    simp only [dite_eq_ite] at ih
    rw [ih, explore.eq_2 u, if_neg new, same]

theorem descendants_congr (same : ∀ p, t.children p = u.children p) (p : Pid) :
    t.descendants p = u.descendants p :=
  explore_congr same p [] [] [p]

theorem adopted_congr (same : ∀ p, t.children p = u.children p) (p : Pid) :
    t.adopted p = u.adopted p := by
  rw [adopted, adopted, descendants_congr same, same]

/-! ## Lines -/

theorem pidChars_injective {p q : Pid} (same : Relation.pidChars p = Relation.pidChars q) :
    p = q := by
  have read := Decimal.readInt32_digits p
  rw [← Relation.pidChars, same, Relation.pidChars, Decimal.readInt32_digits] at read
  exact (Option.some.inj read).symm

theorem comma_not_mem_pidChars (p : Pid) : ',' ∉ Relation.pidChars p := by
  intro member
  rcases Decimal.mem_digits member with comma | digit
  · cases comma
  · cases digit

/-- A list of pids as it is written on a line. -/
def listChars (ps : List Pid) : List Char :=
  '[' :: [',', ' '].intercalate (ps.map Relation.pidChars) ++ [']']

theorem toList_listText (ps : List Pid) : (listText ps).toList = listChars ps := by
  have all : (ps.map Relation.pidText).map String.toList = ps.map Relation.pidChars := by
    rw [List.map_map]
    exact List.map_congr_left fun p _ => String.toList_ofList
  simp only [listText, String.toList_append, String.toList_intercalate, all, listChars]
  rfl

theorem toList_lineOf (f : Family) :
    (lineOf f).toList = Relation.pidChars f.1 ++
      ':' :: '[' :: ([',', ' '].intercalate (f.2.map Relation.pidChars) ++ [']']) := by
  have digits : (Relation.pidText f.1).toList = Relation.pidChars f.1 := String.toList_ofList
  simp only [lineOf, String.toList_append, digits, toList_listText, listChars]
  simp

/-- The blank behind a comma can be counted to the piece that follows it. -/
theorem intercalate_comma_blank (cs : List Char) (pieces : List (List Char)) :
    [',', ' '].intercalate (cs :: pieces) =
      [','].intercalate (cs :: pieces.map (' ' :: ·)) := by
  rw [Text.intercalate_cons, Text.intercalate_cons, List.flatMap_map]
  rfl

theorem separated_list (p : Pid) (ps : List Pid) :
    Text.Separated ',' (Relation.pidChars p :: (ps.map Relation.pidChars).map (' ' :: ·))
      ([',', ' '].intercalate ((p :: ps).map Relation.pidChars)) where
  nonempty := List.cons_ne_nil _ _
  clean f member := by
    simp only [List.mem_cons, List.mem_map] at member
    rcases member with rfl | ⟨cs, ⟨q, -, rfl⟩, rfl⟩
    · exact comma_not_mem_pidChars p
    · intro comma
      rcases List.mem_cons.mp comma with blank | digits
      · cases blank
      · exact comma_not_mem_pidChars q digits
  joined := (intercalate_comma_blank _ _).symm

theorem list_ne_nil (p : Pid) (ps : List Pid) :
    [',', ' '].intercalate ((p :: ps).map Relation.pidChars) ≠ [] := by
  obtain ⟨c, ds, written, -⟩ := Json.exists_digits p.toInt
  rw [List.map_cons, Text.intercalate_cons, Relation.pidChars, written]
  exact List.cons_ne_nil _ _

theorem list_injective {ps qs : List Pid}
    (same : [',', ' '].intercalate (ps.map Relation.pidChars) =
      [',', ' '].intercalate (qs.map Relation.pidChars)) : ps = qs := by
  have injective : Function.Injective Relation.pidChars := fun _ _ => pidChars_injective
  cases ps with
  | nil =>
    cases qs with
    | nil => rfl
    | cons q qs => exact absurd same.symm (list_ne_nil q qs)
  | cons p ps =>
    cases qs with
    | nil => exact absurd same (list_ne_nil p ps)
    | cons q qs =>
      have pieces := Text.separated_iff.mp (separated_list p ps)
      rw [same, Text.separated_iff.mp (separated_list q qs)] at pieces
      obtain ⟨first, rest⟩ := List.cons.inj pieces
      have rest := List.map_injective_iff.mpr (fun _ _ equal => (List.cons.inj equal).2) rest
      rw [injective first, List.map_injective_iff.mpr injective rest]

theorem lineOf_injective {f g : Family} (same : lineOf f = lineOf g) : f = g := by
  have chars := congrArg String.toList same
  rw [toList_lineOf, toList_lineOf] at chars
  obtain ⟨parent, list⟩ := Text.cut_unique (Relation.colon_not_mem_pidChars _)
    (Relation.colon_not_mem_pidChars _) chars
  have children := List.append_cancel_right (List.cons.inj list).2
  exact Prod.ext (pidChars_injective parent) (list_injective children)

theorem snapshot_of_dump (same : t.dump = u.dump) : t.snapshot = u.snapshot :=
  List.map_injective_iff.mpr (fun _ _ => lineOf_injective) same

/-- Trackers that are dumped alike answer every question alike. -/
theorem dump_eq_iff : t.dump = u.dump ↔ SameViews t u := by
  refine ⟨fun same => ?_, SameViews.dump⟩
  have families := snapshot_of_dump same
  have children := children_of_snapshot families
  exact
    { children := children
      size := by rw [← length_snapshot, families, length_snapshot]
      dump := same
      descendants := descendants_congr children
      adopted := adopted_congr children }

/-! ## JSON -/

/-- The process at the end of an edge. -/
def edge? : Json → Option Pid
  | .obj fields =>
    match fields.lookup "pid" with
    | some (.int v) => if (Int32.ofInt v).toInt = v then some (Int32.ofInt v) else none
    | _ => none
  | _ => none

/-- A field whose name is a pid and whose value is an array of edges. -/
def family? : String × Json → Option Family
  | (name, .arr edges) =>
    (Decimal.readInt32 name.toList).bind fun p => (edges.mapM edge?).map fun ps => (p, ps)
  | _ => none

/-- The families that a JSON value shows, in the order of its fields. -/
def families? : Json → Option (List Family)
  | .obj fields => fields.mapM family?
  | _ => none

theorem mapM_map {α β : Type} {write : α → β} {read : β → Option α}
    (back : ∀ a, read (write a) = some a) (as : List α) :
    (as.map write).mapM read = some as := by
  induction as with
  | nil => rfl
  | cons a as ih => simp [back, ih]

theorem families?_toJson (firstSeen : Edge → String) (t : Tracker) :
    families? (t.toJson firstSeen) = some t.snapshot := by
  apply mapM_map
  rintro ⟨p, ps⟩
  have edges : (ps.map fun q => Json.obj
      [("pid", .int q.toInt), ("first_seen", .str (firstSeen ⟨p, q⟩))]).mapM edge? = some ps := by
    apply mapM_map
    intro q
    simp [edge?]
  have key : Decimal.readInt32 (Relation.pidText p).toList = some p := by
    rw [Relation.pidText, String.toList_ofList]
    exact Decimal.readInt32_digits p
  simp only [family?, key, edges, Option.bind_some, Option.map_some]

/-! ## All views together -/

/-- What the views show of a tracker. -/
structure Shown (t : Tracker) : Prop where
  keys : ∀ p, p ∈ t.snapshot.map (·.1) ↔ t.children p ≠ []
  increasing : t.snapshot.Pairwise fun f g => f.1.toInt < g.1.toInt
  lists : ∀ f ∈ t.snapshot, f.2 = t.children f.1
  lines : ∀ i : Nat, t.dump[i]?.map String.toList = t.snapshot[i]?.map fun f =>
    Relation.pidChars f.1 ++
      ':' :: '[' :: ([',', ' '].intercalate (f.2.map Relation.pidChars) ++ [']'])
  json : ∀ firstSeen : Edge → String,
    ∀ text ∈ [(t.toJson firstSeen).compact, (t.toJson firstSeen).pretty],
      (Json.read text).bind families? = some t.snapshot
  size : t.size = (t.snapshot.flatMap (·.2)).length
  empty : t.isEmpty = true ↔ t.dump = []

theorem shown (t : Tracker) : Shown t where
  keys p := by
    rw [List.mem_map]
    constructor
    · rintro ⟨f, member, rfl⟩
      exact (mem_snapshot.mp member).1
    · exact fun known => ⟨(p, t.children p), mem_snapshot.mpr ⟨known, rfl⟩, rfl⟩
  increasing := t.snapshot_increasing
  lists f member := (mem_snapshot.mp member).2
  lines i := by
    rw [dump, List.getElem?_map, Option.map_map]
    congr 1
    funext f
    exact toList_lineOf f
  json firstSeen text written := by
    have value : Json.read text = some (t.toJson firstSeen) := by
      simp only [List.mem_cons, List.not_mem_nil, or_false] at written
      rcases written with rfl | rfl
      · exact Json.read_compact _
      · exact Json.read_pretty _
    rw [value, Option.bind_some, families?_toJson]
  size := t.length_snapshot.symm
  empty := t.isEmpty_iff

/-- The views of a tracker show the same, and the dump shows all of it. -/
theorem views_agree (t : Tracker) : Shown t ∧ ∀ u : Tracker, t.dump = u.dump ↔ SameViews t u :=
  ⟨t.shown, fun _ => dump_eq_iff⟩

end Tracker
end Ancestry
