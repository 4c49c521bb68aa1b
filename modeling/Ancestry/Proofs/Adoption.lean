import Ancestry.Proofs.ArrivalOrder

/-!
# Adopted descendants

A process whose parent is gone is given to init, and at its next report init stands for its parent.
So an adopted descendant is told by two things that were reported apart from each other: a path of
edges that leads to it, and an edge from init. Nothing is ever taken back, so neither of them has
to come first. The path may lead through init and may use that very edge, and the edge may have been
reported by init itself, when it made the process.
-/
section
open Relation (TransGen)
namespace Ancestry
variable {r : Relation} {rs : List Relation} {p q : Pid}

/-! ## What is reported -/

/-- A relation reports its parent as the parent of its child, and its child as the parent of the
new process. It tells nothing about unknown processes. -/
inductive Relation.Reports (r : Relation) : Pid → Pid → Prop
  | child : r.parent ≠ noPid → r.child ≠ noPid → Reports r r.parent r.child
  | infant {infant : Pid} : r.infant = some infant → r.child ≠ noPid → infant ≠ noPid →
      Reports r r.child infant

/-- One of the relations reports a process as a child of another one. -/
def ReportedChild (rs : List Relation) (p q : Pid) : Prop := ∃ r ∈ rs, r.Reports p q

theorem Relation.reports_iff : r.Reports p q ↔ p ≠ noPid ∧ q ≠ noPid ∧
    (r.parent = p ∧ r.child = q ∨ r.child = p ∧ r.infant = some q) := by
  constructor
  · intro reports
    cases reports with
    | child known knownToo => exact ⟨known, knownToo, .inl ⟨rfl, rfl⟩⟩
    | infant made known knownToo => exact ⟨known, knownToo, .inr ⟨rfl, made⟩⟩
  · rintro ⟨known, knownToo, ⟨rfl, rfl⟩ | ⟨rfl, made⟩⟩
    · exact .child known knownToo
    · exact .infant made known knownToo

/-- What a relation reports is what it gives the tracker to record. -/
theorem Relation.mem_edges_iff : ⟨p, q⟩ ∈ r.edges ↔ r.Reports p q := by
  rw [reports_iff]
  by_cases unknown : r.child = noPid
  · rw [edges, if_pos unknown]
    grind
  · rw [edges, if_neg unknown]
    grind

/-- Init is reported as a parent by a process it adopted or made, or by itself when it makes one. -/
theorem reportedChild_init_iff : ReportedChild rs initPid q ↔ q ≠ noPid ∧
    ∃ r ∈ rs, r.parent = initPid ∧ r.child = q ∨ r.child = initPid ∧ r.infant = some q := by
  have known : initPid ≠ noPid := by decide
  simp only [ReportedChild, Relation.reports_iff, ne_eq, known, not_false_eq_true, true_and]
  constructor
  · exact fun ⟨r, member, other, told⟩ => ⟨other, r, member, told⟩
  · exact fun ⟨other, r, member, told⟩ => ⟨r, member, other, told⟩

namespace Tracker

/-- The edges of a tracker are the ones reported, whatever the order of the reports. -/
theorem isParent_addAll (rs : List Relation) : (empty.addAll rs).IsParent = ReportedChild rs := by
  funext p q
  rw [IsParent, mem_children, mem_edges_addAll, ReportedChild]
  simp only [← Relation.edges_eq_links, Relation.mem_edges_iff]

/-! ## One more relation -/

theorem IsParent.add {t : Tracker} (edge : t.IsParent p q) (r : Relation) :
    (t.add r).IsParent p q :=
  (t.children_prefix_add r p).subset edge

theorem descendants_subset_add (t : Tracker) (r : Relation) (p : Pid) :
    t.descendants p ⊆ (t.add r).descendants p := by
  intro q member
  obtain ⟨other, path⟩ := mem_descendants.mp member
  have edges : t.IsParent ≤ (t.add r).IsParent := fun _ _ edge => IsParent.add edge r
  exact mem_descendants.mpr ⟨other, TransGen.mono edges p q path⟩

theorem adopted_subset_add (t : Tracker) (r : Relation) (p : Pid) :
    t.adopted p ⊆ (t.add r).adopted p := by
  intro q member
  obtain ⟨below, edge⟩ := mem_adopted.mp member
  exact mem_adopted.mpr ⟨t.descendants_subset_add r p below, edge.add r⟩

/-- Who was adopted stays adopted. -/
theorem adopted_subset_addAll (t : Tracker) (later : List Relation) (p : Pid) :
    t.adopted p ⊆ (t.addAll later).adopted p := by
  induction later generalizing t with
  | nil => exact fun _ member => member
  | cons r later ih => exact List.Subset.trans (t.adopted_subset_add r p) (ih (t.add r))

/-! ## All relations -/

theorem adopted_sublist (t : Tracker) (p : Pid) : (t.adopted p).Sublist (t.descendants p) :=
  List.filter_sublist

theorem nodup_adopted (t : Tracker) (p : Pid) : (t.adopted p).Nodup :=
  (t.nodup_descendants p).sublist (t.adopted_sublist p)

/-- The adopted descendants of a process are, in the order of its descendants and each once, those
that some relation reports as children of init, at whatever place among the relations. They are the
processes other than itself that reported edges lead to and that init was reported to have adopted
or made. The same relations in another order give the same ones, and more relations take none of
them away. -/
theorem adopted_reported (rs : List Relation) (p : Pid) :
    let t := empty.addAll rs
    (t.adopted p).Sublist (t.descendants p) ∧ (t.adopted p).Nodup ∧
    (∀ q ∈ t.descendants p, q ∈ t.adopted p ↔ ReportedChild rs initPid q) ∧
    (∀ q, q ∈ t.adopted p ↔
      q ≠ p ∧ TransGen (ReportedChild rs) p q ∧ q ≠ noPid ∧
        ∃ r ∈ rs, r.parent = initPid ∧ r.child = q ∨ r.child = initPid ∧ r.infant = some q) ∧
    (∀ ss, (∀ r, r ∈ ss ↔ r ∈ rs) → ((empty.addAll ss).adopted p).Perm (t.adopted p)) ∧
    ∀ later, t.adopted p ⊆ (empty.addAll (rs ++ later)).adopted p := by
  intro t
  have member (q : Pid) : q ∈ t.adopted p ↔ q ∈ t.descendants p ∧ ReportedChild rs initPid q := by
    rw [mem_adopted, isParent_addAll]
  refine ⟨t.adopted_sublist p, t.nodup_adopted p, fun q below => ?_, fun q => ?_,
    fun ss same => ?_, fun later => ?_⟩
  · rw [member, and_iff_right below]
  · rw [member, mem_descendants, isParent_addAll, reportedChild_init_iff, and_assoc]
  · apply (List.perm_ext_iff_of_nodup (nodup_adopted _ p) (t.nodup_adopted p)).mpr
    exact (sameAncestry_addAll same).adopted p
  · rw [addAll, List.foldl_append]
    exact t.adopted_subset_addAll later p

/-- Init makes a process that makes another one, and is made by that one in turn. Init adopts thirty
before it is known who its parent was. -/
example :
    let t := empty.addAll [.exec 1 30, .fork 7 1 10, .fork 10 20 1, .exec 20 30]
    t.adopted 1 = [30, 10] ∧ t.adopted 20 = [30, 10] ∧ t.descendants 20 = [1, 30, 10] := by
  cbv

end Tracker
end Ancestry
end
