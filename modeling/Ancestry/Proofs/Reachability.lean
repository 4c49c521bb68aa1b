import Mathlib.Logic.Relation
import Ancestry.Tracker.Search

/-!
# What a search reaches

A search for descendants keeps a stack of processes to visit. At every turn what was visited
and what is on the stack can be reached by recorded edges, and a child of a process that was
visited was visited itself or is on the stack. When the stack is empty nothing is left to
reach, so the descendants of a process are the processes at the end of a path of edges from
it, itself left out, each once.
-/
section
open Relation (ReflTransGen TransGen reflTransGen_iff_eq_or_transGen)
namespace Ancestry.Tracker

/-- There is a recorded edge from one process to another. -/
def IsParent (t : Tracker) (p q : Pid) : Prop := q ∈ t.children p

/-- What holds at every turn of a search. -/
structure Searching (t : Tracker) (root : Pid) (seen found stack : List Pid) : Prop where
  begun : root ∈ seen ∨ root ∈ stack
  seenReached : ∀ p ∈ seen, ReflTransGen t.IsParent root p
  stackReached : ∀ p ∈ stack, ReflTransGen t.IsParent root p
  closed : ∀ p ∈ seen, ∀ q, t.IsParent p q → q ∈ seen ∨ q ∈ stack
  emitted : ∀ p, p ∈ found ↔ p ∈ seen ∧ p ≠ root
  nodup : found.Nodup

namespace Searching
variable {t : Tracker} {root p : Pid} {seen found stack : List Pid}

theorem start (t : Tracker) (root : Pid) : Searching t root [] [] [root] where
  begun := .inr List.mem_cons_self
  seenReached _ h := absurd h List.not_mem_nil
  stackReached p h := by
    obtain rfl := List.mem_singleton.mp h
    exact .refl
  closed _ h := absurd h List.not_mem_nil
  emitted p := by simp
  nodup := List.nodup_nil

/-- A process that was visited before is passed over. -/
theorem skip (h : Searching t root seen found (p :: stack)) (old : p ∈ seen) :
    Searching t root seen found stack where
  begun := by
    rcases h.begun with seen | top
    · exact .inl seen
    · rcases List.mem_cons.mp top with rfl | below
      · exact .inl old
      · exact .inr below
  seenReached := h.seenReached
  stackReached q below := h.stackReached q (List.mem_cons_of_mem p below)
  closed a visited b child := by
    rcases h.closed a visited b child with seen | top
    · exact .inl seen
    · rcases List.mem_cons.mp top with rfl | below
      · exact .inl old
      · exact .inr below
  emitted := h.emitted
  nodup := h.nodup

/-- The children of a new process take its place on the stack. -/
theorem visit (h : Searching t root seen found (p :: stack)) (new : p ∉ seen) :
    Searching t root (p :: seen) (if p = root then found else p :: found)
      ((t.children p).filter (· ∉ p :: seen) ++ stack) := by
  have reached : ReflTransGen t.IsParent root p := h.stackReached p List.mem_cons_self
  have kept {q : Pid} (top : q ∈ p :: stack) :
      q ∈ p :: seen ∨ q ∈ (t.children p).filter (· ∉ p :: seen) ++ stack := by
    rcases List.mem_cons.mp top with rfl | below
    · exact .inl List.mem_cons_self
    · exact .inr (List.mem_append_right _ below)
  refine ⟨?_, ?_, ?_, ?_, ?_, ?_⟩
  · rcases h.begun with visited | top
    · exact .inl (List.mem_cons_of_mem p visited)
    · exact kept top
  · exact List.forall_mem_cons.mpr ⟨reached, h.seenReached⟩
  · intro q member
    rcases List.mem_append.mp member with child | below
    · exact reached.tail (List.mem_filter.mp child).1
    · exact h.stackReached q (List.mem_cons_of_mem p below)
  · intro a visited b child
    rcases List.mem_cons.mp visited with rfl | visited
    · by_cases known : b ∈ a :: seen
      · exact .inl known
      · exact .inr (List.mem_append_left _ (List.mem_filter.mpr ⟨child, by simpa using known⟩))
    · rcases h.closed a visited b child with known | top
      · exact .inl (List.mem_cons_of_mem p known)
      · exact kept top
  · intro q
    have emitted := h.emitted q
    by_cases first : p = root
    · rw [if_pos first, emitted, List.mem_cons]
      constructor
      · exact fun ⟨visited, other⟩ => ⟨.inr visited, other⟩
      · rintro ⟨rfl | visited, other⟩
        · exact absurd first other
        · exact ⟨visited, other⟩
    · rw [if_neg first, List.mem_cons, emitted, List.mem_cons]
      constructor
      · rintro (rfl | ⟨visited, other⟩)
        · exact ⟨.inl rfl, first⟩
        · exact ⟨.inr visited, other⟩
      · rintro ⟨rfl | visited, other⟩
        · exact .inl rfl
        · exact .inr ⟨visited, other⟩
  · by_cases first : p = root
    · rw [if_pos first]
      exact h.nodup
    · rw [if_neg first]
      exact List.nodup_cons.mpr ⟨fun old => new ((h.emitted p).mp old).1, h.nodup⟩

/-- With nothing left on the stack, all that can be reached was visited. -/
theorem mem_seen_of_reached (h : Searching t root seen found []) {q : Pid}
    (reached : ReflTransGen t.IsParent root q) : q ∈ seen := by
  induction reached with
  | refl =>
    rcases h.begun with visited | top
    · exact visited
    · exact absurd top List.not_mem_nil
  | tail _ child ih =>
    rcases h.closed _ ih _ child with visited | top
    · exact visited
    · exact absurd top List.not_mem_nil

theorem explore (h : Searching t root seen found stack) :
    (t.explore root seen found stack).Nodup ∧
      ∀ q, q ∈ t.explore root seen found stack ↔ q ≠ root ∧ ReflTransGen t.IsParent root q := by
  fun_induction Tracker.explore t root seen found stack with
  | case1 seen found =>
    refine ⟨(List.reverse_perm found).nodup_iff.mpr h.nodup, fun q => ?_⟩
    rw [List.mem_reverse, h.emitted]
    constructor
    · exact fun ⟨visited, other⟩ => ⟨other, h.seenReached q visited⟩
    · exact fun ⟨other, reached⟩ => ⟨h.mem_seen_of_reached reached, other⟩
  | case2 seen found p stack old ih => exact ih (h.skip old)
  | case3 seen found p stack new ih => exact ih (h.visit new)

end Searching

theorem nodup_descendants (t : Tracker) (p : Pid) : (t.descendants p).Nodup :=
  (Searching.start t p).explore.1

/-- The descendants of a process are what its edges lead to in one step or more, without the
process itself. -/
theorem mem_descendants {t : Tracker} {p q : Pid} :
    q ∈ t.descendants p ↔ q ≠ p ∧ TransGen t.IsParent p q := by
  rw [descendants, (Searching.start t p).explore.2]
  refine and_congr_right fun other => ?_
  rw [reflTransGen_iff_eq_or_transGen]
  exact or_iff_right other

theorem mem_adopted {t : Tracker} {p q : Pid} :
    q ∈ t.adopted p ↔ q ∈ t.descendants p ∧ t.IsParent initPid q := by
  simp only [adopted, List.mem_filter, decide_eq_true_eq, IsParent]

end Ancestry.Tracker
end
