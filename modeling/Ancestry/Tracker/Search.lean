import Ancestry.Tracker

/-!
# Descendants

The descendants of a process are found with a stack of processes still to visit. A
process taken from the stack is passed over if it was visited before; else it is
emitted, unless it is the one asked about, and its unvisited children go on the stack
with the oldest on top. Every visit of a process that has children uses up one such
process, and every other turn shortens the stack, so cycles do no harm.
-/
namespace Ancestry.Tracker

/-- The processes with children that were not visited. -/
def unvisited (t : Tracker) (seen : List Pid) : List Pid :=
  t.parents.filter (· ∉ seen)

theorem unvisited_length_le (t : Tracker) (seen : List Pid) (p : Pid) :
    (t.unvisited (p :: seen)).length ≤ (t.unvisited seen).length := by
  unfold unvisited
  rw [← List.countP_eq_length_filter, ← List.countP_eq_length_filter]
  exact List.countP_mono_left fun q _ h => by simp_all

theorem unvisited_length_lt {t : Tracker} {seen : List Pid} {p : Pid} (fresh : p ∉ seen)
    (hp : p ∈ t.parents) :
    (t.unvisited (p :: seen)).length < (t.unvisited seen).length := by
  have split : t.unvisited (p :: seen) = (t.unvisited seen).filter (· ≠ p) := by
    simp only [unvisited, List.filter_filter]
    apply List.filter_congr
    intro q _
    simp
  rw [split]
  apply List.length_filter_lt_length_iff_exists.2
  exact ⟨p, by simp [unvisited, hp, fresh], by simp⟩

/-- Visits everything on the stack and below it. The processes emitted so far are in
reverse. -/
def explore (t : Tracker) (root : Pid) (seen found : List Pid) : List Pid → List Pid
  | [] => found.reverse
  | p :: stack =>
    if p ∈ seen then explore t root seen found stack
    else
      explore t root (p :: seen) (if p = root then found else p :: found)
        ((t.children p).filter (· ∉ p :: seen) ++ stack)
termination_by stack => ((t.unvisited seen).length, stack.length)
decreasing_by
  · exact Prod.Lex.right _ (by simp)
  · rename_i fresh
    by_cases hp : p ∈ t.parents
    · exact Prod.Lex.left _ _ (unvisited_length_lt fresh hp)
    · have none : t.children p = [] := by simpa [mem_parents] using hp
      rw [none]
      rcases Nat.lt_or_eq_of_le (unvisited_length_le t seen p) with h | h
      · exact Prod.Lex.left _ _ h
      · rw [h]
        exact Prod.Lex.right _ (by simp)

/-- All processes below one, each once, in the order of their visits. -/
def descendants (t : Tracker) (p : Pid) : List Pid := t.explore p [] [] [p]

/-- The descendants that were also reported as children of init: processes that left
their parent and were adopted. -/
def adopted (t : Tracker) (p : Pid) : List Pid :=
  (t.descendants p).filter (· ∈ t.children initPid)

end Ancestry.Tracker
