import Ancestry.Proofs.Reachability

/-!
# The turns of a search

A search is a loop. Each turn takes one process from the stack, and one that was not visited before
leaves its children there. An edge brings something to the stack only in the turn that visits its
parent, and a process is visited once. So what is on the stack, together with the edges of the
processes not visited yet, becomes less with every turn, and a search is over after one turn for
the process asked about and at most one more for every edge, whatever cycles the edges form.
-/
section
open Relation (TransGen)
namespace Ancestry.Tracker

/-- A search between two turns. The processes emitted so far are in reverse. -/
structure Search where
  seen : List Pid
  found : List Pid
  stack : List Pid
  deriving Repr, DecidableEq

namespace Search
variable {t : Tracker} {root : Pid} {s u v : Search}

def start (root : Pid) : Search := ⟨[], [], [root]⟩

/-- One turn. With nothing on the stack the loop is left. -/
def turn (t : Tracker) (root : Pid) (s : Search) : Option Search :=
  match s.stack with
  | [] => none
  | p :: stack =>
    if p ∈ s.seen then some { s with stack := stack }
    else
      some ⟨p :: s.seen, if p = root then s.found else p :: s.found,
        (t.children p).filter (· ∉ p :: s.seen) ++ stack⟩

/-- A number of turns, one after the other. -/
inductive Turns (t : Tracker) (root : Pid) : Nat → Search → Search → Prop
  | done (s : Search) : Turns t root 0 s s
  | turn {s u v : Search} {n : Nat} :
      s.turn t root = some u → Turns t root n u v → Turns t root (n + 1) s v

theorem turn_eq_none : s.turn t root = none ↔ s.stack = [] := by
  unfold turn
  cases s.stack with
  | nil => simp
  | cons p stack => by_cases old : p ∈ s.seen <;> simp [old]

/-- A turn passes over the process on top or visits it. -/
theorem turn_cases (h : s.turn t root = some u) :
    ∃ p stack, s.stack = p :: stack ∧
      ((p ∈ s.seen ∧ u = { s with stack := stack }) ∨
        (p ∉ s.seen ∧
          u = ⟨p :: s.seen, if p = root then s.found else p :: s.found,
            (t.children p).filter (· ∉ p :: s.seen) ++ stack⟩)) := by
  unfold turn at h
  cases top : s.stack with
  | nil => simp [top] at h
  | cons p stack =>
    refine ⟨p, stack, rfl, ?_⟩
    by_cases old : p ∈ s.seen
    · simp only [top, old, if_true, Option.some.injEq] at h
      exact .inl ⟨old, h.symm⟩
    · simp only [top, old, if_false, Option.some.injEq] at h
      exact .inr ⟨old, h.symm⟩

/-! ## The loop and its result -/

theorem explore_turn (h : s.turn t root = some u) :
    t.explore root s.seen s.found s.stack = t.explore root u.seen u.found u.stack := by
  obtain ⟨p, stack, top, ⟨old, rfl⟩ | ⟨new, rfl⟩⟩ := turn_cases h
  · rw [top, Tracker.explore, if_pos old]
  · rw [top, Tracker.explore, if_neg new]

theorem Turns.explore {n : Nat} (h : Turns t root n s u) :
    t.explore root s.seen s.found s.stack = t.explore root u.seen u.found u.stack := by
  induction h with
  | done s => rfl
  | turn step _ ih => exact (explore_turn step).trans ih

/-! ## How many turns there are -/

/-- What is on the stack and what can still come there. -/
def left (t : Tracker) (s : Search) : Nat :=
  s.stack.length + (t.edges.filter (·.parent ∉ s.seen)).length

/-- The edges of the processes not visited, with and without one of them. -/
theorem length_unused (edges : List Edge) {seen : List Pid} {p : Pid} (new : p ∉ seen) :
    (edges.filter (·.parent ∉ seen)).length =
      (edges.filter (·.parent = p)).length + (edges.filter (·.parent ∉ p :: seen)).length := by
  induction edges with
  | nil => rfl
  | cons e edges ih =>
    by_cases own : e.parent = p
    · simp [own, new] at ih ⊢
      omega
    · by_cases old : e.parent ∈ seen
      · simp [own, old] at ih ⊢
        omega
      · simp [own, old] at ih ⊢
        omega

theorem left_turn (h : s.turn t root = some u) : u.left t < s.left t := by
  obtain ⟨p, stack, top, ⟨-, rfl⟩ | ⟨new, rfl⟩⟩ := turn_cases h
  · simp [left, top]
  · have used := length_unused t.edges new
    have pushed := List.length_filter_le (fun q => decide (q ∉ p :: s.seen)) (t.children p)
    have children : (t.children p).length = (t.edges.filter (·.parent = p)).length :=
      List.length_map _
    simp only [left, top, List.length_append, List.length_cons]
    omega

theorem exists_turns (t : Tracker) (root : Pid) (s : Search) :
    ∃ n ≤ s.left t, ∃ last, Turns t root n s last ∧ last.turn t root = none := by
  induction less : s.left t using Nat.strongRecOn generalizing s with
  | ind bound ih =>
    cases next : s.turn t root with
    | none => exact ⟨0, Nat.zero_le _, s, .done s, next⟩
    | some u =>
      have shorter : u.left t < bound := less ▸ left_turn next
      obtain ⟨n, few, last, turns, ended⟩ := ih _ shorter u rfl
      exact ⟨n + 1, by omega, last, .turn next turns, ended⟩

theorem left_start (t : Tracker) (root : Pid) : (start root).left t = t.size + 1 := by
  have all : t.edges.filter (·.parent ∉ (start root).seen) = t.edges :=
    List.filter_eq_self.mpr fun e _ => decide_eq_true (List.not_mem_nil (a := e.parent))
  rw [left, all, start, size, List.length_singleton, Nat.add_comm]

end Search

/-- The search for the descendants of a process ends, after one turn and at most one more for each
edge, and what it has found then are the processes at the end of a path of edges from the one asked
about, itself left out, each once. -/
theorem descendants_reached (t : Tracker) (p : Pid) :
    (∃ n ≤ t.size + 1, ∃ last, Search.Turns t p n (.start p) last ∧ last.turn t p = none ∧
      t.descendants p = last.found.reverse) ∧
    (t.descendants p).Nodup ∧
    ∀ q, q ∈ t.descendants p ↔ q ≠ p ∧ TransGen t.IsParent p q := by
  obtain ⟨n, few, last, turns, ended⟩ := Search.exists_turns t p (.start p)
  rw [Search.left_start] at few
  refine ⟨⟨n, few, last, turns, ended, ?_⟩, t.nodup_descendants p, fun q => mem_descendants⟩
  calc t.descendants p = t.explore p last.seen last.found last.stack := turns.explore
    _ = last.found.reverse := by rw [Search.turn_eq_none.mp ended, explore]

end Ancestry.Tracker
end
