import Ancestry.Tracker.Search

/-!
# The order of the descendants

A search in depth can be told by recursion: to visit some processes, take them in order, pass over
those visited before, and visit the children of each new one right after it and before the next.
The search with a stack does the same. What is on its stack is the rest of every list of children
that was begun, innermost on top; a process that is left out when its siblings are put there was
visited before and would only be passed over.

The stack marks a process when it is taken off. If it were marked when it is put on, a process that
is a later child of one and a child of an earlier sibling would come too late.
-/
namespace Ancestry.Tracker

theorem unvisited_length_le_of_subset (t : Tracker) {seen more : List Pid} (wider : seen ⊆ more) :
    (t.unvisited more).length ≤ (t.unvisited seen).length := by
  unfold unvisited
  rw [← List.countP_eq_length_filter, ← List.countP_eq_length_filter]
  apply List.countP_mono_left
  intro p _ new
  simp only [decide_eq_true_eq] at new ⊢
  exact fun old => new (wider old)

/-- The processes emitted by a visit to some processes, behind those emitted before. A process was
visited if it was emitted or is the one that the search began at. -/
def depthFirst (t : Tracker) (root : Pid) (out : List Pid) :
    List Pid → { after : List Pid // out <+: after }
  | [] => ⟨out, List.prefix_rfl⟩
  | p :: rest =>
    if p = root ∨ p ∈ out then depthFirst t root out rest
    else
      let below := depthFirst t root (out ++ [p]) (t.children p)
      let after := depthFirst t root below.1 rest
      ⟨after.1, ((List.prefix_append out [p]).trans below.2).trans after.2⟩
termination_by ps => ((t.unvisited (root :: out)).length, ps.length)
decreasing_by
  · exact Prod.Lex.right _ (by simp)
  · rename_i new
    rw [not_or] at new
    have fresh : p ∉ root :: out := by simp [new]
    have wider : p :: root :: out ⊆ root :: (out ++ [p]) := by
      intro q member
      simp only [List.mem_cons, List.mem_append, List.not_mem_nil, or_false] at member ⊢
      rcases member with last | first | between
      · exact .inr (.inr last)
      · exact .inl first
      · exact .inr (.inl between)
    have fewer := t.unvisited_length_le_of_subset wider
    by_cases parent : p ∈ t.parents
    · exact Prod.Lex.left _ _ (Nat.lt_of_le_of_lt fewer (unvisited_length_lt fresh parent))
    · have none : t.children p = [] := by simpa [mem_parents] using parent
      have least := t.unvisited_length_le (root :: out) p
      rw [none]
      exact Prod.Lex.right' _ (Nat.le_trans fewer least) (by simp)
  · have longer : out <+: below.1 := (List.prefix_append out [p]).trans below.2
    have wider : root :: out ⊆ root :: below.1 := List.cons_subset_cons root longer.subset
    exact Prod.Lex.right' _ (t.unvisited_length_le_of_subset wider) (by simp)

/-- A search in depth below a process, which is not emitted itself. -/
def preorder (t : Tracker) (p : Pid) : List Pid := (t.depthFirst p [] (t.children p)).1

/-! ## The stack -/

variable {t : Tracker} {root : Pid}

/-- A process that was visited can be taken from anywhere on the stack. -/
theorem explore_drop {seen found above stack : List Pid} {p : Pid} (old : p ∈ seen) :
    t.explore root seen found (above ++ p :: stack) =
      t.explore root seen found (above ++ stack) := by
  generalize whole : above ++ stack = rest
  fun_induction explore t root seen found rest generalizing above with
  | case1 seen found =>
    obtain ⟨rfl, rfl⟩ := List.append_eq_nil_iff.mp whole
    rw [List.nil_append, explore, if_pos old, explore]
  | case2 seen found q rest known ih =>
    cases above with
    | nil =>
      rw [List.nil_append] at whole ⊢
      rw [explore, if_pos old, whole, explore, if_pos known]
    | cons a above =>
      obtain ⟨rfl, rfl⟩ := List.cons.inj whole
      rw [List.cons_append, explore, if_pos known]
      exact ih old rfl
  | case3 seen found q rest new ih =>
    cases above with
    | nil =>
      rw [List.nil_append] at whole ⊢
      rw [explore, if_pos old, whole, explore, if_neg new]
    | cons a above =>
      obtain ⟨rfl, rfl⟩ := List.cons.inj whole
      rw [List.cons_append, explore, if_neg new, ← List.append_assoc]
      exact ih (List.mem_cons_of_mem a old) (List.append_assoc _ _ _)

theorem explore_filter (t : Tracker) (root : Pid) (seen found ps stack : List Pid) :
    t.explore root seen found (ps.filter (· ∉ seen) ++ stack) =
      t.explore root seen found (ps ++ stack) := by
  -- A process that is kept joins what is on top of the others, so the statement is for any top.
  have under (above : List Pid) :
      t.explore root seen found (above ++ (ps.filter (· ∉ seen) ++ stack)) =
        t.explore root seen found (above ++ (ps ++ stack)) := by
    induction ps generalizing above with
    | nil => rfl
    | cons p ps ih =>
      by_cases old : p ∈ seen
      · rw [List.filter_cons_of_neg (by simpa using old), ih, List.cons_append, explore_drop old]
      · have later := ih (above ++ [p])
        rw [List.append_assoc, List.append_assoc] at later
        rw [List.filter_cons_of_pos (by simpa using old)]
        exact later
  have whole := under []
  rwa [List.nil_append, List.nil_append] at whole

/-! ## The same order -/

/-- A search with some processes on top of the stack visits them, with all below them, before it
comes to what is under them. -/
theorem explore_depthFirst (t : Tracker) (root : Pid) (out ps stack : List Pid) :
    t.explore root (out.reverse ++ [root]) out.reverse (ps ++ stack) =
      t.explore root ((t.depthFirst root out ps).1.reverse ++ [root])
        (t.depthFirst root out ps).1.reverse stack := by
  fun_induction depthFirst t root out ps generalizing stack with
  | case1 out => rfl
  | case2 out p rest known ih =>
    have old : p ∈ out.reverse ++ [root] := by simpa [or_comm] using known
    rw [List.cons_append, explore, if_pos old]
    exact ih stack
  | case3 out p rest new below after ihBelow ihAfter =>
    have fresh : p ∉ out.reverse ++ [root] := by simpa [or_comm] using new
    have visited : p :: (out.reverse ++ [root]) = (out ++ [p]).reverse ++ [root] := by simp
    have found : p :: out.reverse = (out ++ [p]).reverse := by simp
    rw [List.cons_append, explore, if_neg fresh, if_neg (not_or.mp new).1, visited, found]
    calc _ = t.explore root ((out ++ [p]).reverse ++ [root]) (out ++ [p]).reverse
          (t.children p ++ (rest ++ stack)) := t.explore_filter root _ _ (t.children p) _
      _ = t.explore root (below.1.reverse ++ [root]) below.1.reverse (rest ++ stack) :=
        ihBelow (rest ++ stack)
      _ = _ := ihAfter stack

/-- The descendants of a process are listed in the order of a recursive search in depth that takes
the children of each process as they were first reported. -/
theorem descendants_eq_preorder (t : Tracker) (p : Pid) : t.descendants p = t.preorder p := by
  have first : t.descendants p = t.explore p [p] [] ((t.children p).filter (· ∉ [p]) ++ []) := by
    rw [descendants, explore, if_neg List.not_mem_nil, if_pos rfl]
  calc t.descendants p = t.explore p [p] [] (t.children p ++ []) :=
        first.trans (t.explore_filter p [p] [] (t.children p) [])
    _ = t.explore p ((t.preorder p).reverse ++ [p]) (t.preorder p).reverse [] :=
      t.explore_depthFirst p [] (t.children p) []
    _ = t.preorder p := by rw [explore, List.reverse_reverse]

/-- A process that is the last child of one and a child of its first child. -/
example :
    (empty.addAll [.exec 1 2, .exec 1 3, .exec 1 4, .exec 2 4, .exec 4 1]).descendants 1 =
      [2, 4, 3] := by
  cbv

end Ancestry.Tracker
