import Ancestry.Tracker.View

/-!
# What a tracker remembers

The relations added to a tracker are read as a sequence of edges. The tracker remembers of
it which edges there were and in which order each was first reported, and nothing else: not
how often, and not which relation an edge came from. So the children of a process are the
ends of its edges in the order of their first report.

An edge from or to an unknown process is never recorded. A relation that is added later
changes nothing about what was recorded before.
-/
namespace Ancestry

/-- The edges a relation reports: from each of its pids to the next, where both are known.
An unknown process in the middle takes both edges away. -/
def Relation.links (r : Relation) : List Edge :=
  (r.pids.zip r.pids.tail).filterMap fun (p, q) =>
    if p = noPid ∨ q = noPid then none else some ⟨p, q⟩

theorem Relation.edges_eq_links (r : Relation) : r.edges = r.links := by
  obtain ⟨parent, child, infant⟩ := r
  by_cases unknown : child = noPid
  · cases infant <;> simp [edges, links, pids, unknown]
  · cases infant with
    | none => by_cases known : parent = noPid <;> simp [edges, links, pids, unknown, known]
    | some infant =>
      by_cases known : parent = noPid <;> by_cases born : infant = noPid <;>
        simp [edges, links, pids, unknown, known, born]

theorem Relation.known_of_mem_links {r : Relation} {e : Edge} (h : e ∈ r.links) :
    e.parent ≠ noPid ∧ e.child ≠ noPid := by
  obtain ⟨⟨p, q⟩, -, link⟩ := List.mem_filterMap.mp h
  dsimp only at link
  split at link
  · cases link
  · rename_i known
    obtain rfl := Option.some.inj link
    exact not_or.mp known

/-! ## First occurrences -/

section First
variable {α : Type} [DecidableEq α]

theorem eraseDups_concat (l : List α) (a : α) :
    (l ++ [a]).eraseDups = if a ∈ l then l.eraseDups else l.eraseDups ++ [a] := by
  rw [List.eraseDups_append]
  by_cases known : a ∈ l
  · simp [List.removeAll, known]
  · simp [List.removeAll, known, List.eraseDups_cons]

theorem nodup_eraseDups (l : List α) : l.eraseDups.Nodup := by
  match l with
  | [] => exact List.nodup_nil
  | a :: l =>
    have shorter : (l.filter fun b => !b == a).length < l.length + 1 :=
      Nat.lt_succ_of_le (List.length_filter_le _ l)
    rw [List.eraseDups_cons, List.nodup_cons]
    refine ⟨?_, nodup_eraseDups _⟩
    simp [List.mem_eraseDups]
termination_by l.length

end First

namespace Tracker

/-! ## One edge -/

theorem children_record (t : Tracker) (e : Edge) (p : Pid) :
    (t.record e).children p =
      if e.parent = p ∧ e.child ∉ t.children p then t.children p ++ [e.child]
      else t.children p := by
  have known : e ∈ t.edges ↔ e.child ∈ t.children e.parent := mem_children.symm
  unfold record
  by_cases there : e ∈ t.edges
  · rw [if_pos there, if_neg]
    rintro ⟨rfl, new⟩
    exact new (known.mp there)
  · rw [if_neg there]
    by_cases own : e.parent = p
    · subst own
      have new : e.child ∉ t.children e.parent := fun old => there (known.mpr old)
      rw [if_pos ⟨rfl, new⟩]
      simp [children]
    · rw [if_neg fun h => own h.1]
      simp [children, own]

/-- The ends of the edges of a sequence that begin at a process. -/
def targets (past : List Edge) (p : Pid) : List Pid :=
  (past.filter (·.parent = p)).map (·.child)

/-- What a tracker knows after the edges of a sequence were recorded. -/
structure Recalls (t : Tracker) (past : List Edge) : Prop where
  edges : t.edges = past.eraseDups
  children : ∀ p, t.children p = (targets past p).eraseDups

namespace Recalls
variable {t : Tracker} {past : List Edge}

theorem empty : Recalls Tracker.empty [] := ⟨rfl, fun _ => rfl⟩

theorem record (h : Recalls t past) (e : Edge) : Recalls (t.record e) (past ++ [e]) where
  edges := by
    have known : e ∈ t.edges ↔ e ∈ past := by rw [h.edges, List.mem_eraseDups]
    unfold Tracker.record
    rw [eraseDups_concat]
    by_cases old : e ∈ past
    · rw [if_pos (known.mpr old), if_pos old, h.edges]
    · rw [if_neg (fun there => old (known.mp there)), if_neg old, h.edges]
  children p := by
    rw [children_record]
    by_cases own : e.parent = p
    · subst own
      have known : e.child ∈ t.children e.parent ↔ e.child ∈ targets past e.parent := by
        rw [h.children, List.mem_eraseDups]
      have last : targets (past ++ [e]) e.parent = targets past e.parent ++ [e.child] := by
        simp [targets]
      rw [last, eraseDups_concat]
      by_cases old : e.child ∈ targets past e.parent
      · rw [if_neg (fun new => new.2 (known.mpr old)), if_pos old, h.children]
      · rw [if_pos ⟨rfl, fun there => old (known.mp there)⟩, if_neg old, h.children]
    · have same : targets (past ++ [e]) p = targets past p := by simp [targets, own]
      rw [if_neg fun new => own new.1, same, h.children]

theorem foldl (h : Recalls t past) (es : List Edge) :
    Recalls (es.foldl Tracker.record t) (past ++ es) := by
  induction es generalizing t past with
  | nil => rwa [List.append_nil]
  | cons e es ih =>
    have later := ih (h.record e)
    rwa [List.append_assoc] at later

theorem add (h : Recalls t past) (r : Relation) : Recalls (t.add r) (past ++ r.links) :=
  r.edges_eq_links ▸ h.foldl r.edges

theorem addAll (h : Recalls t past) (rs : List Relation) :
    Recalls (t.addAll rs) (past ++ rs.flatMap Relation.links) := by
  induction rs generalizing t past with
  | nil => rwa [List.flatMap_nil, List.append_nil]
  | cons r rs ih =>
    have later := ih (h.add r)
    rwa [List.append_assoc] at later

end Recalls

theorem recalls_addAll (rs : List Relation) :
    Recalls (empty.addAll rs) (rs.flatMap Relation.links) :=
  Recalls.empty.addAll rs

theorem mem_edges_addAll {rs : List Relation} {e : Edge} :
    e ∈ (empty.addAll rs).edges ↔ ∃ r ∈ rs, e ∈ r.links := by
  rw [(recalls_addAll rs).edges, List.mem_eraseDups, List.mem_flatMap]

/-! ## What is added later -/

theorem children_prefix_record (t : Tracker) (e : Edge) (p : Pid) :
    t.children p <+: (t.record e).children p := by
  rw [children_record]
  split
  · exact List.prefix_append _ _
  · exact List.prefix_rfl

theorem children_prefix_add (t : Tracker) (r : Relation) (p : Pid) :
    t.children p <+: (t.add r).children p := by
  unfold add
  induction r.edges generalizing t with
  | nil => exact List.prefix_rfl
  | cons e es ih => exact (t.children_prefix_record e p).trans (ih (t.record e))

theorem mem_foldl_record {t : Tracker} {es : List Edge} {f : Edge} :
    f ∈ (es.foldl record t).edges ↔ f ∈ t.edges ∨ f ∈ es := by
  induction es generalizing t with
  | nil => simp
  | cons e es ih => rw [List.foldl_cons, ih, mem_record, List.mem_cons, or_assoc]

theorem foldl_record_of_known {t : Tracker} {es : List Edge} (known : ∀ e ∈ es, e ∈ t.edges) :
    es.foldl record t = t := by
  induction es with
  | nil => rfl
  | cons e es ih =>
    obtain ⟨old, known⟩ := List.forall_mem_cons.mp known
    have same : t.record e = t := if_pos old
    rw [List.foldl_cons, same, ih known]

theorem addAll_eq_foldl (t : Tracker) (rs : List Relation) :
    t.addAll rs = (rs.flatMap Relation.edges).foldl record t :=
  List.foldl_flatMap.symm

/-- Relations that are added a second time change nothing. -/
theorem addAll_again (t : Tracker) (rs : List Relation) :
    (t.addAll rs).addAll rs = t.addAll rs := by
  rw [addAll_eq_foldl (t.addAll rs)]
  apply foldl_record_of_known
  intro e member
  rw [addAll_eq_foldl, mem_foldl_record]
  exact .inr member

/-! ## All relations -/

/-- A tracker that some relations were added to tells for every process the ends of its
reported edges, each once and in the order of the first report; it knows as many edges as
were reported, not counting repetitions. The unknown process is nowhere in it, every process
listed as a parent has a child, and one more relation puts children at the end of lists and
nowhere else. -/
theorem children_addAll (rs : List Relation) :
    let t := empty.addAll rs
    let reported := rs.flatMap Relation.links
    (∀ p, t.children p = (targets reported p).eraseDups ∧ (t.children p).Nodup) ∧
      (∀ family ∈ t.snapshot, family.1 ≠ noPid ∧ noPid ∉ family.2 ∧ family.2 ≠ []) ∧
      t.size = reported.eraseDups.length ∧
      ∀ r p, t.children p <+: (t.add r).children p := by
  intro t reported
  have recalls : Recalls t reported := recalls_addAll rs
  have known : ∀ e ∈ t.edges, e.parent ≠ noPid ∧ e.child ≠ noPid := by
    intro e member
    obtain ⟨r, -, link⟩ := mem_edges_addAll.mp member
    exact Relation.known_of_mem_links link
  refine ⟨fun p => ⟨recalls.children p, ?_⟩, fun family member => ?_, ?_, t.children_prefix_add⟩
  · rw [recalls.children]
    exact nodup_eraseDups _
  · obtain ⟨p, parent, rfl⟩ := List.mem_map.mp member
    rw [List.mem_mergeSort, mem_parents] at parent
    obtain ⟨q, child⟩ := List.exists_mem_of_ne_nil _ parent
    refine ⟨(known _ (mem_children.mp child)).1, fun unknown => ?_, parent⟩
    exact (known _ (mem_children.mp unknown)).2 rfl
  · rw [size, recalls.edges]

/-- Relations in which a process is its own parent, a parent is unknown, or the new process
is. -/
example :
    (empty.addAll [.fork 5 5 6, .fork noPid 6 5, .fork 5 7 noPid, .exec 5 6]).children 5 =
      [5, 6, 7] := by
  decide

end Tracker
end Ancestry
