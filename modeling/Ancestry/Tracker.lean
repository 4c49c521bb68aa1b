import Ancestry.Relation

/-!
# The tracker

What relations report is a set of edges, from a process to one of its children. The
tracker keeps each edge once, in the order of its first report; everything else it can
tell is read off that list. Minus one stands for an unknown process and makes no edge.
Pids are used again by the system, so the edges may form cycles.
-/
namespace Ancestry

/-- The pid that stands for no process. -/
def noPid : Pid := -1

/-- Init, which adopts orphaned processes. -/
def initPid : Pid := 1

structure Edge where
  parent : Pid
  child : Pid
  deriving Repr, DecidableEq

/-- The edges that one relation reports, in order: the process under its parent, then
the new process under it. A relation about an unknown process reports nothing. -/
def Relation.edges (r : Relation) : List Edge :=
  if r.child = noPid then []
  else
    (if r.parent = noPid then [] else [⟨r.parent, r.child⟩])
      ++ (r.infant.toList.filter (· ≠ noPid)).map fun infant => ⟨r.child, infant⟩

structure Tracker where
  /-- Every known edge once, oldest first. -/
  edges : List Edge
  deriving Repr, DecidableEq

namespace Tracker

def empty : Tracker := ⟨[]⟩

/-- Records an edge unless it is known. -/
def record (t : Tracker) (e : Edge) : Tracker :=
  if e ∈ t.edges then t else ⟨t.edges ++ [e]⟩

def add (t : Tracker) (r : Relation) : Tracker := r.edges.foldl record t

def addAll (t : Tracker) (rs : List Relation) : Tracker := rs.foldl add t

/-- The children of a process, in the order of their first report. -/
def children (t : Tracker) (p : Pid) : List Pid :=
  (t.edges.filter (·.parent = p)).map (·.child)

/-- How many edges are known. -/
def size (t : Tracker) : Nat := t.edges.length

def isEmpty (t : Tracker) : Bool := t.size = 0

/-- The processes with at least one known child, each once. -/
def parents (t : Tracker) : List Pid := (t.edges.map (·.parent)).eraseDups

theorem mem_children {t : Tracker} {p q : Pid} : q ∈ t.children p ↔ ⟨p, q⟩ ∈ t.edges := by
  simp only [children, List.mem_map, List.mem_filter, decide_eq_true_eq]
  constructor
  · rintro ⟨⟨a, b⟩, ⟨h, rfl⟩, rfl⟩
    exact h
  · exact fun h => ⟨⟨p, q⟩, ⟨h, rfl⟩, rfl⟩

theorem mem_parents {t : Tracker} {p : Pid} : p ∈ t.parents ↔ t.children p ≠ [] := by
  simp only [parents, List.mem_eraseDups, List.mem_map, children, ne_eq, List.map_eq_nil_iff,
    List.filter_eq_nil_iff, decide_eq_true_eq]
  constructor
  · rintro ⟨e, he, rfl⟩ h
    exact h e he rfl
  · intro h
    apply Classical.byContradiction
    intro none
    exact h fun e he hp => none ⟨e, he, hp⟩

theorem mem_record {t : Tracker} {e f : Edge} :
    f ∈ (t.record e).edges ↔ f ∈ t.edges ∨ f = e := by
  unfold record
  split <;> simp_all

end Tracker
end Ancestry
