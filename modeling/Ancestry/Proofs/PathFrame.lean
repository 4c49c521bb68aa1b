import Ancestry.System.World

/-!
# Paths do not depend on what files hold

A walk along a path asks of every place what kind of thing is there, and of a link where
it leads. The content of a file is never looked at. So two file systems that differ in
nothing but the content of files send every path to the same place, and what a path led
to before a write is what it leads to after it.

Only writes into a file that is there are covered. Making and removing entries does
change where paths lead, and nothing is said about that.
-/
namespace Ancestry

/-- A node without what it holds. -/
def Node.shape : Node → Node
  | .file mode _ => .file mode []
  | node => node

def Target.shape : Target → Target
  | .found loc node => .found loc node.shape
  | .free directory name => .free directory name

def Stretch.shape : Stretch → Stretch
  | .ended result => .ended (result.map Target.shape)
  | .link start names => .link start names

namespace Node

theorem shape_eq_directory {node : Node} {mode : Nat} :
    node.shape = .directory mode ↔ node = .directory mode := by
  cases node <;> simp [shape]

theorem shape_eq_symlink {node : Node} {target : Bytes} :
    node.shape = .symlink target ↔ node = .symlink target := by
  cases node <;> simp [shape]

theorem isDirectory_shape (node : Node) : node.shape.isDirectory = node.isDirectory := by
  cases node <;> rfl

end Node

namespace FileSystem

/-- Two file systems that differ in nothing but the content of files. -/
def Alike (fs gs : FileSystem) : Prop :=
  ∀ loc, (fs.get? loc).map Node.shape = (gs.get? loc).map Node.shape

section Alike
variable {fs gs : FileSystem}

theorem Alike.symm (alike : Alike fs gs) : Alike gs fs := fun loc => (alike loc).symm

theorem Alike.get?_eq_none (alike : Alike fs gs) {loc : Location} (h : fs.get? loc = none) :
    gs.get? loc = none := by
  have same := alike loc
  rw [h] at same
  exact Option.map_eq_none_iff.mp same.symm

theorem Alike.get?_eq_some (alike : Alike fs gs) {loc : Location} {node : Node}
    (h : fs.get? loc = some node) :
    ∃ other, gs.get? loc = some other ∧ other.shape = node.shape := by
  have same := alike loc
  rw [h] at same
  exact Option.map_eq_some_iff.mp same.symm

theorem Alike.get?_directory (alike : Alike fs gs) {loc : Location} {mode : Nat}
    (h : fs.get? loc = some (.directory mode)) : gs.get? loc = some (.directory mode) := by
  obtain ⟨other, there, shape⟩ := alike.get?_eq_some h
  rw [there, Node.shape_eq_directory.mp shape]

theorem Alike.get?_symlink (alike : Alike fs gs) {loc : Location} {target : Bytes}
    (h : fs.get? loc = some (.symlink target)) : gs.get? loc = some (.symlink target) := by
  obtain ⟨other, there, shape⟩ := alike.get?_eq_some h
  rw [there, Node.shape_eq_symlink.mp shape]

end Alike

/-! ## Walks -/

theorem stretch_of_not_directory (fs : FileSystem) (last : LastLink) {here : Location}
    (h : ∀ mode, fs.get? here ≠ some (.directory mode)) (name : Name) (rest : List Name) :
    fs.stretch last here (name :: rest) = .ended (.error .notDirectory) := by
  rw [stretch]
  split
  · rename_i mode there
    exact absurd there (h mode)
  · rfl

/-- A stretch of a path is walked alike, link by link and name by name. -/
theorem stretch_alike {fs gs : FileSystem} (alike : Alike fs gs) (last : LastLink)
    (here : Location) (names : List Name) :
    (fs.stretch last here names).shape = (gs.stretch last here names).shape := by
  induction names generalizing here with
  | nil =>
    rw [stretch, stretch]
    cases there : fs.get? here with
    | none => rw [alike.get?_eq_none there]
    | some node =>
      obtain ⟨other, found, shape⟩ := alike.get?_eq_some there
      rw [found]
      simp only [Stretch.shape, Except.map, Target.shape, shape]
  | cons name rest ih =>
    by_cases directory : ∃ mode, fs.get? here = some (.directory mode)
    · obtain ⟨mode, there⟩ := directory
      rw [stretch, stretch, there, alike.get?_directory there]
      dsimp only
      split
      · exact ih here
      split
      · exact ih here.dropLast
      split
      · rfl
      cases entry : fs.get? (here ++ [name]) with
      | none =>
        rw [alike.get?_eq_none entry]
      | some node =>
        -- Of all nodes a walk looks into links only, and these are alike to the last byte.
        obtain ⟨other, found, shape⟩ := alike.get?_eq_some entry
        cases node with
        | symlink target =>
          rw [alike.get?_symlink entry]
        | _ =>
          rw [found]
          cases other with
          | symlink target =>
            cases Node.shape_eq_symlink.mp shape.symm
          | _ =>
            exact ih _
    · rw [stretch_of_not_directory fs last (fun mode there => directory ⟨mode, there⟩),
        stretch_of_not_directory gs last fun mode there =>
          directory ⟨mode, alike.symm.get?_directory there⟩]

theorem walk_ended {fs : FileSystem} {last : LastLink} {here : Location} {names : List Name}
    {result : Except SystemError Target} (h : fs.stretch last here names = .ended result)
    (links : Nat) : fs.walk last links here names = result := by
  unfold walk
  rw [h]

theorem walk_loop {fs : FileSystem} {last : LastLink} {here start : Location}
    {names onward : List Name} (h : fs.stretch last here names = .link start onward) :
    fs.walk last 0 here names = .error .linkLoop := by
  unfold walk
  rw [h]

theorem walk_link {fs : FileSystem} {last : LastLink} {here start : Location}
    {names onward : List Name} (h : fs.stretch last here names = .link start onward)
    (links : Nat) : fs.walk last (links + 1) here names = fs.walk last links start onward := by
  conv => lhs; unfold walk
  rw [h]

theorem walk_alike {fs gs : FileSystem} (alike : Alike fs gs) (last : LastLink) (links : Nat)
    (here : Location) (names : List Name) :
    (fs.walk last links here names).map Target.shape =
      (gs.walk last links here names).map Target.shape := by
  induction links generalizing here names with
  | zero =>
    have same := stretch_alike alike last here names
    cases first : fs.stretch last here names <;> cases second : gs.stretch last here names <;>
      rw [first, second] at same <;> injection same
    · rw [walk_ended first, walk_ended second]
      assumption
    · rw [walk_loop first, walk_loop second]
  | succ links ih =>
    have same := stretch_alike alike last here names
    cases first : fs.stretch last here names <;> cases second : gs.stretch last here names <;>
      rw [first, second] at same <;> injection same
    · rw [walk_ended first, walk_ended second]
      assumption
    · subst_vars
      rw [walk_link first, walk_link second]
      exact ih _ _

theorem locate_alike {fs gs : FileSystem} (alike : Alike fs gs) (directory : Location)
    (last : LastLink) (path : Bytes) :
    (fs.locate directory last path).map Target.shape =
      (gs.locate directory last path).map Target.shape := by
  unfold locate
  split
  · rfl
  split
  · rfl
  exact walk_alike alike last _ _ _

theorem resolve_alike {fs gs : FileSystem} (alike : Alike fs gs) (directory : Location)
    (last : LastLink) (path : Bytes) :
    (fs.resolve directory last path).map Target.shape =
      (gs.resolve directory last path).map Target.shape := by
  have same := locate_alike alike directory (if Path.endsInSlash path then .follow else last) path
  unfold resolve
  generalize fs.locate directory _ path = first at same ⊢
  generalize gs.locate directory _ path = second at same ⊢
  rcases first with e | ⟨loc, node⟩ | ⟨around, name⟩ <;>
    rcases second with e' | ⟨loc', other⟩ | ⟨around', name'⟩ <;>
    simp only [Except.map, Except.ok.injEq, Except.error.injEq, Target.shape, Target.found.injEq,
      reduceCtorEq] at same
  · rw [same]
  · obtain ⟨rfl, shape⟩ := same
    have kind : node.isDirectory = other.isDirectory := by
      rw [← Node.isDirectory_shape, shape, Node.isDirectory_shape]
    dsimp only
    rw [kind]
    split
    · rfl
    · simp only [Except.map, Target.shape, shape]
  · rw [same]

/-! ## What a walk finds is there -/

theorem stretch_found {fs : FileSystem} {last : LastLink} {here loc : Location}
    {names : List Name} {node : Node}
    (h : fs.stretch last here names = .ended (.ok (.found loc node))) :
    fs.get? loc = some node := by
  induction names generalizing here with
  | nil =>
    rw [stretch] at h
    split at h
    · rename_i there
      cases h
      exact there
    · cases h
  | cons name rest ih =>
    rw [stretch] at h
    split at h
    · split at h
      · exact ih h
      split at h
      · exact ih h
      split at h
      · cases h
      split at h
      · split at h <;> cases h
      · rename_i target entry
        split at h
        · cases h
          exact entry
        · cases h
      · exact ih h
    · cases h

theorem walk_found {fs : FileSystem} {last : LastLink} {links : Nat} {here loc : Location}
    {names : List Name} {node : Node} (h : fs.walk last links here names = .ok (.found loc node)) :
    fs.get? loc = some node := by
  induction links generalizing here names with
  | zero =>
    cases went : fs.stretch last here names with
    | ended result =>
      rw [walk_ended went] at h
      exact stretch_found (went.trans (congrArg Stretch.ended h))
    | link start onward =>
      rw [walk_loop went] at h
      cases h
  | succ links ih =>
    cases went : fs.stretch last here names with
    | ended result =>
      rw [walk_ended went] at h
      exact stretch_found (went.trans (congrArg Stretch.ended h))
    | link start onward =>
      rw [walk_link went] at h
      exact ih h

theorem resolve_found {fs : FileSystem} {directory loc : Location} {last : LastLink}
    {path : Bytes} {node : Node} (h : fs.resolve directory last path = .ok (.found loc node)) :
    fs.get? loc = some node := by
  have located : fs.locate directory (if Path.endsInSlash path then .follow else last) path =
      .ok (.found loc node) := by
    unfold resolve at h
    split at h
    · rename_i target
      split at h
      · cases h
      · rw [target, h]
    · exact h
  unfold locate at located
  split at located
  · cases located
  split at located
  · cases located
  exact walk_found located

/-! ## Writing into a file -/

theorem alike_set_file {fs : FileSystem} {loc : Location} {mode : Nat} {content : Bytes}
    (there : fs.get? loc = some (.file mode content)) (more : Bytes) :
    Alike fs (fs.set loc (.file mode more)) := by
  intro other
  by_cases same : other = loc
  · subst same
    have below : other ≠ [] := by
      rintro rfl
      cases there
    rw [there, get?_set_self fs below]
    rfl
  · rw [get?_set_ne fs same]

end FileSystem

namespace World
open FileSystem

theorem find_eq_ok {w : World} {last : LastLink} {path : Bytes} {loc : Location} {node : Node} :
    w.find last path = .ok (loc, node) ↔
      w.files.resolve w.directory last path = .ok (.found loc node) := by
  unfold find
  split <;> simp_all

theorem find_found {w : World} {last : LastLink} {path : Bytes} {loc : Location} {node : Node}
    (found : w.find last path = .ok (loc, node)) : w.files.get? loc = some node :=
  resolve_found (find_eq_ok.mp found)

theorem find_ne_nil {w : World} {last : LastLink} {path : Bytes} {entry : Location × Node}
    (found : w.find last path = .ok entry) : path ≠ [] := by
  rintro rfl
  cases found

/-- What a path leads to stays there as long as no more than the content of files changes. -/
theorem find_alike {w v : World} (alike : Alike w.files v.files)
    (directory : v.directory = w.directory) {last : LastLink} {path : Bytes} {loc : Location}
    {node : Node} (found : w.find last path = .ok (loc, node)) :
    ∃ other, v.find last path = .ok (loc, other) ∧ other.shape = node.shape := by
  have same := resolve_alike alike w.directory last path
  rw [find_eq_ok.mp found] at same
  cases target : v.files.resolve w.directory last path with
  | error e =>
    rw [target] at same
    cases same
  | ok target' =>
    rw [target] at same
    cases target' with
    | free around name => cases same
    | found loc' other =>
      simp only [Except.map, Target.shape, Except.ok.injEq, Target.found.injEq] at same
      obtain ⟨rfl, shape⟩ := same
      exact ⟨other, find_eq_ok.mpr (directory ▸ target), shape.symm⟩

theorem status_eq_ok {w : World} {path : Bytes} {entry : Location × Node} :
    w.status path = .ok entry ↔ hasNul path = false ∧ w.find .follow path = .ok entry := by
  unfold status
  split
  · simp_all
  · split <;> simp_all

end World
end Ancestry
