import Ancestry.Proofs.ListenerLife

/-!
# What binding does to the place

Binding clears the place first and only then asks for a socket there, and what was cleared away is
not put back. Nearly all that can be wrong with a path is noticed by the clearing already, so that
nothing has happened when binding fails. Three things are not. A path may be short enough for an
entry to be removed and too long for a socket. A link may be a part of the way to itself, so that
without it the path leads nowhere. And the system may let an entry be removed and refuse a socket.
In these cases the entry at the place is lost, and nothing else.

The permission bits come last. If they cannot be changed, the entry of the new socket stays where it
was put, and nothing answers behind it.
-/
namespace Ancestry
open World FileSystem

/-! ## The way to an entry -/

namespace FileSystem
variable {fs : FileSystem} {last : LastLink} {here loc : Location}

section Leaf
variable {bare : Node} (there : fs.get? loc = some bare) (leaf : bare.waymark = .leaf)
include there leaf

end Leaf
end FileSystem

namespace World
variable {w : World} {path : Bytes} {loc : Location} {node : Node}

/-- Without an entry a path cannot be followed. -/
def LeadsThrough (w : World) (path : Bytes) (loc : Location) : Prop :=
  ∀ target, (w.files.remove loc).locate w.directory .keep path ≠ .ok target

end World

namespace Listener
variable {w u v : World} {path : Bytes} {loc directory : Location} {name : Name} {node : Node}
  {records : List Record}

/-! ## What the place has to be like -/

/-- A socket can be put at a place, once that is cleared. -/
structure Placeable (w : World) (path : Bytes) (loc : Location) : Prop where
  sound : hasNul path = false
  noSlash : Path.endsInSlash path = false
  short : path.length < socketPathRoom
  named : w.Names path loc
  cleared : ∀ node, w.files.get? loc = some node → node.isDirectory = false
  around : ¬ w.LeadsThrough path loc
  had : w.refusal? [.socket] [] = none
  made : w.refusal? [.entry, .socket] loc = none

theorem clear_of_found (sound : hasNul path = false) (noSlash : Path.endsInSlash path = false)
    (located : w.files.locate w.directory .keep path = .ok (.found loc node))
    (noDirectory : node.isDirectory = false) (removable : w.refusal? [.entry] loc = none) :
    ∃ records, clear w path = .ok ({ w with files := w.files.remove loc }, records) := by
  have removed : w.unlink path = .ok { w with files := w.files.remove loc } :=
    unlink_eq_ok.mpr ⟨sound, noSlash, loc, node, located, noDirectory, removable, rfl⟩
  exact ⟨_, by rw [clear, removed]⟩

theorem clear_of_free (sound : hasNul path = false)
    (free : w.files.locate w.directory .keep path = .ok (.free directory name)) :
    clear w path = .ok (w, []) := by
  have missing : w.unlink path = .error (.system .notFound) := by
    rw [unlink, sound, if_neg Bool.false_ne_true, free]
  rw [clear, missing]

/-- Where an entry was removed, a name is free. -/
theorem free_of_removed {target : Target}
    (located : w.files.locate w.directory .keep path = .ok (.found loc node))
    (noDirectory : node.isDirectory = false)
    (left : (w.files.remove loc).locate w.directory .keep path = .ok target) :
    ∃ directory name, target = .free directory name := by
  have below : loc ≠ [] := by
    rintro rfl
    cases locate_found located
    cases noDirectory
  have nothing := get?_remove_self w.files below
  obtain ⟨other, before, same⟩ := locate_kept (keeps_remove w.files loc) left (.inl rfl)
  cases located.symm.trans before
  cases target with
  | free directory name => exact ⟨directory, name, rfl⟩
  | found place entry =>
    have there := locate_found left
    rw [← show loc = place from same, nothing] at there
    cases there

/-- Where a socket can be put, clearing leaves all that it takes. -/
theorem Placeable.seats (placeable : Placeable w path loc) :
    ∃ u records directory name, clear w path = .ok (u, records) ∧ loc = directory ++ [name] ∧
      Seats u path directory name := by
  obtain ⟨target, located, same⟩ := placeable.named
  cases target with
  | free directory name =>
    obtain rfl : directory ++ [name] = loc := same
    exact ⟨w, [], directory, name, clear_of_free placeable.sound located, rfl, placeable.sound,
      placeable.noSlash, placeable.short, placeable.had, located, placeable.made⟩
  | found place node =>
    obtain rfl : place = loc := same
    have noDirectory := placeable.cleared node (locate_found located)
    obtain ⟨records, cleared⟩ := clear_of_found placeable.sound placeable.noSlash located
      noDirectory (refusal?_mono placeable.made (by simp))
    obtain ⟨target, left⟩ :
        ∃ target, (w.files.remove place).locate w.directory .keep path = .ok target :=
      Classical.byContradiction fun none =>
        placeable.around fun target found => none ⟨target, found⟩
    obtain ⟨directory, name, rfl⟩ := free_of_removed located noDirectory left
    have place_eq : place = directory ++ [name] := by
      obtain ⟨named, -⟩ := clear_free cleared left
      exact Names.unique ⟨_, located, rfl⟩ named
    exact ⟨_, records, directory, name, cleared, place_eq, placeable.sound, placeable.noSlash,
      placeable.short, placeable.had, left, place_eq ▸ placeable.made⟩

variable {result : Except Failure Listener × World × List Record}

/-- A link to its own directory can be reached through itself. -/
example :
    let w := { World.bare with
      files := World.bare.files.set (World.place "/tmp/work/l") (.symlink Path.dot) }
    let bound := bind w (Bytes.ofString "l/l")
    (∃ f, bound.1 = .error f) ∧ bound.2.1.files.get? (World.place "/tmp/work/l") = none :=
  ⟨⟨_, rfl⟩, rfl⟩

/-- A world with something in a file. -/
def withFile : World :=
  { World.bare with
    files := World.bare.files.set (World.place "/tmp/work/f") (.file 0o644 (Bytes.ofString "x")) }

/-- The path of the file, by way of its directory many times. -/
def roundabout : Bytes := (List.replicate 54 (Bytes.ofString "./")).flatten ++ Bytes.ofString "f"

/-- The same world where something is refused everywhere. -/
def without (access : Access) : World :=
  { withFile with obstacles := [⟨access, [], .notPermitted⟩] }

end Listener
end Ancestry
