import Ancestry.System.World

/-!
# Socket addresses

The address of a socket in the file system is a field of fixed size that holds the path,
a zero byte behind it, and zero bytes up to its end. A path that does not fit together
with its zero byte has no address, nor has the empty path or one with a zero byte inside.
-/
namespace Ancestry

structure SocketAddress where
  field : Bytes
  /-- The bytes of the address that count: its family, the path and one zero byte. -/
  length : Nat
  field_length : field.length = World.socketPathRoom
  deriving Repr, DecidableEq

namespace SocketAddress

/-- The bytes before the path, which name the family of the address. -/
def familyLength : Nat := 2

/-- The bytes of the field up to its first zero byte. -/
def path (a : SocketAddress) : Bytes := a.field.takeWhile (· ≠ 0)

/-- The field for a path that leaves room for a zero byte. -/
def fill (path : Bytes) : Bytes := path ++ List.replicate (World.socketPathRoom - path.length) 0

theorem length_fill {path : Bytes} (h : path.length ≤ World.socketPathRoom) :
    (fill path).length = World.socketPathRoom := by
  simp only [fill, List.length_append, List.length_replicate]
  omega

/-- The address of a path. Its length is looked at before its bytes. -/
def ofPath (path : Bytes) : Except SystemError SocketAddress :=
  if h : World.socketPathRoom ≤ path.length then .error .nameTooLong
  else if path = [] ∨ 0 ∈ path then .error .invalidArgument
  else .ok ⟨fill path, familyLength + path.length + 1, length_fill (by omega)⟩

/-- An address gives back the path it was made from. -/
theorem path_of_ofPath {path : Bytes} {a : SocketAddress} (h : ofPath path = .ok a) :
    a.path = path := by
  unfold ofPath at h
  split at h
  · cases h
  · rename_i short
    split at h
    · cases h
    · rename_i sound
      cases h
      have nonzero : ∀ b ∈ path, (b ≠ 0 : Bool) := by
        intro b member
        by_cases zero : b = 0
        · exact absurd (Or.inr (zero ▸ member)) sound
        · simpa using zero
      obtain ⟨n, room⟩ : ∃ n, World.socketPathRoom - path.length = n + 1 :=
        ⟨World.socketPathRoom - path.length - 1, by omega⟩
      simp only [SocketAddress.path, fill, room, List.replicate_succ]
      rw [List.takeWhile_append_of_pos nonzero]
      simp

end SocketAddress
end Ancestry
