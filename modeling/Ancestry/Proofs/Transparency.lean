import Ancestry.Proofs.CallHistory

/-!
# Reporting goes unnoticed

A report asks for two paths, writes a line and sends a payload, and any of that may fail and leave
its own error number, as a call that sends does even if it was only interrupted. The process that is
reported on must not see it. What is saved before the first call is not touched by the calls, so it
can be put back after the last one, and the process goes on as it was, in a world that may be
another one.

From this it follows what a wrapped call returns: the value and the error number that
the function behind it has left. The exception is a fork that returns less than minus one, which
no fork does; it counts as failed, and a failed fork returns minus one.
-/
namespace Ancestry

/-- A host in the middle of its work. The error number may be overwritten, but not the
numbers that are saved. -/
structure Host.Working (h next : Host) : Prop where
  parent : next.parent = h.parent
  self : next.self = h.self
  limits : next.limits = h.limits
  saved : next.errno.saved = h.errno.saved

namespace Host.Working
variable {h next last : Host}

theorem refl (h : Host) : Working h h := ⟨rfl, rfl, rfl, rfl⟩

theorem trans (first : Working h next) (second : Working next last) : Working h last where
  parent := second.parent.trans first.parent
  self := second.self.trans first.self
  limits := second.limits.trans first.limits
  saved := second.saved.trans first.saved

theorem after {α : Type} (h : Host) (result : Except IoError α) (world : World) :
    Working h (h.after result world) := by
  cases result with
  | ok value => exact ⟨rfl, rfl, rfl, rfl⟩
  | error e => exact ⟨rfl, rfl, rfl, rfl⟩

theorem probe (h : Host) (path : Bytes) : Working h (h.probe path).2 := after h _ _

theorem writeLine (h : Host) (path text : Bytes) : Working h (h.writeLine path text).2 :=
  after h _ _

theorem disturbed (h : Host) (payload : Bytes) : Working h (h.disturbed payload) := by
  unfold Host.disturbed
  dsimp only
  split
  · exact ⟨rfl, rfl, rfl, rfl⟩
  · exact refl h

theorem send (h : Host) (path payload : Bytes) : Working h (h.send path payload).2 :=
  (disturbed h payload).trans (after _ _ _)

theorem ite {done : Prop} [Decidable done] (work : Working h next) :
    Working h (if done then next else h) := by
  split
  · exact work
  · exact refl h

/-- What was saved before the work is put back after it. -/
theorem restore (work : Working h.save next) : next.restore = { h with world := next.world } := by
  obtain ⟨world, ⟨current, saved⟩, parent, self, limits⟩ := next
  obtain ⟨rfl, rfl, rfl, rfl⟩ := work
  rfl

end Host.Working

namespace Reporter

/-- A report changes the world of its host and nothing else. -/
theorem deliver_eq (r : Reporter) (relation : Relation) (h : Host) :
    r.deliver relation h = { h with world := (r.deliver relation h).world } := by
  have work : ∃ last, Host.Working h.save last ∧ r.deliver relation h = last.restore := by
    have asked := (Host.Working.probe h.save r.log).trans (.probe _ r.socket)
    exact ⟨_, (asked.trans (.ite (.writeLine _ r.log _))).trans (.ite (.send _ r.socket _)), rfl⟩
  obtain ⟨last, work, delivered⟩ := work
  rw [delivered, work.restore]

theorem deliver_errno (r : Reporter) (relation : Relation) (h : Host) :
    (r.deliver relation h).errno = h.errno := by
  rw [deliver_eq]

end Reporter

namespace Forked

theorem eq_neg_one {value : Int32} (least : -1 ≤ value) (zero : value ≠ 0)
    (spent : ¬ 0 < value) : value = -1 := by
  have apart : value.toInt ≠ 0 := fun same => zero (Int32.toInt_inj.mp same)
  rw [Int32.le_iff_toInt_le, show (-1 : Int32).toInt = -1 from rfl] at least
  rw [Int32.lt_iff_toInt_lt, show (0 : Int32).toInt = 0 from rfl] at spent
  have same : value.toInt = -1 := by omega
  exact Int32.toInt_inj.mp same

theorem toReturn_ofReturn (value : Int32) :
    (ofReturn value).toReturn = if -1 ≤ value then value else -1 := by
  by_cases positive : 0 < value
  · have sound : -1 ≤ value := Int32.le_trans (by decide) (Int32.le_of_lt positive)
    rw [ofReturn_of_pos positive, if_pos sound]
    rfl
  by_cases zero : value = 0
  · rw [zero]
    rfl
  have failed : (ofReturn value).toReturn = -1 := by
    rw [ofReturn, if_neg zero, if_neg positive]
    rfl
  rw [failed]
  split
  · -- Zero and all above are dealt with, so minus one is all that is left.
    rename_i least
    exact (eq_neg_one least zero positive).symm
  · rfl

end Forked

namespace Wrapper

theorem forkAndReport_value (original : Fork) (r : Reporter) (h : Host) :
    (forkAndReport original r h).1 = (Forked.ofReturn (original h).1).toReturn := by
  unfold forkAndReport
  dsimp only
  cases Forked.ofReturn (original h).1 <;> rfl

theorem forkAndReport_errno (original : Fork) (r : Reporter) (h : Host) :
    (forkAndReport original r h).2.errno = (original h).2.errno := by
  by_cases positive : 0 < (original h).1
  · rw [after_fork_of_pos positive]
    exact r.deliver_errno _ _
  · rw [after_fork_of_not_pos positive]

/-- Reports leave the error number alone, and the wrapped calls return what the functions behind
them return, with the error number these leave. An exec hands on its arguments, and its
function begins with the error number of the caller. -/
theorem wrappers_transparent (r : Reporter) (h : Host) :
    (∀ relation, (r.deliver relation h).errno = h.errno) ∧
    (∀ original : Fork,
      (forkAndReport original r h).1 = (if -1 ≤ (original h).1 then (original h).1 else -1) ∧
      (forkAndReport original r h).2.errno = (original h).2.errno) ∧
    ∃ world, ∀ {α β : Type} (original : α → Host → β × Host) (arguments : α),
      reportAndExecve original r arguments h = original arguments { h with world := world } := by
  refine ⟨fun relation => r.deliver_errno relation h, fun original => ⟨?_, ?_⟩, ?_⟩
  · rw [forkAndReport_value, Forked.toReturn_ofReturn]
  · exact forkAndReport_errno original r h
  · refine ⟨(r.report none h).world, fun original arguments => ?_⟩
    have reported : r.report none h = { h with world := (r.report none h).world } :=
      r.deliver_eq _ h
    rw [reportAndExecve, ← reported]

end Wrapper
end Ancestry
