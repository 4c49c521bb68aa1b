import Ancestry.Proofs.SinkEffects
import Ancestry.Proofs.Transparency

/-!
# The log and the socket do not depend on each other

A report asks for both paths first and then serves the log and the socket one after the other,
in one world. Both may be named by the same path, and each may fail in its own way. What
becomes of the files is settled by the log alone, and what is delivered by the socket alone, each in
the world before the report: it makes no difference whether the other one is there, comes first,
fails, or takes half a line or half a payload.
-/
namespace Ancestry
open World

namespace Limits

theorem send_writeLine (limits : Limits) (w : World) (log text path payload : Bytes) :
    let logged := (limits.writeLine w log text).2
    let sent := limits.send w path payload
    limits.send logged path payload =
      (sent.1, { logged with deliveries := sent.2.deliveries }) := by
  intro logged sent
  have scene : SameScene w logged := limits.sameScene_writeLine w log text
  have old : logged.deliveries = w.deliveries := by
    obtain ⟨files, written⟩ := limits.writeLine_world w log text
    rw [show logged = { w with files := files } from written]
  exact SocketSink.send_sameScene scene old _ _ path payload

theorem writeLine_send (limits : Limits) (w : World) (path payload log text : Bytes) :
    let sent := (limits.send w path payload).2
    let logged := limits.writeLine w log text
    limits.writeLine sent log text = (logged.1, { sent with files := logged.2.files }) := by
  intro sent logged
  obtain ⟨arrived, delivered⟩ :=
    SocketSink.send_world w limits.descriptorsUsedUp limits.sends path payload
  obtain ⟨files, written⟩ := limits.writeLine_world w log text
  have after : limits.writeLine sent log text =
      (logged.1, { logged.2 with deliveries := w.deliveries ++ arrived }) :=
    (congrArg (limits.writeLine · log text) delivered).trans
      (limits.writeLine_deliveries w (w.deliveries ++ arrived) log text)
  rw [after, show logged.2 = { w with files := files } from written,
    show sent = { w with deliveries := w.deliveries ++ arrived } from delivered]

end Limits

namespace Reporter

/-- The world after a report, put together from what each sink alone would do. -/
theorem deliver_world_eq (r : Reporter) (relation : Relation) (h : Host) :
    (r.deliver relation h).world =
      { h.world with
        files :=
          if h.world.pathExists r.log then
            (h.limits.writeLine h.world r.log relation.encode).2.files
          else h.world.files
        deliveries :=
          if h.world.pathExists r.socket then
            (h.limits.send h.world r.socket relation.encode).2.deliveries
          else h.world.deliveries } := by
  have after := h.limits.send_writeLine h.world r.log relation.encode r.socket relation.encode
  obtain ⟨files, written⟩ := h.limits.writeLine_world h.world r.log relation.encode
  obtain ⟨arrived, sent⟩ : ∃ arrived, (h.limits.send h.world r.socket relation.encode).2 =
      { h.world with deliveries := h.world.deliveries ++ arrived } :=
    SocketSink.send_world h.world _ _ r.socket relation.encode
  rw [deliver_world]
  dsimp only at after ⊢
  rw [written, sent] at after ⊢
  cases h.world.pathExists r.log <;> cases h.world.pathExists r.socket <;>
    simp only [Bool.false_eq_true, if_true, if_false, after, sent]

/-- A report leaves the files that writing the line alone would leave, and the deliveries that
sending the payload alone would leave, and it always comes to an end. Nor does either of the two
come to another result because of the other. -/
theorem sinks_independent (r : Reporter) (relation : Relation) (h : Host) :
    let write (w : World) := h.limits.writeLine w r.log relation.encode
    let send (w : World) := h.limits.send w r.socket relation.encode
    let w := h.world
    r.deliver relation h =
      { h with
        world :=
          { w with
            files := if w.pathExists r.log then (write w).2.files else w.files
            deliveries :=
              if w.pathExists r.socket then (send w).2.deliveries else w.deliveries } } ∧
    send (write w).2 =
      ((send w).1, { (write w).2 with deliveries := (send w).2.deliveries }) ∧
    write (send w).2 = ((write w).1, { (send w).2 with files := (write w).2.files }) := by
  intro write send w
  refine ⟨?_, h.limits.send_writeLine w _ _ _ _, h.limits.writeLine_send w _ _ _ _⟩
  rw [deliver_eq, deliver_world_eq]

end Reporter
end Ancestry
