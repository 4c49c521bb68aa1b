import Ancestry.Proofs.SinkEffects
import Ancestry.System.Scene

/-!
# A payload arrives once or not at all

What is looked at before a payload is sent comes in an order: the length of the path, its bytes, a
descriptor, and what the path leads to. The first thing that is wrong is the error that is
reported, and then nobody was reached. If nothing is wrong, the listener behind the path gets one
connection with the payload and nobody else gets any. Files are not touched in either case.

A call that sends takes here all it is offered. What comes of calls that take less is told with the
transmission. The process is privileged, so permission bits keep it from no socket.
-/
namespace Ancestry
open World

/-- A path that fits into a socket address. -/
structure Addressable (path : Bytes) : Prop where
  nonempty : 1 ≤ path.length
  short : path.length ≤ 107
  sound : 0 ∉ path

namespace SocketSink

/-- What is found when a payload is to be sent: an error, or the endpoint that gets it. -/
inductive Course (w : World) (descriptorsUsedUp : Bool) (path : Bytes) :
    Except SystemError Nat → Prop
  | tooLong : 107 < path.length → Course w descriptorsUsedUp path (.error .nameTooLong)
  | unusable : path.length ≤ 107 → path = [] ∨ 0 ∈ path →
      Course w descriptorsUsedUp path (.error .invalidArgument)
  | noDescriptor : Addressable path → descriptorsUsedUp = true →
      Course w descriptorsUsedUp path (.error .tooManyOpenFiles)
  | nowhere {e : SystemError} : Addressable path → descriptorsUsedUp = false →
      w.find .follow path = .error e → Course w descriptorsUsedUp path (.error e)
  | silent {loc : Location} {node : Node} : Addressable path → descriptorsUsedUp = false →
      w.find .follow path = .ok (loc, node) →
      (∀ mode endpoint, node = .socket mode endpoint → endpoint ∉ w.listening) →
      Course w descriptorsUsedUp path (.error .connectionRefused)
  | answered {endpoint : Nat} : Addressable path → descriptorsUsedUp = false →
      w.Answers path endpoint → Course w descriptorsUsedUp path (.ok endpoint)

/-- What comes of a payload then. -/
def upshot (w : World) (payload : Bytes) :
    Except SystemError Nat → Except IoError Unit × World
  | .ok endpoint => (.ok (), w.deliver endpoint payload)
  | .error e => (.error (.system e), w)

end SocketSink

/-! ## Addresses -/

namespace Addressable
variable {path : Bytes}

theorem hasNul_eq_false (fits : Addressable path) : hasNul path = false := by
  rw [hasNul, List.contains_eq_mem, decide_eq_false_iff_not]
  exact fits.sound

theorem exists_ofPath (fits : Addressable path) :
    ∃ address, SocketAddress.ofPath path = .ok address ∧ address.path = path :=
  SocketAddress.exists_ofPath (Nat.lt_succ_of_le fits.short)
    (List.ne_nil_of_length_pos fits.nonempty) fits.hasNul_eq_false

/-- A path that is neither too long nor unusable fits. -/
theorem of_not (short : path.length ≤ 107) (usable : ¬ (path = [] ∨ 0 ∈ path)) :
    Addressable path where
  nonempty := List.length_pos_iff.mpr fun empty => usable (.inl empty)
  short := short
  sound := fun zero => usable (.inr zero)

end Addressable

/-! ## Sending -/

namespace SocketSink
variable {w : World} {descriptorsUsedUp : Bool} {path : Bytes}

theorem exists_course (w : World) (descriptorsUsedUp : Bool) (path : Bytes) :
    ∃ result, Course w descriptorsUsedUp path result := by
  by_cases long : 107 < path.length
  · exact ⟨_, .tooLong long⟩
  have short : path.length ≤ 107 := Nat.not_lt.mp long
  by_cases unusable : path = [] ∨ 0 ∈ path
  · exact ⟨_, .unusable short unusable⟩
  have fits := Addressable.of_not short unusable
  cases descriptorsUsedUp with
  | true => exact ⟨_, .noDescriptor fits rfl⟩
  | false =>
    cases found : w.find .follow path with
    | error e => exact ⟨_, .nowhere fits rfl found⟩
    | ok entry =>
      obtain ⟨loc, node⟩ := entry
      by_cases alive : ∃ mode endpoint, node = .socket mode endpoint ∧ endpoint ∈ w.listening
      · obtain ⟨mode, endpoint, rfl, listens⟩ := alive
        have status := status_eq_ok.mpr ⟨fits.hasNul_eq_false, found⟩
        exact ⟨_, .answered fits rfl ⟨⟨loc, mode, status⟩, listens⟩⟩
      · refine ⟨_, .silent fits rfl found fun mode endpoint socket listens => ?_⟩
        exact alive ⟨mode, endpoint, socket, listens⟩

/-- A connection that is refused leaves nothing behind. -/
theorem send_of_connect_error {e : SystemError} (fits : Addressable path)
    (refused : w.connect path = .error e) (payload : Bytes) :
    send w false [] path payload = (.error (.system e), w) := by
  obtain ⟨address, made, back⟩ := fits.exists_ofPath
  simp only [send, made, back, refused, Bool.false_eq_true, if_false]

theorem connect_of_silent {loc : Location} {node : Node}
    (found : w.find .follow path = .ok (loc, node))
    (silent : ∀ mode endpoint, node = .socket mode endpoint → endpoint ∉ w.listening) :
    w.connect path = .error .connectionRefused := by
  rw [connect, found]
  cases node with
  | socket mode endpoint => exact if_neg (silent mode endpoint rfl)
  | _ => rfl

/-- What is found decides what comes of the payload. -/
theorem Course.send_eq {result : Except SystemError Nat}
    (course : Course w descriptorsUsedUp path result) (payload : Bytes) :
    send w descriptorsUsedUp [] path payload = upshot w payload result := by
  cases course with
  | tooLong long =>
    have refused : SocketAddress.ofPath path = .error .nameTooLong := dif_pos long
    rw [send, refused]
    rfl
  | unusable short unusable =>
    have room : ¬ socketPathRoom ≤ path.length := Nat.not_le.mpr (Nat.lt_succ_of_le short)
    have refused : SocketAddress.ofPath path = .error .invalidArgument := by
      rw [SocketAddress.ofPath, dif_neg room, if_pos unusable]
    rw [send, refused]
    rfl
  | noDescriptor fits usedUp =>
    obtain ⟨address, made, -⟩ := fits.exists_ofPath
    simp only [send, made, usedUp, if_true]
    rfl
  | @nowhere e fits free missing =>
    have refused : w.connect path = .error e := by rw [connect, missing]
    rw [free]
    exact send_of_connect_error fits refused payload
  | silent fits free found silent =>
    rw [free]
    exact send_of_connect_error fits (connect_of_silent found silent) payload
  | answered fits free answers =>
    obtain ⟨calls, all⟩ := transmit_nil payload
    rw [free, send_answered answers (Nat.lt_succ_of_le fits.short), all]
    rfl

theorem Course.ok_iff {result : Except SystemError Nat}
    (course : Course w descriptorsUsedUp path result) {endpoint : Nat} :
    result = .ok endpoint ↔
      Addressable path ∧ descriptorsUsedUp = false ∧ w.Answers path endpoint := by
  constructor
  · rintro rfl
    cases course with
    | answered fits free answers => exact ⟨fits, free, answers⟩
  · rintro ⟨fits, free, ⟨⟨loc, mode, status⟩, listens⟩⟩
    have found := (status_eq_ok.mp status).2
    cases course with
    | tooLong long => exact absurd fits.short (Nat.not_le.mpr long)
    | unusable short unusable =>
      rcases unusable with rfl | zero
      · exact absurd fits.nonempty (by decide)
      · exact absurd zero fits.sound
    | noDescriptor _ usedUp => cases free.symm.trans usedUp
    | nowhere _ _ missing => cases found.symm.trans missing
    | silent _ _ found' silent =>
      cases found.symm.trans found'
      exact absurd listens (silent mode endpoint rfl)
    | answered _ _ answers =>
      obtain ⟨⟨loc', mode', status'⟩, -⟩ := answers
      cases status.symm.trans status'
      rfl

theorem received_deliver_eq (w : World) (endpoint other : Nat) (payload : Bytes) :
    (w.deliver endpoint payload).received other =
      w.received other ++ if other = endpoint then [payload] else [] := by
  by_cases same : other = endpoint
  · rw [if_pos same, same, received_deliver]
  · have apart : ¬ endpoint = other := fun equal => same equal.symm
    simp [received, deliver, same, apart]

/-- Where every call takes all it is offered, sending succeeds exactly if the path fits into an
address, a descriptor is left and a listener answers at the path. Then this listener gets one more
connection, which carries the payload, and no other gets any. Otherwise the first thing that is
wrong is reported and nothing happens. -/
theorem send_once (w : World) (descriptorsUsedUp : Bool) (path payload : Bytes) :
    let sent := send w descriptorsUsedUp [] path payload
    (sent.1 = .ok () ↔
      Addressable path ∧ descriptorsUsedUp = false ∧ ∃ endpoint, w.Answers path endpoint) ∧
    (∃ result, Course w descriptorsUsedUp path result) ∧
    (∀ result, Course w descriptorsUsedUp path result → sent = upshot w payload result) ∧
    (∀ endpoint, w.Answers path endpoint → sent.1 = .ok () → ∀ other,
      sent.2.received other = w.received other ++ if other = endpoint then [payload] else []) ∧
    (sent.1 ≠ .ok () → sent.2 = w) ∧
    sent.2.files = w.files := by
  intro sent
  obtain ⟨result, course⟩ := exists_course w descriptorsUsedUp path
  have came : sent = upshot w payload result := course.send_eq payload
  have iff : sent.1 = .ok () ↔ ∃ endpoint, result = .ok endpoint := by
    rw [came]
    cases result <;> simp [upshot]
  refine ⟨?_, ⟨result, course⟩, fun other found => found.send_eq payload, ?_, ?_,
    send_files w descriptorsUsedUp [] path payload⟩
  · rw [iff]
    simp only [course.ok_iff, exists_and_left]
  · intro endpoint answers done other
    obtain ⟨reached, rfl⟩ := iff.mp done
    obtain ⟨fits, free, -⟩ := course.ok_iff.mp rfl
    cases course.ok_iff.mpr ⟨fits, free, answers⟩
    rw [came]
    exact received_deliver_eq w endpoint other payload
  · intro failed
    rw [came]
    cases result with
    | error e => rfl
    | ok endpoint => exact absurd (iff.mpr ⟨endpoint, rfl⟩) failed

end SocketSink
end Ancestry
