import Ancestry.Report.SocketSink

/-!
# What becomes of a payload that is taken piece by piece

A transmission is a loop of calls, and each call is offered what no call before it has taken. So the
bytes taken so far are always the front of the payload, as long as the counts of the calls add up
to. The loop is left at the first call that takes nothing or fails, unless it was merely
interrupted, or as soon as all is taken. An interrupted call only costs a call, and any other that
does not end the loop takes at least one byte. So the loop ends if interruptions do.
-/
namespace Ancestry
namespace Transmission
variable {ε : Type}

/-- The bytes a call took. -/
def Outcome.count : Outcome ε → Nat
  | .taken count => count
  | _ => 0

/-- No other call is made after such a one, whatever is left. -/
def Outcome.Stops (o : Outcome ε) : Prop := o = .taken 0 ∨ ∃ e, o = .failed e

/-- One more call, which is offered what is left of the payload. -/
def Progress.call (payload : Bytes) (p : Progress ε) (o : Outcome ε) : Progress ε :=
  let rest := payload.drop p.accepted.length
  match o with
  | .interrupted => ⟨p.accepted, p.calls + 1, .unfinished⟩
  | .failed e => ⟨p.accepted, p.calls + 1, .failed e⟩
  | .taken 0 => ⟨p.accepted, p.calls + 1, .nothingTaken⟩
  | .taken count =>
    ⟨p.accepted ++ rest.take count, p.calls + 1,
      if rest.drop count = [] then .complete else .unfinished⟩

/-- What calls come to, counted from the first. -/
abbrev Outcomes (ε : Type) := Nat → Outcome ε

namespace Outcomes

def first (outcomes : Outcomes ε) (n : Nat) : List (Outcome ε) := (List.range n).map outcomes

/-- The bytes that the first calls take together. -/
def total (outcomes : Outcomes ε) : Nat → Nat
  | 0 => 0
  | n + 1 => outcomes.total n + (outcomes n).count

/-- The first calls are all made: before each of them something is left, and none ends the loop. -/
def Underway (outcomes : Outcomes ε) (payload : Bytes) (n : Nat) : Prop :=
  ∀ k < n, outcomes.total k < payload.length ∧ ¬ (outcomes k).Stops

end Outcomes

/-- How a transmission stands that was given the outcomes of some calls: why it has ended, after
how many of them and with which bytes taken, or that all were made and something is left. -/
inductive Course (payload : Bytes) (outcomes : Outcomes ε) (n : Nat) : Progress ε → Prop
  | complete {k : Nat} : k ≤ n → outcomes.Underway payload k → payload.length ≤ outcomes.total k →
      Course payload outcomes n ⟨payload, k, .complete⟩
  | nothingTaken {k : Nat} : k < n → outcomes.Underway payload k →
      outcomes.total k < payload.length → outcomes k = .taken 0 →
      Course payload outcomes n ⟨payload.take (outcomes.total k), k + 1, .nothingTaken⟩
  | failed {k : Nat} {e : ε} : k < n → outcomes.Underway payload k →
      outcomes.total k < payload.length → outcomes k = .failed e →
      Course payload outcomes n ⟨payload.take (outcomes.total k), k + 1, .failed e⟩
  | unfinished : outcomes.Underway payload n → outcomes.total n < payload.length →
      Course payload outcomes n ⟨payload.take (outcomes.total n), n, .unfinished⟩

/-! ## One call -/

theorem send_nil (outcomes : List (Outcome ε)) : send [] outcomes = ⟨[], 0, .complete⟩ := by
  cases outcomes with
  | nil => rfl
  | cons o later => exact if_pos rfl

theorem send_first {payload : Bytes} (something : payload ≠ []) (o : Outcome ε) :
    send payload [o] = Progress.call payload ⟨[], 0, .unfinished⟩ o := by
  rcases o with (_ | count) | _ | e <;>
    simp [send, something, Progress.call, Progress.after]

/-- A call after others is a call on what the first of them has left. -/
theorem call_after (payload : Bytes) (count : Nat) (p : Progress ε) (o : Outcome ε) :
    (p.after (payload.take count)).call payload o =
      (p.call (payload.drop count) o).after (payload.take count) := by
  have rest : payload.drop (payload.take count ++ p.accepted).length =
      (payload.drop count).drop p.accepted.length := by
    rw [List.length_append, ← List.drop_drop, List.length_take, List.drop_drop, List.drop_drop]
    by_cases short : count ≤ payload.length
    · rw [Nat.min_eq_left short]
    · rw [List.drop_of_length_le (by omega), List.drop_of_length_le (by omega)]
  rcases o with (_ | count) | _ | e <;>
    simp only [Progress.call, Progress.after, rest, List.append_assoc]

/-- With one outcome more, a transmission that has not ended makes one call more. -/
theorem send_concat {payload : Bytes} {outcomes : List (Outcome ε)}
    (unfinished : (send payload outcomes).ending = .unfinished) (o : Outcome ε) :
    send payload (outcomes ++ [o]) = (send payload outcomes).call payload o := by
  induction outcomes generalizing payload with
  | nil =>
    have something : payload ≠ [] := by
      rintro rfl
      cases unfinished
    rw [List.nil_append, send_first something, send, if_neg something]
  | cons first later ih =>
    by_cases nothing : payload = []
    · rw [nothing, send_nil] at unfinished
      cases unfinished
    rcases first with (_ | count) | _ | e
    · simp [send, nothing] at unfinished
    · simp only [send, nothing, if_false, List.cons_append] at unfinished ⊢
      rw [ih unfinished, call_after]
    · simp only [send, nothing, if_false, List.cons_append] at unfinished ⊢
      rw [ih unfinished]
      exact (call_after payload 0 _ o).symm
    · simp [send, nothing] at unfinished

/-- A transmission that has ended makes no more calls. -/
theorem send_of_ended {payload : Bytes} {outcomes : List (Outcome ε)}
    (ended : (send payload outcomes).ending ≠ .unfinished) (more : List (Outcome ε)) :
    send payload (outcomes ++ more) = send payload outcomes := by
  induction outcomes generalizing payload with
  | nil =>
    have nothing : payload = [] :=
      Decidable.byContradiction fun something => ended (if_neg something)
    rw [nothing, send_nil, send_nil]
  | cons first later ih =>
    by_cases nothing : payload = []
    · rw [nothing, send_nil, send_nil]
    rcases first with (_ | count) | _ | e
    · simp [send, nothing]
    · simp only [send, nothing, if_false, List.cons_append] at ended ⊢
      rw [ih ended]
    · simp only [send, nothing, if_false, List.cons_append] at ended ⊢
      rw [ih ended]
    · simp [send, nothing]

/-! ## All calls -/

namespace Outcomes
variable {outcomes : Outcomes ε} {payload : Bytes}

theorem first_succ (outcomes : Outcomes ε) (n : Nat) :
    outcomes.first (n + 1) = outcomes.first n ++ [outcomes n] := by
  rw [first, List.range_succ, List.map_append]
  rfl

theorem first_add (outcomes : Outcomes ε) (n m : Nat) :
    ∃ more, outcomes.first (n + m) = outcomes.first n ++ more := by
  rw [first, List.range_add, List.map_append]
  exact ⟨_, rfl⟩

theorem Underway.succ {n : Nat} (calls : outcomes.Underway payload n)
    (left : outcomes.total n < payload.length) (goes : ¬ (outcomes n).Stops) :
    outcomes.Underway payload (n + 1) := by
  intro k before
  rcases Nat.lt_succ_iff_lt_or_eq.mp before with earlier | rfl
  · exact calls k earlier
  · exact ⟨left, goes⟩

/-- Calls that are made and not interrupted take a byte each. -/
theorem Underway.le_total {n m : Nat} (calls : outcomes.Underway payload (n + m))
    (calm : ∀ k ≥ n, outcomes k ≠ .interrupted) : m ≤ outcomes.total (n + m) := by
  induction m with
  | zero => exact Nat.zero_le _
  | succ m ih =>
    have before := ih fun k earlier => calls k (by omega)
    obtain ⟨-, goes⟩ := calls (n + m) (by omega)
    have some : 0 < (outcomes (n + m)).count := by
      have calm := calm (n + m) (Nat.le_add_right n m)
      cases came : outcomes (n + m) with
      | taken count =>
        refine Nat.pos_of_ne_zero fun zero => goes (.inl ?_)
        rw [came]
        exact congrArg Outcome.taken zero
      | interrupted => exact absurd came calm
      | failed e => exact absurd (.inr ⟨e, came⟩) goes
    rw [← Nat.add_assoc, total]
    omega

end Outcomes

variable {payload : Bytes} {outcomes : Outcomes ε} {n : Nat}

/-- One call more keeps to the course. -/
theorem Course.call {p : Progress ε} (course : Course payload outcomes n p)
    (unfinished : p.ending = .unfinished) :
    Course payload outcomes (n + 1) (p.call payload (outcomes n)) := by
  cases course with
  | complete => cases unfinished
  | nothingTaken => cases unfinished
  | failed => cases unfinished
  | unfinished calls left =>
    have offset : (payload.take (outcomes.total n)).length = outcomes.total n :=
      List.length_take_of_le (Nat.le_of_lt left)
    rcases came : outcomes n with (_ | count) | _ | e
    · exact .nothingTaken (Nat.lt_succ_self n) calls left came
    · have goes : ¬ (outcomes n).Stops := by
        simp [Outcome.Stops, came]
      have more : outcomes.total (n + 1) = outcomes.total n + (count + 1) := by
        rw [Outcomes.total, came]
        rfl
      have taken : payload.take (outcomes.total n) ++
          (payload.drop (outcomes.total n)).take (count + 1) =
            payload.take (outcomes.total (n + 1)) := by
        rw [more, List.take_add (i := outcomes.total n)]
      simp only [Progress.call, offset, taken, List.drop_drop, ← more, List.drop_eq_nil_iff]
      by_cases all : payload.length ≤ outcomes.total (n + 1)
      · rw [if_pos all, List.take_of_length_le all]
        exact .complete (Nat.le_refl _) (calls.succ left goes) all
      · rw [if_neg all]
        exact .unfinished (calls.succ left goes) (Nat.not_le.mp all)
    · have goes : ¬ (outcomes n).Stops := by
        simp [Outcome.Stops, came]
      have same : outcomes.total (n + 1) = outcomes.total n := by
        rw [Outcomes.total, came]
        rfl
      have still : Course payload outcomes (n + 1) _ :=
        .unfinished (calls.succ left goes) (same ▸ left)
      rwa [same] at still
    · exact .failed (Nat.lt_succ_self n) calls left came

/-- What has ended stays so however many outcomes there are. -/
theorem Course.more {p : Progress ε} (course : Course payload outcomes n p)
    (ended : p.ending ≠ .unfinished) : Course payload outcomes (n + 1) p := by
  cases course with
  | complete within calls all => exact .complete (Nat.le_succ_of_le within) calls all
  | nothingTaken within calls left came =>
    exact .nothingTaken (Nat.lt_succ_of_lt within) calls left came
  | failed within calls left came => exact .failed (Nat.lt_succ_of_lt within) calls left came
  | unfinished => exact absurd rfl ended

theorem course_send (payload : Bytes) (outcomes : Outcomes ε) (n : Nat) :
    Course payload outcomes n (send payload (outcomes.first n)) := by
  have none : outcomes.Underway payload 0 := fun k before => absurd before (Nat.not_lt_zero k)
  induction n with
  | zero =>
    change Course payload outcomes 0 (send payload [])
    cases payload with
    | nil => exact .complete (Nat.le_refl 0) none (Nat.le_refl 0)
    | cons b rest => exact .unfinished none (Nat.succ_pos _)
  | succ n ih =>
    rw [Outcomes.first_succ]
    by_cases unfinished : (send payload (outcomes.first n)).ending = .unfinished
    · rw [send_concat unfinished]
      exact ih.call unfinished
    · rw [send_of_ended unfinished]
      exact ih.more unfinished

/-! ## What the course tells -/

theorem Course.accepted_front {p : Progress ε} (course : Course payload outcomes n p) :
    p.accepted <+: payload := by
  cases course with
  | complete => exact List.prefix_rfl
  | nothingTaken | failed | unfinished => exact List.take_prefix _ _

/-- All is taken exactly if the transmission is complete. -/
theorem Course.complete_iff {p : Progress ε} (course : Course payload outcomes n p) :
    p.ending = .complete ↔ p.accepted = payload := by
  have part {total : Nat} (left : total < payload.length) : payload.take total ≠ payload := by
    intro all
    have length := congrArg List.length all
    rw [List.length_take_of_le (Nat.le_of_lt left)] at length
    omega
  cases course with
  | complete => exact ⟨fun _ => rfl, fun _ => rfl⟩
  | nothingTaken _ _ left => exact ⟨nofun, fun all => absurd all (part left)⟩
  | failed _ _ left => exact ⟨nofun, fun all => absurd all (part left)⟩
  | unfinished _ left => exact ⟨nofun, fun all => absurd all (part left)⟩

theorem Course.exists_failed {p : Progress ε} {e : ε} (course : Course payload outcomes n p)
    (failed : p.ending = .failed e) : ∃ k, outcomes k = .failed e := by
  cases course with
  | complete | nothingTaken | unfinished => cases failed
  | failed _ _ _ came =>
    cases failed
    exact ⟨_, came⟩

/-- Without more interruptions there is a call for every byte at most. -/
theorem Course.ended {m : Nat} {p : Progress ε}
    (course : Course payload outcomes (m + payload.length) p)
    (calm : ∀ k ≥ m, outcomes k ≠ .interrupted) : p.ending ≠ .unfinished := by
  cases course with
  | complete | nothingTaken | failed => nofun
  | unfinished calls left => exact absurd (calls.le_total calm) (Nat.not_le.mpr left)

/-- So it is for the outcomes of a list. -/
theorem exists_course (payload : Bytes) (outcomes : List (Outcome ε)) :
    ∃ all, Course payload all outcomes.length (send payload outcomes) := by
  let all : Outcomes ε := fun k => outcomes[k]?.getD .interrupted
  have same : all.first outcomes.length = outcomes := by
    apply List.ext_getElem (by simp [Outcomes.first])
    intro k _ within
    simp [Outcomes.first, all, within]
  have course := course_send payload all outcomes.length
  rw [same] at course
  exact ⟨all, course⟩

theorem Reply.outcome_eq_interrupted {r : Reply} :
    r.outcome = .interrupted ↔ r = .error .interrupted := by
  cases r with
  | ok count => exact ⟨nofun, nofun⟩
  | error e => by_cases again : e = .interrupted <;> simp [Reply.outcome, again]

theorem Reply.outcome_eq_failed {r : Reply} {e : SystemError} :
    r.outcome = .failed e ↔ r = .error e ∧ e ≠ .interrupted := by
  cases r with
  | ok count => exact ⟨nofun, nofun⟩
  | error other =>
    by_cases again : other = .interrupted
    · simp only [Reply.outcome, again, if_true, reduceCtorEq, Except.error.injEq, false_iff]
      rintro ⟨rfl, failed⟩
      exact failed rfl
    · simp only [Reply.outcome, again, if_false, Outcome.failed.injEq, Except.error.injEq]
      exact ⟨fun same => ⟨same, same ▸ again⟩, And.left⟩

/-- Whatever the system says to the calls of a transmission, the bytes taken so far are the front
of the payload, and as many as the calls made have taken. The loop is left when nothing is left of
the payload, at a call that takes nothing and at one that fails and was not interrupted, and not
before; it is left if interruptions end. It succeeds exactly if the whole payload was taken, and for
an empty one makes no call. -/
theorem transmission_course (payload : Bytes) (replies : Nat → Reply) :
    let outcomes : Outcomes SystemError := fun k => (replies k).outcome
    let sent (n : Nat) := send payload (outcomes.first n)
    (∀ n, (sent n).accepted <+: payload) ∧
    (∀ n, Course payload outcomes n (sent n)) ∧
    (∀ n, (sent n).ending ≠ .unfinished → ∀ m, sent (n + m) = sent n) ∧
    (∀ m, (∀ k ≥ m, replies k ≠ .error .interrupted) →
      (sent (m + payload.length)).ending ≠ .unfinished) ∧
    (∀ n, SocketSink.outcome (sent n).ending = .ok () ↔ (sent n).accepted = payload) ∧
    (∀ n, (sent n).ending = .nothingTaken →
      SocketSink.outcome (sent n).ending = .error .shortWrite) ∧
    (∀ n e, (sent n).ending = .failed e →
      SocketSink.outcome (sent n).ending = .error (.system e) ∧ e ≠ .interrupted) ∧
    (payload = [] → ∀ n, sent n = ⟨[], 0, .complete⟩) := by
  intro outcomes sent
  have course n : Course payload outcomes n (sent n) := course_send payload outcomes n
  refine ⟨fun n => (course n).accepted_front, course, fun n ended m => ?_, fun m calm => ?_,
    fun n => ?_, fun n nothing => ?_, fun n e failed => ⟨?_, ?_⟩, ?_⟩
  · obtain ⟨more, longer⟩ := outcomes.first_add n m
    change send payload (outcomes.first (n + m)) = _
    rw [longer, send_of_ended ended]
  · exact (course _).ended fun k late interrupted =>
      calm k late (Reply.outcome_eq_interrupted.mp interrupted)
  · rw [← (course n).complete_iff]
    cases (sent n).ending <;> simp [SocketSink.outcome]
  · rw [nothing]
    rfl
  · rw [failed]
    rfl
  · obtain ⟨k, came⟩ := (course n).exists_failed failed
    exact (Reply.outcome_eq_failed.mp came).2
  · rintro rfl n
    exact send_nil _

end Transmission
end Ancestry
