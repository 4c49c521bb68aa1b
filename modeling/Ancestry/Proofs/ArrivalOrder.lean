import Ancestry.Proofs.ChannelAgreement
import Ancestry.Proofs.LegibleLines
import Ancestry.Proofs.Reachability
import Ancestry.Proofs.TrackerHistory
import Ancestry.Supervisor.Listener

/-!
# The order of messages does not matter

Connections are handled at the same time, so their messages can be recorded in any order;
and a process can be reported more than once. The order decides in which order the children
of a process are listed. It does not decide what the edges are: trackers that were sent the
same messages know the same parents and children, as many edges, and the same descendants of
every process, adopted ones among them.

A handler keeps what it reads to itself and adds to the tracker once, under a lock, when it
has read all of its message. So a handler needs one step only, the one in which it ends.
-/
namespace Ancestry

/-- What a connection brings, however it is divided: its bytes, and whether they break off. -/
def Arrival.message (a : Arrival) : Bytes × Bool := (a.pieces.flatten, a.isReset)

/-- The same messages in any order, each any number of times. -/
def SameMessages (as bs : List Arrival) : Prop :=
  ∀ m, m ∈ as.map Arrival.message ↔ m ∈ bs.map Arrival.message

/-- Two trackers with the same edges. Their lists may be in different orders. -/
structure SameAncestry (t u : Tracker) : Prop where
  size : t.size = u.size
  parents : ∀ p, p ∈ t.parents ↔ p ∈ u.parents
  children : ∀ p q, q ∈ t.children p ↔ q ∈ u.children p
  descendants : ∀ p q, q ∈ t.descendants p ↔ q ∈ u.descendants p
  adopted : ∀ p q, q ∈ t.adopted p ↔ q ∈ u.adopted p

/-! ## Trackers with the same edges -/

theorem sameAncestry_of_edges {t u : Tracker} (once : t.edges.Nodup) (onceToo : u.edges.Nodup)
    (same : ∀ e, e ∈ t.edges ↔ e ∈ u.edges) : SameAncestry t u := by
  have children : ∀ p q, q ∈ t.children p ↔ q ∈ u.children p := by
    intro p q
    rw [Tracker.mem_children, Tracker.mem_children, same]
  have isParent : t.IsParent = u.IsParent := funext₂ fun p q => propext (children p q)
  have descendants : ∀ p q, q ∈ t.descendants p ↔ q ∈ u.descendants p := by
    intro p q
    rw [Tracker.mem_descendants, Tracker.mem_descendants, isParent]
  refine ⟨?_, fun p => ?_, children, descendants, fun p q => ?_⟩
  · exact ((List.perm_ext_iff_of_nodup once onceToo).mpr same).length_eq
  · have empty : t.children p = [] ↔ u.children p = [] := by
      simp only [List.eq_nil_iff_forall_not_mem, children]
    rw [Tracker.mem_parents, Tracker.mem_parents, ne_eq, ne_eq, empty]
  · rw [Tracker.mem_adopted, Tracker.mem_adopted, descendants, isParent]

/-- What a tracker knows is settled by which relations were added. -/
theorem sameAncestry_addAll {rs ss : List Relation} (same : ∀ r, r ∈ rs ↔ r ∈ ss) :
    SameAncestry (Tracker.empty.addAll rs) (Tracker.empty.addAll ss) := by
  have once (rs : List Relation) : (Tracker.empty.addAll rs).edges.Nodup := by
    rw [(Tracker.recalls_addAll rs).edges]
    exact nodup_eraseDups _
  apply sameAncestry_of_edges (once rs) (once ss)
  intro e
  rw [Tracker.mem_edges_addAll, Tracker.mem_edges_addAll]
  simp only [same]

/-! ## Messages handled one after the other -/

namespace Connection

/-- The relation that is recorded of a connection, if any. -/
def relation? (a : Arrival) : Option Relation := (handle .empty a).result.toOption

theorem handle_tracker (t : Tracker) (a : Arrival) :
    (handle t a).tracker = t.addAll (relation? a).toList := by
  unfold relation? handle
  cases Failure.during "Failed to read message" (receive a) with
  | error f => rfl
  | ok message =>
    dsimp only
    cases decode message <;> rfl

theorem relation?_congr {a b : Arrival} (same : a.message = b.message) :
    relation? a = relation? b := by
  obtain ⟨bytes, reset⟩ := Prod.mk.inj same
  have received : receive a = receive b := by
    rw [receive, receive, takeUpTo_eq, takeUpTo_eq, bytes, reset]
  unfold relation? handle
  rw [received]

end Connection

namespace Channels

theorem attended_eq_addAll (t : Tracker) (as : List Arrival) :
    attended t as = t.addAll (as.filterMap Connection.relation?) := by
  induction as generalizing t with
  | nil => rfl
  | cons a as ih =>
    have rest : attended t (a :: as) = attended (Connection.handle t a).tracker as := rfl
    rw [rest, ih, Connection.handle_tracker, ← Tracker.addAll_append]
    cases told : Connection.relation? a <;> simp [told]

theorem attended_concat (t : Tracker) (as : List Arrival) (a : Arrival) :
    attended t (as ++ [a]) = (Connection.handle (attended t as) a).tracker := by
  rw [attended, List.foldl_append]
  rfl

end Channels
open Channels

theorem SameMessages.mem_relations {as bs : List Arrival} (same : SameMessages as bs)
    (r : Relation) :
    r ∈ as.filterMap Connection.relation? ↔ r ∈ bs.filterMap Connection.relation? := by
  have carried {as bs : List Arrival} (same : SameMessages as bs)
      (h : r ∈ as.filterMap Connection.relation?) : r ∈ bs.filterMap Connection.relation? := by
    obtain ⟨a, member, told⟩ := List.mem_filterMap.mp h
    obtain ⟨b, there, message⟩ :=
      List.mem_map.mp ((same a.message).mp (List.mem_map_of_mem member))
    exact List.mem_filterMap.mpr ⟨b, there, (Connection.relation?_congr message).trans told⟩
  exact ⟨carried same, carried fun m => (same m).symm⟩

theorem SameMessages.of_perm {as bs : List Arrival} (h : as.Perm bs) : SameMessages as bs :=
  fun _ => (h.map Arrival.message).mem_iff

theorem SameMessages.trans {as bs cs : List Arrival} (h : SameMessages as bs)
    (k : SameMessages bs cs) : SameMessages as cs :=
  fun m => (h m).trans (k m)

theorem sameAncestry_attended {as bs : List Arrival} (same : SameMessages as bs) :
    SameAncestry (attended .empty as) (attended .empty bs) := by
  rw [attended_eq_addAll, attended_eq_addAll]
  exact sameAncestry_addAll same.mem_relations

/-! ## Handlers that run at the same time -/

/-- A listener at work: the visits still to come, the connections whose handlers run, and the
tracker they share. -/
structure Service where
  coming : List Visit
  running : List Arrival
  tracker : Tracker

namespace Service

/-- A connection is accepted, or the handler of any that was accepted ends. A refusal that
comes before is only reported. -/
inductive Step : Service → Service → Prop
  | accept (v : Visit) (coming : List Visit) (running : List Arrival) (t : Tracker) :
      Step ⟨v :: coming, running, t⟩ ⟨coming, running ++ [v.arrival], t⟩
  | finish (coming : List Visit) (before : List Arrival) (a : Arrival) (behind : List Arrival)
      (t : Tracker) :
      Step ⟨coming, before ++ a :: behind, t⟩
        ⟨coming, before ++ behind, (Connection.handle t a).tracker⟩

/-- Some steps, one after the other. -/
inductive Run : Service → Service → Prop
  | done (s : Service) : Run s s
  | step {s u v : Service} : Step s u → Run u v → Run s v

/-- All visits were accepted and all handlers have ended, and this is the tracker. -/
def Ends (visits : List Visit) (t : Tracker) : Prop :=
  Run ⟨visits, [], .empty⟩ ⟨[], [], t⟩

/-- What the tracker knows are the messages of some handlers that ended, in the order in which
they did; no connection is lost or handled twice. -/
def Accounts (as : List Arrival) (s : Service) : Prop :=
  ∃ ended, s.tracker = attended .empty ended ∧
    (ended ++ s.running ++ s.coming.map (·.arrival)).Perm as

theorem Step.accounts {as : List Arrival} {s u : Service} (step : Step s u)
    (h : Accounts as s) : Accounts as u := by
  obtain ⟨ended, tracker, all⟩ := h
  cases step with
  | accept v coming running t =>
    refine ⟨ended, tracker, ?_⟩
    simpa using all
  | finish coming before a behind t =>
    refine ⟨ended ++ [a], ?_, ?_⟩
    · rw [attended_concat, ← tracker]
    · refine List.Perm.trans (List.Perm.append_right _ ?_) all
      dsimp only
      rw [List.append_assoc, List.singleton_append]
      exact (List.perm_middle.symm).append_left ended

theorem Run.accounts {as : List Arrival} {s u : Service} (run : Run s u)
    (h : Accounts as s) : Accounts as u := by
  induction run with
  | done s => exact h
  | step step _ ih => exact ih (step.accounts h)

/-- The tracker at the end is that of the messages handled one after the other, in some
order. -/
theorem Ends.exists_perm {visits : List Visit} {t : Tracker} (h : Ends visits t) :
    ∃ ended, t = attended .empty ended ∧ ended.Perm (visits.map (·.arrival)) := by
  have start : Accounts (visits.map (·.arrival)) ⟨visits, [], .empty⟩ :=
    ⟨[], rfl, List.Perm.refl _⟩
  obtain ⟨ended, tracker, all⟩ := Run.accounts h start
  exact ⟨ended, tracker, by simpa using all⟩

/-- Handling each connection before the next is accepted is one way for all to end. -/
theorem run_served (t : Tracker) (visits : List Visit) :
    Run ⟨visits, [], t⟩ ⟨[], [], Listener.served t visits⟩ := by
  induction visits generalizing t with
  | nil => exact .done _
  | cons v more ih =>
    have accepted := Step.accept v more [] t
    have ended := Step.finish more [] v.arrival [] t
    exact .step accepted (.step ended (ih (Connection.handle t v.arrival).tracker))

end Service

/-! ## The same messages -/

/-- Messages that are the same but for their order and their number lead to the same ancestry
when they are handled one after the other. They do so as well when their handlers run at the
same time, in whatever order these end, and a listener that handles one connection after the
other is a case of that. And a log that is replayed again adds nothing to what is printed. -/
theorem sameAncestry_of_sameMessages (as bs : List Arrival) (same : SameMessages as bs) :
    SameAncestry (attended .empty as) (attended .empty bs) ∧
      (∀ visits : List Visit, visits.map (·.arrival) = as →
        Service.Ends visits (Listener.served .empty visits) ∧
          ∀ t, Service.Ends visits t → SameAncestry t (attended .empty bs)) ∧
      ∀ w path t, let once := (LogFile.replay w path t).2.tracker
        (LogFile.replay w path once).2.tracker.dump = once.dump := by
  refine ⟨sameAncestry_attended same, ?_, fun w path t => ?_⟩
  · rintro visits rfl
    refine ⟨Service.run_served .empty visits, fun t ends => ?_⟩
    obtain ⟨ended, rfl, order⟩ := ends.exists_perm
    exact sameAncestry_attended ((SameMessages.of_perm order).trans same)
  · obtain ⟨relations, added⟩ := LogFile.exists_replay_tracker w path
    dsimp only
    rw [added, added, Tracker.addAll_again]

/-- A connection that carries a text in some pieces. -/
def carrying (pieces : List String) : Arrival := ⟨pieces.map Bytes.ofString, false⟩

/-- Two processes under init, one of them with a child, and a message that is no relation. -/
def morning : List Arrival :=
  [carrying ["1:10"], carrying ["hello"], carrying ["1:20:30"]]

/-- The same in another order and other pieces, one of them twice. -/
def evening : List Arrival :=
  [carrying ["1:", "20:30"], carrying ["1:10"], carrying ["hel", "lo"], carrying ["1:1", "0"]]

/-- The children of init are listed in different orders, and the ancestry is the same. -/
theorem sameAncestry_morning_evening :
    SameMessages morning evening ∧
      (attended .empty morning).children initPid = [10, 20] ∧
      (attended .empty evening).children initPid = [20, 10] ∧
      SameAncestry (attended .empty morning) (attended .empty evening) ∧
      ∀ t, Service.Ends (morning.map (⟨none, ·⟩)) t → SameAncestry t (attended .empty evening) := by
  have same : SameMessages morning evening := by
    have there : ∀ m ∈ morning.map Arrival.message, m ∈ evening.map Arrival.message := by
      decide +kernel
    have back : ∀ m ∈ evening.map Arrival.message, m ∈ morning.map Arrival.message := by
      decide +kernel
    exact fun m => ⟨there m, back m⟩
  obtain ⟨oneByOne, atOnce, -⟩ := sameAncestry_of_sameMessages morning evening same
  refine ⟨same, by decide +kernel, by decide +kernel, oneByOne, fun t ends => ?_⟩
  exact (atOnce (morning.map (⟨none, ·⟩)) rfl).2 t ends

end Ancestry
