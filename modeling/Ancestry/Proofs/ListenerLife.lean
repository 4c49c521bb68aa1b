import Ancestry.Proofs.BoundedReading
import Ancestry.Proofs.Places
import Ancestry.Proofs.SinkEffects
import Ancestry.System.Scene

/-!
# The life of a listener

A listener begins at a place that is free or is made free for it, and when it is over the place is
free again; no other entry of the file system is touched by either. What it does in between depends
on the connections alone. Each adds the relation it carries, if it carries one, and is complained
about once if it carries none. What could not be accepted at once is accepted later, so that costs a
warning and no message.
-/
namespace Ancestry
open World FileSystem

namespace World
variable {w v : World} {path : Bytes}

/-- An entry can be removed if its path could not mean a directory, it is none, and nothing
keeps it where it is. -/
theorem unlink_eq_ok :
    w.unlink path = .ok v ↔
      hasNul path = false ∧ Path.endsInSlash path = false ∧
        ∃ loc node, w.files.locate w.directory .keep path = .ok (.found loc node) ∧
          node.isDirectory = false ∧ w.refusal? [.entry] loc = none ∧
          v = { w with files := w.files.remove loc } := by
  unfold unlink
  constructor
  · intro h
    split at h
    · cases h
    rename_i sound
    split at h
    · cases h
    · cases h
    · cases h
    · rename_i loc node other located
      split at h
      · cases h
      rename_i noSlash
      split at h
      · cases h
      rename_i free
      have leaf : node.isDirectory = false := by
        cases node with
        | directory mode => exact absurd rfl (other mode)
        | _ => rfl
      exact ⟨Bool.not_eq_true _ ▸ sound, Bool.not_eq_true _ ▸ noSlash, loc, node, located, leaf,
        free, (Except.ok.inj h).symm⟩
  · rintro ⟨sound, noSlash, loc, node, located, leaf, free, rfl⟩
    simp only [sound, located, noSlash, Bool.false_eq_true, if_false]
    cases node with
    | directory => cases leaf
    | _ =>
      dsimp only
      rw [free]

/-- The world with a socket that was just bound to a place. -/
def seated (w : World) (loc : Location) : World :=
  { w with
    files := w.files.set loc (.socket (umasked 0o777) w.endpoints)
    listening := w.endpoints :: w.listening
    endpoints := w.endpoints + 1 }

theorem bindAt_eq_ok {endpoint : Nat} :
    w.bindAt path = .ok (endpoint, v) ↔
      Path.endsInSlash path = false ∧ endpoint = w.endpoints ∧ ∃ directory name,
        w.files.locate w.directory .keep path = .ok (.free directory name) ∧
          w.refusal? [.entry, .socket] (directory ++ [name]) = none ∧
          v = w.seated (directory ++ [name]) := by
  unfold bindAt
  constructor
  · intro h
    split at h
    · cases h
    · cases h
    rename_i directory name located
    split at h
    · cases h
    rename_i noSlash
    dsimp only at h
    cases free : w.refusal? [.entry, .socket] (directory ++ [name]) with
    | some e =>
      rw [free] at h
      cases h
    | none =>
      rw [free] at h
      cases h
      exact ⟨Bool.not_eq_true _ ▸ noSlash, rfl, directory, name, located, free, rfl⟩
  · rintro ⟨noSlash, rfl, directory, name, located, free, rfl⟩
    simp only [located, noSlash, free, Bool.false_eq_true, if_false]
    rfl

theorem bind_eq_ok {endpoint : Nat} (nonempty : path ≠ []) :
    w.bind path = .ok (endpoint, v) ↔
      hasNul path = false ∧ path.length < socketPathRoom ∧ w.refusal? [.socket] [] = none ∧
        w.bindAt path = .ok (endpoint, v) := by
  unfold bind
  constructor
  · intro h
    split at h
    · cases h
    rename_i sound
    split at h
    · cases h
    rename_i short
    split at h
    · cases h
    rename_i had
    split at h
    · cases h
    rename_i bound made
    cases h
    exact ⟨Bool.not_eq_true _ ▸ sound, Nat.not_le.mp short, had, made⟩
  · rintro ⟨sound, short, had, made⟩
    simp only [sound, Nat.not_le.mpr short, had, nonempty, made, Bool.false_eq_true, if_false]

theorem bind_nil {bound : Nat × World} (made : w.bind [] = .ok bound) : w.listen = bound := by
  simp only [bind, if_pos] at made
  cases had : w.refusal? [.socket] [] with
  | none =>
    rw [had] at made
    exact Except.ok.inj made
  | some e =>
    rw [had] at made
    cases made

end World

/-! ## Connections -/

namespace Arrival

/-- A connection carries a relation if all of it was read and it is the text of the relation. A
line that breaks is noticed unless there is no more to read. -/
def Carries (a : Arrival) (r : Relation) : Prop :=
  (a.isReset = true → a.pieces.flatten.length = Connection.maxMessage) ∧
    ∃ cs, a.pieces.flatten = Utf8.encode cs ∧ Relation.Denotes cs (.ok r)

def IsShort (a : Arrival) : Prop := a.pieces.flatten.length ≤ Connection.maxMessage

end Arrival

namespace Connection
variable {a : Arrival} {r : Relation}

theorem receive_eq_ok (short : a.IsShort) {message : Bytes} :
    receive a = .ok message ↔
      (a.isReset = true → a.pieces.flatten.length = maxMessage) ∧ message = a.pieces.flatten := by
  rw [receive_eq, outcome, List.take_of_length_le short]
  by_cases broken : a.isReset = true ∧ a.pieces.flatten.length < maxMessage
  · rw [if_pos broken]
    exact iff_of_false (by simp) fun whole => absurd (whole.1 broken.1) (Nat.ne_of_lt broken.2)
  · have read : a.isReset = true → a.pieces.flatten.length = maxMessage :=
      fun reset => Nat.le_antisymm short (Nat.not_lt.mp fun less => broken ⟨reset, less⟩)
    rw [if_neg broken, Except.ok.injEq, iff_true_intro read, true_and, eq_comm]

theorem carries_iff (short : a.IsShort) :
    a.Carries r ↔ ∃ message, receive a = .ok message ∧ decode message = .ok r := by
  simp only [receive_eq_ok short, decode_eq_ok]
  constructor
  · rintro ⟨read, text⟩
    exact ⟨_, ⟨read, rfl⟩, text⟩
  · rintro ⟨message, ⟨read, rfl⟩, text⟩
    exact ⟨read, text⟩

theorem handle_of_carries (short : a.IsShort) (carries : a.Carries r) (t : Tracker) :
    handle t a = ⟨.ok r, t.add r, [⟨.debug, source, "Relation " ++ r.text⟩]⟩ := by
  obtain ⟨message, read, known⟩ := (carries_iff short).mp carries
  simp only [handle, read, known, Failure.during]

theorem handle_of_not_carries (short : a.IsShort) (none : ∀ r, ¬ a.Carries r) (t : Tracker) :
    ∃ f, handle t a = ⟨.error f, t, []⟩ := by
  simp only [carries_iff short] at none
  unfold handle
  cases read : receive a with
  | error e => exact ⟨_, rfl⟩
  | ok message =>
    cases known : decode message with
    | error f => exact ⟨f, by simp only [Failure.during, known]⟩
    | ok r => exact absurd ⟨message, read, known⟩ (none r)

theorem relation?_eq_some (short : a.IsShort) : relation? a = some r ↔ a.Carries r := by
  by_cases carries : ∃ s, a.Carries s
  · obtain ⟨s, carries⟩ := carries
    have told : relation? a = some s := by
      rw [relation?, handle_of_carries short carries]
      rfl
    rw [told, Option.some_inj]
    constructor
    · rintro rfl
      exact carries
    · intro again
      have same := (handle_of_carries short carries .empty).symm.trans
        (handle_of_carries short again .empty)
      exact Except.ok.inj (congrArg Receipt.result same)
  · have none : ∀ s, ¬ a.Carries s := not_exists.mp carries
    obtain ⟨f, handled⟩ := handle_of_not_carries short none .empty
    rw [relation?, handled]
    exact iff_of_false (Option.some_ne_none r).symm (none r)

end Connection

namespace Listener
open Connection

/-- The relations that connections carry, one after the other. A connection that carries none is
passed over. -/
inductive Carry : List Visit → List Relation → Prop
  | nil : Carry [] []
  | valid {v : Visit} {vs : List Visit} {r : Relation} {rs : List Relation} :
      v.arrival.Carries r → Carry vs rs → Carry (v :: vs) (r :: rs)
  | invalid {v : Visit} {vs : List Visit} {rs : List Relation} :
      (∀ r, ¬ v.arrival.Carries r) → Carry vs rs → Carry (v :: vs) rs

/-- The warnings that a connection gives rise to: one if it could not be accepted at once, and one
if it carries no relation. -/
inductive Warns (v : Visit) : List Record → Prop
  | valid {r : Relation} : v.arrival.Carries r → Warns v (v.firstRefusal.toList.map refusal)
  | invalid (text : String) : (∀ r, ¬ v.arrival.Carries r) →
      Warns v (v.firstRefusal.toList.map refusal ++ [warning text])

def warnings (records : List Record) : List Record := records.filter (·.level = .warn)

variable {t : Tracker} {visits : List Visit}

theorem carry_relations (short : ∀ v ∈ visits, v.arrival.IsShort) :
    Carry visits (visits.filterMap fun v => relation? v.arrival) := by
  induction visits with
  | nil => exact .nil
  | cons v vs ih =>
    have now : v.arrival.IsShort := short v List.mem_cons_self
    have later := ih fun v member => short v (List.mem_cons_of_mem _ member)
    cases told : relation? v.arrival with
    | some r =>
      rw [List.filterMap_cons, told]
      exact .valid ((relation?_eq_some now).mp told) later
    | none =>
      rw [List.filterMap_cons, told]
      refine .invalid (fun r carries => ?_) later
      cases told.symm.trans ((relation?_eq_some now).mpr carries)

theorem attend_tracker (t : Tracker) (v : Visit) :
    (attend t v).1 = t.addAll (relation? v.arrival).toList :=
  handle_tracker t v.arrival

theorem attend_warns {v : Visit} (short : v.arrival.IsShort) (t : Tracker) :
    Warns v (warnings (attend t v).2) := by
  have refusals : (v.firstRefusal.toList.map refusal).filter (·.level = .warn) =
      v.firstRefusal.toList.map refusal := by
    cases v.firstRefusal <;> rfl
  unfold attend warnings
  by_cases carries : ∃ r, v.arrival.Carries r
  · obtain ⟨r, carries⟩ := carries
    have warns : Warns v (v.firstRefusal.toList.map refusal) := .valid carries
    rw [handle_of_carries short carries, List.filter_append, List.filter_append, refusals]
    simpa using warns
  · have none : ∀ r, ¬ v.arrival.Carries r := not_exists.mp carries
    obtain ⟨f, handled⟩ := handle_of_not_carries short none t
    have warns : Warns v (v.firstRefusal.toList.map refusal ++ [warning f.summary]) :=
      .invalid _ none
    have complaint : [warning f.summary].filter (·.level = .warn) = [warning f.summary] := rfl
    rw [handled, List.filter_append, List.filter_append, refusals, complaint]
    simpa using warns

theorem length_serve (t : Tracker) (visits : List Visit) :
    (serve t visits).length = visits.length := by
  induction visits generalizing t with
  | nil => rfl
  | cons v vs ih => rw [serve, List.length_cons, ih, List.length_cons]

theorem served_eq_addAll (t : Tracker) (visits : List Visit) :
    served t visits = t.addAll (visits.filterMap fun v => relation? v.arrival) := by
  induction visits generalizing t with
  | nil => rfl
  | cons v vs ih =>
    have rest : served t (v :: vs) = served (attend t v).1 vs := rfl
    rw [rest, ih, attend_tracker, ← Tracker.addAll_append]
    cases told : relation? v.arrival <;> simp [told]

/-- What there is after a connection depends on those before it through the tracker they left. -/
theorem getElem?_serve (t : Tracker) (before : List Visit) (v : Visit) (later : List Visit) :
    (serve t (before ++ v :: later))[before.length]? = some (attend (served t before) v) := by
  induction before generalizing t with
  | nil => rfl
  | cons first rest ih => exact ih (attend t first).1

/-! ## The place of the listener -/

/-- A listener stands at a place that was free or could be cleared. It has an endpoint of its own
and everyone may connect to it. Nothing else was touched, and its entry can be removed, which leaves
the place free. -/
structure Stands (path : Bytes) (loc : Location) (w v : World) (l : Listener) : Prop where
  listener : l = ⟨path, w.endpoints⟩
  sound : hasNul path = false
  noSlash : Path.endsInSlash path = false
  named : w.Names path loc
  cleared : ∀ node, w.files.get? loc = some node → node.isDirectory = false
  there : v.files.locate v.directory .keep path =
    .ok (.found loc (.socket openToAll w.endpoints))
  removable : v.refusal? [.entry] loc = none
  vacates : ∃ around name,
    (v.files.remove loc).locate v.directory .keep path = .ok (.free around name)
  listening : v.listening = w.endpoints :: w.listening
  others : SameApart [loc] w v

variable {w v : World} {path : Bytes} {l : Listener} {records : List Record}

theorem clear_ok (h : clear w path = .ok (v, records)) : v = w ∨ w.unlink path = .ok v := by
  unfold clear at h
  split at h
  · rename_i u removed
    cases h
    exact .inr removed
  · cases h
    exact .inl rfl
  · cases h

/-- The place that is free after clearing is the one the path named, and nothing else has gone. -/
theorem clear_free {directory : Location} {name : Name} (h : clear w path = .ok (v, records))
    (free : v.files.locate v.directory .keep path = .ok (.free directory name)) :
    w.Names path (directory ++ [name]) ∧
      (∀ node, w.files.get? (directory ++ [name]) = some node → node.isDirectory = false) ∧
      SameApart [directory ++ [name]] w v ∧ v.listening = w.listening ∧
      v.endpoints = w.endpoints := by
  rcases clear_ok h with rfl | removed
  · refine ⟨⟨_, free, rfl⟩, fun node there => ?_, .refl _ _, rfl, rfl⟩
    cases (locate_free free).symm.trans there
  · obtain ⟨-, -, loc, node, located, leaf, -, rfl⟩ := unlink_eq_ok.mp removed
    -- The removed entry was where the free name is: with it the path leads to the same place.
    obtain ⟨target, before, same⟩ := locate_kept (keeps_remove w.files loc) free (.inl rfl)
    cases located.symm.trans before
    have place : loc = directory ++ [name] := same
    subst place
    refine ⟨⟨_, located, rfl⟩, fun other there => ?_, sameApart_remove rfl rfl rfl, rfl, rfl⟩
    cases (locate_found located).symm.trans there
    exact leaf

/-- Whatever is put at a free place that is no link, the path leads to it as long as it is there. -/
theorem leads_to_made {u : World} {directory : Location} {name : Name} {node : Node}
    (sound : hasNul path = false) (noSlash : Path.endsInSlash path = false)
    (free : u.files.locate u.directory .keep path = .ok (.free directory name))
    (others : SameApart [directory ++ [name]] u v)
    (there : v.files.get? (directory ++ [name]) = some node) (leaf : node.waymark = .leaf) :
    v.status path = .ok (directory ++ [name], node) ∧
      v.files.locate v.directory .keep path = .ok (.found (directory ++ [name]) node) := by
  have vacant : u.files.get? (directory ++ [name]) = none := locate_free free
  have noLinkYet : ¬ u.files.IsLink (directory ++ [name]) := by
    rintro ⟨link, atLink⟩
    cases vacant.symm.trans atLink
  have kept := keeps_of_sameApart others vacant
  refine ⟨status_made sound noSlash (locate_of_keep free noLinkYet) others there leaf, ?_⟩
  exact others.directory ▸ locate_kept_found kept free there (.inl rfl)

/-- A socket that was put at a free place and opened to all, with the world around it. -/
def stood (u : World) (loc : Location) : World :=
  { u.seated loc with
    files := (u.seated loc).files.set loc (.socket openToAll u.endpoints) }

/-- A socket that could be made is what its path leads to. -/
theorem status_seated {u : World} {directory : Location} {name : Name}
    (sound : hasNul path = false) (noSlash : Path.endsInSlash path = false)
    (free : u.files.locate u.directory .keep path = .ok (.free directory name)) :
    (u.seated (directory ++ [name])).status path =
      .ok (directory ++ [name], .socket (umasked 0o777) u.endpoints) := by
  have there := FileSystem.get?_set_self u.files (List.concat_ne_nil name directory)
    (.socket (umasked 0o777) u.endpoints)
  exact (leads_to_made (v := u.seated (directory ++ [name])) sound noSlash free
    (sameApart_set rfl rfl rfl) there rfl).1

/-- What it takes to put a socket at a place that is free. -/
structure Seats (u : World) (path : Bytes) (directory : Location) (name : Name) : Prop where
  sound : hasNul path = false
  noSlash : Path.endsInSlash path = false
  short : path.length < socketPathRoom
  had : u.refusal? [.socket] [] = none
  free : u.files.locate u.directory .keep path = .ok (.free directory name)
  made : u.refusal? [.entry, .socket] (directory ++ [name]) = none

theorem seats_iff {u b : World} {endpoint : Nat} (nonempty : path ≠ []) :
    u.bind path = .ok (endpoint, b) ↔
      endpoint = u.endpoints ∧ ∃ directory name, Seats u path directory name ∧
        b = u.seated (directory ++ [name]) := by
  rw [bind_eq_ok nonempty, bindAt_eq_ok]
  constructor
  · rintro ⟨sound, short, had, noSlash, same, directory, name, free, made, world⟩
    exact ⟨same, directory, name, ⟨sound, noSlash, short, had, free, made⟩, world⟩
  · rintro ⟨same, directory, name, seats, world⟩
    exact ⟨seats.sound, seats.short, seats.had, seats.noSlash, same, directory, name, seats.free,
      seats.made, world⟩

/-- The ways binding can go. The place is not cleared, or there is no socket then, or there is one
that has no entry, or one whose entry cannot be opened to all, or all goes well. -/
inductive Course (w : World) (path : Bytes) :
    Except Failure Listener × World × List Record → Prop
  | kept {f : Failure} : clear w path = .error f → Course w path (.error f, w, [])
  | cleared {u : World} {records : List Record} {e : IoError} {f : Failure} :
      clear w path = .ok (u, records) → u.bind path = .error e →
      Course w path (.error f, u, records)
  | unnamed {f : Failure} : path = [] → Course w path (.error f, w.listen.2.close w.endpoints, [])
  | locked {u : World} {noted records : List Record} {directory : Location} {name : Name}
      {e : SystemError} {f : Failure} :
      clear w path = .ok (u, noted) → Seats u path directory name →
      u.refusal? [.mode] (directory ++ [name]) = some e →
      Course w path (.error f, (u.seated (directory ++ [name])).close u.endpoints, records)
  | bound {u : World} {noted records : List Record} {directory : Location} {name : Name} :
      clear w path = .ok (u, noted) → Seats u path directory name →
      u.refusal? [.mode] (directory ++ [name]) = none →
      Course w path (.ok ⟨path, u.endpoints⟩, stood u (directory ++ [name]), records)

theorem clear_nil (w : World) : clear w [] = .ok (w, []) := rfl

theorem bind_course (w : World) (path : Bytes) : Course w path (bind w path) := by
  cases cleared : clear w path with
  | error f =>
    rw [bind, cleared]
    exact .kept cleared
  | ok result =>
    obtain ⟨u, noted⟩ := result
    cases made : u.bind path with
    | error e =>
      rw [bind, cleared]
      simp only [made, Failure.during]
      exact .cleared cleared made
    | ok result =>
      obtain ⟨endpoint, b⟩ := result
      by_cases empty : path = []
      · subst empty
        cases cleared
        obtain ⟨rfl, rfl⟩ : w.listen = (endpoint, b) := bind_nil made
        rw [bind, clear_nil]
        simp only [made, Failure.during]
        exact .unnamed rfl
      · obtain ⟨rfl, directory, name, seats, rfl⟩ := (seats_iff empty).mp made
        have leads := status_seated seats.sound seats.noSlash seats.free
        rw [bind, cleared]
        cases allowed : u.refusal? [.mode] (directory ++ [name]) with
        | none =>
          have opened := setMode_of_status leads allowed openToAll
          simp only [made, Failure.during, opened]
          exact .bound cleared seats allowed
        | some e =>
          have opened := setMode_refused leads allowed openToAll
          simp only [made, Failure.during, opened]
          exact .locked cleared seats allowed

theorem stood_stands {u : World} {directory : Location} {name : Name}
    (cleared : clear w path = .ok (u, records)) (seats : Seats u path directory name) :
    Stands path (directory ++ [name]) w (stood u (directory ++ [name])) ⟨path, u.endpoints⟩ := by
  obtain ⟨named, leaf, others, listening, endpoints⟩ := clear_free cleared seats.free
  have below : directory ++ [name] ≠ [] := List.concat_ne_nil _ _
  have placed : SameApart [directory ++ [name]] u (stood u (directory ++ [name])) := by
    refine ⟨rfl, rfl, fun loc apart => ?_⟩
    have other : loc ≠ directory ++ [name] := List.ne_of_not_mem_cons apart
    exact (FileSystem.get?_set_ne _ other _).trans (FileSystem.get?_set_ne _ other _)
  have there := FileSystem.get?_set_self (u.seated (directory ++ [name])).files below
    (.socket openToAll u.endpoints)
  have taken : SameApart [directory ++ [name]] u
      { stood u (directory ++ [name]) with
        files := (stood u (directory ++ [name])).files.remove (directory ++ [name]) } :=
    placed.again (sameApart_remove rfl rfl rfl)
  have nothing := FileSystem.get?_remove_self (stood u (directory ++ [name])).files below
  obtain ⟨around, last, -, vacates⟩ :=
    locate_kept_free (keeps_of_sameApart taken (locate_free seats.free)) seats.free nothing
  exact
    { listener := by rw [endpoints]
      sound := seats.sound
      noSlash := seats.noSlash
      named := named
      cleared := leaf
      there := endpoints ▸ (leads_to_made seats.sound seats.noSlash seats.free placed there rfl).2
      removable := refusal?_mono seats.made (by simp)
      vacates := ⟨around, last, vacates⟩
      listening := by rw [← listening, ← endpoints]; rfl
      others := others.again placed }

theorem stands_of_bind (bound : bind w path = (.ok l, v, records)) :
    ∃ loc, Stands path loc w v l := by
  have course : Course w path (.ok l, v, records) := bound ▸ bind_course w path
  cases course with
  | bound cleared seats _ => exact ⟨_, stood_stands cleared seats⟩

/-- No endpoint listens again that has just been closed. -/
theorem close_subset {endpoint : Nat} {listening : List Nat}
    (same : w.listening = endpoint :: listening) : (w.close endpoint).listening ⊆ listening := by
  intro other member
  obtain ⟨old, apart⟩ := List.mem_filter.mp member
  rw [same] at old
  exact (List.mem_cons.mp old).resolve_left (of_decide_eq_true apart)

/-- A failure of binding lets nothing listen that did not before. -/
theorem Course.listening {f : Failure} (course : Course w path (.error f, v, records)) :
    v.listening ⊆ w.listening := by
  cases course with
  | kept => exact List.Subset.refl _
  | unnamed => exact close_subset rfl
  | cleared cleared _ =>
    rcases clear_ok cleared with rfl | removed
    · exact List.Subset.refl _
    · obtain ⟨-, -, loc, node, -, -, -, rfl⟩ := unlink_eq_ok.mp removed
      exact List.Subset.refl _
  | locked cleared seats _ =>
    obtain ⟨-, -, -, same, -⟩ := clear_free cleared seats.free
    exact same ▸ close_subset rfl

/-- What a listener that could not be bound leaves: its place may have been cleared, and an entry
that nobody answers may have been put there. -/
theorem bind_failed {loc : Location} {f : Failure} (named : w.Names path loc)
    (failed : bind w path = (.error f, v, records)) :
    SameApart [loc] w v ∧ v.listening ⊆ w.listening := by
  have course : Course w path (.error f, v, records) := failed ▸ bind_course w path
  refine ⟨?_, course.listening⟩
  cases course with
  | kept => exact .refl _ _
  | unnamed empty =>
    subst empty
    obtain ⟨target, located, -⟩ := named
    cases located
  | cleared cleared _ =>
    rcases clear_ok cleared with rfl | removed
    · exact .refl _ _
    · obtain ⟨-, -, place, node, located, -, -, rfl⟩ := unlink_eq_ok.mp removed
      obtain rfl : loc = place := named.unique ⟨_, located, rfl⟩
      exact sameApart_remove rfl rfl rfl
  | locked cleared seats _ =>
    obtain ⟨place, -, others, -, -⟩ := clear_free cleared seats.free
    obtain rfl := named.unique place
    exact others.again (sameApart_set rfl rfl rfl)

variable {loc : Location}

theorem Stands.status (h : Stands path loc w v l) :
    v.status path = .ok (loc, .socket openToAll l.endpoint) := by
  have noLink : ¬ v.files.IsLink loc := by
    rintro ⟨link, atLink⟩
    cases (locate_found h.there).symm.trans atLink
  have found := find_of_locate h.noSlash (locate_of_keep h.there noLink)
  rw [h.listener]
  exact status_eq_ok.mpr ⟨h.sound, found⟩

theorem Stands.answers (h : Stands path loc w v l) : v.Answers path l.endpoint := by
  refine ⟨⟨loc, openToAll, h.status⟩, ?_⟩
  rw [h.listening, h.listener]
  exact List.mem_cons_self

theorem Stands.close_eq (h : Stands path loc w v l) :
    l.close v = { v with
      files := v.files.remove loc
      listening := v.listening.filter (· ≠ l.endpoint) } := by
  have removed : (v.close l.endpoint).unlink path =
      .ok { v.close l.endpoint with files := v.files.remove loc } :=
    unlink_eq_ok.mpr ⟨h.sound, h.noSlash, loc, _, h.there, rfl, h.removable, rfl⟩
  have path_eq : l.path = path := congrArg Listener.path h.listener
  rw [Listener.close, path_eq]
  simp only [removed]
  rfl

/-- When the listener is over, its place is free and nothing else has changed since it began. -/
structure Gone (path : Bytes) (loc : Location) (w u : World) (l : Listener) : Prop where
  nothing : u.files.get? loc = none
  notFound : u.find .keep path = .error .notFound
  others : SameApart [loc] w u
  silent : l.endpoint ∉ u.listening
  listening : u.listening ⊆ w.listening

theorem Stands.gone (h : Stands path loc w v l) : Gone path loc w (l.close v) l := by
  obtain ⟨around, name, free⟩ := h.vacates
  have nonempty : loc ≠ [] := by
    rintro rfl
    cases locate_found h.there
  rw [h.close_eq]
  exact
    { nothing := FileSystem.get?_remove_self v.files nonempty
      notFound := find_free h.noSlash free
      others := h.others.again (sameApart_remove rfl rfl rfl)
      silent := by simp
      listening := by
        intro endpoint member
        have kept := List.mem_filter.mp member
        rw [h.listening, List.mem_cons] at kept
        have other : endpoint ≠ w.endpoints := by
          simpa [h.listener] using kept.2
        exact kept.1.resolve_left other }

/-! ## The whole life -/

/-- After each of some connections, the tracker holds what they carried so far, in order, and the
warnings are those the connection gives rise to. -/
structure Faithful (t : Tracker) (visits : List Visit) : Prop where
  all : (serve t visits).length = visits.length
  step : ∀ before v later, visits = before ++ v :: later →
    ∃ rs records, Carry (before ++ [v]) rs ∧ Warns v (warnings records) ∧
      (serve t visits)[before.length]? = some (t.addAll rs, records)
  final : ∃ rs, Carry visits rs ∧ served t visits = t.addAll rs

theorem faithful (short : ∀ v ∈ visits, v.arrival.IsShort) (t : Tracker) :
    Faithful t visits := by
  refine ⟨length_serve t visits, ?_, _, carry_relations short, served_eq_addAll t visits⟩
  rintro before v later rfl
  have upTo : ∀ x ∈ before ++ [v], x.arrival.IsShort := by
    intro x member
    apply short
    simp only [List.mem_append, List.mem_cons, List.not_mem_nil, or_false] at member ⊢
    exact member.imp_right .inl
  have now : v.arrival.IsShort := upTo v (by simp)
  refine ⟨_, (attend (served t before) v).2, carry_relations upTo, attend_warns now _, ?_⟩
  have tracker : (attend (served t before) v).1 =
      t.addAll ((before ++ [v]).filterMap fun v => relation? v.arrival) := by
    rw [← served_eq_addAll, served, served, List.foldl_append]
    rfl
  rw [getElem?_serve, ← tracker]

/-- A listener loses and invents nothing, whatever it meets. It answers from the time it is bound;
each connection adds what it carries and costs the warnings it deserves; and when it is over there
is nothing where it was, and everything else is as it was before. -/
theorem bind_serve_close (bound : bind w path = (.ok l, v, records)) :
    v.Answers path l.endpoint ∧
    (∀ t visits, (∀ visit ∈ visits, visit.arrival.IsShort) → Faithful t visits) ∧
    ∃ loc, w.Names path loc ∧ Gone path loc w (l.close v) l := by
  obtain ⟨loc, stands⟩ := stands_of_bind bound
  exact ⟨stands.answers, fun t visits short => faithful short t, loc, stands.named, stands.gone⟩

def socketPath : Bytes := Bytes.ofString "s"

/-- A world in which a former listener has left its entry. -/
def withStale : World :=
  { World.bare with
    files := World.bare.files.set (World.place "/tmp/work/s") (.socket 0o666 7)
    endpoints := 8 }

/-- A relation in two pieces, a text that is none and was not accepted at once, bytes that are no
text, a line that breaks, and a relation that was not accepted at once. -/
def mixed : List Visit :=
  [⟨none, ⟨[Bytes.ofString "1:", Bytes.ofString "10"], false⟩⟩,
    ⟨some .tooManyOpenFiles, ⟨[Bytes.ofString "hello"], false⟩⟩,
    ⟨none, ⟨[[0xff]], false⟩⟩,
    ⟨none, ⟨[Bytes.ofString "3:4"], true⟩⟩,
    ⟨some .tooManyOpenFiles, ⟨[Bytes.ofString "10:20:30"], false⟩⟩]

theorem bind_serve_close_mixed :
    (bind withStale socketPath).1 = .ok ⟨socketPath, 8⟩ ∧
      (bind withStale socketPath).2.1.Answers socketPath 8 ∧
      Faithful .empty mixed ∧
      served .empty mixed = Tracker.empty.addAll [.exec 1 10, .fork 10 20 30] ∧
      Gone socketPath (World.place "/tmp/work/s") withStale
        (close ⟨socketPath, 8⟩ (bind withStale socketPath).2.1) ⟨socketPath, 8⟩ := by
  have bound : bind withStale socketPath = (.ok ⟨socketPath, 8⟩, (bind withStale socketPath).2) :=
    rfl
  have short : ∀ v ∈ mixed, v.arrival.pieces.flatten.length ≤ maxMessage := by
    decide +kernel
  obtain ⟨answers, serves, loc, named, gone⟩ := bind_serve_close bound
  have place : loc = World.place "/tmp/work/s" := named.unique ⟨.found _ _, rfl, rfl⟩
  exact ⟨rfl, answers, serves .empty mixed short, by decide +kernel, place ▸ gone⟩

end Listener
end Ancestry
