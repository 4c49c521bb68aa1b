import Ancestry.Report.Errno

/-!
# Saves and drops as brackets

A drop belongs to the newest save that has no drop yet, so saves and drops pair up as brackets do,
and what stands between the two of a pair is made of numbers that are set and of whole pairs. Such
a stretch may leave any number behind, but it leaves what is saved as it found it, and on the way
only adds to it. So the drop finds on top what its save has put there, and puts back the number
that there was before the save, with all that was saved before it.

Which save a drop belongs to is not told by the numbers: it is the only one after which the steps
up to the drop pair up.
-/
namespace Ancestry.Errno

/-- How many saves have no drop after some steps, if there are some number of such saves before
them. There is no answer if a drop comes when all saves have theirs. -/
def pending? : Nat → List Step → Option Nat
  | n, [] => some n
  | n, .set _ :: rest => pending? n rest
  | n, .save :: rest => pending? (n + 1) rest
  | 0, .drop :: _ => none
  | n + 1, .drop :: rest => pending? n rest

/-- Every drop has a save to belong to. Saves without a drop may be left at the end. -/
def Live (steps : List Step) : Prop := (pending? 0 steps).isSome

instance (steps : List Step) : Decidable (Live steps) :=
  inferInstanceAs (Decidable ((pending? 0 steps).isSome = true))

/-- Steps in which each save has its drop and each drop its save. -/
inductive Nested : List Step → Prop
  | nil : Nested []
  | set (value : Int32) {rest : List Step} : Nested rest → Nested (.set value :: rest)
  | block {inner rest : List Step} : Nested inner → Nested rest →
      Nested (.save :: (inner ++ .drop :: rest))

/-- Steps after which a number of saves have no drop yet, with whole pairs behind each of them. -/
inductive Open : Nat → List Step → Prop
  | nested {steps : List Step} : Nested steps → Open 0 steps
  | save {n : Nat} {outer inner : List Step} : Open n outer → Nested inner →
      Open (n + 1) (outer ++ .save :: inner)

/-- The save that a drop after some steps belongs to: what is in front of it, and what is between
the two. -/
structure Belongs (before outer inner : List Step) : Prop where
  split : before = outer ++ .save :: inner
  nested : Nested inner

variable {e : Errno} {n d : Nat} {steps before outer inner rest : List Step}

theorem pending?_append (n : Nat) (steps rest : List Step) :
    pending? n (steps ++ rest) = (pending? n steps).bind (pending? · rest) := by
  induction steps generalizing n with
  | nil => rfl
  | cons s steps ih =>
    cases s with
    | set value => exact ih n
    | save => exact ih (n + 1)
    | drop =>
      cases n with
      | zero => rfl
      | succ n => exact ih n

theorem run_append (e : Errno) (steps rest : List Step) :
    e.run (steps ++ rest) = (e.run steps).run rest :=
  List.foldl_append

theorem trace_at (e : Errno) (before : List Step) (s : Step) (after : List Step) :
    (e.trace (before ++ s :: after))[before.length]? = some (e.run (before ++ [s])).current := by
  induction before generalizing e with
  | nil => rfl
  | cons first before ih => exact ih (e.step first)

/-- Whatever number is left between a save and its drop, the drop finds what was saved. -/
theorem run_pair_of_kept (kept : ∀ e : Errno, (e.run inner).saved = e.saved) (e : Errno) :
    e.run (.save :: (inner ++ [.drop])) = e := by
  have inside : (e.save.run inner).saved = e.current :: e.saved := kept e.save
  have dropped : e.run (.save :: (inner ++ [Step.drop])) = (e.save.run inner).drop :=
    run_append e.save inner [.drop]
  rw [dropped, drop, inside]

/-! ## Stretches of whole pairs -/

namespace Nested

theorem append (first : Nested steps) (second : Nested rest) : Nested (steps ++ rest) := by
  induction first with
  | nil => exact second
  | set value _ ih => exact .set value ih
  | block inner _ _ ih =>
    rw [List.cons_append, List.append_assoc]
    exact .block inner ih

theorem pending?_eq (nested : Nested steps) (n : Nat) : pending? n steps = some n := by
  induction nested generalizing n with
  | nil => rfl
  | set value _ ih => exact ih n
  | block _ _ ihInner ihRest =>
    rw [pending?, pending?_append, ihInner]
    exact ihRest n

/-- Nothing that is saved is lost or added. -/
theorem saved_run (nested : Nested steps) (e : Errno) : (e.run steps).saved = e.saved := by
  induction nested generalizing e with
  | nil => rfl
  | set value _ ih => exact ih (e.set value)
  | @block inner rest _ _ ihInner ihRest =>
    have pair : e.run (.save :: (inner ++ [.drop])) = e := run_pair_of_kept ihInner e
    calc (e.run (.save :: (inner ++ .drop :: rest))).saved
        = ((e.run (.save :: (inner ++ [.drop]))).run rest).saved := by
          rw [← run_append, List.cons_append, List.append_assoc, List.singleton_append]
      _ = e.saved := by rw [pair, ihRest]

/-- A pair with whole pairs in it leaves everything as it was. -/
theorem run_pair (nested : Nested inner) (e : Errno) : e.run (.save :: (inner ++ [.drop])) = e :=
  run_pair_of_kept nested.saved_run e

end Nested

/-! ## Saves that wait for their drop -/

namespace Open

theorem append (opened : Open n steps) (nested : Nested rest) : Open n (steps ++ rest) := by
  cases opened with
  | nested whole => exact .nested (whole.append nested)
  | save outer inner =>
    rw [List.append_assoc, List.cons_append]
    exact .save outer (inner.append nested)

theorem step (opened : Open n steps) {s : Step} (counted : pending? n [s] = some d) :
    Open d (steps ++ [s]) := by
  cases s with
  | set value =>
    cases counted
    exact opened.append (.set value .nil)
  | save =>
    cases counted
    exact .save opened .nil
  | drop =>
    cases opened with
    | nested => cases counted
    | @save n outer inner outside inside =>
      cases counted
      -- The newest save is closed, and the pair joins the stretch in front of it.
      rw [List.append_assoc, List.cons_append]
      exact outside.append (.block inside .nil)

theorem run (opened : Open n steps) (counted : pending? n rest = some d) :
    Open d (steps ++ rest) := by
  induction rest generalizing n steps with
  | nil =>
    cases counted
    rwa [List.append_nil]
  | cons s rest ih =>
    rw [← List.singleton_append, pending?_append] at counted
    obtain ⟨between, first, later⟩ := Option.bind_eq_some_iff.mp counted
    rw [← List.singleton_append, ← List.append_assoc]
    exact ih (opened.step first) later

/-- What was saved before the steps is still there, below what is saved in them. -/
theorem saved_suffix (opened : Open n steps) (e : Errno) : e.saved <:+ (e.run steps).saved := by
  induction opened with
  | nested whole =>
    have same : e.saved = (e.run _).saved := (whole.saved_run e).symm
    exact same ▸ List.suffix_refl e.saved
  | @save n outer inner _ inside ih =>
    have now : (e.run (outer ++ .save :: inner)).saved =
        (e.run outer).current :: (e.run outer).saved := by
      rw [run_append]
      exact inside.saved_run (e.run outer).save
    rw [now]
    exact ih.trans (List.suffix_cons _ _)

end Open

theorem open_of_pending (counted : pending? 0 steps = some n) : Open n steps :=
  (Open.nested .nil).run counted

/-- The steps up to any moment leave some number of saves that wait. -/
theorem exists_pending (live : Live (steps ++ rest)) : ∃ n, pending? 0 steps = some n := by
  rw [Live, pending?_append] at live
  cases counted : pending? 0 steps with
  | none =>
    rw [counted] at live
    cases live
  | some n => exact ⟨n, rfl⟩

theorem exists_belongs (live : Live (before ++ .drop :: rest)) :
    ∃ outer inner, Belongs before outer inner := by
  obtain ⟨n, counted⟩ := exists_pending live
  cases open_of_pending counted with
  | nested =>
    rw [Live, pending?_append, counted] at live
    cases live
  | @save _ outer inner _ inside => exact ⟨outer, inner, rfl, inside⟩

/-- Between a save and the drop it belongs to there is no save that waits. -/
theorem Nested.not_save_behind (nested : Nested (steps ++ .save :: inner)) : ¬ Nested inner := by
  intro inside
  have counted := nested.pending?_eq 0
  rw [pending?_append] at counted
  obtain ⟨n, -, later⟩ := Option.bind_eq_some_iff.mp counted
  rw [pending?, inside.pending?_eq] at later
  cases later

theorem Belongs.nothing_between {more inner' : List Step} (belongs : Belongs before outer inner)
    (other : Belongs before (outer ++ more) inner') : more = [] := by
  have same : .save :: inner = more ++ .save :: inner' := by
    have split := belongs.split.symm.trans other.split
    rw [List.append_assoc] at split
    exact List.append_cancel_left split
  cases more with
  | nil => rfl
  | cons s more =>
    -- The other save would stand between the first and the drop, with no drop of its own.
    have whole := belongs.nested
    rw [(List.cons.inj same).2] at whole
    exact absurd other.nested whole.not_save_behind

theorem Belongs.unique {outer' inner' : List Step} (belongs : Belongs before outer inner)
    (other : Belongs before outer' inner') : outer' = outer ∧ inner' = inner := by
  have same : outer ++ .save :: inner = outer' ++ .save :: inner' :=
    belongs.split.symm.trans other.split
  have front : outer' = outer := by
    rcases List.append_eq_append_iff.mp same with ⟨more, rfl, -⟩ | ⟨more, rfl, -⟩
    · rw [belongs.nothing_between other, List.append_nil]
    · rw [other.nothing_between belongs, List.append_nil]
  rw [front] at same
  exact ⟨front, (List.cons.inj (List.append_cancel_left same)).2.symm⟩

theorem Belongs.run_drop (belongs : Belongs before outer inner) (e : Errno) :
    e.run (before ++ [.drop]) = e.run outer := by
  rw [belongs.split, List.append_assoc, List.cons_append, run_append]
  exact belongs.nested.run_pair (e.run outer)

/-- When every drop has a save to belong to, each belongs to one save and no other, and puts back
the error number that there was at this save, and all that was saved before it. So a pair with any
numbers set and any pairs in it does nothing, and at every moment within it the number at its save
and those saved before are all still saved. -/
theorem drops_restore (e : Errno) (steps : List Step) (live : Live steps) :
    (∀ before after, steps = before ++ .drop :: after →
      ∃ outer inner, Belongs before outer inner ∧
        (∀ outer' inner', Belongs before outer' inner' → outer' = outer ∧ inner' = inner) ∧
        (e.trace steps)[before.length]? = some (e.run outer).current ∧
        (e.run (before ++ [.drop])).saved = (e.run outer).saved) ∧
    ∀ before inner, Nested inner →
      e.run (before ++ .save :: (inner ++ [.drop])) = e.run before ∧
      ∀ front, front <+: inner →
        (e.run before).current :: (e.run before).saved <:+
          (e.run (before ++ .save :: front)).saved := by
  refine ⟨fun before after split => ?_, fun before inner nested => ⟨?_, fun front within => ?_⟩⟩
  · rw [split] at live ⊢
    obtain ⟨outer, inner, belongs⟩ := exists_belongs live
    have restored := belongs.run_drop e
    refine ⟨outer, inner, belongs, fun _ _ other => belongs.unique other, ?_, ?_⟩
    · rw [trace_at, restored]
    · rw [restored]
  · rw [run_append]
    exact nested.run_pair (e.run before)
  · obtain ⟨back, rfl⟩ := within
    have counted : Live (front ++ back) := by
      rw [Live, nested.pending?_eq]
      rfl
    obtain ⟨n, pending⟩ := exists_pending counted
    rw [run_append]
    exact (open_of_pending pending).saved_suffix (e.run before).save

/-- A pair within a pair, numbers set in both, and a save at the end that nothing is dropped for. -/
theorem drops_restore_twoDeep :
    let steps : List Step := [.set 11, .save, .set 2, .save, .set 3, .drop, .set 4, .drop, .save]
    let before := steps.take 7
    Live steps ∧ steps = before ++ .drop :: [.save] ∧
    Belongs before [.set 11] [.set 2, .save, .set 3, .drop, .set 4] ∧
    ((ofValue 5).trace steps)[7]? = some 11 ∧
    ((ofValue 5).run (before ++ [.drop])).saved = [] := by
  intro steps before
  have live : Live steps := by decide
  have belongs : Belongs before [.set 11] [.set 2, .save, .set 3, .drop, .set 4] :=
    ⟨rfl, .set 2 (.block (.set 3 .nil) (.set 4 .nil))⟩
  obtain ⟨outer, inner, -, only, shown, kept⟩ :=
    (drops_restore (ofValue 5) steps live).1 before [.save] rfl
  obtain ⟨rfl, rfl⟩ := only _ _ belongs
  exact ⟨live, rfl, belongs, shown, kept⟩

end Ancestry.Errno
