import Ancestry.Report.Slot

/-!
# Looking up until something is found

A slot looks its function up at every call that asks for the address, until a lookup finds it, and
never after that. So the calls that ask, up to the first that is answered with an address, make
one lookup each, and those behind it get the address that this one has found. The number of
lookups is the number of the former calls. A wrapped call that has nothing behind it neither
looks anything up nor fills the slot.

Lookups are numbered from zero. What one of them finds, an address or nothing, says nothing about
what another finds.
-/
namespace Ancestry.Slot

/-- Whether a use asks for the address. -/
def Use.asks : Use → Bool
  | .address | .resolve => true
  | .unresolved => false

/-- How many of some uses ask for the address. -/
def asked (uses : List Use) : Nat := uses.countP Use.asks

/-- The slot after some uses. -/
def run (loader : Loader) (s : Slot) : List Use → Slot
  | [] => s
  | u :: more => run loader (s.use loader u).2 more

/-- A lookup finds an address, and none before it has found one. -/
structure FirstFound (loader : Loader) (k : Nat) (a : Address) : Prop where
  found : loader k = some a
  sooner : ∀ j < k, loader j = none

/-- What a fresh slot has become when its address has been asked for some number of times. -/
inductive Stage (loader : Loader) (name : Bytes) (n : Nat) : Slot → Prop
  | seeking : (∀ j < n, loader j = none) → Stage loader name n ⟨name, none, n⟩
  | settled {k : Nat} {a : Address} : k < n → FirstFound loader k a →
      Stage loader name n ⟨name, some a, k + 1⟩

variable {loader : Loader} {name : Bytes} {n : Nat} {s : Slot} {u : Use}

theorem asked_cons (u : Use) (uses : List Use) :
    asked (u :: uses) = asked uses + if u.asks then 1 else 0 := by
  rw [asked, asked, List.countP_cons]

/-! ## One use -/

theorem use_of_asks (asks : u.asks) :
    s.use loader u = (.found (s.resolve loader).1, (s.resolve loader).2) := by
  cases u with
  | address => rfl
  | resolve => rfl
  | unresolved => cases asks

/-- A use that does not ask for the address leaves the slot as it is. -/
theorem use_of_not_asks (other : u.asks = false) :
    s.use loader u = (.returned (-1) SystemError.notImplemented.errno, s) := by
  cases u with
  | address => cases other
  | resolve => cases other
  | unresolved => rfl

theorem Stage.ask (stage : Stage loader name n s) :
    Stage loader name (n + 1) (s.resolve loader).2 := by
  cases stage with
  | seeking nothing =>
    have looked : ((⟨name, none, n⟩ : Slot).resolve loader).2 = ⟨name, loader n, n + 1⟩ := rfl
    rw [looked]
    cases found : loader n with
    | none =>
      apply Stage.seeking
      intro j below
      rcases Nat.lt_succ_iff_lt_or_eq.mp below with sooner | rfl
      · exact nothing j sooner
      · exact found
    | some a => exact .settled (Nat.lt_succ_self n) ⟨found, nothing⟩
  | settled within first => exact .settled (Nat.lt_succ_of_lt within) first

/-! ## A run -/

theorem Stage.run (stage : Stage loader name n s) (uses : List Use) :
    Stage loader name (n + asked uses) (s.run loader uses) := by
  induction uses generalizing n s with
  | nil => exact stage
  | cons u uses ih =>
    rw [asked_cons, Slot.run]
    cases asks : u.asks with
    | true =>
      have next : Stage loader name (n + 1) (s.use loader u).2 := by
        rw [use_of_asks asks]
        exact stage.ask
      rw [if_pos rfl, Nat.add_comm (asked uses), ← Nat.add_assoc]
      exact ih next
    | false =>
      have same : (s.use loader u).2 = s := by rw [use_of_not_asks asks]
      rw [if_neg Bool.false_ne_true, Nat.add_zero, same]
      exact ih stage

/-- Every use is answered by the slot that the uses before it have left. -/
theorem trace_at (loader : Loader) (s : Slot) (uses : List Use) (u : Use) (later : List Use) :
    (s.trace loader (uses ++ u :: later))[uses.length]? =
      some ((s.run loader uses).use loader u) := by
  induction uses generalizing s with
  | nil => rfl
  | cons first uses ih => exact ih (s.use loader first).2

/-- After any uses of a fresh slot, in which the address was asked for some number of times, there
are two cases. Either no lookup has found anything, each time that was asked made one, and the next
call that asks makes one more and is answered with what it finds. Or one was the first to find an
address, each time up to this one made a lookup, and every call that asks is answered with this
address and changes nothing. A use that does not ask returns minus one, with the error number for
what is not implemented whatever the number was before, and leaves the slot alone. These are the
answers of the whole run, at any place in it. -/
theorem looked_up_until_found (loader : Loader) (name : Bytes) (uses : List Use) :
    let s := (fresh name).run loader uses
    let n := asked uses
    (((∀ j < n, loader j = none) ∧ s = ⟨name, none, n⟩ ∧
        ∀ u : Use, u.asks → s.use loader u = (.found (loader n), ⟨name, loader n, n + 1⟩)) ∨
      ∃ k < n, ∃ a, FirstFound loader k a ∧ s = ⟨name, some a, k + 1⟩ ∧
        ∀ u : Use, u.asks → s.use loader u = (.found (some a), s)) ∧
    (s.use loader .unresolved = (.returned (-1) 38, s) ∧
      ∀ e : Errno, (Wrapper.unresolved e).1 = -1 ∧ (Wrapper.unresolved e).2.current = 38) ∧
    ∀ u later,
      ((fresh name).trace loader (uses ++ u :: later))[uses.length]? = some (s.use loader u) := by
  intro s n
  have stage : Stage loader name n s := by
    have start : Stage loader name 0 (fresh name) := .seeking nofun
    simpa only [Nat.zero_add] using start.run uses
  refine ⟨?_, ⟨rfl, fun e => ⟨rfl, rfl⟩⟩, fun u later => trace_at loader _ uses u later⟩
  generalize s = reached at stage
  cases stage with
  | seeking nothing => exact .inl ⟨nothing, rfl, fun u asks => use_of_asks asks⟩
  | settled within first =>
    exact .inr ⟨_, within, _, first, rfl, fun u asks => use_of_asks asks⟩

/-- Nothing at the first two lookups, an address at the third. -/
example :
    let loader : Loader := fun k => if k < 2 then none else some ⟨7, by decide⟩
    ((fresh []).trace loader [.address, .unresolved, .resolve, .address, .resolve]).map
      (·.2.lookups) = [1, 1, 2, 3, 3] := by
  decide

end Ancestry.Slot
