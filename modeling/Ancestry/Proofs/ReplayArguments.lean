import Ancestry.CommandLine.Standard
import Ancestry.Proofs.LogLines
import Ancestry.Proofs.Numeral
import Ancestry.Proofs.ToolLaws

/-!
# The tools of the program are lawful

A command line is read option by option. A reading keeps the last value aside until the next option
comes, so what has been given is told of the reading after that value was put in place. A value that
looks like an option is taken for one, and then the value is missing, at once or in the end.
-/
namespace Ancestry.CommandLine
open Reading

/-! ## Values and names -/

theorem not_standing {value : Bytes} :
    ¬ Standing value ↔ ∃ b rest, value = hyphen :: b :: rest := by
  simp [Standing]

/-- Of the pids only the negative ones look like options. -/
theorem standing_pid_iff (p : Pid) :
    Standing (Utf8.encode (Relation.pidChars p)) ↔ 0 ≤ p.toInt := by
  rw [Relation.pidChars, Decimal.digits]
  by_cases negative : p.toInt < 0
  · rw [if_pos negative]
    refine iff_of_false (not_standing.mpr ?_) (Int.not_le.mpr negative)
    obtain ⟨d, ds, written⟩ := List.exists_cons_of_ne_nil
      (Nat.toDigits_ne_nil : Nat.toDigits 10 p.toInt.natAbs ≠ [])
    obtain ⟨b, bs, first⟩ := List.exists_cons_of_ne_nil (Text.encodeChar_ne_nil d)
    refine ⟨b, bs ++ Utf8.encode ds, ?_⟩
    rw [written, Utf8.encode_cons, Utf8.encode_cons, first]
    rfl
  · rw [if_neg negative]
    refine iff_of_true ?_ (Int.not_lt.mp negative)
    intro b rest looks
    have member : hyphen ∈ Utf8.encode (Nat.toDigits 10 p.toInt.natAbs) := by
      rw [looks]
      exact List.mem_cons_self
    obtain ⟨c, digit, encoded⟩ := List.mem_flatMap.mp member
    have sign : c.toNat = '-'.toNat := Utf8.ascii_mem_encodeChar encoded (by decide)
    have isDigit := Nat.isDigit_of_mem_toDigits (by decide) (by decide) digit
    rw [Char.toNat_inj.mp sign] at isDigit
    cases isDigit

namespace Opt

theorem equalsSign_not_mem_longName (o : Opt) : equalsSign ∉ Bytes.ofString o.longName := by
  cases o <;> decide

/-- No two options of a scope have the same name. -/
theorem find?_longName {s : Scope} {o : Opt} (known : o ∈ s.options) :
    (s.options.find? fun other => Bytes.ofString other.longName = Bytes.ofString o.longName) =
      some o := by
  have all : ∀ s ∈ (none :: CommandName.all.map some : List Scope), ∀ o ∈ s.options,
      (s.options.find? fun other => Bytes.ofString other.longName = Bytes.ofString o.longName) =
        some o := by
    decide
  refine all s ?_ o known
  cases s with
  | none => exact List.mem_cons_self
  | some c => cases c <;> decide

theorem longName_ne_nil (o : Opt) : Bytes.ofString o.longName ≠ [] := by
  cases o <;> decide

theorem spelled_append_ne_endOfOptions (o : Opt) (more : Bytes) :
    o.spelled ++ more ≠ endOfOptions := by
  intro same
  have rest := List.tail_eq_of_cons_eq (List.tail_eq_of_cons_eq same)
  exact o.longName_ne_nil (List.append_eq_nil_iff.mp rest).1

theorem spelled_ne_endOfOptions (o : Opt) : o.spelled ≠ endOfOptions := by
  simpa using o.spelled_append_ne_endOfOptions []

theorem takeWhile_longName (o : Opt) (more : Bytes) (ends : ∀ b ∈ more.head?, b = equalsSign) :
    (Bytes.ofString o.longName ++ more).takeWhile (· ≠ equalsSign) =
      Bytes.ofString o.longName := by
  have inside : ∀ b ∈ Bytes.ofString o.longName, decide (b ≠ equalsSign) = true := by
    intro b member
    exact decide_eq_true fun same => o.equalsSign_not_mem_longName (same ▸ member)
  rw [List.takeWhile_append_of_pos inside]
  cases more with
  | nil => simp
  | cons b value => simp [ends b rfl]

end Opt

/-! ## One option -/

namespace Reading
variable {r : Reading} {s : Scope} {g g' : Given} {o : Opt} {fallback : Option Bytes}

/-- What has been given once the last option is put in place. -/
structure Has (r : Reading) (s : Scope) (g : Given) : Prop where
  scope : r.scope = s
  settled : r.settle = .ok ⟨s, g, .nothing⟩

/-- What has been given at the end. -/
def result (r : Reading) (fallback : Option Bytes) (args : List Bytes) :
    Except UsageError Given := do
  finish fallback (← r.readAll args)

theorem has_start (s : Scope) : (start s).Has s Given.nothing := ⟨rfl, rfl⟩

theorem step_spelled (r : Reading) (o : Opt) (more : Bytes) :
    r.step (o.spelled ++ more) = r.readLong (Bytes.ofString o.longName ++ more) := by
  rw [Opt.spelled, List.cons_append, List.cons_append, step]
  simp

section Has
variable (has : r.Has s g)
include has

theorem Has.assign (o : Opt) (value : Bytes) :
    r.assign o value = (g.assign o value).map fun given => ⟨s, given, .nothing⟩ := by
  rw [Reading.assign, has.settled]
  change (g.assign o value).bind (fun given => .ok (⟨s, given, .nothing⟩ : Reading)) = _
  cases g.assign o value <;> rfl

theorem Has.switch (o : Opt) :
    r.switch o = (g.switch o).map fun given => ⟨s, given, .nothing⟩ := by
  rw [Reading.switch, has.settled]
  change (g.switch o).bind (fun given => .ok (⟨s, given, .nothing⟩ : Reading)) = _
  cases g.switch o <;> rfl

theorem Has.await (o : Opt) : r.await o = .ok ⟨s, g, .awaiting o⟩ := by
  rw [Reading.await, has.settled]
  rfl

variable (known : o ∈ s.options)
include known

theorem Has.step_attached (takes : o.takesValue = true) (value : Bytes) :
    r.step (o.spelled ++ equalsSign :: value) =
      (g.assign o value).map fun given => ⟨s, given, .nothing⟩ := by
  have name := o.takeWhile_longName (equalsSign :: value) (by simp)
  rw [step_spelled, readLong, name, has.scope, Opt.find?_longName known, ← has.assign]
  simp only [List.drop_left, takes]

theorem Has.step_apart (takes : o.takesValue = true) :
    r.step o.spelled = .ok ⟨s, g, .awaiting o⟩ := by
  have name := o.takeWhile_longName [] (by simp)
  have step := step_spelled r o []
  simp only [List.append_nil] at name step
  rw [step, readLong, name, has.scope, Opt.find?_longName known, ← has.await]
  simp only [List.drop_length, takes]

theorem Has.step_switch (plain : o.takesValue = false) :
    r.step o.spelled = (g.switch o).map fun given => ⟨s, given, .nothing⟩ := by
  have name := o.takeWhile_longName [] (by simp)
  have step := step_spelled r o []
  simp only [List.append_nil] at name step
  rw [step, readLong, name, has.scope, Opt.find?_longName known, ← has.switch]
  simp only [List.drop_length, plain]

end Has

theorem step_standing {value : Bytes} (stands : Standing value) :
    step ⟨s, g, .awaiting o⟩ value = .ok ⟨s, g, .filled o value⟩ := by
  match value with
  | [] => rfl
  | [_] => rfl
  | a :: b :: rest =>
    have apart : ¬ a = hyphen := fun same => stands b rest (by rw [same])
    simp [step, apart]

/-- An argument that looks like an option is refused if the last value was wrong or missing. -/
theorem step_error {e : UsageError} (wrong : r.settle = .error e) (b : UInt8) (rest : Bytes) :
    ∃ e, r.step (hyphen :: b :: rest) = .error e := by
  have assign (o : Opt) (value : Bytes) : r.assign o value = .error e := by
    rw [Reading.assign, wrong]
    rfl
  have switch (o : Opt) : r.switch o = .error e := by
    rw [Reading.switch, wrong]
    rfl
  have await (o : Opt) : r.await o = .error e := by
    rw [Reading.await, wrong]
    rfl
  rw [step]
  by_cases long : b = hyphen
  · simp only [long, decide_true, Bool.and_self, if_true, readLong]
    split
    · exact ⟨_, rfl⟩
    · split
      · exact ⟨e, await _⟩
      · exact ⟨e, switch _⟩
      · exact ⟨e, assign _ _⟩
      · exact ⟨_, rfl⟩
  · simp only [long, decide_true, decide_false, Bool.and_false, if_true, Bool.false_eq_true,
      if_false, readLetters]
    split
    · exact ⟨_, rfl⟩
    · split
      · rw [switch]
        exact ⟨e, rfl⟩
      · split
        · exact ⟨e, await _⟩
        · exact ⟨e, assign _ _⟩

/-! ## All options -/

theorem readAll_cons {arg : Bytes} (ordinary : arg ≠ endOfOptions) (more : List Bytes) :
    r.readAll (arg :: more) = (r.step arg).bind fun next => next.readAll more := by
  rw [readAll.eq_def]
  exact if_neg ordinary

theorem result_cons {arg : Bytes} (ordinary : arg ≠ endOfOptions) (more : List Bytes) :
    r.result fallback (arg :: more) = (r.step arg).bind fun next => next.result fallback more := by
  rw [result, readAll_cons ordinary]
  cases r.step arg <;> rfl

theorem Has.result_nil (has : r.Has s g) (fallback : Option Bytes) :
    r.result fallback [] =
      if g.config.isNone && fallback = some [] then .error .missingValue else .ok g := by
  change finish fallback r = _
  rw [finish, has.settled]
  rfl

theorem Has.result_nil_ok (has : r.Has s g) (none : g.config = none)
    (unnamed : fallback ≠ some []) : r.result fallback [] = .ok g := by
  rw [has.result_nil, none, decide_eq_false unnamed]
  rfl

/-- Nothing but a value in an argument of its own may look unlike an option. -/
theorem step_stray {arg : Bytes} (stands : Standing arg) (full : r.isAwaiting = false) :
    r.step arg = .error (stray r.scope) := by
  obtain ⟨s, g, pending⟩ := r
  match arg, pending with
  | [], .nothing | [], .filled .. | [_], .nothing | [_], .filled .. => rfl
  | a :: b :: rest, .nothing | a :: b :: rest, .filled .. =>
    have apart : ¬ a = hyphen := fun same => stands b rest (by rw [same])
    simp [step, apart]

/-- A wrong value is found out in the end, and so is a missing one if no value follows. -/
theorem result_error {e : UsageError} (wrong : r.settle = .error e) {args : List Bytes}
    (nothing : r.isAwaiting = true → ∀ arg ∈ args.head?, ¬ Standing arg) :
    ∃ e, r.result fallback args = .error e := by
  have ends : ∃ e, finish fallback r = .error e := by
    rw [finish, wrong]
    exact ⟨e, rfl⟩
  cases args with
  | nil => exact ends
  | cons arg more =>
    by_cases last : arg = endOfOptions
    · rw [result, readAll.eq_def]
      simp only [if_pos last]
      cases more with
      | nil => exact ends
      | cons next _ => exact ⟨_, rfl⟩
    · have refused : ∃ e, r.step arg = .error e := by
        by_cases stands : Standing arg
        · cases awaits : r.isAwaiting with
          | true => exact absurd stands (nothing awaits arg rfl)
          | false => exact ⟨_, step_stray stands awaits⟩
        · obtain ⟨b, rest, rfl⟩ := not_standing.mp stands
          exact step_error wrong b rest
      obtain ⟨e, refused⟩ := refused
      rw [result_cons last, refused]
      exact ⟨e, rfl⟩

section Given
variable (has : r.Has s g) (known : o ∈ s.options) (takes : o.takesValue = true) {value : Bytes}
  {place : Placement}
include has known takes

/-- A value that is right and can be told from an option is put in place. -/
theorem Has.result_given (stands : place = .apart → Standing value)
    (assigned : g.assign o value = .ok g') :
    ∃ r' : Reading, r'.Has s g' ∧ ∀ fallback more,
      r.result fallback (o.given value place ++ more) = r'.result fallback more := by
  cases place with
  | attached =>
    refine ⟨⟨s, g', .nothing⟩, ⟨rfl, rfl⟩, fun fallback more => ?_⟩
    have step := has.step_attached known takes value
    rw [assigned] at step
    rw [Opt.given, List.singleton_append, result_cons (o.spelled_append_ne_endOfOptions _), step]
    rfl
  | apart =>
    have stands := stands rfl
    have settles : settle ⟨s, g, .filled o value⟩ = .ok ⟨s, g', .nothing⟩ := by
      simp only [settle, assigned]
      rfl
    refine ⟨⟨s, g, .filled o value⟩, ⟨rfl, settles⟩, fun fallback more => ?_⟩
    have ordinary : value ≠ endOfOptions := stands hyphen []
    rw [Opt.given, List.cons_append, List.singleton_append, result_cons o.spelled_ne_endOfOptions,
      has.step_apart known takes]
    change result _ fallback (value :: more) = _
    rw [result_cons ordinary, step_standing stands]
    rfl

/-- Any other is refused, at once or in the end. -/
theorem Has.result_given_error
    (wrong : (place = .apart ∧ ¬ Standing value) ∨ ∃ e, g.assign o value = .error e)
    (fallback : Option Bytes) (more : List Bytes) :
    ∃ e, r.result fallback (o.given value place ++ more) = .error e := by
  cases place with
  | attached =>
    obtain ⟨e, wrong⟩ := wrong.resolve_left (by rintro ⟨⟨⟩, -⟩)
    have step := has.step_attached known takes value
    rw [wrong] at step
    rw [Opt.given, List.singleton_append, result_cons (o.spelled_append_ne_endOfOptions _), step]
    exact ⟨e, rfl⟩
  | apart =>
    rw [Opt.given, List.cons_append, List.singleton_append, result_cons o.spelled_ne_endOfOptions,
      has.step_apart known takes]
    change ∃ e, result _ fallback (value :: more) = .error e
    by_cases stands : Standing value
    · obtain ⟨e, wrong⟩ := wrong.resolve_left fun looks => looks.2 stands
      have ordinary : value ≠ endOfOptions := stands hyphen []
      rw [result_cons ordinary, step_standing stands]
      have fails : settle ⟨s, g, .filled o value⟩ = .error e := by
        simp only [settle, wrong]
        rfl
      exact result_error fails nofun
    · have missing : settle ⟨s, g, .awaiting o⟩ = .error .missingValue := rfl
      exact result_error missing fun _ arg first => by
        obtain rfl := Option.some.inj first
        exact stands

end Given

theorem Has.result_switch (has : r.Has s g) (known : o ∈ s.options) (plain : o.takesValue = false)
    (switched : g.switch o = .ok g') (fallback : Option Bytes) (more : List Bytes) :
    r.result fallback (o.spelled :: more) = result ⟨s, g', .nothing⟩ fallback more := by
  rw [result_cons o.spelled_ne_endOfOptions, has.step_switch known plain, switched]
  rfl

end Reading

/-! ## Whole lines -/

namespace ReplayLine
variable {l : ReplayLine} {fallback : Option Bytes}

/-- What is given up to the log, and what up to the pid. -/
def withLog (l : ReplayLine) : Given := { Given.nothing with log := some l.log }

def withPid (l : ReplayLine) : Given := { l.withLog with pid := l.pid.map (·.1) }

/-- What is given by all options. -/
def given (l : ReplayLine) : Given := { l.withPid with json := l.asJson }

theorem assign_log (named : l.log ≠ []) : Given.nothing.assign .log l.log = .ok l.withLog := by
  change (Given.readPath l.log).bind _ = _
  rw [Given.readPath, if_neg named]
  rfl

theorem assign_log_nil : Given.nothing.assign .log [] = .error .missingValue := rfl

theorem assign_pid (l : ReplayLine) (p : Pid) :
    l.withLog.assign .pid (Utf8.encode (Relation.pidChars p)) =
      .ok { l.withLog with pid := some p } := by
  change (Given.readPid _).bind _ = _
  simp only [Given.readPid, Utf8.decode_encode, Relation.pidChars, Decimal.readInt32_digits]
  rfl

/-- The log is known, and what follows is read behind it. -/
theorem result_log (named : l.log ≠ []) (path : l.logPlace = .apart → Standing l.log) :
    ∃ r : Reading, r.Has (some .replay) l.withLog ∧ ∀ fallback more,
      (start (some .replay)).result fallback (Opt.log.given l.log l.logPlace ++ more) =
        r.result fallback more :=
  (has_start _).result_given (by decide) rfl path (assign_log named)

theorem result_pid {r : Reading} (has : r.Has (some .replay) l.withLog)
    (nonneg : ∀ p, l.pid = some (p, .apart) → 0 ≤ p.toInt) :
    ∃ r' : Reading, r'.Has (some .replay) l.withPid ∧ ∀ fallback more,
      r.result fallback (pidArgs l.pid ++ more) = r'.result fallback more := by
  cases asked : l.pid with
  | none =>
    have same : l.withPid = l.withLog := by
      rw [withPid, asked]
      rfl
    exact ⟨r, same ▸ has, fun _ _ => rfl⟩
  | some given =>
    obtain ⟨p, place⟩ := given
    have same : l.withPid = { l.withLog with pid := some p } := by
      rw [withPid, asked]
      rfl
    have stands : place = .apart → Standing (Utf8.encode (Relation.pidChars p)) := by
      rintro rfl
      exact (standing_pid_iff p).mpr (nonneg p asked)
    rw [same]
    exact has.result_given (by decide) rfl stands (l.assign_pid p)

theorem result_form {r : Reading} (has : r.Has (some .replay) l.withPid)
    (unnamed : fallback ≠ some []) : r.result fallback (formArgs l.asJson) = .ok l.given := by
  cases form : l.asJson with
  | false =>
    have same : l.given = l.withPid := by
      rw [given, form]
      rfl
    rw [same]
    exact has.result_nil_ok rfl unnamed
  | true =>
    have switched : l.withPid.switch .json = .ok l.given := by
      rw [given, form]
      rfl
    have last : Has ⟨some .replay, l.given, .nothing⟩ (some .replay) l.given := ⟨rfl, rfl⟩
    have step := has.result_switch (by decide) rfl switched fallback []
    exact step.trans (last.result_nil_ok rfl unnamed)

/-- A line whose values can be told from options is read. -/
theorem Clear.result (clear : l.Clear) (unnamed : fallback ≠ some []) :
    (start (some .replay)).result fallback l.options = .ok l.given := by
  obtain ⟨r, log, first⟩ := result_log clear.named clear.path
  obtain ⟨r', pid, second⟩ := result_pid log clear.pid
  rw [options, first, second, result_form pid unnamed]

/-- Any other is refused. -/
theorem result_error_of_not_clear (unclear : ¬ l.Clear) (fallback : Option Bytes) :
    ∃ e, (start (some .replay)).result fallback l.options = .error e := by
  have log : (l.logPlace = .apart ∧ ¬ Standing l.log) ∨
      (∃ e, Given.nothing.assign .log l.log = .error e) →
      ∃ e, (start (some .replay)).result fallback l.options = .error e :=
    fun wrong => (has_start _).result_given_error (by decide) rfl wrong fallback _
  by_cases named : l.log = []
  · exact log (.inr ⟨.missingValue, by rw [named, assign_log_nil]⟩)
  by_cases path : l.logPlace = .apart ∧ ¬ Standing l.log
  · exact log (.inl path)
  have path : l.logPlace = .apart → Standing l.log :=
    fun apart => Classical.not_not.mp fun looks => path ⟨apart, looks⟩
  -- The log is right, so it is the pid that is taken for an option.
  obtain ⟨r, has, first⟩ := result_log named path
  have negative : ∃ p, l.pid = some (p, .apart) ∧ ¬ 0 ≤ p.toInt := by
    refine Classical.byContradiction fun none => unclear ⟨named, path, fun p asked => ?_⟩
    exact Classical.not_not.mp fun negative => none ⟨p, asked, negative⟩
  obtain ⟨p, asked, negative⟩ := negative
  rw [options, first, asked]
  exact has.result_given_error (by decide) rfl
    (.inl ⟨rfl, mt (standing_pid_iff p).mp negative⟩) fallback _

/-- Behind the name of the command everything counts for the command. -/
theorem read_args (l : ReplayLine) (fallback : Option Bytes) :
    Invocation.read fallback l.args =
      ((start (some .replay)).result fallback l.options).bind fun inside =>
        ((start none).result fallback []).bind fun outside =>
          .ok ⟨outside.verbose || inside.verbose, inside.config.or (outside.config.or fallback),
            commandOf .replay inside⟩ := by
  have name : (start none).readUpToCommand l.args =
      .ok (start none, some (.replay, l.options)) := by
    rw [args, readUpToCommand.eq_def]
    simp only [CommandName.ofBytes_text]
    rfl
  simp only [Invocation.read, name, result, bind, Except.bind]
  cases (start (some .replay)).readAll l.options <;> rfl

/-- So a line asks for the replay that it seems to ask for, unless a value of it looks like an
option, or the environment names a file of settings without a name. -/
theorem read_of_clear (clear : l.Clear) (unnamed : fallback ≠ some []) :
    Invocation.read fallback l.args = .ok (l.invocation fallback) := by
  have outside := (has_start none).result_nil_ok rfl unnamed
  rw [read_args, clear.result unnamed, outside]
  rfl

example : (Invocation.read none (["replay", "--log=l", "--pid=-7"].map Bytes.ofString)).toOption =
    some ⟨false, none, .replay (some (Bytes.ofString "l")) (some (-7)) false⟩ := by
  decide +kernel

theorem read_error (refused : ¬ (l.Clear ∧ fallback ≠ some [])) :
    ∃ e, Invocation.read fallback l.args = .error e := by
  rw [read_args]
  by_cases clear : l.Clear
  · obtain rfl : fallback = some [] :=
      Classical.not_not.mp fun named => refused ⟨clear, named⟩
    have outside := (has_start none).result_nil (some [])
    rw [outside]
    cases (start (some .replay)).result (some []) l.options with
    | error e => exact ⟨e, rfl⟩
    | ok inside => exact ⟨.missingValue, rfl⟩
  · obtain ⟨e, wrong⟩ := result_error_of_not_clear clear fallback
    rw [wrong]
    exact ⟨e, rfl⟩

end ReplayLine

theorem Tools.standard_lawful : Tools.standard.Lawful where
  understands {l fallback} clear unnamed := by
    change (Invocation.read fallback l.args).mapError _ = _
    rw [l.read_of_clear clear unnamed]
    rfl
  refuses {l fallback} unclear := by
    obtain ⟨e, wrong⟩ := l.read_error unclear
    refine ⟨e.text, ?_⟩
    change (Invocation.read fallback l.args).mapError _ = _
    rw [wrong]
    rfl
  pretty := Json.read_pretty

end Ancestry.CommandLine
