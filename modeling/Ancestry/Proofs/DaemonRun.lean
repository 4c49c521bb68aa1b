import Ancestry.Proofs.Installing
import Ancestry.Proofs.ListenerLife
import Ancestry.Proofs.SwitchingOn
import Ancestry.Supervisor.Daemon

/-!
# A run from end to end

A run touches three places: that of the log, that of the preload list, and that of the socket. Each
step touches its own, and only if the settings ask for it. So a run that fails has done what the
steps before the failing one do, and nothing of what comes after it; a run that succeeds has done
all of it, and the place of the socket is free again.

The log and the preload list are files in the end, unless a special file stands there, a device or
a pipe. That stays what it is: it takes what is written and holds nothing.
-/
namespace Ancestry
open World FileSystem

/-! ## What a step does to its place -/

namespace World

/-- What stands at a place was changed in some way and nothing else was. -/
structure Touches (loc : Location) (change : Option Node → Node → Prop) (w v : World) : Prop where
  entry : ∃ node, v.files.get? loc = some node ∧ change (w.files.get? loc) node
  others : SameApart [loc] w v
  listening : v.listening = w.listening

theorem Touches.keeps {loc : Location} {change : Option Node → Node → Prop} {w v : World}
    (touches : Touches loc change w v)
    (alike : ∀ old node, change (some old) node → node.waymark = old.waymark) :
    Keeps w.files v.files := by
  obtain ⟨node, there, changed⟩ := touches.entry
  intro other old before
  by_cases here : other = loc
  · subst here
    rw [before] at changed
    exact ⟨node, there, alike old node changed⟩
  · exact ⟨old, (touches.others.entries other (by simpa using here)).trans before, rfl⟩

/-- A file that was opened to be written stands where its path says. -/
theorem place_of_status {w : World} {path : Bytes} {loc place : Location} {node : Node}
    (named : w.Names path loc) (noLink : ¬ w.files.IsLink loc) (leaf : node.isDirectory = false)
    (found : w.status path = .ok (place, node)) : place = loc := by
  obtain ⟨target, located, rfl⟩ := named
  obtain ⟨-, followed⟩ := locate_of_find leaf (status_eq_ok.mp found).2
  cases (locate_of_keep located noLink).symm.trans followed
  rfl

theorem place_of_free {w : World} {path : Bytes} {loc directory : Location} {name : Name}
    (named : w.Names path loc) (noLink : ¬ w.files.IsLink loc)
    (free : w.files.locate w.directory .create path = .ok (.free directory name)) :
    loc = directory ++ [name] := by
  obtain ⟨target, located, rfl⟩ := named
  obtain ⟨-, followed⟩ := FileSystem.locate_create_free free
  cases (locate_of_keep located noLink).symm.trans followed
  rfl

end World

/-! ## The log -/

namespace LogFile

/-- What stands at the place of a log that was switched on. -/
inductive Opened : Option Node → Node → Prop
  | created : Opened none (.file openToAll [])
  | file {mode : Nat} {content : Bytes} :
      Opened (some (.file mode content)) (.file openToAll content)
  | special {mode : Nat} {kind : Special} :
      Opened (some (.special mode kind)) (.special openToAll kind)

variable {w : World} {path : Bytes} {loc : Location}

/-- The log is switched on, or nothing has happened but that an empty file was made. -/
theorem enable_cases (named : w.Names path loc) (noLink : ¬ w.files.IsLink loc) :
    (∃ f v, enable w path = (.error f, v) ∧
      (v = w ∨ w.files.get? loc = none ∧ v = created w loc)) ∨
      ∃ v, enable w path = (.ok (), v) ∧ Touches loc Opened w v := by
  rcases openOrCreate_cases w path with ⟨e, refused⟩ | ⟨place, node, willing, found, -⟩ |
    ⟨directory, name, sound, free, made, -⟩
  · exact .inl ⟨_, w, by simp only [enable, refused, Failure.during]; rfl, .inl rfl⟩
  · obtain ⟨opens, -⟩ := unwritable?_eq_none.mp willing
    have leaf := leaf_of_willing opens
    obtain rfl := place_of_status named noLink leaf found
    have before := status_found found
    rcases enable_there willing found with ⟨-, enabled⟩ | ⟨-, f, failed⟩
    · refine .inr ⟨_, enabled, ⟨_, get?_set_self _ (ne_root_of_status leaf found) _, ?_⟩,
        sameApart_set rfl rfl rfl, rfl⟩
      rw [before]
      cases node with
      | file mode content => exact .file
      | special mode kind => exact .special
      | symlink link => exact absurd ⟨link, before⟩ noLink
      | _ => cases opens
    · exact .inl ⟨f, w, failed, .inl rfl⟩
  · obtain rfl := place_of_free named noLink free
    obtain ⟨below, -, vacant, -, ⟨-, enabled⟩ | ⟨-, f, failed⟩⟩ :=
      enable_free ⟨directory, name, sound, rfl, free, made⟩
    · refine .inr ⟨_, enabled, ⟨_, get?_set_self _ below _, ?_⟩,
        SameApart.again (v := created w (directory ++ [name])) (sameApart_set rfl rfl rfl)
          (sameApart_set rfl rfl rfl), rfl⟩
      rw [vacant]
      exact .created
    · exact .inl ⟨f, _, failed, .inr ⟨vacant, rfl⟩⟩

end LogFile

/-! ## The preload list -/

namespace PreloadList

/-- A text lists a library. The empty one is never listed. -/
def Has (library : Bytes) (text : List Char) : Prop :=
  library ≠ [] → ∃ entry ∈ entries text, Utf8.encode entry = library

/-- What stands at the place of a list to which a library was to be added. -/
inductive Lists (library : Bytes) : Option Node → Node → Prop
  | created {text : List Char} :
      Has library text → Lists library none (.file (umasked 0o666) (Utf8.encode text))
  | file {mode : Nat} {old : Bytes} {text : List Char} :
      old <+: Utf8.encode text → Has library text →
      Lists library (some (.file mode old)) (.file mode (Utf8.encode text))
  | special {mode : Nat} {kind : Special} :
      Lists library (some (.special mode kind)) (.special mode kind)

variable {w : World} {path library : Bytes} {loc : Location}

theorem has_addition {content entry : List Char} (asked : entryOf library = .ok entry) :
    Has library (content ++ addition content entry) := by
  obtain ⟨same, whole⟩ := entryOf_eq_ok.mp asked
  intro named
  have nonempty : entry ≠ [] := by
    rintro rfl
    exact named same
  refine ⟨entry, ?_, same.symm⟩
  rw [entries_addition content whole, List.mem_append, List.mem_filter]
  exact .inr ⟨List.mem_singleton_self entry, decide_eq_true nonempty⟩

/-- A text that is not empty was read from what its path leads to. -/
theorem contentOf_of_load {content : List Char} (loaded : load w path = .ok content)
    (something : content ≠ []) :
    ∃ place node, w.status path = .ok (place, node) ∧
      contentOf node = .ok (Utf8.encode content) := by
  have text : w.readText path = .ok content := by
    unfold load at loaded
    split at loaded
    · rename_i read
      rw [read, Except.ok.inj loaded]
    · exact absurd (Except.ok.inj loaded).symm something
    · cases loaded
  unfold readText World.read openRead at text
  cases found : w.status path with
  | error e =>
    rw [found] at text
    cases text
  | ok entry =>
    obtain ⟨place, node⟩ := entry
    refine ⟨place, node, rfl, ?_⟩
    cases node with
    | socket mode endpoint =>
      rw [found] at text
      cases text
    | _ =>
      rw [found] at text
      dsimp only at text
      split at text
      · cases text
      rename_i bytes read
      split at text
      · rename_i cs decoded
        cases text
        rw [read, Utf8.decode_eq_ok_iff.mp decoded]
      · cases text

/-- A list that has the library already stays as it is. -/
theorem touches_listed (named : w.Names path loc) (noLink : ¬ w.files.IsLink loc)
    (there : library ∈ listed w path) : Touches loc (Lists library) w w := by
  cases loaded : load w path with
  | error f => simp [listed, loaded] at there
  | ok content =>
    simp only [listed, loaded, List.mem_map] at there
    obtain ⟨entry, member, same⟩ := there
    have something : content ≠ [] := by
      rintro rfl
      cases member
    obtain ⟨place, node, found, read⟩ := contentOf_of_load loaded something
    have leaf : node.isDirectory = false := by
      cases node with
      | directory => cases read
      | _ => rfl
    obtain rfl := place_of_status named noLink leaf found
    have before := status_found found
    refine ⟨⟨node, before, before ▸ ?_⟩, .refl _ _, rfl⟩
    cases node with
    | file mode bytes =>
      cases read
      exact .file (List.prefix_refl _) fun _ => ⟨entry, member, same⟩
    | special mode kind => exact .special
    | _ => cases read

theorem touches_extended (named : w.Names path loc) (noLink : ¬ w.files.IsLink loc)
    {content more : List Char} (extensible : Extensible w path content)
    (has : Has library (content ++ more)) :
    ∃ v, extend w path (Utf8.encode more) = (.ok (), v) ∧ Touches loc (Lists library) w v := by
  cases extensible with
  | file found free =>
    obtain rfl := place_of_status named noLink rfl found
    have before := status_found found
    refine ⟨_, extend_file found free _, ⟨_, FileSystem.get?_set_self _ ?_ _, ?_⟩,
      sameApart_set rfl rfl rfl, rfl⟩
    · rintro rfl
      cases before
    · rw [before, ← Utf8.encode_append]
      exact .file (Utf8.encode_append _ _ ▸ List.prefix_append _ _) has
  | missing sound vacant free =>
    obtain rfl := place_of_free named noLink vacant
    obtain ⟨v, extended, others, there, listening⟩ :=
      extend_missing sound vacant free (Utf8.encode more)
    refine ⟨v, extended, ⟨_, there, ?_⟩, others, listening⟩
    rw [locate_free vacant]
    exact .created has

theorem ensure_cases (named : w.Names path loc) (noLink : ¬ w.files.IsLink loc)
    (library : Bytes) :
    (∃ f records, ensure w path library = (.error f, w, records)) ∨
      ∃ changed v records, ensure w path library = (.ok changed, v, records) ∧
        Touches loc (Lists library) w v := by
  by_cases there : library ∈ listed w path
  · exact .inr ⟨false, w, [], ensure_of_mem_listed there, touches_listed named noLink there⟩
  cases asked : entryOf library with
  | error f => exact .inl ⟨f, [], ensure_refused asked⟩
  | ok entry =>
    by_cases extensible : ∃ content, Extensible w path content
    · obtain ⟨content, extensible⟩ := extensible
      have loaded := load_extensible extensible
      have absent : entry ∉ entries content := by
        rw [← encode_mem_listed loaded, ← (entryOf_eq_ok.mp asked).1]
        exact there
      obtain ⟨v, extended, touches⟩ :=
        touches_extended named noLink extensible (has_addition asked)
      obtain ⟨records, added⟩ := ensure_added asked loaded absent extended
      exact .inr ⟨true, v, records, added, touches⟩
    · have none : ∀ content, ¬ Extensible w path content := not_exists.mp extensible
      obtain ⟨same, granted⟩ := ensure_not_extensible none library
      rcases ensured : ensure w path library with ⟨result, v, records⟩
      rw [ensured] at same granted
      obtain rfl : v = w := same
      cases result with
      | error f => exact .inl ⟨f, records, rfl⟩
      | ok changed =>
        obtain ⟨place, mode, kind, found⟩ := (granted rfl).2.resolve_left there
        obtain rfl := place_of_status named noLink rfl found
        have before := status_found found
        exact .inr ⟨changed, v, records, rfl, ⟨_, before, before ▸ .special⟩, .refl _ _, rfl⟩

end PreloadList

/-! ## The steps of a run -/

namespace Daemon

def Logs (d : Daemon) : Prop := d.settings.enableLog = some true

def Installs (d : Daemon) : Prop := d.settings.preload.install = some true

/-- A step that is taken only if it is asked for. -/
structure Takes (asked : Prop) (loc : Location) (change : Option Node → Node → Prop)
    (w v : World) : Prop where
  taken : asked → Touches loc change w v
  skipped : ¬ asked → v = w

/-- What a step that is taken only if it is asked for has made of its place in the end. -/
structure Done (asked : Prop) (loc : Location) (change : Option Node → Node → Prop)
    (w v : World) : Prop where
  taken : asked → ∃ node, v.files.get? loc = some node ∧ change (w.files.get? loc) node
  skipped : ¬ asked → v.files.get? loc = w.files.get? loc

section Takes
variable {asked : Prop} {loc : Location} {change : Option Node → Node → Prop} {w v : World}

theorem Takes.others (step : Takes asked loc change w v) : SameApart [loc] w v := by
  by_cases yes : asked
  · exact (step.taken yes).others
  · rw [step.skipped yes]
    exact .refl _ _

theorem Takes.listening (step : Takes asked loc change w v) : v.listening = w.listening := by
  by_cases yes : asked
  · exact (step.taken yes).listening
  · rw [step.skipped yes]

theorem Takes.keeps (step : Takes asked loc change w v)
    (alike : ∀ old node, change (some old) node → node.waymark = old.waymark) :
    Keeps w.files v.files := by
  by_cases yes : asked
  · exact (step.taken yes).keeps alike
  · rw [step.skipped yes]
    exact .refl _

/-- A step is what has happened to its place, if that was touched neither before nor after. -/
theorem Takes.done (step : Takes asked loc change w v) {first last : World}
    (before : w.files.get? loc = first.files.get? loc)
    (after : last.files.get? loc = v.files.get? loc) : Done asked loc change first last := by
  constructor
  · intro yes
    obtain ⟨node, there, changed⟩ := (step.taken yes).entry
    exact ⟨node, after.trans there, before ▸ changed⟩
  · intro no
    rw [after, step.skipped no, before]

end Takes

theorem opened_waymark {old node : Node} (opened : LogFile.Opened (some old) node) :
    node.waymark = old.waymark := by
  cases opened <;> rfl

theorem lists_waymark {library : Bytes} {old node : Node}
    (lists : PreloadList.Lists library (some old) node) : node.waymark = old.waymark := by
  cases lists <;> rfl

variable {d : Daemon} {w v u : World} {loc : Location} {visits : List Visit}

/-- An option that was not given is off. -/
theorem getD_eq_false {given : Option Bool} (no : ¬ given = some true) :
    given.getD false = false := by
  cases given with
  | none => rfl
  | some b =>
    cases b with
    | false => rfl
    | true => exact absurd rfl no

theorem enableLog_cases (named : w.Names d.log loc) (noLink : ¬ w.files.IsLink loc) :
    (∃ f v, d.Logs ∧ d.enableLog w = (.error f, v, []) ∧
      (v = w ∨ w.files.get? loc = none ∧ v = LogFile.created w loc)) ∨
      ∃ v records, d.enableLog w = (.ok (), v, records) ∧
        Takes d.Logs loc LogFile.Opened w v := by
  unfold enableLog Logs
  by_cases logs : d.settings.enableLog = some true
  · simp only [logs, Option.getD_some, if_true]
    rcases LogFile.enable_cases named noLink with ⟨f, v, failed, left⟩ | ⟨v, enabled, touches⟩
    · exact .inl ⟨f, v, trivial, by rw [failed], left⟩
    · rw [enabled]
      exact .inr ⟨v, _, rfl, fun _ => touches, fun no => absurd trivial no⟩
  · simp only [getD_eq_false logs, Bool.false_eq_true, if_false]
    exact .inr ⟨w, [], rfl, fun yes => absurd yes logs, fun _ => rfl⟩

theorem install_cases (named : w.Names d.settings.preload.preloadFile loc)
    (noLink : ¬ w.files.IsLink loc) :
    (∃ f records, d.Installs ∧ d.install w = (.error f, w, records)) ∨
      ∃ v records, d.install w = (.ok (), v, records) ∧
        Takes d.Installs loc (PreloadList.Lists d.settings.preload.library) w v := by
  unfold install Installs
  by_cases installs : d.settings.preload.install = some true
  · simp only [installs, Option.getD_some, if_true]
    rcases PreloadList.ensure_cases named noLink d.settings.preload.library with
      ⟨f, records, failed⟩ | ⟨changed, v, records, ensured, touches⟩
    · rw [failed]
      exact .inl ⟨f, _, trivial, rfl⟩
    · rw [ensured]
      exact .inr ⟨v, _, rfl, fun _ => touches, fun no => absurd trivial no⟩
  · simp only [getD_eq_false installs, Bool.false_eq_true, if_false]
    exact .inr ⟨w, [], rfl, fun yes => absurd yes installs, fun _ => rfl⟩

/-! ## Runs -/

section Run
variable {f : Failure} {l : Listener} {t : World} {records more last : List Record}

theorem run_of_enableLog (failed : d.enableLog w = (.error f, v, records)) :
    d.run w visits = ⟨.error f, v, records, .empty, []⟩ := by
  simp only [run, andThen, failed]

theorem run_of_install (logged : d.enableLog w = (.ok (), v, records))
    (failed : d.install v = (.error f, u, more)) :
    d.run w visits = ⟨.error f, u, records ++ more, .empty, []⟩ := by
  simp only [run, andThen, logged, failed]

theorem run_of_bind_error (logged : d.enableLog w = (.ok (), v, records))
    (listed : d.install v = (.ok (), u, more))
    (failed : Listener.bind u d.socket = (.error f, t, last)) :
    d.run w visits = ⟨.error f, t, records ++ (more ++ last), .empty, []⟩ := by
  simp only [run, andThen, logged, listed, failed]

theorem run_of_bind (visits : List Visit) (logged : d.enableLog w = (.ok (), v, records))
    (listed : d.install v = (.ok (), u, more))
    (bound : Listener.bind u d.socket = (.ok l, t, last)) :
    ∃ all, d.run w visits = ⟨.ok (), l.close t, all, Listener.served .empty visits,
      (Listener.served .empty visits).dump⟩ := by
  simp only [run, andThen, logged, listed, bound]
  exact ⟨_, rfl⟩

end Run

/-- The places that the paths of a run name. -/
structure Places where
  log : Location
  preload : Location
  socket : Location

/-- The paths name three places, which are different, and there is a link at none of them. -/
structure Placed (d : Daemon) (w : World) (p : Places) : Prop where
  log : w.Names d.log p.log
  preload : w.Names d.settings.preload.preloadFile p.preload
  socket : w.Names d.socket p.socket
  noLinks : ∀ loc ∈ [p.log, p.preload, p.socket], ¬ w.files.IsLink loc
  apart : [p.log, p.preload, p.socket].Nodup

/-- What the log and the preload list have become in the end. -/
structure Prepared (d : Daemon) (p : Places) (w v : World) : Prop where
  log : Done d.Logs p.log LogFile.Opened w v
  preload : Done d.Installs p.preload (PreloadList.Lists d.settings.preload.library) w v

/-- A run has come to its end: it prints what it has learnt, its socket is gone, and nothing but
the log and the preload list has changed. -/
structure Succeeds (d : Daemon) (p : Places) (w : World) (visits : List Visit)
    (o : Outcome) : Prop where
  result : o.result = .ok ()
  learnt : ∃ rs, Listener.Carry visits rs ∧ o.tracker = Tracker.empty.addAll rs ∧
    o.output = (Tracker.empty.addAll rs).dump
  prepared : Prepared d p w o.world
  nothing : o.world.files.get? p.socket = none
  notFound : o.world.find .keep d.socket = .error .notFound
  others : SameApart [p.log, p.preload, p.socket] w o.world
  listening : o.world.listening ⊆ w.listening

/-- How a run has failed: at which step, and what the steps before it have changed. Of the steps
themselves, only the first and the last can have left something: a log that was made and not opened
to everybody, and what there is at the place of a socket that could not be bound. -/
inductive Stops (d : Daemon) (p : Places) (w : World) (f : Failure) (v : World) : Prop
  | enableLog : d.Logs → (d.enableLog w).1 = .error f →
      (v = w ∨ w.files.get? p.log = none ∧ v = LogFile.created w p.log) → Stops d p w f v
  | install {u : World} {records : List Record} : d.Installs →
      d.enableLog w = (.ok (), u, records) → (d.install u).1 = .error f →
      Done d.Logs p.log LogFile.Opened w v → SameApart [p.log] w v → Stops d p w f v
  | bind {u t : World} {records more : List Record} :
      d.enableLog w = (.ok (), u, records) → d.install u = (.ok (), t, more) →
      (Listener.bind t d.socket).1 = .error f →
      Prepared d p w v → SameApart [p.log, p.preload, p.socket] w v → Stops d p w f v

/-- A run that has failed prints nothing, knows nothing and listens nowhere. -/
structure Fails (d : Daemon) (p : Places) (w : World) (o : Outcome) : Prop where
  stops : ∃ f, o.result = .error f ∧ Stops d p w f o.world
  tracker : o.tracker = .empty
  output : o.output = []
  listening : o.world.listening ⊆ w.listening

variable {p : Places}

theorem Placed.ne (placed : Placed d w p) :
    p.log ≠ p.preload ∧ p.log ≠ p.socket ∧ p.preload ≠ p.socket := by
  have apart := placed.apart
  simp only [List.nodup_cons, List.mem_cons, List.not_mem_nil, or_false, not_or,
    not_false_eq_true, List.nodup_nil, and_true] at apart
  exact ⟨apart.1.1, apart.1.2, apart.2⟩

/-- The two steps before the socket have their effects still when it has had its own. -/
theorem Placed.prepared {t : World} (placed : Placed d w p)
    (first : Takes d.Logs p.log LogFile.Opened w v)
    (second : Takes d.Installs p.preload (PreloadList.Lists d.settings.preload.library) v u)
    (last : SameApart [p.socket] u t) :
    Prepared d p w t ∧ SameApart [p.log, p.preload, p.socket] w t := by
  obtain ⟨logPreload, logSocket, preloadSocket⟩ := placed.ne
  refine ⟨⟨first.done rfl ?_, second.done ?_ ?_⟩, (first.others.trans second.others).trans last⟩
  · rw [last.entries _ (by simpa using logSocket),
      second.others.entries _ (by simpa using logPreload)]
  · exact first.others.entries _ (by simpa using Ne.symm logPreload)
  · exact last.entries _ (by simpa using preloadSocket)

/-- The two other paths name their places still when the log has been switched on. -/
theorem Placed.afterLog (placed : Placed d w p)
    (first : Takes d.Logs p.log LogFile.Opened w v) :
    v.Names d.settings.preload.preloadFile p.preload ∧ ¬ v.files.IsLink p.preload ∧
      v.Names d.socket p.socket := by
  have kept := first.keeps fun _ _ => opened_waymark
  have entry : v.files.get? p.preload = w.files.get? p.preload :=
    first.others.entries _ (by simpa using Ne.symm placed.ne.1)
  refine ⟨placed.preload.kept first.others.directory kept, ?_,
    placed.socket.kept first.others.directory kept⟩
  unfold FileSystem.IsLink
  rw [entry]
  exact placed.noLinks _ (by simp)

/-- A run that is met by short messages, one after the other, either does all it is asked for and
prints what the valid ones told, or stops at a step and leaves what comes after it undone. -/
theorem run_succeeds_or_fails (placed : Placed d w p)
    (short : ∀ visit ∈ visits, visit.arrival.IsShort) :
    Succeeds d p w visits (d.run w visits) ∨ Fails d p w (d.run w visits) := by
  rcases enableLog_cases placed.log (placed.noLinks _ (by simp)) with
    ⟨f, v, logs, failed, left⟩ | ⟨v, records, logged, first⟩
  · right
    have listening : v.listening = w.listening := by
      rcases left with rfl | ⟨-, rfl⟩ <;> rfl
    rw [run_of_enableLog failed]
    exact ⟨⟨f, rfl, .enableLog logs (by rw [failed]) left⟩, rfl, rfl,
      listening ▸ List.Subset.refl _⟩
  obtain ⟨listNamed, listNoLink, socketNamed⟩ := placed.afterLog first
  rcases install_cases listNamed listNoLink with
    ⟨f, more, installs, failed⟩ | ⟨u, more, listed, second⟩
  · right
    rw [run_of_install logged failed]
    exact ⟨⟨f, rfl, .install installs logged (by rw [failed]) (first.done rfl rfl) first.others⟩,
      rfl, rfl, first.listening ▸ List.Subset.refl _⟩
  have named : u.Names d.socket p.socket :=
    socketNamed.kept second.others.directory (second.keeps fun _ _ => lists_waymark)
  have listening : u.listening = w.listening := second.listening.trans first.listening
  rcases bound : Listener.bind u d.socket with ⟨result, t, last⟩
  cases result with
  | error f =>
    right
    obtain ⟨others, silent⟩ := Listener.bind_failed named bound
    obtain ⟨prepared, apart⟩ := placed.prepared first second others
    rw [run_of_bind_error logged listed bound]
    exact ⟨⟨f, rfl, .bind logged listed (by rw [bound]) prepared apart⟩, rfl, rfl,
      listening ▸ silent⟩
  | ok l =>
    left
    obtain ⟨loc, stands⟩ := Listener.stands_of_bind bound
    obtain rfl : loc = p.socket := stands.named.unique named
    have gone := stands.gone
    obtain ⟨prepared, apart⟩ := placed.prepared first second gone.others
    obtain ⟨rs, carry, served⟩ := (Listener.faithful short .empty).final
    obtain ⟨all, done⟩ := run_of_bind visits logged listed bound
    rw [done]
    exact
      { result := rfl
        learnt := ⟨rs, carry, served, congrArg Tracker.dump served⟩
        prepared := prepared
        nothing := gone.nothing
        notFound := gone.notFound
        others := apart
        listening := listening ▸ gone.listening }

/-- A world with a log, a preload list whose last line was not ended, and a socket that a former
run has left. -/
def inUse : World :=
  { World.bare with
    files := ((World.bare.files.set (World.place "/tmp/work/l")
      (.file 0o600 (Bytes.ofString "1:2\n"))).set (World.place "/tmp/work/p")
      (.file 0o644 (Bytes.ofString "/lib/other.so"))).set (World.place "/tmp/work/s")
      (.socket 0o666 7)
    endpoints := 8 }

/-- A run that is asked for everything, with its log and its preload list at some paths. -/
def eager (log preload : String) : Daemon :=
  ⟨⟨some true, some true, Bytes.ofString "/lib/a.so", Bytes.ofString preload⟩,
    Bytes.ofString "s", Bytes.ofString log⟩

theorem run_succeeds_or_fails_inUse :
    Succeeds (eager "l" "p") ⟨World.place "/tmp/work/l", World.place "/tmp/work/p",
        World.place "/tmp/work/s"⟩ inUse Listener.mixed
      ((eager "l" "p").run inUse Listener.mixed) ∧
    Fails (eager "l" "/etc") ⟨World.place "/tmp/work/l", World.place "/etc",
        World.place "/tmp/work/s"⟩ inUse
      ((eager "l" "/etc").run inUse Listener.mixed) := by
  have short : ∀ v ∈ Listener.mixed, v.arrival.pieces.flatten.length ≤ Connection.maxMessage := by
    decide +kernel
  constructor
  · have placed : Placed (eager "l" "p") inUse ⟨World.place "/tmp/work/l",
        World.place "/tmp/work/p", World.place "/tmp/work/s"⟩ :=
      ⟨⟨.found _ _, rfl, rfl⟩, ⟨.found _ _, rfl, rfl⟩, ⟨.found _ _, rfl, rfl⟩,
        by decide +kernel, by decide⟩
    have ok : ((eager "l" "p").run inUse Listener.mixed).result.isOk = true := by
      decide +kernel
    refine (run_succeeds_or_fails placed short).resolve_right fun fails => ?_
    obtain ⟨f, failed, -⟩ := fails.stops
    rw [failed] at ok
    cases ok
  · have placed : Placed (eager "l" "/etc") inUse ⟨World.place "/tmp/work/l",
        World.place "/etc", World.place "/tmp/work/s"⟩ :=
      ⟨⟨.found _ _, rfl, rfl⟩, ⟨.found _ _, rfl, rfl⟩, ⟨.found _ _, rfl, rfl⟩,
        by decide +kernel, by decide⟩
    have failed : ((eager "l" "/etc").run inUse Listener.mixed).result.isOk = false := by
      decide +kernel
    refine (run_succeeds_or_fails placed short).resolve_left fun succeeds => ?_
    rw [succeeds.result] at failed
    cases failed

/-- Where special files stand, a run succeeds and there is neither a log nor a list. -/
theorem run_on_devices :
    let d := eager "/dev/full" "/dev/null"
    let places : Places := ⟨World.place "/dev/full", World.place "/dev/null",
      World.place "/tmp/work/s"⟩
    let outcome := d.run World.bare []
    Placed d World.bare places ∧ outcome.result.isOk = true ∧
      (∀ mode content, outcome.world.files.get? places.log ≠ some (.file mode content)) ∧
      Bytes.ofString "/lib/a.so" ∉
        PreloadList.listed outcome.world d.settings.preload.preloadFile := by
  intro d places outcome
  refine ⟨⟨⟨.found _ _, rfl, rfl⟩, ⟨.found _ _, rfl, rfl⟩, ⟨.free _ _, rfl, rfl⟩,
    by decide +kernel, by decide⟩, by decide +kernel, fun mode content there => ?_,
    by decide +kernel⟩
  have device : outcome.world.files.get? places.log = some (.special 0o666 .full) := by
    decide +kernel
  cases device.symm.trans there

end Daemon
end Ancestry
