import Ancestry.Proofs.ReportMoments

/-!
# Reporting only appends

Lines are written to files that are there, at their end, and nothing else is done to a file
system: no entry comes or goes, none changes its kind or its mode, and no link leads
elsewhere. So a path leads to the same place all the time, and the only files that can have
grown are those that a log path leads to. It is the same whether a write is refused, takes less
than a line or all of it, and wherever a payload breaks off.

The processes are privileged. There are no users here, and nobody's write takes the permission to
run as the owner from a file, as the system does to other processes.

The functions behind the wrapped calls are not part of this. They are taken to touch no
file; they may change what listens, what was delivered, and the working directory. A path
that does not begin at the root is followed from where the process is at the moment.
-/
namespace Ancestry
open World

/-- What can become of a node: a file may have got longer at its end. -/
inductive Node.GrownTo : Node → Node → Prop
  | same (node : Node) : GrownTo node node
  | file {mode : Nat} {content longer : Bytes} :
      content <+: longer → GrownTo (.file mode content) (.file mode longer)

/-- The same entries, of which files may have grown. -/
def FileSystem.Grown (fs gs : FileSystem) : Prop :=
  ∀ loc, Option.Rel Node.GrownTo (fs.get? loc) (gs.get? loc)

/-- Files have grown, and none but those a path leads to, if there is one. -/
structure World.Appends (path? : Option Bytes) (w v : World) : Prop where
  grown : w.files.Grown v.files
  elsewhere : ∀ loc, (∀ path ∈ path?, ∀ node, w.status path ≠ .ok (loc, node)) →
    v.files.get? loc = w.files.get? loc

/-- What reporting can be asked to do. -/
inductive Operation : Type 1
  | writeLine (limit : Option Nat) (path text : Bytes)
  | send (descriptorsUsedUp : Bool) (replies : List Transmission.Reply) (path payload : Bytes)
  | deliver (r : Reporter) (relation : Relation) (process : Process)
  | report (r : Reporter) (infant? : Option Pid) (process : Process)
  | call (r : Reporter) (c : Call)

namespace Operation

def perform (w : World) : Operation → World
  | writeLine limit path text => (LogSink.writeLine w limit path text).2
  | send descriptorsUsedUp replies path payload =>
    (SocketSink.send w descriptorsUsedUp replies path payload).2
  | deliver r relation process => (r.deliver relation (process.host w)).world
  | report r infant? process => (r.report infant? (process.host w)).world
  | call r c => c.after r w

def performAll (w : World) : List Operation → World
  | [] => w
  | operation :: more => performAll (operation.perform w) more

/-- A function behind a call leaves a part of the world as it is. -/
def Leaves {α : Type} (part : World → α) : Operation → Prop
  | call _ c => c.action.Leaves part
  | _ => True

/-- The path of the log, if one is to be written. -/
def log? : Operation → Option Bytes
  | writeLine _ path _ => some path
  | send .. => none
  | deliver r .. | report r .. | call r _ => some r.log

/-- The world in which the log is looked for. -/
def seen (w : World) : Operation → World
  | call _ c => (c.reporting w).world
  | _ => w

/-- A log path leads to a place at the time it is used. -/
def Reach (w : World) : List Operation → Location → Prop
  | [], _ => False
  | operation :: more, loc =>
    (∃ path ∈ operation.log?, ∃ node, (operation.seen w).status path = .ok (loc, node)) ∨
      Reach (operation.perform w) more loc

end Operation

/-! ## Growth -/

theorem Node.GrownTo.trans {node later last : Node} (first : node.GrownTo later)
    (second : later.GrownTo last) : node.GrownTo last := by
  cases first with
  | same => exact second
  | file front =>
    cases second with
    | same => exact .file front
    | file more => exact .file (front.trans more)

theorem Node.GrownTo.shape_eq {node later : Node} (grown : node.GrownTo later) :
    node.shape = later.shape := by
  cases grown <;> rfl

namespace FileSystem.Grown
variable {fs gs hs : FileSystem}

theorem of_eq (same : gs = fs) : fs.Grown gs := by
  intro loc
  rw [same]
  cases fs.get? loc with
  | none => exact .none
  | some node => exact .some (.same node)

theorem trans (first : fs.Grown gs) (second : gs.Grown hs) : fs.Grown hs := by
  intro loc
  have one := first loc
  have two := second loc
  generalize fs.get? loc = a at one
  generalize gs.get? loc = b at one two
  generalize hs.get? loc = c at two
  cases one with
  | none =>
    cases two
    exact .none
  | some one =>
    cases two with
    | some two => exact .some (one.trans two)

theorem alike (grown : fs.Grown gs) : Alike fs gs := by
  intro loc
  have here := grown loc
  generalize fs.get? loc = a at here ⊢
  generalize gs.get? loc = b at here ⊢
  cases here with
  | none => rfl
  | some grown => exact congrArg some grown.shape_eq

end FileSystem.Grown

namespace World.Appends
variable {path? : Option Bytes} {w v : World}

theorem of_files (same : v.files = w.files) : w.Appends path? v :=
  ⟨.of_eq same, fun _ _ => by rw [same]⟩

/-- It is enough to look at the file that a path leads to and at all other places. -/
theorem of_line {path : Bytes}
    (line : ∀ loc mode content, w.status path = .ok (loc, .file mode content) →
      ∃ more, v.files.get? loc = some (.file mode (content ++ more)))
    (elsewhere : ∀ loc, (∀ mode content, w.status path ≠ .ok (loc, .file mode content)) →
      v.files.get? loc = w.files.get? loc) :
    w.Appends (some path) v := by
  refine ⟨fun loc => ?_, fun loc apart => ?_⟩
  · by_cases grows : ∃ mode content, w.status path = .ok (loc, .file mode content)
    · obtain ⟨mode, content, found⟩ := grows
      obtain ⟨more, grown⟩ := line loc mode content found
      rw [status_found found, grown]
      exact .some (.file (List.prefix_append content more))
    · rw [elsewhere loc fun mode content found => grows ⟨mode, content, found⟩]
      exact FileSystem.Grown.of_eq rfl loc
  · exact elsewhere loc fun mode content => apart path rfl _

theorem congr {u : World} (appends : w.Appends path? v) (same : u.files = v.files) :
    w.Appends path? u := by
  refine ⟨appends.grown.trans (.of_eq same), fun loc apart => ?_⟩
  rw [same]
  exact appends.elsewhere loc apart

end World.Appends

/-! ## One operation -/

theorem LogSink.appends_writeLine (w : World) (limit : Option Nat) (path text : Bytes) :
    w.Appends (some path) (writeLine w limit path text).2 :=
  .of_line (fun _ _ _ found => ⟨_, writeLine_get?_self limit text found⟩)
    (fun _ => writeLine_get?_ne limit text)

theorem Reported.appends {r : Reporter} {n : Notice} {v : World} (told : Reported r n v) :
    n.world.Appends (some r.log) v :=
  .of_line (fun loc mode content found => ⟨_, told.line loc mode content found⟩) told.elsewhere

namespace Call.Unfolds
variable {r : Reporter} {w v : World} {c : Call} {notices : List Notice}

theorem appends (unfolds : c.Unfolds r w notices v) (leaves : c.action.Leaves (·.files)) :
    (c.reporting w).world.Appends (some r.log) v := by
  cases unfolds with
  | @exec α β p original arguments begun told =>
    exact told.appends.congr (leaves (p.host begun))
  | parent forked positive told =>
    rw [reporting]
    dsimp only
    rw [forked]
    exact told.appends
  | silent forked spent =>
    rw [reporting]
    dsimp only
    rw [forked]
    exact .of_files rfl

theorem directory (unfolds : c.Unfolds r w notices v)
    (leaves : c.action.Leaves (·.directory)) : v.directory = w.directory := by
  cases unfolds with
  | @exec α β p original arguments begun told =>
    exact (leaves (p.host begun)).trans told.directory
  | parent forked positive told => exact told.directory.trans (leaves.fork forked)
  | silent forked spent => exact leaves.fork forked

end Call.Unfolds

namespace Operation

theorem seen_leaves {α : Type} {part : World → α} {operation : Operation}
    (leaves : operation.Leaves part) (w : World) : part (operation.seen w) = part w := by
  cases operation with
  | call r c =>
    obtain ⟨p, action⟩ := c
    cases action with
    | fork original => exact leaves (p.host w)
    | exec original arguments => rfl
  | _ => rfl

theorem perform_appends {operation : Operation} (leaves : operation.Leaves (·.files))
    (w : World) : (operation.seen w).Appends operation.log? (operation.perform w) := by
  cases operation with
  | writeLine limit path text => exact LogSink.appends_writeLine w limit path text
  | send descriptorsUsedUp replies path payload =>
    exact .of_files (SocketSink.send_files w descriptorsUsedUp replies path payload)
  | deliver r relation process => exact (r.deliver_reported relation (process.host w)).appends
  | report r infant? process => exact (r.deliver_reported _ (process.host w)).appends
  | call r c =>
    obtain ⟨notices, unfolds⟩ := c.unfolds_after r w
    exact unfolds.appends leaves

theorem perform_directory {operation : Operation} (leaves : operation.Leaves (·.directory))
    (w : World) : (operation.perform w).directory = w.directory := by
  cases operation with
  | writeLine limit path text => exact (LogSink.sameScene_writeLine w limit path text).directory
  | send descriptorsUsedUp replies path payload =>
    exact (SocketSink.sameScene_send w descriptorsUsedUp replies path payload).directory
  | deliver r relation process => exact (r.deliver_reported relation (process.host w)).directory
  | report r infant? process => exact (r.deliver_reported _ (process.host w)).directory
  | call r c =>
    obtain ⟨notices, unfolds⟩ := c.unfolds_after r w
    exact unfolds.directory leaves

theorem perform_grown {operation : Operation} (leaves : operation.Leaves (·.files))
    (w : World) : w.files.Grown (operation.perform w).files := by
  have seen : (operation.seen w).files = w.files := seen_leaves leaves w
  exact seen ▸ (perform_appends leaves w).grown

/-! ## All operations -/

theorem performAll_grown {operations : List Operation}
    (leave : ∀ o ∈ operations, o.Leaves (·.files)) (w : World) :
    w.files.Grown (performAll w operations).files := by
  induction operations generalizing w with
  | nil => exact .of_eq rfl
  | cons operation more ih =>
    obtain ⟨leaves, leave⟩ := List.forall_mem_cons.mp leave
    exact (perform_grown leaves w).trans (ih leave _)

theorem performAll_elsewhere {operations : List Operation}
    (leave : ∀ o ∈ operations, o.Leaves (·.files)) {w : World} {loc : Location}
    (apart : ¬ Reach w operations loc) :
    (performAll w operations).files.get? loc = w.files.get? loc := by
  induction operations generalizing w with
  | nil => rfl
  | cons operation more ih =>
    obtain ⟨leaves, leave⟩ := List.forall_mem_cons.mp leave
    obtain ⟨first, later⟩ := not_or.mp apart
    have seen : (operation.seen w).files = w.files := seen_leaves leaves w
    have kept : (operation.perform w).files.get? loc = (operation.seen w).files.get? loc :=
      (perform_appends leaves w).elsewhere loc fun path log node found =>
        first ⟨path, log, node, found⟩
    rw [performAll, ih leave later, kept, seen]

/-- As long as nobody changes the working directory, a log path leads where it led at the start. -/
theorem status_of_reach {operations : List Operation}
    (leave : ∀ o ∈ operations, o.Leaves (·.files))
    (stay : ∀ o ∈ operations, o.Leaves (·.directory)) {w : World} {loc : Location}
    (reach : Reach w operations loc) :
    ∃ o ∈ operations, ∃ path ∈ o.log?, ∃ node, w.status path = .ok (loc, node) := by
  induction operations generalizing w with
  | nil => cases reach
  | cons operation more ih =>
    obtain ⟨leaves, leave⟩ := List.forall_mem_cons.mp leave
    obtain ⟨stays, stay⟩ := List.forall_mem_cons.mp stay
    -- Where a path leads does not depend on what files hold: what is found later was there before.
    have back {u : World} {path : Bytes} {node : Node} (alike : FileSystem.Alike u.files w.files)
        (directory : w.directory = u.directory) (found : u.status path = .ok (loc, node)) :
        ∃ node, w.status path = .ok (loc, node) := by
      obtain ⟨sound, found⟩ := status_eq_ok.mp found
      obtain ⟨other, found, -⟩ := find_alike alike directory found
      exact ⟨other, status_eq_ok.mpr ⟨sound, found⟩⟩
    rcases reach with ⟨path, log, node, found⟩ | later
    · have files : (operation.seen w).files = w.files := seen_leaves leaves w
      have directory : (operation.seen w).directory = w.directory := seen_leaves stays w
      have there := back (files ▸ fun _ => rfl) directory.symm found
      exact ⟨operation, List.mem_cons_self, path, log, there⟩
    · obtain ⟨o, member, path, log, node, found⟩ := ih leave stay later
      have there := back (perform_grown leaves w).alike.symm (perform_directory stays w).symm found
      exact ⟨o, List.mem_cons_of_mem operation member, path, log, there⟩

/-- Whatever privileged processes report, no entry of the file system comes, goes or changes but
for files that grow at their end; and those that no log path leads to when it is used do not grow
either. If the functions behind the calls keep the working directory, the log paths can be
followed beforehand. -/
theorem reporting_only_appends (w : World) (operations : List Operation)
    (leave : ∀ o ∈ operations, o.Leaves (·.files)) :
    w.files.Grown (performAll w operations).files ∧
    (∀ loc, ¬ Reach w operations loc →
      (performAll w operations).files.get? loc = w.files.get? loc) ∧
    ((∀ o ∈ operations, o.Leaves (·.directory)) →
      ∀ loc,
        (∀ o ∈ operations, ∀ path ∈ o.log?, ∀ node, w.status path ≠ .ok (loc, node)) →
        (performAll w operations).files.get? loc = w.files.get? loc) := by
  refine ⟨performAll_grown leave w, fun loc => performAll_elsewhere leave, ?_⟩
  intro stay loc apart
  apply performAll_elsewhere leave
  intro reach
  obtain ⟨o, member, path, log, node, found⟩ := status_of_reach leave stay reach
  exact apart o member path log node found

/-- A bare world with a log and a link to it in the working directory. -/
def linked : World :=
  { World.bare with
    files := (World.bare.files.set (World.place "/tmp/work/log")
      (.file 0o600 (Bytes.ofString "1:2\n"))).set (World.place "/tmp/work/link")
        (.symlink (Bytes.ofString "log")) }

/-- The log is written by both its names, cut short, taken for a socket, and looked for where it
is not. One payload breaks off. -/
def aliased : List Operation :=
  let log := Bytes.ofString "log"
  let link := Bytes.ofString "link"
  let process : Process := ⟨100, 200, Errno.ofValue 0, Limits.unlimited⟩
  [.writeLine (some 6) link (Bytes.ofString "10:20"),
    .send false [.ok 1, .error .brokenPipe] log (Bytes.ofString "10:20"),
    .deliver ⟨log, link⟩ (.exec 3 4) process,
    .report ⟨Bytes.ofString "none", log⟩ none process,
    .call ⟨link, log⟩ ⟨process, .fork fun h => (7, { h with errno := h.errno.set 11 })⟩]

theorem reporting_only_appends_aliased :
    (∀ o ∈ aliased, o.Leaves (·.files)) ∧
    linked.files.Grown (performAll linked aliased).files ∧
    (performAll linked aliased).files.get? (World.place "/usr/bin/true") =
      linked.files.get? (World.place "/usr/bin/true") ∧
    (performAll linked aliased).files.get? (World.place "/tmp/work/log") =
      some (.file 0o600 (Bytes.ofString "1:2\n103:4\n100:200:7\n")) := by
  have leave {α : Type} (part : World → α) : ∀ o ∈ aliased, o.Leaves part := by
    simp only [aliased, List.forall_mem_cons, List.not_mem_nil, false_implies, implies_true,
      and_true]
    exact ⟨trivial, trivial, trivial, trivial, fun _ => rfl⟩
  obtain ⟨grown, -, elsewhere⟩ := reporting_only_appends linked aliased (leave _)
  refine ⟨leave _, grown, elsewhere (leave _) _ ?_, by decide +kernel⟩
  have log (node : Node) :
      linked.status (Bytes.ofString "log") ≠ .ok (World.place "/usr/bin/true", node) := nofun
  have link (node : Node) :
      linked.status (Bytes.ofString "link") ≠ .ok (World.place "/usr/bin/true", node) := nofun
  have none (node : Node) :
      linked.status (Bytes.ofString "none") ≠ .ok (World.place "/usr/bin/true", node) := nofun
  simp only [aliased, List.forall_mem_cons, List.not_mem_nil, false_implies, implies_true,
    and_true, log?, Option.mem_def, Option.some.injEq, forall_eq', reduceCtorEq, true_and]
  exact ⟨link, log, none, link⟩

end Operation
end Ancestry
