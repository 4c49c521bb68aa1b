import Ancestry.Proofs.ChannelAgreement
import Ancestry.Proofs.Installing
import Ancestry.Proofs.LinePieces
import Ancestry.Supervisor.LogFile
import Ancestry.System.Scene

/-!
# Switching the log on

Processes report to a log only if it is there, so making it switches them on. A log that is there
already is only opened to everybody: it keeps what it holds, and links keep leading to it. What is
no file stays what it is, a device or a pipe, and then no line is kept. What cannot be opened to be
written is refused at once; only if the permission bits cannot be changed, a log that was made for
that stays.

A path that is followed never ends at a link, as long as everything stands in a directory. So what
is opened there to be written, and is no file, is a special file.
-/
namespace Ancestry
open World FileSystem

/-! ## Where followed paths end -/

namespace FileSystem

/-- Whatever there is stands in a directory. -/
def Closed (fs : FileSystem) : Prop :=
  ∀ loc name node, fs.get? (loc ++ [name]) = some node →
    ∃ mode, fs.get? loc = some (.directory mode)

end FileSystem

/-- A stretch that does not end at a link, and does not go on from one. -/
def Stretch.AvoidsLinks (fs : FileSystem) : Stretch → Prop
  | .ended (.ok (.found loc _)) => ¬ fs.IsLink loc
  | .link start _ => ¬ fs.IsLink start
  | _ => True

namespace FileSystem
variable {fs : FileSystem} {last : LastLink}

theorem not_isLink_root (fs : FileSystem) : ¬ fs.IsLink [] := nofun

theorem not_isLink_of_directory {loc : Location} {mode : Nat}
    (there : fs.get? loc = some (.directory mode)) : ¬ fs.IsLink loc := by
  rintro ⟨target, link⟩
  cases there.symm.trans link

/-- A table of entries can be looked through for that. -/
theorem closed_of_all
    (all : fs.entries.all (fun e => (fs.get? e.1.dropLast).any Node.isDirectory) = true) :
    fs.Closed := by
  intro loc name node there
  have below : loc ++ [name] ≠ [] := List.concat_ne_nil _ _
  rw [get?, if_neg below, Option.map_eq_some_iff] at there
  obtain ⟨e, found, -⟩ := there
  have around := List.all_eq_true.mp all e (List.mem_of_find?_eq_some found)
  have place := List.find?_some found
  simp only [decide_eq_true_eq] at place
  rw [place, List.dropLast_concat, Option.any_eq_true] at around
  obtain ⟨directory, there, isDirectory⟩ := around
  cases directory with
  | directory mode => exact ⟨mode, there⟩
  | _ => cases isDirectory

theorem Closed.not_isLink_dropLast (closed : fs.Closed) {loc : Location} {node : Node}
    (there : fs.get? loc = some node) : ¬ fs.IsLink loc.dropLast := by
  rcases List.eq_nil_or_concat loc with rfl | ⟨around, name, rfl⟩
  · exact fs.not_isLink_root
  · rw [List.concat_eq_append] at there ⊢
    obtain ⟨mode, directory⟩ := closed around name node there
    rw [List.dropLast_concat]
    exact not_isLink_of_directory directory

theorem stretch_avoidsLinks (closed : fs.Closed) (follows : last ≠ .keep) {here : Location}
    (start : ¬ fs.IsLink here) (names : List Name) :
    (fs.stretch last here names).AvoidsLinks fs := by
  induction names generalizing here with
  | nil =>
    rw [stretch]
    split
    · exact start
    · trivial
  | cons name rest ih =>
    rw [stretch]
    split
    · rename_i mode around
      split
      · exact ih start
      split
      · exact ih (closed.not_isLink_dropLast around)
      split
      · trivial
      split
      · split <;> trivial
      · split
        · rename_i keeps
          simp only [Bool.and_eq_true, decide_eq_true_eq] at keeps
          exact absurd keeps.2 follows
        · rw [Stretch.AvoidsLinks]
          split
          · exact fs.not_isLink_root
          · exact start
      · rename_i node noLink there
        refine ih ?_
        rintro ⟨target, link⟩
        exact noLink target (Option.some.inj (there.symm.trans link))
    · trivial

theorem walk_avoidsLinks (closed : fs.Closed) (follows : last ≠ .keep) {links : Nat}
    {here : Location} (start : ¬ fs.IsLink here) {names : List Name} {loc : Location} {node : Node}
    (found : fs.walk last links here names = .ok (.found loc node)) : ¬ fs.IsLink loc := by
  fun_induction walk fs last links here names with
  | case1 links here names result went =>
    have avoids := stretch_avoidsLinks closed follows start names
    rw [went, found] at avoids
    exact avoids
  | case2 => cases found
  | case3 here names next onward links went ih =>
    have avoids := stretch_avoidsLinks closed follows start names
    rw [went] at avoids
    exact ih avoids found

end FileSystem

namespace World

/-- A world in which everything stands in a directory. The working directory may be gone, but it is
no link. -/
structure Orderly (w : World) : Prop where
  closed : w.files.Closed
  directory : ¬ w.files.IsLink w.directory

example : World.bare.Orderly := ⟨closed_of_all (by decide +kernel), by decide +kernel⟩

/-- A path that can be opened to be written leads to a file or a special file. -/
theorem Orderly.special {w : World} (orderly : w.Orderly) {path : Bytes} {loc : Location}
    {node : Node} (willing : refusesWriting node = none) (found : w.status path = .ok (loc, node))
    (noFile : node.isFile = false) : ∃ mode kind, node = .special mode kind := by
  cases node with
  | special mode kind => exact ⟨mode, kind, rfl⟩
  | symlink target =>
    obtain ⟨-, located⟩ := locate_of_find rfl (status_eq_ok.mp found).2
    have there := locate_found located
    unfold locate at located
    split at located
    · cases located
    split at located
    · cases located
    have noLink : ¬ w.files.IsLink loc := by
      have follows : LastLink.follow ≠ .keep := nofun
      refine walk_avoidsLinks orderly.closed follows ?_ located
      split
      · exact w.files.not_isLink_root
      · exact orderly.directory
    exact absurd ⟨target, there⟩ noLink
  | file => cases noFile
  | directory => cases willing
  | socket => cases willing

/-- A file can be made at a path at which nothing is. -/
def IsFree (w : World) (path : Bytes) (loc : Location) : Prop :=
  ∃ directory name, hasNul path = false ∧ loc = directory ++ [name] ∧
    w.files.locate w.directory .create path = .ok (.free directory name) ∧
    w.refusal? [.write, .entry, .file] loc = none

/-! ## An entry that is put back -/

/-- What is put back where it was changes nothing. -/
theorem get?_set_of_there {fs : FileSystem} {loc : Location} {node : Node} (below : loc ≠ [])
    (there : fs.get? loc = some node) (other : Location) :
    (fs.set loc node).get? other = fs.get? other := by
  by_cases same : other = loc
  · rw [same, there, get?_set_self fs below]
  · exact get?_set_ne fs same node

theorem keeps_set {fs : FileSystem} {loc : Location} {old node : Node} (below : loc ≠ [])
    (there : fs.get? loc = some old) (same : node.waymark = old.waymark) :
    Keeps fs (fs.set loc node) := by
  intro other before found
  by_cases here : other = loc
  · subst here
    obtain rfl := Option.some.inj (there.symm.trans found)
    exact ⟨node, get?_set_self fs below node, same⟩
  · exact ⟨before, (get?_set_ne fs here node).trans found, rfl⟩

variable {w : World} {path : Bytes} {loc : Location} {node : Node}

theorem ne_root_of_status (leaf : node.isDirectory = false)
    (found : w.status path = .ok (loc, node)) : loc ≠ [] := by
  rintro rfl
  cases status_found found
  cases leaf

/-- What has got another mode is still what its path leads to. -/
theorem status_withMode (leaf : node.isDirectory = false)
    (found : w.status path = .ok (loc, node)) (mode : Nat) :
    ({ w with files := w.files.set loc (node.withMode mode) } : World).status path =
      .ok (loc, node.withMode mode) := by
  have there := status_found found
  have below := ne_root_of_status leaf found
  obtain ⟨sound, found⟩ := status_eq_ok.mp found
  have same : (node.withMode mode).waymark = node.waymark := by
    cases node <;> rfl
  by_cases link : ∃ target, node = .symlink target
  · obtain ⟨target, rfl⟩ := link
    -- A link has no mode, so it is put back as it was.
    let v : World := { w with files := w.files.set loc (.symlink target) }
    have alike : Alike w.files v.files := fun other =>
      congrArg _ (get?_set_of_there below there other).symm
    obtain ⟨other, still, shape⟩ := find_alike (v := v) alike rfl found
    rw [Node.shape_eq_symlink.mp shape] at still
    exact status_eq_ok.mpr ⟨sound, still⟩
  · obtain ⟨noSlash, located⟩ := locate_of_find leaf found
    have kept : Keeps w.files (w.files.set loc (node.withMode mode)) := keeps_set below there same
    have now := get?_set_self w.files below (node.withMode mode)
    have noLink : ∀ target, node.withMode mode ≠ .symlink target := by
      intro target is
      rw [is] at same
      exact link ⟨target, Node.waymark_eq_link.mp same.symm⟩
    exact status_eq_ok.mpr
      ⟨sound, find_of_locate noSlash (locate_kept_found kept located now (.inr noLink))⟩

end World

/-! ## What is switched on -/

namespace LogFile

/-- The world after what a path leads to was opened to everybody. -/
def unlocked (w : World) (loc : Location) (node : Node) : World :=
  { w with files := w.files.set loc (node.withMode openToAll) }

/-- What it takes to switch a log on: it can be opened or made, and then be opened to everybody. -/
structure Switchable (w : World) (path : Bytes) (loc : Location) : Prop where
  opens : w.LeadsTo path loc ∨ w.IsFree path loc
  unlocks : w.refusal? [.mode] loc = none

/-- What a path leads to after it was switched on. A file is there, with what it held before, or
empty if nothing was there. What is no file has only been opened to everybody. -/
inductive Kept (w : World) (path : Bytes) (loc : Location) : Node → Prop
  | created : w.status path = .error (.system .notFound) → w.files.get? loc = none →
      Kept w path loc (.file openToAll [])
  | file {mode : Nat} {content : Bytes} : w.status path = .ok (loc, .file mode content) →
      Kept w path loc (.file openToAll content)
  | special {node : Node} : w.status path = .ok (loc, node) → node.isFile = false →
      (w.Orderly → ∃ mode kind, node = .special mode kind) →
      Kept w path loc (node.withMode openToAll)

/-- A report, and the socket that is used for it. -/
structure Filing where
  socket : Bytes
  report : Report

def Filing.reporter (path : Bytes) (f : Filing) : Reporter := ⟨path, f.socket⟩

/-- The world after some reports to one log. -/
def filed (path : Bytes) (w : World) : List Filing → World
  | [] => w
  | f :: more =>
    filed path ((f.reporter path).deliver f.report.relation (f.report.process.host w)).world more

/-- The bytes that the line of a report takes. -/
def Filing.size (f : Filing) : Nat := f.report.relation.encode.length + 1

/-- The process of a report can open a file, and one of some size may grow by the whole line. -/
structure Filing.Fits (f : Filing) (size : Nat) : Prop where
  opens : f.report.process.limits.descriptorsUsedUp = false
  whole : ∀ most, f.report.process.limits.fileSize = some most → size + f.size ≤ most

/-- No line of some reports is cut short, if a log has some size before the first. -/
def AllFit (size : Nat) : List Filing → Prop
  | [] => True
  | f :: more => f.Fits size ∧ AllFit (size + f.size) more

/-- The lines of some reports. -/
def linesOf (filings : List Filing) : Bytes :=
  Utf8.encode ((filings.map (·.report.relation)).flatMap Replay.lineOf)

/-- A world in which a log was switched on, as against the one before. -/
structure SwitchedOn (w : World) (path : Bytes) (v : World) (loc : Location) (node : Node) :
    Prop where
  leads : v.status path = .ok (loc, node)
  kept : Kept w path loc node
  others : ∀ other ≠ loc, v.files.get? other = w.files.get? other
  rest : v = { w with files := v.files }
  again : ∃ u, enable v path = (.ok (), u) ∧ u = { v with files := u.files } ∧
    ∀ other, u.files.get? other = v.files.get? other
  grows : ∀ mode content filings, node = .file mode content → AllFit content.length filings →
    (filed path v filings).Holds path (content ++ linesOf filings)

variable {w : World} {path : Bytes} {loc : Location} {node : Node}

/-! ## Reports to one log -/

/-- A line that fits is written whole. -/
theorem logsWhole_of_fits {f : Filing} {mode : Nat} {content : Bytes} (leads : w.LeadsTo path loc)
    (there : w.files.get? loc = some (.file mode content)) (fits : f.Fits content.length) :
    (f.reporter path).LogsWhole f.report.relation (f.report.process.host w) := by
  let limits := f.report.process.limits
  let a : Writing := ⟨path, f.report.relation.encode, limits.fileSize⟩
  have length : a.line.length = a.text.length + 1 := by
    rw [Writing.line, List.length_append, List.length_singleton]
  have whole : a.piece content.length = a.line := by
    rw [Writing.piece, World.front]
    apply List.take_of_length_le
    cases limit : limits.fileSize with
    | none =>
      rw [show a.limit = none from limit]
      exact Nat.le_refl _
    | some most =>
      have room := fits.whole most limit
      rw [show a.limit = some most from limit, length]
      exact Nat.le_sub_of_add_le (Nat.add_comm _ _ ▸ room)
  have granted : limits.refusal? path = none := by
    rw [Limits.refusal?, show limits.descriptorsUsedUp = false from fits.opens]
    rfl
  have written : limits.writeLine w path a.text = LogSink.writeLine w a.limit path a.text := by
    rw [Limits.writeLine, granted]
  have done := LogSink.writeLine_file (a := a) leads there
  have something : a.line ≠ [] := List.concat_ne_nil _ _
  rw [whole, if_neg something, if_pos length] at done
  exact (congrArg Prod.fst written).trans done

theorem sameScene_deliver (r : Reporter) (relation : Relation) (h : Host) :
    SameScene h.world (r.deliver relation h).world := by
  have logged : SameScene h.world (if h.world.pathExists r.log then
      (h.limits.writeLine h.world r.log relation.encode).2 else h.world) := by
    split
    · exact h.limits.sameScene_writeLine _ _ _
    · exact .refl _
  rw [Reporter.deliver_world]
  dsimp only
  split
  · exact logged.trans (SocketSink.sameScene_send _ _ _ _ _)
  · exact logged

theorem filed_holds {filings : List Filing} {mode : Nat} {content : Bytes}
    (leads : w.LeadsTo path loc) (there : w.files.get? loc = some (.file mode content))
    (fit : AllFit content.length filings) :
    (filed path w filings).Holds path (content ++ linesOf filings) := by
  induction filings generalizing w mode content with
  | nil =>
    rw [linesOf, List.map_nil, List.flatMap_nil, Utf8.encode_nil, List.append_nil]
    exact ⟨loc, mode, leads.status_eq there⟩
  | cons f more ih =>
    obtain ⟨first, later⟩ := fit
    have still := (sameScene_deliver (f.reporter path) f.report.relation
      (f.report.process.host w)).leadsTo leads
    obtain ⟨place, mode', grown⟩ := Reporter.deliver_holds (r := f.reporter path)
      (h := f.report.process.host w) ⟨loc, mode, leads.status_eq there⟩
      (logsWhole_of_fits leads there first)
    -- The path still leads to the same place, so that is where the line has gone.
    obtain ⟨node, found, -⟩ := openAppend_eq_ok.mp still
    have same : place = loc := by
      have entry := Except.ok.inj (grown.symm.trans found)
      exact congrArg Prod.fst entry
    subst same
    have size : (content ++ Utf8.encode (Replay.lineOf f.report.relation)).length =
        content.length + f.size := by
      rw [Reporter.encode_lineOf, List.length_append, List.length_append, List.length_singleton]
      rfl
    have rest := ih still (status_found grown) (size ▸ later)
    rw [List.append_assoc, linesOf, ← Utf8.encode_append] at rest
    exact rest

/-! ## Switching on -/

theorem enable_of_status {u : World} {place : Location}
    (opens : w.openOrCreate path = .ok (place, u)) (found : u.status path = .ok (loc, node)) :
    (u.refusal? [.mode] loc = none ∧ enable w path = (.ok (), unlocked u loc node)) ∨
      (u.refusal? [.mode] loc ≠ none ∧ ∃ f, enable w path = (.error f, u)) := by
  cases allowed : u.refusal? [.mode] loc with
  | none =>
    simp only [enable, opens, Failure.during, setMode_of_status found allowed]
    exact .inl ⟨trivial, rfl⟩
  | some e =>
    simp only [enable, opens, Failure.during, setMode_refused found allowed]
    exact .inr ⟨Option.some_ne_none e, _, rfl⟩

theorem enable_there (willing : w.unwritable? loc node = none)
    (found : w.status path = .ok (loc, node)) :
    (w.refusal? [.mode] loc = none ∧ enable w path = (.ok (), unlocked w loc node)) ∨
      (w.refusal? [.mode] loc ≠ none ∧ ∃ f, enable w path = (.error f, w)) :=
  enable_of_status (openOrCreate_found willing found) found

/-- The world with an empty file that was just made. -/
def created (w : World) (loc : Location) : World :=
  { w with files := w.files.set loc (.file (umasked 0o666) []) }

/-- Where nothing is, a file is made first. -/
theorem enable_free (free : w.IsFree path loc) :
    loc ≠ [] ∧ w.status path = .error (.system .notFound) ∧ w.files.get? loc = none ∧
      (created w loc).status path = .ok (loc, .file (umasked 0o666) []) ∧
      ((w.refusal? [.mode] loc = none ∧
        enable w path = (.ok (), unlocked (created w loc) loc (.file (umasked 0o666) []))) ∨
      (w.refusal? [.mode] loc ≠ none ∧ ∃ f, enable w path = (.error f, created w loc))) := by
  obtain ⟨directory, name, sound, rfl, free, made⟩ := free
  obtain ⟨noSlash, followed⟩ := FileSystem.locate_create_free free
  have below : directory ++ [name] ≠ [] := List.concat_ne_nil _ _
  have apart : SameApart [directory ++ [name]] w (created w (directory ++ [name])) :=
    sameApart_set rfl rfl rfl
  have found := status_made sound noSlash followed apart (get?_set_self _ below _) rfl
  have opens : w.openOrCreate path =
      .ok (directory ++ [name], created w (directory ++ [name])) := by
    simp only [openOrCreate, sound, free, made, Bool.false_eq_true, if_false]
    rfl
  refine ⟨below, status_missing sound free, locate_free free, found, ?_⟩
  rw [← apart.refusal?_eq]
  exact enable_of_status opens found

theorem willing_withMode (willing : w.unwritable? loc node = none) (mode : Nat) :
    w.unwritable? loc (node.withMode mode) = none := by
  obtain ⟨willing, free⟩ := unwritable?_eq_none.mp willing
  refine unwritable?_eq_none.mpr ⟨?_, free⟩
  cases node <;> first | rfl | cases willing

/-- Opening to everybody what was opened already changes nothing. -/
theorem unlocked_again (willing : w.unwritable? loc node = none)
    (allowed : w.refusal? [.mode] loc = none) (found : w.status path = .ok (loc, node)) :
    ∃ u, enable (unlocked w loc node) path = (.ok (), u) ∧
      u = { unlocked w loc node with files := u.files } ∧
      ∀ other, u.files.get? other = (unlocked w loc node).files.get? other := by
  have leaf := leaf_of_willing (unwritable?_eq_none.mp willing).1
  have now := status_withMode leaf found openToAll
  have same : (node.withMode openToAll).withMode openToAll = node.withMode openToAll := by
    cases node <;> rfl
  have again := enable_there (w := unlocked w loc node) (willing_withMode willing openToAll) now
  obtain ⟨-, enabled⟩ := again.resolve_right fun refused => refused.1 allowed
  refine ⟨_, enabled, rfl, ?_⟩
  rw [unlocked, same]
  exact get?_set_of_there (ne_root_of_status leaf found) (status_found now)

/-- What was opened to everybody is switched on, if it was made for that or there before. -/
theorem switchedOn_unlocked {u : World} (willing : u.unwritable? loc node = none)
    (allowed : u.refusal? [.mode] loc = none)
    (found : u.status path = .ok (loc, node)) (created : SameApart [loc] w u)
    (rest : u = { w with files := u.files })
    (kept : Kept w path loc (node.withMode openToAll)) :
    SwitchedOn w path (unlocked u loc node) loc (node.withMode openToAll) := by
  have leaf := leaf_of_willing (unwritable?_eq_none.mp willing).1
  have now := status_withMode leaf found openToAll
  refine ⟨now, kept, fun other apart => ?_, ?_, unlocked_again willing allowed found, ?_⟩
  · refine (get?_set_ne u.files apart _).trans (created.entries other ?_)
    rwa [List.mem_singleton]
  · rw [unlocked, rest]
  · rintro mode content filings is fit
    have leads : (unlocked u loc node).LeadsTo path loc :=
      openAppend_eq_ok.mpr ⟨_, now, willing_withMode willing openToAll⟩
    have there : (unlocked u loc node).files.get? loc = some (node.withMode openToAll) :=
      status_found now
    exact filed_holds leads (there.trans (congrArg some is)) fit

/-- A path of which nothing can be opened or made is refused before anything is done. -/
theorem enable_impossible (impossible : ∀ loc, ¬ w.LeadsTo path loc ∧ ¬ w.IsFree path loc) :
    ∃ f, enable w path = (.error f, w) := by
  rcases openOrCreate_cases w path with ⟨e, refused⟩ | ⟨loc, node, willing, found, -⟩ |
    ⟨directory, name, sound, free, made, -⟩
  · simp only [enable, refused, Failure.during]
    exact ⟨_, rfl⟩
  · exact absurd (openAppend_eq_ok.mpr ⟨node, found, willing⟩) (impossible loc).1
  · exact absurd ⟨directory, name, sound, rfl, free, made⟩ (impossible _).2

/-- What there is to open is switched on, or it stays as it was if it cannot be unlocked. -/
theorem enable_of_leadsTo (leads : w.LeadsTo path loc) :
    (w.refusal? [.mode] loc = none ∧
      ∃ v node, enable w path = (.ok (), v) ∧ SwitchedOn w path v loc node) ∨
      (w.refusal? [.mode] loc ≠ none ∧ ∃ f, enable w path = (.error f, w)) := by
  obtain ⟨node, found, willing⟩ := openAppend_eq_ok.mp leads
  have kept : Kept w path loc (node.withMode openToAll) := by
    obtain ⟨willing, -⟩ := unwritable?_eq_none.mp willing
    cases node with
    | file mode content => exact .file found
    | directory => cases willing
    | socket => cases willing
    | symlink target => exact .special found rfl fun orderly => orderly.special willing found rfl
    | special mode kind => exact .special found rfl fun _ => ⟨mode, kind, rfl⟩
  rcases enable_there willing found with ⟨allowed, enabled⟩ | refused
  · exact .inl ⟨allowed, _, _, enabled,
      switchedOn_unlocked willing allowed found (.refl _ _) rfl kept⟩
  · exact .inr refused

/-- What can be made is switched on, or it stays as it was made if it cannot be unlocked. -/
theorem enable_of_isFree (free : w.IsFree path loc) :
    (w.refusal? [.mode] loc = none ∧
      ∃ v node, enable w path = (.ok (), v) ∧ SwitchedOn w path v loc node) ∨
      (w.refusal? [.mode] loc ≠ none ∧ ∃ f, enable w path = (.error f, created w loc)) := by
  obtain ⟨-, missing, vacant, found, outcome⟩ := enable_free free
  obtain ⟨-, -, -, -, -, made⟩ := free
  have willing : (created w loc).unwritable? loc (.file (umasked 0o666) []) = none :=
    unwritable?_eq_none.mpr ⟨rfl, refusal?_mono made (by simp)⟩
  rcases outcome with ⟨allowed, enabled⟩ | refused
  · exact .inl ⟨allowed, _, _, enabled, switchedOn_unlocked willing allowed found
      (sameApart_set rfl rfl rfl) rfl (.created missing vacant)⟩
  · exact .inr refused

/-- A path leads nowhere if a file can be made there. -/
theorem not_leadsTo_of_isFree {other : Location} (free : w.IsFree path other) :
    ¬ w.LeadsTo path loc := by
  intro leads
  obtain ⟨node, found, -⟩ := openAppend_eq_ok.mp leads
  obtain ⟨-, missing, -⟩ := enable_free free
  cases missing.symm.trans found

theorem leadsTo_isFree_unique {other : Location} (one : w.LeadsTo path loc ∨ w.IsFree path loc)
    (two : w.LeadsTo path other ∨ w.IsFree path other) : loc = other := by
  rcases one with leads | free <;> rcases two with leads' | free'
  · exact Except.ok.inj (leads.symm.trans leads')
  · exact absurd leads (not_leadsTo_of_isFree free')
  · exact absurd leads' (not_leadsTo_of_isFree free)
  · obtain ⟨directory, name, -, rfl, one, -⟩ := free
    obtain ⟨directory', name', -, rfl, two, -⟩ := free'
    cases one.symm.trans two
    rfl

/-- What can be opened or made is switched on if it can be unlocked. If it cannot, what was made
is there, and nothing else has happened. -/
theorem enable_of_opens (opens : w.LeadsTo path loc ∨ w.IsFree path loc) :
    (w.refusal? [.mode] loc = none ∧
      ∃ v node, enable w path = (.ok (), v) ∧ SwitchedOn w path v loc node) ∨
      (w.refusal? [.mode] loc ≠ none ∧ ∃ f u, enable w path = (.error f, u) ∧
        (w.LeadsTo path loc → u = w) ∧ (w.IsFree path loc → u = created w loc)) := by
  rcases opens with leads | free
  · rcases enable_of_leadsTo leads with enabled | ⟨refused, f, failed⟩
    · exact .inl enabled
    · exact .inr ⟨refused, f, w, failed, fun _ => rfl, fun free =>
        absurd leads (not_leadsTo_of_isFree free)⟩
  · rcases enable_of_isFree free with enabled | ⟨refused, f, failed⟩
    · exact .inl enabled
    · exact .inr ⟨refused, f, _, failed, fun leads =>
        absurd leads (not_leadsTo_of_isFree free), fun _ => rfl⟩

/-- The log is switched on exactly if its path leads to what can be opened to be written, or a file
can be made there, and its permission bits can be changed. Then a file is there that everybody may
write, with what it held before, nothing else has changed, a second time changes nothing, and every
report that is not cut short adds its line. Only what is no file has stayed what it was, which is a
special file. If the log is not switched on, nothing has happened, except that a file that could be
made and not be opened to everybody is there, and is empty. -/
theorem enable_switches_on (w : World) (path : Bytes) :
    ((enable w path).1 = .ok () ↔ ∃ loc, Switchable w path loc) ∧
    ((enable w path).1 ≠ .ok () →
      (∀ loc, w.IsFree path loc → w.refusal? [.mode] loc = none) → (enable w path).2 = w) ∧
    (∀ loc, w.IsFree path loc → w.refusal? [.mode] loc ≠ none →
      (enable w path).1 ≠ .ok () ∧
        (enable w path).2 = { w with files := w.files.set loc (.file 0o644 []) }) ∧
    ((enable w path).1 = .ok () →
      ∃ loc node, SwitchedOn w path (enable w path).2 loc node) := by
  by_cases possible : ∃ loc, w.LeadsTo path loc ∨ w.IsFree path loc
  · obtain ⟨loc, opens⟩ := possible
    have only : ∀ other, w.LeadsTo path other ∨ w.IsFree path other → other = loc :=
      fun other also => leadsTo_isFree_unique also opens
    rcases enable_of_opens opens with ⟨allowed, v, node, enabled, on⟩ |
      ⟨refused, f, u, enabled, there, made⟩
    · rw [enabled]
      refine ⟨⟨fun _ => ⟨loc, opens, allowed⟩, fun _ => rfl⟩, absurd rfl, ?_,
        fun _ => ⟨loc, node, on⟩⟩
      rintro other free refused
      obtain rfl := only other (.inr free)
      exact absurd allowed refused
    · rw [enabled]
      refine ⟨⟨nofun, ?_⟩, fun _ granted => ?_, ?_, nofun⟩
      · rintro ⟨other, switchable⟩
        obtain rfl := only other switchable.opens
        exact absurd switchable.unlocks refused
      · exact opens.elim there fun free => absurd (granted loc free) refused
      · rintro other free -
        obtain rfl := only other (.inr free)
        exact ⟨nofun, made free⟩
  · have impossible : ∀ loc, ¬ w.LeadsTo path loc ∧ ¬ w.IsFree path loc :=
      fun loc => not_or.mp (not_exists.mp possible loc)
    obtain ⟨f, failed⟩ := enable_impossible impossible
    rw [failed]
    exact ⟨⟨nofun, fun ⟨loc, switchable⟩ => absurd ⟨loc, switchable.opens⟩ possible⟩,
      fun _ _ => rfl, fun loc free => absurd free (impossible loc).2, nofun⟩

/-- A report of a process that nothing keeps from writing. -/
def plainly : Filing := ⟨Bytes.ofString "none", Channels.reportUnder .unlimited⟩

/-- A null device is switched on as well, but it is no file, and the line of a report that fits is
not kept. -/
theorem null_device_keeps_no_line :
    let path := Bytes.ofString "/dev/null"
    let v := (enable World.bare path).2
    (enable World.bare path).1 = .ok () ∧
    v.isFile path = false ∧
    AllFit 0 [plainly] ∧
    (filed path v [plainly]).read path = .ok [] ∧
    linesOf [plainly] = Bytes.ofString "1:2\n" :=
  ⟨rfl, rfl, ⟨⟨rfl, nofun⟩, trivial⟩, rfl, rfl⟩

/-- Where permission bits cannot be changed, a log is made although it is not switched on. -/
example :
    let w := { World.bare with obstacles := [⟨.mode, [], .readOnly⟩] }
    let (result, v) := enable w (Bytes.ofString "log")
    result ≠ .ok () ∧ w.isFile (Bytes.ofString "log") = false ∧
      v.read (Bytes.ofString "log") = .ok [] :=
  ⟨nofun, rfl, rfl⟩

end LogFile
end Ancestry
