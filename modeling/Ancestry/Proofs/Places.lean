import Ancestry.Proofs.PathFrame

/-!
# Where paths lead while entries come and go

A path that can be followed ends at a place, where something is or may be made. On its way it
meets directories and links, and it does not look at anything else. So a path leads to the same
place in every file system that has what this one has, with what a walk sees of it; and what is
at that place decides whether the walk finds something or a free name.

A path can be followed to keep a link at its end, to follow it, or to make a file behind it.
These three differ for a link at the end and for a slash at the end, and in nothing else.
-/
namespace Ancestry

/-- What a walk sees of a node. -/
inductive Waymark
  | directory
  | link (target : Bytes)
  | leaf
  deriving Repr, DecidableEq

namespace Node

def waymark : Node → Waymark
  | directory _ => .directory
  | symlink target => .link target
  | _ => .leaf

theorem waymark_eq_directory {node : Node} :
    node.waymark = .directory ↔ ∃ mode, node = .directory mode := by
  cases node <;> simp [waymark]

theorem waymark_eq_link {node : Node} {target : Bytes} :
    node.waymark = .link target ↔ node = .symlink target := by
  cases node <;> simp [waymark]

end Node

namespace Target

/-- The place where a walk has ended. -/
def location : Target → Location
  | found loc _ => loc
  | free directory name => directory ++ [name]

def IsDirectory : Target → Prop
  | found _ node => node.isDirectory = true
  | free .. => False

end Target

/-- A stretch that goes on does so along the same link, and one that ends at a place ends there as
well if the place is one to stop at. -/
def Stretch.GoesWith (stop : Location → Prop) : Stretch → Stretch → Prop
  | .ended (.ok target), other =>
    stop target.location → ∃ found, other = .ended (.ok found) ∧ found.location = target.location
  | .ended (.error _), _ => True
  | .link start names, other => other = .link start names

/-- A stretch that ends at a directory or goes on to a dot. -/
def Stretch.ToDirectory : Stretch → Prop
  | .ended (.ok target) => target.IsDirectory
  | .ended (.error _) => True
  | .link _ onward => ∃ more, onward = more ++ [Path.dot]

namespace FileSystem

/-- There is a link at a place. -/
def IsLink (fs : FileSystem) (loc : Location) : Prop :=
  ∃ target, fs.get? loc = some (.symlink target)

instance (fs : FileSystem) (loc : Location) : Decidable (fs.IsLink loc) :=
  decidable_of_iff ((match fs.get? loc with | some (.symlink _) => true | _ => false) = true) <| by
    unfold IsLink
    split <;> simp_all

/-- All that a walk sees in one file system is there in another. -/
def Keeps (fs gs : FileSystem) : Prop :=
  ∀ loc node, fs.get? loc = some node →
    ∃ other, gs.get? loc = some other ∧ other.waymark = node.waymark

section Keeps
variable {fs gs : FileSystem}

theorem Keeps.of_get?_eq (h : ∀ loc node, fs.get? loc = some node → gs.get? loc = some node) :
    Keeps fs gs :=
  fun loc node there => ⟨node, h loc node there, rfl⟩

theorem Keeps.refl (fs : FileSystem) : Keeps fs fs := .of_get?_eq fun _ _ there => there

theorem Keeps.get?_directory (kept : Keeps fs gs) {loc : Location} {mode : Nat}
    (there : fs.get? loc = some (.directory mode)) :
    ∃ other, gs.get? loc = some (.directory other) := by
  obtain ⟨node, found, same⟩ := kept loc _ there
  obtain ⟨other, rfl⟩ := Node.waymark_eq_directory.mp same
  exact ⟨other, found⟩

theorem Keeps.get?_symlink (kept : Keeps fs gs) {loc : Location} {target : Bytes}
    (there : fs.get? loc = some (.symlink target)) : gs.get? loc = some (.symlink target) := by
  obtain ⟨node, found, same⟩ := kept loc _ there
  rw [found, Node.waymark_eq_link.mp same]

theorem keeps_remove (fs : FileSystem) (loc : Location) : Keeps (fs.remove loc) fs := by
  apply Keeps.of_get?_eq
  intro other node there
  by_cases same : other = loc
  · subst same
    by_cases root : other = []
    · subst root
      exact there
    · rw [get?_remove_self fs root] at there
      cases there
  · rwa [get?_remove_ne fs same] at there

end Keeps

/-! ## The place a walk ends at -/

/-- A name that is free has nothing at its place. -/
theorem stretch_free {fs : FileSystem} {last : LastLink} {here directory : Location}
    {names : List Name} {name : Name}
    (h : fs.stretch last here names = .ended (.ok (.free directory name))) :
    fs.get? (directory ++ [name]) = none := by
  induction names generalizing here with
  | nil =>
    rw [stretch] at h
    split at h <;> cases h
  | cons first rest ih =>
    rw [stretch] at h
    split at h
    · split at h
      · exact ih h
      split at h
      · exact ih h
      split at h
      · cases h
      split at h
      · rename_i entry
        split at h
        · cases h
          exact entry
        · cases h
      · split at h <;> cases h
      · exact ih h
    · cases h

section Kept
variable {fs gs : FileSystem} {last : LastLink}

/-- A stretch goes where it went, unless a link has come to its end that is to be followed. -/
theorem stretch_kept (kept : Keeps fs gs) (last : LastLink) (here : Location)
    (names : List Name) :
    (fs.stretch last here names).GoesWith (fun loc => last = .keep ∨ ¬ gs.IsLink loc)
      (gs.stretch last here names) := by
  induction names generalizing here with
  | nil =>
    rw [stretch, stretch]
    cases there : fs.get? here with
    | none => trivial
    | some node =>
      obtain ⟨other, found, -⟩ := kept _ _ there
      rw [found]
      exact fun _ => ⟨.found here other, rfl, rfl⟩
  | cons name rest ih =>
    by_cases around : ∃ mode, fs.get? here = some (.directory mode)
    · obtain ⟨mode, around⟩ := around
      obtain ⟨other, found⟩ := kept.get?_directory around
      rw [stretch, stretch, around, found]
      dsimp only
      split
      · exact ih here
      split
      · exact ih here.dropLast
      split
      · trivial
      cases entry : fs.get? (here ++ [name]) with
      | none =>
        by_cases alone : rest = []
        · subst alone
          intro stop
          -- The name was free. In the other file system anything may stand there.
          cases there : gs.get? (here ++ [name]) with
          | none => exact ⟨.free here name, by simp only [if_true], rfl⟩
          | some node =>
            cases node with
            | symlink link =>
              have keep : last = .keep := stop.resolve_right fun none => none ⟨link, there⟩
              exact ⟨.found (here ++ [name]) (.symlink link), by simp [keep], rfl⟩
            | _ => exact ⟨.found (here ++ [name]) _, by simp only [stretch, there]; rfl, rfl⟩
        · simp only [if_neg alone]
          trivial
      | some node =>
        obtain ⟨still, there, same⟩ := kept _ _ entry
        rw [there]
        cases node with
        | symlink link =>
          obtain rfl := Node.waymark_eq_link.mp same
          dsimp only
          split
          · exact fun _ => ⟨.found (here ++ [name]) (.symlink link), rfl, rfl⟩
          · rfl
        | _ =>
          cases still with
          | symlink link => cases Node.waymark_eq_link.mp same.symm
          | _ => exact ih _
    · rw [stretch_of_not_directory fs last fun mode there => around ⟨mode, there⟩]
      trivial

theorem walk_kept (kept : Keeps fs gs) {links : Nat} {here : Location} {names : List Name}
    {target : Target} (h : fs.walk last links here names = .ok target)
    (stop : last = .keep ∨ ¬ gs.IsLink target.location) :
    ∃ other, gs.walk last links here names = .ok other ∧ other.location = target.location := by
  fun_induction walk fs last links here names with
  | case1 links here names result went =>
    have along := stretch_kept kept last here names
    rw [went, h] at along
    obtain ⟨other, goes, same⟩ := along stop
    exact ⟨other, walk_ended goes links, same⟩
  | case2 => cases h
  | case3 here names start onward links went ih =>
    have along := stretch_kept kept last here names
    rw [went] at along
    rw [walk_link along]
    exact ih h

theorem locate_kept (kept : Keeps fs gs) {directory : Location} {path : Bytes} {target : Target}
    (h : fs.locate directory last path = .ok target)
    (stop : last = .keep ∨ ¬ gs.IsLink target.location) :
    ∃ other, gs.locate directory last path = .ok other ∧ other.location = target.location := by
  unfold locate at h ⊢
  split at h
  · cases h
  rename_i nonempty
  rw [if_neg nonempty]
  split at h
  · cases h
  rename_i short
  rw [if_neg short]
  exact walk_kept kept h stop

end Kept

theorem walk_free {fs : FileSystem} {last : LastLink} {links : Nat} {here directory : Location}
    {names : List Name} {name : Name}
    (h : fs.walk last links here names = .ok (.free directory name)) :
    fs.get? (directory ++ [name]) = none := by
  fun_induction walk fs last links here names with
  | case1 links here names result went => exact stretch_free (went.trans (congrArg _ h))
  | case2 => cases h
  | case3 here names start onward links went ih => exact ih h

section Located
variable {fs gs : FileSystem} {last : LastLink} {directory : Location} {path : Bytes}

theorem locate_found {loc : Location} {node : Node}
    (h : fs.locate directory last path = .ok (.found loc node)) : fs.get? loc = some node := by
  unfold locate at h
  split at h
  · cases h
  split at h
  · cases h
  exact walk_found h

theorem locate_free {around : Location} {name : Name}
    (h : fs.locate directory last path = .ok (.free around name)) :
    fs.get? (around ++ [name]) = none := by
  unfold locate at h
  split at h
  · cases h
  split at h
  · cases h
  exact walk_free h

/-- What is at the place in the other file system is what the path leads to there. -/
theorem locate_kept_found (kept : Keeps fs gs) {target : Target} {node : Node}
    (h : fs.locate directory last path = .ok target)
    (there : gs.get? target.location = some node)
    (stop : last = .keep ∨ ∀ link, node ≠ .symlink link) :
    gs.locate directory last path = .ok (.found target.location node) := by
  have ends : last = .keep ∨ ¬ gs.IsLink target.location := by
    refine stop.imp_right fun noLink => ?_
    rintro ⟨link, atLink⟩
    exact noLink link (Option.some.inj (there.symm.trans atLink))
  obtain ⟨other, located, same⟩ := locate_kept kept h ends
  rw [← same] at there ⊢
  cases other with
  | found loc old =>
    rw [located, Option.some.inj ((locate_found located).symm.trans there)]
    rfl
  | free around name => cases (locate_free located).symm.trans there

theorem locate_kept_free (kept : Keeps fs gs) {target : Target}
    (h : fs.locate directory last path = .ok target) (vacant : gs.get? target.location = none) :
    ∃ around name, target.location = around ++ [name] ∧
      gs.locate directory last path = .ok (.free around name) := by
  have noLink : ¬ gs.IsLink target.location := by
    rintro ⟨link, atLink⟩
    cases vacant.symm.trans atLink
  obtain ⟨other, located, same⟩ := locate_kept kept h (.inr noLink)
  rw [← same] at vacant ⊢
  cases other with
  | found loc old => cases (locate_found located).symm.trans vacant
  | free around name => exact ⟨around, name, rfl, located⟩

end Located

/-! ## Links and slashes at the end -/

section Ways
variable {fs : FileSystem} {last : LastLink}

/-- Where no link is at the end there is nothing to follow. -/
theorem stretch_keep (fs : FileSystem) (last : LastLink) (here : Location) (names : List Name) :
    fs.stretch last here names = fs.stretch .keep here names ∨
      ∃ loc link, fs.stretch .keep here names = .ended (.ok (.found loc (.symlink link))) := by
  induction names generalizing here with
  | nil => exact .inl (by rw [stretch, stretch])
  | cons name rest ih =>
    rw [stretch, stretch]
    split
    · split
      · exact ih here
      split
      · exact ih here.dropLast
      split
      · exact .inl rfl
      split
      · exact .inl rfl
      · rename_i link entry
        by_cases alone : rest = []
        · exact .inr ⟨here ++ [name], link, by simp [alone]⟩
        · exact .inl (by simp [alone])
      · exact ih _
    · exact .inl rfl

theorem stretch_of_keep {here : Location} {names : List Name} {result : Stretch}
    (h : fs.stretch .keep here names = result)
    (noLink : ∀ loc link, result ≠ .ended (.ok (.found loc (.symlink link)))) (last : LastLink) :
    fs.stretch last here names = result := by
  rcases stretch_keep fs last here names with same | ⟨loc, link, atLink⟩
  · exact same.trans h
  · exact absurd (h.symm.trans atLink) (noLink loc link)

theorem walk_of_keep {links : Nat} {here : Location} {names : List Name} {target : Target}
    (h : fs.walk .keep links here names = .ok target) (noLink : ¬ fs.IsLink target.location)
    (last : LastLink) : fs.walk last links here names = .ok target := by
  fun_induction walk fs .keep links here names with
  | case1 links here names result went =>
    subst h
    refine walk_ended (stretch_of_keep went (fun loc link same => ?_) last) links
    cases same
    exact noLink ⟨link, stretch_found went⟩
  | case2 => cases h
  | case3 here names start onward links went ih =>
    rw [walk_link (stretch_of_keep went nofun last)]
    exact ih h

/-- A way that ends in a dot can only lead to a directory. -/
theorem stretch_dot (fs : FileSystem) (last : LastLink) (here : Location) (names : List Name) :
    (fs.stretch last here (names ++ [Path.dot])).ToDirectory := by
  induction names generalizing here with
  | nil =>
    rw [List.nil_append, stretch]
    cases there : fs.get? here with
    | none => trivial
    | some node =>
      cases node with
      | directory mode =>
        dsimp only
        rw [if_pos rfl, stretch, there]
        rfl
      | _ => trivial
  | cons name rest ih =>
    rw [List.cons_append, stretch]
    split
    · split
      · exact ih here
      split
      · exact ih here.dropLast
      split
      · trivial
      have more : rest ++ [Path.dot] ≠ [] := List.concat_ne_nil _ _
      split
      · rw [if_neg more]
        trivial
      · rename_i link entry
        rw [decide_eq_false more, Bool.false_and, if_neg Bool.false_ne_true]
        exact ⟨_, (List.append_assoc _ _ _).symm⟩
      · exact ih _
    · trivial

theorem walk_dot {links : Nat} {here : Location} {names : List Name} {target : Target}
    (h : fs.walk last links here (names ++ [Path.dot]) = .ok target) : target.IsDirectory := by
  generalize ends : names ++ [Path.dot] = steps at h
  fun_induction walk fs last links here steps generalizing names with
  | case1 links here steps result went =>
    have way := stretch_dot fs last here names
    rwa [ends, went, h] at way
  | case2 => cases h
  | case3 here steps start onward links went ih =>
    have way := stretch_dot fs last here names
    rw [ends, went] at way
    obtain ⟨more, same⟩ := way
    exact ih same.symm h

theorem steps_create_of_slash {path : Bytes} (slash : Path.endsInSlash path = true) :
    ∃ names, Path.steps path true = names ++ [Path.dot] :=
  ⟨(Path.names path).dropLast, by simp [Path.steps, slash]⟩

theorem steps_follow_of_slash {path : Bytes} (slash : Path.endsInSlash path = true) :
    ∃ names, Path.steps path false = names ++ [Path.dot] :=
  ⟨Path.names path, by simp [Path.steps, slash]⟩

theorem steps_of_no_slash {path : Bytes} (noSlash : Path.endsInSlash path = false)
    (toCreate : Bool) : Path.steps path toCreate = Path.names path := by
  simp [Path.steps, noSlash]

/-- Making a file behind a link differs from following it only if the link ends in a slash. -/
theorem stretch_create (fs : FileSystem) (here : Location) (names : List Name) :
    fs.stretch .create here names = fs.stretch .follow here names ∨
      ∃ start here' there', fs.stretch .create here names = .link start (here' ++ [Path.dot]) ∧
        fs.stretch .follow here names = .link start (there' ++ [Path.dot]) := by
  induction names generalizing here with
  | nil => exact .inl (by rw [stretch, stretch])
  | cons name rest ih =>
    rw [stretch, stretch]
    split
    · split
      · exact ih here
      split
      · exact ih here.dropLast
      split
      · exact .inl rfl
      split
      · exact .inl rfl
      · rename_i link entry
        by_cases alone : rest = []
        · simp only [alone, decide_true, Bool.and_true, Bool.and_false, reduceCtorEq,
            decide_false, if_false, List.append_nil]
          by_cases slash : Path.endsInSlash link = true
          · obtain ⟨made, create⟩ := steps_create_of_slash slash
            obtain ⟨followed, follow⟩ := steps_follow_of_slash slash
            exact .inr ⟨_, made, followed, by rw [create], by rw [follow]⟩
          · have noSlash : Path.endsInSlash link = false := Bool.not_eq_true _ ▸ slash
            exact .inl (by rw [steps_of_no_slash noSlash, steps_of_no_slash noSlash])
        · exact .inl (by simp [alone])
      · exact ih _
    · exact .inl rfl

theorem walk_create {links : Nat} {here : Location} {names : List Name} {target : Target}
    (noDirectory : ¬ target.IsDirectory) :
    fs.walk .create links here names = .ok target ↔
      fs.walk .follow links here names = .ok target := by
  have neither {links : Nat} {start : Location} {made followed : List Name} :
      fs.walk .create links start (made ++ [Path.dot]) = .ok target ↔
        fs.walk .follow links start (followed ++ [Path.dot]) = .ok target :=
    iff_of_false (fun h => noDirectory (walk_dot h)) (fun h => noDirectory (walk_dot h))
  fun_induction walk fs .follow links here names with
  | case1 links here names result went =>
    rcases stretch_create fs here names with same | ⟨_, _, _, -, follow⟩
    · rw [walk_ended (same.trans went)]
    · cases went.symm.trans follow
  | case2 here names start onward went =>
    rcases stretch_create fs here names with same | ⟨_, _, _, create, -⟩
    · rw [walk_loop (same.trans went)]
    · rw [walk_loop create]
  | case3 here names start onward links went ih =>
    rcases stretch_create fs here names with same | ⟨_, _, _, create, follow⟩
    · rw [walk_link (same.trans went)]
      exact ih
    · cases went.symm.trans follow
      rw [walk_link create]
      exact neither

variable {directory : Location} {path : Bytes} {target : Target}

theorem locate_of_keep (h : fs.locate directory .keep path = .ok target)
    (noLink : ¬ fs.IsLink target.location) : fs.locate directory .follow path = .ok target := by
  unfold locate at h ⊢
  split at h
  · cases h
  rename_i nonempty
  rw [if_neg nonempty]
  split at h
  · cases h
  rename_i short
  rw [if_neg short]
  exact walk_of_keep h noLink .follow

/-- A file can be made where a path leads, unless the path ends in a slash. -/
theorem locate_create (noDirectory : ¬ target.IsDirectory) :
    fs.locate directory .create path = .ok target ↔
      Path.endsInSlash path = false ∧ fs.locate directory .follow path = .ok target := by
  unfold locate
  by_cases empty : path = []
  · simp [empty]
  by_cases long : Path.tooLong ≤ path.length
  · simp [empty, long]
  by_cases slash : Path.endsInSlash path = true
  · obtain ⟨names, steps⟩ := steps_create_of_slash slash
    simp only [if_neg empty, if_neg long, if_true, steps, slash, Bool.true_eq_false, false_and,
      iff_false]
    exact fun h => noDirectory (walk_dot h)
  · have noSlash : Path.endsInSlash path = false := Bool.not_eq_true _ ▸ slash
    simp only [if_neg empty, if_neg long, if_true, steps_of_no_slash noSlash, noSlash, true_and,
      reduceCtorEq, if_false]
    exact walk_create noDirectory

/-- A name that is free for a file to be made is free for one who follows links. -/
theorem locate_create_free {around : Location} {name : Name}
    (free : fs.locate directory .create path = .ok (.free around name)) :
    Path.endsInSlash path = false ∧
      fs.locate directory .follow path = .ok (.free around name) :=
  (locate_create id).mp free

end Ways
end FileSystem

namespace World
open FileSystem
variable {w : World} {path : Bytes} {loc : Location} {node : Node}

/-- A path that does not end in a slash leads to what a walk along it finds. -/
theorem find_of_locate {last : LastLink} (noSlash : Path.endsInSlash path = false)
    (located : w.files.locate w.directory last path = .ok (.found loc node)) :
    w.find last path = .ok (loc, node) := by
  rw [find_eq_ok, resolve, noSlash]
  simp only [Bool.false_eq_true, if_false, located, Bool.false_and]

theorem find_free {last : LastLink} {directory : Location} {name : Name}
    (noSlash : Path.endsInSlash path = false)
    (located : w.files.locate w.directory last path = .ok (.free directory name)) :
    w.find last path = .error .notFound := by
  simp only [find, resolve, noSlash, Bool.false_eq_true, if_false, located]

theorem locate_of_find (noDirectory : node.isDirectory = false)
    (found : w.find .follow path = .ok (loc, node)) :
    Path.endsInSlash path = false ∧
      w.files.locate w.directory .follow path = .ok (.found loc node) := by
  rw [find_eq_ok, resolve, ite_self] at found
  split at found
  · rename_i place entry located
    split at found
    · cases found
    · rename_i sound
      cases found
      rw [noDirectory, Bool.not_false, Bool.and_true, Bool.not_eq_true] at sound
      exact ⟨sound, located⟩
  · rename_i other
    exact absurd found (other loc node)

/-- A file that a path leads to is the one that is opened to be made, and the other way round. -/
theorem find_iff_create (noDirectory : node.isDirectory = false) :
    w.find .follow path = .ok (loc, node) ↔
      w.files.locate w.directory .create path = .ok (.found loc node) := by
  have leaf : ¬ (Target.found loc node).IsDirectory := by simp [Target.IsDirectory, noDirectory]
  rw [locate_create leaf]
  constructor
  · exact locate_of_find noDirectory
  · exact fun ⟨noSlash, located⟩ => find_of_locate noSlash located

/-! ## Names of places -/

/-- A path names the place where its last name stands or may stand. -/
def Names (w : World) (path : Bytes) (loc : Location) : Prop :=
  ∃ target, w.files.locate w.directory .keep path = .ok target ∧ target.location = loc

/-- The entries of two worlds are the same, some places apart, and so is what is refused. -/
structure SameApart (places : List Location) (w v : World) : Prop where
  directory : v.directory = w.directory
  obstacles : v.obstacles = w.obstacles
  entries : ∀ loc ∉ places, v.files.get? loc = w.files.get? loc

theorem SameApart.refl (places : List Location) (w : World) : SameApart places w w :=
  ⟨rfl, rfl, fun _ _ => rfl⟩

theorem SameApart.refusal?_eq {places : List Location} {w v : World} (same : SameApart places w v)
    (accesses : List Access) (loc : Location) :
    v.refusal? accesses loc = w.refusal? accesses loc := by
  rw [refusal?, refusal?, same.obstacles]

theorem SameApart.trans {places more : List Location} {w v u : World}
    (first : SameApart places w v) (second : SameApart more v u) :
    SameApart (places ++ more) w u := by
  refine ⟨second.directory.trans first.directory, second.obstacles.trans first.obstacles,
    fun loc apart => ?_⟩
  rw [List.mem_append, not_or] at apart
  rw [second.entries loc apart.2, first.entries loc apart.1]

theorem SameApart.mono {places more : List Location} {w v : World} (same : SameApart places w v)
    (wider : places ⊆ more) : SameApart more w v :=
  ⟨same.directory, same.obstacles,
    fun loc apart => same.entries loc fun member => apart (wider member)⟩

theorem sameApart_set {w v : World} {loc : Location} {node : Node}
    (directory : v.directory = w.directory) (obstacles : v.obstacles = w.obstacles)
    (files : v.files = w.files.set loc node) : SameApart [loc] w v :=
  ⟨directory, obstacles,
    fun _ apart => files ▸ get?_set_ne w.files (List.ne_of_not_mem_cons apart) node⟩

theorem sameApart_remove {w v : World} {loc : Location} (directory : v.directory = w.directory)
    (obstacles : v.obstacles = w.obstacles) (files : v.files = w.files.remove loc) :
    SameApart [loc] w v :=
  ⟨directory, obstacles,
    fun _ apart => files ▸ get?_remove_ne w.files (List.ne_of_not_mem_cons apart)⟩

/-- One place is enough for what is done there twice. -/
theorem SameApart.again {loc : Location} {w v u : World} (first : SameApart [loc] w v)
    (second : SameApart [loc] v u) : SameApart [loc] w u :=
  (first.trans second).mono (by simp)

/-- What a walk saw is still there if nothing was where a change was made. -/
theorem keeps_of_sameApart {w v : World} {loc : Location} (others : SameApart [loc] w v)
    (vacant : w.files.get? loc = none) : Keeps w.files v.files := by
  apply Keeps.of_get?_eq
  intro other node there
  have apart : other ∉ [loc] := by
    rw [List.mem_singleton]
    rintro rfl
    cases vacant.symm.trans there
  rw [others.entries other apart, there]

/-- A path names one place. -/
theorem Names.unique {w : World} {path : Bytes} {loc loc' : Location} (names : w.Names path loc)
    (again : w.Names path loc') : loc = loc' := by
  obtain ⟨target, located, rfl⟩ := names
  obtain ⟨target', located', rfl⟩ := again
  cases located.symm.trans located'
  rfl

theorem Names.kept {w v : World} {path : Bytes} {loc : Location} (names : w.Names path loc)
    (directory : v.directory = w.directory) (kept : Keeps w.files v.files) : v.Names path loc := by
  obtain ⟨target, located, rfl⟩ := names
  obtain ⟨other, located', same⟩ := locate_kept kept located (.inl rfl)
  exact ⟨other, directory ▸ located', same⟩

/-- What is made at a free name is what the path leads to from then on. -/
theorem status_made {w v : World} {path : Bytes} {directory : Location} {name : Name} {node : Node}
    (sound : hasNul path = false) (noSlash : Path.endsInSlash path = false)
    (free : w.files.locate w.directory .follow path = .ok (.free directory name))
    (others : SameApart [directory ++ [name]] w v)
    (there : v.files.get? (directory ++ [name]) = some node) (leaf : node.waymark = .leaf) :
    v.status path = .ok (directory ++ [name], node) := by
  have noLink : ∀ link, node ≠ .symlink link := by
    rintro link rfl
    cases leaf
  have kept := keeps_of_sameApart others (locate_free free)
  have located := locate_kept_found kept free there (.inr noLink)
  exact status_eq_ok.mpr ⟨sound, find_of_locate noSlash (others.directory ▸ located)⟩

theorem setMode_of_status {loc : Location} {node : Node} (found : w.status path = .ok (loc, node))
    (free : w.refusal? [.mode] loc = none) (mode : Nat) :
    w.setMode path mode = .ok { w with files := w.files.set loc (node.withMode mode) } := by
  simp only [setMode, found, free]

theorem setMode_refused {loc : Location} {node : Node} {e : SystemError}
    (found : w.status path = .ok (loc, node)) (refused : w.refusal? [.mode] loc = some e)
    (mode : Nat) : w.setMode path mode = .error (.system e) := by
  simp only [setMode, found, refused]

end World
end Ancestry
