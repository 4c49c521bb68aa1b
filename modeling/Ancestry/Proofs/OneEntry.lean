import Ancestry.Proofs.Installing

/-!
# One entry more

A request to list a library ends in one of three ways. It is refused, because of the library or
because of the file, and then nothing has happened. Or the library is listed, and nothing happens.
Or the file is one entry longer: what stood in it stands in it still, the new entry is the last and
its line is ended, and no other file has changed. A file that is missing is made, behind links that
lead nowhere as well.

It is assumed that a write to a file that was opened does not fail. A special file may take every
write and is none the longer, so there a request is granted and nothing is listed. And a list that
can be read need not be one that can be opened to be written: then a library that is not in it is
refused.
-/
namespace Ancestry
open World

namespace World

/-- Two worlds differ in nothing but their files. -/
def OnlyFiles (w v : World) : Prop := v = { w with files := v.files }

theorem OnlyFiles.trans {w v u : World} (first : OnlyFiles w v) (second : OnlyFiles v u) :
    OnlyFiles w u := by
  unfold OnlyFiles at first second ⊢
  rw [second, first]

theorem onlyFiles_append (w : World) (loc : Location) (limit : Option Nat) (bytes : Bytes) :
    OnlyFiles w (w.append loc limit bytes).2 := by
  rcases w.append_cases loc limit bytes with ⟨same, -⟩ | ⟨mode, content, -, grown⟩
  · rw [same]
    rfl
  · rw [grown]
    rfl

/-- Whatever is written to the file that is opened at a path is taken. -/
def TakesWrites (w : World) (path : Bytes) : Prop :=
  ∀ loc v bytes, w.openOrCreate path = .ok (loc, v) → (v.append loc none bytes).1.isOk = true

variable {w : World} {path : Bytes}

/-- What is there may be unreadable, but it is not missing. -/
theorem read_ne_notFound {found : Location × Node} (there : w.status path = .ok found) :
    w.read path ≠ .error (.system .notFound) := by
  obtain ⟨loc, node⟩ := found
  cases node with
  | special mode kind =>
    obtain ⟨supply, refusal⟩ := kind
    cases supply <;> simp [World.read, openRead, there, contentOf]
  | _ => simp [World.read, openRead, there, contentOf]

theorem readText_ne_notFound {found : Location × Node} (there : w.status path = .ok found) :
    w.readText path ≠ .error (.system .notFound) := by
  have known := read_ne_notFound there
  rw [readText]
  cases read : w.read path with
  | error e => simpa [read] using known
  | ok bytes => cases decoded : Utf8.decode bytes <;> simp [decoded]

end World

namespace PreloadList
open Text

/-- What keeps a library from being listed. -/
inductive Refused (w : World) (path library : Bytes) : Prop
  | noText : (∀ entry, Utf8.decode library ≠ .ok entry) → Refused w path library
  | blank {entry : List Char} {c : Char} :
      Utf8.decode library = .ok entry → c ∈ entry → isBlank c = true → Refused w path library
  | unreadable {found : Location × Node} {e : IoError} :
      w.status path = .ok found → w.readText path = .error e → Refused w path library
  | uncreatable {e f : IoError} :
      w.status path = .error e → w.openOrCreate path = .error f → Refused w path library
  | unwritable {found : Location × Node} {e : IoError} :
      w.status path = .ok found → w.openOrCreate path = .error e → library ∉ listed w path →
      Refused w path library

/-- What stands at the place of a list before it grows, with the permissions it has or gets. -/
inductive Before (w : World) (path : Bytes) (loc : Location) : Nat → List Char → Prop
  | file {mode : Nat} {old : List Char} :
      w.status path = .ok (loc, .file mode (Utf8.encode old)) → Before w path loc mode old
  | missing :
      w.status path = .error (.system .notFound) → w.files.get? loc = none →
      Before w path loc (umasked 0o666) []

/-- A list has one entry more and nothing else has changed. -/
structure Adds (library : Bytes) (w v : World) (path : Bytes) (old new : List Char) : Prop where
  place : ∃ loc mode, Before w path loc mode old ∧
    v.status path = .ok (loc, .file mode (Utf8.encode new)) ∧
    ∀ other ≠ loc, v.files.get? other = w.files.get? other
  kept : Utf8.encode old <+: Utf8.encode new
  entries : ∃ entry, Utf8.encode entry = library ∧ entries new = entries old ++ [entry]
  ended : new.getLast? = some '\n'
  onlyFiles : w.OnlyFiles v

section Refused
variable {w : World} {path library : Bytes}

theorem load_of_readText {e : IoError} (unread : w.readText path = .error e)
    (there : e ≠ .system .notFound) : ∃ f, load w path = .error f := by
  unfold load
  rw [unread]
  split
  · rename_i read
    cases read
  · rename_i read
    exact absurd (Except.error.inj read) there
  · exact ⟨_, rfl⟩

theorem readText_of_status {e : IoError} (missing : w.status path = .error e) :
    w.readText path = .error e := by
  simp only [readText, World.read, openRead, missing]

/-- Without a list to read, or one to write, nothing happens. -/
theorem ensure_of_load_error {f : Failure} (unread : load w path = .error f) (library : Bytes) :
    ∃ f, ensure w path library = (.error f, w, []) := by
  unfold ensure
  cases entryOf library with
  | error g => exact ⟨g, rfl⟩
  | ok entry => exact ⟨f, by simp only [unread]⟩

theorem ensure_of_open_error {e : IoError} (closed : w.openOrCreate path = .error e)
    (absent : library ∉ listed w path) : ∃ f, ensure w path library = (.error f, w, []) := by
  have extended (more : Bytes) : extend w path more = (.error e, w) := by
    simp only [extend, closed]
  cases asked : entryOf library with
  | error g => exact ⟨g, ensure_refused asked⟩
  | ok entry =>
    cases loaded : load w path with
    | error f => exact ensure_of_load_error loaded library
    | ok content =>
      rw [(entryOf_eq_ok.mp asked).1, encode_mem_listed loaded] at absent
      simp only [ensure, asked, loaded, if_neg absent, extended]
      exact ⟨_, rfl⟩

theorem ensure_of_refused (refused : Refused w path library) :
    ∃ f, ensure w path library = (.error f, w, []) := by
  cases refused with
  | noText noText =>
    cases asked : entryOf library with
    | error f => exact ⟨f, ensure_refused asked⟩
    | ok entry => exact absurd (Utf8.decode_eq_ok_iff.mpr (entryOf_eq_ok.mp asked).1) (noText entry)
  | blank text inside blank =>
    cases asked : entryOf library with
    | error f => exact ⟨f, ensure_refused asked⟩
    | ok other =>
      obtain ⟨same, whole⟩ := entryOf_eq_ok.mp asked
      rw [Utf8.decode_eq_ok_iff.mpr same] at text
      cases text
      rw [whole _ inside] at blank
      cases blank
  | unreadable there unread =>
    have notMissing : _ ≠ IoError.system .notFound := fun same =>
      readText_ne_notFound there (same ▸ unread)
    obtain ⟨f, unloaded⟩ := load_of_readText unread notMissing
    exact ensure_of_load_error unloaded library
  | @uncreatable e f missing closed =>
    refine ensure_of_open_error closed ?_
    -- Nothing is listed where nothing is.
    have unread := readText_of_status missing
    by_cases nothing : e = .system .notFound
    · subst nothing
      simp [listed, load, unread, entries, Text.words, Text.pieces]
    · obtain ⟨g, unloaded⟩ := load_of_readText unread nothing
      simp [listed, unloaded]
  | unwritable there closed absent => exact ensure_of_open_error closed absent

/-- A request that nothing keeps from being granted, for a library that is not listed, has a list
to read and a file to write. -/
theorem sound_of_not_refused (sound : ¬ Refused w path library)
    (fresh : library ∉ listed w path) :
    ∃ entry content loc v, entryOf library = .ok entry ∧ load w path = .ok content ∧
      w.openOrCreate path = .ok (loc, v) := by
  have named : ∃ entry, entryOf library = .ok entry := by
    cases text : Utf8.decode library with
    | error e => exact absurd (.noText fun entry read => by cases text.symm.trans read) sound
    | ok entry =>
      refine ⟨entry, entryOf_eq_ok.mpr ⟨Utf8.decode_eq_ok_iff.mp text, fun c inside => ?_⟩⟩
      cases blank : isBlank c with
      | false => rfl
      | true => exact absurd (.blank text inside blank) sound
  obtain ⟨entry, asked⟩ := named
  cases there : w.status path with
  | ok found =>
    cases text : w.readText path with
    | error e => exact absurd (.unreadable there text) sound
    | ok content =>
      cases opened : w.openOrCreate path with
      | error e => exact absurd (.unwritable there opened fresh) sound
      | ok place => exact ⟨entry, content, place.1, place.2, asked, by simp only [load, text], rfl⟩
  | error e =>
    rcases openOrCreate_cases w path with ⟨f, closed⟩ | ⟨loc, node, -, found, -⟩ |
      ⟨directory, name, clean, vacant, -, opened⟩
    · exact absurd (.uncreatable there closed) sound
    · cases there.symm.trans found
    · have unread := readText_of_status (status_missing clean vacant)
      exact ⟨entry, [], _, _, asked, by simp only [load, unread], opened⟩

theorem not_refused {entry content : List Char} {loc : Location} {v : World}
    (asked : entryOf library = .ok entry) (loaded : load w path = .ok content)
    (opened : w.openOrCreate path = .ok (loc, v)) : ¬ Refused w path library := by
  obtain ⟨same, whole⟩ := entryOf_eq_ok.mp asked
  have text := Utf8.decode_eq_ok_iff.mpr same
  intro refused
  cases refused with
  | noText noText => exact noText entry text
  | blank read inside blank =>
    cases text.symm.trans read
    cases (whole _ inside).symm.trans blank
  | unreadable there unread =>
    obtain ⟨f, unloaded⟩ := load_of_readText unread fun missing =>
      readText_ne_notFound there (missing ▸ unread)
    cases loaded.symm.trans unloaded
  | uncreatable missing closed => cases opened.symm.trans closed
  | unwritable there closed absent => cases opened.symm.trans closed

end Refused

/-! ## A list that grows -/

section Added
variable {w : World} {path library : Bytes} {content entry : List Char}

theorem getLast?_addition (content entry : List Char) :
    (content ++ addition content entry).getLast? = some '\n' := by
  rw [addition, ← List.append_assoc]
  exact List.getLast?_concat

theorem onlyFiles_extend (w : World) (path more : Bytes) :
    w.OnlyFiles (extend w path more).2 := by
  have written {loc : Location} {v : World} (opened : w.openOrCreate path = .ok (loc, v)) :
      (extend w path more).2 = (v.append loc none more).2 := by
    unfold extend
    rw [opened]
    dsimp only
    split <;> rename_i result <;> rw [result]
  rcases openOrCreate_cases w path with ⟨e, opened⟩ | ⟨loc, node, -, -, opened⟩ |
    ⟨directory, name, -, -, -, opened⟩
  · have same : (extend w path more).2 = w := by simp only [extend, opened]
    rw [same]
    rfl
  · rw [written opened]
    exact w.onlyFiles_append loc none more
  · have made : w.OnlyFiles { w with
        files := w.files.set (directory ++ [name]) (.file (umasked 0o666) []) } := rfl
    rw [written opened]
    exact made.trans (onlyFiles_append _ _ none more)

/-- What is put behind a text of a list that does not have the entry yet. -/
theorem adds_extended {loc : Location} {mode : Nat} {v : World}
    (asked : entryOf library = .ok entry) (named : library ≠ [])
    (before : Before w path loc mode content)
    (extended : extend w path (Utf8.encode (addition content entry)) = (.ok (), v))
    (after : v.status path =
      .ok (loc, .file mode (Utf8.encode (content ++ addition content entry))))
    (others : ∀ other ≠ loc, v.files.get? other = w.files.get? other) :
    Adds library w v path content (content ++ addition content entry) where
  place := ⟨loc, mode, before, after, others⟩
  kept := Utf8.encode_append _ _ ▸ List.prefix_append _ _
  entries := by
    obtain ⟨same, whole⟩ := entryOf_eq_ok.mp asked
    have nonempty : entry ≠ [] := by
      intro empty
      rw [empty] at same
      exact named same
    refine ⟨entry, same.symm, ?_⟩
    rw [entries_addition content whole, List.filter_singleton, decide_eq_true nonempty]
    rfl
  ended := getLast?_addition content entry
  onlyFiles := by
    have only := onlyFiles_extend w path (Utf8.encode (addition content entry))
    rwa [extended] at only

/-- Where more can be put behind a text, one entry is. -/
theorem exists_adds (extensible : Extensible w path content) (asked : entryOf library = .ok entry)
    (named : library ≠ []) (absent : entry ∉ entries content) :
    ∃ v records new, ensure w path library = (.ok true, v, records) ∧
      Adds library w v path content new := by
  have loaded := load_extensible extensible
  cases extensible with
  | @file loc mode _ found free =>
    have extended := extend_file found free (Utf8.encode (addition content entry))
    obtain ⟨records, granted⟩ := ensure_added asked loaded absent extended
    have after := status_set_file found
      (Utf8.encode content ++ Utf8.encode (addition content entry))
    refine ⟨_, records, _, granted, adds_extended asked named (.file found) extended ?_ ?_⟩
    · rw [Utf8.encode_append]
      exact after
    · exact fun other apart => FileSystem.get?_set_ne w.files apart _
  | @missing directory name sound vacant free =>
    obtain ⟨noSlash, followed⟩ := FileSystem.locate_create_free vacant
    obtain ⟨v, extended, others, there, -⟩ :=
      extend_missing sound vacant free (Utf8.encode (addition [] entry))
    obtain ⟨records, granted⟩ := ensure_added asked loaded absent extended
    have before : Before w path (directory ++ [name]) (umasked 0o666) [] :=
      .missing (status_missing sound vacant) (FileSystem.locate_free vacant)
    refine ⟨v, records, _, granted, adds_extended asked named before extended ?_ ?_⟩
    · exact status_made sound noSlash followed others there rfl
    · exact fun other apart => others.entries other (by simpa using apart)

end Added

/-! ## A request -/

section Request
variable {w : World} {path library : Bytes}

theorem exists_extend {loc : Location} {v : World} (taken : w.TakesWrites path)
    (opened : w.openOrCreate path = .ok (loc, v)) (more : Bytes) :
    ∃ u, extend w path more = (.ok (), u) := by
  have whole := taken loc v more opened
  rcases written : v.append loc none more with ⟨result, u⟩
  rw [written] at whole
  cases result with
  | error e => cases whole
  | ok count => exact ⟨u, by simp only [extend, opened, written]⟩

/-- A library that is neither refused nor listed can be added to what is at the path, unless that
is a special file. -/
theorem exists_extensible {content entry : List Char} {loc : Location} {v : World}
    (asked : entryOf library = .ok entry) (loaded : load w path = .ok content)
    (absent : entry ∉ PreloadList.entries content) (opened : w.openOrCreate path = .ok (loc, v))
    (taken : w.TakesWrites path) (holds : ¬ w.Discards path) : Extensible w path content := by
  by_cases extensible : ∃ text, Extensible w path text
  · obtain ⟨text, extensible⟩ := extensible
    cases loaded.symm.trans (load_extensible extensible)
    exact extensible
  · have none : ∀ text, ¬ Extensible w path text := not_exists.mp extensible
    obtain ⟨u, extended⟩ := exists_extend taken opened (Utf8.encode (addition content entry))
    obtain ⟨records, granted⟩ := ensure_added asked loaded absent extended
    obtain ⟨-, kept⟩ := (ensure_not_extensible none library).2 (by rw [granted]; rfl)
    refine absurd (kept.resolve_left fun there => ?_) holds
    rw [(entryOf_eq_ok.mp asked).1, encode_mem_listed loaded] at there
    exact absent there

/-- A request that is refused changes nothing, nor does one for a library that is listed. Any other
puts one entry behind those that are there and leaves everything else as it is, if the library is
not empty and there is no special file where the path leads. -/
theorem ensure_adds_one (w : World) (path library : Bytes) :
    (Refused w path library → ∃ f, ensure w path library = (.error f, w, [])) ∧
    (library ∈ listed w path → ensure w path library = (.ok false, w, [])) ∧
    (¬ Refused w path library → library ∉ listed w path → library ≠ [] →
      w.TakesWrites path → ¬ w.Discards path →
      ∃ v records old new, ensure w path library = (.ok true, v, records) ∧
        Adds library w v path old new) := by
  refine ⟨ensure_of_refused, ensure_of_mem_listed, fun sound fresh named taken holds => ?_⟩
  obtain ⟨entry, content, loc, v, asked, loaded, opened⟩ := sound_of_not_refused sound fresh
  have absent : entry ∉ PreloadList.entries content := by
    rwa [(entryOf_eq_ok.mp asked).1, encode_mem_listed loaded] at fresh
  have extensible := exists_extensible asked loaded absent opened taken holds
  obtain ⟨u, records, new, granted, adds⟩ := exists_adds extensible asked named absent
  exact ⟨u, records, content, new, granted, adds⟩

end Request

/-! ## Behind a link, at a device, and in a file that may only be read -/

theorem append_file_isOk {w : World} {loc : Location} {mode : Nat} {content : Bytes}
    (there : w.files.get? loc = some (.file mode content)) (bytes : Bytes) :
    (w.append loc none bytes).1.isOk = true := by
  simp only [append, there, room]
  rfl

/-- A library to be listed. -/
def wanted : Bytes := Bytes.ofString "/lib/a.so"

theorem entryOf_wanted : entryOf wanted = .ok "/lib/a.so".toList :=
  entryOf_eq_ok.mpr ⟨rfl, by simp [isBlank]⟩

/-- A world in which the preload list is a link that leads nowhere. -/
def withLink : World :=
  { World.bare with
    files := World.bare.files.set (place "/tmp/work/p") (.symlink (Bytes.ofString "q")) }

theorem ensure_adds_one_behind_link :
    (∃ f, ensure withList preload (Bytes.ofString "/opt/my lib.so") = (.error f, withList, [])) ∧
    ensure withList preload (Bytes.ofString "/lib/other.so") = (.ok false, withList, []) ∧
    ∃ v records old new,
      ensure withLink (Bytes.ofString "p") wanted = (.ok true, v, records) ∧
        Adds wanted withLink v (Bytes.ofString "p") old new := by
  have opened : withLink.openOrCreate (Bytes.ofString "p") =
      .ok (place "/tmp/work/q", { withLink with
        files := withLink.files.set (place "/tmp/work/q") (.file (umasked 0o666) []) }) := by
    decide +kernel
  have loaded : load withLink (Bytes.ofString "p") = .ok [] := by decide +kernel
  have status : withLink.status (Bytes.ofString "p") = .error (.system .notFound) := by
    decide +kernel
  have fresh : wanted ∉ listed withLink (Bytes.ofString "p") := by
    rw [listed, loaded]
    exact List.not_mem_nil
  refine ⟨(ensure_adds_one withList preload _).1 ?_, (ensure_adds_one withList preload _).2.1 ?_,
    (ensure_adds_one withLink (Bytes.ofString "p") wanted).2.2
      (not_refused entryOf_wanted loaded opened) fresh (by decide) ?_ ?_⟩
  · exact .blank (Utf8.decode_encode _) (c := ' ') (by decide) (by decide)
  · decide +kernel
  · intro loc v bytes same
    cases opened.symm.trans same
    exact append_file_isOk (FileSystem.get?_set_self _ (by decide) _) bytes
  · rintro ⟨loc, mode, kind, special⟩
    cases status.symm.trans special

/-- The list of one library, in a file that may only be read. -/
def withGuardedList : World :=
  { withList with obstacles := [⟨.write, place "/etc", .readOnly⟩] }

def nowhere : Bytes := Bytes.ofString "/dev/null"

/-- At the null device a request is granted that is neither refused nor for a library that is
listed, and nothing is added. And where a list can be read but not written, a request fails for a
library that could be listed and is not. -/
theorem not_every_list_grows :
    (¬ Refused World.bare nowhere wanted ∧ wanted ∉ listed World.bare nowhere ∧ wanted ≠ [] ∧
      World.bare.TakesWrites nowhere ∧ (ensure World.bare nowhere wanted).1 = .ok true ∧
      ¬ ∃ v records old new, ensure World.bare nowhere wanted = (.ok true, v, records) ∧
        Adds wanted World.bare v nowhere old new) ∧
    entryOf wanted = .ok "/lib/a.so".toList ∧
      load withGuardedList preload = .ok "/lib/other.so".toList ∧
      wanted ∉ listed withGuardedList preload ∧ withGuardedList.TakesWrites preload ∧
      ∃ f, ensure withGuardedList preload wanted = (.error f, withGuardedList, []) := by
  refine ⟨?_, entryOf_wanted, ?_⟩
  · have opened : World.bare.openOrCreate nowhere = .ok (place "/dev/null", World.bare) := by
      decide +kernel
    have loaded : load World.bare nowhere = .ok [] := by decide +kernel
    have result : (ensure World.bare nowhere wanted).1 = .ok true := by decide +kernel
    have same : (ensure World.bare nowhere wanted).2.1 = World.bare := by decide +kernel
    have device : World.bare.status nowhere = .ok (place "/dev/null", .special 0o666 .null) := by
      decide +kernel
    have fresh : wanted ∉ listed World.bare nowhere := by
      rw [listed, loaded]
      exact List.not_mem_nil
    refine ⟨not_refused entryOf_wanted loaded opened, fresh, by decide, ?_, result, ?_⟩
    · intro loc v bytes found
      cases opened.symm.trans found
      rfl
    · intro added
      obtain ⟨v, records, old, new, granted, adds⟩ := added
      rw [granted] at same
      obtain rfl : v = World.bare := same
      obtain ⟨loc, mode, -, file, -⟩ := adds.place
      cases device.symm.trans file
  · have closed : withGuardedList.openOrCreate preload = .error (.system .readOnly) := by
      decide +kernel
    have loaded : load withGuardedList preload = .ok "/lib/other.so".toList := by decide +kernel
    have fresh : wanted ∉ listed withGuardedList preload := by decide +kernel
    refine ⟨loaded, fresh, ?_, ensure_of_open_error closed fresh⟩
    intro loc v bytes found
    cases closed.symm.trans found

end PreloadList
end Ancestry
