import Mathlib.Data.Finset.Card
import Ancestry.Proofs.Places
import Ancestry.Proofs.SinkEffects
import Ancestry.Supervisor.PreloadList
import Ancestry.System.Scene

/-!
# Listing libraries more than once

A library that was listed is a word of the preload list from then on, so it is recognised when it
is asked for again and nothing is written. What was there before does not matter: a last line
without a newline is ended first. Whatever libraries are asked for in whatever order, only the
first request for each of those that were not listed changes the list.

The empty path is the exception. It is text without a blank, so it is accepted, but no word of a
list is empty: it is never recognised and each request for it makes the file longer. A special file
is another matter. It takes what is written and holds nothing, so what is listed there is what it
gives to be read, and that stays as it is.
-/
namespace Ancestry
open World

/-! ## Words -/

namespace Text

theorem words_append_cons (cs more : List Char) {c : Char} (blank : isBlank c = true) :
    words (cs ++ c :: more) = words cs ++ words more := by
  rw [words, pieces_append_cons isBlank cs more blank, List.filter_append]
  rfl

theorem words_of_no_blank {cs : List Char} (h : ∀ c ∈ cs, isBlank c = false) :
    words cs = [cs].filter (· ≠ []) := by
  rw [words, pieces_of_forall_not h]

theorem isBlank_of_mem_words {cs word : List Char} (member : word ∈ words cs) :
    ∀ c ∈ word, isBlank c = false :=
  not_of_mem_pieces (List.mem_of_mem_filter member)

theorem nil_not_mem_words (cs : List Char) : [] ∉ words cs := by
  intro member
  have nonempty := (List.mem_filter.mp member).2
  simp at nonempty

end Text

namespace PreloadList
open Text

theorem entryOf_eq_ok {library : Bytes} {entry : List Char} :
    entryOf library = .ok entry ↔
      library = Utf8.encode entry ∧ ∀ c ∈ entry, isBlank c = false := by
  rw [← Utf8.decode_eq_ok_iff]
  unfold entryOf
  cases Utf8.decode library with
  | error e => simp
  | ok cs =>
    dsimp only
    by_cases blank : cs.any isBlank = true
    · have some : ¬ ∀ c ∈ cs, isBlank c = false := by
        simpa using blank
      rw [if_pos blank]
      constructor
      · intro h
        cases h
      · rintro ⟨same, none⟩
        cases same
        exact absurd none some
    · have none : ∀ c ∈ cs, isBlank c = false := by
        simpa using blank
      rw [if_neg blank]
      constructor
      · intro h
        cases h
        exact ⟨rfl, none⟩
      · rintro ⟨same, -⟩
        cases same
        rfl

/-- Adding an entry leaves the entries that are there as they are, whatever stands at the end. -/
theorem entries_addition (content : List Char) {entry : List Char}
    (whole : ∀ c ∈ entry, isBlank c = false) :
    entries (content ++ addition content entry) = entries content ++ [entry].filter (· ≠ []) := by
  have line : words (entry ++ ['\n']) = [entry].filter (· ≠ []) := by
    have ended := words_append_cons entry [] (c := '\n') (by decide)
    rw [ended, words_of_no_blank whole]
    exact List.append_nil _
  unfold entries addition
  by_cases empty : content = []
  · subst empty
    exact line
  by_cases last : content.getLast? = some '\n'
  · obtain ⟨front, rfl⟩ := List.getLast?_eq_some_iff.mp last
    have ended := words_append_cons front [] (c := '\n') (by decide)
    have nothing : words [] = [] := rfl
    rw [nothing, List.append_nil] at ended
    simp only [last, ne_eq, not_true_eq_false, decide_false, Bool.and_false, Bool.false_eq_true,
      if_false, List.nil_append, List.append_assoc, List.cons_append]
    rw [words_append_cons front _ (by decide), ended, line]
  · simp only [ne_eq, empty, last, not_false_eq_true, decide_true, Bool.and_self, if_true,
      List.cons_append, List.nil_append]
    rw [words_append_cons content _ (by decide), line]

/-- What is listed after a library was asked for. -/
def grown (content : List Char) (library : Bytes) : List Char :=
  match entryOf library with
  | .error _ => content
  | .ok entry =>
    if (entries content).contains entry then content else content ++ addition content entry

section Grown
variable {content entry : List Char} {library : Bytes}

theorem grown_refused {f : Failure} (asked : entryOf library = .error f) :
    grown content library = content := by
  simp only [grown, asked]

theorem grown_listed (asked : entryOf library = .ok entry) (there : entry ∈ entries content) :
    grown content library = content := by
  simp only [grown, asked, List.contains_iff_mem.mpr there, if_true]

theorem grown_added (asked : entryOf library = .ok entry) (absent : entry ∉ entries content) :
    grown content library = content ++ addition content entry := by
  have fresh : (entries content).contains entry = false := by
    simpa using absent
  simp only [grown, asked, fresh, Bool.false_eq_true, if_false]

end Grown

theorem mem_entries_grown {content e : List Char} {library : Bytes} :
    e ∈ entries (grown content library) ↔
      e ∈ entries content ∨ entryOf library = .ok e ∧ e ≠ [] := by
  cases asked : entryOf library with
  | error f => simp [grown_refused asked]
  | ok entry =>
    by_cases listed : entry ∈ entries content
    · rw [grown_listed asked listed]
      constructor
      · exact .inl
      · rintro (old | ⟨same, -⟩)
        · exact old
        · cases same
          exact listed
    · rw [grown_added asked listed, entries_addition content (entryOf_eq_ok.mp asked).2,
        List.mem_append, List.mem_filter, List.mem_singleton]
      constructor
      · rintro (old | ⟨rfl, nonempty⟩)
        · exact .inl old
        · exact .inr ⟨rfl, of_decide_eq_true nonempty⟩
      · rintro (old | ⟨same, nonempty⟩)
        · exact .inl old
        · cases same
          exact .inr ⟨rfl, decide_eq_true nonempty⟩

theorem mem_entries_foldl_grown {content e : List Char} {libraries : List Bytes} :
    e ∈ entries (libraries.foldl grown content) ↔
      e ∈ entries content ∨ (∃ library ∈ libraries, entryOf library = .ok e) ∧ e ≠ [] := by
  induction libraries generalizing content with
  | nil => simp
  | cons library more ih =>
    rw [List.foldl_cons, ih, mem_entries_grown, List.exists_mem_cons_iff]
    tauto

end PreloadList

/-! ## One request -/

namespace World

/-- A path leads to a special file, which keeps nothing of what is written to it. -/
def Discards (w : World) (path : Bytes) : Prop :=
  ∃ loc mode kind, w.status path = .ok (loc, .special mode kind)

/-- A path at which some text stands and more can be put behind it. Where nothing is yet, a file
can be made. -/
inductive Extensible (w : World) (path : Bytes) : List Char → Prop
  | file {loc : Location} {mode : Nat} {content : List Char} :
      w.status path = .ok (loc, .file mode (Utf8.encode content)) →
      w.refusal? [.write] loc = none → Extensible w path content
  | missing {directory : Location} {name : Name} :
      hasNul path = false →
      w.files.locate w.directory .create path = .ok (.free directory name) →
      w.refusal? [.write, .entry, .file] (directory ++ [name]) = none → Extensible w path []

variable {w : World} {path : Bytes}

theorem status_missing {directory : Location} {name : Name} (sound : hasNul path = false)
    (free : w.files.locate w.directory .create path = .ok (.free directory name)) :
    w.status path = .error (.system .notFound) := by
  obtain ⟨noSlash, followed⟩ := FileSystem.locate_create_free free
  simp only [status, sound, find_free noSlash followed, Bool.false_eq_true, if_false]

theorem leaf_of_willing {node : Node} (willing : refusesWriting node = none) :
    node.isDirectory = false := by
  cases node <;> first | rfl | cases willing

theorem openOrCreate_found {loc : Location} {node : Node}
    (willing : w.unwritable? loc node = none) (found : w.status path = .ok (loc, node)) :
    w.openOrCreate path = .ok (loc, w) := by
  have leaf := leaf_of_willing (unwritable?_eq_none.mp willing).1
  obtain ⟨sound, found⟩ := status_eq_ok.mp found
  have located := (find_iff_create leaf).mp found
  simp only [openOrCreate, sound, located, willing, Bool.false_eq_true, if_false]

theorem status_of_create {loc : Location} {node : Node} (willing : refusesWriting node = none)
    (sound : hasNul path = false)
    (located : w.files.locate w.directory .create path = .ok (.found loc node)) :
    w.status path = .ok (loc, node) := by
  have leaf := leaf_of_willing willing
  exact status_eq_ok.mpr ⟨sound, (find_iff_create leaf).mpr located⟩

/-- A file is opened where one is, or made where a name is free, unless that is refused. -/
theorem openOrCreate_cases (w : World) (path : Bytes) :
    (∃ e, w.openOrCreate path = .error e) ∨
    (∃ loc node, w.unwritable? loc node = none ∧ w.status path = .ok (loc, node) ∧
      w.openOrCreate path = .ok (loc, w)) ∨
    ∃ directory name, hasNul path = false ∧
      w.files.locate w.directory .create path = .ok (.free directory name) ∧
      w.refusal? [.write, .entry, .file] (directory ++ [name]) = none ∧
      w.openOrCreate path = .ok (directory ++ [name],
        { w with files := w.files.set (directory ++ [name]) (.file (umasked 0o666) []) }) := by
  by_cases sound : hasNul path = true
  · exact .inl ⟨_, if_pos sound⟩
  rw [Bool.not_eq_true] at sound
  cases located : w.files.locate w.directory .create path with
  | error e => exact .inl ⟨.system e, by simp [openOrCreate, sound, located]⟩
  | ok target =>
    cases target with
    | free directory name =>
      cases allowed : w.refusal? [.write, .entry, .file] (directory ++ [name]) with
      | some e => exact .inl ⟨.system e, by simp [openOrCreate, sound, located, allowed]⟩
      | none =>
        exact .inr (.inr ⟨directory, name, sound, rfl, allowed,
          by simp [openOrCreate, sound, located, allowed]⟩)
    | found loc node =>
      cases willing : w.unwritable? loc node with
      | some e => exact .inl ⟨.system e, by simp [openOrCreate, sound, located, willing]⟩
      | none =>
        have found := status_of_create (unwritable?_eq_none.mp willing).1 sound located
        exact .inr (.inl ⟨loc, node, willing, found, openOrCreate_found willing found⟩)

end World

namespace PreloadList
variable {w : World} {path : Bytes} {content : List Char}

theorem extend_file {loc : Location} {mode : Nat} {bytes : Bytes}
    (found : w.status path = .ok (loc, .file mode bytes))
    (free : w.refusal? [.write] loc = none) (more : Bytes) :
    extend w path more =
      (.ok (), { w with files := w.files.set loc (.file mode (bytes ++ more)) }) := by
  have opened := openOrCreate_found (unwritable?_eq_none.mpr ⟨rfl, free⟩) found
  have there := status_found found
  simp only [extend, opened, append, there, room]

theorem extend_missing {directory : Location} {name : Name} (sound : hasNul path = false)
    (vacant : w.files.locate w.directory .create path = .ok (.free directory name))
    (free : w.refusal? [.write, .entry, .file] (directory ++ [name]) = none) (more : Bytes) :
    ∃ v, extend w path more = (.ok (), v) ∧ SameApart [directory ++ [name]] w v ∧
      v.files.get? (directory ++ [name]) = some (.file (umasked 0o666) more) ∧
      v.listening = w.listening := by
  have below : directory ++ [name] ≠ [] := List.concat_ne_nil _ _
  have made := FileSystem.get?_set_self w.files below (.file (umasked 0o666) [])
  have created : SameApart [directory ++ [name]] w
      { w with files := w.files.set (directory ++ [name]) (.file (umasked 0o666) []) } :=
    sameApart_set rfl rfl rfl
  refine ⟨{ w with
    files := (w.files.set (directory ++ [name]) (.file (umasked 0o666) [])).set
      (directory ++ [name]) (.file (umasked 0o666) more) }, ?_, ?_, ?_, rfl⟩
  · simp only [extend, openOrCreate, sound, vacant, free, append, made, room, Bool.false_eq_true,
      if_false, List.nil_append]
  · exact created.again (sameApart_set rfl rfl rfl)
  · exact FileSystem.get?_set_self _ below _

theorem extend_extensible (h : Extensible w path content) (more : List Char) :
    ∃ v, extend w path (Utf8.encode more) = (.ok (), v) ∧
      Extensible v path (content ++ more) := by
  cases h with
  | file found free =>
    have grown := status_set_file found (Utf8.encode content ++ Utf8.encode more)
    rw [← Utf8.encode_append] at grown
    have extended := extend_file found free (Utf8.encode more)
    rw [← Utf8.encode_append] at extended
    exact ⟨_, extended, .file grown free⟩
  | missing sound vacant free =>
    obtain ⟨noSlash, followed⟩ := FileSystem.locate_create_free vacant
    obtain ⟨v, extended, others, there, -⟩ := extend_missing sound vacant free (Utf8.encode more)
    -- Who may make a file may write it.
    have still := refusal?_mono free (by simp : [Access.write] ⊆ [.write, .entry, .file])
    rw [← others.refusal?_eq] at still
    exact ⟨v, extended, .file (status_made sound noSlash followed others there rfl) still⟩

theorem load_extensible (h : Extensible w path content) : load w path = .ok content := by
  cases h with
  | file found =>
    simp only [load, readText, World.read, openRead, found, contentOf, Utf8.decode_encode]
  | missing sound vacant =>
    simp only [load, readText, World.read, openRead, status_missing sound vacant]

section Ensure
variable {library : Bytes} {entry : List Char}

theorem ensure_refused {f : Failure} (asked : entryOf library = .error f) :
    ensure w path library = (.error f, w, []) := by
  simp only [ensure, asked]

theorem ensure_listed (asked : entryOf library = .ok entry) (loaded : load w path = .ok content)
    (there : entry ∈ entries content) : ensure w path library = (.ok false, w, []) := by
  simp only [ensure, asked, loaded, if_pos there]

theorem ensure_added {v : World} (asked : entryOf library = .ok entry)
    (loaded : load w path = .ok content) (absent : entry ∉ entries content)
    (extended : extend w path (Utf8.encode (addition content entry)) = (.ok (), v)) :
    ∃ records, ensure w path library = (.ok true, v, records) := by
  unfold ensure
  simp only [asked, loaded, if_neg absent, extended]
  exact ⟨_, rfl⟩

/-- A library is listed or refused by its name alone, and the file is written only if its content
changes. -/
theorem ensure_extensible (h : Extensible w path content) (library : Bytes) :
    (ensure w path library).1 =
        (entryOf library).map (fun entry => decide (entry ∉ entries content)) ∧
      Extensible (ensure w path library).2.1 path (grown content library) ∧
      (grown content library = content → (ensure w path library).2.1 = w) := by
  have loaded := load_extensible h
  cases asked : entryOf library with
  | error f =>
    rw [ensure_refused asked, grown_refused asked]
    exact ⟨rfl, h, fun _ => rfl⟩
  | ok entry =>
    by_cases there : entry ∈ entries content
    · rw [ensure_listed asked loaded there, grown_listed asked there]
      exact ⟨by simp [Except.map, there], h, fun _ => rfl⟩
    · obtain ⟨v, extended, extensible⟩ := extend_extensible h (addition content entry)
      obtain ⟨records, added⟩ := ensure_added asked loaded there extended
      rw [added, grown_added asked there]
      refine ⟨by simp [Except.map, there], extensible, fun same => ?_⟩
      simp [addition] at same

end Ensure

/-- The text of a file that can be written can be made longer. -/
theorem extensible_of_load {loc : Location} {mode : Nat} {bytes : Bytes}
    (found : w.status path = .ok (loc, .file mode bytes)) (free : w.refusal? [.write] loc = none)
    (loaded : load w path = .ok content) : Extensible w path content := by
  have text : Utf8.decode bytes = .ok content := by
    simp only [load, readText, World.read, openRead, found, contentOf] at loaded
    cases read : Utf8.decode bytes with
    | error e => simp [read] at loaded
    | ok cs => simpa [read] using loaded
  rw [Utf8.decode_eq_ok_iff] at text
  exact .file (text ▸ found) free

/-- Where a list cannot be made longer, an attempt to write fails or goes to a special file. -/
theorem extend_not_extensible (none : ∀ content, ¬ Extensible w path content)
    (loaded : load w path = .ok content) (more : Bytes) :
    (extend w path more).2 = w ∧ ((extend w path more).1 = .ok () → w.Discards path) := by
  unfold extend
  rcases openOrCreate_cases w path with ⟨e, opened⟩ | ⟨loc, node, willing, found, opened⟩ |
    ⟨directory, name, sound, vacant, free, -⟩
  · rw [opened]
    refine ⟨rfl, fun done => ?_⟩
    cases done
  · have there := status_found found
    obtain ⟨-, free⟩ := unwritable?_eq_none.mp willing
    rw [opened]
    cases node with
    | file mode bytes => exact absurd (extensible_of_load found free loaded) (none content)
    | special mode kind =>
      refine ⟨?_, fun _ => ⟨loc, mode, kind, found⟩⟩
      cases refused : kind.refusal <;> simp only [append, there, refused]
    | _ =>
      simp only [append, there]
      refine ⟨trivial, fun done => ?_⟩
      cases done
  · exact absurd (.missing sound vacant free) (none [])

/-! ## Libraries that are listed -/

/-- The libraries that are listed at a path. -/
def listed (w : World) (path : Bytes) : List Bytes :=
  match load w path with
  | .ok content => (entries content).map Utf8.encode
  | .error _ => []

theorem encode_mem_listed (loaded : load w path = .ok content) {entry : List Char} :
    Utf8.encode entry ∈ listed w path ↔ entry ∈ entries content := by
  simp only [listed, loaded, List.mem_map]
  constructor
  · rintro ⟨other, there, same⟩
    exact Utf8.encode_injective same ▸ there
  · exact fun there => ⟨entry, there, rfl⟩

/-- A library that is listed is recognised, whatever the file would take. -/
theorem ensure_of_mem_listed {library : Bytes} (there : library ∈ listed w path) :
    ensure w path library = (.ok false, w, []) := by
  cases loaded : load w path with
  | error f => simp [listed, loaded] at there
  | ok content =>
    simp only [listed, loaded, List.mem_map] at there
    obtain ⟨entry, member, same⟩ := there
    have asked : entryOf library = .ok entry :=
      entryOf_eq_ok.mpr ⟨same.symm, Text.isBlank_of_mem_words member⟩
    exact ensure_listed asked loaded member

theorem ensure_not_extensible (none : ∀ content, ¬ Extensible w path content) (library : Bytes) :
    (ensure w path library).2.1 = w ∧
      ((ensure w path library).1.isOk = true →
        (ensure w path library).1 = .ok (decide (library ∉ listed w path)) ∧
        (library ∈ listed w path ∨ w.Discards path)) := by
  by_cases there : library ∈ listed w path
  · rw [ensure_of_mem_listed there]
    exact ⟨rfl, fun _ => ⟨by simp [there], .inl there⟩⟩
  cases asked : entryOf library with
  | error f =>
    rw [ensure_refused asked]
    exact ⟨rfl, nofun⟩
  | ok entry =>
    obtain ⟨rfl, -⟩ := entryOf_eq_ok.mp asked
    unfold ensure
    rw [asked]
    cases loaded : load w path with
    | error f => exact ⟨rfl, nofun⟩
    | ok content =>
      have absent : entry ∉ entries content := mt (encode_mem_listed loaded).mpr there
      obtain ⟨same, discards⟩ := extend_not_extensible none loaded
        (Utf8.encode (addition content entry))
      dsimp only
      rw [if_neg absent]
      cases extended : extend w path (Utf8.encode (addition content entry)) with
      | mk result v =>
        rw [extended] at same discards
        cases result with
        | error e => exact ⟨same, nofun⟩
        | ok done => exact ⟨same, fun _ => ⟨by simp [there], .inr (discards rfl)⟩⟩

end PreloadList

/-! ## A sequence of requests -/

namespace World.Extensible
variable {w : World} {path : Bytes} {content : List Char}

theorem not_discards (h : Extensible w path content) : ¬ w.Discards path := by
  rintro ⟨loc, mode, kind, special⟩
  cases h with
  | file found => cases found.symm.trans special
  | missing sound vacant => cases (status_missing sound vacant).symm.trans special

end World.Extensible

namespace PreloadList
variable {w : World} {path : Bytes} {content : List Char} {library : Bytes}

/-- The world after libraries were asked for one by one. -/
def after (w : World) (path : Bytes) (libraries : List Bytes) : World :=
  libraries.foldl (fun w library => (ensure w path library).2.1) w

/-- What the requests return. -/
def results (w : World) (path : Bytes) : List Bytes → List (Except Failure Bool)
  | [] => []
  | library :: more =>
    (ensure w path library).1 :: results (ensure w path library).2.1 path more

def added : Except Failure Bool → Bool
  | .ok changed => changed
  | .error _ => false

/-- A library is listed, and to ask for it again does nothing. -/
structure Settled (w : World) (path library : Bytes) : Prop where
  listed : library ∈ listed w path
  recognised : (ensure w path library).1 = .ok false
  unchanged : (ensure w path library).2.1 = w

theorem after_extensible (h : Extensible w path content) (libraries : List Bytes) :
    Extensible (after w path libraries) path (libraries.foldl grown content) := by
  induction libraries generalizing w content with
  | nil => exact h
  | cons library more ih => exact ih (ensure_extensible h library).2.1

theorem after_not_extensible (none : ∀ content, ¬ Extensible w path content)
    (libraries : List Bytes) : after w path libraries = w := by
  induction libraries with
  | nil => rfl
  | cons library more ih =>
    have same : (ensure w path library).2.1 = w := (ensure_not_extensible none library).1
    calc after w path (library :: more)
        = after (ensure w path library).2.1 path more := rfl
      _ = w := by rw [same, ih]

theorem nil_not_mem_listed (w : World) (path : Bytes) : [] ∉ listed w path := by
  unfold listed
  cases load w path with
  | error f => exact List.not_mem_nil
  | ok content =>
    intro member
    obtain ⟨entry, listed, empty⟩ := List.mem_map.mp member
    have : entry = [] := Utf8.encode_injective empty
    exact Text.nil_not_mem_words content (this ▸ listed)

theorem entryOf_eq_ok_of_granted (h : Extensible w path content)
    (granted : (ensure w path library).1.isOk = true) :
    ∃ entry, entryOf library = .ok entry ∧ Utf8.encode entry = library := by
  obtain ⟨result, -⟩ := ensure_extensible h library
  rw [result] at granted
  cases asked : entryOf library with
  | error f => simp [asked, Except.map, Except.isOk, Except.toBool] at granted
  | ok entry => exact ⟨entry, rfl, (entryOf_eq_ok.mp asked).1.symm⟩

theorem settled_of_mem_listed (there : library ∈ listed w path) : Settled w path library := by
  have recognised := ensure_of_mem_listed there
  exact ⟨there, by rw [recognised], by rw [recognised]⟩

/-- A request that was granted settles the library for good, unless it named nothing, or what it
wrote went to a special file. -/
theorem settled_iff {before later : List Bytes}
    (granted : (ensure (after w path before) path library).1.isOk = true) :
    Settled (after w path (before ++ library :: later)) path library ↔
      library ≠ [] ∧ (w.Discards path → library ∈ listed w path) := by
  by_cases extensible : ∃ content, Extensible w path content
  · obtain ⟨content, start⟩ := extensible
    have midway := after_extensible start before
    have final := after_extensible start (before ++ library :: later)
    obtain ⟨entry, asked, encoded⟩ := entryOf_eq_ok_of_granted midway granted
    constructor
    · intro settled
      refine ⟨?_, fun discards => absurd discards start.not_discards⟩
      rintro rfl
      exact nil_not_mem_listed _ _ settled.listed
    · rintro ⟨nonempty, -⟩
      have named : entry ≠ [] := by
        rintro rfl
        exact nonempty encoded.symm
      have there : entry ∈ entries ((before ++ library :: later).foldl grown content) :=
        mem_entries_foldl_grown.mpr (.inr ⟨⟨library, by simp, asked⟩, named⟩)
      rw [← encode_mem_listed (load_extensible final), encoded] at there
      exact settled_of_mem_listed there
  · have none : ∀ content, ¬ Extensible w path content := not_exists.mp extensible
    rw [after_not_extensible none] at granted ⊢
    obtain ⟨-, kept⟩ := (ensure_not_extensible none library).2 granted
    constructor
    · intro settled
      refine ⟨?_, fun _ => settled.listed⟩
      rintro rfl
      exact nil_not_mem_listed _ _ settled.listed
    · rintro ⟨-, given⟩
      exact settled_of_mem_listed (kept.elim id given)

/-- What the list holds after some libraries were asked for does not grow if they are asked for
again. -/
theorem grown_of_mem {libraries : List Bytes} (content : List Char) (proper : [] ∉ libraries)
    {library : Bytes} (member : library ∈ libraries) :
    grown (libraries.foldl grown content) library = libraries.foldl grown content := by
  cases asked : entryOf library with
  | error f => exact grown_refused asked
  | ok entry =>
    have named : entry ≠ [] := by
      rintro rfl
      have empty : library = [] := (entryOf_eq_ok.mp asked).1
      exact proper (empty ▸ member)
    have there : entry ∈ entries (libraries.foldl grown content) :=
      mem_entries_foldl_grown.mpr (.inr ⟨⟨library, member, asked⟩, named⟩)
    exact grown_listed asked there

theorem after_of_not_grown (h : Extensible w path content) {libraries : List Bytes}
    (fixed : ∀ library ∈ libraries, grown content library = content) :
    after w path libraries = w := by
  induction libraries with
  | nil => rfl
  | cons library more ih =>
    have same : (ensure w path library).2.1 = w :=
      (ensure_extensible h library).2.2 (fixed library List.mem_cons_self)
    calc after w path (library :: more)
        = after (ensure w path library).2.1 path more := rfl
      _ = w := by rw [same, ih fun l member => fixed l (List.mem_cons_of_mem _ member)]

theorem after_after {libraries : List Bytes} (proper : [] ∉ libraries) :
    after (after w path libraries) path libraries = after w path libraries := by
  by_cases extensible : ∃ content, Extensible w path content
  · obtain ⟨content, start⟩ := extensible
    exact after_of_not_grown (after_extensible start libraries)
      fun library member => grown_of_mem content proper member
  · have none : ∀ content, ¬ Extensible w path content := not_exists.mp extensible
    rw [after_not_extensible none, after_not_extensible none]

/-- Each library counts the first time it is asked for, and the empty one counts every time. -/
theorem card_first {known : Finset Bytes} (nowhere : [] ∉ known) (library : Bytes)
    (later : Finset Bytes) :
    ((insert library later).erase [] \ known).card + (if library = [] then 1 else 0) =
      (later.erase [] \ (insert library known).erase []).card +
        (if library ∈ known then 0 else 1) := by
  by_cases empty : library = []
  · subst empty
    rw [Finset.erase_insert_eq_erase, Finset.erase_insert nowhere, if_pos rfl, if_neg nowhere]
  have known' : (insert library known).erase [] = insert library known :=
    Finset.erase_eq_of_notMem (by simp [nowhere, Ne.symm empty])
  rw [known', Finset.erase_insert_of_ne empty, if_neg empty]
  by_cases old : library ∈ known
  · rw [if_pos old, Finset.insert_sdiff_of_mem _ old, Finset.insert_eq_of_mem old]
  · -- The first request takes the library out of those still to come.
    have dropped :=
      Finset.card_erase_add_one (Finset.mem_insert_self library (later.erase [] \ known))
    rw [Finset.erase_insert_eq_erase] at dropped
    rw [if_neg old, Finset.insert_sdiff_of_notMem _ old, Finset.sdiff_insert, dropped,
      Nat.add_zero]

theorem added_ensure (h : Extensible w path content)
    (granted : (ensure w path library).1.isOk = true) :
    added (ensure w path library).1 = true ↔ library ∉ listed w path := by
  obtain ⟨entry, asked, rfl⟩ := entryOf_eq_ok_of_granted h granted
  obtain ⟨result, -⟩ := ensure_extensible h (Utf8.encode entry)
  rw [result, asked, encode_mem_listed (load_extensible h)]
  simp [Except.map, added]

theorem toFinset_listed_ensure (h : Extensible w path content)
    (granted : (ensure w path library).1.isOk = true) :
    (listed (ensure w path library).2.1 path).toFinset =
      (insert library (listed w path).toFinset).erase [] := by
  obtain ⟨entry, asked, rfl⟩ := entryOf_eq_ok_of_granted h granted
  obtain ⟨-, extensible, -⟩ := ensure_extensible h (Utf8.encode entry)
  ext other
  simp only [Finset.mem_erase, Finset.mem_insert, List.mem_toFinset, listed,
    load_extensible h, load_extensible extensible, List.mem_map, mem_entries_grown, asked,
    Except.ok.injEq]
  constructor
  · rintro ⟨e, old | ⟨rfl, named⟩, rfl⟩
    · have member := (encode_mem_listed (load_extensible h)).mpr old
      exact ⟨fun empty => nil_not_mem_listed w path (empty ▸ member), .inr ⟨e, old, rfl⟩⟩
    · exact ⟨fun empty => named (Utf8.encode_injective empty), .inl rfl⟩
  · rintro ⟨named, rfl | ⟨e, old, rfl⟩⟩
    · refine ⟨entry, .inr ⟨rfl, ?_⟩, rfl⟩
      rintro rfl
      exact named rfl
    · exact ⟨e, .inl old, rfl⟩

theorem countP_added (h : Extensible w path content) {libraries : List Bytes}
    (granted : ∀ result ∈ results w path libraries, result.isOk = true) :
    (results w path libraries).countP added =
      (libraries.toFinset.erase [] \ (listed w path).toFinset).card + libraries.count [] := by
  induction libraries generalizing w content with
  | nil => simp [results]
  | cons library more ih =>
    have now : (ensure w path library).1.isOk = true := granted _ List.mem_cons_self
    have rest := ih (ensure_extensible h library).2.1
      fun result member => granted result (List.mem_cons_of_mem _ member)
    rw [toFinset_listed_ensure h now] at rest
    have nowhere : [] ∉ (listed w path).toFinset := by
      simpa using nil_not_mem_listed w path
    have first := card_first nowhere library more.toFinset
    simp only [results, List.countP_cons, rest, added_ensure h now, List.toFinset_cons,
      List.count_cons, beq_iff_eq, List.mem_toFinset] at first ⊢
    by_cases old : library ∈ listed w path
    · simp only [old, not_true_eq_false, if_true, if_false] at first ⊢
      omega
    · simp only [old, not_false_eq_true, if_true, if_false] at first ⊢
      omega

/-- Where a list cannot be made longer, each request counts that is granted for what is not
listed. -/
theorem countP_added_not_extensible (none : ∀ content, ¬ Extensible w path content)
    {libraries : List Bytes} (granted : ∀ result ∈ results w path libraries, result.isOk = true) :
    (results w path libraries).countP added = libraries.countP (· ∉ listed w path) := by
  induction libraries with
  | nil => rfl
  | cons library more ih =>
    obtain ⟨same, told⟩ := ensure_not_extensible none library
    obtain ⟨result, -⟩ := told (granted _ List.mem_cons_self)
    have rest : ∀ result ∈ results w path more, result.isOk = true := by
      intro result member
      apply granted
      rw [results, same]
      exact List.mem_cons_of_mem _ member
    rw [results, same, List.countP_cons, ih rest, result, List.countP_cons]
    rfl

/-- Where a list cannot be made longer and is no special file, only what is listed is granted. -/
theorem mem_listed_of_granted (none : ∀ content, ¬ Extensible w path content)
    (kept : ¬ w.Discards path) {libraries : List Bytes}
    (granted : ∀ result ∈ results w path libraries, result.isOk = true) :
    ∀ library ∈ libraries, library ∈ listed w path := by
  induction libraries with
  | nil => exact fun library member => absurd member List.not_mem_nil
  | cons library more ih =>
    obtain ⟨same, told⟩ := ensure_not_extensible none library
    rw [results, same] at granted
    obtain ⟨first, rest⟩ := List.forall_mem_cons.mp granted
    exact List.forall_mem_cons.mpr ⟨(told first).2.resolve_right kept, ih rest⟩

/-- To install is idempotent over any sequence of libraries, the empty one apart. A request that
was granted settles its library for good, whatever was asked for before and is asked for later; to
run a sequence again changes nothing; and where all of it is granted, each library that was not
listed is added once. Each request for the empty library adds a line of its own. At a special file
nothing is ever added, and each request for what is not read from it counts as one that changed the
list. -/
theorem ensure_idempotent (w : World) (path : Bytes) :
    (∀ before library later, (ensure (after w path before) path library).1.isOk = true →
      (Settled (after w path (before ++ library :: later)) path library ↔
        library ≠ [] ∧ (w.Discards path → library ∈ listed w path))) ∧
    (∀ libraries, [] ∉ libraries →
      after (after w path libraries) path libraries = after w path libraries) ∧
    (∀ libraries, (∀ result ∈ results w path libraries, result.isOk = true) →
      (¬ w.Discards path → (results w path libraries).countP added =
        (libraries.toFinset.erase [] \ (listed w path).toFinset).card + libraries.count []) ∧
      (w.Discards path →
        (results w path libraries).countP added = libraries.countP (· ∉ listed w path))) := by
  refine ⟨fun before library later granted => settled_iff granted,
    fun libraries proper => after_after proper, fun libraries granted => ⟨fun kept => ?_, ?_⟩⟩
  · by_cases extensible : ∃ content, Extensible w path content
    · obtain ⟨content, start⟩ := extensible
      exact countP_added start granted
    · have none : ∀ content, ¬ Extensible w path content := not_exists.mp extensible
      have all := mem_listed_of_granted none kept granted
      have nothing : libraries.toFinset.erase [] \ (listed w path).toFinset = ∅ := by
        rw [Finset.sdiff_eq_empty_iff_subset]
        intro library member
        have there := List.mem_toFinset.mp (Finset.mem_of_mem_erase member)
        exact List.mem_toFinset.mpr (all library there)
      have named : [] ∉ libraries := fun empty => nil_not_mem_listed w path (all [] empty)
      rw [countP_added_not_extensible none granted, nothing, List.count_eq_zero.mpr named,
        Finset.card_empty, List.countP_eq_zero]
      simpa using all
  · intro discards
    have none : ∀ content, ¬ Extensible w path content :=
      fun content start => start.not_discards discards
    exact countP_added_not_extensible none granted

/-- A world with a preload list of one library, whose line was never ended. -/
def withList : World :=
  { World.bare with
    files := World.bare.files.set (place "/etc/ld.so.preload")
      (.file 0o644 (Bytes.ofString "/lib/other.so")) }

def preload : Bytes := Bytes.ofString "/etc/ld.so.preload"

/-- Two libraries, one of them asked for twice, and the one that is listed. -/
def requests : List Bytes :=
  ["/lib/a.so", "/lib/b.so", "/lib/other.so", "/lib/a.so"].map Bytes.ofString

theorem ensure_idempotent_requests :
    Settled (after withList preload requests) preload (Bytes.ofString "/lib/a.so") ∧
      after (after withList preload requests) preload requests =
        after withList preload requests ∧
      (results withList preload requests).countP added = 2 ∧
      (results World.bare (Bytes.ofString "/dev/null") requests).countP added = 4 := by
  obtain ⟨settles, again, counts⟩ := ensure_idempotent withList preload
  obtain ⟨-, -, countsNowhere⟩ := ensure_idempotent World.bare (Bytes.ofString "/dev/null")
  have kept : ¬ withList.Discards preload := by
    rintro ⟨loc, mode, kind, special⟩
    have file : (withList.status preload).toOption.map (·.2.isFile) = some true := by
      decide +kernel
    rw [special] at file
    cases file
  have null : World.bare.Discards (Bytes.ofString "/dev/null") :=
    ⟨place "/dev/null", 0o666, .null, rfl⟩
  refine ⟨?_, again requests (by decide), ?_, ?_⟩
  · have granted : (ensure withList preload (Bytes.ofString "/lib/a.so")).1.isOk = true := by
      decide +kernel
    exact (settles [] (Bytes.ofString "/lib/a.so") requests.tail granted).mpr
      ⟨by decide, fun discards => absurd discards kept⟩
  · rw [(counts requests (by decide +kernel)).1 kept]
    decide +kernel
  · rw [(countsNowhere requests (by decide +kernel)).2 null]
    decide +kernel

/-- The empty library is granted and never settled: each request ends one more line. -/
theorem ensure_empty_never_settles :
    let path := Bytes.ofString "p"
    (ensure World.bare path []).1.isOk = true ∧
      ¬ Settled (after World.bare path [[]]) path [] ∧
      after (after World.bare path [[]]) path [[]] ≠ after World.bare path [[]] ∧
      (results World.bare path [[], []]).countP added = 2 := by
  have granted : (ensure World.bare (Bytes.ofString "p") []).1.isOk = true := by
    decide +kernel
  have longer : after (after World.bare (Bytes.ofString "p") [[]]) (Bytes.ofString "p") [[]] ≠
      after World.bare (Bytes.ofString "p") [[]] := by
    decide +kernel
  refine ⟨granted, fun settled => ?_, longer, by decide +kernel⟩
  exact nil_not_mem_listed _ _ settled.listed

end PreloadList
end Ancestry
