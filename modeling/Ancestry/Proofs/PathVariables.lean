import Ancestry.Proofs.Numeral
import Ancestry.Proofs.Precedence
import Ancestry.Proofs.ReplayCommand

/-!
# Paths in variables

A path in a variable goes through the reading of values like everything else there. What reads as
a truth value or a number is written out again where a path is asked for, so it may come out
spelled in another way. A path with a slash in it never does, nor does one with any other character
that stands in no number; of the others, those that change are the truth words with capitals in
them, the integers with a sign or zeros that could be left out, and the numbers that are not
written in their shortest form.
-/
namespace Ancestry.Settings

/-! ## How a path comes out -/

/-- What a path in a variable comes out as. -/
def pathUsed (v : String) : String :=
  let lower := Text.lowerCase v
  if lower ∈ ["true", "false"] then lower
  else
    match Decimal.readInt64 10 v.toList with
    | some n => toString n
    | none =>
      match Binary64.read v.toList with
      | some x => x.text
      | none => v

/-- A text that comes out as it is. -/
structure Kept (v : String) : Prop where
  words : Text.lowerCase v ∈ ["true", "false"] → Text.lowerCase v = v
  integers : ∀ n, Decimal.readInt64 10 v.toList = some n → Decimal.Canonical v.toList
  numbers : Decimal.readInt64 10 v.toList = none →
    ∀ x, Binary64.read v.toList = some x → x.text = v

theorem toText_ofVariable {b : Backend} (converts : b.Converts) (v : String) :
    b.toText (b.ofVariable v) = .ok (pathUsed v) := by
  unfold pathUsed
  dsimp only
  by_cases word : Text.lowerCase v ∈ ["true", "false"]
  · have truth : ∃ truth : Bool, Text.lowerCase v = toString truth := by
      rcases List.mem_pair.mp word with yes | no
      · exact ⟨true, yes⟩
      · exact ⟨false, no⟩
    obtain ⟨truth, same⟩ := truth
    obtain ⟨origin, value⟩ := converts.word truth same
    rw [if_pos word, value, converts.bool_text, same]
  · rw [if_neg word]
    cases integer : Decimal.readInt64 10 v.toList with
    | some n =>
      obtain ⟨origin, value⟩ := converts.integer word integer
      rw [value, converts.integer_text]
    | none =>
      cases number : Binary64.read v.toList with
      | some x =>
        obtain ⟨origin, value⟩ := converts.number word integer number
        rw [value, converts.number_text]
      | none =>
        obtain ⟨origin, value⟩ := converts.text word integer number
        rw [value, converts.text_text]

theorem toString_eq_digits (n : Int) : toString n = String.ofList (Decimal.digits n) := by
  unfold Decimal.digits
  cases n with
  | ofNat n => rfl
  | negSucc n =>
    rw [if_pos (Int.negSucc_lt_zero n)]
    change "-" ++ String.ofList (Nat.toDigits 10 (n + 1)) = _
    rw [← String.toList_inj, String.toList_append]
    simp

theorem numeral_of_readInt64 {cs : List Char} {n : Int}
    (read : Decimal.readInt64 10 cs = some n) : Decimal.Numeral cs n := by
  rw [Decimal.readInt64, Decimal.readBetween] at read
  split at read
  case h_1 v signed =>
    split at read
    · cases read
      exact Decimal.readSigned_eq_some.mp signed
    · cases read
  case h_2 => cases read

theorem pathUsed_eq_iff (v : String) : pathUsed v = v ↔ Kept v := by
  unfold pathUsed
  dsimp only
  by_cases word : Text.lowerCase v ∈ ["true", "false"]
  · rw [if_pos word]
    refine ⟨fun same => ?_, fun kept => kept.words word⟩
    rw [same] at word
    have noNumber : ∀ w ∈ ["true", "false"],
        Decimal.readInt64 10 w.toList = none ∧ Binary64.read w.toList = none := by decide +kernel
    obtain ⟨noInteger, noReal⟩ := noNumber v word
    refine ⟨fun _ => same, fun n read => ?_, fun _ x read => ?_⟩
    · cases noInteger.symm.trans read
    · cases noReal.symm.trans read
  · rw [if_neg word]
    cases integer : Decimal.readInt64 10 v.toList with
    | some n =>
      have written : toString n = v ↔ v.toList = Decimal.digits n := by
        rw [toString_eq_digits, ← String.toList_inj, String.toList_ofList, eq_comm]
      dsimp only
      rw [written, Decimal.eq_digits_iff_canonical (numeral_of_readInt64 integer)]
      refine ⟨fun canonical => ⟨fun w => absurd w word, fun _ _ => canonical, fun none => ?_⟩,
        fun kept => kept.integers n integer⟩
      cases integer.symm.trans none
    | none =>
      cases number : Binary64.read v.toList with
      | some x =>
        refine ⟨fun same => ⟨fun w => absurd w word, fun n read => ?_, fun _ y read => ?_⟩,
          fun kept => kept.numbers integer x number⟩
        · cases integer.symm.trans read
        · cases number.symm.trans read
          exact same
      | none =>
        refine ⟨fun _ => ⟨fun w => absurd w word, fun n read => ?_, fun _ x read => ?_⟩,
          fun _ => rfl⟩
        · cases integer.symm.trans read
        · cases number.symm.trans read

instance : DecidablePred Kept := fun v => decidable_of_iff _ (pathUsed_eq_iff v)

example : pathUsed "12.50" = "12.5" ∧ ¬ Kept "12.50" ∧ Kept "lib-12.50.so" := by decide +kernel

/-! ## Characters that stand in no number -/

/-- A character that may stand in a number, or in a word for one. -/
def isNumberChar (c : Char) : Bool := c.isAlphanum || c = '+' || c = '-' || c = '.'

theorem isNumberChar_of_isAlphanum {c : Char} (alphanum : c.isAlphanum = true) :
    isNumberChar c = true := by
  simp [isNumberChar, alphanum]

theorem isNumberChar_of_isDigit {c : Char} (digit : c.isDigit = true) : isNumberChar c = true :=
  isNumberChar_of_isAlphanum (Bool.or_eq_true_iff.mpr (.inr digit))

theorem isAlphanum_of_capital {c : Char} (low : 65 ≤ c.toNat) (high : c.toNat ≤ 90) :
    c.isAlphanum = true := by
  have capital : c.isUpper = true := decide_eq_true ⟨low, high⟩
  have letter : c.isAlpha = true := Bool.or_eq_true_iff.mpr (.inl capital)
  exact Bool.or_eq_true_iff.mpr (.inl letter)

theorem isNumberChar_of_readDigits {cs : List Char} {n : Nat}
    (read : Decimal.readDigits 10 cs = some n) : ∀ c ∈ cs, isNumberChar c = true :=
  fun c member => isNumberChar_of_isDigit ((Decimal.readDigits_eq_some.mp read).2.1 c member)

theorem isNumberChar_of_readInt64 {cs : List Char} {n : Int}
    (read : Decimal.readInt64 10 cs = some n) : ∀ c ∈ cs, isNumberChar c = true := by
  obtain ⟨sign, -, digits⟩ := numeral_of_readInt64 read
  intro c member
  rcases List.mem_append.mp member with front | digit
  · cases sign with
    | bare => cases front
    | plus | minus =>
      cases List.mem_singleton.mp front
      rfl
  · exact isNumberChar_of_isDigit (digits c digit)

/-- A sign in front is taken off, and nothing else. -/
theorem isNumberChar_of_takeSign {cs : List Char}
    (rest : ∀ c ∈ (Binary64.takeSign cs).2, isNumberChar c = true) :
    ∀ c ∈ cs, isNumberChar c = true := by
  unfold Binary64.takeSign at rest
  split at rest
  · exact List.forall_mem_cons.mpr ⟨rfl, rest⟩
  · exact List.forall_mem_cons.mpr ⟨rfl, rest⟩
  · exact rest

theorem isNumberChar_of_readExponent {cs : List Char} {e : Int}
    (read : Binary64.readExponent cs = some e) : ∀ c ∈ cs, isNumberChar c = true := by
  cases cs with
  | nil =>
    intro c none
    cases none
  | cons mark rest =>
    rw [Binary64.readExponent] at read
    split at read
    case isTrue letter =>
      obtain ⟨n, number, -⟩ := Option.map_eq_some_iff.mp read
      obtain ⟨m, digits, -⟩ := Option.bind_eq_some_iff.mp number
      refine List.forall_mem_cons.mpr
        ⟨?_, isNumberChar_of_takeSign (isNumberChar_of_readDigits digits)⟩
      rw [Bool.or_eq_true, decide_eq_true_eq, decide_eq_true_eq] at letter
      rcases letter with rfl | rfl <;> rfl
    case isFalse => cases read

/-- A word in either case has letters only. -/
theorem isNumberChar_of_lower {cs : List Char} {word : String}
    (letters : word.toList.all Char.isAlphanum = true)
    (same : String.ofList (cs.map Char.toLower) = word) : ∀ c ∈ cs, isNumberChar c = true := by
  intro c member
  apply isNumberChar_of_isAlphanum
  have lowered : c.toLower ∈ word.toList := by
    rw [← same, String.toList_ofList]
    exact List.mem_map_of_mem member
  have letter := List.all_eq_true.mp letters _ lowered
  unfold Char.toLower at letter
  split at letter
  case isTrue upper => exact isAlphanum_of_capital upper.1 upper.2
  case isFalse => exact letter

theorem isNumberChar_of_digits (cs : List Char) :
    ∀ c ∈ cs.takeWhile Char.isDigit, isNumberChar c = true :=
  fun c member => isNumberChar_of_isDigit (List.all_eq_true.mp List.all_takeWhile c member)

/-- What stands behind the digits before a point: perhaps a point with digits, and perhaps an
exponent. -/
theorem isNumberChar_of_readUnsigned {negative : Bool} {cs : List Char} {x : Binary64}
    (read : Binary64.readUnsigned negative cs = some x) : ∀ c ∈ cs, isNumberChar c = true := by
  unfold Binary64.readUnsigned at read
  dsimp only at read
  split at read
  case isTrue word =>
    rw [Bool.or_eq_true, decide_eq_true_eq, decide_eq_true_eq] at word
    rcases word with short | long
    · exact isNumberChar_of_lower (by decide) short
    · exact isNumberChar_of_lower (by decide) long
  case isFalse =>
    split at read
    case isTrue word => exact isNumberChar_of_lower (by decide) word
    case isFalse =>
      have behind : ∀ c ∈ cs.dropWhile Char.isDigit, isNumberChar c = true := by
        split at read
        case h_1 _ more point =>
          split at read
          · cases read
          · obtain ⟨e, exponent, -⟩ := Option.map_eq_some_iff.mp read
            rw [point, ← List.takeWhile_append_dropWhile (p := Char.isDigit) (l := more)]
            exact List.forall_mem_cons.mpr ⟨rfl, List.forall_mem_append.mpr
              ⟨isNumberChar_of_digits more, isNumberChar_of_readExponent exponent⟩⟩
        case h_2 =>
          split at read
          · cases read
          · obtain ⟨e, exponent, -⟩ := Option.map_eq_some_iff.mp read
            exact isNumberChar_of_readExponent exponent
      rw [← List.takeWhile_append_dropWhile (p := Char.isDigit) (l := cs)]
      exact List.forall_mem_append.mpr ⟨isNumberChar_of_digits cs, behind⟩

theorem isNumberChar_of_read {cs : List Char} {x : Binary64}
    (read : Binary64.read cs = some x) : ∀ c ∈ cs, isNumberChar c = true :=
  isNumberChar_of_takeSign (isNumberChar_of_readUnsigned read)

/-! ## Truth words -/

/-- Each character of a text has its share in the text in lower case. -/
theorem exists_share {c : Char} {cs : List Char} (member : c ∈ cs) (before : List Char) :
    ∃ d ∈ Text.lowerAfter before cs, d ∈ Text.lowerChar c ∨ d ∈ ['\u03C2', '\u03C3'] := by
  induction cs generalizing before with
  | nil => cases member
  | cons first rest ih =>
    rw [Text.lowerAfter]
    rcases List.mem_cons.mp member with rfl | later
    · split
      case isTrue =>
        refine ⟨_, List.mem_append_left _ List.mem_cons_self, .inr ?_⟩
        split <;> decide
      case isFalse =>
        have some : ∃ d, d ∈ Text.lowerChar c := by
          unfold Text.lowerChar
          split
          · exact ⟨_, List.mem_cons_self⟩
          · split <;> exact ⟨_, List.mem_cons_self⟩
        obtain ⟨d, lowered⟩ := some
        exact ⟨d, List.mem_append_left _ lowered, .inl lowered⟩
    · obtain ⟨d, there, share⟩ := ih later (first :: before)
      exact ⟨d, List.mem_append_right _ there, share⟩

theorem toNat_ofNat_eq (n : Nat) : (Char.ofNat n).toNat = n ∨ (Char.ofNat n).toNat = 0 := by
  by_cases valid : n.isValidChar
  · have made : Char.ofNat n = Char.ofNatAux n valid := dif_pos valid
    exact .inl (congrArg Char.toNat made)
  · have made : Char.ofNat n = '\x00' := dif_neg valid
    exact .inr (congrArg Char.toNat made)

/-- The letters of the truth words are the lower case of letters of ASCII only. Of all others, the
Kelvin sign alone becomes one of ASCII, and there is no such letter in the words. -/
theorem isAlphanum_of_lowerChar {c d : Char} (lowered : d ∈ Text.lowerChar c)
    (letter : d ∈ "truefals".toList) : c.isAlphanum = true := by
  have letters : "truefals".toList.all fun e => e.isAlphanum = true ∧ e.toNat < 128 ∧
      e.toNat ≠ 0 ∧ e ≠ 'i' ∧ e ≠ '\u0307' ∧ e ≠ 'k' := by decide
  obtain ⟨alphanum, ascii, notNull, notI, notDot, notK⟩ :=
    of_decide_eq_true (List.all_eq_true.mp letters d letter)
  have runs : ∀ run ∈ Text.lowerCaseRuns, run = ⟨0x41, 0x5A, 1, 0x20⟩ ∨
      128 ≤ (run.first + run.distance : Int) ∨ run = ⟨0x212A, 0x212A, 1, -8383⟩ := by
    decide +kernel
  unfold Text.lowerChar at lowered
  split at lowered
  case isTrue =>
    rcases List.mem_cons.mp lowered with rfl | second
    · exact absurd rfl notI
    · exact absurd (List.mem_singleton.mp second) notDot
  case isFalse =>
    split at lowered
    case h_1 run found =>
      have covers := List.find?_some found
      simp only [Text.CaseRun.covers, Bool.and_eq_true, decide_eq_true_eq] at covers
      obtain ⟨⟨low, high⟩, -⟩ := covers
      have code := toNat_ofNat_eq (c.toNat + run.distance).toNat
      obtain rfl := List.mem_singleton.mp lowered
      rcases runs run (List.mem_of_find?_eq_some found) with rfl | far | rfl
      · exact isAlphanum_of_capital low high
      · omega
      · have kelvin : c.toNat = 0x212A := Nat.le_antisymm high low
        rw [kelvin] at notK
        exact absurd rfl notK
    case h_2 =>
      obtain rfl := List.mem_singleton.mp lowered
      exact alphanum

theorem isAlphanum_of_truthWord {v : String} (word : Text.lowerCase v ∈ ["true", "false"]) :
    ∀ c ∈ v.toList, c.isAlphanum = true := by
  intro c member
  obtain ⟨d, inside, share⟩ := exists_share member []
  have letters : ∀ w ∈ ["true", "false"], w.toList ⊆ "truefals".toList := by decide
  have letter : d ∈ "truefals".toList := by
    refine letters _ word ?_
    rwa [Text.lowerCase, String.toList_ofList]
  rcases share with lowered | sigma
  · exact isAlphanum_of_lowerChar lowered letter
  · rcases List.mem_pair.mp sigma with rfl | rfl
    · exact absurd letter (by decide)
    · exact absurd letter (by decide)

/-- A path with a character in it that stands in no number comes out as it is. -/
theorem kept_of_mark {v : String} {c : Char} (member : c ∈ v.toList)
    (mark : isNumberChar c = false) : Kept v where
  words := by
    intro word
    rw [isNumberChar_of_isAlphanum (isAlphanum_of_truthWord word c member)] at mark
    cases mark
  integers := by
    intro n read
    rw [isNumberChar_of_readInt64 read c member] at mark
    cases mark
  numbers := by
    intro _ x read
    rw [isNumberChar_of_read read c member] at mark
    cases mark

/-! ## Loading -/

theorem ofString_inj {a b : String} : Bytes.ofString a = Bytes.ofString b ↔ a = b :=
  ⟨fun same => String.toList_inj.mp (Utf8.encode_injective same), congrArg _⟩

theorem decided_path {b : Backend} (converts : b.Converts) {s : Sources} {f : Field}
    (path : f = .library ∨ f = .preloadFile) {v : String}
    (given : s.given f = some (Bytes.ofString v)) :
    s.decided b f = .ok (.path (Bytes.ofString (pathUsed v))) := by
  have winner : s.winner b f = .ok (some (b.ofVariable v)) := by
    rw [Sources.winner, given]
    change (Sources.said b (Bytes.ofString v)).map some = _
    rw [Sources.said, Utf8.text?_ofString]
    rfl
  have read : requiredPath b f.name (some (b.ofVariable v)) =
      .ok (Bytes.ofString (pathUsed v)) := by
    rw [requiredPath, toText_ofVariable converts]
    rfl
  rw [Sources.decided, winner]
  rcases path with rfl | rfl
  · exact map_eq_ok_iff.mpr ⟨_, read, rfl⟩
  · exact map_eq_ok_iff.mpr ⟨_, read, rfl⟩

theorem world_install (w : World) (settings : PreloadSettings) (library : Option Bytes) :
    (CommandLine.install w settings library).world =
      (PreloadList.ensure w settings.preloadFile (library.getD settings.library)).2.1 := by
  rw [CommandLine.install]
  generalize PreloadList.ensure w settings.preloadFile (library.getD settings.library) = asked
  obtain ⟨result, v, records⟩ := asked
  cases result <;> rfl

open CommandLine in
/-- A path in a variable never keeps the settings from being loaded, and leaves the others alone.
It is the path that was given exactly if that is kept in reading values, which it is with any
character in it that stands in no number, such as a slash. The command that installs takes what
came out. -/
theorem path_of_variable {b : Backend} (lawful : b.Lawful) (converts : b.Converts) {s : Sources}
    {w : World} {file : Option Bytes} (of : s.Of b w file) (orderly : s.Orderly) {f : Field}
    (path : f = .library ∨ f = .preloadFile) {v : String}
    (given : s.given f = some (Bytes.ofString v))
    (others : ∀ g, g ≠ f → ∃ value, s.decided b g = .ok value) :
    ∃ settings records, load b w s.environment file = .ok (settings, records) ∧
      f.of settings = .path (Bytes.ofString (pathUsed v)) ∧
      (∀ g, g ≠ f → s.decided b g = .ok (g.of settings)) ∧
      (f.of settings = .path (Bytes.ofString v) ↔ Kept v) ∧
      ((∃ c ∈ v.toList, isNumberChar c = false) → f.of settings = .path (Bytes.ofString v)) ∧
      ∀ (tools : Tools) (around : Surroundings) (visits : List Visit) (i : Invocation),
        tools.settings = b → around.world = w → around.environment = s.environment →
        i.config = file → i.command = .install none →
        (perform tools around visits i).world =
          (PreloadList.ensure w settings.preload.preloadFile settings.preload.library).2.1 := by
  have decided := decided_path converts path given
  have decides (g : Field) : ∃ value, s.decided b g = .ok value := by
    by_cases here : g = f
    · exact ⟨_, here ▸ decided⟩
    · exact others g here
  obtain ⟨⟨settings, records⟩, loaded⟩ :=
    (Sources.exists_load_iff lawful of orderly).mpr decides
  have all := (Sources.load_eq_ok_iff lawful of orderly settings).mp ⟨records, loaded⟩
  have value : f.of settings = .path (Bytes.ofString (pathUsed v)) :=
    Except.ok.inj ((all f).symm.trans decided)
  have same : f.of settings = .path (Bytes.ofString v) ↔ Kept v := by
    rw [value, Setting.path.injEq, ofString_inj, pathUsed_eq_iff]
  refine ⟨settings, records, loaded, value, fun g _ => all g, same, ?_, ?_⟩
  · rintro ⟨c, member, mark⟩
    exact same.mpr (kept_of_mark member mark)
  · intro tools around visits i backend world environment config command
    subst backend world config
    rw [← environment] at loaded
    obtain ⟨after, -, -⟩ := perform_of_load visits i loaded
    rw [after, command]
    exact world_install ..

/-- The library is the one that the environment names, which has slashes in it. -/
theorem path_of_variable_toldSources :
    Backend.standard.Lawful ∧ Backend.standard.Converts ∧
      toldSources.Of .standard toldWorld none ∧ toldSources.Orderly ∧
      ∃ settings records,
        load .standard toldWorld toldSources.environment none = .ok (settings, records) ∧
        settings.preload.library = Bytes.ofString "/lib/a.so" := by
  have given : toldSources.given .library = some (Bytes.ofString "/lib/a.so") := by decide +kernel
  have others : ∀ g, g ≠ Field.library → ∃ value, toldSources.decided .standard g = .ok value :=
    fun g _ => ⟨_, toldSources_decided g⟩
  obtain ⟨settings, records, loaded, -, -, -, whole, -⟩ :=
    path_of_variable Backend.standard_lawful Backend.standard_converts toldSources_of
      toldSources_orderly (.inl rfl) given others
  have kept := whole ⟨'/', by decide, by decide⟩
  exact ⟨Backend.standard_lawful, Backend.standard_converts, toldSources_of, toldSources_orderly,
    settings, records, loaded, Setting.path.inj kept⟩

/-- A library whose name is a number loses its zeros: not it but another is loaded and listed. -/
theorem leading_zeros_lost :
    let environment := [("PIDTRACK_PRELOAD__LIBRARY", Bytes.ofString "007")]
    (∃ settings records, load .standard World.bare environment none = .ok (settings, records) ∧
      settings.preload.library = Bytes.ofString "7" ∧
      settings.preload.library ≠ Bytes.ofString "007") ∧
    ((CommandLine.perform .standard
      ⟨World.bare, environment, fun _ => false, fun _ => "", 101⟩ []
      ⟨false, none, .install none⟩).world.readText
        (Bytes.ofString defaultPreloadFile)).toOption = some "7\n".toList := by
  intro environment
  have library : (load .standard World.bare environment none).toOption.map (·.1.preload.library) =
      some (Bytes.ofString "7") := by decide +kernel
  refine ⟨?_, by decide +kernel⟩
  cases loaded : load .standard World.bare environment none with
  | error => rw [loaded] at library; cases library
  | ok result =>
    rw [loaded] at library
    have seven : result.1.preload.library = Bytes.ofString "7" := Option.some.inj library
    exact ⟨result.1, result.2, rfl, seven, by rw [seven]; decide +kernel⟩

end Ancestry.Settings
