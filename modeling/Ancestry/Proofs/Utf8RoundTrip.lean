import Ancestry.Text.Utf8

/-!
# Encoding and decoding text

Decoding accepts exactly the encodings of texts and gives the text back, so a text is
determined by its bytes. A character below 128 is the byte of its own number, and no
other character contains such a byte: where the ASCII characters of a text stand can be
told from its bytes alone.
-/
namespace Ancestry.Utf8

/-! ## One character -/

/-- A character has no surrogate's value and none past the last one. -/
theorem toNat_valid (c : Char) : c.toNat < 0xD800 ∨ 0xDFFF < c.toNat ∧ c.toNat < 0x110000 :=
  c.valid

theorem isContinuation_iff {b : UInt8} :
    isContinuation b = true ↔ 0x80 ≤ b.toNat ∧ b.toNat < 0xC0 := by
  simp [isContinuation]

theorem toNat_ofNat {n : Nat} (h : n < 256) : (UInt8.ofNat n).toNat = n :=
  UInt8.toNat_ofNat_of_lt' h

theorem front_one {a : Nat} (h : a < 0x80) (rest : Bytes) :
    front (UInt8.ofNat a :: rest) = .char (Char.ofNat a) rest := by
  simp only [front, toNat_ofNat (show a < 256 by omega), h, ↓reduceIte]

theorem isContinuation_ofNat {n : Nat} (h : n < 64) :
    isContinuation (UInt8.ofNat (0x80 + n)) = true := by
  have byte := toNat_ofNat (show 0x80 + n < 256 by omega)
  rw [isContinuation_iff, byte]
  omega

theorem low_ofNat {n : Nat} (h : n < 64) : low (UInt8.ofNat (0x80 + n)) = n := by
  have byte := toNat_ofNat (show 0x80 + n < 256 by omega)
  unfold low
  rw [byte]
  omega

theorem front_two {a b : Nat} (large : 2 ≤ a) (ha : a < 32) (hb : b < 64) (rest : Bytes) :
    front (UInt8.ofNat (0xC0 + a) :: UInt8.ofNat (0x80 + b) :: rest) =
      .char (Char.ofNat (a * 64 + b)) rest := by
  have first := toNat_ofNat (show 0xC0 + a < 256 by omega)
  simp only [front, first, low_ofNat hb, isContinuation_ofNat hb, ↓reduceIte]
  rw [if_neg (by omega), if_neg (by omega), if_pos (by omega), Nat.add_sub_cancel_left]

/-- The second byte keeps out forms that are too long, and surrogates. -/
theorem isSecond_three {a b : Nat} (ha : a < 16) (hb : b < 64)
    (long : 0x800 ≤ a * 4096 + b * 64)
    (noSurrogate : a * 4096 + b * 64 < 0xD800 ∨ 0xDFC0 < a * 4096 + b * 64) :
    isSecond (0xE0 + a) (0x80 + b) = true := by
  unfold isSecond
  repeat' split
  all_goals
    simp only [Bool.and_eq_true, decide_eq_true_eq]
    omega

theorem front_three {a b c : Nat} (ha : a < 16) (hb : b < 64) (hc : c < 64)
    (long : 0x800 ≤ a * 4096 + b * 64)
    (noSurrogate : a * 4096 + b * 64 < 0xD800 ∨ 0xDFC0 < a * 4096 + b * 64) (rest : Bytes) :
    front (UInt8.ofNat (0xE0 + a) :: UInt8.ofNat (0x80 + b) :: UInt8.ofNat (0x80 + c) :: rest) =
      .char (Char.ofNat (a * 4096 + b * 64 + c)) rest := by
  have first := toNat_ofNat (show 0xE0 + a < 256 by omega)
  have second := toNat_ofNat (show 0x80 + b < 256 by omega)
  simp only [front, first, second, low_ofNat hb, low_ofNat hc, isContinuation_ofNat hc,
    isSecond_three ha hb long noSurrogate, ↓reduceIte]
  rw [if_neg (by omega), if_neg (by omega), if_neg (by omega), if_pos (by omega),
    Nat.add_sub_cancel_left]

theorem isSecond_four {a b : Nat} (hb : b < 64) (long : 0x10000 ≤ a * 262144 + b * 4096)
    (last : a * 262144 + b * 4096 < 0x110000) : isSecond (0xF0 + a) (0x80 + b) = true := by
  unfold isSecond
  repeat' split
  all_goals
    simp only [Bool.and_eq_true, decide_eq_true_eq]
    omega

theorem front_four {a b c d : Nat} (hb : b < 64) (hc : c < 64) (hd : d < 64)
    (long : 0x10000 ≤ a * 262144 + b * 4096) (last : a * 262144 + b * 4096 < 0x110000)
    (rest : Bytes) :
    front (UInt8.ofNat (0xF0 + a) :: UInt8.ofNat (0x80 + b) :: UInt8.ofNat (0x80 + c) ::
        UInt8.ofNat (0x80 + d) :: rest) =
      .char (Char.ofNat (a * 262144 + b * 4096 + c * 64 + d)) rest := by
  have first := toNat_ofNat (show 0xF0 + a < 256 by omega)
  have second := toNat_ofNat (show 0x80 + b < 256 by omega)
  simp only [front, first, second, low_ofNat hb, low_ofNat hc, low_ofNat hd,
    isContinuation_ofNat hc, isContinuation_ofNat hd, isSecond_four hb long last, ↓reduceIte]
  rw [if_neg (by omega), if_neg (by omega), if_neg (by omega), if_neg (by omega),
    if_pos (by omega), Nat.add_sub_cancel_left]

/-- The bytes of a character are read as that character, whatever follows them. -/
theorem front_encodeChar (c : Char) (rest : Bytes) :
    front (encodeChar c ++ rest) = .char c rest := by
  have valid := toNat_valid c
  simp only [encodeChar]
  split
  · rename_i small
    rw [List.singleton_append, front_one small, Char.ofNat_toNat]
  · split
    · simp only [List.cons_append, List.nil_append]
      rw [front_two (by omega) (by omega) (by omega), Nat.div_add_mod', Char.ofNat_toNat]
    · split
      · have value : c.toNat / 4096 * 4096 + c.toNat / 64 % 64 * 64 + c.toNat % 64 = c.toNat := by
          omega
        simp only [List.cons_append, List.nil_append]
        rw [front_three (by omega) (by omega) (by omega) (by omega) (by omega), value,
          Char.ofNat_toNat]
      · have value : c.toNat / 262144 * 262144 + c.toNat / 4096 % 64 * 4096 +
            c.toNat / 64 % 64 * 64 + c.toNat % 64 = c.toNat := by
          omega
        simp only [List.cons_append, List.nil_append]
        rw [front_four (by omega) (by omega) (by omega) (by omega) (by omega), value,
          Char.ofNat_toNat]

theorem toNat_char {n : Nat} (valid : n < 0xD800 ∨ 0xDFFF < n ∧ n < 0x110000) :
    (Char.ofNat n).toNat = n := by
  rw [Char.ofNat, dif_pos valid]
  rfl

theorem ofNat_eq {b : UInt8} {n : Nat} (h : b.toNat = n) : UInt8.ofNat n = b := by
  rw [← h, UInt8.ofNat_toNat]

section Bytes
variable {v : Nat} {a b c d : UInt8}

theorem encodeChar_one (ha : a.toNat < 0x80) : encodeChar (Char.ofNat a.toNat) = [a] := by
  unfold encodeChar
  rw [toNat_char (by omega)]
  simp only [ha, ↓reduceIte, UInt8.ofNat_toNat]

theorem encodeChar_two (long : 0x80 ≤ v) (short : v < 0x800) (ha : a.toNat = 0xC0 + v / 64)
    (hb : b.toNat = 0x80 + v % 64) : encodeChar (Char.ofNat v) = [a, b] := by
  unfold encodeChar
  rw [toNat_char (by omega)]
  dsimp only
  rw [if_neg (by omega), if_pos short, ofNat_eq ha, ofNat_eq hb]

theorem encodeChar_three (long : 0x800 ≤ v) (short : v < 0x10000)
    (valid : v < 0xD800 ∨ 0xDFFF < v) (ha : a.toNat = 0xE0 + v / 4096)
    (hb : b.toNat = 0x80 + v / 64 % 64) (hc : c.toNat = 0x80 + v % 64) :
    encodeChar (Char.ofNat v) = [a, b, c] := by
  unfold encodeChar
  rw [toNat_char (by omega)]
  dsimp only
  rw [if_neg (by omega), if_neg (by omega), if_pos short, ofNat_eq ha, ofNat_eq hb, ofNat_eq hc]

theorem encodeChar_four (long : 0x10000 ≤ v) (short : v < 0x110000)
    (ha : a.toNat = 0xF0 + v / 262144) (hb : b.toNat = 0x80 + v / 4096 % 64)
    (hc : c.toNat = 0x80 + v / 64 % 64) (hd : d.toNat = 0x80 + v % 64) :
    encodeChar (Char.ofNat v) = [a, b, c, d] := by
  unfold encodeChar
  rw [toNat_char (by omega)]
  dsimp only
  rw [if_neg (by omega), if_neg (by omega), if_neg (by omega), ofNat_eq ha, ofNat_eq hb,
    ofNat_eq hc, ofNat_eq hd]

end Bytes

theorem isSecond_bounds {a b : Nat} (h : isSecond a b = true) :
    0x80 ≤ b ∧ b < 0xC0 ∧ (a = 0xE0 → 0xA0 ≤ b) ∧ (a = 0xED → b < 0xA0) ∧
      (a = 0xF0 → 0x90 ≤ b) ∧ (a = 0xF4 → b < 0x90) := by
  unfold isSecond at h
  repeat' split at h
  all_goals
    simp only [Bool.and_eq_true, decide_eq_true_eq] at h
    omega

section Front
variable {a : UInt8} {bs rest : Bytes} {c : Char}

theorem eq_encodeChar_of_front_two (lead : 0xC2 ≤ a.toNat) (short : a.toNat < 0xE0)
    (h : front (a :: bs) = .char c rest) : a :: bs = encodeChar c ++ rest := by
  simp only [front] at h
  rw [if_neg (by omega), if_neg (by omega), if_pos short] at h
  rcases bs with _ | ⟨b, bs⟩
  · exact nomatch h
  dsimp only at h
  split at h
  · rename_i continues
    have hb := isContinuation_iff.mp continues
    obtain ⟨char, tail⟩ := Front.char.inj h
    unfold low at char
    rw [← char, ← tail, encodeChar_two (a := a) (b := b) (by omega) (by omega) (by omega)
      (by omega)]
    rfl
  · exact nomatch h

theorem eq_encodeChar_of_front_three (lead : 0xE0 ≤ a.toNat) (short : a.toNat < 0xF0)
    (h : front (a :: bs) = .char c rest) : a :: bs = encodeChar c ++ rest := by
  simp only [front] at h
  rw [if_neg (by omega), if_neg (by omega), if_neg (by omega), if_pos short] at h
  rcases bs with _ | ⟨b, bs⟩
  · exact nomatch h
  dsimp only at h
  split at h
  · rename_i second
    rcases bs with _ | ⟨d, bs⟩
    · exact nomatch h
    dsimp only at h
    split at h
    · rename_i continues
      have hb := isSecond_bounds second
      have hd := isContinuation_iff.mp continues
      obtain ⟨char, tail⟩ := Front.char.inj h
      unfold low at char
      rw [← char, ← tail, encodeChar_three (a := a) (b := b) (c := d) (by omega) (by omega)
        (by omega) (by omega) (by omega) (by omega)]
      rfl
    · exact nomatch h
  · exact nomatch h

theorem eq_encodeChar_of_front_four (lead : 0xF0 ≤ a.toNat)
    (h : front (a :: bs) = .char c rest) : a :: bs = encodeChar c ++ rest := by
  simp only [front] at h
  rw [if_neg (by omega), if_neg (by omega), if_neg (by omega), if_neg (by omega)] at h
  split at h
  · rcases bs with _ | ⟨b, bs⟩
    · exact nomatch h
    dsimp only at h
    split at h
    · rename_i second
      rcases bs with _ | ⟨d, bs⟩
      · exact nomatch h
      dsimp only at h
      split at h
      · rename_i continues
        rcases bs with _ | ⟨e, bs⟩
        · exact nomatch h
        dsimp only at h
        split at h
        · rename_i last
          have hb := isSecond_bounds second
          have hd := isContinuation_iff.mp continues
          have he := isContinuation_iff.mp last
          obtain ⟨char, tail⟩ := Front.char.inj h
          unfold low at char
          rw [← char, ← tail, encodeChar_four (a := a) (b := b) (c := d) (d := e) (by omega)
            (by omega) (by omega) (by omega) (by omega) (by omega)]
          rfl
        · exact nomatch h
      · exact nomatch h
    · exact nomatch h
  · exact nomatch h

/-- A character that is read was written in just the bytes it is read from. -/
theorem eq_encodeChar_of_front (h : front bs = .char c rest) : bs = encodeChar c ++ rest := by
  rcases bs with _ | ⟨a, bs⟩
  · exact nomatch h
  by_cases ascii : a.toNat < 0x80
  · simp only [front, ascii, ↓reduceIte] at h
    obtain ⟨char, tail⟩ := Front.char.inj h
    rw [← char, ← tail, encodeChar_one ascii, List.singleton_append]
  by_cases stray : a.toNat < 0xC2
  · simp only [front, ascii, stray, ↓reduceIte] at h
    exact nomatch h
  by_cases two : a.toNat < 0xE0
  · exact eq_encodeChar_of_front_two (by omega) two h
  by_cases three : a.toNat < 0xF0
  · exact eq_encodeChar_of_front_three (by omega) three h
  · exact eq_encodeChar_of_front_four (by omega) h

end Front

theorem eq_nil_of_front {bs : Bytes} (h : front bs = .empty) : bs = [] := by
  rcases bs with _ | ⟨a, bs⟩
  · rfl
  · exfalso
    simp only [front] at h
    repeat' split at h
    all_goals exact nomatch h

/-! ## Whole texts -/

theorem decodeFrom_of_front {index : Nat} {done : List Char} {bs rest : Bytes} {c : Char}
    (read : front bs = .char c rest) :
    decodeFrom index done bs = decodeFrom (index + c.utf8Size) (c :: done) rest := by
  rw [decodeFrom]
  split <;> simp_all

theorem decodeFrom_encode (index : Nat) (done cs : List Char) :
    decodeFrom index done (encode cs) = .ok (done.reverse ++ cs) := by
  induction cs generalizing index done with
  | nil =>
    rw [encode_nil, decodeFrom]
    simp only [front, List.append_nil]
  | cons c cs ih =>
    rw [encode_cons, decodeFrom_of_front (front_encodeChar c _), ih, List.reverse_cons,
      List.append_assoc, List.singleton_append]

theorem eq_encode_of_decodeFrom {index : Nat} {done cs : List Char} {bs : Bytes}
    (h : decodeFrom index done bs = .ok cs) :
    ∃ more, cs = done.reverse ++ more ∧ bs = encode more := by
  fun_induction decodeFrom index done bs with
  | case1 index done bs empty =>
    obtain rfl := Except.ok.inj h
    exact ⟨[], by simp, eq_nil_of_front empty⟩
  | case2 index done bs c rest read ih =>
    obtain ⟨more, rfl, rfl⟩ := ih h
    refine ⟨c :: more, by simp, ?_⟩
    rw [eq_encodeChar_of_front read, encode_cons]
  | case3 => exact nomatch h
  | case4 => exact nomatch h

/-- Bytes are read as a text just if they are its encoding. -/
theorem decode_eq_ok_iff {bs : Bytes} {cs : List Char} : decode bs = .ok cs ↔ bs = encode cs := by
  constructor
  · intro h
    obtain ⟨more, rfl, rfl⟩ := eq_encode_of_decodeFrom h
    rfl
  · rintro rfl
    exact decodeFrom_encode 0 [] cs

@[simp] theorem decode_encode (cs : List Char) : decode (encode cs) = .ok cs :=
  decode_eq_ok_iff.mpr rfl

theorem encode_injective {a b : List Char} (h : encode a = encode b) : a = b := by
  have read := decode_encode a
  rw [h, decode_encode] at read
  exact (Except.ok.inj read).symm

/-! ## Bytes of ASCII characters -/

theorem encodeChar_of_ascii {c : Char} (h : c.toNat < 0x80) :
    encodeChar c = [UInt8.ofNat c.toNat] := by
  simp only [encodeChar, h, ↓reduceIte]

/-- A byte below 128 stands for no other character. -/
theorem ascii_mem_encodeChar {c : Char} {b : UInt8} (h : b ∈ encodeChar c)
    (ascii : b.toNat < 0x80) :
    c.toNat = b.toNat := by
  have valid := toNat_valid c
  unfold encodeChar at h
  dsimp only at h
  split at h
  · rw [List.mem_singleton] at h
    rw [h, toNat_ofNat (by omega)]
  · exfalso
    split at h
    · simp only [List.mem_cons, List.not_mem_nil, or_false] at h
      rcases h with rfl | rfl <;> rw [toNat_ofNat (by omega)] at ascii <;> omega
    · split at h
      · simp only [List.mem_cons, List.not_mem_nil, or_false] at h
        rcases h with rfl | rfl | rfl <;> rw [toNat_ofNat (by omega)] at ascii <;> omega
      · simp only [List.mem_cons, List.not_mem_nil, or_false] at h
        rcases h with rfl | rfl | rfl | rfl <;> rw [toNat_ofNat (by omega)] at ascii <;> omega

theorem text?_ofString (s : String) : text? (Bytes.ofString s) = some s := by
  rw [text?, Bytes.ofString, decode_encode]
  exact congrArg some (String.ofList_toList ..)

end Ancestry.Utf8
