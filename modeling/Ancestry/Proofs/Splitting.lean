import Ancestry.Text.Blank

/-!
# What splitting and trimming mean

Splitting and trimming are computed from the left. Here each is matched with a
description that says nothing about how it is done: the pieces of a text are the lists
without the separator that it joins to the text, and a trimmed text is the one part of it
that has nothing to drop at its ends and only such elements around it. Both descriptions
fit exactly one result.
-/
namespace Ancestry.Text

variable {α : Type}

/-- The pieces of a text between the occurrences of a separator. -/
structure Separated (sep : α) (fields : List (List α)) (text : List α) : Prop where
  nonempty : fields ≠ []
  clean : ∀ f ∈ fields, sep ∉ f
  joined : [sep].intercalate fields = text

/-- No element at either end satisfies `p`. -/
structure Tight (p : α → Bool) (cs : List α) : Prop where
  front : ∀ c ∈ cs.head?, p c = false
  back : ∀ c ∈ cs.getLast?, p c = false

/-- A text without what satisfies `p` at its ends. -/
structure Trimmed (p : α → Bool) (cs trimmed : List α) : Prop where
  tight : Tight p trimmed
  around : ∃ u v, cs = u ++ trimmed ++ v ∧ (∀ c ∈ u, p c) ∧ ∀ c ∈ v, p c

/-! ## Pieces -/

theorem pieces_eq_splitOnP (p : α → Bool) (cs : List α) : pieces p cs = cs.splitOnP p := by
  induction cs with
  | nil => rfl
  | cons c cs ih =>
    rw [pieces_cons, List.splitOnP_cons_eq_if_modifyHead, ih]
    obtain ⟨first, rest, pieces⟩ := List.exists_cons_of_ne_nil (List.splitOnP_ne_nil p cs)
    rw [pieces]
    rfl

theorem pieces_append_cons (p : α → Bool) (xs ys : List α) {sep : α} (h : p sep = true) :
    pieces p (xs ++ sep :: ys) = pieces p xs ++ pieces p ys := by
  simp only [pieces_eq_splitOnP, List.splitOnP_append_cons xs ys h]

theorem pieces_of_forall_not {p : α → Bool} {cs : List α} (h : ∀ c ∈ cs, p c = false) :
    pieces p cs = [cs] := by
  rw [pieces_eq_splitOnP, List.splitOnP_eq_singleton h]

theorem not_of_mem_pieces {p : α → Bool} {cs f : List α} (h : f ∈ pieces p cs) :
    ∀ c ∈ f, p c = false := by
  induction cs generalizing f with
  | nil =>
    rw [pieces_nil, List.mem_singleton] at h
    subst h
    simp
  | cons d cs ih =>
    rw [pieces_cons] at h
    split at h
    · rcases List.mem_cons.mp h with rfl | h
      · simp
      · exact ih h
    · rename_i keep
      obtain ⟨first, rest, cut⟩ := List.exists_cons_of_ne_nil (pieces_ne_nil p cs)
      rw [cut] at h ih
      intro c member
      rcases List.mem_cons.mp h with rfl | h
      · rcases List.mem_cons.mp member with rfl | member
        · simpa using keep
        · exact ih List.mem_cons_self c member
      · exact ih (List.mem_cons_of_mem first h) c member

theorem mem_intercalate {sep c : α} {fields : List (List α)} (h : c ∈ [sep].intercalate fields) :
    c = sep ∨ ∃ f ∈ fields, c ∈ f := by
  induction fields with
  | nil => cases h
  | cons f fields ih =>
    cases fields with
    | nil => exact .inr ⟨f, List.mem_cons_self, by simpa using h⟩
    | cons g fields =>
      rw [List.intercalate_cons_cons, List.append_assoc, List.mem_append, List.mem_append,
        List.mem_singleton] at h
      rcases h with h | h | h
      · exact .inr ⟨f, List.mem_cons_self, h⟩
      · exact .inl h
      · rcases ih h with h | ⟨e, member, h⟩
        · exact .inl h
        · exact .inr ⟨e, List.mem_cons_of_mem f member, h⟩

/-- Every piece but the first has a separator before it. -/
theorem intercalate_cons (sep x : List α) (xs : List (List α)) :
    sep.intercalate (x :: xs) = x ++ xs.flatMap (sep ++ ·) := by
  induction xs generalizing x with
  | nil => simp
  | cons y ys ih =>
    rw [List.intercalate_cons_cons, ih y, List.flatMap_cons, List.append_assoc, List.append_assoc]

/-- A text can be cut at the first separator in one way. -/
theorem cut_unique {sep : α} {front other back rest : List α} (clean : sep ∉ front)
    (cleanToo : sep ∉ other) (same : front ++ sep :: back = other ++ sep :: rest) :
    front = other ∧ back = rest := by
  induction front generalizing other with
  | nil =>
    cases other with
    | nil => exact ⟨rfl, (List.cons.inj same).2⟩
    | cons d other => exact absurd (by rw [(List.cons.inj same).1]; simp) cleanToo
  | cons c front ih =>
    cases other with
    | nil => exact absurd (by rw [(List.cons.inj same).1]; simp) clean
    | cons d other =>
      obtain ⟨rfl, behind⟩ := List.cons.inj same
      obtain ⟨rfl, rfl⟩ := ih (fun member => clean (List.mem_cons_of_mem _ member))
        (fun member => cleanToo (List.mem_cons_of_mem _ member)) behind
      exact ⟨rfl, rfl⟩

section Separator
variable [DecidableEq α]

theorem pieces_eq_splitOn (sep : α) (cs : List α) : pieces (· = sep) cs = cs.splitOn sep := by
  rw [pieces_eq_splitOnP, List.splitOn_eq_splitOnP]
  rfl

theorem pieces_of_not_mem {sep : α} {cs : List α} (absent : sep ∉ cs) :
    pieces (· = sep) cs = [cs] := by
  apply pieces_of_forall_not
  intro c member
  rw [decide_eq_false_iff_not]
  rintro rfl
  exact absent member

theorem separated_pieces (sep : α) (cs : List α) : Separated sep (pieces (· = sep) cs) cs where
  nonempty := pieces_ne_nil _ cs
  clean f member sepMember := by
    have apart := not_of_mem_pieces member sep sepMember
    simp at apart
  joined := by rw [pieces_eq_splitOn, List.intercalate_splitOn]

theorem separated_iff {sep : α} {fields : List (List α)} {cs : List α} :
    Separated sep fields cs ↔ pieces (· = sep) cs = fields := by
  constructor
  · rintro ⟨nonempty, clean, rfl⟩
    rw [pieces_eq_splitOn, List.splitOn_intercalate sep clean nonempty]
  · rintro rfl
    exact separated_pieces sep cs

end Separator

/-! ## Trimming -/

theorem dropWhile_of_front {p : α → Bool} {cs : List α} (h : ∀ c ∈ cs.head?, p c = false) :
    cs.dropWhile p = cs := by
  cases cs with
  | nil => rfl
  | cons c cs => exact List.dropWhile_cons_of_neg (by simp [h c rfl])

theorem front_dropWhile (p : α → Bool) (cs : List α) :
    ∀ c ∈ (cs.dropWhile p).head?, p c = false := by
  induction cs with
  | nil => simp
  | cons c cs ih =>
    rw [List.dropWhile_cons]
    split
    · exact ih
    · simp_all

theorem Tight.reverse {p : α → Bool} {cs : List α} (h : Tight p cs) : Tight p cs.reverse :=
  ⟨by rw [List.head?_reverse]; exact h.back, by rw [List.getLast?_reverse]; exact h.front⟩

/-- What stands around a tight text is dropped and nothing else. -/
theorem strip_around {p : α → Bool} {t u v : List α} (tight : Tight p t) (before : ∀ c ∈ u, p c)
    (behind : ∀ c ∈ v, p c) : strip p (u ++ t ++ v) = t := by
  have drops {t u : List α} (tight : Tight p t) (before : ∀ c ∈ u, p c) (nonempty : t ≠ [])
      (v : List α) : (u ++ (t ++ v)).dropWhile p = t ++ v := by
    rw [List.dropWhile_append_of_pos before]
    obtain ⟨c, t, rfl⟩ := List.exists_cons_of_ne_nil nonempty
    exact dropWhile_of_front tight.front
  unfold strip
  by_cases empty : t = []
  · subst empty
    rw [List.append_nil, List.dropWhile_append_of_pos before]
    have all : (v ++ []).dropWhile p = [] := List.dropWhile_append_of_pos behind
    rw [List.append_nil] at all
    rw [all]
    rfl
  · have reversed : ∀ c ∈ v.reverse, p c := fun c member => behind c (List.mem_reverse.mp member)
    rw [List.append_assoc, drops tight before empty v, List.reverse_append,
      ← List.append_nil t.reverse, drops tight.reverse reversed (by simpa using empty) [],
      List.append_nil, List.reverse_reverse]

theorem strip_of_tight {p : α → Bool} {cs : List α} (tight : Tight p cs) : strip p cs = cs := by
  simpa using strip_around (u := []) (v := []) tight (by simp) (by simp)

/-- What is left of a text after its front was trimmed begins with its trimmed part. -/
theorem strip_append_takeWhile (p : α → Bool) (cs : List α) :
    strip p cs ++ ((cs.dropWhile p).reverse.takeWhile p).reverse = cs.dropWhile p := by
  rw [strip, ← List.reverse_append, List.takeWhile_append_dropWhile, List.reverse_reverse]

theorem tight_strip (p : α → Bool) (cs : List α) : Tight p (strip p cs) where
  front c member := by
    apply front_dropWhile p cs c
    rw [← strip_append_takeWhile, List.head?_append]
    simp_all
  back := by
    rw [strip, List.getLast?_reverse]
    exact front_dropWhile p _

theorem trimmed_strip (p : α → Bool) (cs : List α) : Trimmed p cs (strip p cs) where
  tight := tight_strip p cs
  around := by
    refine ⟨cs.takeWhile p, ((cs.dropWhile p).reverse.takeWhile p).reverse, ?_, ?_, ?_⟩
    · rw [List.append_assoc, strip_append_takeWhile, List.takeWhile_append_dropWhile]
    · exact fun c member => List.all_eq_true.mp List.all_takeWhile c member
    · intro c member
      exact List.all_eq_true.mp List.all_takeWhile c (List.mem_reverse.mp member)

theorem trimmed_iff {p : α → Bool} {cs t : List α} : Trimmed p cs t ↔ strip p cs = t := by
  constructor
  · rintro ⟨tight, u, v, rfl, before, behind⟩
    exact strip_around tight before behind
  · rintro rfl
    exact trimmed_strip p cs

end Ancestry.Text
