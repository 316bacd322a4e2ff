/-
The first place of a mark in a text: what stands before it and after it, and that neither is moved
by what is added at the end of the text.
-/
import EntitlementClient.Text.Lines

namespace EntitlementClient.Text

/-! ## Marks of several characters -/

theorem cutAt?_cons_cases {mark : List Char} {c : Char} {s before after : List Char}
    (h : cutAt? mark (c :: s) = some (before, after)) :
    (mark.isPrefixOf (c :: s) = true ∧ before = [] ∧ after = (c :: s).drop mark.length) ∨
      (¬mark.isPrefixOf (c :: s) = true ∧ ∃ b, before = c :: b ∧ cutAt? mark s = some (b, after)) := by
  rw [cutAt?] at h
  split at h
  · next found =>
    cases h
    exact .inl ⟨found, rfl, rfl⟩
  · next missing =>
    obtain ⟨⟨b, a⟩, later, eq⟩ := Option.map_eq_some_iff.1 h
    cases eq
    exact .inr ⟨missing, b, rfl, later⟩

theorem cutAt?_nil_eq_some {mark before after : List Char} (h : cutAt? mark [] = some (before, after)) :
    mark = [] ∧ before = [] ∧ after = [] := by
  rw [cutAt?] at h
  split at h
  · next empty =>
    cases h
    exact ⟨List.isEmpty_iff.1 empty, rfl, rfl⟩
  · cases h

/-- A cut text is what stands before the mark, the mark and what stands after it. -/
theorem cutAt?_eq_some {mark : List Char} : ∀ {s before after : List Char},
    cutAt? mark s = some (before, after) → s = before ++ mark ++ after
  | [], before, after, h => by
    obtain ⟨rfl, rfl, rfl⟩ := cutAt?_nil_eq_some h
    rfl
  | c :: s, before, after, h => by
    obtain ⟨found, rfl, rfl⟩ | ⟨-, b, rfl, later⟩ := cutAt?_cons_cases h
    · obtain ⟨t, eq⟩ := List.isPrefixOf_iff_prefix.1 found
      rw [← eq, List.drop_left, List.nil_append]
    · rw [cutAt?_eq_some later]
      rfl

/-- What is added at the end of a text that is long enough for a mark does not complete one at its start. -/
theorem isPrefixOf_append {mark s : List Char} (long : mark.length ≤ s.length) (t : List Char) :
    mark.isPrefixOf (s ++ t) = mark.isPrefixOf s := by
  rw [Bool.eq_iff_iff, List.isPrefixOf_iff_prefix, List.isPrefixOf_iff_prefix]
  constructor
  · intro h
    exact List.prefix_of_prefix_length_le h (List.prefix_append s t) long
  · intro h
    exact h.trans (List.prefix_append s t)

/-- What is added at the end of a text with a mark comes after the first mark. -/
theorem cutAt?_append {mark : List Char} (t : List Char) : ∀ {s before after : List Char},
    cutAt? mark s = some (before, after) → cutAt? mark (s ++ t) = some (before, after ++ t)
  | [], before, after, h => by
    obtain ⟨rfl, rfl, rfl⟩ := cutAt?_nil_eq_some h
    cases t <;> simp [cutAt?]
  | c :: s, before, after, h => by
    have long : mark.length ≤ (c :: s).length := by
      rw [cutAt?_eq_some h]
      simp only [List.length_append]
      omega
    rw [List.cons_append, cutAt?, ← List.cons_append, isPrefixOf_append long]
    obtain ⟨found, rfl, rfl⟩ | ⟨missing, b, rfl, later⟩ := cutAt?_cons_cases h
    · rw [if_pos found, List.drop_append_of_le_length long]
    · rw [if_neg missing, cutAt?_append t later]
      rfl

/-! ## Marks of one character -/

/-- The text before the first place where a character stands, and the text after that place if there
is one. -/
def splitFirst (mark : Char) (s : List Char) : List Char × Option (List Char) :=
  (s.takeWhile (· != mark), (s.dropWhile (· != mark)).tail?)

@[simp] theorem splitFirst_nil (mark : Char) : splitFirst mark [] = ([], none) := rfl

@[simp] theorem splitFirst_cons_self (mark : Char) (s : List Char) : splitFirst mark (mark :: s) = ([], some s) := by
  simp [splitFirst]

/-- A text is what stands before the first mark, and then the mark and what stands after it. -/
theorem eq_splitFirst_append (mark : Char) (s : List Char) :
    s = (splitFirst mark s).1 ++ (splitFirst mark s).2.elim [] (mark :: ·) := by
  induction s with
  | nil => rfl
  | cons c s ih =>
    by_cases h : c = mark
    · subst h
      rw [splitFirst_cons_self]
      rfl
    · have later : splitFirst mark (c :: s) = (c :: (splitFirst mark s).1, (splitFirst mark s).2) := by
        simp [splitFirst, h]
      rw [later, List.cons_append, ← ih]

/-- What holds no mark is passed over. -/
theorem splitFirst_append {mark : Char} {s : List Char} (h : ∀ c ∈ s, c ≠ mark) (t : List Char) :
    splitFirst mark (s ++ t) = (s ++ (splitFirst mark t).1, (splitFirst mark t).2) := by
  have hs : ∀ c ∈ s, (c != mark) = true := fun c hc => by simpa using h c hc
  unfold splitFirst
  rw [List.takeWhile_append_of_pos hs, List.dropWhile_append_of_pos hs]

theorem splitFirst_of_none {mark : Char} {s : List Char} (h : ∀ c ∈ s, c ≠ mark) : splitFirst mark s = (s, none) := by
  simpa using splitFirst_append h []

end EntitlementClient.Text
