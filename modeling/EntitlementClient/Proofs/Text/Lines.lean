/-
Pieces of a text between separators: pieces that hold no separator are found again when they have
been put together with one between them, before each of them or after each of them.
-/
import EntitlementClient.Text.Lines

namespace EntitlementClient.Text

variable {p : Char → Bool}

/-- A text without separators is one piece. -/
theorem splitWhere_of_none : ∀ {s : List Char}, (∀ c ∈ s, p c = false) → splitWhere p s = [s]
  | [], _ => rfl
  | c :: s, h => by
    have hs : splitWhere p s = [s] := splitWhere_of_none fun d hd => h d (List.mem_cons_of_mem c hd)
    rw [splitWhere, h c List.mem_cons_self, hs]
    rfl

/-- The first piece ends at the first separator. -/
theorem splitWhere_append_cons {sep : Char} (hsep : p sep = true) (t : List Char) : ∀ {s : List Char},
    (∀ c ∈ s, p c = false) → splitWhere p (s ++ sep :: t) = s :: splitWhere p t
  | [], _ => by
    rw [List.nil_append, splitWhere, if_pos hsep]
  | c :: s, h => by
    have hs : splitWhere p (s ++ sep :: t) = s :: splitWhere p t :=
      splitWhere_append_cons hsep t fun d hd => h d (List.mem_cons_of_mem c hd)
    rw [List.cons_append, splitWhere, h c List.mem_cons_self, hs]
    rfl

/-! ## Pieces put together -/

/-- What holds of the separator and within the pieces holds of what they make together. -/
theorem forall_mem_intercalate {P : Char → Prop} {sep : Char} (hsep : P sep) : ∀ {pieces : List (List Char)},
    (∀ s ∈ pieces, ∀ c ∈ s, P c) → ∀ c ∈ List.intercalate [sep] pieces, P c
  | [], _, c, hc => by cases hc
  | [s], h, c, hc => by
    rw [List.intercalate_singleton] at hc
    exact h s List.mem_cons_self c hc
  | s :: t :: pieces, h, c, hc => by
    rw [List.intercalate_cons_cons, List.append_assoc, List.singleton_append, List.mem_append, List.mem_cons] at hc
    rcases hc with hc | rfl | hc
    · exact h s List.mem_cons_self c hc
    · exact hsep
    · exact forall_mem_intercalate hsep (fun u hu => h u (List.mem_cons_of_mem s hu)) c hc

/-- With separators between the pieces. -/
theorem splitWhere_intercalate {sep : Char} (hsep : p sep = true) : ∀ {pieces : List (List Char)}, pieces ≠ [] →
    (∀ s ∈ pieces, ∀ c ∈ s, p c = false) → splitWhere p (List.intercalate [sep] pieces) = pieces
  | [], h, _ => absurd rfl h
  | [s], _, h => by
    rw [List.intercalate_singleton]
    exact splitWhere_of_none (h s List.mem_cons_self)
  | s :: t :: pieces, _, h => by
    rw [List.intercalate_cons_cons, List.append_assoc, List.singleton_append,
      splitWhere_append_cons hsep _ (h s List.mem_cons_self),
      splitWhere_intercalate hsep (List.cons_ne_nil t pieces) fun u hu => h u (List.mem_cons_of_mem s hu)]

/-- With separators before all pieces but the first, which may be empty. -/
theorem splitWhere_append_flatMap {α : Type} {f : α → List Char} {sep : Char} (hsep : p sep = true) :
    ∀ {s : List Char} {xs : List α}, (∀ c ∈ s, p c = false) → (∀ x ∈ xs, ∀ c ∈ f x, p c = false) →
      splitWhere p (s ++ xs.flatMap fun x => sep :: f x) = s :: xs.map f
  | s, [], hs, _ => by
    rw [List.flatMap_nil, List.append_nil, splitWhere_of_none hs, List.map_nil]
  | s, x :: xs, hs, h => by
    rw [List.flatMap_cons, List.cons_append, splitWhere_append_cons hsep _ hs,
      splitWhere_append_flatMap hsep (h x List.mem_cons_self) fun y hy => h y (List.mem_cons_of_mem x hy),
      List.map_cons]

/-- With separators after all pieces, after the last of which there is an empty piece. -/
theorem splitWhere_flatMap_after {α : Type} {f : α → List Char} {sep : Char} (hsep : p sep = true) :
    ∀ {xs : List α}, (∀ x ∈ xs, ∀ c ∈ f x, p c = false) →
      splitWhere p (xs.flatMap fun x => f x ++ [sep]) = xs.map f ++ [[]]
  | [], _ => rfl
  | x :: xs, h => by
    rw [List.flatMap_cons, List.append_assoc, List.singleton_append,
      splitWhere_append_cons hsep _ (h x List.mem_cons_self),
      splitWhere_flatMap_after hsep fun y hy => h y (List.mem_cons_of_mem x hy), List.map_cons, List.cons_append]

/-! ## Pieces of any text -/

/-- There is always a piece. -/
theorem exists_splitWhere (p : Char → Bool) : ∀ s : List Char, ∃ piece pieces, splitWhere p s = piece :: pieces
  | [] => ⟨[], [], rfl⟩
  | c :: s => by
    obtain ⟨piece, pieces, hs⟩ := exists_splitWhere p s
    rw [splitWhere, hs]
    split
    · exact ⟨[], piece :: pieces, rfl⟩
    · exact ⟨c :: piece, pieces, rfl⟩

/-- The pieces hold no separator. -/
theorem mem_splitWhere_of_none : ∀ {s : List Char}, ∀ piece ∈ splitWhere p s, ∀ c ∈ piece, p c = false
  | [], piece, hp, c, hc => by
    rw [splitWhere, List.mem_singleton] at hp
    subst hp
    cases hc
  | d :: s, piece, hp, c, hc => by
    have ih : ∀ piece ∈ splitWhere p s, ∀ c ∈ piece, p c = false := mem_splitWhere_of_none
    obtain ⟨first, pieces, hs⟩ := exists_splitWhere p s
    rw [splitWhere] at hp
    split at hp
    · rcases List.mem_cons.1 hp with rfl | hp
      · cases hc
      · exact ih piece hp c hc
    · rename_i hd
      rw [hs] at hp ih
      rcases List.mem_cons.1 hp with rfl | hp
      · rcases List.mem_cons.1 hc with rfl | hc
        · simpa using hd
        · exact ih first List.mem_cons_self c hc
      · exact ih piece (List.mem_cons_of_mem first hp) c hc

/-- The pieces together are the text without the separators. -/
theorem flatten_splitWhere : ∀ s : List Char, (splitWhere p s).flatten = s.filter fun c => !p c
  | [] => rfl
  | c :: s => by
    have ih : (splitWhere p s).flatten = s.filter fun c => !p c := flatten_splitWhere s
    obtain ⟨piece, pieces, hs⟩ := exists_splitWhere p s
    rw [splitWhere, List.filter_cons, ← ih]
    by_cases hc : p c = true
    · rw [if_pos hc, hc]
      rfl
    · rw [if_neg hc, hs, if_pos (by simpa using hc)]
      rfl

/-- The first piece ends before the first separator. -/
theorem splitWhere_eq_takeWhile_cons : ∀ s : List Char,
    ∃ pieces, splitWhere p s = s.takeWhile (fun c => !p c) :: pieces
  | [] => ⟨[], rfl⟩
  | c :: s => by
    obtain ⟨pieces, hs⟩ : ∃ pieces, splitWhere p s = s.takeWhile (fun c => !p c) :: pieces :=
      splitWhere_eq_takeWhile_cons s
    rw [splitWhere, List.takeWhile_cons]
    by_cases hc : p c = true
    · exact ⟨splitWhere p s, by rw [if_pos hc, hc]; rfl⟩
    · exact ⟨pieces, by rw [if_neg hc, hs, if_pos (by simpa using hc)]⟩

/-- If nothing but separators comes after the first one, nothing comes after the first piece. -/
theorem splitWhere_of_separators_last : ∀ {s : List Char}, (∀ c ∈ s.dropWhile fun c => !p c, p c = true) →
    ∀ piece ∈ (splitWhere p s).tail, piece = []
  | [], _, piece, hp => by cases hp
  | c :: s, h, piece, hp => by
    rw [splitWhere] at hp
    rw [List.dropWhile_cons] at h
    by_cases hc : p c = true
    · rw [if_pos hc, List.tail_cons] at hp
      rw [hc, if_neg (by simp)] at h
      refine List.eq_nil_iff_forall_not_mem.2 fun d hd => ?_
      have within : d ∈ s := by
        have there : d ∈ (splitWhere p s).flatten := List.mem_flatten.2 ⟨piece, hp, hd⟩
        rw [flatten_splitWhere] at there
        exact (List.mem_filter.1 there).1
      have none_within := mem_splitWhere_of_none piece hp d hd
      rw [h d (List.mem_cons_of_mem c within)] at none_within
      cases none_within
    · obtain ⟨first, pieces, hs⟩ := exists_splitWhere p s
      rw [if_neg hc, hs, List.tail_cons] at hp
      rw [if_pos (by simpa using hc)] at h
      exact splitWhere_of_separators_last h piece (by rw [hs]; exact hp)

/-- A separator stands between the pieces of what is before it and those of what is after it. -/
theorem splitWhere_append_separator {sep : Char} (hsep : p sep = true) (t : List Char) : ∀ s : List Char,
    splitWhere p (s ++ sep :: t) = splitWhere p s ++ splitWhere p t
  | [] => by simp [splitWhere, hsep]
  | c :: s => by
    have ih := splitWhere_append_separator hsep t s
    obtain ⟨piece, pieces, hs⟩ := exists_splitWhere p s
    rw [List.cons_append, splitWhere, splitWhere, ih]
    by_cases hc : p c = true
    · rw [if_pos hc, if_pos hc, List.cons_append]
    · rw [if_neg hc, if_neg hc, hs]
      rfl

/-- To split at two kinds of separators is to split at the one and then, in every piece, at the other. -/
theorem splitWhere_or {q : Char → Bool} : ∀ s : List Char,
    splitWhere (fun c => p c || q c) s = (splitWhere p s).flatMap (splitWhere q)
  | [] => rfl
  | c :: s => by
    have ih : splitWhere (fun c => p c || q c) s = (splitWhere p s).flatMap (splitWhere q) := splitWhere_or s
    obtain ⟨piece, pieces, hs⟩ := exists_splitWhere p s
    obtain ⟨first, firsts, hq⟩ := exists_splitWhere q piece
    rw [splitWhere, splitWhere, ih]
    by_cases hp : p c = true
    · rw [if_pos hp, hp, Bool.true_or, if_pos rfl, List.flatMap_cons]
      rfl
    · rw [if_neg hp, hs, List.flatMap_cons, List.flatMap_cons, hq, splitWhere, hq]
      by_cases hc : q c = true
      · simp [hc]
      · simp [hp, hc]

/-- Pieces with the separator before each of them make up the text again. -/
theorem flatMap_splitWhere (sep : Char) : ∀ s : List Char,
    ((splitWhere (· == sep) s).flatMap fun piece => sep :: piece) = sep :: s
  | [] => rfl
  | c :: s => by
    have ih := flatMap_splitWhere sep s
    obtain ⟨piece, pieces, hs⟩ := exists_splitWhere (· == sep) s
    rw [splitWhere]
    split
    · rename_i hc
      rw [List.flatMap_cons, ih, beq_iff_eq.1 hc]
      rfl
    · rw [hs, List.flatMap_cons, List.cons_append, List.cons.injEq] at ih
      simp only [hs, List.flatMap_cons, List.cons_append, ih.2]

end EntitlementClient.Text
