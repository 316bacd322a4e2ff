/-
The end of a text: what is dropped from it, and what is left.
-/
import EntitlementClient.Text.Blank

namespace EntitlementClient.Text

variable {p : Char → Bool}

@[simp] theorem dropEndWhile_nil : dropEndWhile p [] = [] := rfl

/-- A text is what is left of it and then what has been dropped. -/
theorem exists_dropEndWhile (p : Char → Bool) (s : List Char) :
    ∃ dropped, s = dropEndWhile p s ++ dropped ∧ ∀ c ∈ dropped, p c = true := by
  refine ⟨(s.reverse.takeWhile p).reverse, ?_, ?_⟩
  · rw [dropEndWhile, ← List.reverse_append, List.takeWhile_append_dropWhile, List.reverse_reverse]
  · intro c hc
    exact List.all_eq_true.1 List.all_takeWhile c (List.mem_reverse.1 hc)

/-- What is left does not end with a character that is dropped. -/
theorem getLast?_dropEndWhile {s : List Char} {c : Char} (h : (dropEndWhile p s).getLast? = some c) : p c = false := by
  rw [dropEndWhile, List.getLast?_reverse] at h
  have hd := List.head?_dropWhile_not p s.reverse
  rw [h] at hd
  simpa using hd

theorem dropEndWhile_append_of_all {t : List Char} (h : ∀ c ∈ t, p c = true) (s : List Char) :
    dropEndWhile p (s ++ t) = dropEndWhile p s := by
  rw [dropEndWhile, List.reverse_append, List.dropWhile_append_of_pos fun c hc => h c (List.mem_reverse.1 hc)]
  rfl

/-- Nothing is dropped from a text that does not end with what is dropped. -/
theorem dropEndWhile_eq_self {s : List Char} (h : ∀ c, s.getLast? = some c → p c = false) : dropEndWhile p s = s := by
  rcases hr : s.reverse with _ | ⟨c, t⟩
  · rw [List.reverse_eq_nil_iff.1 hr, dropEndWhile_nil]
  · have last : s.getLast? = some c := by rw [← List.head?_reverse, hr]; rfl
    rw [dropEndWhile, hr, List.dropWhile_cons, h c last, if_neg Bool.false_ne_true, ← hr, List.reverse_reverse]

/-- A text of which nothing ends it that is dropped stays before what is. -/
theorem dropEndWhile_append {s t : List Char} (hs : ∀ c, s.getLast? = some c → p c = false)
    (ht : ∀ c ∈ t, p c = true) : dropEndWhile p (s ++ t) = s := by
  rw [dropEndWhile_append_of_all ht, dropEndWhile_eq_self hs]

/-- Dropping what a filter does not let through changes nothing of what it does. -/
theorem filter_dropEndWhile {q : Char → Bool} (h : ∀ c, p c = true → q c = false) (s : List Char) :
    (dropEndWhile p s).filter q = s.filter q := by
  obtain ⟨dropped, eq, all⟩ := exists_dropEndWhile p s
  have none_through : dropped.filter q = [] := by
    rw [List.filter_eq_nil_iff]
    exact fun c hc => by simp [h c (all c hc)]
  conv => rhs; rw [eq, List.filter_append, none_through, List.append_nil]

end EntitlementClient.Text
