/-
A value of the grammar is passed over to the place where it ends: what is not wanted is skipped as
far as it would have been read.
-/
import EntitlementClient.Proofs.Json.Grammar
import EntitlementClient.Proofs.Json.Numeral
import EntitlementClient.Proofs.Json.Token
import EntitlementClient.Proofs.Result

namespace EntitlementClient.Json

/-! ## Blanks -/

theorem skipSpace_eq_self {c : Char} (h : isSpace c = false) (s : List Char) : skipSpace (c :: s) = c :: s :=
  List.dropWhile_cons_of_neg (by simp [h])

/-- The first character after the blanks is no blank. -/
theorem isSpace_of_skipSpace_eq_cons {s rest : List Char} {c : Char} (h : skipSpace s = c :: rest) :
    isSpace c = false := by
  have := List.head?_dropWhile_not isSpace s
  rw [show s.dropWhile isSpace = c :: rest from h] at this
  simpa using this

@[simp] theorem skipSpace_skipSpace (s : List Char) : skipSpace (skipSpace s) = skipSpace s := by
  cases h : skipSpace s with
  | nil => rfl
  | cons c rest => exact skipSpace_eq_self (isSpace_of_skipSpace_eq_cons h) rest

/-! ## Scalars -/

/-- A scalar that is read is passed over to the same place. -/
theorem skipScalar_of_readScalar {s rest : List Char} {value : Scalar} (h : readScalar s = .ok (value, rest)) :
    skipScalar s = .ok rest := by
  cases s with
  | nil => cases h
  | cons c s =>
    have literal {letters : List Char} {x : Scalar}
        (h : (readLiteral letters s).map (fun rest => (x, rest)) = .ok (value, rest)) :
        readLiteral letters s = .ok rest := by
      obtain ⟨after, read, pair⟩ := exists_of_map_eq_ok h
      cases pair
      exact read
    simp only [readScalar] at h
    simp only [skipScalar]
    split at h
    · next eq => rw [if_pos eq]; exact literal h
    next ne =>
    rw [if_neg ne]
    split at h
    · next eq => rw [if_pos eq]; exact literal h
    next ne =>
    rw [if_neg ne]
    split at h
    · next eq => rw [if_pos eq]; exact literal h
    next ne =>
    rw [if_neg ne]
    split at h
    · next digit =>
      obtain ⟨⟨n, after⟩, read, pair⟩ := exists_of_map_eq_ok h
      cases pair
      rw [if_pos digit, skipNumber_of_readNumber read]
    next ne =>
    rw [if_neg ne]
    split at h
    · next quote =>
      obtain ⟨⟨chars, after⟩, read, pair⟩ := exists_of_map_eq_ok h
      cases pair
      rw [if_pos quote, skipString_of_readString read]
    · cases h

/-! ## Places inside a bracket -/

theorem nextItem_close {first : Bool} {s rest : List Char} (h : nextItem first s = .ok (.close rest)) :
    skipSpace s = ']' :: rest := by
  unfold nextItem at h
  grind

theorem nextItem_first {s at_ : List Char} (h : nextItem true s = .ok (.item at_)) :
    skipSpace s = at_ ∧ ∃ c rest, at_ = c :: rest ∧ c ≠ ']' := by
  unfold nextItem at h
  grind

theorem nextItem_next {s at_ : List Char} (h : nextItem false s = .ok (.item at_)) :
    ∃ rest, skipSpace s = ',' :: rest ∧ skipSpace rest = at_ := by
  unfold nextItem at h
  grind

theorem nextMember_close {first : Bool} {s rest : List Char} (h : nextMember first s = .ok (.close rest)) :
    skipSpace s = '}' :: rest := by
  unfold nextMember at h
  grind

theorem nextMember_first {s at_ : List Char} (h : nextMember true s = .ok (.item at_)) :
    skipSpace s = '"' :: at_ := by
  unfold nextMember at h
  grind

theorem nextMember_next {s at_ : List Char} (h : nextMember false s = .ok (.item at_)) :
    ∃ rest, skipSpace s = ',' :: rest ∧ skipSpace rest = '"' :: at_ := by
  unfold nextMember at h
  grind

/-! ## Values -/

theorem skipValue_skipSpace (outer : List Bracket) (s : List Char) :
    skipValue outer (skipSpace s) = skipValue outer s := by
  rw [skipValue, skipValue, skipSpace_skipSpace]

theorem skipValue_of_readScalar {outer : List Bracket} {s rest : List Char} {value : Scalar}
    (h : readScalar (skipSpace s) = .ok (value, rest)) : skipValue outer s = skipAfter outer rest := by
  have opens := opening?_of_readScalar h
  have skipped := skipScalar_of_readScalar h
  rw [skipValue]
  split
  · next eq => rw [eq] at h; cases h
  · next c after eq =>
    rw [eq] at opens skipped
    simp only [opening?] at opens
    split at opens
    · cases opens
    next notSquare =>
    split at opens
    · cases opens
    next notCurly =>
    rw [if_neg notSquare, if_neg notCurly]
    split <;> simp_all

theorem skipValue_start {outer : List Bracket} {s inside : List Char} (bracket : Bracket)
    (h : skipSpace s = bracket.start :: inside) : skipValue outer s = skipFirst bracket outer inside := by
  rw [skipValue]
  split
  · next eq => rw [h] at eq; cases eq
  · next eq =>
    rw [h] at eq
    cases eq
    cases bracket
    · exact if_pos rfl
    · rw [if_neg (by decide)]
      exact if_pos rfl

theorem skipFirst_close {bracket : Bracket} {outer : List Bracket} {s rest : List Char}
    (h : skipSpace s = bracket.close :: rest) : skipFirst bracket outer s = skipAfter outer rest := by
  rw [skipFirst]
  split
  · next eq => rw [h] at eq; cases eq
  · next eq =>
    rw [h] at eq
    cases eq
    exact if_pos rfl

theorem skipFirst_item {bracket : Bracket} {outer : List Bracket} {s rest : List Char} {c : Char}
    (h : skipSpace s = c :: rest) (ne : c ≠ bracket.close) :
    skipFirst bracket outer s = skipItem bracket outer (c :: rest) := by
  rw [skipFirst]
  split
  · next eq => rw [h] at eq; cases eq
  · next eq =>
    rw [h] at eq
    cases eq
    exact if_neg ne

theorem skipAfter_close {bracket : Bracket} {outer : List Bracket} {s rest : List Char}
    (h : skipSpace s = bracket.close :: rest) : skipAfter (bracket :: outer) s = skipAfter outer rest := by
  rw [skipAfter]
  split
  · next eq => rw [h] at eq; cases eq
  · next eq =>
    rw [h] at eq
    cases eq
    rw [if_neg (by cases bracket <;> decide)]
    exact if_pos rfl

theorem skipAfter_comma {bracket : Bracket} {outer : List Bracket} {s rest : List Char}
    (h : skipSpace s = ',' :: rest) : skipAfter (bracket :: outer) s = skipItem bracket outer rest := by
  rw [skipAfter]
  split
  · next eq => rw [h] at eq; cases eq
  · next eq =>
    rw [h] at eq
    cases eq
    exact if_pos rfl

theorem skipItem_square (outer : List Bracket) (s : List Char) :
    skipItem .square outer s = skipValue (.square :: outer) s := by
  rw [skipItem]

theorem skipItem_curly {outer : List Bracket} {s at_ chars afterName start : List Char}
    (quote : skipSpace s = '"' :: at_) (name : readString at_ = .ok (chars, afterName))
    (colon : readColon afterName = .ok start) : skipItem .curly outer s = skipValue (.curly :: outer) start := by
  have skipped : skipName s = .ok start := by
    unfold skipName
    rw [quote]
    simp only [if_true, skipString_of_readString name, Except.bind, colon]
  rw [skipItem]
  split <;> simp_all

mutual

/-- Passing over a value of the grammar leads to what follows it. -/
theorem Reads.skipped {s rest : List Char} {json : Json} (h : Reads s json rest) (outer : List Bracket) :
    skipValue outer s = skipAfter outer rest := by
  match h with
  | .scalar _ read => exact skipValue_of_readScalar read
  | .array opens inner => rw [skipValue_start .square opens, inner.skipped_first outer]
  | .object opens inner => rw [skipValue_start .curly opens, inner.skipped_first outer]

theorem ReadsItems.skipped_first {s rest : List Char} {items : List Json} (h : ReadsItems true s items rest)
    (outer : List Bracket) : skipFirst .square outer s = skipAfter outer rest := by
  match h with
  | .close next => exact skipFirst_close (nextItem_close next)
  | .item next value tail =>
    obtain ⟨eq, c, after, rfl, ne⟩ := nextItem_first next
    have ne : c ≠ Bracket.square.close := ne
    rw [skipFirst_item eq ne, skipItem_square, value.skipped, tail.skipped_next]

theorem ReadsItems.skipped_next {s rest : List Char} {items : List Json} (h : ReadsItems false s items rest)
    (outer : List Bracket) : skipAfter (.square :: outer) s = skipAfter outer rest := by
  match h with
  | .close next => exact skipAfter_close (nextItem_close next)
  | .item next value tail =>
    obtain ⟨after, comma, rfl⟩ := nextItem_next next
    rw [skipAfter_comma comma, skipItem_square, ← skipValue_skipSpace, value.skipped, tail.skipped_next]

theorem ReadsMembers.skipped_first {s rest : List Char} {members : List (String × Json)}
    (h : ReadsMembers true s members rest) (outer : List Bracket) :
    skipFirst .curly outer s = skipAfter outer rest := by
  match h with
  | .close next => exact skipFirst_close (nextMember_close next)
  | .member next name colon value tail =>
    have quote := nextMember_first next
    rw [skipFirst_item quote (by decide), skipItem_curly (skipSpace_eq_self (by decide) _) name colon, value.skipped,
      tail.skipped_next]

theorem ReadsMembers.skipped_next {s rest : List Char} {members : List (String × Json)}
    (h : ReadsMembers false s members rest) (outer : List Bracket) :
    skipAfter (.curly :: outer) s = skipAfter outer rest := by
  match h with
  | .close next => exact skipAfter_close (nextMember_close next)
  | .member next name colon value tail =>
    obtain ⟨after, comma, quote⟩ := nextMember_next next
    rw [skipAfter_comma comma, skipItem_curly quote name colon, value.skipped, tail.skipped_next]

end

/-- A value of the grammar is passed over to its end. -/
theorem Reads.skip {s rest : List Char} {json : Json} (h : Reads s json rest) : skip s = .ok rest := by
  rw [Json.skip, h.skipped, skipAfter]

end EntitlementClient.Json
