/-
Integers are read back from their digits when no further part of a numeral follows them; and a
number that is read is passed over to the same place.
-/
import EntitlementClient.Json.Skip

namespace EntitlementClient.Json

/-! ## Digits -/

theorem digitsValue_eq_ofDigitChars (digits : List Char) : digitsValue digits = Nat.ofDigitChars 10 digits 0 := by
  simp only [digitsValue, digitValue, Nat.ofDigitChars_eq_foldl, Nat.mul_comm]
  rfl

@[simp] theorem digitsValue_toDigits (n : Nat) : digitsValue (Nat.toDigits 10 n) = n := by
  rw [digitsValue_eq_ofDigitChars, Nat.ofDigitChars_ten_toDigits]

/-- The digits of a positive number begin with no zero. -/
theorem exists_toDigits_eq_cons {n : Nat} (h : 0 < n) : ∃ c digits, Nat.toDigits 10 n = c :: digits ∧ c ≠ '0' := by
  induction n using Nat.strongRecOn with
  | ind n ih =>
    rcases Nat.lt_or_ge n 10 with small | large
    · refine ⟨n.digitChar, [], Nat.toDigits_of_lt_base small, ?_⟩
      have nonzero : ∀ n < 10, 0 < n → n.digitChar ≠ '0' := by decide
      exact nonzero n small h
    · obtain ⟨c, digits, eq, hc⟩ := ih (n / 10) (by omega) (by omega)
      exact ⟨c, digits ++ [(n % 10).digitChar], by rw [Nat.toDigits_of_base_le (by decide) large, eq]; rfl, hc⟩

theorem takeWhile_isDigit_append {digits rest : List Char} (h : ∀ c ∈ digits, c.isDigit = true)
    (stop : ∀ c ∈ rest.head?, c.isDigit = false) : (digits ++ rest).takeWhile Char.isDigit = digits := by
  rw [List.takeWhile_append_of_pos h]
  cases rest with
  | nil => simp
  | cons c rest => simp [stop c rfl]

theorem dropWhile_isDigit_append {digits rest : List Char} (h : ∀ c ∈ digits, c.isDigit = true)
    (stop : ∀ c ∈ rest.head?, c.isDigit = false) : (digits ++ rest).dropWhile Char.isDigit = rest := by
  rw [List.dropWhile_append_of_pos h]
  cases rest with
  | nil => rfl
  | cons c rest => simp [stop c rfl]

/-! ## Integers -/

/-- Whether a text has no further part of a numeral at its start. -/
def EndsNumeral (s : List Char) : Prop :=
  ∀ c ∈ s.head?, c.isDigit = false ∧ c ≠ '.' ∧ c ≠ 'e' ∧ c ≠ 'E'

theorem readWhole_toDigits (atEnd : Cause) (n : Nat) {rest : List Char}
    (stop : ∀ c ∈ rest.head?, c.isDigit = false) :
    readWhole atEnd (Nat.toDigits 10 n ++ rest) = .ok (Nat.toDigits 10 n, rest) := by
  rcases Nat.eq_zero_or_pos n with rfl | pos
  · have none : ([] ++ rest).takeWhile Char.isDigit = [] := takeWhile_isDigit_append (by simp) stop
    rw [Nat.toDigits_zero, List.singleton_append, readWhole, if_pos rfl]
    simp_all
  · obtain ⟨c, digits, eq, hc⟩ := exists_toDigits_eq_cons pos
    have all : ∀ d ∈ Nat.toDigits 10 n, d.isDigit = true := fun d hd =>
      Nat.isDigit_of_mem_toDigits (by decide) (by decide) hd
    rw [eq] at all ⊢
    have rest_digits : ∀ d ∈ digits, d.isDigit = true := fun d hd => all d (.tail _ hd)
    rw [List.cons_append, readWhole, if_neg hc, if_pos (all c (.head _)),
      takeWhile_isDigit_append rest_digits stop, dropWhile_isDigit_append rest_digits stop]

theorem readFraction_of_endsNumeral (atEnd : Cause) {rest : List Char} (h : EndsNumeral rest) :
    readFraction atEnd rest = .ok (none, rest) := by
  unfold readFraction
  split
  · exact absurd rfl (h '.' rfl).2.1
  · rfl

theorem readExponent_of_endsNumeral (atEnd : Cause) {rest : List Char} (h : EndsNumeral rest) :
    readExponent atEnd rest = .ok (none, rest) := by
  cases rest with
  | nil => rfl
  | cons c rest => rw [readExponent, if_neg (not_or.2 (h c rfl).2.2)]

theorem takeMinus_toDigits (n : Nat) (rest : List Char) :
    takeMinus (Nat.toDigits 10 n ++ rest) = (false, Nat.toDigits 10 n ++ rest) := by
  cases eq : Nat.toDigits 10 n with
  | nil => exact absurd eq Nat.toDigits_ne_nil
  | cons c digits =>
    have hc : c.isDigit = true := Nat.isDigit_of_mem_toDigits (by decide) (by decide) (eq ▸ List.mem_cons_self)
    unfold takeMinus
    split
    · rename_i h
      cases h
      exact absurd hc (by decide)
    · rfl

/-- The parts of an integer's numeral are read back from its digits. -/
theorem readNumeral_writeInt (atEnd : Cause) (n : Int) {rest : List Char} (h : EndsNumeral rest) :
    readNumeral atEnd (writeInt n ++ rest) = .ok (⟨decide (n < 0), Nat.toDigits 10 n.natAbs, none, none⟩, rest) := by
  have minus : takeMinus (writeInt n ++ rest) = (decide (n < 0), Nat.toDigits 10 n.natAbs ++ rest) := by
    unfold writeInt
    split
    · next neg => simp only [List.cons_append, takeMinus, neg, decide_true]
    · next nonneg => simp only [takeMinus_toDigits, nonneg, decide_false]
  unfold readNumeral
  simp only [minus, readWhole_toDigits atEnd n.natAbs fun c hc => (h c hc).1, readFraction_of_endsNumeral atEnd h,
    readExponent_of_endsNumeral atEnd h, bind, Except.bind]
  rfl

theorem number_of_digits (n : Int) (low : -0x8000000000000000 ≤ n) (high : n < 0x10000000000000000) :
    (⟨decide (n < 0), Nat.toDigits 10 n.natAbs, none, none⟩ : Numeral).number = .ok (.integer n low high) := by
  have integer : (⟨decide (n < 0), Nat.toDigits 10 n.natAbs, none, none⟩ : Numeral).integer? =
      some (.integer n low high) := by
    simp only [Numeral.integer?, digitsValue_toDigits]
    by_cases neg : n < 0
    · have range : 0 < n.natAbs ∧ n.natAbs ≤ 0x8000000000000000 := by omega
      have value : -(n.natAbs : Int) = n := by omega
      simp only [Option.isSome_none, Bool.false_eq_true, or_self, if_false, neg, decide_true, if_true, dif_pos range,
        value]
    · have range : n.natAbs < 0x10000000000000000 := by omega
      have value : (n.natAbs : Int) = n := by omega
      simp only [Option.isSome_none, Bool.false_eq_true, or_self, if_false, neg, decide_false, dif_pos range, value]
  rw [Numeral.number, integer]

/-- An integer of 64 bits is read back from its digits. -/
theorem readNumber_writeInt (n : Int) (low : -0x8000000000000000 ≤ n) (high : n < 0x10000000000000000)
    {rest : List Char} (h : EndsNumeral rest) :
    readNumber (writeInt n ++ rest) = .ok (.integer n low high, rest) := by
  unfold readNumber
  simp only [readNumeral_writeInt _ n h, number_of_digits n low high, bind, Except.bind]
  rfl

/-! ## Passing over -/

section AtEnd

-- what is reported of a text that ends too early changes no other reading
variable {a : Cause} (b : Cause)

theorem readDigits_atEnd {s digits rest : List Char} (h : readDigits a s = .ok (digits, rest)) :
    readDigits b s = .ok (digits, rest) := by
  cases s with
  | nil => cases h
  | cons c s => exact h

theorem readWhole_atEnd {s digits rest : List Char} (h : readWhole a s = .ok (digits, rest)) :
    readWhole b s = .ok (digits, rest) := by
  cases s with
  | nil => cases h
  | cons c s => exact h

theorem readFraction_atEnd {s rest : List Char} {digits : Option (List Char)}
    (h : readFraction a s = .ok (digits, rest)) : readFraction b s = .ok (digits, rest) := by
  unfold readFraction at h ⊢
  split at h
  · next s =>
    cases read : readDigits a s with
    | error fault => rw [read] at h; cases h
    | ok pair =>
      rw [read] at h
      simpa only [readDigits_atEnd b read] using h
  · exact h

theorem readExponent_atEnd {s rest : List Char} {exponent : Option (Bool × List Char)}
    (h : readExponent a s = .ok (exponent, rest)) : readExponent b s = .ok (exponent, rest) := by
  cases s with
  | nil => exact h
  | cons c s =>
    by_cases e : c = 'e' ∨ c = 'E'
    · simp only [readExponent, if_pos e] at h ⊢
      cases read : readDigits a (takeSign s).2 with
      | error fault => rw [read] at h; cases h
      | ok pair =>
        rw [read] at h
        rw [readDigits_atEnd b read]
        exact h
    · rw [readExponent, if_neg e] at h ⊢
      exact h

theorem readNumeral_atEnd {s rest : List Char} {n : Numeral} (h : readNumeral a s = .ok (n, rest)) :
    readNumeral b s = .ok (n, rest) := by
  unfold readNumeral at h ⊢
  simp only [bind, Except.bind] at h ⊢
  cases whole : readWhole a (takeMinus s).2 with
  | error fault => simp only [whole] at h; cases h
  | ok afterWhole =>
    simp only [whole] at h
    simp only [readWhole_atEnd b whole]
    cases fraction : readFraction a afterWhole.2 with
    | error fault => simp only [fraction] at h; cases h
    | ok afterFraction =>
      simp only [fraction] at h
      simp only [readFraction_atEnd b fraction]
      cases exponent : readExponent a afterFraction.2 with
      | error fault => simp only [exponent] at h; cases h
      | ok afterExponent =>
        simp only [exponent] at h
        simpa only [readExponent_atEnd b exponent] using h

end AtEnd

/-- A number that is read is passed over to the same place. -/
theorem skipNumber_of_readNumber {s rest : List Char} {n : JsonNumber} (h : readNumber s = .ok (n, rest)) :
    skipNumber s = .ok rest := by
  unfold readNumber at h
  cases read : readNumeral .endInValue s with
  | error fault => simp only [read, bind, Except.bind] at h; cases h
  | ok pair =>
    simp only [read, bind, Except.bind] at h
    unfold skipNumber
    simp only [readNumeral_atEnd .invalidNumber read, bind, Except.bind]
    split at h
    · cases h; rfl
    · cases h

end EntitlementClient.Json
