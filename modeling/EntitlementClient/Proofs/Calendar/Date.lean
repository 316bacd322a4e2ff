/-
A date is read back from its written form, in every year of the calendar: negative years and years of
five and six digits as well, which are written with their sign.
-/
import EntitlementClient.Calendar.Date
import Mathlib.Algebra.Group.Nat.Defs

namespace EntitlementClient.Date

open EntitlementClient.Calendar EntitlementClient.Text

/-! ## Padded numbers -/

theorem isDigit_of_mem_padded {width n : Nat} {c : Char} (h : c ∈ padded width n) : c.isDigit = true := by
  rcases List.mem_append.1 h with h | h
  · rw [List.eq_of_mem_replicate h]
    rfl
  · exact Nat.isDigit_of_mem_toDigits (by decide) (by decide) h

theorem padded_ne_nil (width n : Nat) : padded width n ≠ [] := by
  intro h
  exact Nat.toDigits_ne_nil (List.append_eq_nil_iff.1 h).2

theorem length_padded {width n : Nat} (pos : 0 < width) (h : n < 10 ^ width) : (padded width n).length = width := by
  have := (Nat.length_toDigits_le_iff (by decide) pos).2 h
  simp only [padded, List.length_append, List.length_replicate]
  omega

/-- Leading zeros do not count. -/
theorem foldl_padded (width n : Nat) : (padded width n).foldl (fun n c => n * 10 + (c.toNat - 0x30)) 0 = n := by
  have digits : (padded width n).foldl (fun n c => n * 10 + (c.toNat - 0x30)) 0 =
      Nat.ofDigitChars 10 (padded width n) 0 := by
    simp only [Nat.ofDigitChars_eq_foldl, Nat.mul_comm]
    rfl
  rw [digits, padded, Nat.ofDigitChars_append, Nat.ofDigitChars_replicate_zero, Nat.mul_zero,
    Nat.ofDigitChars_ten_toDigits]

theorem takeWhile_padded_append (width n : Nat) {rest : List Char} (stop : ∀ c ∈ rest.head?, c.isDigit = false) :
    (padded width n ++ rest).takeWhile Char.isDigit = padded width n := by
  rw [List.takeWhile_append_of_pos fun c => isDigit_of_mem_padded]
  cases rest with
  | nil => simp
  | cons c rest => simp [stop c rfl]

/-- A number is read if its digits are all that the bound lets through. -/
theorem readNumber_of_digits {most : Option Nat} {digits rest : List Char} {n : Nat} (nonempty : digits ≠ [])
    (within : (most.elim (digits ++ rest) (digits ++ rest).take).takeWhile Char.isDigit = digits)
    (value : digits.foldl (fun n c => n * 10 + (c.toNat - 0x30)) 0 = n) (small : n < 0x8000000000000000) :
    readNumber most (digits ++ rest) = .ok (n, rest) := by
  have full : (digits ++ rest).isEmpty = false := by simp [nonempty]
  have some_digits : digits.isEmpty = false := by simp [nonempty]
  cases most <;>
  · simp only [Option.elim] at within
    simp only [readNumber, within, value, full, some_digits, small, List.drop_left, if_true, Bool.false_eq_true,
      if_false]

theorem readNumber_padded_some {width n : Nat} (pos : 0 < width) (h : n < 10 ^ width) (small : n < 0x8000000000000000)
    (rest : List Char) : readNumber (some width) (padded width n ++ rest) = .ok (n, rest) := by
  refine readNumber_of_digits (padded_ne_nil width n) ?_ (foldl_padded width n) small
  show ((padded width n ++ rest).take width).takeWhile Char.isDigit = padded width n
  rw [List.take_left' (length_padded pos h)]
  have : (padded width n ++ []).takeWhile Char.isDigit = padded width n := takeWhile_padded_append width n (by simp)
  rwa [List.append_nil] at this

theorem readNumber_padded_none {width n : Nat} (small : n < 0x8000000000000000) {rest : List Char}
    (stop : ∀ c ∈ rest.head?, c.isDigit = false) : readNumber none (padded width n ++ rest) = .ok (n, rest) :=
  readNumber_of_digits (padded_ne_nil width n) (takeWhile_padded_append width n stop) (foldl_padded width n) small

/-! ## Blanks -/

theorem isBlank_of_isDigit {c : Char} (h : c.isDigit = true) : isBlank c = false := by
  have range : 48 ≤ c.toNat ∧ c.toNat ≤ 57 := by
    simpa [Char.isDigit, UInt32.le_iff_toNat_le] using h
  have digits : ∀ n < 58, 48 ≤ n → blanks.contains n = false := by decide
  exact digits c.toNat (by omega) range.1

theorem trimStart_cons {c : Char} (h : isBlank c = false) (s : List Char) : trimStart (c :: s) = c :: s :=
  List.dropWhile_cons_of_neg (by simp [h])

theorem trimStart_padded_append (width n : Nat) (rest : List Char) :
    trimStart (padded width n ++ rest) = padded width n ++ rest := by
  cases eq : padded width n with
  | nil => exact absurd eq (padded_ne_nil width n)
  | cons c digits => exact trimStart_cons (isBlank_of_isDigit (isDigit_of_mem_padded (eq ▸ List.mem_cons_self))) _

/-! ## The parts of a date -/

theorem readSigned_digit {c : Char} (digit : c.isDigit = true) {n : Nat} {s rest : List Char}
    (read : readNumber (some 4) (c :: s) = .ok (n, rest)) : readSigned (c :: s) = .ok ((n : Int), rest) := by
  unfold readSigned
  split
  · next eq => cases eq; exact absurd digit (by decide)
  · next eq => cases eq; exact absurd digit (by decide)
  · rw [read]
    rfl

/-- The years that are written with a sign are read up to the first character that is no digit. -/
theorem readSigned_yearText {year : Int} (small : year.natAbs < 0x8000000000000000) {rest : List Char}
    (stop : ∀ c ∈ rest.head?, c.isDigit = false) :
    readSigned (trimStart (yearText year ++ rest)) = .ok (year, rest) := by
  have signed : readNumber none (padded 4 year.natAbs ++ rest) = .ok (year.natAbs, rest) :=
    readNumber_padded_none small stop
  unfold yearText
  split
  · next plain =>
    have value : (year.natAbs : Int) = year := by omega
    have read : readNumber (some 4) (padded 4 year.natAbs ++ rest) = .ok (year.natAbs, rest) :=
      readNumber_padded_some (by decide) (by omega) (by omega) rest
    rw [trimStart_padded_append]
    cases eq : padded 4 year.natAbs with
    | nil => exact absurd eq (padded_ne_nil 4 _)
    | cons c digits =>
      have digit : c.isDigit = true := isDigit_of_mem_padded (eq ▸ List.mem_cons_self)
      rw [eq] at read
      have result := readSigned_digit digit read
      rwa [value] at result
  · next sign =>
    split
    · next negative =>
      have value : -(year.natAbs : Int) = year := by omega
      rw [List.cons_append, trimStart_cons (by decide)]
      simp only [readSigned, signed, Except.map, value]
    · next positive =>
      have value : (year.natAbs : Int) = year := by omega
      rw [List.cons_append, trimStart_cons (by decide)]
      simp only [readSigned, signed, Except.map, value]

theorem readYear_yearText {year : Int} (low : -0x80000000 ≤ year) (high : year < 0x80000000) {rest : List Char}
    (stop : ∀ c ∈ rest.head?, c.isDigit = false) : readYear (trimStart (yearText year ++ rest)) = .ok (year, rest) := by
  have checked : checkYear year rest = .ok (year, rest) := if_pos ⟨low, high⟩
  rw [readYear, readSigned_yearText (by omega) stop]
  exact checked

theorem readPart_padded {greatest n : Nat} (pos : 1 ≤ n) (le : n ≤ greatest) (small : n < 100) (rest : List Char) :
    readPart greatest (trimStart (padded 2 n ++ rest)) = .ok (n, rest) := by
  unfold readPart
  rw [trimStart_padded_append, readNumber_padded_some (by decide) (by omega) (by omega)]
  exact if_pos ⟨pos, le⟩

theorem readDash_dash (rest : List Char) : readDash (trimStart ('-' :: rest)) = .ok rest := by
  rw [trimStart_cons (by decide)]
  rfl

theorem monthLength_le (year : Int) (month : Nat) : monthLength year month ≤ 31 := by
  unfold monthLength
  split
  · split <;> decide
  · split <;> decide

/-- A date is read back from its written form. -/
theorem parse_text (d : Date) : parse d.text = .ok d := by
  obtain ⟨year, month, day, isDate⟩ := d
  obtain ⟨first, last, month_pos, month_le, day_pos, day_le⟩ := isDate
  have day_small := monthLength_le year month
  have year_low : -0x80000000 ≤ year := by simp only [firstYear] at first; omega
  have year_high : year < 0x80000000 := by simp only [lastYear] at last; omega
  have dash (s : List Char) : ∀ c ∈ ('-' :: s).head?, c.isDigit = false := by
    intro c hc
    cases hc
    rfl
  have last_part := readPart_padded day_pos (Nat.le_trans day_le day_small) (by omega) []
  rw [List.append_nil] at last_part
  unfold parse
  simp only [text, List.append_assoc, List.cons_append, readYear_yearText year_low year_high (dash _), readDash_dash,
    readPart_padded month_pos month_le (by omega), last_part, bind, Except.bind]
  have blank : (trimStart []).isEmpty = true := rfl
  have valid : of? year month day = some ⟨year, month, day, first, last, month_pos, month_le, day_pos, day_le⟩ :=
    dif_pos ⟨first, last, month_pos, month_le, day_pos, day_le⟩
  simp only [blank, if_true, valid]

end EntitlementClient.Date
