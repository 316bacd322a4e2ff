/-
Passing over a JSON value whose content is not wanted. Only its syntax is looked at: numbers may be
of any size, surrogates need not be paired, and brackets may nest to any depth.
-/
import EntitlementClient.Json.Numeral
import EntitlementClient.Json.Token

namespace EntitlementClient.Json

/-! ## Numbers get shorter -/

theorem readDigits_length_lt {atEnd : Cause} {s digits rest : List Char}
    (h : readDigits atEnd s = .ok (digits, rest)) : rest.length < s.length := by
  unfold readDigits at h
  split at h
  · cases h
  · next c s =>
    split at h
    · next digit =>
      simp only [Except.ok.injEq, Prod.mk.injEq] at h
      rw [← h.2, List.dropWhile_cons, if_pos digit]
      exact Nat.lt_succ_of_le (List.dropWhile_sublist _).length_le
    · cases h

theorem readWhole_length_lt {atEnd : Cause} {s digits rest : List Char}
    (h : readWhole atEnd s = .ok (digits, rest)) : rest.length < s.length := by
  unfold readWhole at h
  split at h
  · cases h
  · next c s =>
    split at h
    · split at h
      · cases h
        exact Nat.lt_succ_self _
      · cases h
    · split at h
      · simp only [Except.ok.injEq, Prod.mk.injEq] at h
        rw [← h.2]
        exact Nat.lt_succ_of_le (List.dropWhile_sublist _).length_le
      · cases h

theorem readFraction_length_le {atEnd : Cause} {s rest : List Char} {digits : Option (List Char)}
    (h : readFraction atEnd s = .ok (digits, rest)) : rest.length ≤ s.length := by
  unfold readFraction at h
  split at h
  · next s =>
    cases read : readDigits atEnd s with
    | error fault => rw [read] at h; cases h
    | ok pair =>
      obtain ⟨chars, after⟩ := pair
      rw [read] at h
      cases h
      exact Nat.le_succ_of_le (Nat.le_of_lt (readDigits_length_lt read))
  · cases h
    exact Nat.le_refl _

theorem takeSign_length_le (s : List Char) : (takeSign s).2.length ≤ s.length := by
  unfold takeSign
  split
  · exact Nat.le_succ _
  · exact Nat.le_succ _
  · exact Nat.le_refl _

theorem readExponent_length_le {atEnd : Cause} {s rest : List Char}
    {exponent : Option (Bool × List Char)} (h : readExponent atEnd s = .ok (exponent, rest)) :
    rest.length ≤ s.length := by
  unfold readExponent at h
  split at h
  · cases h
    exact Nat.le_refl _
  · next c s =>
    split at h
    · cases read : readDigits atEnd (takeSign s).2 with
      | error fault => simp only [read] at h; cases h
      | ok pair =>
        obtain ⟨chars, after⟩ := pair
        simp only [read] at h
        cases h
        exact Nat.le_succ_of_le
          (Nat.le_trans (Nat.le_of_lt (readDigits_length_lt read)) (takeSign_length_le s))
    · cases h
      exact Nat.le_refl _

theorem takeMinus_length_le (s : List Char) : (takeMinus s).2.length ≤ s.length := by
  unfold takeMinus
  split
  · exact Nat.le_succ _
  · exact Nat.le_refl _

theorem readNumeral_length_lt {atEnd : Cause} {s rest : List Char} {n : Numeral}
    (h : readNumeral atEnd s = .ok (n, rest)) : rest.length < s.length := by
  unfold readNumeral at h
  simp only at h
  cases whole : readWhole atEnd (takeMinus s).2 with
  | error fault => simp only [whole] at h; cases h
  | ok pair =>
    obtain ⟨w, afterWhole⟩ := pair
    simp only [whole] at h
    cases fraction : readFraction atEnd afterWhole with
    | error fault => simp only [fraction, bind, Except.bind] at h; cases h
    | ok pair =>
      obtain ⟨f, afterFraction⟩ := pair
      cases exponent : readExponent atEnd afterFraction with
      | error fault => simp only [fraction, exponent, bind, Except.bind] at h; cases h
      | ok pair =>
        obtain ⟨e, afterExponent⟩ := pair
        simp only [fraction, exponent, bind, Except.bind] at h
        cases h
        have := readWhole_length_lt whole
        have := readFraction_length_le fraction
        have := readExponent_length_le exponent
        have := takeMinus_length_le s
        omega

theorem readNumber_length_lt {s rest : List Char} {n : JsonNumber}
    (h : readNumber s = .ok (n, rest)) : rest.length < s.length := by
  unfold readNumber at h
  cases read : readNumeral .endInValue s with
  | error fault => simp only [read, bind, Except.bind] at h; cases h
  | ok pair =>
    obtain ⟨numeral, after⟩ := pair
    simp only [read, bind, Except.bind] at h
    split at h
    · cases h
      exact readNumeral_length_lt read
    · cases h

theorem skipNumber_length_lt {s rest : List Char} (h : skipNumber s = .ok rest) :
    rest.length < s.length := by
  unfold skipNumber at h
  cases read : readNumeral .invalidNumber s with
  | error fault => simp only [read, bind, Except.bind] at h; cases h
  | ok pair =>
    obtain ⟨numeral, after⟩ := pair
    simp only [read, bind, Except.bind] at h
    cases h
    exact readNumeral_length_lt read

/-! ## Brackets -/

/-- The two kinds of brackets. -/
inductive Bracket
  | square
  | curly
deriving DecidableEq

/-- The character that closes a bracket. -/
def Bracket.close : Bracket → Char
  | .square => ']'
  | .curly => '}'

/-- The cause when a text ends inside a bracket. -/
def Bracket.endCause : Bracket → Cause
  | .square => .endInList
  | .curly => .endInObject

/-- The cause when an item is followed by neither a comma nor the closing bracket. -/
def Bracket.commaCause : Bracket → Cause
  | .square => .expectedCommaOrBracket
  | .curly => .expectedCommaOrBrace

/-! ## Values -/

/-- Passes over a value that is not bracketed. -/
def skipScalar (s : List Char) : Except Fault (List Char) :=
  match s with
  | [] => .error (.before .endInValue [])
  | c :: rest =>
    if c = 'n' then readLiteral ['u', 'l', 'l'] rest
    else if c = 't' then readLiteral ['r', 'u', 'e'] rest
    else if c = 'f' then readLiteral ['a', 'l', 's', 'e'] rest
    else if c = '-' ∨ c.isDigit then skipNumber s
    else if c = '"' then skipString rest
    else .error (.within .expectedValue s)

theorem skipScalar_length_lt {s rest : List Char} (h : skipScalar s = .ok rest) :
    rest.length < s.length := by
  unfold skipScalar at h
  split at h
  · cases h
  · next c s =>
    split at h
    · exact Nat.lt_succ_of_le (readLiteral_length_le h)
    split at h
    · exact Nat.lt_succ_of_le (readLiteral_length_le h)
    split at h
    · exact Nat.lt_succ_of_le (readLiteral_length_le h)
    split at h
    · exact skipNumber_length_lt h
    split at h
    · exact Nat.lt_succ_of_lt (skipString_length_lt h)
    · cases h

/-- Reads the colon after the name of a member. -/
def readColon (s : List Char) : Except Fault (List Char) :=
  match skipSpace s with
  | [] => .error (.before .endInObject [])
  | c :: rest => if c = ':' then .ok rest else .error (.within .expectedColon (c :: rest))

theorem readColon_length_lt {s rest : List Char} (h : readColon s = .ok rest) :
    rest.length < s.length := by
  unfold readColon at h
  have := length_skipSpace_le s
  split at h
  · cases h
  · next c after eq =>
    split at h
    · cases h
      rw [eq, List.length_cons] at this
      omega
    · cases h

/-- Passes over the name of a member and the colon after it. -/
def skipName (s : List Char) : Except Fault (List Char) :=
  match skipSpace s with
  | [] => .error (.before .endInObject [])
  | c :: rest =>
    if c = '"' then (skipString rest).bind readColon
    else .error (.within .nameNotString (c :: rest))

theorem skipName_length_lt {s rest : List Char} (h : skipName s = .ok rest) :
    rest.length < s.length := by
  unfold skipName at h
  have := length_skipSpace_le s
  split at h
  · cases h
  · next c after eq =>
    rw [eq, List.length_cons] at this
    split at h
    · cases name : skipString after with
      | error fault => rw [name] at h; cases h
      | ok afterName =>
        rw [name] at h
        have := skipString_length_lt name
        have := readColon_length_lt (show readColon afterName = .ok rest from h)
        omega
    · cases h

mutual

/-- Passes over a value inside the brackets `outer`, innermost first, and then over all that
follows up to the end of the outermost of them. -/
def skipValue (outer : List Bracket) (s : List Char) : Except Fault (List Char) :=
  match _space : skipSpace s with
  | [] => .error (.before .endInValue [])
  | c :: rest =>
    if c = '[' then skipFirst .square outer rest
    else if c = '{' then skipFirst .curly outer rest
    else
      match _scalar : skipScalar (c :: rest) with
      | .error fault => .error fault
      | .ok after => skipAfter outer after
termination_by (s.length, 0)
decreasing_by
  all_goals
    have := length_skipSpace_le s
    rw [_space, List.length_cons] at this
    apply Prod.Lex.left
  · omega
  · omega
  · have := skipScalar_length_lt _scalar
    simp only [List.length_cons] at this
    omega

/-- Passes over the inside of a bracket that has just been opened, and what follows it. -/
def skipFirst (bracket : Bracket) (outer : List Bracket) (s : List Char) :
    Except Fault (List Char) :=
  match _space : skipSpace s with
  | [] => .error (.before bracket.endCause [])
  | c :: rest =>
    if c = bracket.close then skipAfter outer rest else skipItem bracket outer (c :: rest)
termination_by (s.length, 2)
decreasing_by
  all_goals
    have := length_skipSpace_le s
    rw [_space, List.length_cons] at this
  · apply Prod.Lex.left; omega
  · rcases Nat.lt_or_eq_of_le this with lt | eq
    · exact Prod.Lex.left _ _ lt
    · rw [List.length_cons, eq]; exact Prod.Lex.right _ (by omega)

/-- Passes over an item of a bracket, and what follows it. -/
def skipItem (bracket : Bracket) (outer : List Bracket) (s : List Char) :
    Except Fault (List Char) :=
  match bracket with
  | .square => skipValue (.square :: outer) s
  | .curly =>
    match _name : skipName s with
    | .error fault => .error fault
    | .ok after => skipValue (.curly :: outer) after
termination_by (s.length, 1)
decreasing_by
  · exact Prod.Lex.right _ (by omega)
  · exact Prod.Lex.left _ _ (skipName_length_lt _name)

/-- Passes over what follows a value inside the brackets `outer`, innermost first. -/
def skipAfter (outer : List Bracket) (s : List Char) : Except Fault (List Char) :=
  match outer with
  | [] => .ok s
  | bracket :: outer =>
    match _space : skipSpace s with
    | [] => .error (.before bracket.endCause [])
    | c :: rest =>
      if c = ',' then skipItem bracket outer rest
      else if c = bracket.close then skipAfter outer rest
      else .error (.within bracket.commaCause (c :: rest))
termination_by (s.length, 0)
decreasing_by
  all_goals
    have := length_skipSpace_le s
    rw [_space, List.length_cons] at this
    apply Prod.Lex.left
    omega

end

/-- A value takes at least one character, and what follows it none or more. -/
theorem skip_lengths :
    (∀ outer s rest, skipValue outer s = .ok rest → rest.length < s.length) ∧
      (∀ outer s rest, skipAfter outer s = .ok rest → rest.length ≤ s.length) ∧
      (∀ bracket outer s rest, skipItem bracket outer s = .ok rest → rest.length < s.length) ∧
      (∀ bracket outer s rest, skipFirst bracket outer s = .ok rest → rest.length < s.length) := by
  refine skipValue.mutual_induct
    (fun outer s => ∀ rest, skipValue outer s = .ok rest → rest.length < s.length)
    (fun outer s => ∀ rest, skipAfter outer s = .ok rest → rest.length ≤ s.length)
    (fun bracket outer s => ∀ rest, skipItem bracket outer s = .ok rest → rest.length < s.length)
    (fun bracket outer s => ∀ rest, skipFirst bracket outer s = .ok rest → rest.length < s.length)
    ?_ ?_ ?_ ?_ ?_ ?_ ?_ ?_ ?_ ?_ ?_ ?_ ?_ ?_ ?_ ?_
  all_goals
    intros
    rename_i h
    first
    | rw [skipValue] at h
    | rw [skipAfter] at h
    | rw [skipItem] at h
    | rw [skipFirst] at h
    have := @length_skipSpace_le
    have := @skipScalar_length_lt
    have := @skipName_length_lt
    grind

/-- Passes over one value. -/
def skip (s : List Char) : Except Fault (List Char) :=
  skipValue [] s

theorem skip_length_lt {s rest : List Char} (h : skip s = .ok rest) : rest.length < s.length :=
  skip_lengths.1 [] s rest h

end EntitlementClient.Json
