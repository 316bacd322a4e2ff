/-
The small parts of a JSON text: blanks, the letters of a literal, and strings with their escapes.
Strings are read for their text or passed over; what is passed over is held to fewer rules.
-/
import EntitlementClient.Json.Fault

namespace EntitlementClient.Json

open EntitlementClient.Text

/-! ## Blanks and literals -/

/-- Whether a character may stand between the parts of a JSON text. -/
def isSpace (c : Char) : Bool :=
  c = ' ' ∨ c = '\n' ∨ c = '\t' ∨ c = '\r'

/-- The text from its first character that is not blank. -/
def skipSpace (s : List Char) : List Char :=
  s.dropWhile isSpace

theorem length_skipSpace_le (s : List Char) : (skipSpace s).length ≤ s.length :=
  (List.dropWhile_sublist _).length_le

/-- Reads the letters of a literal. -/
def readLiteral : List Char → List Char → Except Fault (List Char)
  | [], s => .ok s
  | _ :: _, [] => .error (.before .endInValue [])
  | letter :: letters, c :: s =>
    if c = letter then readLiteral letters s else .error (.within .expectedLiteral (c :: s))

theorem readLiteral_length_le {letters s rest : List Char}
    (h : readLiteral letters s = .ok rest) : rest.length ≤ s.length := by
  induction letters generalizing s with
  | nil => cases s <;> (simp only [readLiteral] at h; cases h; exact Nat.le_refl _)
  | cons letter letters ih =>
    cases s with
    | nil => simp [readLiteral] at h
    | cons c s =>
      simp only [readLiteral] at h
      split at h
      · exact Nat.le_succ_of_le (ih h)
      · cases h

/-! ## Escapes -/

/-- The character that a one-letter escape stands for. -/
def plainEscape? (c : Char) : Option Char :=
  if c = '"' ∨ c = '\\' ∨ c = '/' then some c
  else if c = 'b' then some '\x08'
  else if c = 'f' then some '\x0c'
  else if c = 'n' then some '\n'
  else if c = 'r' then some '\r'
  else if c = 't' then some '\t'
  else none

/-- The value of four hexadecimal digits. -/
def hexValue? (a b c d : Char) : Option Nat := do
  let a ← Hex.value? a
  let b ← Hex.value? b
  let c ← Hex.value? c
  let d ← Hex.value? d
  return ((a * 16 + b) * 16 + c) * 16 + d

/-- Reads four hexadecimal digits. Four bytes are used up before they are judged. -/
def readHex (s : List Char) : Except Fault (Nat × List Char) :=
  -- a text that is too short is reported at its end, even if it holds something else than digits
  if Utf8.length (s.take 4) < 4 then .error (.before .endInString [])
  else match s with
    | a :: b :: c :: d :: rest =>
      match hexValue? a b c d with
      | some n => .ok (n, rest)
      | none => .error ⟨.invalidEscape, Utf8.length s - 4⟩
    | _ => .error ⟨.invalidEscape, Utf8.length s - 4⟩

theorem readHex_length_le {s rest : List Char} {n : Nat} (h : readHex s = .ok (n, rest)) :
    rest.length ≤ s.length := by
  unfold readHex at h
  split at h
  · cases h
  · split at h
    · split at h
      · cases h; simp only [List.length_cons]; omega
      · cases h
    · cases h

/-- Whether a code unit is the first of a surrogate pair. -/
def isLeadingSurrogate (n : Nat) : Bool := 0xD800 ≤ n && n ≤ 0xDBFF

/-- Whether a code unit is the second of a surrogate pair. -/
def isTrailingSurrogate (n : Nat) : Bool := 0xDC00 ≤ n && n ≤ 0xDFFF

/-- Reads the letters `\u` that begin the second half of a surrogate pair. -/
def readPairStart (s : List Char) : Except Fault (List Char) :=
  match s with
  | [] => .error (.before .endInString [])
  | c :: s =>
    if c = '\\' then
      match s with
      | [] => .error (.before .endInString [])
      | c :: s =>
        if c = 'u' then .ok s else .error (.within .unfinishedSurrogatePair (c :: s))
    else .error (.within .unfinishedSurrogatePair (c :: s))

/-- Reads the second half of a surrogate pair, whose first half is `first`. -/
def readPair (first : Nat) (s : List Char) : Except Fault (Char × List Char) :=
  match readPairStart s with
  | .error fault => .error fault
  | .ok s =>
    match readHex s with
    | .error fault => .error fault
    | .ok (second, rest) =>
      if isTrailingSurrogate second then
        .ok (Char.ofNat (0x10000 + (first - 0xD800) * 1024 + (second - 0xDC00)), rest)
      else .error (.before .loneSurrogate rest)

/-- Reads what follows the backslash of an escape. -/
def readEscape (s : List Char) : Except Fault (Char × List Char) :=
  match s with
  | [] => .error (.before .endInString [])
  | c :: s =>
    if c = 'u' then
      match readHex s with
      | .error fault => .error fault
      | .ok (n, rest) =>
        if isTrailingSurrogate n then .error (.before .loneSurrogate rest)
        else if isLeadingSurrogate n then readPair n rest
        else .ok (Char.ofNat n, rest)
    else match plainEscape? c with
      | some c => .ok (c, s)
      | none => .error (.within .invalidEscape (c :: s))

theorem readPairStart_length_le {s rest : List Char} (h : readPairStart s = .ok rest) :
    rest.length ≤ s.length := by
  unfold readPairStart at h
  split at h
  · cases h
  · split at h
    · split at h
      · cases h
      · split at h
        · cases h
          simp only [List.length_cons]
          omega
        · cases h
    · cases h

theorem readPair_length_le {first : Nat} {s rest : List Char} {c : Char}
    (h : readPair first s = .ok (c, rest)) : rest.length ≤ s.length := by
  unfold readPair at h
  split at h
  · cases h
  · next start =>
    split at h
    · cases h
    · next hex =>
      split at h
      · simp only [Except.ok.injEq, Prod.mk.injEq] at h
        exact h.2 ▸ Nat.le_trans (readHex_length_le hex) (readPairStart_length_le start)
      · cases h

theorem readEscape_length_le {s rest : List Char} {c : Char}
    (h : readEscape s = .ok (c, rest)) : rest.length ≤ s.length := by
  unfold readEscape at h
  split at h
  · cases h
  · split at h
    · split at h
      · cases h
      · next hex =>
        have := readHex_length_le hex
        split at h
        · cases h
        · split at h
          · have := readPair_length_le h
            simp only [List.length_cons]
            omega
          · cases h
            simp only [List.length_cons]
            omega
    · split at h
      · cases h
        simp only [List.length_cons]
        omega
      · cases h

/-- Passes over what follows the backslash of an escape. Surrogates need not be paired. -/
def skipEscape (s : List Char) : Except Fault (List Char) :=
  match s with
  | [] => .error (.before .endInString [])
  | c :: s =>
    if c = 'u' then (readHex s).map (·.2)
    else if (plainEscape? c).isSome then .ok s
    else .error (.within .invalidEscape (c :: s))

theorem skipEscape_length_le {s rest : List Char} (h : skipEscape s = .ok rest) :
    rest.length ≤ s.length := by
  unfold skipEscape at h
  split at h
  · cases h
  · next c s =>
    split at h
    · cases hex : readHex s with
      | error fault => rw [hex] at h; cases h
      | ok pair =>
        obtain ⟨n, after⟩ := pair
        rw [hex] at h
        cases h
        exact Nat.le_succ_of_le (readHex_length_le hex)
    · split at h
      · cases h
        exact Nat.le_succ _
      · cases h

/-! ## Strings -/

/-- Reads the text of a string after its opening quote, up to and with the closing one. -/
def readString (s : List Char) : Except Fault (List Char × List Char) :=
  match s with
  | [] => .error (.before .endInString [])
  | c :: s =>
    if c = '"' then .ok ([], s)
    else if c = '\\' then
      match _escape : readEscape s with
      | .error fault => .error fault
      | .ok (e, after) =>
        match readString after with
        | .error fault => .error fault
        | .ok (chars, rest) => .ok (e :: chars, rest)
    else if c.toNat < 0x20 then .error (.within .controlCharacter (c :: s))
    else
      match readString s with
      | .error fault => .error fault
      | .ok (chars, rest) => .ok (c :: chars, rest)
termination_by s.length
decreasing_by
  · have := readEscape_length_le _escape
    simp only [List.length_cons]
    omega
  · simp only [List.length_cons]
    omega

theorem readString_length_lt {s chars rest : List Char} (h : readString s = .ok (chars, rest)) :
    rest.length < s.length := by
  fun_induction readString s generalizing chars rest with
  | case1 => cases h
  | case2 s => cases h; simp
  | case3 => cases h
  | case4 => cases h
  | case5 s e after escape chars' rest' tail _ ih =>
    cases h
    have := readEscape_length_le escape
    have := ih tail
    simp only [List.length_cons]
    omega
  | case6 => cases h
  | case7 => cases h
  | case8 c s _ _ _ chars' rest' tail ih =>
    cases h
    have := ih tail
    simp only [List.length_cons]
    omega

/-- Passes over a string after its opening quote, up to and with the closing one. -/
def skipString (s : List Char) : Except Fault (List Char) :=
  match s with
  | [] => .error (.before .endInString [])
  | c :: s =>
    if c = '"' then .ok s
    else if c = '\\' then
      match _escape : skipEscape s with
      | .error fault => .error fault
      | .ok after => skipString after
    -- here the place is before the character, and not at it as for a string that is read
    else if c.toNat < 0x20 then .error (.before .controlCharacter (c :: s))
    else skipString s
termination_by s.length
decreasing_by
  · have := skipEscape_length_le _escape
    simp only [List.length_cons]
    omega
  · simp only [List.length_cons]
    omega

theorem skipString_length_lt {s rest : List Char} (h : skipString s = .ok rest) :
    rest.length < s.length := by
  fun_induction skipString s with
  | case1 => cases h
  | case2 s => cases h; simp
  | case3 => cases h
  | case4 s after escape _ ih =>
    have := skipEscape_length_le escape
    have := ih h
    simp only [List.length_cons]
    omega
  | case5 => cases h
  | case6 c s _ _ _ ih =>
    have := ih h
    simp only [List.length_cons]
    omega

end EntitlementClient.Json
