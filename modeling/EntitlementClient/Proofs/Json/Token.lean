/-
Strings are read back from their written form, whatever follows the closing quote; and what is read
as a string is passed over to the same place.
-/
import EntitlementClient.Json.Token
import EntitlementClient.Json.Writer

namespace EntitlementClient.Json

open EntitlementClient.Text

/-! ## Escapes -/

/-- Four digits with two zeros in front are read as the number of the other two. -/
theorem readHex_lower {n : Nat} (h : n < 256) (s : List Char) :
    readHex ('0' :: '0' :: Hex.lower (n / 16) :: Hex.lower (n % 16) :: s) = .ok (n, s) := by
  have hv : hexValue? '0' '0' (Hex.lower (n / 16)) (Hex.lower (n % 16)) = some n := by
    simp only [hexValue?, Hex.value?_lower (n / 16) (by omega), Hex.value?_lower (n % 16) (by omega),
      show Hex.value? '0' = some 0 from rfl]
    show some (((0 * 16 + 0) * 16 + n / 16) * 16 + n % 16) = some n
    congr 1
    omega
  have hl : ¬Utf8.length (List.take 4 ('0' :: '0' :: Hex.lower (n / 16) :: Hex.lower (n % 16) :: s)) < 4 := by
    have h0 : '0'.utf8Size = 1 := rfl
    have := (Hex.lower (n / 16)).utf8Size_pos
    have := (Hex.lower (n % 16)).utf8Size_pos
    simp only [List.take_succ_cons, List.take_zero, Utf8.length, h0]
    omega
  rw [readHex, if_neg hl]
  simp only [hv]

/-- A control character is read back from its number. -/
theorem readEscape_control {c : Char} (h : c.toNat < 0x20) (s : List Char) :
    readEscape ('u' :: '0' :: '0' :: Hex.lower (c.toNat / 16) :: Hex.lower (c.toNat % 16) :: s) = .ok (c, s) := by
  have ht : isTrailingSurrogate c.toNat = false := by
    simp only [isTrailingSurrogate, Bool.and_eq_false_iff, decide_eq_false_iff_not]
    omega
  have hl : isLeadingSurrogate c.toNat = false := by
    simp only [isLeadingSurrogate, Bool.and_eq_false_iff, decide_eq_false_iff_not]
    omega
  unfold readEscape
  simp only [if_true, readHex_lower (show c.toNat < 256 by omega) s, ht, hl]
  simp

/-! ## Strings -/

/-- A character in front of what is read. -/
def consChar (c : Char) (p : List Char × List Char) : List Char × List Char :=
  (c :: p.1, p.2)

theorem readString_quote (s : List Char) : readString ('"' :: s) = .ok ([], s) := by
  rw [readString]
  rfl

theorem readString_escape {s after : List Char} {e : Char} (h : readEscape s = .ok (e, after)) :
    readString ('\\' :: s) = (readString after).map (consChar e) := by
  rw [readString, if_neg (by decide), if_pos rfl]
  split
  · rename_i h'
    rw [h] at h'
    cases h'
  · rename_i h'
    rw [h] at h'
    cases h'
    split
    · rename_i h'; rw [h']; rfl
    · rename_i h'; rw [h']; rfl

theorem readString_plain {c : Char} (hq : c ≠ '"') (hb : c ≠ '\\') (hc : ¬c.toNat < 0x20) (s : List Char) :
    readString (c :: s) = (readString s).map (consChar c) := by
  rw [readString, if_neg hq, if_neg hb, if_neg hc]
  split
  · rename_i h; rw [h]; rfl
  · rename_i h; rw [h]; rfl

/-- A character of a string is read back from its written form. -/
theorem readString_escapeChar_append (c : Char) (s : List Char) :
    readString (escapeChar c ++ s) = (readString s).map (consChar c) := by
  unfold escapeChar
  split
  · subst c; exact readString_escape rfl
  rename_i hq
  split
  · subst c; exact readString_escape rfl
  rename_i hb
  split
  · subst c; exact readString_escape rfl
  split
  · subst c; exact readString_escape rfl
  split
  · subst c; exact readString_escape rfl
  split
  · subst c; exact readString_escape rfl
  split
  · subst c; exact readString_escape rfl
  split
  · rename_i hc
    exact readString_escape (readEscape_control hc s)
  · rename_i hc
    exact readString_plain hq hb hc s

theorem readString_flatMap_escapeChar (rest : List Char) : ∀ chars : List Char,
    readString (chars.flatMap escapeChar ++ '"' :: rest) = .ok (chars, rest)
  | [] => readString_quote rest
  | c :: chars => by
    rw [List.flatMap_cons, List.append_assoc, readString_escapeChar_append, readString_flatMap_escapeChar rest chars]
    rfl

/-- A string is written with a quote, after which it is read back. -/
theorem exists_writeString_append (s : String) (rest : List Char) :
    ∃ t, writeString s ++ rest = '"' :: t ∧ readString t = .ok (s.toList, rest) := by
  refine ⟨s.toList.flatMap escapeChar ++ '"' :: rest, ?_, readString_flatMap_escapeChar rest s.toList⟩
  simp [writeString]

/-! ## Passing over -/

theorem readPairStart_eq_ok {s t : List Char} (h : readPairStart s = .ok t) : s = '\\' :: 'u' :: t := by
  unfold readPairStart at h
  split at h
  · cases h
  · split at h
    · split at h
      · cases h
      · split at h
        · cases h; subst_vars; rfl
        · cases h
    · cases h

/-- An escape that is read is passed over to the same place, but for a surrogate pair, whose second
half is left to be passed over as an escape of its own. -/
theorem skipEscape_of_readEscape {s after : List Char} {e : Char} (h : readEscape s = .ok (e, after)) :
    skipEscape s = .ok after ∨ ∃ t, skipEscape s = .ok ('\\' :: t) ∧ skipEscape t = .ok after := by
  unfold readEscape at h
  split at h
  · cases h
  rename_i c s
  split at h
  · subst c
    split at h
    · cases h
    rename_i n rest hex
    have hskip : skipEscape ('u' :: s) = .ok rest := by simp [skipEscape, hex, Except.map]
    split at h
    · cases h
    split at h
    · unfold readPair at h
      split at h
      · cases h
      rename_i t start
      split at h
      · cases h
      rename_i second rest' hex'
      split at h
      · simp only [Except.ok.injEq, Prod.mk.injEq] at h
        refine .inr ⟨'u' :: t, by rw [hskip, readPairStart_eq_ok start], ?_⟩
        simp [skipEscape, hex', Except.map, h.2]
      · cases h
    · cases h
      exact .inl hskip
  · rename_i hu
    split at h
    · rename_i e' plain
      cases h
      exact .inl (by simp [skipEscape, hu, plain])
    · cases h

theorem skipString_escape {s after : List Char} (h : skipEscape s = .ok after) :
    skipString ('\\' :: s) = skipString after := by
  rw [skipString, if_neg (by decide), if_pos rfl]
  split
  · rename_i h'
    rw [h] at h'
    cases h'
  · rename_i h'
    rw [h] at h'
    cases h'
    rfl

/-- A string that is read is passed over to the same place. -/
theorem skipString_of_readString {s chars rest : List Char} (h : readString s = .ok (chars, rest)) :
    skipString s = .ok rest := by
  fun_induction readString s generalizing chars rest with
  | case1 => cases h
  | case2 s =>
    cases h
    rw [skipString]
    rfl
  | case3 => cases h
  | case4 => cases h
  | case5 s e after escape chars' rest' tail _ ih =>
    cases h
    rcases skipEscape_of_readEscape escape with skipped | ⟨t, first, second⟩
    · rw [skipString_escape skipped, ih tail]
    · rw [skipString_escape first, skipString_escape second, ih tail]
  | case6 => cases h
  | case7 => cases h
  | case8 c s hq hb hc chars' rest' tail ih =>
    cases h
    rw [skipString, if_neg hq, if_neg hb, if_neg hc, ih tail]

end EntitlementClient.Json
