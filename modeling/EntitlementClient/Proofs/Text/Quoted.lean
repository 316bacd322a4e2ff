/-
Quoted texts are read back character by character: the quote that ends one is told from those that
are part of it, so that a quoted text is told from all that stands behind it.
-/
import EntitlementClient.Text.Quoted
import Mathlib.Tactic.SplitIfs

namespace EntitlementClient.Text

/-- What is written is told from any text that follows it. -/
def Delimited {α : Type} (write : α → String) : Prop :=
  ∀ (a b : α) (s t : List Char), (write a).toList ++ s = (write b).toList ++ t → a = b ∧ s = t

namespace Quoted

/-! ## Digits -/

/-- The number that digits stand for. -/
def number (digits : List Char) : Nat :=
  digits.foldl (fun n c => 16 * n + (Hex.value? c).getD 0) 0

theorem number_append_singleton (digits : List Char) (c : Char) :
    number (digits ++ [c]) = 16 * number digits + (Hex.value? c).getD 0 := by
  unfold number
  rw [List.foldl_append, List.foldl_cons, List.foldl_nil]

@[simp] theorem number_hexDigits (n : Nat) : number (hexDigits n) = n := by
  fun_induction hexDigits n with
  | case1 n small =>
    unfold number
    rw [List.foldl_cons, List.foldl_nil, Hex.value?_lower n small, Option.getD_some]
    omega
  | case2 n large ih =>
    have low : n % 16 < 16 := Nat.mod_lt n (by decide)
    rw [number_append_singleton, ih, Hex.value?_lower _ low, Option.getD_some]
    exact Nat.div_add_mod n 16

theorem hexDigits_ne_brace (n : Nat) : ∀ c ∈ hexDigits n, c ≠ '\x7d' := by
  fun_induction hexDigits n with
  | case1 n small =>
    intro c hc
    rw [List.mem_singleton] at hc
    exact hc ▸ Hex.lower_ne rfl small
  | case2 n large ih =>
    intro c hc
    rcases List.mem_append.1 hc with high | low
    · exact ih c high
    · rw [List.mem_singleton] at low
      exact low ▸ Hex.lower_ne rfl (Nat.mod_lt n (by decide))

/-! ## One character -/

/-- The character of an escape without its backslash, and what follows it. -/
def readEscape? : List Char → Option (Char × List Char)
  | 'n' :: rest => some ('\n', rest)
  | 'r' :: rest => some ('\r', rest)
  | 't' :: rest => some ('\t', rest)
  | '0' :: rest => some ('\x00', rest)
  | 'u' :: '\x7b' :: rest =>
    some (Char.ofNat (number (rest.takeWhile (· ≠ '\x7d'))), (rest.dropWhile (· ≠ '\x7d')).tail)
  | c :: rest => some (c, rest)
  | [] => none

/-- The first character of a written text and what follows it, unless the text ends there. -/
def readChar? : List Char → Option (Char × List Char)
  | [] => none
  | c :: rest =>
    if c = '"' then none
    else if c = '\\' then readEscape? rest
    else some (c, rest)

theorem readChar?_escape (rest : List Char) : readChar? ('\\' :: rest) = readEscape? rest := rfl

theorem readChar?_plain {c : Char} (quote : c ≠ '"') (backslash : c ≠ '\\') (rest : List Char) :
    readChar? (c :: rest) = some (c, rest) := by
  rw [readChar?, if_neg quote, if_neg backslash]

/-- A character given by its number is read up to the brace behind its digits. -/
theorem readChar?_codeEscape_append (c : Char) (rest : List Char) :
    readChar? (codeEscape c ++ rest) = some (c, rest) := by
  have inside : ∀ d ∈ hexDigits c.toNat, decide (d ≠ '\x7d') = true :=
    fun d hd => decide_eq_true (hexDigits_ne_brace _ d hd)
  have split : codeEscape c ++ rest = '\\' :: 'u' :: '\x7b' :: (hexDigits c.toNat ++ '\x7d' :: rest) := by
    simp [codeEscape]
  rw [split, readChar?_escape, readEscape?, List.takeWhile_append_of_pos inside, List.dropWhile_append_of_pos inside]
  simp

/-- A written character is read back, whatever follows it. -/
theorem readChar?_encodeChar_append (c : Char) (rest : List Char) :
    readChar? (encodeChar c ++ rest) = some (c, rest) := by
  unfold encodeChar
  by_cases quote : c = '"'
  · subst quote; rfl
  by_cases backslash : c = '\\'
  · subst backslash; rfl
  rw [if_neg quote, if_neg backslash]
  -- the escapes with a letter, then the characters that show as themselves or are given by number
  split_ifs with hn hr ht h0 visible hidden
  · subst hn; rfl
  · subst hr; rfl
  · subst ht; rfl
  · subst h0; rfl
  · exact readChar?_plain quote backslash rest
  · exact readChar?_codeEscape_append c rest
  · exact readChar?_plain quote backslash rest

/-! ## Texts -/

/-- Two written texts that end with a quote are the same up to that quote, and so is what follows. -/
theorem encode_append_quote_inj : ∀ {s t a b : List Char},
    s.flatMap encodeChar ++ '"' :: a = t.flatMap encodeChar ++ '"' :: b → s = t ∧ a = b
  | [], [], a, b, h => ⟨rfl, List.tail_eq_of_cons_eq h⟩
  | [], d :: t, a, b, h => by
    have read := congrArg readChar? h
    rw [List.flatMap_cons, List.append_assoc, readChar?_encodeChar_append] at read
    exact nomatch read
  | c :: s, [], a, b, h => by
    have read := congrArg readChar? h
    rw [List.flatMap_cons, List.append_assoc, readChar?_encodeChar_append] at read
    exact nomatch read
  | c :: s, d :: t, a, b, h => by
    have read := congrArg readChar? h
    rw [List.flatMap_cons, List.flatMap_cons, List.append_assoc, List.append_assoc, readChar?_encodeChar_append,
      readChar?_encodeChar_append, Option.some_inj, Prod.mk.injEq] at read
    obtain ⟨rfl, rest⟩ := read
    obtain ⟨rfl, rfl⟩ := encode_append_quote_inj rest
    exact ⟨rfl, rfl⟩

/-- A quoted text ends where its quote is, whatever characters it has. -/
theorem delimited : Delimited quote := by
  intro a b s t h
  simp only [quote, String.toList_ofList, List.cons_append, List.append_assoc, List.nil_append,
    List.cons_inj_right] at h
  obtain ⟨texts, rest⟩ := encode_append_quote_inj h
  exact ⟨String.toList_inj.1 texts, rest⟩

end Quoted

end EntitlementClient.Text
