/-
Percent-encoding is read back, and what it writes holds none of the characters that keep the parts
of an address apart.
-/
import EntitlementClient.Proofs.Text.Utf8
import EntitlementClient.Text.Percent

namespace EntitlementClient.Text.Percent

/-! ## Reading -/

/-- The bytes of a written text: `%XX` is one byte, and every other character stands for itself. -/
def bytes? : List Char → Option (List UInt8)
  | [] => some []
  | '%' :: a :: b :: rest => do
    let high ← Hex.value? a
    let low ← Hex.value? b
    let bytes ← bytes? rest
    return UInt8.ofNat (high * 16 + low) :: bytes
  | c :: rest => (bytes? rest).map (UInt8.ofNat c.toNat :: ·)

/-- The text that a written text stands for. -/
def decode? (s : List Char) : Option String :=
  ((bytes? s).bind Utf8.decode?).map String.ofList

/-! ## Bytes -/

/-- The characters that keep the parts of an address apart. -/
def separators : List Char := ['/', '?', '&', '=', ',']

theorem upper_not_separator : ∀ n < 16, Hex.upper n ∉ separators := by decide

/-- An unreserved byte is a character of ASCII that neither separates nor starts an escape. -/
theorem char_of_unreserved : ∀ n < 256, isUnreserved (UInt8.ofNat n) = true →
    (Char.ofNat n).toNat = n ∧ Char.ofNat n ≠ '%' ∧ Char.ofNat n ∉ separators := by
  decide +kernel

theorem bytes?_cons {c : Char} (h : c ≠ '%') (rest : List Char) :
    bytes? (c :: rest) = (bytes? rest).map (UInt8.ofNat c.toNat :: ·) := by
  rw [bytes?]
  rintro a b t hc rfl
  exact h hc

theorem bytes?_escape_append (b : UInt8) (rest : List Char) :
    bytes? (escape b ++ rest) = (bytes? rest).map (b :: ·) := by
  have hb : b.toNat < 256 := b.toNat_lt
  have hn : UInt8.ofNat (b.toNat / 16 * 16 + b.toNat % 16) = b := by
    rw [show b.toNat / 16 * 16 + b.toNat % 16 = b.toNat from by omega, UInt8.ofNat_toNat]
  simp only [escape, List.cons_append, List.nil_append, bytes?, Hex.value?_upper _ (show b.toNat / 16 < 16 by omega),
    Hex.value?_upper _ (show b.toNat % 16 < 16 by omega)]
  rcases bytes? rest with _ | bytes
  · rfl
  · show some (UInt8.ofNat (b.toNat / 16 * 16 + b.toNat % 16) :: bytes) = some (b :: bytes)
    rw [hn]

/-- A byte is read back from its written form. -/
theorem bytes?_encodeByte_append (b : UInt8) (rest : List Char) :
    bytes? (encodeByte b ++ rest) = (bytes? rest).map (b :: ·) := by
  unfold encodeByte
  split
  · rename_i hu
    obtain ⟨hn, hp, -⟩ := char_of_unreserved b.toNat b.toNat_lt (by rwa [UInt8.ofNat_toNat])
    rw [List.singleton_append, bytes?_cons hp, hn, UInt8.ofNat_toNat]
  · exact bytes?_escape_append b rest

/-- The written form of a byte holds no separator. -/
theorem encodeByte_not_separator (b : UInt8) : ∀ c ∈ encodeByte b, c ∉ separators := by
  have hb : b.toNat < 256 := b.toNat_lt
  intro c hc
  unfold encodeByte at hc
  split at hc
  · rename_i hu
    rw [List.mem_singleton] at hc
    subst hc
    exact (char_of_unreserved b.toNat hb (by rwa [UInt8.ofNat_toNat])).2.2
  · simp only [escape, List.mem_cons, List.not_mem_nil, or_false] at hc
    rcases hc with rfl | rfl | rfl
    · decide
    · exact upper_not_separator _ (by omega)
    · exact upper_not_separator _ (by omega)

/-! ## Texts -/

theorem bytes?_flatMap : ∀ bytes : List UInt8, bytes? (bytes.flatMap encodeByte) = some bytes
  | [] => rfl
  | b :: bytes => by rw [List.flatMap_cons, bytes?_encodeByte_append, bytes?_flatMap bytes]; rfl

/-- A text is read back from its written form. -/
@[simp] theorem decode?_encode (s : String) : decode? (encode s) = some s := by
  unfold decode? encode
  rw [bytes?_flatMap, Option.bind_some, Utf8.decode?_encode, Option.map_some, String.ofList_toList]

/-- The written form of a text holds no separator. -/
theorem encode_not_separator (s : String) : ∀ c ∈ encode s, c ∉ separators := by
  intro c hc
  obtain ⟨b, -, hb⟩ := List.mem_flatMap.1 hc
  exact encodeByte_not_separator b c hb

/-! ## Plain texts -/

/-- Whether a character is written as itself. -/
def isPlain (c : Char) : Bool :=
  decide (c.toNat < 0x80) && isUnreserved (UInt8.ofNat c.toNat)

theorem encodeChar_of_plain {c : Char} (h : isPlain c = true) :
    (Utf8.encodeChar c).flatMap encodeByte = [c] := by
  simp only [isPlain, Bool.and_eq_true, decide_eq_true_eq] at h
  have hn : (UInt8.ofNat c.toNat).toNat = c.toNat := by simp; omega
  rw [Utf8.encodeChar_eq, if_pos (by omega), List.flatMap_singleton, encodeByte, if_pos h.2, hn, Char.ofNat_toNat]

theorem flatMap_of_plain : ∀ s : List Char, s.all isPlain = true → (Utf8.encode s).flatMap encodeByte = s
  | [], _ => rfl
  | c :: s, h => by
    simp only [List.all_cons, Bool.and_eq_true] at h
    rw [Utf8.encode_cons, List.flatMap_append, encodeChar_of_plain h.1, flatMap_of_plain s h.2, List.singleton_append]

/-- A text of unreserved characters is its own written form. -/
theorem encode_of_plain {s : String} (h : s.toList.all isPlain = true) : encode s = s.toList :=
  flatMap_of_plain s.toList h

theorem isPlain_of_isDigit {c : Char} (h : c.isDigit = true) : isPlain c = true := by
  have hd : ∀ n < 58, 48 ≤ n → isPlain (Char.ofNat n) = true := by decide
  simp only [Char.isDigit, Bool.and_eq_true, decide_eq_true_eq, ge_iff_le, UInt32.le_iff_toNat_le] at h
  rw [← Char.ofNat_toNat c]
  exact hd c.toNat (Nat.lt_succ_of_le h.2) h.1

/-- So is a number. -/
@[simp] theorem encode_repr (n : Nat) : encode n.repr = Nat.toDigits 10 n := by
  rw [encode_of_plain, Nat.toList_repr]
  rw [Nat.toList_repr, List.all_eq_true]
  intro c hc
  exact isPlain_of_isDigit (Nat.isDigit_of_mem_toDigits (by decide) (by decide) hc)

/-! ## Alphabet -/

theorem isPlain_upper : ∀ n < 16, isPlain (Hex.upper n) = true := by decide

theorem isPlain_of_unreserved : ∀ n < 256, isUnreserved (UInt8.ofNat n) = true → isPlain (Char.ofNat n) = true := by
  decide +kernel

/-- A text is written with unreserved characters and percent signs alone. -/
theorem encode_alphabet (s : String) : ∀ c ∈ encode s, isPlain c = true ∨ c = '%' := by
  intro c hc
  obtain ⟨b, -, hb⟩ := List.mem_flatMap.1 hc
  have hn : b.toNat < 256 := b.toNat_lt
  unfold encodeByte at hb
  split at hb
  · rename_i hu
    rw [List.mem_singleton] at hb
    subst hb
    exact .inl (isPlain_of_unreserved b.toNat hn (by rwa [UInt8.ofNat_toNat]))
  · simp only [escape, List.mem_cons, List.not_mem_nil, or_false] at hb
    rcases hb with rfl | rfl | rfl
    · exact .inr rfl
    · exact .inl (isPlain_upper _ (by omega))
    · exact .inl (isPlain_upper _ (by omega))

/-- Texts with one written form are the same. -/
theorem encode_injective {s t : String} (h : encode s = encode t) : s = t := by
  have hd : decode? (encode s) = decode? (encode t) := congrArg decode? h
  simpa using hd

end EntitlementClient.Text.Percent
