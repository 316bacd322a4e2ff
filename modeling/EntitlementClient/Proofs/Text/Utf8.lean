/-
UTF-8 is read back: the first sequence of the bytes of a text is its first character, so strict and
lossy decoding both give the text again, and texts with the same bytes are the same. The bytes of texts are in
the order of the texts, and no other bytes are decoded.
-/
import EntitlementClient.Text.Utf8
import Mathlib.Algebra.Group.Nat.Defs
import Mathlib.Tactic.SplitIfs

namespace EntitlementClient.Text.Utf8

/-! ## First bytes -/

/-- The test of first bytes on their values. -/
theorem Lead.ofByte?_ofNat {m : Nat} (h : m < 256) : Lead.ofByte? (UInt8.ofNat m) =
    if m < 0x80 then some ⟨0, 0x80, 0xBF, m⟩
    else if m < 0xC2 then none
    else if m < 0xE0 then some ⟨1, 0x80, 0xBF, m - 0xC0⟩
    else if m = 0xE0 then some ⟨2, 0xA0, 0xBF, 0⟩
    else if m = 0xED then some ⟨2, 0x80, 0x9F, 0xD⟩
    else if m < 0xF0 then some ⟨2, 0x80, 0xBF, m - 0xE0⟩
    else if m = 0xF0 then some ⟨3, 0x90, 0xBF, 0⟩
    else if m < 0xF4 then some ⟨3, 0x80, 0xBF, m - 0xF0⟩
    else if m = 0xF4 then some ⟨3, 0x80, 0x8F, 4⟩
    else none := by
  have hm : (UInt8.ofNat m).toNat = m := by simp; omega
  unfold Lead.ofByte?
  simp only [UInt8.lt_iff_toNat_lt, ← UInt8.toNat_inj, hm]
  rfl

theorem Lead.ofByte?_one {m : Nat} (h : m < 0x80) :
    Lead.ofByte? (UInt8.ofNat m) = some ⟨0, 0x80, 0xBF, m⟩ := by
  rw [Lead.ofByte?_ofNat (by omega), if_pos h]

theorem Lead.ofByte?_two {m : Nat} (h : 0xC2 ≤ m) (h' : m < 0xE0) :
    Lead.ofByte? (UInt8.ofNat m) = some ⟨1, 0x80, 0xBF, m - 0xC0⟩ := by
  rw [Lead.ofByte?_ofNat (by omega), if_neg (by omega), if_neg (by omega), if_pos h']

theorem Lead.ofByte?_three {m : Nat} (h : 0xE0 ≤ m) (h' : m < 0xF0) :
    Lead.ofByte? (UInt8.ofNat m) =
      some ⟨2, if m = 0xE0 then 0xA0 else 0x80, if m = 0xED then 0x9F else 0xBF, m - 0xE0⟩ := by
  rw [Lead.ofByte?_ofNat (by omega), if_neg (by omega), if_neg (by omega), if_neg (by omega)]
  by_cases h0 : m = 0xE0
  · subst h0; rfl
  · by_cases h1 : m = 0xED
    · subst h1; rfl
    · rw [if_neg h0, if_neg h1, if_pos h', if_neg h0, if_neg h1]

theorem Lead.ofByte?_four {m : Nat} (h : 0xF0 ≤ m) (h' : m ≤ 0xF4) :
    Lead.ofByte? (UInt8.ofNat m) =
      some ⟨3, if m = 0xF0 then 0x90 else 0x80, if m = 0xF4 then 0x8F else 0xBF, m - 0xF0⟩ := by
  rw [Lead.ofByte?_ofNat (by omega), if_neg (by omega), if_neg (by omega), if_neg (by omega),
    if_neg (by omega), if_neg (by omega), if_neg (by omega)]
  by_cases h0 : m = 0xF0
  · subst h0; rfl
  · by_cases h1 : m = 0xF4
    · subst h1; rfl
    · rw [if_neg h0, if_pos (by omega), if_neg h0, if_neg h1]

/-! ## Bytes that follow -/

/-- A byte within the range is read. -/
theorem readTail_cons {more bits used m : Nat} {low high : UInt8} {rest : List UInt8} (h : m < 256)
    (hl : low.toNat ≤ m) (hh : m ≤ high.toNat) :
    readTail (more + 1) low high bits used (UInt8.ofNat m :: rest) =
      readTail more 0x80 0xBF (bits * 64 + (m - 0x80)) (used + 1) rest := by
  have hm : (UInt8.ofNat m).toNat = m := by simp; omega
  simp only [readTail, UInt8.le_iff_toNat_le, hm]
  rw [if_pos ⟨hl, hh⟩]

theorem readTail_zero {low high : UInt8} {bits used : Nat} {rest : List UInt8} :
    readTail 0 low high bits used rest = .complete bits used := by
  unfold readTail; rfl

/-! ## Characters -/

theorem readFirst_one {n : Nat} (h : n ≤ 0x7F) (rest : List UInt8) :
    readFirst (UInt8.ofNat n) rest = (some (Char.ofNat n), 0) := by
  unfold readFirst
  rw [Lead.ofByte?_one (by omega)]
  simp only [readTail_zero]

theorem readFirst_two {n : Nat} (h : 0x7F < n) (h' : n ≤ 0x7FF) (rest : List UInt8) :
    readFirst (UInt8.ofNat (n / 64 % 32 + 0xC0)) (UInt8.ofNat (n % 64 + 0x80) :: rest) = (some (Char.ofNat n), 1) := by
  unfold readFirst
  rw [Lead.ofByte?_two (by omega) (by omega)]
  simp only
  rw [readTail_cons (by omega) (by simp) (by simp; omega), readTail_zero,
    show (n / 64 % 32 + 0xC0 - 0xC0) * 64 + (n % 64 + 0x80 - 0x80) = n from by omega]

/-- The range of the second byte keeps out overlong forms and surrogates. -/
theorem readFirst_three {n : Nat} (h : 0x7FF < n) (h' : n ≤ 0xFFFF) (hv : n < 0xD800 ∨ 0xDFFF < n)
    (rest : List UInt8) :
    readFirst (UInt8.ofNat (n / 4096 % 16 + 0xE0))
      (UInt8.ofNat (n / 64 % 64 + 0x80) :: UInt8.ofNat (n % 64 + 0x80) :: rest) = (some (Char.ofNat n), 2) := by
  unfold readFirst
  rw [Lead.ofByte?_three (by omega) (by omega)]
  simp only
  rw [readTail_cons (by omega) (by split <;> simp; omega) (by split <;> simp <;> omega),
    readTail_cons (by omega) (by simp) (by simp; omega), readTail_zero,
    show ((n / 4096 % 16 + 0xE0 - 0xE0) * 64 + (n / 64 % 64 + 0x80 - 0x80)) * 64 + (n % 64 + 0x80 - 0x80) = n from
      by omega]

/-- The range of the second byte keeps out overlong forms and what lies above U+10FFFF. -/
theorem readFirst_four {n : Nat} (h : 0xFFFF < n) (h' : n < 0x110000) (rest : List UInt8) :
    readFirst (UInt8.ofNat (n / 262144 % 8 + 0xF0))
      (UInt8.ofNat (n / 4096 % 64 + 0x80) :: UInt8.ofNat (n / 64 % 64 + 0x80) :: UInt8.ofNat (n % 64 + 0x80) :: rest) =
      (some (Char.ofNat n), 3) := by
  unfold readFirst
  rw [Lead.ofByte?_four (by omega) (by omega)]
  simp only
  rw [readTail_cons (by omega) (by split <;> simp; omega) (by split <;> simp <;> omega),
    readTail_cons (by omega) (by simp) (by simp; omega), readTail_cons (by omega) (by simp) (by simp; omega),
    readTail_zero,
    show (((n / 262144 % 8 + 0xF0 - 0xF0) * 64 + (n / 4096 % 64 + 0x80 - 0x80)) * 64 +
        (n / 64 % 64 + 0x80 - 0x80)) * 64 +
      (n % 64 + 0x80 - 0x80) = n from by omega]

theorem encodeChar_eq (c : Char) : encodeChar c =
    if c.toNat ≤ 0x7F then [UInt8.ofNat c.toNat]
    else if c.toNat ≤ 0x7FF then
      [UInt8.ofNat (c.toNat / 64 % 32 + 0xC0), UInt8.ofNat (c.toNat % 64 + 0x80)]
    else if c.toNat ≤ 0xFFFF then
      [UInt8.ofNat (c.toNat / 4096 % 16 + 0xE0), UInt8.ofNat (c.toNat / 64 % 64 + 0x80),
        UInt8.ofNat (c.toNat % 64 + 0x80)]
    else
      [UInt8.ofNat (c.toNat / 262144 % 8 + 0xF0), UInt8.ofNat (c.toNat / 4096 % 64 + 0x80),
        UInt8.ofNat (c.toNat / 64 % 64 + 0x80), UInt8.ofNat (c.toNat % 64 + 0x80)] := rfl

/-- The first sequence of a text that starts with a character is that character. -/
theorem readFirst_encodeChar (c : Char) (rest : List UInt8) :
    ∃ b tail, encodeChar c = b :: tail ∧ readFirst b (tail ++ rest) = (some c, tail.length) := by
  have hv : c.toNat < 0xD800 ∨ 0xDFFF < c.toNat ∧ c.toNat < 0x110000 := c.valid
  have hc : Char.ofNat c.toNat = c := Char.ofNat_toNat c
  rw [encodeChar_eq]
  generalize c.toNat = n at hv hc
  subst hc
  by_cases h1 : n ≤ 0x7F
  · rw [if_pos h1]
    exact ⟨_, _, rfl, readFirst_one h1 rest⟩
  rw [if_neg h1]
  by_cases h2 : n ≤ 0x7FF
  · rw [if_pos h2]
    exact ⟨_, _, rfl, readFirst_two (by omega) h2 rest⟩
  rw [if_neg h2]
  by_cases h3 : n ≤ 0xFFFF
  · rw [if_pos h3]
    exact ⟨_, _, rfl, readFirst_three (by omega) h3 (by omega) rest⟩
  · rw [if_neg h3]
    exact ⟨_, _, rfl, readFirst_four (by omega) (by omega) rest⟩

/-! ## Texts -/

/-- Strict decoding takes off the character that a text starts with. -/
theorem decode?_encodeChar_append (c : Char) (rest : List UInt8) :
    decode? (encodeChar c ++ rest) = (decode? rest).map (c :: ·) := by
  obtain ⟨b, tail, hb, hr⟩ := readFirst_encodeChar c rest
  rw [hb, List.cons_append, decode?, hr]
  simp only [List.drop_left]

/-- So does lossy decoding. -/
theorem decodeLossy_encodeChar_append (c : Char) (rest : List UInt8) :
    decodeLossy (encodeChar c ++ rest) = c :: decodeLossy rest := by
  obtain ⟨b, tail, hb, hr⟩ := readFirst_encodeChar c rest
  rw [hb, List.cons_append, decodeLossy, hr]
  simp only [List.drop_left, Option.getD_some]

theorem encode_cons (c : Char) (s : List Char) : encode (c :: s) = encodeChar c ++ encode s := rfl

/-- A text is read back from its bytes. -/
@[simp] theorem decode?_encode : ∀ s : List Char, decode? (encode s) = some s
  | [] => by rw [encode, List.flatMap_nil, decode?]
  | c :: s => by rw [encode_cons, decode?_encodeChar_append, decode?_encode s]; rfl

/-- Nothing is replaced in the bytes of a text. -/
@[simp] theorem decodeLossy_encode : ∀ s : List Char, decodeLossy (encode s) = s
  | [] => by rw [encode, List.flatMap_nil, decodeLossy]
  | c :: s => by rw [encode_cons, decodeLossy_encodeChar_append, decodeLossy_encode s]

/-! ## Slices -/

/-- The text of the first `n` bytes; `none` if there are fewer or if they end within a character. -/
def slice? : Nat → List Char → Option (List Char)
  | 0, _ => some []
  | _ + 1, [] => none
  | n + 1, c :: s => if c.utf8Size ≤ n + 1 then (slice? (n + 1 - c.utf8Size) s).map (c :: ·) else none

/-- A text can be cut off at its length. -/
theorem slice?_length (t : List Char) : ∀ s : List Char, slice? (length s) (s ++ t) = some s
  | [] => by rw [length, slice?]
  | c :: s => by
    obtain ⟨n, hn⟩ := Nat.exists_eq_add_one_of_ne_zero (Nat.ne_of_gt (Nat.add_pos_left c.utf8Size_pos (length s)))
    have hs : n + 1 - c.utf8Size = length s := by omega
    rw [List.cons_append, length, hn, slice?, if_pos (by omega), hs, slice?_length t s, Option.map_some]

/-! ## Order -/

theorem ofNat_cons_lt {m n : Nat} {s t : List UInt8} (hn : n < 256) (h : m < n ∨ m = n ∧ s < t) :
    UInt8.ofNat m :: s < UInt8.ofNat n :: t := by
  rw [List.cons_lt_cons_iff]
  refine h.imp (fun lt => ?_) fun ⟨eq, lt⟩ => ⟨eq ▸ rfl, lt⟩
  rw [UInt8.lt_iff_toNat_lt, UInt8.toNat_ofNat_of_lt' (Nat.lt_trans lt hn), UInt8.toNat_ofNat_of_lt' hn]
  exact lt

/-- The bytes that follow the first byte of a sequence: six bits each of a code point. -/
def following : Nat → Nat → List UInt8
  | 0, _ => []
  | k + 1, n => UInt8.ofNat (n / 64 ^ k % 64 + 0x80) :: following k n

/-- What follows is in the order of the code points if all bits before are the same. -/
theorem following_lt {m n : Nat} (lt : m < n) (s t : List UInt8) : ∀ k, m / 64 ^ k = n / 64 ^ k →
    following k m ++ s < following k n ++ t
  | 0, same => by simp at same; omega
  | k + 1, same => by
    rw [Nat.pow_succ, ← Nat.div_div_eq_div_mul, ← Nat.div_div_eq_div_mul] at same
    refine ofNat_cons_lt (by omega) ?_
    rcases Nat.lt_or_eq_of_le (Nat.div_le_div_right (c := 64 ^ k) (Nat.le_of_lt lt)) with first | alike
    · exact .inl (by omega)
    · exact .inr ⟨by rw [alike], following_lt lt s t k alike⟩

/-- A sequence: its first byte tells how many bytes follow, and has the bits that are left. -/
def sequence (mark k n : Nat) : List UInt8 :=
  UInt8.ofNat (n / 64 ^ k + mark) :: following k n

theorem sequence_lt {mark k m n : Nat} (lt : m < n) (inRange : n / 64 ^ k + mark < 256) (s t : List UInt8) :
    sequence mark k m ++ s < sequence mark k n ++ t := by
  refine ofNat_cons_lt inRange ?_
  rcases Nat.lt_or_eq_of_le (Nat.div_le_div_right (c := 64 ^ k) (Nat.le_of_lt lt)) with first | alike
  · exact .inl (by omega)
  · exact .inr ⟨by rw [alike], following_lt lt s t k alike⟩

theorem toNat_lt (c : Char) : c.toNat < 0x110000 := by
  have valid : c.toNat < 0xD800 ∨ 0xDFFF < c.toNat ∧ c.toNat < 0x110000 := c.valid
  omega

theorem encodeChar_eq_sequence (c : Char) : encodeChar c =
    if c.toNat ≤ 0x7F then sequence 0 0 c.toNat
    else if c.toNat ≤ 0x7FF then sequence 0xC0 1 c.toNat
    else if c.toNat ≤ 0xFFFF then sequence 0xE0 2 c.toNat
    else sequence 0xF0 3 c.toNat := by
  have inRange : c.toNat < 0x110000 := toNat_lt c
  rw [encodeChar_eq]
  generalize c.toNat = n at inRange
  have two : n ≤ 0x7FF → n / 64 % 32 = n / 64 := by omega
  have three : n ≤ 0xFFFF → n / 4096 % 16 = n / 4096 := by omega
  have four : n / 262144 % 8 = n / 262144 := by omega
  split_ifs <;> simp [sequence, following, *]

/-- The bytes of characters are in the order of the characters, whatever follows them. -/
theorem encodeChar_append_lt {c d : Char} (h : c < d) (s t : List UInt8) : encodeChar c ++ s < encodeChar d ++ t := by
  have lt : c.toNat < d.toNat := h
  have inRange : d.toNat < 0x110000 := toNat_lt d
  rw [encodeChar_eq_sequence c, encodeChar_eq_sequence d]
  generalize c.toNat = m at lt
  generalize d.toNat = n at lt inRange
  -- the first byte tells the length, and longer sequences are those of greater characters
  split_ifs <;> first | omega | exact sequence_lt lt (by omega) s t | exact ofNat_cons_lt (by omega) (.inl (by omega))

/-- The bytes of texts are in the order of the texts. -/
theorem encode_lt_encode : ∀ {s t : List Char}, s < t → encode s < encode t
  | [], d :: t, _ => by
    rw [encode_cons, encodeChar_eq]
    split_ifs <;> exact List.nil_lt_cons _ _
  | c :: s, d :: t, h => by
    rw [encode_cons, encode_cons]
    rcases List.cons_lt_cons_iff.1 h with lt | ⟨rfl, lt⟩
    · exact encodeChar_append_lt lt _ _
    · exact List.append_left_lt (encode_lt_encode lt)

/-! ## What has been decoded -/

/-- A byte that starts a sequence tells how many bytes follow and how the first of them is bounded. -/
theorem Lead.of_ofByte? {m : Nat} {lead : Lead} (h : m < 256) (found : Lead.ofByte? (UInt8.ofNat m) = some lead) :
    (m < 0x80 ∧ lead = ⟨0, 0x80, 0xBF, m⟩) ∨
      (0xC2 ≤ m ∧ m < 0xE0 ∧ lead = ⟨1, 0x80, 0xBF, m - 0xC0⟩) ∨
      (0xE0 ≤ m ∧ m < 0xF0 ∧
        lead = ⟨2, if m = 0xE0 then 0xA0 else 0x80, if m = 0xED then 0x9F else 0xBF, m - 0xE0⟩) ∨
      (0xF0 ≤ m ∧ m ≤ 0xF4 ∧
        lead = ⟨3, if m = 0xF0 then 0x90 else 0x80, if m = 0xF4 then 0x8F else 0xBF, m - 0xF0⟩) := by
  by_cases one : m < 0x80
  · rw [Lead.ofByte?_one one] at found
    exact .inl ⟨one, (Option.some.inj found).symm⟩
  by_cases stray : m < 0xC2
  · rw [Lead.ofByte?_ofNat h, if_neg one, if_pos stray] at found
    cases found
  by_cases two : m < 0xE0
  · rw [Lead.ofByte?_two (by omega) two] at found
    exact .inr (.inl ⟨by omega, two, (Option.some.inj found).symm⟩)
  by_cases three : m < 0xF0
  · rw [Lead.ofByte?_three (by omega) three] at found
    exact .inr (.inr (.inl ⟨by omega, three, (Option.some.inj found).symm⟩))
  by_cases four : m ≤ 0xF4
  · rw [Lead.ofByte?_four (by omega) four] at found
    exact .inr (.inr (.inr ⟨by omega, four, (Option.some.inj found).symm⟩))
  · rw [Lead.ofByte?_ofNat h, if_neg one, if_neg stray, if_neg two, if_neg (by omega), if_neg (by omega), if_neg three,
      if_neg (by omega), if_neg (by omega), if_neg (by omega)] at found
    cases found

/-- A sequence that goes on has a byte within the range. -/
theorem exists_of_readTail_succ {more bits used code total : Nat} {low high : UInt8} {bytes : List UInt8}
    (h : readTail (more + 1) low high bits used bytes = .complete code total) :
    ∃ m rest, m < 256 ∧ bytes = UInt8.ofNat m :: rest ∧ low.toNat ≤ m ∧ m ≤ high.toNat ∧
      readTail more 0x80 0xBF (bits * 64 + (m - 0x80)) (used + 1) rest = .complete code total := by
  cases bytes with
  | nil => cases h
  | cons b rest =>
    rw [readTail] at h
    split at h
    · next within =>
      have low := UInt8.le_iff_toNat_le.1 within.1
      have high := UInt8.le_iff_toNat_le.1 within.2
      exact ⟨b.toNat, rest, b.toNat_lt, by rw [UInt8.ofNat_toNat], low, high, h⟩
    · cases h

/-- The bytes that have been read after a first byte are those that follow it in the sequence of the code point. -/
theorem readTail_complete : ∀ {more bits used code total : Nat} {low high : UInt8} {bytes : List UInt8},
    0x80 ≤ low.toNat → high.toNat ≤ 0xBF → readTail more low high bits used bytes = .complete code total →
      total = used + more ∧ code / 64 ^ more = bits ∧ bytes = following more code ++ bytes.drop more
  | 0, bits, used, code, total, low, high, bytes, _, _, h => by
    rw [readTail_zero] at h
    obtain ⟨rfl, rfl⟩ := Tail.complete.inj h
    exact ⟨rfl, by simp, rfl⟩
  | more + 1, bits, used, code, total, low, high, bytes, hl, hh, h => by
    obtain ⟨m, rest, hm, rfl, low_le, le_high, h⟩ := exists_of_readTail_succ h
    obtain ⟨rfl, same, tail⟩ := readTail_complete (by decide) (by decide) h
    have digit : code / 64 ^ more % 64 + 0x80 = m := by omega
    refine ⟨by omega, ?_, ?_⟩
    · rw [Nat.pow_succ, ← Nat.div_div_eq_div_mul, same]
      omega
    · rw [following, digit, List.drop_succ_cons, List.cons_append, ← tail]

/-- The range of the first of them. -/
theorem readTail_complete_range {more bits used code total : Nat} {low high : UInt8} {bytes : List UInt8}
    (hl : 0x80 ≤ low.toNat) (hh : high.toNat ≤ 0xBF)
    (h : readTail (more + 1) low high bits used bytes = .complete code total) :
    low.toNat ≤ code / 64 ^ more % 64 + 0x80 ∧ code / 64 ^ more % 64 + 0x80 ≤ high.toNat := by
  obtain ⟨m, rest, -, -, low_le, le_high, h⟩ := exists_of_readTail_succ h
  obtain ⟨-, same, -⟩ := readTail_complete (by decide) (by decide) h
  omega

theorem toNat_ofNat {n : Nat} (valid : n < 0xD800 ∨ 0xDFFF < n ∧ n < 0x110000) : (Char.ofNat n).toNat = n := by
  unfold Char.ofNat
  rw [dif_pos valid]
  rfl

/-- The sequence of a code point. -/
theorem encodeChar_ofNat {n : Nat} (valid : n < 0xD800 ∨ 0xDFFF < n ∧ n < 0x110000) : encodeChar (Char.ofNat n) =
    if n ≤ 0x7F then sequence 0 0 n
    else if n ≤ 0x7FF then sequence 0xC0 1 n
    else if n ≤ 0xFFFF then sequence 0xE0 2 n
    else sequence 0xF0 3 n := by
  rw [encodeChar_eq_sequence, toNat_ofNat valid]

/-- What has been read is a sequence. -/
theorem cons_eq_sequence {more bits code total : Nat} {low high : UInt8} {bytes : List UInt8} (mark : Nat)
    (hl : 0x80 ≤ low.toNat) (hh : high.toNat ≤ 0xBF) (h : readTail more low high bits 0 bytes = .complete code total) :
    UInt8.ofNat (bits + mark) :: bytes = sequence mark more code ++ bytes.drop total := by
  obtain ⟨rfl, first, tail⟩ := readTail_complete hl hh h
  rw [sequence, first, Nat.zero_add]
  exact congrArg (UInt8.ofNat (bits + mark) :: ·) tail

/-- The ranges of the second byte keep out what is overlong, surrogates, and what is beyond the last code point. -/
theorem encodeChar_of_lead {m code total : Nat} {lead : Lead} {bytes : List UInt8} (hm : m < 256)
    (found : Lead.ofByte? (UInt8.ofNat m) = some lead)
    (complete : readTail lead.more lead.low lead.high lead.bits 0 bytes = .complete code total) :
    UInt8.ofNat m :: bytes = encodeChar (Char.ofNat code) ++ bytes.drop total := by
  rcases Lead.of_ofByte? hm found with ⟨one, rfl⟩ | ⟨low, high, rfl⟩ | ⟨low, high, rfl⟩ | ⟨low, high, rfl⟩ <;>
    simp only at complete
  · obtain ⟨-, first, -⟩ := readTail_complete (by decide) (by decide) complete
    rw [Nat.pow_zero, Nat.div_one] at first
    rw [encodeChar_ofNat (by omega), if_pos (by omega)]
    exact cons_eq_sequence 0 (by decide) (by decide) complete
  · obtain ⟨-, first, -⟩ := readTail_complete (by decide) (by decide) complete
    rw [Nat.pow_one] at first
    rw [encodeChar_ofNat (by omega), if_neg (by omega), if_pos (by omega),
      ← cons_eq_sequence 0xC0 (by decide) (by decide) complete, Nat.sub_add_cancel (by omega)]
  · have hl : 0x80 ≤ (if m = 0xE0 then 0xA0 else 0x80 : UInt8).toNat := by split <;> decide
    have hh : (if m = 0xED then 0x9F else 0xBF : UInt8).toNat ≤ 0xBF := by split <;> decide
    obtain ⟨lower, upper⟩ := readTail_complete_range hl hh complete
    obtain ⟨-, first, -⟩ := readTail_complete hl hh complete
    rw [show (64 : Nat) ^ 2 = 4096 from rfl] at first
    rw [Nat.pow_one] at lower upper
    have overlong : m = 0xE0 → 0xA0 ≤ code / 64 % 64 + 0x80 := fun eq => by rwa [if_pos eq] at lower
    have surrogate : m = 0xED → code / 64 % 64 + 0x80 ≤ 0x9F := fun eq => by rwa [if_pos eq] at upper
    rw [encodeChar_ofNat (by omega), if_neg (by omega), if_neg (by omega), if_pos (by omega),
      ← cons_eq_sequence 0xE0 hl hh complete, Nat.sub_add_cancel low]
  · have hl : 0x80 ≤ (if m = 0xF0 then 0x90 else 0x80 : UInt8).toNat := by split <;> decide
    have hh : (if m = 0xF4 then 0x8F else 0xBF : UInt8).toNat ≤ 0xBF := by split <;> decide
    obtain ⟨lower, upper⟩ := readTail_complete_range hl hh complete
    obtain ⟨-, first, -⟩ := readTail_complete hl hh complete
    rw [show (64 : Nat) ^ 3 = 262144 from rfl] at first
    rw [show (64 : Nat) ^ 2 = 4096 from rfl] at lower upper
    have overlong : m = 0xF0 → 0x90 ≤ code / 4096 % 64 + 0x80 := fun eq => by rwa [if_pos eq] at lower
    have beyond : m = 0xF4 → code / 4096 % 64 + 0x80 ≤ 0x8F := fun eq => by rwa [if_pos eq] at upper
    rw [encodeChar_ofNat (by omega), if_neg (by omega), if_neg (by omega), if_neg (by omega),
      ← cons_eq_sequence 0xF0 hl hh complete, Nat.sub_add_cancel low]

/-- A sequence that has been read is that of its character. -/
theorem eq_of_readFirst {b : UInt8} {bytes : List UInt8} {c : Char} {used : Nat}
    (h : readFirst b bytes = (some c, used)) : b :: bytes = encodeChar c ++ bytes.drop used := by
  unfold readFirst at h
  split at h
  · cases h
  next lead found =>
    split at h
    case h_2 => cases h
    next code total complete =>
      obtain ⟨rfl, rfl⟩ : Char.ofNat code = c ∧ total = used := by simpa using h
      rw [← UInt8.ofNat_toNat (x := b)] at found ⊢
      exact encodeChar_of_lead b.toNat_lt found complete

/-- What has been decoded has these bytes. -/
theorem encode_of_decode? {bytes : List UInt8} {s : List Char} (h : decode? bytes = some s) : encode s = bytes := by
  fun_induction decode? bytes generalizing s with
  | case1 => cases h; rfl
  | case2 b rest c used first ih =>
    obtain ⟨t, decoded, rfl⟩ := Option.map_eq_some_iff.1 h
    rw [encode_cons, ih decoded, ← eq_of_readFirst first]
  | case3 => cases h

theorem decode?_eq_some_iff {bytes : List UInt8} {s : List Char} : decode? bytes = some s ↔ bytes = encode s := by
  constructor
  · intro h
    exact (encode_of_decode? h).symm
  · rintro rfl
    exact decode?_encode s

end EntitlementClient.Text.Utf8
