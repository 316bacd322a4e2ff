/-
Base64 is read back: the bytes that a text was written for are the bytes that it is decoded to. A
text that is decoded strictly consists of digits and at most two signs of padding, and is decoded
alike where padding may be missing.
-/
import EntitlementClient.Proofs.Text.Blank
import EntitlementClient.Text.Base64

namespace EntitlementClient.Text.Base64

/-! ## Digits -/

/-- A digit stands for its six bits. -/
theorem value?_digit : ∀ n < 64, value? (digit n) = some n := by decide

/-- Whether a character can stand in a text in base64. -/
def isSign (c : Char) : Bool :=
  (value? c).isSome || c == '='

theorem isSign_of_value? {c : Char} (h : (value? c).isSome = true) : isSign c = true := by
  rw [isSign, h, Bool.true_or]

theorem not_isSign_of_isBlank {c : Char} (h : isBlank c = true) : isSign c = false := by
  have none_of_blanks : ∀ n ∈ blanks, isSign (Char.ofNat n) = false := by decide
  simpa only [Char.ofNat_toNat] using none_of_blanks c.toNat (List.contains_iff_mem.1 h)

theorem ne_pad_of_value? {c : Char} (h : (value? c).isSome = true) : c ≠ '=' := by
  rintro rfl
  exact absurd h (by decide)

/-! ## Reading what is written -/

theorem byte_eq {b : UInt8} {n : Nat} (h : n = b.toNat) : UInt8.ofNat n = b := by
  rw [h, UInt8.ofNat_toNat]

/-- Four digits stand for three bytes. -/
theorem decode?_group {p q r t : Char} {i j k l : Nat} (hp : value? p = some i) (hq : value? q = some j)
    (hr : value? r = some k) (ht : value? t = some l) (rest : List Char) :
    decode? (p :: q :: r :: t :: rest) = (decode? rest).map fun bytes =>
      UInt8.ofNat (i * 4 + j / 16) :: UInt8.ofNat (j % 16 * 16 + k / 4) :: UInt8.ofNat (k % 4 * 64 + l) :: bytes := by
  have digit : t ≠ '=' := ne_pad_of_value? (by rw [ht]; rfl)
  rw [decode?]
  · rw [hp, hq, hr, ht]
    cases decode? rest <;> rfl
  · rintro - pad
    exact absurd pad digit
  · intro pad
    exact absurd pad digit

/-- The bytes that a text was written for are read back. -/
@[simp] theorem decode?_encode : ∀ bytes : List UInt8, decode? (encode bytes) = some bytes
  -- by groups of three bytes, of which the last may have one or two and is padded
  | [] => rfl
  | [a] => by
    have ha := a.toNat_lt
    have first : UInt8.ofNat (a.toNat / 4 * 4 + a.toNat % 4 * 16 / 16) = a := byte_eq (by omega)
    have unused : a.toNat % 4 * 16 % 16 = 0 := by omega
    simp only [encode, decode?, value?_digit (a.toNat / 4) (by omega), value?_digit (a.toNat % 4 * 16) (by omega),
      Option.bind_eq_bind, Option.bind_some, if_pos unused, first]
    rfl
  | [a, b] => by
    have ha := a.toNat_lt
    have hb := b.toNat_lt
    have first : UInt8.ofNat (a.toNat / 4 * 4 + (a.toNat % 4 * 16 + b.toNat / 16) / 16) = a := byte_eq (by omega)
    have second : UInt8.ofNat ((a.toNat % 4 * 16 + b.toNat / 16) % 16 * 16 + b.toNat % 16 * 4 / 4) = b :=
      byte_eq (by omega)
    have unused : b.toNat % 16 * 4 % 4 = 0 := by omega
    have digit : digit (b.toNat % 16 * 4) ≠ '=' :=
      ne_pad_of_value? (by rw [value?_digit (b.toNat % 16 * 4) (by omega), Option.isSome_some])
    rw [encode, decode?]
    · simp only [value?_digit (a.toNat / 4) (by omega), value?_digit (a.toNat % 4 * 16 + b.toNat / 16) (by omega),
        value?_digit (b.toNat % 16 * 4) (by omega), Option.bind_eq_bind, Option.bind_some, if_pos unused, first, second]
      rfl
    · exact digit
  | a :: b :: c :: rest => by
    have ha := a.toNat_lt
    have hb := b.toNat_lt
    have hc := c.toNat_lt
    have first : UInt8.ofNat (a.toNat / 4 * 4 + (a.toNat % 4 * 16 + b.toNat / 16) / 16) = a := byte_eq (by omega)
    have second :
        UInt8.ofNat ((a.toNat % 4 * 16 + b.toNat / 16) % 16 * 16 + (b.toNat % 16 * 4 + c.toNat / 64) / 4) = b :=
      byte_eq (by omega)
    have third : UInt8.ofNat ((b.toNat % 16 * 4 + c.toNat / 64) % 4 * 64 + c.toNat % 64) = c := byte_eq (by omega)
    rw [encode, decode?_group (value?_digit _ (by omega)) (value?_digit _ (by omega)) (value?_digit _ (by omega))
      (value?_digit _ (by omega)), decode?_encode rest, first, second, third]
    rfl

theorem encode_injective {a b : List UInt8} (h : encode a = encode b) : a = b := by
  have read := congrArg decode? h
  rwa [decode?_encode, decode?_encode, Option.some.injEq] at read

/-- Every three bytes take four characters, and so do one or two that are left. -/
theorem length_encode : ∀ bytes : List UInt8, (encode bytes).length = (bytes.length + 2) / 3 * 4
  | [] | [_] | [_, _] => by simp [encode]
  | _ :: _ :: _ :: rest => by
    simp only [encode, List.length_cons, length_encode rest]
    omega

/-! ## The form of a text that is read -/

/-- What has been read is digits and then at most two signs of padding, four to a group. -/
theorem form_of_decode? {s : List Char} {bytes : List UInt8} (h : decode? s = some bytes) :
    ∃ digits n, s = digits ++ List.replicate n '=' ∧ (∀ c ∈ digits, (value? c).isSome = true) ∧ n ≤ 2 ∧
      s.length % 4 = 0 := by
  fun_induction decode? s generalizing bytes with
  | case1 => exact ⟨[], 0, rfl, by simp, by omega, rfl⟩
  | case2 p q =>
    obtain ⟨i, hp, h⟩ := Option.bind_eq_some_iff.1 h
    obtain ⟨j, hq, -⟩ := Option.bind_eq_some_iff.1 h
    exact ⟨[p, q], 2, rfl, by simp [hp, hq], by omega, by simp⟩
  | case3 p q r =>
    obtain ⟨i, hp, h⟩ := Option.bind_eq_some_iff.1 h
    obtain ⟨j, hq, h⟩ := Option.bind_eq_some_iff.1 h
    obtain ⟨k, hr, -⟩ := Option.bind_eq_some_iff.1 h
    exact ⟨[p, q, r], 1, rfl, by simp [hp, hq, hr], by omega, by simp⟩
  | case4 p q r t rest _ _ ih =>
    obtain ⟨i, hp, h⟩ := Option.bind_eq_some_iff.1 h
    obtain ⟨j, hq, h⟩ := Option.bind_eq_some_iff.1 h
    obtain ⟨k, hr, h⟩ := Option.bind_eq_some_iff.1 h
    obtain ⟨l, ht, h⟩ := Option.bind_eq_some_iff.1 h
    obtain ⟨more, hrest, -⟩ := Option.bind_eq_some_iff.1 h
    obtain ⟨digits, n, rfl, values, few, length⟩ := ih hrest
    refine ⟨p :: q :: r :: t :: digits, n, rfl, ?_, few, ?_⟩
    · simpa [hp, hq, hr, ht] using values
    · simp only [List.length_cons]
      omega
  | case5 => cases h

/-- Every character of what has been read is a digit or a sign of padding. -/
theorem isSign_of_decode? {s : List Char} {bytes : List UInt8} (h : decode? s = some bytes) :
    ∀ c ∈ s, isSign c = true := by
  obtain ⟨digits, n, rfl, values, -, -⟩ := form_of_decode? h
  intro c hc
  rcases List.mem_append.1 hc with hc | hc
  · exact isSign_of_value? (values c hc)
  · rw [List.eq_of_mem_replicate hc]
    decide

theorem isSign_encode (bytes : List UInt8) : ∀ c ∈ encode bytes, isSign c = true :=
  isSign_of_decode? (decode?_encode bytes)

theorem dropEndWhile_pad {digits : List Char} (values : ∀ c ∈ digits, (value? c).isSome = true) (n : Nat) :
    dropEndWhile (· == '=') (digits ++ List.replicate n '=') = digits := by
  refine dropEndWhile_append (fun c last => ?_) fun c hc => ?_
  · exact beq_false_of_ne (ne_pad_of_value? (values c (List.mem_of_getLast? last)))
  · rw [List.eq_of_mem_replicate hc]
    rfl

/-- A text that is decoded strictly is decoded to the same bytes where padding may be missing. -/
theorem decodeUnpadded?_of_decode? {s : List Char} {bytes : List UInt8} (h : decode? s = some bytes) :
    decodeUnpadded? s = some bytes := by
  obtain ⟨digits, n, eq, values, few, length⟩ := form_of_decode? h
  have body : dropEndWhile (· == '=') s = digits := by rw [eq, dropEndWhile_pad values]
  have total : s.length = digits.length + n := by rw [eq, List.length_append, List.length_replicate]
  have missing : (4 - digits.length % 4) % 4 = n := by omega
  simp only [decodeUnpadded?, body, missing]
  rw [if_pos (by omega), ← eq, h]

/-- Where padding may be missing, what is read still holds nothing but digits and padding. -/
theorem isSign_of_decodeUnpadded? {s : List Char} {bytes : List UInt8} (h : decodeUnpadded? s = some bytes) :
    ∀ c ∈ s, isSign c = true := by
  obtain ⟨dropped, eq, pad⟩ := exists_dropEndWhile (· == '=') s
  simp only [decodeUnpadded?] at h
  split at h
  · intro c hc
    rw [eq] at hc
    rcases List.mem_append.1 hc with hc | hc
    · exact isSign_of_decode? h c (List.mem_append_left _ hc)
    · rw [beq_iff_eq.1 (pad c hc)]
      decide
  · cases h

end EntitlementClient.Text.Base64
