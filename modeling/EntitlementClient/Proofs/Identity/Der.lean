/-
Elements as they are written: what stands before the content takes as few bytes as can be. An element that
is written is read back in front of any bytes, and elements one after another are read back as they are.
-/
import EntitlementClient.Identity.Der
import Mathlib.Data.Nat.Digits.Lemmas

namespace EntitlementClient.Der

/-! ## Numbers -/

/-- The bytes of a number, the high byte first and no zero before it. -/
def bytesOf (n : Nat) : List UInt8 :=
  (Nat.digits 256 n).reverse.map UInt8.ofNat

theorem toNat_ofNat_of_lt {n : Nat} (h : n < 256) : (UInt8.ofNat n).toNat = n := by
  rw [UInt8.toNat_ofNat', Nat.mod_eq_of_lt h]

theorem bigEndian_bytesOf (n : Nat) : bigEndian (bytesOf n) = n := by
  have step : ∀ digits : List Nat, (∀ d ∈ digits, d < 256) →
      bigEndian (digits.reverse.map UInt8.ofNat) = Nat.ofDigits 256 digits := by
    intro digits
    induction digits with
    | nil => intro _; rfl
    | cons d digits ih =>
      intro small
      have later := ih fun e he => small e (List.mem_cons_of_mem d he)
      rw [bigEndian] at later ⊢
      rw [List.reverse_cons, List.map_append, List.foldl_append, later, List.map_singleton, List.foldl_cons,
        List.foldl_nil, toNat_ofNat_of_lt (small d List.mem_cons_self), Nat.ofDigits_cons]
      omega
  rw [bytesOf, step _ fun d hd => Nat.digits_lt_base (by decide) hd, Nat.ofDigits_digits]

theorem length_bytesOf_le {n k : Nat} (h : n < 256 ^ k) : (bytesOf n).length ≤ k := by
  rw [bytesOf, List.length_map, List.length_reverse]
  exact (Nat.digits_length_le_iff (by decide) n).2 h

theorem bytesOf_ne_nil {n : Nat} (h : 0 < n) : bytesOf n ≠ [] := by
  rw [bytesOf, ne_eq, List.map_eq_nil_iff, List.reverse_eq_nil_iff, Nat.digits_eq_nil_iff_eq_zero]
  omega

/-! ## Lengths -/

/-- A length: one byte if it is below 128, or else its bytes after their number. -/
def writeLength (n : Nat) : List UInt8 :=
  if n < 128 then [UInt8.ofNat n] else UInt8.ofNat (128 + (bytesOf n).length) :: bytesOf n

theorem readLength_writeLength {n : Nat} (h : n < 0x10000000000000000) (rest : List UInt8) :
    readLength (writeLength n ++ rest) = some (some n, rest) := by
  unfold writeLength
  by_cases short : n < 128
  · have byte : UInt8.ofNat n < 0x80 := by
      rw [UInt8.lt_iff_toNat_lt, toNat_ofNat_of_lt (by omega)]
      exact short
    rw [if_pos short, List.singleton_append, readLength, if_pos byte, toNat_ofNat_of_lt (by omega)]
  · have few : (bytesOf n).length ≤ 8 := length_bytesOf_le h
    have some_byte : 0 < (bytesOf n).length := List.length_pos_iff.2 (bytesOf_ne_nil (by omega))
    have count : (UInt8.ofNat (128 + (bytesOf n).length)).toNat = 128 + (bytesOf n).length :=
      toNat_ofNat_of_lt (by omega)
    have long : ¬UInt8.ofNat (128 + (bytesOf n).length) < 0x80 := by
      rw [UInt8.lt_iff_toNat_lt, count]
      exact Nat.not_lt.2 (Nat.le_add_right _ _)
    have closed : UInt8.ofNat (128 + (bytesOf n).length) ≠ 0x80 := by
      intro eq
      have := congrArg UInt8.toNat eq
      rw [count] at this
      exact absurd this (by simp only [UInt8.reduceToNat]; omega)
    rw [if_neg short, List.cons_append, readLength, if_neg long, if_neg closed, count, Nat.add_sub_cancel_left,
      if_neg (by simp only [List.length_append]; omega)]
    simp only [List.take_left', List.drop_left', bigEndian_bytesOf, h, if_true]

/-! ## Elements -/

/-- An element: a byte for its tag, its length and its content. -/
def Element.write (e : Element) : List UInt8 :=
  UInt8.ofNat (e.tagClass * 64 + (if e.constructed then 32 else 0) + e.tag) ::
    (writeLength e.content.length ++ e.content)

/-- Whether an element can be written with one byte for its tag. -/
structure Element.Writable (e : Element) : Prop where
  tagClass_lt : e.tagClass < 4
  tag_lt : e.tag < 31
  length_lt : e.content.length < 0x10000000000000000

theorem readHeader_write {e : Element} (h : e.Writable) (rest : List UInt8) :
    readHeader (e.write ++ rest) =
      some (⟨e.tagClass, e.tag, e.constructed, some e.content.length⟩, e.content ++ rest) := by
  obtain ⟨tagClass_lt, tag_lt, length_lt⟩ := h
  have byte : (UInt8.ofNat (e.tagClass * 64 + (if e.constructed then 32 else 0) + e.tag)).toNat =
      e.tagClass * 64 + (if e.constructed then 32 else 0) + e.tag :=
    toNat_ofNat_of_lt (by split <;> omega)
  rw [Element.write, List.cons_append, List.append_assoc, readHeader, readTag, byte]
  cases e.constructed with
  | false =>
    have tag : (e.tagClass * 64 + 0 + e.tag) % 32 = e.tag := by omega
    have tagClass : (e.tagClass * 64 + 0 + e.tag) / 64 = e.tagClass := by omega
    have primitive : ¬(e.tagClass * 64 + 0 + e.tag) / 32 % 2 = 1 := by omega
    simp only [Bool.false_eq_true, if_false, tag, tagClass, primitive, if_neg (Nat.ne_of_lt tag_lt),
      readLength_writeLength length_lt, Option.bind_eq_bind, Option.bind_some, decide_false, pure]
  | true =>
    have tag : (e.tagClass * 64 + 32 + e.tag) % 32 = e.tag := by omega
    have tagClass : (e.tagClass * 64 + 32 + e.tag) / 64 = e.tagClass := by omega
    have constructed : (e.tagClass * 64 + 32 + e.tag) / 32 % 2 = 1 := by omega
    simp only [if_true, tag, tagClass, constructed, if_neg (Nat.ne_of_lt tag_lt),
      readLength_writeLength length_lt, Option.bind_eq_bind, Option.bind_some, decide_true, pure]

theorem read?_write {e : Element} (h : e.Writable) (rest : List UInt8) : read? (e.write ++ rest) = some (e, rest) := by
  rw [read?, readHeader_write h]
  simp only [List.length_append, List.take_left', List.drop_left']
  exact if_neg (by omega)

theorem readIf_write {p : Element → Bool} {e : Element} (h : e.Writable) (is : p e = true) (rest : List UInt8) :
    readIf p (e.write ++ rest) = some (e, rest) := by
  rw [readIf, read?_write h, Option.filter_some, if_pos is]

/-- What is written of some elements is read one by one. -/
theorem elements_write : ∀ {es : List Element}, (∀ e ∈ es, e.Writable) → elements (es.flatMap Element.write) = (es, [])
  | [], _ => by rw [List.flatMap_nil, elements]; rfl
  | e :: es, h => by
    have first := read?_write (h e List.mem_cons_self) (es.flatMap Element.write)
    have others := elements_write fun d hd => h d (List.mem_cons_of_mem e hd)
    rw [List.flatMap_cons, elements]
    split
    · next none => rw [first] at none; cases none
    · next element rest some =>
      rw [first] at some
      cases some
      rw [others]

/-- An element that some elements make up. -/
def Element.ofParts (tagClass tag : Nat) (parts : List Element) : Element :=
  ⟨tagClass, tag, true, parts.flatMap Element.write⟩

theorem Element.Writable.ofParts {tagClass tag : Nat} {parts : List Element} (tagClass_lt : tagClass < 4)
    (tag_lt : tag < 31) (fits : (Element.ofParts tagClass tag parts).content.length < 0x10000000000000000) :
    (Element.ofParts tagClass tag parts).Writable :=
  ⟨tagClass_lt, tag_lt, fits⟩

/-- Its content is at least as long as the content of each. -/
theorem Element.length_part_le {tagClass tag : Nat} {parts : List Element} {e : Element} (h : e ∈ parts) :
    e.content.length ≤ (ofParts tagClass tag parts).content.length := by
  obtain ⟨before, after, rfl⟩ := List.append_of_mem h
  have own : e.content.length ≤ e.write.length := by
    rw [write, List.length_cons, List.length_append]
    omega
  rw [ofParts, List.flatMap_append, List.flatMap_cons, List.length_append, List.length_append]
  omega

theorem readIf_sequence {parts : List Element}
    (fits : (Element.ofParts 0 Tag.sequence parts).content.length < 0x10000000000000000) (rest : List UInt8) :
    readIf Element.isSequence ((Element.ofParts 0 Tag.sequence parts).write ++ rest) =
      some (.ofParts 0 Tag.sequence parts, rest) :=
  readIf_write (.ofParts (by decide) (by decide) fits) rfl rest

end EntitlementClient.Der
