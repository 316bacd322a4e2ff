/-
DER: elements with a tag, a length and content, one after another.
-/

namespace EntitlementClient.Der

/-- The number whose bytes these are, the high byte first. -/
def bigEndian (bytes : List UInt8) : Nat :=
  bytes.foldl (fun n b => n * 256 + b.toNat) 0

/-- What stands before the content of an element: the class of its tag, its tag, whether elements
make up its content, and how many bytes of content follow, or `none` if that is left open. -/
structure Header where
  tagClass : Nat
  tag : Nat
  constructed : Bool
  length : Option Nat

/-- Reads the rest of a tag that takes more than one byte: seven bits in each of at most `most`
bytes, kept to 32 bits in all. -/
def readLongTag (most tag : Nat) : List UInt8 → Option (Nat × List UInt8)
  | [] => none
  | b :: rest =>
    match most with
    | 0 => none
    | most + 1 =>
      let tag := (tag * 128 + b.toNat % 128) % 0x100000000
      if b < 0x80 then some (tag, rest) else readLongTag most tag rest

/-- Reads a tag: five bits of the first byte, or the bytes after it. -/
def readTag (b : UInt8) (rest : List UInt8) : Option (Nat × List UInt8) :=
  if b.toNat % 32 = 31 then readLongTag 5 0 rest else some (b.toNat % 32, rest)

/-- Reads a length: one byte below 0x80, or a count of bytes that hold it. A count of zero leaves
the length open. -/
def readLength : List UInt8 → Option (Option Nat × List UInt8)
  | [] => none
  | b :: rest =>
    if b < 0x80 then some (some b.toNat, rest)
    else if b = 0x80 then some (none, rest)
    else
      let count := b.toNat - 0x80
      -- the greatest count is reserved
      if count = 0x7F ∨ rest.length < count then none
      else
        let length := bigEndian (rest.take count)
        if length < 0x10000000000000000 then some (some length, rest.drop count) else none

/-- Reads what stands before the content of an element. -/
def readHeader : List UInt8 → Option (Header × List UInt8)
  | [] => none
  | b :: rest => do
    let (tag, rest) ← readTag b rest
    let (length, rest) ← readLength rest
    return (⟨b.toNat / 64, tag, b.toNat / 32 % 2 = 1, length⟩, rest)

/-- An element with its content. -/
structure Element where
  tagClass : Nat
  tag : Nat
  constructed : Bool
  content : List UInt8

/-- Reads an element. Its length may not be left open. -/
def read? (bytes : List UInt8) : Option (Element × List UInt8) :=
  match readHeader bytes with
  | none => none
  | some (header, rest) =>
    match header.length with
    | none => none
    | some length =>
      if rest.length < length then none
      else
        some (⟨header.tagClass, header.tag, header.constructed, rest.take length⟩,
          rest.drop length)

theorem readLongTag_length_le {most tag n : Nat} {bytes rest : List UInt8}
    (h : readLongTag most tag bytes = some (n, rest)) : rest.length ≤ bytes.length := by
  induction bytes generalizing most tag with
  | nil => simp [readLongTag] at h
  | cons b bytes ih =>
    cases most with
    | zero => simp [readLongTag] at h
    | succ most =>
      simp only [readLongTag] at h
      split at h
      · cases h; exact Nat.le_succ _
      · exact Nat.le_succ_of_le (ih h)

theorem readTag_length_le {b : UInt8} {n : Nat} {bytes rest : List UInt8}
    (h : readTag b bytes = some (n, rest)) : rest.length ≤ bytes.length := by
  unfold readTag at h
  split at h
  · exact readLongTag_length_le h
  · cases h; exact Nat.le_refl _

theorem readLength_length_le {length : Option Nat} {bytes rest : List UInt8}
    (h : readLength bytes = some (length, rest)) : rest.length ≤ bytes.length := by
  cases bytes with
  | nil => simp [readLength] at h
  | cons b bytes =>
    simp only [readLength] at h
    split at h
    · cases h; exact Nat.le_succ _
    split at h
    · cases h; exact Nat.le_succ _
    · split at h
      · cases h
      · split at h
        · simp only [Option.some.injEq, Prod.mk.injEq] at h
          rw [← h.2, List.length_drop, List.length_cons]
          omega
        · cases h

theorem readHeader_length_lt {header : Header} {bytes rest : List UInt8}
    (h : readHeader bytes = some (header, rest)) : rest.length < bytes.length := by
  cases bytes with
  | nil => simp [readHeader] at h
  | cons b bytes =>
    simp only [readHeader, Option.bind_eq_bind, Option.bind_eq_some_iff] at h
    obtain ⟨⟨tag, afterTag⟩, tagRead, ⟨length, afterLength⟩, lengthRead, eq⟩ := h
    cases eq
    have := readTag_length_le tagRead
    have := readLength_length_le lengthRead
    simp only [List.length_cons] at *
    omega

/-- Reading an element uses up at least one byte. -/
theorem read?_length_lt {element : Element} {bytes rest : List UInt8}
    (h : read? bytes = some (element, rest)) : rest.length < bytes.length := by
  unfold read? at h
  split at h
  · cases h
  · next headerRead =>
    have := readHeader_length_lt headerRead
    split at h
    · cases h
    · split at h
      · cases h
      · cases h; simp only [List.length_drop]; omega

/-- The elements at the start of a byte sequence, up to the first that cannot be read, and the bytes
that are left. -/
def elements (bytes : List UInt8) : List Element × List UInt8 :=
  match h : read? bytes with
  | none => ([], bytes)
  | some (element, rest) =>
    have := read?_length_lt h
    let others := elements rest
    (element :: others.1, others.2)
termination_by bytes.length

/-- The elements of a byte sequence that holds nothing else. -/
def allElements? (bytes : List UInt8) : Option (List Element) :=
  match elements bytes with
  | (all, []) => some all
  | _ => none

/-! ## Tags -/

namespace Tag

/-- A truth value. -/
def boolean : Nat := 1

/-- An integer. -/
def integer : Nat := 2

/-- A sequence of bits. -/
def bitString : Nat := 3

/-- A sequence of bytes. -/
def octetString : Nat := 4

/-- An object identifier. -/
def objectId : Nat := 6

/-- A sequence of elements. -/
def sequence : Nat := 16

/-- A set of elements. -/
def set : Nat := 17

/-- A time with a year of two digits. -/
def utcTime : Nat := 23

/-- A time with a year of four digits. -/
def generalizedTime : Nat := 24

end Tag

/-- The class of the tags that have their meaning from where they stand. -/
def contextClass : Nat := 2

/-- Whether an element has a tag of its own by which it stands in a given place. -/
def Element.isTagged (element : Element) (tag : Nat) : Bool :=
  element.tagClass == contextClass && element.tag == tag

/-- Whether an element can hold an object identifier: its content may not be elements. Its tag does
not matter. -/
def Element.holdsObjectId (element : Element) : Bool :=
  !element.constructed

/-- Whether an element is a sequence of bytes. -/
def Element.isOctetString (element : Element) : Bool :=
  element.tag == Tag.octetString && !element.constructed

/-- Whether an element is a sequence of bits whose unused bits are zero. -/
def Element.isBitString (element : Element) : Bool :=
  element.tag == Tag.bitString && !element.constructed &&
    match element.content with
    | [] => false
    | [unused] => unused == 0
    | unused :: bits =>
      decide (unused ≤ 8) && (bits.getLast?.getD 0).toNat % (1 <<< unused.toNat) == 0

/-- Whether an element is a sequence of elements. -/
def Element.isSequence (element : Element) : Bool :=
  element.tag == Tag.sequence

/-- Reads an element that satisfies `p`. -/
def readIf (p : Element → Bool) (bytes : List UInt8) : Option (Element × List UInt8) :=
  (read? bytes).filter fun result => p result.1

end EntitlementClient.Der
