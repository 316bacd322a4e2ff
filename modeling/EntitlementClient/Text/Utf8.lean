/-
UTF-8: the bytes of a text, strict decoding, and decoding that replaces what is malformed.
-/

namespace EntitlementClient.Text.Utf8

/-- The bytes of one character. -/
def encodeChar (c : Char) : List UInt8 :=
  String.utf8EncodeChar c

/-- The bytes of a text. -/
def encode (s : List Char) : List UInt8 :=
  s.flatMap encodeChar

/-- How many bytes a text takes. -/
def length : List Char → Nat
  | [] => 0
  | c :: s => c.utf8Size + length s

/-! ## Decoding -/

/-- What the first byte of a sequence promises: how many bytes follow it, the range of the first of
them, and the bits it contributes. The range keeps out overlong forms, surrogates and code points
above U+10FFFF. -/
structure Lead where
  more : Nat
  low : UInt8
  high : UInt8
  bits : Nat

/-- Reads a first byte; `none` if no sequence starts with it. -/
def Lead.ofByte? (b : UInt8) : Option Lead :=
  if b < 0x80 then some ⟨0, 0x80, 0xBF, b.toNat⟩
  else if b < 0xC2 then none
  else if b < 0xE0 then some ⟨1, 0x80, 0xBF, b.toNat - 0xC0⟩
  else if b = 0xE0 then some ⟨2, 0xA0, 0xBF, 0⟩
  else if b = 0xED then some ⟨2, 0x80, 0x9F, 0xD⟩
  else if b < 0xF0 then some ⟨2, 0x80, 0xBF, b.toNat - 0xE0⟩
  else if b = 0xF0 then some ⟨3, 0x90, 0xBF, 0⟩
  else if b < 0xF4 then some ⟨3, 0x80, 0xBF, b.toNat - 0xF0⟩
  else if b = 0xF4 then some ⟨3, 0x80, 0x8F, 4⟩
  else none

/-- The outcome of reading the bytes that follow a first byte: a code point or a sequence that
breaks off, and how many bytes were used. -/
inductive Tail
  | complete (code : Nat) (used : Nat)
  | broken (used : Nat)

/-- Reads `more` bytes of a sequence, the first of them within the given range and the others
between 0x80 and 0xBF. -/
def readTail (more : Nat) (low high : UInt8) (bits used : Nat) (bytes : List UInt8) : Tail :=
  match more, bytes with
  | 0, _ => .complete bits used
  | _ + 1, [] => .broken used
  | more + 1, b :: rest =>
    if low ≤ b ∧ b ≤ high then
      readTail more 0x80 0xBF (bits * 64 + (b.toNat - 0x80)) (used + 1) rest
    else .broken used

/-- Reads the first sequence of `b :: rest`: its character or `none` if it is malformed, and how
many bytes of `rest` belong to it. A malformed sequence is a maximal one: it ends where the first
byte stands that cannot continue it. -/
def readFirst (b : UInt8) (rest : List UInt8) : Option Char × Nat :=
  match Lead.ofByte? b with
  | none => (none, 0)
  | some lead =>
    match readTail lead.more lead.low lead.high lead.bits 0 rest with
    | .complete code used => (some (Char.ofNat code), used)
    | .broken used => (none, used)

/-- The text whose bytes these are; `none` if they are not UTF-8. -/
def decode? : List UInt8 → Option (List Char)
  | [] => some []
  | b :: rest =>
    match readFirst b rest with
    | (some c, used) => (decode? (rest.drop used)).map (c :: ·)
    | (none, _) => none
termination_by bytes => bytes.length
decreasing_by simp only [List.length_drop, List.length_cons]; omega

/-- The text with U+FFFD in place of every maximal malformed sequence. -/
def decodeLossy : List UInt8 → List Char
  | [] => []
  | b :: rest =>
    let first := readFirst b rest
    first.1.getD '\uFFFD' :: decodeLossy (rest.drop first.2)
termination_by bytes => bytes.length
decreasing_by simp only [List.length_drop, List.length_cons]; omega

/-- The text of a message body: a byte order mark at its start is not part of it. -/
def decodeBody (bytes : List UInt8) : List Char :=
  match bytes with
  | 0xEF :: 0xBB :: 0xBF :: rest => decodeLossy rest
  | _ => decodeLossy bytes

end EntitlementClient.Text.Utf8
