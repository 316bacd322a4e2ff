/-
The hash function SHA-512: sixty-four bytes for a sequence of bytes.
-/

namespace EntitlementClient.Sha512

/-! ## Constants -/

/-- The greatest number whose `k`-th power is at most `n`, if it takes at most 68 bits. -/
def root (k n : Nat) : Nat :=
  (List.range 68).reverse.foldl
    (fun r i =>
      let s := r + Nat.pow 2 i
      if Nat.pow s k ≤ n then s else r)
    0

/-- The first eighty primes. -/
def primes : List Nat :=
  (List.range 410).filter fun n =>
    decide (2 ≤ n) && (List.range n).all fun d => decide (d < 2) || n % d != 0

/-- The first 64 bits after the point of the `k`-th root of a number. -/
def rootBits (k n : Nat) : UInt64 :=
  UInt64.ofNat (root k (n * Nat.pow 2 (64 * k)))

/-- The constants of the rounds, from the cube roots of the primes. -/
def roundConstants : List UInt64 :=
  primes.map (rootBits 3)

/-! ## Words -/

/-- A word turned to the right. -/
def rotate (x n : UInt64) : UInt64 :=
  (x >>> n) ||| (x <<< (64 - n))

/-- The words of a block: sixteen that are given, each later one from four before it. -/
def schedule : Nat → List UInt64 → List UInt64
  | 0, _ => []
  | _, [] => []
  | n + 1, w :: window =>
    let near := window.getD 0 0
    let far := window.getD 13 0
    let s := rotate near 1 ^^^ rotate near 8 ^^^ (near >>> 7)
    let t := rotate far 19 ^^^ rotate far 61 ^^^ (far >>> 6)
    w :: schedule n (window ++ [t + window.getD 8 0 + s + w])

/-- Eight words that each round changes. -/
structure State where
  a : UInt64
  b : UInt64
  c : UInt64
  d : UInt64
  e : UInt64
  f : UInt64
  g : UInt64
  h : UInt64

namespace State

/-- The words of a state. -/
def toList (s : State) : List UInt64 :=
  [s.a, s.b, s.c, s.d, s.e, s.f, s.g, s.h]

/-- The state with given words. -/
def ofList (words : List UInt64) : State :=
  ⟨words.getD 0 0, words.getD 1 0, words.getD 2 0, words.getD 3 0, words.getD 4 0, words.getD 5 0,
    words.getD 6 0, words.getD 7 0⟩

/-- The state at the start, from the square roots of the first primes. -/
def initial : State :=
  ofList ((primes.take 8).map (rootBits 2))

/-- One round, with its constant and a word of the block. -/
def round (s : State) (constant word : UInt64) : State :=
  let choice := (s.e &&& s.f) ^^^ (~~~s.e &&& s.g)
  let majority := (s.a &&& s.b) ^^^ (s.a &&& s.c) ^^^ (s.b &&& s.c)
  let t := s.h + (rotate s.e 14 ^^^ rotate s.e 18 ^^^ rotate s.e 41) + choice + constant + word
  let u := (rotate s.a 28 ^^^ rotate s.a 34 ^^^ rotate s.a 39) + majority
  ⟨t + u, s.a, s.b, s.c, s.d + t, s.e, s.f, s.g⟩

/-- The state after a block: the rounds, and the state before them added to the result. -/
def absorb (s : State) (words : List UInt64) : State :=
  let after := (roundConstants.zip (schedule 80 words)).foldl (fun s (k, w) => s.round k w) s
  ofList (List.zipWith (· + ·) s.toList after.toList)

end State

/-! ## Bytes -/

/-- The parts of a list with `size` items each. -/
def parts {α : Type} (size : Nat) (items : List α) : List (List α) :=
  (List.range (items.length / size)).map fun i => (items.drop (size * i)).take size

/-- The word whose bytes these are, the high byte first. -/
def word (bytes : List UInt8) : UInt64 :=
  bytes.foldl (fun w b => w * 256 + b.toUInt64) 0

/-- The bytes of a number, the high byte first. -/
def bytesOf (count n : Nat) : List UInt8 :=
  (List.range count).reverse.map fun i => UInt8.ofNat (n >>> (8 * i))

/-- A message with what makes its length a multiple of a block's: a mark, zeros and the number of
its bits. -/
def padded (message : List UInt8) : List UInt8 :=
  let zeros := (239 - message.length % 128) % 128
  message ++ [0x80] ++ List.replicate zeros 0 ++ bytesOf 16 (8 * message.length)

/-- The hash of a message. -/
def hash (message : List UInt8) : List UInt8 :=
  let last := (parts 128 (padded message)).foldl
    (fun s block => s.absorb ((parts 8 block).map word)) State.initial
  last.toList.flatMap fun w => bytesOf 8 w.toNat

end EntitlementClient.Sha512
