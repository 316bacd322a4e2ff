/-
White space as Unicode defines it: the `White_Space` table and the trimming built on it.
-/

namespace EntitlementClient.Text

/-- The code points with the Unicode property `White_Space`. -/
def blanks : List Nat :=
  [0x09, 0x0A, 0x0B, 0x0C, 0x0D, 0x20, 0x85, 0xA0, 0x1680, 0x2000, 0x2001, 0x2002, 0x2003, 0x2004,
    0x2005, 0x2006, 0x2007, 0x2008, 0x2009, 0x200A, 0x2028, 0x2029, 0x202F, 0x205F, 0x3000]

/-- Whether a character is white space. -/
def isBlank (c : Char) : Bool :=
  blanks.contains c.toNat

/-- The text without the white space it starts with. -/
def trimStart (s : List Char) : List Char :=
  s.dropWhile isBlank

/-- The text without the characters at its end that satisfy `p`. -/
def dropEndWhile (p : Char → Bool) (s : List Char) : List Char :=
  (s.reverse.dropWhile p).reverse

/-- The text without the white space it ends with. -/
def trimEnd (s : List Char) : List Char :=
  dropEndWhile isBlank s

/-- The text without the white space around it. -/
def trim (s : List Char) : List Char :=
  trimEnd (trimStart s)

/-- Whether a text holds nothing but white space. -/
def isAllBlank (s : List Char) : Bool :=
  s.all isBlank

end EntitlementClient.Text
