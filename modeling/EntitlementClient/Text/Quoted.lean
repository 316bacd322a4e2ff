/-
Quoted text for people to read: between double quotes, with an escape for every character that
would not show as itself.
-/
import EntitlementClient.Text.CodePoints
import EntitlementClient.Text.Hex

namespace EntitlementClient.Text.Quoted

/-- The hexadecimal digits of a number, without leading zeros. -/
def hexDigits (n : Nat) : List Char :=
  if n < 16 then [Hex.lower n] else hexDigits (n / 16) ++ [Hex.lower (n % 16)]

/-- A code point as `\u` and its digits between braces. -/
def codeEscape (c : Char) : List Char :=
  "\\u\x7b".toList ++ hexDigits c.toNat ++ ['\x7d']

/-- The written form of one character. -/
def encodeChar (c : Char) : List Char :=
  if c = '"' then ['\\', '"']
  else if c = '\\' then ['\\', '\\']
  else if c = '\n' then ['\\', 'n']
  else if c = '\r' then ['\\', 'r']
  else if c = '\t' then ['\\', 't']
  else if c = '\x00' then ['\\', '0']
  else if 0x20 ≤ c.toNat ∧ c.toNat ≤ 0x7E then [c]
  else if isJoining c || isInvisible c then codeEscape c
  else [c]

/-- A text between double quotes. -/
def quote (s : String) : String :=
  String.ofList ('"' :: s.toList.flatMap encodeChar ++ ['"'])

end EntitlementClient.Text.Quoted
