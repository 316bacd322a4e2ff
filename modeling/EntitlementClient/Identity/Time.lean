/-
The two written forms of a time in a certificate.
-/
import EntitlementClient.Calendar.Date

namespace EntitlementClient.CertificateTime

/-- Reads a number of two digits. -/
def twoDigits? : List UInt8 → Option (Nat × List UInt8)
  | a :: b :: rest =>
    if 0x30 ≤ a ∧ a ≤ 0x39 ∧ 0x30 ≤ b ∧ b ≤ 0x39 then
      some ((a.toNat - 0x30) * 10 + (b.toNat - 0x30), rest)
    else none
  | _ => none

/-- Reads seconds, if there are two bytes that can hold them. -/
def seconds? : List UInt8 → Option (Nat × List UInt8)
  | a :: b :: rest => twoDigits? (a :: b :: rest)
  | rest => some (0, rest)

/-- Whether some numbers are a time of a day. -/
def isTimeOfDay (hour minute second : Nat) : Bool :=
  decide (hour ≤ 23 ∧ minute ≤ 59 ∧ second ≤ 59)

/-- Whether some numbers are a day. -/
def isDay (year month day : Nat) : Bool :=
  decide (Calendar.IsDate year month day)

/-- Whether some bytes are a time zone: `Z`, or a sign with at most 25 hours and minutes. -/
def isZone : List UInt8 → Bool
  | [0x5A] => true
  | sign :: rest =>
    (sign == 0x2B || sign == 0x2D) &&
      match twoDigits? rest with
      | none => false
      | some (hours, rest) =>
        match twoDigits? rest with
        | some (minutes, []) => decide (hours ≤ 25 ∧ minutes ≤ 59)
        | _ => false
  | [] => false

/-- Drops the fraction of a second: a point with at most three digits. -/
def dropFraction : List UInt8 → List UInt8
  | [] => []
  | mark :: rest =>
    if mark = 0x2E then
      rest.drop ((rest.take 3).takeWhile fun b => decide (0x30 ≤ b ∧ b ≤ 0x39)).length
    else mark :: rest

/-- Whether some bytes are a time with a year of two digits: `YYMMDDhhmm`, seconds if there is room
for them, and a time zone. -/
def isShort (bytes : List UInt8) : Bool :=
  Option.isSome do
    let (year, s) ← twoDigits? bytes
    let (month, s) ← twoDigits? s
    let (day, s) ← twoDigits? s
    let (hour, s) ← twoDigits? s
    let (minute, s) ← twoDigits? s
    let (second, s) ← seconds? s
    guard (isDay (2000 + year) month day && isTimeOfDay hour minute second && isZone s)

/-- Whether some bytes are a time with a year of four digits: `YYYYMMDDhhmm`, seconds if there is
room for them, a fraction, and `Z`. -/
def isLong (bytes : List UInt8) : Bool :=
  Option.isSome do
    let (century, s) ← twoDigits? bytes
    let (year, s) ← twoDigits? s
    let (month, s) ← twoDigits? s
    let (day, s) ← twoDigits? s
    let (hour, s) ← twoDigits? s
    let (minute, s) ← twoDigits? s
    let (second, s) ← seconds? s
    guard (isDay (century * 100 + year) month day && isTimeOfDay hour minute second &&
      dropFraction s == [0x5A])

end EntitlementClient.CertificateTime
