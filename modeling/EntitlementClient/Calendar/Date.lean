/-
Days of the proleptic Gregorian calendar within a fixed span of years: validity, counting days
forward, and the written form `YYYY-MM-DD`.
-/
import EntitlementClient.Text.Blank

namespace EntitlementClient

namespace Calendar

/-- The first year of the calendar's span. -/
def firstYear : Int := -262143

/-- The last year of the calendar's span. -/
def lastYear : Int := 262142

/-- Whether a year has a February 29. -/
def isLeapYear (year : Int) : Bool :=
  year % 4 == 0 && (year % 100 != 0 || year % 400 == 0)

/-- How many days a year has. -/
def yearLength (year : Int) : Nat :=
  if isLeapYear year then 366 else 365

/-- How many days a month has. -/
def monthLength (year : Int) (month : Nat) : Nat :=
  if month = 2 then if isLeapYear year then 29 else 28
  else if month = 4 ∨ month = 6 ∨ month = 9 ∨ month = 11 then 30
  else 31

/-- What makes three numbers a date. -/
def IsDate (year : Int) (month day : Nat) : Prop :=
  firstYear ≤ year ∧ year ≤ lastYear ∧ 1 ≤ month ∧ month ≤ 12 ∧
    1 ≤ day ∧ day ≤ monthLength year month

instance (year : Int) (month day : Nat) : Decidable (IsDate year month day) :=
  inferInstanceAs (Decidable (_ ∧ _))

/-- How many days of a year come before a month. -/
def daysBefore (year : Int) (month : Nat) : Nat :=
  (List.range (month - 1)).foldl (fun days m => days + monthLength year (m + 1)) 0

/-- The month and the day of the month of the `n`-th day counted from the first day of the first of
some months. -/
def monthAndDay? (year : Int) : List Nat → Nat → Option (Nat × Nat)
  | [], _ => none
  | month :: rest, n =>
    if n ≤ monthLength year month then some (month, n)
    else monthAndDay? year rest (n - monthLength year month)

end Calendar

open Calendar

/-- A day of the calendar. -/
structure Date where
  year : Int
  month : Nat
  day : Nat
  isDate : IsDate year month day
deriving DecidableEq

namespace Date

/-- The date of three numbers; `none` if there is no such day in the calendar's span. -/
def of? (year : Int) (month day : Nat) : Option Date :=
  if h : IsDate year month day then some ⟨year, month, day, h⟩ else none

/-- The number of a date within its year, counted from one. -/
def dayOfYear (d : Date) : Nat :=
  daysBefore d.year d.month + d.day

/-- The date that is the `n`-th day of a year, or of a later year if the year is shorter. -/
def ofDayOfYear? (year : Int) (n : Nat) : Option Date :=
  if yearLength year < n then ofDayOfYear? (year + 1) (n - yearLength year)
  else do
    let (month, day) ← monthAndDay? year [1, 2, 3, 4, 5, 6, 7, 8, 9, 10, 11, 12] n
    of? year month day
termination_by n
decreasing_by
  have : 0 < yearLength year := by unfold yearLength; split <;> omega
  omega

/-- The date `n` days later; `none` beyond the calendar's span. -/
def addDays? (d : Date) (n : Nat) : Option Date :=
  ofDayOfYear? d.year (d.dayOfYear + n)

/-! ## Text -/

/-- A number with at least `width` digits. -/
def padded (width n : Nat) : List Char :=
  let digits := Nat.toDigits 10 n
  List.replicate (width - digits.length) '0' ++ digits

/-- The digits of a year, with a sign unless it has four digits or fewer and is not negative. -/
def yearText (year : Int) : List Char :=
  if 0 ≤ year ∧ year ≤ 9999 then padded 4 year.natAbs
  else (if year < 0 then '-' else '+') :: padded 4 year.natAbs

/-- The written form of a date. -/
def text (d : Date) : List Char :=
  yearText d.year ++ '-' :: padded 2 d.month ++ '-' :: padded 2 d.day

/-- What is wrong with the text of a date. -/
inductive TextError
  | outOfRange
  | invalid
  | tooShort
  | tooLong
deriving DecidableEq

/-- Reads a number of at most `most` digits at the start of a text. -/
def readNumber (most : Option Nat) (s : List Char) : Except TextError (Nat × List Char) :=
  -- digits beyond the most that are allowed are left for what comes next
  let within := match most with
    | some n => s.take n
    | none => s
  let digits := within.takeWhile Char.isDigit
  if s.isEmpty then .error .tooShort
  else if digits.isEmpty then .error .invalid
  else
    let n := digits.foldl (fun n c => n * 10 + (c.toNat - 0x30)) 0
    if n < 0x8000000000000000 then .ok (n, s.drop digits.length) else .error .outOfRange

/-- Reads a number with its sign: four digits at most, or any number of digits after a sign. -/
def readSigned : List Char → Except TextError (Int × List Char)
  | '-' :: s => (readNumber none s).map fun p => (-(p.1 : Int), p.2)
  | '+' :: s => (readNumber none s).map fun p => ((p.1 : Int), p.2)
  | s => (readNumber (some 4) s).map fun p => ((p.1 : Int), p.2)

/-- Accepts a year that is a number of 32 bits with a sign. -/
def checkYear (year : Int) (rest : List Char) : Except TextError (Int × List Char) :=
  if -0x80000000 ≤ year ∧ year < 0x80000000 then .ok (year, rest) else .error .outOfRange

/-- Reads a year. -/
def readYear (s : List Char) : Except TextError (Int × List Char) :=
  (readSigned s).bind fun p => checkYear p.1 p.2

/-- Reads a number of one or two digits that lies between one and `greatest`. -/
def readPart (greatest : Nat) (s : List Char) : Except TextError (Nat × List Char) := do
  let (n, rest) ← readNumber (some 2) s
  if 1 ≤ n ∧ n ≤ greatest then .ok (n, rest) else .error .outOfRange

/-- Reads the dash between two numbers. -/
def readDash (s : List Char) : Except TextError (List Char) :=
  match s with
  | [] => .error .tooShort
  | '-' :: rest => .ok rest
  | _ => .error .invalid

/-- Reads a date. White space may stand around every number. -/
def parse (s : List Char) : Except TextError Date := do
  let (year, s) ← readYear (Text.trimStart s)
  let s ← readDash (Text.trimStart s)
  let (month, s) ← readPart 12 (Text.trimStart s)
  let s ← readDash (Text.trimStart s)
  let (day, s) ← readPart 31 (Text.trimStart s)
  -- left-over text is reported even if there is no such day
  if (Text.trimStart s).isEmpty then
    match of? year month day with
    | some d => .ok d
    | none => .error .outOfRange
  else .error .tooLong

end Date

end EntitlementClient
