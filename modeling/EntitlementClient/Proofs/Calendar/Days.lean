/-
Counting days. The date that is a number of days later is the one that is reached from day to day; 365 days
later it is the same day of the next year, or the day before that if a leap day lies between.
-/
import EntitlementClient.Calendar.Date
import Mathlib.Tactic.ByContra

namespace EntitlementClient

namespace Calendar

/-! ## Months of a year -/

/-- The months of a year. -/
abbrev months : List Nat := [1, 2, 3, 4, 5, 6, 7, 8, 9, 10, 11, 12]

/-- After a month of the year come those with greater numbers. -/
theorem of_months_eq {before after : List Nat} {month : Nat} (h : months = before ++ month :: after) :
    1 ≤ month ∧ month ≤ 12 ∧ after = List.range' (month + 1) (12 - month) := by
  rw [show months = List.range' 1 12 from rfl, List.range'_eq_append_iff] at h
  obtain ⟨count, le, -, rest⟩ := h
  rw [eq_comm, List.range'_eq_cons_iff] at rest
  obtain ⟨rfl, pos, rfl⟩ := rest
  exact ⟨by omega, by omega, by congr 1; omega⟩

theorem monthLength_pos (year : Int) (month : Nat) : 1 ≤ monthLength year month := by
  unfold monthLength
  split
  · split <;> decide
  · split <;> decide

theorem monthLength_february_le (year : Int) : monthLength year 2 ≤ 29 := by
  cases h : isLeapYear year <;> simp [monthLength, h]

/-- How many days some months of a year have. -/
def daysOf (year : Int) : List Nat → Nat
  | [] => 0
  | month :: rest => monthLength year month + daysOf year rest

@[simp] theorem daysOf_nil (year : Int) : daysOf year [] = 0 := rfl

@[simp] theorem daysOf_cons (year : Int) (month : Nat) (rest : List Nat) :
    daysOf year (month :: rest) = monthLength year month + daysOf year rest := rfl

@[simp] theorem daysOf_append (year : Int) (before after : List Nat) :
    daysOf year (before ++ after) = daysOf year before + daysOf year after := by
  induction before with
  | nil => simp
  | cons month before ih => rw [List.cons_append, daysOf_cons, daysOf_cons, ih, Nat.add_assoc]

theorem daysOf_months (year : Int) : daysOf year months = yearLength year := by
  cases h : isLeapYear year <;> simp [monthLength, yearLength, h]

theorem foldl_monthLength (year : Int) (some : List Nat) (n : Nat) :
    some.foldl (fun days month => days + monthLength year month) n = n + daysOf year some := by
  induction some generalizing n with
  | nil => rfl
  | cons month rest ih => rw [List.foldl_cons, ih, daysOf_cons, Nat.add_assoc]

theorem daysBefore_eq (year : Int) (month : Nat) : daysBefore year month = daysOf year (List.range' 1 (month - 1)) := by
  rw [daysBefore, ← Nat.zero_add (daysOf _ _), ← foldl_monthLength, List.range'_eq_map_range, List.foldl_map]
  simp only [Nat.add_comm 1]

/-- How many leap days of a year come before a month. -/
def leapDaysBefore (year : Int) (month : Nat) : Nat :=
  if isLeapYear year ∧ 2 < month then 1 else 0

/-- The days before a month are those of a common year, such as the first, and the leap day. -/
theorem daysBefore_eq_add (year : Int) (month : Nat) :
    daysBefore year month = daysBefore 1 month + leapDaysBefore year month := by
  cases month with
  | zero => simp [daysBefore, leapDaysBefore]
  | succ month =>
    induction month with
    | zero => simp [daysBefore, leapDaysBefore]
    | succ month ih =>
      have succ (y : Int) : daysBefore y (month + 2) = daysBefore y (month + 1) + monthLength y (month + 1) := by
        rw [daysBefore_eq, daysBefore_eq, show month + 2 - 1 = month + 1 by omega, List.range'_1_concat, daysOf_append]
        simp [Nat.add_comm]
      have plain : isLeapYear 1 = false := by decide
      rw [succ, succ, ih]
      simp only [leapDaysBefore, monthLength, plain]
      cases isLeapYear year <;> grind

/-- No two years that follow each other have leap days. -/
theorem isLeapYear_succ {year : Int} (h : isLeapYear year = true) : isLeapYear (year + 1) = false := by
  simp only [isLeapYear, Bool.and_eq_true, beq_iff_eq] at h
  have later : ((year + 1) % 4 == 0) = false := by
    rw [beq_eq_false_iff_ne]
    omega
  rw [isLeapYear, later, Bool.false_and]

/-- A day of a month is counted after all days of the months before. -/
theorem monthAndDay?_append {year : Int} (before after : List Nat) {month day : Nat} (pos : 1 ≤ day)
    (le : day ≤ monthLength year month) :
    monthAndDay? year (before ++ month :: after) (daysOf year before + day) = some (month, day) := by
  induction before with
  | nil => simp [monthAndDay?, le]
  | cons first before ih =>
    have beyond : ¬monthLength year first + daysOf year before + day ≤ monthLength year first := by omega
    have rest :
        monthLength year first + daysOf year before + day - monthLength year first = daysOf year before + day := by
      omega
    rw [daysOf_cons, List.cons_append, monthAndDay?, if_neg beyond, rest, ih]

/-- Every day of some months lies in one of them. -/
theorem exists_month_of_le {year : Int} {all : List Nat} {n : Nat} (pos : 1 ≤ n) (le : n ≤ daysOf year all) :
    ∃ before month after day, all = before ++ month :: after ∧ n = daysOf year before + day ∧ 1 ≤ day ∧
      day ≤ monthLength year month := by
  induction all generalizing n with
  | nil => rw [daysOf_nil] at le; omega
  | cons first rest ih =>
    by_cases h : n ≤ monthLength year first
    · exact ⟨[], first, rest, n, rfl, by simp, pos, h⟩
    · rw [daysOf_cons] at le
      obtain ⟨before, month, after, day, eq, count, day_pos, day_le⟩ := ih (n := n - monthLength year first)
        (by omega) (by omega)
      exact ⟨first :: before, month, after, day, by rw [eq]; rfl, by rw [daysOf_cons]; omega, day_pos, day_le⟩

end Calendar

open Calendar

namespace Date

/-! ## From day to day -/

/-- The day after a date. -/
def next? (d : Date) : Option Date :=
  if d.day < monthLength d.year d.month then of? d.year d.month (d.day + 1)
  else if d.month < 12 then of? d.year (d.month + 1) 1
  else of? (d.year + 1) 1 1

/-- The date after a number of days, one day after the other. -/
def later? (d : Date) : Nat → Option Date
  | 0 => some d
  | n + 1 => (later? d n).bind next?

theorem of?_self (d : Date) : of? d.year d.month d.day = some d :=
  dif_pos d.isDate

theorem of?_eq_none {year : Int} {month day : Nat} : of? year month day = none ↔ ¬IsDate year month day := by
  simp [of?]

theorem of?_eq_none_of_lt {year : Int} (beyond : lastYear < year) (month day : Nat) : of? year month day = none := by
  rw [of?_eq_none]
  rintro ⟨-, within, -⟩
  omega

theorem of?_eq_some {year : Int} {month day : Nat} {d : Date} :
    of? year month day = some d ↔ d.year = year ∧ d.month = month ∧ d.day = day := by
  constructor
  · intro h
    unfold of? at h
    split at h
    · cases h
      exact ⟨rfl, rfl, rfl⟩
    · cases h
  · rintro ⟨rfl, rfl, rfl⟩
    exact of?_self d

/-- A day of some year is found by its number, once the days of that year are counted. -/
theorem ofDayOfYear?_of_le {year : Int} {before after : List Nat} {month day : Nat}
    (all : months = before ++ month :: after) (pos : 1 ≤ day) (le : day ≤ monthLength year month) :
    ofDayOfYear? year (daysOf year before + day) = of? year month day := by
  have within : ¬yearLength year < daysOf year before + day := by
    rw [← daysOf_months, all, daysOf_append, daysOf_cons]
    omega
  rw [ofDayOfYear?, if_neg within]
  show (monthAndDay? year months _).bind _ = _
  rw [all, monthAndDay?_append before after pos le]
  rfl

theorem ofDayOfYear?_add_yearLength (year : Int) {n : Nat} (pos : 1 ≤ n) :
    ofDayOfYear? year (yearLength year + n) = ofDayOfYear? (year + 1) n := by
  rw [ofDayOfYear?, if_pos (by omega), Nat.add_sub_cancel_left]

/-- A date is found by its number within its year. -/
theorem ofDayOfYear?_dayOfYear (d : Date) : ofDayOfYear? d.year d.dayOfYear = some d := by
  obtain ⟨-, -, month_pos, month_le, day_pos, day_le⟩ := d.isDate
  have all : months = List.range' 1 (d.month - 1) ++ d.month :: List.range' (d.month + 1) (12 - d.month) := by
    have parts : List.range' 1 12 = List.range' 1 (d.month - 1) ++ List.range' (1 + (d.month - 1)) (13 - d.month) := by
      rw [List.range'_append_1, show d.month - 1 + (13 - d.month) = 12 by omega]
    rw [show 1 + (d.month - 1) = d.month by omega, show 13 - d.month = 12 - d.month + 1 by omega,
      List.range'_succ] at parts
    exact parts
  rw [dayOfYear, daysBefore_eq, ofDayOfYear?_of_le all day_pos day_le, of?_self]

theorem of?_bind_next? {year : Int} {month day : Nat} (first : firstYear ≤ year) (month_pos : 1 ≤ month)
    (month_le : month ≤ 12) (day_pos : 1 ≤ day) (day_le : day ≤ monthLength year month) :
    (of? year month day).bind next? =
      if day < monthLength year month then of? year month (day + 1)
      else if month < 12 then of? year (month + 1) 1 else of? (year + 1) 1 1 := by
  by_cases last : year ≤ lastYear
  · rw [of?, dif_pos ⟨first, last, month_pos, month_le, day_pos, day_le⟩]
    rfl
  · have here : lastYear < year := by omega
    have next : lastYear < year + 1 := by omega
    simp only [of?_eq_none_of_lt here, of?_eq_none_of_lt next, Option.bind_none, ite_self]

/-- One more day leads to the day after. -/
theorem ofDayOfYear?_succ {year : Int} {n : Nat} (first : firstYear ≤ year) (pos : 1 ≤ n) :
    ofDayOfYear? year (n + 1) = (ofDayOfYear? year n).bind next? := by
  fun_induction ofDayOfYear? year n with
  | case1 year n beyond ih =>
    rw [ofDayOfYear?, if_pos (by omega), show n + 1 - yearLength year = n - yearLength year + 1 by omega]
    exact ih (by omega) (by omega)
  | case2 year n within =>
    have le : n ≤ daysOf year months := by rw [daysOf_months]; omega
    obtain ⟨before, month, after, day, all, rfl, day_pos, day_le⟩ := exists_month_of_le pos le
    obtain ⟨month_pos, month_le, rest⟩ := of_months_eq all
    have here : ofDayOfYear? year (daysOf year before + day) = of? year month day :=
      ofDayOfYear?_of_le all day_pos day_le
    rw [ofDayOfYear?, if_neg within] at here
    show _ = Option.bind _ next?
    rw [here, of?_bind_next? first month_pos month_le day_pos day_le]
    -- the day after is in the same month, is the first of the next month, or the first of the next year
    split
    · next more => exact ofDayOfYear?_of_le all (by omega) more
    · next full =>
      have day_eq : day = monthLength year month := by omega
      have count : daysOf year before + day + 1 = daysOf year (before ++ [month]) + 1 := by simp [day_eq]
      rw [count]
      split
      · next more =>
        rw [show 12 - month = 11 - month + 1 by omega, List.range'_succ] at rest
        have all' : months = (before ++ [month]) ++ (month + 1) :: List.range' (month + 2) (11 - month) := by
          rw [all, rest, List.append_assoc]
          rfl
        exact ofDayOfYear?_of_le all' (Nat.le_refl 1) (monthLength_pos _ _)
      · next last =>
        rw [show 12 - month = 0 by omega, List.range'_zero] at rest
        rw [rest] at all
        rw [← all, daysOf_months, ofDayOfYear?_add_yearLength year (Nat.le_refl 1)]
        have january : months = [] ++ 1 :: List.range' 2 11 := rfl
        exact ofDayOfYear?_of_le january (Nat.le_refl 1) (monthLength_pos _ _)

theorem dayOfYear_pos (d : Date) : 1 ≤ d.dayOfYear := by
  obtain ⟨-, -, -, -, pos, -⟩ := d.isDate
  rw [dayOfYear]
  omega

/-- To count days within years is to go from day to day. -/
theorem addDays?_eq_later? (d : Date) (n : Nat) : d.addDays? n = d.later? n := by
  induction n with
  | zero => exact ofDayOfYear?_dayOfYear d
  | succ n ih =>
    have pos : 1 ≤ d.dayOfYear + n := Nat.le_add_right_of_le (dayOfYear_pos d)
    rw [later?, ← ih]
    exact ofDayOfYear?_succ d.isDate.1 pos

/-! ## Order -/

instance : LT Date :=
  ⟨fun d e => d.year < e.year ∨ d.year = e.year ∧ (d.month < e.month ∨ d.month = e.month ∧ d.day < e.day)⟩

instance : LE Date :=
  ⟨fun d e => d.year < e.year ∨ d.year = e.year ∧ (d.month < e.month ∨ d.month = e.month ∧ d.day ≤ e.day)⟩

theorem lt_iff {d e : Date} : d < e ↔
    d.year < e.year ∨ d.year = e.year ∧ (d.month < e.month ∨ d.month = e.month ∧ d.day < e.day) :=
  Iff.rfl

theorem le_iff {d e : Date} : d ≤ e ↔
    d.year < e.year ∨ d.year = e.year ∧ (d.month < e.month ∨ d.month = e.month ∧ d.day ≤ e.day) :=
  Iff.rfl

theorem le_of_lt {d e : Date} (h : d < e) : d ≤ e := by
  rw [lt_iff] at h
  rw [le_iff]
  omega

/-- Nothing lies between a date and the day after. -/
theorem lt_next?_iff {d next : Date} (h : d.next? = some next) (e : Date) : e < next ↔ e ≤ d := by
  obtain ⟨-, -, month_pos, month_le, day_pos, day_le⟩ := e.isDate
  obtain ⟨-, -, -, last_month, -, -⟩ := d.isDate
  have same_month : ¬(e.year = d.year ∧ e.month = d.month) ∨ e.day ≤ monthLength d.year d.month := by
    by_cases same : e.year = d.year ∧ e.month = d.month
    · exact .inr (by rw [← same.1, ← same.2]; exact day_le)
    · exact .inl same
  rw [lt_iff, le_iff]
  unfold next? at h
  split at h
  · obtain ⟨year, month, day⟩ := of?_eq_some.1 h
    rw [year, month, day]
    omega
  · split at h
    · obtain ⟨year, month, day⟩ := of?_eq_some.1 h
      rw [year, month, day]
      omega
    · obtain ⟨year, month, day⟩ := of?_eq_some.1 h
      rw [year, month, day]
      omega

/-! ## A year later -/

/-- Whether a date is a February 29. -/
def IsLeapDay (d : Date) : Prop :=
  d.month = 2 ∧ d.day = 29

/-- Whether a February 29 lies after a date and no later than another. -/
def LeapDayWithin (start last : Date) : Prop :=
  ∃ leap : Date, leap.IsLeapDay ∧ start < leap ∧ leap ≤ last

/-- How the date 365 days later is found in a calendar. -/
structure IsYearLater (start last : Date) : Prop where
  ofLeapDay : start.IsLeapDay → of? (start.year + 1) 2 28 = some last
  ofCommon : ¬start.IsLeapDay → ¬LeapDayWithin start last → of? (start.year + 1) start.month start.day = some last
  ofLeap : LeapDayWithin start last →
    ∃ anniversary, of? (start.year + 1) start.month start.day = some anniversary ∧ last.next? = some anniversary

/-- Whether a leap day lies between the day of a month of a year and that of the next year. -/
def SpansLeapDay (year : Int) (month : Nat) : Prop :=
  isLeapYear year ∧ month ≤ 2 ∨ isLeapYear (year + 1) ∧ 2 < month

theorem isLeapYear_of_isLeapDay {d : Date} (h : d.IsLeapDay) : isLeapYear d.year = true := by
  obtain ⟨-, -, -, -, -, day_le⟩ := d.isDate
  obtain ⟨month, day⟩ := h
  cases leap : isLeapYear d.year with
  | true => rfl
  | false => simp [month, day, monthLength, leap] at day_le

/-- A February 29 of a leap year. -/
theorem exists_isLeapDay {year : Int} (first : firstYear ≤ year) (last : year ≤ lastYear)
    (leap : isLeapYear year = true) : ∃ d : Date, d.year = year ∧ d.IsLeapDay :=
  ⟨⟨year, 2, 29, first, last, by decide, by decide, by decide, by simp [monthLength, leap]⟩, rfl, rfl, rfl⟩

/-- Between a date and the day before the same day of the next year, or that day itself, lies a leap day of one
of the two years or none. -/
theorem leapDayWithin_iff {start last anniversary : Date} (notLeap : ¬start.IsLeapDay)
    (year : anniversary.year = start.year + 1) (month : anniversary.month = start.month)
    (day : anniversary.day = start.day)
    (near : last = anniversary ∨ last.next? = some anniversary) :
    LeapDayWithin start last ↔ SpansLeapDay start.year start.month := by
  obtain ⟨first, -, -, -, -, -⟩ := start.isDate
  obtain ⟨-, within, -, -, -, day_le⟩ := anniversary.isDate
  have notLeap' : start.month = 2 → start.day < 29 := by
    intro feb
    have le : start.day ≤ 29 := by
      rw [day, month, feb] at day_le
      exact Nat.le_trans day_le (monthLength_february_le _)
    have ne : start.day ≠ 29 := fun h => notLeap ⟨feb, h⟩
    omega
  constructor
  · rintro ⟨leap, isLeap, after, before⟩
    have isLeapYear := isLeapYear_of_isLeapDay isLeap
    obtain ⟨feb, d29⟩ := isLeap
    have before' : leap ≤ anniversary := by
      rcases near with rfl | next
      · exact before
      · exact le_of_lt ((lt_next?_iff next leap).2 before)
    rw [lt_iff] at after
    rw [le_iff] at before'
    by_cases same : leap.year = start.year
    · exact .inl ⟨same ▸ isLeapYear, by omega⟩
    · have next : leap.year = start.year + 1 := by omega
      exact .inr ⟨next ▸ isLeapYear, by omega⟩
  · intro spans
    have early (leap : Date) (before : leap < anniversary) : leap ≤ last := by
      rcases near with rfl | next
      · exact le_of_lt before
      · exact (lt_next?_iff next leap).1 before
    rcases spans with ⟨isLeapYear, le⟩ | ⟨isLeapYear, lt⟩
    · obtain ⟨leap, eq, feb, d29⟩ := exists_isLeapDay first (by omega) isLeapYear
      exact ⟨leap, ⟨feb, d29⟩, by rw [lt_iff]; omega, early leap (by rw [lt_iff]; omega)⟩
    · obtain ⟨leap, eq, feb, d29⟩ := exists_isLeapDay (by omega) (by omega) isLeapYear
      exact ⟨leap, ⟨feb, d29⟩, by rw [lt_iff]; omega, early leap (by rw [lt_iff]; omega)⟩

theorem addDays?_eq_of_dayOfYear {start d : Date} {n : Nat} (year : d.year = start.year + 1)
    (count : start.dayOfYear + n = yearLength start.year + d.dayOfYear) : start.addDays? n = some d := by
  rw [addDays?, count, ofDayOfYear?_add_yearLength _ (dayOfYear_pos d), ← year, ofDayOfYear?_dayOfYear]

/-- How many days there are from a date to the same day of the next year. -/
theorem dayOfYear_anniversary {start anniversary : Date} (year : anniversary.year = start.year + 1)
    (month : anniversary.month = start.month) (day : anniversary.day = start.day) :
    (SpansLeapDay start.year start.month → start.dayOfYear + 366 = yearLength start.year + anniversary.dayOfYear) ∧
    (¬SpansLeapDay start.year start.month → start.dayOfYear + 365 = yearLength start.year + anniversary.dayOfYear) := by
  have notBoth : isLeapYear start.year = true → isLeapYear (start.year + 1) = false := isLeapYear_succ
  rw [dayOfYear, dayOfYear, daysBefore_eq_add start.year, daysBefore_eq_add anniversary.year, year, month, day]
  simp only [leapDaysBefore, SpansLeapDay, yearLength]
  grind

theorem ofDayOfYear?_eq_none {year : Int} (beyond : lastYear < year) (n : Nat) : ofDayOfYear? year n = none := by
  fun_induction ofDayOfYear? year n with
  | case1 year n _ ih => exact ih (by omega)
  | case2 year n _ =>
    cases monthAndDay? year months n with
    | none => rfl
    | some part => exact of?_eq_none_of_lt beyond part.1 part.2

theorem addDays?_lastYear {start : Date} (last : start.year = lastYear) : start.addDays? 365 = none := by
  have pos := dayOfYear_pos start
  have length : yearLength start.year = 365 := by rw [last]; decide
  rw [addDays?, show start.dayOfYear + 365 = yearLength start.year + start.dayOfYear by omega,
    ofDayOfYear?_add_yearLength _ pos, ofDayOfYear?_eq_none (by omega)]

/-- 365 days after a February 29 is the last day of the next February. -/
theorem addDays?_leapDay {start : Date} (within : start.year < lastYear) (leap : start.IsLeapDay) :
    ∃ last, of? (start.year + 1) 2 28 = some last ∧ start.addDays? 365 = some last := by
  obtain ⟨first, -⟩ := start.isDate
  have plain : isLeapYear (start.year + 1) = false := isLeapYear_succ (isLeapYear_of_isLeapDay leap)
  have isDate : IsDate (start.year + 1) 2 28 :=
    ⟨by omega, by omega, by decide, by decide, by decide, by simp [monthLength, plain]⟩
  refine ⟨⟨_, _, _, isDate⟩, dif_pos isDate, addDays?_eq_of_dayOfYear rfl ?_⟩
  have length : yearLength start.year = 366 := if_pos (isLeapYear_of_isLeapDay leap)
  have before (year : Int) : daysBefore year 2 = 31 := rfl
  rw [dayOfYear, dayOfYear, leap.1, leap.2, length, before]
  rfl

/-- Every other day is one of the next year too. -/
theorem exists_anniversary {start : Date} (within : start.year < lastYear) (notLeap : ¬start.IsLeapDay) :
    ∃ anniversary, of? (start.year + 1) start.month start.day = some anniversary := by
  obtain ⟨first, last, month_pos, month_le, day_pos, day_le⟩ := start.isDate
  have le : start.day ≤ monthLength (start.year + 1) start.month := by
    by_cases feb : start.month = 2
    · have := monthLength_february_le start.year
      have ne : start.day ≠ 29 := fun h => notLeap ⟨feb, h⟩
      rw [feb] at day_le ⊢
      have : 28 ≤ monthLength (start.year + 1) 2 := by
        cases h : isLeapYear (start.year + 1) <;> simp [monthLength, h]
      omega
    · unfold monthLength at day_le ⊢
      rw [if_neg feb] at day_le ⊢
      exact day_le
  have isDate : IsDate (start.year + 1) start.month start.day := ⟨by omega, by omega, month_pos, month_le, day_pos, le⟩
  exact ⟨⟨_, _, _, isDate⟩, dif_pos isDate⟩

/-- The date 365 days later, if it does not lie beyond the calendar. -/
theorem exists_isYearLater {start : Date} (within : start.year < lastYear) :
    ∃ last, start.addDays? 365 = some last ∧ IsYearLater start last := by
  by_cases isLeap : start.IsLeapDay
  · obtain ⟨last, isLast, count⟩ := addDays?_leapDay within isLeap
    have none : ¬LeapDayWithin start last := by
      rintro ⟨leap, isLeap', after, before⟩
      obtain ⟨year, month, day⟩ := of?_eq_some.1 isLast
      obtain ⟨feb, d29⟩ := isLeap
      obtain ⟨feb', d29'⟩ := isLeap'
      rw [lt_iff] at after
      rw [le_iff] at before
      omega
    exact ⟨last, count, fun _ => isLast, fun notLeap => absurd isLeap notLeap, fun leap => absurd leap none⟩
  · obtain ⟨anniversary, isAnniversary⟩ := exists_anniversary within isLeap
    obtain ⟨year, month, day⟩ := of?_eq_some.1 isAnniversary
    obtain ⟨longer, same⟩ := dayOfYear_anniversary year month day
    by_cases spans : SpansLeapDay start.year start.month
    · -- the anniversary is 366 days later, so that the day before it is looked for
      have count := addDays?_eq_of_dayOfYear year (longer spans)
      rw [addDays?_eq_later?, later?, ← addDays?_eq_later?, Option.bind_eq_some_iff] at count
      obtain ⟨last, isLast, next⟩ := count
      have leapDay := (leapDayWithin_iff isLeap year month day (.inr next)).2 spans
      exact ⟨last, isLast, fun h => absurd h isLeap, fun _ h => absurd leapDay h,
        fun _ => ⟨anniversary, isAnniversary, next⟩⟩
    · have none := mt (leapDayWithin_iff isLeap year month day (.inl rfl)).1 spans
      exact ⟨anniversary, addDays?_eq_of_dayOfYear year (same spans), fun h => absurd h isLeap,
        fun _ _ => isAnniversary, fun h => absurd h none⟩

theorem addDays?_year_eq_none (start : Date) : start.addDays? 365 = none ↔ start.year = lastYear := by
  obtain ⟨-, le, -⟩ := start.isDate
  constructor
  · intro none
    by_contra other
    obtain ⟨last, eq, -⟩ := exists_isYearLater (by omega : start.year < lastYear)
    rw [none] at eq
    cases eq
  · exact addDays?_lastYear

theorem isYearLater_of_addDays? {start last : Date} (h : start.addDays? 365 = some last) : IsYearLater start last := by
  obtain ⟨-, le, -⟩ := start.isDate
  have notLast : start.year ≠ lastYear := by
    intro eq
    rw [addDays?_lastYear eq] at h
    cases h
  obtain ⟨last', eq, later⟩ := exists_isYearLater (by omega : start.year < lastYear)
  rw [h] at eq
  cases eq
  exact later

end Date

end EntitlementClient
