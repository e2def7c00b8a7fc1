/-!
# Dates

Dates of the Gregorian calendar, extended to all years without a gap.  A date
also has a number, the days since the last day of the year zero, which carries
the arithmetic.
-/

namespace Relational

/-- A day of the calendar. -/
structure Date where
  year : Int
  month : Nat
  day : Nat
deriving DecidableEq, Repr

namespace Date

/-- Every fourth year is a leap year, except that of the centuries only every
fourth one is. -/
def isLeapYear (year : Int) : Bool :=
  year % 4 = 0 && (year % 100 ≠ 0 || year % 400 = 0)

/-- How many days a month has. -/
def daysInMonth (year : Int) (month : Nat) : Nat :=
  match month with
  | 2 => if isLeapYear year then 29 else 28
  | 4 => 30
  | 6 => 30
  | 9 => 30
  | 11 => 30
  | _ => 31

/-- The first year in which dates are supported. -/
def firstYear : Int := -262143

/-- The last year in which dates are supported. -/
def lastYear : Int := 262142

/-- The date of a year, month and day, if there is such a day. -/
def ofParts? (year : Int) (month day : Nat) : Option Date :=
  if firstYear ≤ year ∧ year ≤ lastYear ∧ 1 ≤ month ∧ month ≤ 12 ∧
      1 ≤ day ∧ day ≤ daysInMonth year month then
    some ⟨year, month, day⟩
  else
    none

/-- The days of a year before a month. -/
def daysBeforeMonth (year : Int) (month : Nat) : Nat :=
  (List.range (month - 1)).foldl (fun days earlier => days + daysInMonth year (earlier + 1)) 0

/-- The days from the first day of the year one up to the end of a year. -/
def daysThroughYear (year : Int) : Int :=
  365 * year + year / 4 - year / 100 + year / 400

/-- The number of a date: the first day of the year one has the number one. -/
def number (date : Date) : Int :=
  daysThroughYear (date.year - 1) + daysBeforeMonth date.year date.month + date.day

/-- The month and day that are `day` days after the end of the year before,
trying the months from `month` on. -/
def monthAndDay (year : Int) : Nat → Nat → Nat → Nat × Nat
  | 0, month, day => (month, day)
  | later + 1, month, day =>
    if day ≤ daysInMonth year month then (month, day)
    else monthAndDay year later (month + 1) (day - daysInMonth year month)

/-- The year in which the day of a number falls.  The mean length of a year
finds it or one of its neighbours. -/
def yearOfNumber (number : Int) : Int :=
  let guess := number * 400 / 146097 + 1
  if number ≤ daysThroughYear (guess - 1) then guess - 1
  else if daysThroughYear guess < number then guess + 1
  else guess

/-- The date of a number, if it is in a supported year. -/
def ofNumber? (number : Int) : Option Date :=
  let year := yearOfNumber number
  let dayOfYear := (number - daysThroughYear (year - 1)).toNat
  let (month, day) := monthAndDay year 11 1 dayOfYear
  ofParts? year month day

/-- The days of the week, from Sunday on. -/
def weekdayNames : List String :=
  ["Sunday", "Monday", "Tuesday", "Wednesday", "Thursday", "Friday", "Saturday"]

/-- The day of the week, counted from zero for Sunday. -/
def weekday (date : Date) : Nat :=
  (date.number % 7).toNat

/-- The name of the day of the week. -/
def weekdayName (date : Date) : String :=
  weekdayNames.getD date.weekday ""

/-- The date some months earlier, or later if the number is negative.  The day
is cut to the length of the month. -/
def subtractMonths? (date : Date) (months : Int) : Option Date :=
  let index := date.year * 12 + (date.month - 1 : Nat) - months
  let year := index / 12
  let month := (index % 12).toNat + 1
  ofParts? year month (min date.day (daysInMonth year month))

end Date

end Relational
