import Relational.Calendar.Date

/-!
# Moments

A moment is a date with a time of day.  The second before a minute ends may be
followed by a leap second, which is kept as that second with a billion or more
nanoseconds.
-/

namespace Relational

/-- A date with a time of day. -/
structure DateTime where
  date : Date
  hour : Nat
  minute : Nat
  second : Nat
  /-- Nanoseconds; from a billion on they are those of a leap second. -/
  nanosecond : Nat
deriving DecidableEq, Repr

namespace DateTime

/-- The first moment of a day. -/
def startOfDay (date : Date) : DateTime :=
  ⟨date, 0, 0, 0, 0⟩

/-- The moment at a time of day, if there is such a time.  The second sixty is
the leap second. -/
def ofParts? (date : Date) (hour minute second nanosecond : Nat) : Option DateTime :=
  if hour ≤ 23 ∧ minute ≤ 59 ∧ second ≤ 60 then
    if second = 60 then some ⟨date, hour, minute, 59, nanosecond + 1000000000⟩
    else some ⟨date, hour, minute, second, nanosecond⟩
  else
    none

/-- The seconds of the day before this moment. -/
def secondOfDay (moment : DateTime) : Nat :=
  moment.hour * 3600 + moment.minute * 60 + moment.second

/-- The moment some seconds after the first moment of the day of a number. -/
def ofSeconds? (day : Int) (seconds : Int) (nanosecond : Nat) : Option DateTime :=
  let ofDay := (seconds % 86400).toNat
  (Date.ofNumber? (day + seconds / 86400)).map fun date =>
    ⟨date, ofDay / 3600, ofDay / 60 % 60, ofDay % 60, nanosecond⟩

/-- The number of the first day of the year 1970. -/
def epochDay : Int :=
  719163

/-- The moment some nanoseconds after the start of the year 1970. -/
def ofUnixTime? (nanoseconds : Int) : Option DateTime :=
  ofSeconds? epochDay (nanoseconds / 1000000000) (nanoseconds % 1000000000).toNat

/-- The moment some seconds earlier, or later if the number is negative.  Time
that leaves a leap second backwards leaves it from its end. -/
def subtractSeconds? (moment : DateTime) (seconds : Int) : Option DateTime :=
  if seconds = 0 then some moment
  else
    let isLeap := 1000000000 ≤ moment.nanosecond
    let start : Int := if isLeap ∧ 0 < seconds then moment.secondOfDay + 1 else moment.secondOfDay
    let nanosecond := if isLeap then moment.nanosecond - 1000000000 else moment.nanosecond
    ofSeconds? moment.date.number (start - seconds) nanosecond

/-- The moment at another offset from universal time: the same second of the
minute, some minutes earlier. -/
def subtractOffset? (moment : DateTime) (minutes : Int) : Option DateTime :=
  ofSeconds? moment.date.number (moment.secondOfDay - minutes * 60) moment.nanosecond

/-- The moment some months earlier, at the same time of day. -/
def subtractMonths? (moment : DateTime) (months : Int) : Option DateTime :=
  (moment.date.subtractMonths? months).map fun date => { moment with date := date }

end DateTime

end Relational
