/-!
Contract: civil dates and times of day, without time zones.

Dates follow the Gregorian calendar in both directions of time. A leap second is
the last second of a minute with a nanosecond of a thousand million or more.
-/

namespace Harvest.Calendar

structure Date where
  year : Int
  month : Nat
  day : Nat
deriving DecidableEq

structure Time where
  hour : Nat
  minute : Nat
  second : Nat
  nanosecond : Nat
deriving DecidableEq

structure Moment where
  date : Date
  time : Time
deriving DecidableEq

def isLeap (year : Int) : Bool :=
  (year % 4 == 0 && year % 100 != 0) || year % 400 == 0

def daysInMonth (year : Int) (month : Nat) : Nat :=
  if month = 2 then (if isLeap year then 29 else 28)
  else if month = 4 ∨ month = 6 ∨ month = 9 ∨ month = 11 then 30
  else 31

def daysInYear (year : Int) : Nat :=
  if isLeap year then 366 else 365

def daysBeforeMonth (year : Int) (month : Nat) : Nat :=
  (List.range (month - 1)).foldl (fun days earlier => days + daysInMonth year (earlier + 1)) 0

/-- The years in which dates exist. -/
def isYear (year : Int) : Bool :=
  -262143 ≤ year && year ≤ 262142

namespace Date

/-- The date of a year, month and day, if there is one. -/
def of? (year : Int) (month day : Nat) : Option Date :=
  if isYear year ∧ 1 ≤ month ∧ month ≤ 12 ∧ 1 ≤ day ∧ day ≤ daysInMonth year month then
    some ⟨year, month, day⟩
  else none

/-- The month that holds a day of the year, searched from a month on, with the day in it. -/
def monthOf (year : Int) : (months month ordinal : Nat) → Nat × Nat
  | 0, month, ordinal => (month, ordinal)
  | months + 1, month, ordinal =>
    if ordinal ≤ daysInMonth year month then (month, ordinal)
    else monthOf year months (month + 1) (ordinal - daysInMonth year month)

/-- The date of a day of a year, counted from one. -/
def ofOrdinal? (year : Int) (ordinal : Nat) : Option Date :=
  if isYear year ∧ 1 ≤ ordinal ∧ ordinal ≤ daysInYear year then
    let (month, day) := monthOf year 11 1 ordinal
    some ⟨year, month, day⟩
  else none

def ordinal (date : Date) : Nat :=
  daysBeforeMonth date.year date.month + date.day

/-- The number of days from the first of January of the year one to the same day of a year. -/
def daysBeforeYear (year : Int) : Int :=
  let earlier := year - 1
  365 * earlier + earlier / 4 - earlier / 100 + earlier / 400

def dayNumber (date : Date) : Int :=
  daysBeforeYear date.year + (date.ordinal : Int) - 1 - 719162

/-- The day of the week; Monday is zero. -/
def weekday (date : Date) : Nat :=
  ((date.dayNumber + 3) % 7).toNat

/-- The year of a day number, searched from a guess that is at most two years off. -/
def yearOf (number : Int) : Int :=
  let guess := (number + 719162) * 400 / 146097 + 1
  let start (year : Int) := daysBeforeYear year - 719162
  if number < start guess then guess - 1
  else if number ≥ start (guess + 1) then guess + 1
  else guess

def ofDayNumber? (number : Int) : Option Date :=
  let year := yearOf number
  ofOrdinal? year (number - (daysBeforeYear year - 719162) + 1).toNat

/-- The number of the week when weeks begin on the given weekday and those days before the first such
day belong to week zero. -/
def weekFrom (date : Date) (first : Nat) : Nat :=
  (date.ordinal + 6 - (date.weekday + 7 - first) % 7) / 7

def isoWeeksIn (year : Int) : Nat :=
  let firstWeekday := weekday ⟨year, 1, 1⟩
  if firstWeekday = 3 ∨ (isLeap year ∧ firstWeekday = 2) then 53 else 52

def isoWeek (date : Date) : Int × Nat :=
  let week := (date.ordinal + 9 - date.weekday) / 7
  if week = 0 then (date.year - 1, isoWeeksIn (date.year - 1))
  else if week > isoWeeksIn date.year then (date.year + 1, 1)
  else (date.year, week)

/-- The date of an ISO year, week and weekday. -/
def ofIsoWeek? (year : Int) (week weekday : Nat) : Option Date :=
  if isYear year ∧ 1 ≤ week ∧ week ≤ isoWeeksIn year then
    let fourth : Date := ⟨year, 1, 4⟩
    let firstMonday := fourth.dayNumber - fourth.weekday
    ofDayNumber? (firstMonday + 7 * ((week : Int) - 1) + weekday)
  else none

/-- The date of a year, a week that begins on `first`, and a weekday. -/
def ofWeek? (year : Int) (week weekday first : Nat) : Option Date :=
  if week > 53 ∨ !isYear year then none
  else
    let newYear : Date := ⟨year, 1, 1⟩
    let firstStart : Int := 1 + ((first + 7 - newYear.weekday) % 7 : Nat)
    let ordinal := firstStart + ((week : Int) - 1) * 7 + ((weekday + 7 - first) % 7 : Nat)
    if ordinal ≤ 0 then none else ofOrdinal? year ordinal.toNat

end Date

def Time.midnight : Time := ⟨0, 0, 0, 0⟩

def Time.seconds (time : Time) : Nat :=
  time.hour * 3600 + time.minute * 60 + time.second

/-- The number of seconds from 1970-01-01T00:00:00. -/
def Moment.timestamp (moment : Moment) : Int :=
  moment.date.dayNumber * 86400 + moment.time.seconds

/-- The moment so many seconds from 1970-01-01T00:00:00. -/
def Moment.ofTimestamp? (timestamp : Int) : Option Moment :=
  (Date.ofDayNumber? (timestamp / 86400)).map fun date =>
    let seconds := (timestamp % 86400).toNat
    ⟨date, seconds / 3600, seconds / 60 % 60, seconds % 60, 0⟩

def monthNames : List String := [
  "January", "February", "March", "April", "May", "June", "July", "August", "September", "October",
  "November", "December"]

def weekdayNames : List String := [
  "Monday", "Tuesday", "Wednesday", "Thursday", "Friday", "Saturday", "Sunday"]

end Harvest.Calendar
