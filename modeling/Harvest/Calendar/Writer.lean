import Harvest.Calendar.Format

/-!
Contract: writing a moment in a format.

`Moment.write?` fails when the format has an unknown item or asks for a time
zone, which a moment does not have.
-/

namespace Harvest.Calendar

def Field.value (moment : Moment) : Field → Int
  | .year => moment.date.year
  | .century => moment.date.year / 100
  | .yearOfCentury => moment.date.year % 100
  | .isoYear => moment.date.isoWeek.1
  | .isoYearOfCentury => moment.date.isoWeek.1 % 100
  | .quarter => ((moment.date.month + 2) / 3 : Nat)
  | .month => moment.date.month
  | .day => moment.date.day
  | .weekFromSunday => moment.date.weekFrom 6
  | .weekFromMonday => moment.date.weekFrom 0
  | .isoWeek => moment.date.isoWeek.2
  | .daysFromSunday => ((moment.date.weekday + 1) % 7 : Nat)
  | .dayFromMonday => moment.date.weekday + 1
  | .ordinal => moment.date.ordinal
  | .hour => moment.time.hour
  | .hour12 => ((moment.time.hour + 11) % 12 + 1 : Nat)
  | .minute => moment.time.minute
  | .second => (moment.time.second + moment.time.nanosecond / 1000000000 : Nat)
  | .nanosecond => (moment.time.nanosecond % 1000000000 : Nat)
  | .timestamp => moment.timestamp

def Field.width : Field → Nat
  | .year | .isoYear => 4
  | .ordinal => 3
  | .nanosecond => 9
  | .quarter | .daysFromSunday | .dayFromMonday | .timestamp => 1
  | _ => 2

/-- Whether a field is a year, which is signed when it does not have four digits. -/
def Field.isYear : Field → Bool
  | .year | .isoYear => true
  | _ => false

/-- A number with its sign, brought to a width. -/
def padded (padding : Padding) (width : Nat) (mark : List Char) (magnitude : Nat) : List Char :=
  let digits := Nat.toDigits 10 magnitude
  let missing := width - mark.length - digits.length
  match padding with
  | .none => mark ++ digits
  | .zeros => mark ++ List.replicate missing '0' ++ digits
  | .blanks => List.replicate missing ' ' ++ mark ++ digits

def Field.write (moment : Moment) (padding : Padding) (field : Field) : List Char :=
  let value := field.value moment
  let mark := if value < 0 then ['-'] else []
  if field.isYear ∧ (value < 0 ∨ 10000 ≤ value) then
    padded padding (field.width + 1) (if value < 0 then ['-'] else ['+']) value.natAbs
  else padded padding field.width mark value.natAbs

def placesOf (moment : Moment) (places : Nat) : List Char :=
  padded .zeros places [] (moment.time.nanosecond % 1000000000 / Nat.pow 10 (9 - places))

/-- The fraction of a second in three, six or nine places, as few as show it; none if it is zero. -/
def writeFraction (moment : Moment) : List Char :=
  let nanosecond := moment.time.nanosecond % 1000000000
  if nanosecond = 0 then []
  else if nanosecond % 1000000 = 0 then '.' :: placesOf moment 3
  else if nanosecond % 1000 = 0 then '.' :: placesOf moment 6
  else '.' :: placesOf moment 9

def monthName (moment : Moment) : List Char :=
  (monthNames.getD (moment.date.month - 1) "").toList

def weekdayName (moment : Moment) : List Char :=
  (weekdayNames.getD moment.date.weekday "").toList

def Item.write? (moment : Moment) : Item → Option (List Char)
  | .literal text => some text
  | .space text => some text
  | .number field padding => some (field.write moment padding)
  | .shortMonth => some ((monthName moment).take 3)
  | .longMonth => some (monthName moment)
  | .shortWeekday => some ((weekdayName moment).take 3)
  | .longWeekday => some (weekdayName moment)
  | .halfOfDay upper =>
    some (
      if moment.time.hour < 12 then (if upper then ['A', 'M'] else ['a', 'm'])
      else (if upper then ['P', 'M'] else ['p', 'm']))
  | .fraction => some (writeFraction moment)
  | .fractionOf places => some ('.' :: placesOf moment places)
  | .digitsOf places => some (placesOf moment places)
  | .zoneName => none
  | .offset => none
  | .looseOffset => none
  | .zoned => none
  | .unknown => none

def Moment.write? (moment : Moment) (format : String) : Option String :=
  ((itemsOfFormat format).mapM (Item.write? moment)).map fun texts => String.ofList texts.flatten

end Harvest.Calendar
