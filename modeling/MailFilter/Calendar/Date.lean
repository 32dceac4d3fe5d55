/-!
# Dates

Days are counted from the first of January 1970 in the Gregorian calendar, extended to all years in
both directions. The count runs over eras of 400 years that begin in March, so that the leap day is
the last day of a year.
-/

namespace MailFilter.Calendar

/-- A day of the Gregorian calendar. -/
structure Date where
  year : Int
  month : Nat
  day : Nat
deriving DecidableEq, Repr

/-- The years divisible by four are leap years, those divisible by a hundred only if four hundred
divides them. -/
def isLeapYear (year : Int) : Bool :=
  year % 4 == 0 && (year % 100 != 0 || year % 400 == 0)

/-- The number of days of a month, zero for a number that is no month. -/
def daysInMonth (year : Int) (month : Nat) : Nat :=
  match month with
  | 1 => 31
  | 2 => if isLeapYear year then 29 else 28
  | 3 => 31
  | 4 => 30
  | 5 => 31
  | 6 => 30
  | 7 => 31
  | 8 => 31
  | 9 => 30
  | 10 => 31
  | 11 => 30
  | 12 => 31
  | _ => 0

namespace Date

/-- Whether the month has the day. -/
def isValid (d : Date) : Bool := 1 ≤ d.day && d.day ≤ daysInMonth d.year d.month

/-- The number of the day. -/
def number (d : Date) : Int :=
  let year := if d.month ≤ 2 then d.year - 1 else d.year
  let era := year / 400
  let yearOfEra := year % 400
  let dayOfYear : Int := (153 * ((d.month + 9) % 12) + 2) / 5 + d.day - 1
  era * 146097 + yearOfEra * 365 + yearOfEra / 4 - yearOfEra / 100 + dayOfYear - 719468

/-- The day with a number. -/
def ofNumber (n : Int) : Date :=
  let shifted := n + 719468
  let era := shifted / 146097
  let dayOfEra := shifted % 146097
  let yearOfEra := (dayOfEra - dayOfEra / 1460 + dayOfEra / 36524 - dayOfEra / 146096) / 365
  let dayOfYear := (dayOfEra - (365 * yearOfEra + yearOfEra / 4 - yearOfEra / 100)).toNat
  let month := (5 * dayOfYear + 2) / 153
  let year := era * 400 + yearOfEra
  { year := if month < 10 then year else year + 1
    month := if month < 10 then month + 3 else month - 9
    day := dayOfYear - (153 * month + 2) / 5 + 1 }

end Date

/-- The day of the week, counted from Sunday. -/
def weekday (dayNumber : Int) : Nat := ((dayNumber + 4) % 7).toNat

/-- The numbers of the days that can be handled: from the year -262143 to the year 262142. -/
def isDayInRange (dayNumber : Int) : Bool :=
  (Date.mk (-262143) 1 1).number ≤ dayNumber && dayNumber ≤ (Date.mk 262142 12 31).number

/-- The short English names of the days of the week, from Sunday on. -/
def weekdayNames : List String := ["Sun", "Mon", "Tue", "Wed", "Thu", "Fri", "Sat"]

/-- The short English names of the months. -/
def monthNames : List String :=
  ["Jan", "Feb", "Mar", "Apr", "May", "Jun", "Jul", "Aug", "Sep", "Oct", "Nov", "Dec"]

end MailFilter.Calendar
