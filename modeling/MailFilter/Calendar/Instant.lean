import MailFilter.Calendar.Date

/-!
# Instants

A point in time, in universal time and to the nanosecond. A leap second is kept as a second that
lasts for two: its nanoseconds go on from one billion. Ages are differences of instants in whole
days, and a leap second counts where it lies between the two.
-/

namespace MailFilter.Calendar

/-- A point in time. -/
structure Instant where
  day : Int
  second : Fin 86400
  nano : Fin 2000000000
deriving DecidableEq, Repr

/-- A billion, the nanoseconds of a second. -/
def nanosPerSecond : Nat := 1000000000

/-- The seconds of a day. -/
def secondsPerDay : Nat := 86400

namespace Instant

/-- The instant at a date and a time of day, if there is such a time. The sixtieth second is a leap
second. -/
def ofFields? (date : Date) (hour minute second nano : Nat) : Option Instant :=
  if h : hour < 24 ∧ minute < 60 ∧ second ≤ 60 ∧ nano < 1000000000 then
    if date.isValid && isDayInRange date.number then
      if second = 60 then
        some ⟨date.number, ⟨hour * 3600 + minute * 60 + 59, by omega⟩,
          ⟨nano + 1000000000, by omega⟩⟩
      else
        some ⟨date.number, ⟨hour * 3600 + minute * 60 + min second 59, by omega⟩,
          ⟨nano, by omega⟩⟩
    else none
  else none

/-- The instant a number of seconds and nanoseconds after the start of the year 1970. -/
def ofEpoch (seconds : Int) (nanos : Nat) : Instant :=
  let day : Int := (Date.mk 1970 1 1).number
  let total := day * secondsPerDay + seconds + (nanos / nanosPerSecond : Nat)
  ⟨total / 86400, ⟨(total % 86400).toNat, by omega⟩,
    ⟨nanos % 1000000000, Nat.lt_of_lt_of_le (Nat.mod_lt _ (by decide)) (by decide)⟩⟩

/-- The instant a number of seconds earlier, if its day can be handled. -/
def earlier? (t : Instant) (seconds : Int) : Option Instant :=
  let total := t.day * 86400 + t.second.val - seconds
  let day := total / 86400
  if isDayInRange day then
    some { t with day := day, second := ⟨(total % 86400).toNat, by omega⟩ }
  else none

/-- The nanoseconds from `b` to `a`. A leap second between the two times of day counts. -/
def since (a b : Instant) : Int :=
  let leap : Int :=
    if b.second < a.second then if nanosPerSecond ≤ b.nano.val then 1 else 0
    else if a.second < b.second then if nanosPerSecond ≤ a.nano.val then -1 else 0
    else 0
  ((a.day - b.day) * secondsPerDay + (a.second.val - b.second.val : Int) + leap) * nanosPerSecond +
    (a.nano.val - b.nano.val : Int)

/-- The whole days from `b` to `a`, rounded toward zero. -/
def daysSince (a b : Instant) : Int := (a.since b).tdiv (secondsPerDay * nanosPerSecond)

/-! ### Order and fields -/

/-- Whether `a` comes before `b`. -/
def isBefore (a b : Instant) : Bool :=
  a.day < b.day || (a.day == b.day &&
    (a.second < b.second || (a.second == b.second && a.nano < b.nano)))

/-- The date of the instant. -/
def date (t : Instant) : Date := .ofNumber t.day

/-- The hour of the day. -/
def hour (t : Instant) : Nat := t.second.val / 3600

/-- The minute of the hour. -/
def minute (t : Instant) : Nat := t.second.val / 60 % 60

/-- The second of the minute, sixty in a leap second. -/
def secondOfMinute (t : Instant) : Nat :=
  t.second.val % 60 + t.nano.val / nanosPerSecond

/-- The nanosecond of the second. -/
def nanoOfSecond (t : Instant) : Nat := t.nano.val % nanosPerSecond

end Instant

end MailFilter.Calendar
