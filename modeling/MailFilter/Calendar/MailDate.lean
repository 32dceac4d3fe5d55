import MailFilter.Calendar.Timestamp

/-!
# Dates of Mail Headers

Instants in the notation of RFC 2822, as in the `Date` header of a message. The year has four
digits there, so an instant outside of the years 0 to 9999 cannot be written.

## Main results

* `mailDate?_isSome_iff`: exactly the instants of the years 0 to 9999 can be written.
-/

namespace MailFilter.Calendar

open Text (Reader isLetter lowered paddedDecimal)

namespace MailDate

/-- Reads one of the short names in a list, without regard to case, as its place in the list. -/
def readName (names : List String) : Reader Nat := do
  let c ← Reader.any
  let d ← Reader.any
  let e ← Reader.any
  match names.findIdx? fun n => lowered n == lowered (String.ofList [c, d, e]) with
  | some i => return i
  | none => failure

/-- The named zones of North America and of universal time, with their offsets in hours. -/
def namedZones : List (String × Int) :=
  [("gmt", 0), ("ut", 0), ("z", 0), ("edt", -4), ("est", -5), ("cdt", -5), ("cst", -6),
    ("mdt", -6), ("mst", -7), ("pdt", -7), ("pst", -8)]

/-- Reads a zone: a number, one of the named zones, or a military letter, which says nothing and is
taken for universal time. The letter J is no zone. -/
def readZone : Reader Int := do
  let name ← Reader.takeWhile isLetter
  if name.isEmpty then Timestamp.readNumericOffset ['+', '-'] (pure ())
  else
    match namedZones.lookup (lowered (String.ofList name)) with
    | some hours => return hours * 3600
    | none => if name.length = 1 ∧ name ≠ ['j'] ∧ name ≠ ['J'] then return 0 else failure

/-- Skips a comment that has been opened `depth` times. A backslash takes the next character with
it. -/
def skipComment : Nat → List Char → Option (List Char)
  | 0, s => some s
  | _ + 1, [] => none
  | depth + 1, '\\' :: _ :: s => skipComment (depth + 1) s
  | depth + 1, '(' :: s => skipComment (depth + 2) s
  | depth + 1, ')' :: s => skipComment depth s
  | depth + 1, _ :: s => skipComment (depth + 1) s
termination_by _ s => s.length

/-- Skips comments, with blanks before each of them, as long as they are closed. -/
def skipComments : Nat → List Char → List Char
  | 0, s => s
  | n + 1, s =>
    match Text.trimStart s with
    | '(' :: s' =>
      match skipComment 1 s' with
      | some rest => skipComments n rest
      | none => s
    | _ => s

/-- The year behind the digits of a header: two digits stand for the years 1950 to 2049, three for
the years from 1900 on. -/
def yearOfDigits (digits year : Nat) : Nat :=
  if digits = 2 then if year ≤ 49 then year + 2000 else year + 1900
  else if digits = 3 then year + 1900
  else year

/-- Reads the day of the week and the comma after it, if there is one. -/
def readWeekday? : Reader (Option Nat) := do
  match ← Reader.optional (readName weekdayNames) with
  | some d => do Reader.char ','; return some d
  | none => return none

/-- Reads the form of mail headers. A day of the week must be the right one. -/
def read : Reader Instant := do
  Reader.blanks
  let weekday? ← readWeekday?
  Reader.blanks
  let day ← Reader.number 1 2
  Reader.someBlanks
  let month ← readName monthNames
  Reader.someBlanks
  let before := (← Reader.rest).length
  let written ← Reader.number 2 before
  let year := yearOfDigits (before - (← Reader.rest).length) written
  Reader.someBlanks
  let hour ← Reader.number 2 2
  Timestamp.readLenientSeparator ':'
  Reader.blanks
  let minute ← Reader.number 2 2
  let second ←
    match ← Reader.optional (Timestamp.readLenientSeparator ':') with
    | some _ => Reader.number 2 2
    | none => pure 0
  Reader.someBlanks
  let offset ← readZone
  modify fun s => skipComments s.length s
  let date : Date := ⟨year, month + 1, day⟩
  match weekday? with
  | some d => if d ≠ weekday date.number then failure
  | none => pure ()
  Timestamp.resolve date hour minute second 0 offset

end MailDate

namespace Instant

/-- Reads the date of a mail header. -/
def ofMailDate? (s : List Char) : Option Instant := MailDate.read.readAll? s

/-- The date of a mail header, if the year has a place in it. -/
def mailDate? (t : Instant) : Option String :=
  let d := t.date
  if 0 ≤ d.year ∧ d.year ≤ 9999 then
    some (String.ofList (
      (weekdayNames.getD (weekday t.day) "").toList ++ ", ".toList ++ Text.decimal d.day ++
      ' ' :: (monthNames.getD (d.month - 1) "").toList ++ ' ' :: paddedDecimal 4 d.year.natAbs ++
      ' ' :: Timestamp.writeTime t ++ " +0000".toList))
  else none

/-- Exactly the instants of the years 0 to 9999 can be written. -/
theorem mailDate?_isSome_iff (t : Instant) :
    t.mailDate?.isSome = true ↔ 0 ≤ t.date.year ∧ t.date.year ≤ 9999 := by
  simp only [mailDate?]
  split <;> simp_all

end Instant

end MailFilter.Calendar
