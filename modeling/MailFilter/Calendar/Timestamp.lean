import MailFilter.Calendar.Instant
import MailFilter.Text.Reader

/-!
# Timestamps

Instants in the notation of RFC 3339. Two forms are read: the strict one, and a lenient one that
allows blanks, short and signed fields and the name `UTC`. Written are universal time and as many
groups of three decimals as are needed.
-/

namespace MailFilter.Calendar

open Text (Reader isDigit isBlank paddedDecimal)

namespace Timestamp

/-- Reads the decimals of a second as nanoseconds; those after the ninth are dropped. -/
def readFraction : Reader Nat := do
  let digits ← Reader.takeWhile isDigit
  if digits.isEmpty then failure
  match Text.readNatural? ((digits ++ List.replicate 9 '0').take 9) with
  | some n => return n
  | none => failure

/-- Reads the decimals of a second behind a point, or nothing. -/
def readOptionalFraction : Reader Nat := do
  if (← Reader.peek?) = some '.' then
    Reader.char '.'
    readFraction
  else return 0

/-- Reads an offset from universal time in seconds, with `separator` between the hours and the
minutes. -/
def readNumericOffset (signs : List Char) (separator : Reader Unit) : Reader Int := do
  let sign ← Reader.satisfying (signs.contains ·)
  let hours ← Reader.number 2 2
  separator
  let minutes ← Reader.number 2 2
  if 60 ≤ minutes then failure
  let seconds : Int := (hours * 3600 + minutes * 60 : Nat)
  return if sign = '+' then seconds else -seconds

/-- The signs of an offset; the minus sign of typography counts as one. -/
def offsetSigns : List Char := ['+', '-', '\u2212']

/-- Reads an offset, or the letter for universal time. -/
def readOffset (separator : Reader Unit) : Reader Int := do
  match ← Reader.peek? with
  | some 'Z' => do Reader.char 'Z'; return 0
  | some 'z' => do Reader.char 'z'; return 0
  | _ => readNumericOffset offsetSigns separator

/-- The instant at a local time, if its offset is less than a day. -/
def resolve (date : Date) (hour minute second nano : Nat) (offset : Int) : Reader Instant := do
  if offset ≤ -86400 ∨ 86400 ≤ offset then failure
  match (Instant.ofFields? date hour minute second nano).bind (·.earlier? offset) with
  | some t => return t
  | none => failure

/-- Reads the separator of date and time. -/
def readSeparator : Reader Unit := do
  let _ ← Reader.satisfying fun c => c == 'T' || c == 't' || c == ' '

/-- Reads the strict form. -/
def read : Reader Instant := do
  let year ← Reader.number 4 4
  Reader.char '-'
  let month ← Reader.number 2 2
  Reader.char '-'
  let day ← Reader.number 2 2
  readSeparator
  let hour ← Reader.number 2 2
  Reader.char ':'
  let minute ← Reader.number 2 2
  Reader.char ':'
  let second ← Reader.number 2 2
  let nano ← readOptionalFraction
  let offset ← readOffset (Reader.char ':')
  resolve ⟨year, month, day⟩ hour minute second nano offset

/-- Reads a year of the lenient form: four digits at most, or a sign and any number of digits. -/
def readLenientYear : Reader Int := do
  Reader.blanks
  match ← Reader.peek? with
  | some '-' =>
    Reader.char '-'
    return -(← Reader.number 1 (← Reader.rest).length : Nat)
  | some '+' =>
    Reader.char '+'
    return (← Reader.number 1 (← Reader.rest).length : Nat)
  | _ => return (← Reader.number 1 4 : Nat)

/-- Reads a field of at most two digits with blanks before it. -/
def readLenientField : Reader Nat := do
  Reader.blanks
  Reader.number 1 2

/-- Reads a separator with blanks before it. -/
def readLenientSeparator (c : Char) : Reader Unit := do
  Reader.blanks
  Reader.char c

/-- Reads the name of universal time. -/
def readUtcName : Reader Int := do
  for c in ['u', 't', 'c'] do
    let _ ← Reader.satisfying (·.toLower == c)
  return 0

/-- Reads the offset of the lenient form. -/
def readLenientOffset : Reader Int := do
  Reader.blanks
  match ← Reader.optional readUtcName with
  | some offset => return offset
  | none =>
    readOffset do
      let _ ← Reader.takeWhile fun c => c == ':' || isBlank c

/-- Reads the lenient form. -/
def readLenient : Reader Instant := do
  let year ← readLenientYear
  readLenientSeparator '-'
  let month ← readLenientField
  readLenientSeparator '-'
  let day ← readLenientField
  readSeparator
  let hour ← readLenientField
  readLenientSeparator ':'
  let minute ← readLenientField
  readLenientSeparator ':'
  let second ← readLenientField
  let nano ← readOptionalFraction
  let offset ← readLenientOffset
  Reader.blanks
  resolve ⟨year, month, day⟩ hour minute second nano offset

/-! ### Writing -/

/-- A year: four digits, and a sign in front of years outside of 0 to 9999. -/
def writeYear (year : Int) : List Char :=
  if 0 ≤ year ∧ year ≤ 9999 then paddedDecimal 4 year.natAbs
  else (if year < 0 then '-' else '+') :: paddedDecimal 4 year.natAbs

/-- A date. -/
def writeDate (d : Date) : List Char :=
  writeYear d.year ++ '-' :: paddedDecimal 2 d.month ++ '-' :: paddedDecimal 2 d.day

/-- A time of day to the second. -/
def writeTime (t : Instant) : List Char :=
  paddedDecimal 2 t.hour ++ ':' :: paddedDecimal 2 t.minute ++
    ':' :: paddedDecimal 2 t.secondOfMinute

/-- The decimals of a second: as many groups of three as it takes. -/
def writeFraction (nano : Nat) : List Char :=
  if nano = 0 then []
  else if nano % 1000000 = 0 then '.' :: paddedDecimal 3 (nano / 1000000)
  else if nano % 1000 = 0 then '.' :: paddedDecimal 6 (nano / 1000)
  else '.' :: paddedDecimal 9 nano

end Timestamp

namespace Instant

/-- Reads the strict form of a timestamp. -/
def ofTimestamp? (s : List Char) : Option Instant := Timestamp.read.readAll? s

/-- Reads the lenient form of a timestamp. -/
def ofLenientTimestamp? (s : List Char) : Option Instant := Timestamp.readLenient.readAll? s

/-- The timestamp of an instant, in universal time. -/
def timestamp (t : Instant) : String :=
  String.ofList (Timestamp.writeDate t.date ++ 'T' :: Timestamp.writeTime t ++
    Timestamp.writeFraction t.nanoOfSecond ++ ['Z'])

/-- Date and time as they are shown to people, to the second. -/
def display (t : Instant) : String :=
  String.ofList (Timestamp.writeDate t.date ++ ' ' :: Timestamp.writeTime t)

end Instant

end MailFilter.Calendar
