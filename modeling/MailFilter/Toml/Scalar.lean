import MailFilter.Calendar.Date
import MailFilter.Toml.Lexical
import MailFilter.Toml.Value

/-!
# Numbers, Dates and Words of TOML

The values that are written without quotes. Each is one word of letters, digits, signs, points and
colons; only between a date and a time of day there may be a space.
-/

namespace MailFilter.Toml

open Numeric (Binary64)
open Text (Reader isDigit paddedDecimal)

/-! ### Numbers -/

/-- The digits of a number; underscores may stand between digits. -/
def spacedDigits? (isDigit : Char → Bool) : List Char → Option (List Char)
  | [] => none
  | [c] => if isDigit c then some [c] else none
  | c :: d :: s =>
    if isDigit c then
      if d = '_' then (spacedDigits? isDigit s).map (c :: ·)
      else (spacedDigits? isDigit (d :: s)).map (c :: ·)
    else none

/-- The digits in front of a decimal number: a zero, or digits that do not start with one. -/
def wholeDigits? (s : List Char) : Option (List Char) :=
  match spacedDigits? isDigit s with
  | some (c :: d :: digits) => if c = '0' then none else some (c :: d :: digits)
  | digits => digits

/-- The number that digits stand for. -/
def digitsValue (digits : List Char) : Nat := (Text.readNatural? digits).getD 0

/-- A signed word, if the number fits one. -/
def integer? (n : Int) : Option Scalar :=
  if Int64.minValue.toInt ≤ n ∧ n ≤ Int64.maxValue.toInt then some (.integer (Int64.ofInt n))
  else none

/-- The value of digits in a base that is a power of two. -/
def based? (base : Nat) (s : List Char) : Option Nat := do
  let digits ← spacedDigits? (fun c => (Json.hexValue? c).any (· < base)) s
  return digits.foldl (fun n c => base * n + (Json.hexValue? c).getD 0) 0

/-- Splits a sign off. -/
def splitSign : List Char → Bool × List Char
  | '-' :: s => (true, s)
  | '+' :: s => (false, s)
  | s => (false, s)

/-- An integer, in decimal with a sign, or in another base with a letter for it. -/
def ofInteger? (word : List Char) : Option Scalar :=
  match word with
  | '0' :: 'x' :: s => (based? 16 s).bind fun n => integer? n
  | '0' :: 'o' :: s => (based? 8 s).bind fun n => integer? n
  | '0' :: 'b' :: s => (based? 2 s).bind fun n => integer? n
  | _ =>
    let (negative, s) := splitSign word
    (wholeDigits? s).bind fun digits =>
      integer? (if negative then -(digitsValue digits : Int) else digitsValue digits)

/-- An exponent. Its digits may start with zeros. -/
def exponent? (s : List Char) : Option Int :=
  let (negative, s) := splitSign s
  (spacedDigits? isDigit s).map fun digits =>
    if negative then -(digitsValue digits : Int) else digitsValue digits

/-- A number with decimals, an exponent or both, behind its sign. It must not be too large. -/
def ofDecimals? (negative : Bool) (s : List Char) : Option Scalar := do
  let isMark := fun c : Char => c == 'e' || c == 'E'
  let mantissa := s.takeWhile (!isMark ·)
  let exponent ←
    match s.dropWhile (!isMark ·) with
    | [] => some 0
    | _ :: e => exponent? e
  let whole ← wholeDigits? (mantissa.takeWhile (· != '.'))
  let fraction ←
    match mantissa.dropWhile (· != '.') with
    | [] => if mantissa = s then none else some []
    | _ :: f => spacedDigits? isDigit f
  let x : Binary64 := .ofDecimal negative (digitsValue (whole ++ fraction))
    (exponent - fraction.length)
  if x.isInfinite then none else return .real x

/-- A number with decimals, an infinity, or the word for no number. -/
def ofReal? (word : List Char) : Option Scalar :=
  let (negative, s) := splitSign word
  if s = "inf".toList then some (.real (.infinite negative))
  else if s = "nan".toList then some (.real .nan)
  else ofDecimals? negative s

/-! ### Dates and times -/

/-- Reads exactly `count` digits as a number in a range. -/
def readField (count least most : Nat) : Reader Nat := do
  let n ← Reader.number count count
  if least ≤ n ∧ n ≤ most then return n else failure

/-- Reads a date and gives its normal form. -/
def readDate : Reader (List Char) := do
  let year ← readField 4 0 9999
  Reader.char '-'
  let month ← readField 2 1 12
  Reader.char '-'
  let day ← readField 2 1 31
  if !(Calendar.Date.mk year month day).isValid then failure
  return paddedDecimal 4 year ++ '-' :: paddedDecimal 2 month ++ '-' :: paddedDecimal 2 day

/-- Drops the zeros at the end. -/
def dropZeros (digits : List Char) : List Char := (digits.reverse.dropWhile (· == '0')).reverse

/-- Reads the decimals of a second; those after the ninth are dropped. -/
def readDecimals : Reader (List Char) := do
  Reader.char '.'
  let digits ← Reader.takeWhile isDigit
  if digits.isEmpty then failure
  return dropZeros (digits.take 9)

/-- Reads a time of day and gives its normal form. -/
def readTime : Reader (List Char) := do
  let hour ← readField 2 0 23
  Reader.char ':'
  let minute ← readField 2 0 59
  Reader.char ':'
  let second ← readField 2 0 60
  let fraction := ((← Reader.optional readDecimals).getD [])
  return paddedDecimal 2 hour ++ ':' :: paddedDecimal 2 minute ++ ':' :: paddedDecimal 2 second ++
    if fraction.isEmpty then [] else '.' :: fraction

/-- Reads an offset from universal time and gives its normal form. -/
def readOffset : Reader (List Char) := do
  let c ← Reader.any
  if c = 'Z' ∨ c = 'z' then return ['Z']
  if c ≠ '+' ∧ c ≠ '-' then failure
  let hours ← readField 2 0 23
  Reader.char ':'
  let minutes ← readField 2 0 59
  let sign := if hours = 0 ∧ minutes = 0 then '+' else c
  return sign :: paddedDecimal 2 hours ++ ':' :: paddedDecimal 2 minutes

/-- Reads a date, a time of day, or both with or without an offset. -/
def readDateTime : Reader (List Char) :=
  .orElse
    (do
      let day ← readDate
      if (← Reader.rest).isEmpty then return day
      let _ ← Reader.satisfying fun c => c == 'T' || c == 't' || c == ' '
      let clock ← readTime
      if (← Reader.rest).isEmpty then return day ++ 'T' :: clock
      return day ++ 'T' :: clock ++ (← readOffset))
    readTime

/-! ### Words -/

/-- The value of a word. -/
def Scalar.ofWord? (word : List Char) : Option Scalar :=
  if word = "true".toList then some (.truth true)
  else if word = "false".toList then some (.truth false)
  else
    match ofInteger? word with
    | some n => some n
    | none =>
      match ofReal? word with
      | some x => some x
      | none => (readDateTime.readAll? word).map fun s => .dateTime (String.ofList s)

/-- Whether a character may stand in a word. -/
def isWordChar (c : Char) : Bool :=
  Text.isAlphanumeric c || c == '_' || c == '-' || c == '+' || c == '.' || c == ':'

/-- Whether a word is a date, behind which a time may follow. -/
def isDate (word : List Char) : Bool := (readDate.readAll? word).isSome

/-- Takes a word and gives its value. -/
def readScalar : Reader Scalar := do
  let word ← Reader.takeWhile isWordChar
  let more ←
    match isDate word, ← Reader.rest with
    | true, ' ' :: c :: _ =>
      if isDigit c then do
        Reader.char ' '
        let time ← Reader.takeWhile isWordChar
        pure (' ' :: time)
      else pure []
    | _, _ => pure []
  match Scalar.ofWord? (word ++ more) with
  | some s => return s
  | none => failure

end MailFilter.Toml
