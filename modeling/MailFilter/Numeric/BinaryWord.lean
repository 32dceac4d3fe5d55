import MailFilter.Numeric.Ratio
import MailFilter.Text.Decimal

/-!
# Binary Words for Real Numbers

A settings file may hold a number with decimals. It is kept as the nearest word of sixty-four bits
in binary interchange format, and written with the fewest decimal digits that lead back to the same
word. All arithmetic on the way is exact. Spans of time are written in the same way, with words of
thirty-two bits.
-/

namespace MailFilter.Numeric

/-- Which words there are: the bits of a significand, and the exponents of the least and of the
greatest words. -/
structure WordFormat where
  precision : Nat
  leastExponent : Int
  greatestExponent : Int

/-- The words of thirty-two bits. -/
def WordFormat.single : WordFormat := ⟨24, -149, 104⟩

/-- The words of sixty-four bits. -/
def WordFormat.double : WordFormat := ⟨53, -1074, 971⟩

/-- A number: `significand * 2 ^ exponent` with a sign, an infinity, or no number. -/
inductive BinaryWord (f : WordFormat) where
  | finite (negative : Bool) (significand : Nat) (exponent : Int)
  | infinite (negative : Bool)
  | nan
deriving DecidableEq, Repr

/-- A word of thirty-two bits. -/
abbrev Binary32 := BinaryWord .single

/-- A word of sixty-four bits. -/
abbrev Binary64 := BinaryWord .double

namespace BinaryWord

variable {f : WordFormat}

/-- The power of two at or below a ratio. -/
def binaryPower (a : Ratio) : Int :=
  a.powerBelow 2 ((Nat.log2 a.num : Int) - Nat.log2 a.den)

/-- The word nearest to a ratio. -/
def ofRatio (negative : Bool) (a : Ratio) : BinaryWord f :=
  let exponent := max f.leastExponent (binaryPower a + 1 - f.precision)
  let significand := (a.quotient (.scaled 2 1 exponent)).roundEven
  let (significand, exponent) :=
    if significand = Nat.pow 2 f.precision then (significand / 2, exponent + 1)
    else (significand, exponent)
  if f.greatestExponent < exponent then infinite negative
  else finite negative significand exponent

/-- The word nearest to `digits * 10 ^ exponent`. -/
def ofDecimal (negative : Bool) (digits : Nat) (exponent : Int) : BinaryWord f :=
  let length := ((Text.decimal digits).length : Int)
  if digits = 0 then finite negative 0 0
  else if 400 < length + exponent then infinite negative
  else if length + exponent < -400 then finite negative 0 0
  else ofRatio negative (.scaled 10 digits exponent)

/-- Whether the number is zero. -/
def isZero : BinaryWord f → Bool
  | finite _ significand _ => significand == 0
  | _ => false

/-- Whether the number is an infinity. -/
def isInfinite : BinaryWord f → Bool
  | infinite _ => true
  | _ => false

/-- The size of a number, where what is none counts for zero. -/
def magnitude : BinaryWord f → Ratio
  | finite _ significand exponent => .scaled 2 significand exponent
  | _ => ⟨0, 1⟩

/-- The nearest unsigned word of sixty-four bits, where a half counts up and what lies outside of
the range is cut off. -/
def toWord : BinaryWord f → UInt64
  | finite false significand exponent =>
    UInt64.ofNat (min (UInt64.size - 1) (Ratio.scaled 2 significand exponent).roundUp)
  | infinite false => UInt64.ofNat (UInt64.size - 1)
  | _ => 0

/-! ### Writing -/

/-- Digits and a power of ten. -/
structure Decimal where
  digits : Nat
  exponent : Int

/-- The power of ten at or below a ratio. -/
def decimalPower (a : Ratio) : Int :=
  a.powerBelow 10 (((Text.decimal a.num).length : Int) - (Text.decimal a.den).length)

/-- The numbers that are nearest to a word: from halfway to the word below it up to halfway to the
word above it. The ends belong to it if the significand is even. -/
structure Interval where
  low : Ratio
  high : Ratio
  closed : Bool

/-- The numbers that are nearest to a word. -/
def interval (f : WordFormat) (significand : Nat) (exponent : Int) : Interval :=
  let gap := if significand = Nat.pow 2 (f.precision - 1) ∧ f.leastExponent < exponent then 1 else 2
  ⟨.scaled 2 (4 * significand - gap) (exponent - 2), .scaled 2 (4 * significand + 2) (exponent - 2),
    significand % 2 == 0⟩

/-- Whether a number is in an interval. -/
def Interval.contains (i : Interval) (a : Ratio) : Bool :=
  if i.closed then i.low.le a && a.le i.high else !a.le i.low && !i.high.le a

/-- A number of at most `count` digits and a power of ten; the next number above them is a power of
ten itself. -/
def Decimal.ofCount (count digits : Nat) (exponent : Int) : Decimal :=
  if digits = Nat.pow 10 count then ⟨1, exponent + count⟩ else ⟨digits, exponent⟩

/-- The decimal with `count` digits that leads back to a word and is nearest to it, if one does. -/
def decimalWith? (value : Ratio) (i : Interval) (power : Int) (count : Nat) : Option Decimal :=
  let exponent := power + 1 - count
  let below := (value.quotient (.scaled 10 1 exponent)).floor
  let low := Ratio.scaled 10 below exponent
  let high := Ratio.scaled 10 (below + 1) exponent
  match i.contains low, i.contains high with
  | true, true =>
    let digits := if (value.distance low).le (value.distance high) then below else below + 1
    some (.ofCount count digits exponent)
  | true, false => some (.ofCount count below exponent)
  | false, true => some (.ofCount count (below + 1) exponent)
  | false, false => none

/-- The decimal with the fewest digits that leads back to a word. Seventeen digits always do. -/
def shortest (f : WordFormat) (significand : Nat) (exponent : Int) : Decimal :=
  let value := Ratio.scaled 2 significand exponent
  let i := interval f significand exponent
  let power := decimalPower value
  ((List.range' 1 17).findSome? (decimalWith? value i power)).getD ⟨0, 0⟩

/-- A decimal, written without an exponent. -/
def Decimal.write (d : Decimal) : List Char :=
  let digits := Text.decimal d.digits
  if 0 ≤ d.exponent then digits ++ List.replicate d.exponent.toNat '0'
  else
    let places := (-d.exponent).toNat
    let digits := List.replicate (places + 1 - digits.length) '0' ++ digits
    digits.take (digits.length - places) ++ '.' :: digits.drop (digits.length - places)

/-- The text of a number. -/
def write : BinaryWord f → List Char
  | finite negative significand exponent =>
    (if negative then ['-'] else []) ++
      if significand = 0 then ['0'] else (shortest f significand exponent).write
  | infinite negative => (if negative then ['-'] else []) ++ "inf".toList
  | nan => "NaN".toList

end BinaryWord

end MailFilter.Numeric
