import MailFilter.Numeric.BinaryWord
import MailFilter.Text.Decimal
import MailFilter.Text.Utf8

/-!
# Words of JSON

Blanks, strings, numbers and the three literal words. A text is read from the left, and the first
fault decides: the text breaks the notation, it ends too early, or a value is well written and not
of the kind that is asked for.
-/

namespace MailFilter.Json

open Numeric (Binary64)
open Text (isDigit)

/-- What is wrong with a text. -/
inductive Fault where
  /-- The text breaks the notation. -/
  | malformed
  /-- A value is not of the kind that is asked for. -/
  | mistyped
  /-- The text ends too early. -/
  | truncated
deriving DecidableEq, Repr

/-- Reads from the left: a value and the text after it, or the first fault. -/
abbrev Reader (α : Type) := List Char → Except Fault (α × List Char)

/-- Whether a character is a blank of JSON. -/
def isBlank (c : Char) : Bool := c == ' ' || c == '\n' || c == '\t' || c == '\r'

/-- Skips blanks. -/
def skip (s : List Char) : List Char := s.dropWhile isBlank

/-! ### Literal words -/

/-- Reads the characters of a literal word one by one. -/
def readWord : List Char → Reader Unit
  | [], s => .ok ((), s)
  | _ :: _, [] => .error .truncated
  | c :: word, d :: s => if c = d then readWord word s else .error .malformed

/-! ### Strings -/

/-- The value of a hexadecimal digit. -/
def hexValue? (c : Char) : Option Nat :=
  if '0' ≤ c ∧ c ≤ '9' then some (c.toNat - 48)
  else if 'a' ≤ c ∧ c ≤ 'f' then some (c.toNat - 87)
  else if 'A' ≤ c ∧ c ≤ 'F' then some (c.toNat - 55)
  else none

/-- Reads four hexadecimal digits. Fewer than four bytes are an early end, whatever they are. -/
def readUnit : Reader Nat
  | a :: b :: c :: d :: s =>
    match hexValue? a, hexValue? b, hexValue? c, hexValue? d with
    | some a, some b, some c, some d => .ok (((a * 16 + b) * 16 + c) * 16 + d, s)
    | _, _, _, _ => .error .malformed
  | s => .error (if Text.byteLength s < 4 then .truncated else .malformed)

/-- Reads the second half of a surrogate pair, of which the first half is given. -/
def readLowSurrogate (high : Nat) : Reader Char
  | [] => .error .truncated
  | '\\' :: [] => .error .truncated
  | '\\' :: 'u' :: s =>
    match readUnit s with
    | .error e => .error e
    | .ok (low, s) =>
      if 0xDC00 ≤ low ∧ low ≤ 0xDFFF then
        .ok (Char.ofNat (0x10000 + (high - 0xD800) * 0x400 + (low - 0xDC00)), s)
      else .error .malformed
  | _ => .error .malformed

/-- The character behind a backslash, for the escapes of one character. -/
def simpleEscape? : Char → Option Char
  | '"' => some '"'
  | '\\' => some '\\'
  | '/' => some '/'
  | 'b' => some '\x08'
  | 'f' => some '\x0c'
  | 'n' => some '\n'
  | 'r' => some '\r'
  | 't' => some '\t'
  | _ => none

/-- Reads what stands behind a backslash. Surrogates come in pairs. -/
def readEscape : Reader Char
  | [] => .error .truncated
  | 'u' :: s =>
    match readUnit s with
    | .error e => .error e
    | .ok (n, s) =>
      if 0xDC00 ≤ n ∧ n ≤ 0xDFFF then .error .malformed
      else if 0xD800 ≤ n ∧ n ≤ 0xDBFF then readLowSurrogate n s
      else .ok (Char.ofNat n, s)
  | c :: s =>
    match simpleEscape? c with
    | some c => .ok (c, s)
    | none => .error .malformed

/-- Whether a character may not stand in a string without an escape. -/
def isControl (c : Char) : Bool := c.toNat < 32

/-- Reads a string behind its opening quote. -/
def readString (s : List Char) : Except Fault (List Char × List Char) :=
  match s with
  | [] => .error .truncated
  | '"' :: rest => .ok ([], rest)
  | '\\' :: rest =>
    match readEscape rest with
    | .error e => .error e
    | .ok (c, after) =>
      if after.length ≤ rest.length then
        match readString after with
        | .error e => .error e
        | .ok (text, after) => .ok (c :: text, after)
      else .error .malformed
  | c :: rest =>
    if isControl c then .error .malformed
    else
      match readString rest with
      | .error e => .error e
      | .ok (text, rest) => .ok (c :: text, rest)
termination_by s.length

/-- Skips what stands behind a backslash. Surrogates need not come in pairs. -/
def skipEscape : Reader Unit
  | [] => .error .truncated
  | 'u' :: s => (readUnit s).map fun (_, s) => ((), s)
  | c :: s =>
    match simpleEscape? c with
    | some _ => .ok ((), s)
    | none => .error .malformed

/-- Skips a string behind its opening quote. -/
def skipString (s : List Char) : Except Fault (Unit × List Char) :=
  match s with
  | [] => .error .truncated
  | '"' :: rest => .ok ((), rest)
  | '\\' :: rest =>
    match skipEscape rest with
    | .error e => .error e
    | .ok (_, after) => if after.length ≤ rest.length then skipString after else .error .malformed
  | c :: rest => if isControl c then .error .malformed else skipString rest
termination_by s.length

/-! ### Numbers -/

/-- A number: an unsigned word, a negative signed word, or anything else, which no field takes. -/
inductive Number where
  | natural (n : UInt64)
  | negative (n : Int64)
  | real
deriving DecidableEq

/-- Reads at least one digit; `missing` is the fault where another character stands. -/
def readDigits (missing : Fault) (s : List Char) : Except Fault (List Char × List Char) :=
  match s with
  | [] => .error missing
  | c :: _ =>
    if isDigit c then .ok (s.takeWhile isDigit, s.dropWhile isDigit) else .error .malformed

/-- Reads an exponent behind its letter, with its sign. -/
def readExponent (missing : Fault) (s : List Char) : Except Fault (Int × List Char) :=
  let (negative, s) :=
    match s with
    | '-' :: s => (true, s)
    | '+' :: s => (false, s)
    | _ => (false, s)
  match readDigits missing s with
  | .error e => .error e
  | .ok (digits, rest) =>
    let n : Int := ((Text.readNatural? digits).getD 0 : Nat)
    .ok (if negative then -n else n, rest)

/-- Whether a decimal number is too large for a floating-point number of sixty-four bits. -/
def overflows (digits : List Char) (exponent : Int) : Bool :=
  let x : Binary64 := .ofDecimal false ((Text.readNatural? digits).getD 0) exponent
  x.isInfinite

/-- The rest of a number behind the digits in front: a fraction, an exponent, or nothing. The
answer is the place of the last digit, if there is a fraction or an exponent. -/
def readScale (missing : Fault) (s : List Char) :
    Except Fault (Option (List Char × Int) × List Char) :=
  let exponentOf := fun (digits : List Char) (s : List Char) =>
    match readExponent missing s with
    | .error e => .error e
    | .ok (e, rest) => .ok (some (digits, e - digits.length), rest)
  match s with
  | '.' :: s =>
    match readDigits missing s with
    | .error e => .error e
    | .ok (digits, 'e' :: rest) => exponentOf digits rest
    | .ok (digits, 'E' :: rest) => exponentOf digits rest
    | .ok (digits, rest) => .ok (some (digits, -digits.length), rest)
  | 'e' :: s => exponentOf [] s
  | 'E' :: s => exponentOf [] s
  | _ => .ok (none, s)

/-- The digits in front of a number: a zero, or digits that do not start with one. -/
def readWhole (missing : Fault) (s : List Char) : Except Fault (List Char × List Char) :=
  match s with
  | '0' :: c :: rest => if isDigit c then .error .malformed else .ok (['0'], c :: rest)
  | _ => readDigits missing s

/-- Reads a number behind its sign. -/
def readNumber (negative : Bool) (s : List Char) : Except Fault (Number × List Char) :=
  match readWhole .truncated s with
  | .error e => .error e
  | .ok (whole, rest) =>
    match readScale .truncated rest with
    | .error e => .error e
    | .ok (some (fraction, exponent), rest) =>
      if overflows (whole ++ fraction) exponent then .error .malformed else .ok (.real, rest)
    | .ok (none, rest) =>
      let n := (Text.readNatural? whole).getD 0
      if overflows whole 0 then .error .malformed
      else if negative then
        if 0 < n ∧ Int64.minValue.toInt ≤ -n then .ok (.negative (Int64.ofInt (-n)), rest)
        else .ok (.real, rest)
      else if n < UInt64.size then .ok (.natural (UInt64.ofNat n), rest)
      else .ok (.real, rest)

/-- Skips a number behind its sign. An early end breaks the notation here. -/
def skipNumber (s : List Char) : Except Fault (Unit × List Char) :=
  match readWhole .malformed s with
  | .error e => .error e
  | .ok (_, rest) =>
    match readScale .malformed rest with
    | .error e => .error e
    | .ok (_, rest) => .ok ((), rest)

end MailFilter.Json
