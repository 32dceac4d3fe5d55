import MailFilter.Toml.Value
import MailFilter.Unicode.Lowercase

/-!
# Settings from the Environment

A variable whose name starts with `MAILMATCH_`, in any case, sets the key that follows. Names are
taken in lowercase by the rules of Unicode, and of several variables for one key the last one
counts. The value is a truth value or a number if it reads as one, and else a text.

## Main results

* `lookup?_nil`: an empty environment sets nothing.
-/

namespace MailFilter

open Numeric (Binary64)
open Text (isDigit)

/-- The variables of the environment with their values. -/
abbrev Environment := List (String × String)

namespace Environment

/-! ### Numbers -/

/-- Reads a number with decimals, an exponent or both, behind its sign. Digits may be missing on one
side of the point. -/
def decimals? (negative : Bool) (s : List Char) : Option Binary64 := do
  let isMark := fun c : Char => c == 'e' || c == 'E'
  let mantissa := s.takeWhile (!isMark ·)
  let exponent ←
    match s.dropWhile (!isMark ·) with
    | [] => some 0
    | _ :: e => Text.readInteger? e
  let whole := mantissa.takeWhile (· != '.')
  let fraction := (mantissa.dropWhile (· != '.')).drop 1
  let digits ← Text.readNatural? (whole ++ fraction)
  return .ofDecimal negative digits (exponent - fraction.length)

/-- Reads a number that is no integer. -/
def real? (value : List Char) : Option Binary64 :=
  let (negative, s) :=
    match value with
    | '-' :: s => (true, s)
    | '+' :: s => (false, s)
    | s => (false, s)
  let word := Text.asciiLower s
  if word = "inf".toList ∨ word = "infinity".toList then some (.infinite negative)
  else if word = "nan".toList then some .nan
  else decimals? negative s

/-- The value of a variable. -/
def scalar (value : String) : Toml.Scalar :=
  if Text.equalsIgnoringCase value "true" then .truth true
  else if Text.equalsIgnoringCase value "false" then .truth false
  else
    match Text.readInt64? value.toList with
    | some n => .integer n
    | none =>
      match real? value.toList with
      | some x => .real x
      | none => .text value

/-! ### Keys -/

/-- What the names of the variables start with, in small letters. -/
def start : List Char := "mailmatch_".toList

/-- The key that a variable sets, if it sets one. -/
def key? (name : String) : Option String :=
  let name := Unicode.lowercase name.toList
  if start.isPrefixOf name then some (String.ofList (name.drop start.length)) else none

/-- The value that the environment gives to a key: that of the last variable for it. -/
def lookup? (e : Environment) (key : String) : Option Toml.Scalar :=
  (e.reverse.find? fun v => key? v.1 == some key).map fun v => scalar v.2

/-- An empty environment sets nothing. -/
theorem lookup?_nil (key : String) : lookup? [] key = none := rfl

end Environment

end MailFilter
