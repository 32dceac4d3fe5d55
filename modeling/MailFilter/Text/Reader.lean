import MailFilter.Text.Ascii
import MailFilter.Text.Blank
import MailFilter.Text.Decimal

/-!
# Reading from the Left

A `Reader` takes characters from the front of a text and fails without a reason. It serves the
small fixed forms, such as dates, whose faults are all reported alike.
-/

namespace MailFilter.Text

/-- Takes characters from the front of a text, or fails. -/
abbrev Reader := StateT (List Char) Option

namespace Reader

/-- Runs a reader that must take the whole text. -/
def readAll? {α : Type} (r : Reader α) (s : List Char) : Option α :=
  match r.run s with
  | some (a, []) => some a
  | _ => none

/-- What has not been taken. -/
def rest : Reader (List Char) := get

/-- The next character, which is not taken. -/
def peek? : Reader (Option Char) := return (← get).head?

/-- Takes the next character. -/
def any : Reader Char := do
  match ← get with
  | c :: s =>
    set s
    return c
  | [] => failure

/-- Takes the next character, which must satisfy a test. -/
def satisfying (p : Char → Bool) : Reader Char := do
  let c ← any
  if p c then return c else failure

/-- Takes one character. -/
def char (c : Char) : Reader Unit := do
  let _ ← satisfying (· == c)

/-- Takes the characters in front that satisfy a test. -/
def takeWhile (p : Char → Bool) : Reader (List Char) :=
  modifyGet fun s => (s.takeWhile p, s.dropWhile p)

/-- Takes the blanks in front, which may be missing. -/
def blanks : Reader Unit := modify trimStart

/-- Takes the blanks in front, of which there must be one. -/
def someBlanks : Reader Unit := do
  let _ ← satisfying isBlank
  blanks

/-- Takes between `least` and `most` digits; the number must fit a signed word. -/
def number (least most : Nat) : Reader Nat := do
  let s ← get
  let digits := (s.take most).takeWhile isDigit
  set (s.drop digits.length)
  match readNatural? digits with
  | some n => if least ≤ digits.length ∧ n ≤ Int64.maxValue.toInt then return n else failure
  | none => failure

/-- Takes what a reader takes, or nothing if it fails. -/
def optional {α : Type} (r : Reader α) : Reader (Option α) := fun s =>
  match r.run s with
  | some (a, s) => some (some a, s)
  | none => some (none, s)

/-- Takes as often as possible, at least one element each time. -/
def takeMany {τ α : Type} (r : StateT (List τ) Option α) (s : List τ) : List α × List τ :=
  match r.run s with
  | some (a, rest) =>
    if rest.length < s.length then
      let (as, rest) := takeMany r rest
      (a :: as, rest)
    else ([], s)
  | none => ([], s)
termination_by s.length

/-- Takes as often as possible, at least one character each time. -/
def many {α : Type} (r : Reader α) : Reader (List α) := modifyGet (takeMany r)

/-- Takes what stands in front of a text, if it stands there. -/
def literal (text : List Char) : Reader Unit := text.forM char

/-- Succeeds at the end of the text. -/
def atEnd : Reader Unit := do
  if (← rest).isEmpty then return else failure

/-- Takes the first alternative if it does not fail, else the second one. -/
def orElse {α : Type} (a b : Reader α) : Reader α := fun s =>
  match a.run s with
  | some result => some result
  | none => b.run s

end Reader

end MailFilter.Text
