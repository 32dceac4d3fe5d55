import MailFilter.Text.Reader

/-!
# Sums

The arithmetic of the shell: whole numbers, names of parameters, signs, the four operations with the
remainder, and comparisons, whose verdict is one or zero. Division goes toward zero; a sum that
divides by zero has no value.
-/

namespace MailFilter.Shell.Sum

open Text (Reader)

/-- The number of a verdict. -/
def ofVerdict (verdict : Bool) : Int := if verdict then 1 else 0

/-- What an operator does. -/
def operation? (operator : String) (a b : Int) : Option Int :=
  match operator with
  | "*" => some (a * b)
  | "/" => if b = 0 then none else some (a.tdiv b)
  | "%" => if b = 0 then none else some (a.tmod b)
  | "+" => some (a + b)
  | "-" => some (a - b)
  | "<" => some (ofVerdict (a < b))
  | "<=" => some (ofVerdict (a ≤ b))
  | ">" => some (ofVerdict (b < a))
  | ">=" => some (ofVerdict (b ≤ a))
  | "==" => some (ofVerdict (a == b))
  | "!=" => some (ofVerdict (a != b))
  | "&&" => some (ofVerdict (a != 0 && b != 0))
  | "||" => some (ofVerdict (a != 0 || b != 0))
  | _ => none

/-- The operators that bind alike, the weakest first. -/
def levels : List (List String) :=
  [["||"], ["&&"], ["==", "!="], ["<=", ">=", "<", ">"], ["+", "-"], ["*", "/", "%"]]

/-- Takes an operator out of several ones. -/
def operator (texts : List String) : Reader String := do
  Reader.blanks
  let s ← Reader.rest
  match texts.find? fun t => t.toList.isPrefixOf s with
  | some t =>
    Reader.literal t.toList
    return t
  | none => failure

/-- Takes operands with the operators of some levels between them. -/
def operations (operand : Reader Int) : List (List String) → Reader Int
  | [] => operand
  | texts :: stronger => do
    let first ← operations operand stronger
    let more ← Reader.many do
      return (← operator texts, ← operations operand stronger)
    match more.foldlM (fun a (text, b) => operation? text a b) first with
    | some n => return n
    | none => failure

/-- The number that a parameter holds; one that holds nothing counts for zero. -/
def parameter? (value : String) : Option Int :=
  if value = "" then some 0 else Text.readInteger? value.toList

/-- Takes an operand: a number, a parameter, or a sum between parentheses, of which at most `depth`
stand inside each other. -/
def operandWithin (value : String → String) : (depth : Nat) → Reader Int
  | 0 => failure
  | depth + 1 => do
    Reader.blanks
    match ← Reader.peek? with
    | some '-' => do
      Reader.char '-'
      return -(← operandWithin value depth)
    | some '+' => do
      Reader.char '+'
      operandWithin value depth
    | some '!' => do
      Reader.char '!'
      return ofVerdict ((← operandWithin value depth) == 0)
    | some '(' => do
      Reader.char '('
      let n ← operations (operandWithin value depth) levels
      Reader.blanks
      Reader.char ')'
      return n
    | _ => do
      if (← Reader.peek?) = some '$' then Reader.char '$'
      let word ← Reader.takeWhile fun c => Text.isAlphanumeric c || c == '_' || c == '?' || c == '#'
      let n? :=
        if word.head?.any Text.isDigit then Text.readInteger? word
        else if word.isEmpty then none
        else parameter? (value (String.ofList word))
      match n? with
      | some n => return n
      | none => failure

/-- The number that a sum comes to. `value` gives the values of parameters. -/
def evaluate? (value : String → String) (sum : List Char) : Option Int :=
  Reader.readAll? (do
    let n ← operations (operandWithin value (sum.length + 1)) levels
    Reader.blanks
    return n) sum

end MailFilter.Shell.Sum
