import MailFilter.Text.Decimal

/-!
# Faults in the Text of a Rule

Every way in which the text of a rule can be wrong, with the place where it is. Places are counted
in bytes of the text, so that an editor can mark them.
-/

namespace MailFilter

/-- What is left open by a missing closing delimiter. -/
inductive Delimited where
  | quoted
  | pattern
deriving DecidableEq, Repr

/-- How messages call it. -/
def Delimited.name : Delimited → String
  | .quoted => "quoted string"
  | .pattern => "pattern"

/-- The character that opens and closes it. -/
def Delimited.mark : Delimited → Char
  | .quoted => '"'
  | .pattern => '/'

/-- The characters that a backslash only escapes; in front of any other one it stays. -/
def Delimited.escapes : Delimited → Char → Bool
  | .quoted, c => c == '"' || c == '\\'
  | .pattern, c => c == '/'

/-- A fault in the text of a rule. -/
inductive SyntaxError where
  /-- There is nothing but blanks. -/
  | empty
  /-- The word in keyword position is no code. -/
  | unknownKeyword (keyword : String) (position : Nat)
  /-- Something else than a word stands in keyword position. -/
  | unexpectedToken (token : String) (position : Nat)
  /-- No operand follows the keyword. -/
  | missingOperand (keyword : String) (position : Nat)
  /-- The operand of a measure is no number. -/
  | invalidNumber (value : String) (position : Nat)
  /-- A quoted text or a pattern is not closed. -/
  | unterminated (kind : Delimited) (position : Nat)
  /-- Both operators occur. -/
  | mixedOperators (position : Nat)
  /-- No condition follows. -/
  | missingCondition (position : Nat)
  /-- Something else than an operator follows a condition. -/
  | trailingInput (position : Nat)
  /-- The criterion takes neither `%` nor a pattern. -/
  | unexpectedModifier (keyword : String) (position : Nat)
deriving DecidableEq, Repr

namespace SyntaxError

open Text (natural)

/-- The byte at which the fault lies, if it lies at a place. -/
def position? : SyntaxError → Option Nat
  | empty => none
  | unknownKeyword _ p => some p
  | unexpectedToken _ p => some p
  | missingOperand _ p => some p
  | invalidNumber _ p => some p
  | unterminated _ p => some p
  | mixedOperators p => some p
  | missingCondition p => some p
  | trailingInput p => some p
  | unexpectedModifier _ p => some p

/-- The text of the message. -/
def message : SyntaxError → String
  | empty => "Rule is empty"
  | unknownKeyword k p => s!"Unknown keyword '{k}' at byte {natural p}"
  | unexpectedToken t p => s!"Unexpected '{t}' at byte {natural p}, expected a keyword"
  | missingOperand k p => s!"Keyword '{k}' at byte {natural p} is missing its operand"
  | invalidNumber v p => s!"Invalid number '{v}' at byte {natural p}"
  | unterminated kind p => s!"Unterminated {kind.name} starting at byte {natural p}"
  | mixedOperators p => s!"Cannot mix '&' and '|' in one rule (byte {natural p})"
  | missingCondition p => s!"Expected a condition at byte {natural p}"
  | trailingInput p => s!"Unexpected input at byte {natural p}"
  | unexpectedModifier k p => s!"Modifier not allowed for '{k}' at byte {natural p}"

end SyntaxError

/-! ### Results that may be faults -/

/-- What comes out of a step that cannot fail behind one that can. -/
theorem map_ok_iff {α β ε : Type} {f : α → β} {a : Except ε α} {b : β} :
    a.map f = .ok b ↔ ∃ x, a = .ok x ∧ f x = b := by
  cases a <;> simp [Except.map]

end MailFilter
