import MailFilter.Text.Ascii
import MailFilter.Text.Decimal
import MailFilter.Text.Utf8

/-!
# Names of Rules

A rule that is stored or listed under a name has a short one: one to sixty-four ASCII letters,
digits, hyphens and underscores.

## Main results

* `checkName_ok_iff`: the names that are accepted.
-/

namespace MailFilter

/-- What is wrong with the name of a rule. -/
inductive NameFault where
  | empty
  | tooLong (bytes : Nat)
  | badCharacter (name : String)
deriving DecidableEq, Repr

/-- The text of the message. -/
def NameFault.message : NameFault → String
  | empty => "Rule name cannot be empty"
  | tooLong bytes => s!"Rule name too long (max 64 chars): {Text.natural bytes}"
  | badCharacter name =>
    s!"Rule name '{name}' contains invalid characters (only letters, digits, '-' and '_' allowed)"

/-- Whether a character may stand in a name. -/
def isNameChar (c : Char) : Bool := Text.isAlphanumeric c || c == '-' || c == '_'

/-- Checks a name. -/
def checkName (name : String) : Except NameFault Unit :=
  let bytes := Text.byteLength name.toList
  if name = "" then .error .empty
  else if 64 < bytes then .error (.tooLong bytes)
  else if name.toList.all isNameChar then .ok ()
  else .error (.badCharacter name)

/-- Whether a name is accepted. -/
def isValidName (name : String) : Bool :=
  match checkName name with
  | .ok _ => true
  | .error _ => false

/-- The names that are accepted. -/
theorem checkName_ok_iff {name : String} :
    checkName name = .ok () ↔
      name ≠ "" ∧ Text.byteLength name.toList ≤ 64 ∧ name.toList.all isNameChar = true := by
  simp only [checkName]
  split
  · simp [*]
  · split
    · simp only [reduceCtorEq, false_iff]
      omega
    · split <;> simp_all

/-- A name is valid exactly if it passes the check. -/
theorem isValidName_iff {name : String} : isValidName name = true ↔ checkName name = .ok () := by
  rw [isValidName]
  split <;> simp_all

end MailFilter
