/-!
# ASCII Letters and Digits

Rule names, column names and header names are compared by their ASCII letters alone: a letter
outside ASCII equals only itself.
-/

namespace MailFilter.Text

/-- An ASCII decimal digit. -/
def isDigit (c : Char) : Bool := '0' ≤ c && c ≤ '9'

/-- An ASCII letter. -/
def isLetter (c : Char) : Bool := ('a' ≤ c && c ≤ 'z') || ('A' ≤ c && c ≤ 'Z')

/-- An ASCII letter or digit. -/
def isAlphanumeric (c : Char) : Bool := isLetter c || isDigit c

/-- Lowers the ASCII letters and keeps every other character. -/
def asciiLower (s : List Char) : List Char := s.map Char.toLower

/-- Equality up to the case of ASCII letters. -/
def equalsIgnoringCase (a b : String) : Bool :=
  asciiLower a.toList == asciiLower b.toList

/-- Equality up to case is an equality of lowered texts. -/
theorem equalsIgnoringCase_iff {a b : String} :
    equalsIgnoringCase a b = true ↔ asciiLower a.toList = asciiLower b.toList := by
  simp [equalsIgnoringCase]

/-- A text with its ASCII letters lowered. -/
def lowered (s : String) : String := String.ofList (asciiLower s.toList)

end MailFilter.Text
