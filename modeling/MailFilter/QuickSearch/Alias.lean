import MailFilter.Rule.Criterion
import MailFilter.Text.Ascii

/-!
# Aliases of the Quick Search

A query may use words in place of codes. Two aliases are capital letters and are taken exactly; the
others are words, taken without regard to case. A code always means itself.

## Main results

* `resolve?_of_code`: a code is its own meaning.
-/

namespace MailFilter.QuickSearch

/-- The aliases with the codes they stand for, some of them negated. -/
def aliases : List (String × String) := [
  ("O", "~N"), ("R", "~U"), ("all", "a"), ("subject", "s"), ("from", "f"), ("to", "t"),
  ("cc", "c"), ("tocc", "C"), ("newsgroup", "n"), ("header", "H"), ("headers", "h"),
  ("body", "b"), ("message", "B"), ("unread", "U"), ("read", "~U"), ("new", "N"),
  ("old", "~N"), ("marked", "T"), ("deleted", "D"), ("replied", "r"), ("forwarded", "F"),
  ("locked", "L")]

/-- Whether a word is meant by an alias. -/
def isAlias (known word : String) : Bool :=
  known == word || (known.length != 1 && Text.equalsIgnoringCase known word)

/-- What a word in keyword position stands for. -/
def resolve? (word : String) : Option String :=
  match Criterion.ofCode? word with
  | some _ => some word
  | none => (aliases.find? fun a => isAlias a.1 word).map (·.2)

/-- A code is its own meaning. -/
theorem resolve?_of_code {word : String} {c : Criterion} (h : Criterion.ofCode? word = some c) :
    resolve? word = some word := by
  simp [resolve?, h]

end MailFilter.QuickSearch
