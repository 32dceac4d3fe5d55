import MailFilter.Rule.Quoting

/-!
# Writing Rules

The canonical text of a rule: one blank between a code and its operand and around the operators,
`~` for a negation, `%` for a comparison that respects case, and every literal operand between
quotes.
-/

namespace MailFilter

open Text (isDigit isAlphanumeric)

/-- Whether the name of a header can stand without quotes: ASCII letters, digits, hyphens and
underscores, and neither a digit nor a hyphen at the front. -/
def Field.isBareName : List Char → Bool
  | [] => false
  | c :: s =>
    (c :: s).all (fun d => isAlphanumeric d || d == '-' || d == '_') && !isDigit c && c != '-'

/-- The name of a header behind the code for headers. -/
def Field.writeName : Field → List Char
  | .header name =>
    ' ' :: (if isBareName name.toList then name.toList else Quoting.quote name.toList)
  | _ => []

/-- A text operand: a pattern between slashes, a literal between quotes. -/
def Comparison.writeOperand (how : Comparison) (operand : String) : List Char :=
  if how.isPattern then Quoting.delimit operand.toList else Quoting.quote operand.toList

/-- The code and the operand of a test, with the marker for case in front. -/
def Test.write : Test → List Char
  | .status s => s.code.toList
  | .measure m n => m.code.toList ++ ' ' :: Text.writeInt n.toInt
  | .text f how operand =>
    (if how.caseSensitive then ['%'] else []) ++ f.code.toList ++ f.writeName ++
      ' ' :: how.writeOperand operand
  | .command template => 'X' :: ' ' :: Quoting.quote template.toList

/-- The canonical text of a condition. -/
def Condition.write (c : Condition) : List Char :=
  (if c.negated then ['~'] else []) ++ c.test.write

/-- The operator between two conditions. -/
def Combinator.write : Combinator → List Char
  | .all => " & ".toList
  | .any => " | ".toList

/-- The canonical text of a rule. -/
def Rule.write (r : Rule) : List Char :=
  (r.combinator.write).intercalate (r.conditions.map Condition.write)

/-- The canonical text of a condition. -/
def Condition.text (c : Condition) : String := String.ofList c.write

/-- The readable name of a condition. -/
def Condition.name (c : Condition) : String :=
  let name :=
    match c.test.criterion with
    | .text (.header header) => "header " ++ header
    | criterion => criterion.name
  if c.negated then "not " ++ name else name

/-- The canonical text of a rule. -/
def Rule.text (r : Rule) : String := String.ofList r.write

end MailFilter
