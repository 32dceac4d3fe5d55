import MailFilter.Rule.Parser
import MailFilter.Rule.Printer
import MailFilter.RuleSet.Name
import MailFilter.Text.Lines
import MailFilter.Text.Substring

/-!
# Rule Sets

A rule set is an ordered list of rules with names and descriptions. As a document it has one rule on
a line, `name: rule` or just `rule`. What stands before the first colon is a name only if it would
be a valid one, so that a colon may also stand inside a rule. Lines that start with `#` are
comments; those directly above a rule are its description.

## Main results

* `readLines_blank`: a blank line ends a description.
-/

namespace MailFilter

/-- A rule of a set. The description may have several lines. -/
structure ListedRule where
  name : Option String
  description : String
  rule : Rule
deriving DecidableEq

namespace ListedRule

/-- The line of a rule. -/
def write (r : ListedRule) : List Char :=
  match r.name with
  | some name => name.toList ++ ": ".toList ++ r.rule.write
  | none => r.rule.write

/-- The line of a rule. -/
def text (r : ListedRule) : String := String.ofList r.write

/-- The name in front of a line and the rule behind its first colon, if there is a name. -/
def splitName? (line : List Char) : Option (String × List Char) :=
  match Text.splitFirst? ':' line with
  | some (before, after) =>
    let name := String.ofList (Text.trim before)
    if isValidName name then some (name, after) else none
  | none => none

/-- Reads the line of a rule. -/
def ofLine (line : List Char) : Except SyntaxError ListedRule :=
  let line := Text.trim line
  match splitName? line with
  | some (name, rule) =>
    (Rule.ofTokens (.ofText 0 rule)).map fun r => ⟨some name, "", r⟩
  | none => (Rule.ofTokens (.ofText 0 line)).map fun r => ⟨none, "", r⟩

end ListedRule

/-- An ordered list of rules. -/
abbrev RuleSet := List ListedRule

namespace RuleSet

/-- A line that is no rule: its number, counted from one, and the fault. -/
structure LineFault where
  line : Nat
  fault : SyntaxError
deriving DecidableEq

/-- The text of a comment line behind its `#`, without one blank. -/
def commentText : List Char → List Char
  | ' ' :: s => s
  | s => s

/-- What a line of a document is. -/
inductive LineKind where
  | blank
  | comment (text : List Char)
  | rule (text : List Char)

/-- What a line is, without the blanks around it. -/
def LineKind.ofLine (line : List Char) : LineKind :=
  match Text.trim line with
  | [] => blank
  | c :: s => if c = '#' then comment (commentText s) else rule (c :: s)

/-- Reads lines, the first of which has the number `line`. `comments` is the block of comments
directly above. -/
def readLines (line : Nat) (comments : List (List Char)) :
    List (List Char) → Except LineFault RuleSet
  | [] => .ok []
  | l :: rest =>
    match LineKind.ofLine l with
    | .blank => readLines (line + 1) [] rest
    | .comment text => readLines (line + 1) (comments ++ [text]) rest
    | .rule text =>
      match ListedRule.ofLine text with
      | .error e => .error ⟨line, e⟩
      | .ok r =>
        let description := String.ofList (['\n'].intercalate comments)
        (readLines (line + 1) [] rest).map ({ r with description := description } :: ·)

/-- A blank line ends a description. -/
theorem readLines_blank {line : Nat} {comments : List (List Char)} {l : List Char}
    {rest : List (List Char)} (h : Text.trim l = []) :
    readLines line comments (l :: rest) = readLines (line + 1) [] rest := by
  simp only [readLines, LineKind.ofLine, h]

/-- Reads a document. -/
def ofDocument (text : String) : Except LineFault RuleSet := readLines 1 [] (Text.lines text.toList)

/-- The lines of one rule: its description as comments, and the rule. -/
def writeEntry (r : ListedRule) : List Char :=
  (Text.lines r.description.toList).flatMap (fun l => '#' :: ' ' :: l ++ ['\n']) ++
    r.write ++ ['\n']

/-- The document of a rule set. -/
def document (rules : RuleSet) : String := String.ofList (rules.flatMap writeEntry)

/-- The rule under a name. -/
def get? (rules : RuleSet) (name : String) : Option ListedRule :=
  rules.find? (·.name == some name)

end RuleSet

end MailFilter
