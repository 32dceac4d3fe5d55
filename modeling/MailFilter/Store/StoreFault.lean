import MailFilter.Files.FileTree
import MailFilter.RuleSet.RuleSet

/-!
# Faults of the Rule Store

Why a request to the stored rules is refused, or why their file cannot be used. One of these faults
is nothing that a request answers: the program stops where a use of a rule cannot be counted.
-/

namespace MailFilter

/-- Why something fails that has to do with stored rules. -/
inductive StoreFault where
  | notFound (name : String)
  | alreadyExists (name : String)
  | invalidName (name : String) (fault : NameFault)
  | invalidRule (fault : SyntaxError)
  | invalidLine (fault : RuleSet.LineFault)
  | file (fault : FileFault)
  | unreadable
  /-- The count of uses is the largest that there is. -/
  | countFull (name : String)
deriving DecidableEq

/-- The text of the message. What is wrong with a file that is no document of stored rules is not
said, and there is no message where the program stops. -/
def StoreFault.message? : StoreFault → Option String
  | notFound name => some s!"Rule '{name}' not found"
  | alreadyExists name => some s!"Rule '{name}' already exists"
  | invalidName name fault => some s!"Invalid rule name '{name}': {fault.message}"
  | invalidRule fault => some ("Invalid rule: " ++ fault.message)
  | invalidLine fault =>
    some s!"Invalid rule on line {Text.natural fault.line}: {fault.fault.message}"
  | file fault => some ("I/O error: " ++ fault.message)
  | unreadable => none
  | countFull _ => none

end MailFilter
