import MailFilter.Program.Session
import MailFilter.Report.Lines
import MailFilter.RuleSet.Classifier

/-!
# Commands that Look at Messages

Checking a rule, filtering by it, classifying by the stored rules, and quick search.
-/

namespace MailFilter.Program

open Procedure (print printLine printLines note query change result reading)
open Report (plural)

namespace Session

/-- How the combination of conditions is described. -/
def policy : Combinator → String
  | .all => "all"
  | .any => "any"

/-- Checks a rule. The answer is whether it is one; a fault in it is noted with a mark at its
place. -/
def check (s : Session) (text : String) : Procedure Bool :=
  match Rule.parse text with
  | .ok r => do
    printLine r.text
    if !s.quiet then
      let conditions := plural r.conditions.length "condition"
      printLine s!"  {conditions} ({policy r.combinator} must match)"
      printLines (r.conditions.map fun c => "    " ++ c.name)
    return true
  | .error e => do
    note (Report.syntaxFault s.surroundings.colours text e)
    return false

/-- The line of a message. -/
def messageLine (s : Session) (m : Message) : String :=
  Report.messageLine s.surroundings.colours m s.quiet

/-- Loads messages. -/
def load (m : MessageSource) : Procedure (List Message) :=
  query .messages fun t => Message.load t m.path m.formatUsed

/-- Says how many messages were taken, unless the program is to be quiet. -/
def summarize (s : Session) (count total : Nat) (verb : String) : Procedure Unit :=
  if s.quiet then return
  else do
    printLine ""
    let messages := plural total "message"
    printLine s!"{Text.natural count} of {messages} {verb}"

/-- The rule that a filter goes by. Going by a stored rule counts as a use of it. -/
def chosenRule (s : Session) : RuleChoice → Procedure Rule
  | .rule text => result .syntax_ (Rule.parse text)
  | .stored name => do
    let stored ← query .store (s.ruleFile.get name)
    let rule ← result .store stored.parsed
    change .store (s.ruleFile.recordUse (s.surroundings.clock 0) name)
    return rule

/-- The messages of a source, and those of them that were taken, in order. -/
structure Selection where
  messages : List Message
  taken : List Message
deriving DecidableEq

/-- The messages that a rule takes. A fault in a pattern of the rule is noted. -/
def filtered (s : Session) (choice : RuleChoice) (source : MessageSource) :
    Procedure Selection := do
  let rule ← s.chosenRule choice
  let messages ← load source
  let ctx ← reading (s.context (s.surroundings.clock 1))
  let (verdicts, matcher, _) ←
    result .command (Matcher.runAll ctx messages (.ofRule rule) [])
  if matcher.hasFault then
    note "warning: rule contains an invalid regex; those conditions never match"
  return ⟨messages, selected messages verdicts⟩

/-- Prints the messages that a rule takes, or their number. -/
def filter (s : Session) (choice : RuleChoice) (count : Bool) (source : MessageSource) :
    Procedure Unit := do
  let selection ← s.filtered choice source
  if count then printLine (Text.natural selection.taken.length)
  else
    printLines (selection.taken.map s.messageLine)
    s.summarize selection.taken.length selection.messages.length "matched"

/-- Says that there are no stored rules, unless the program is to be quiet. -/
def noRules (s : Session) : Procedure Unit :=
  if s.quiet then return
  else printLines ["No saved rules.", "Create one with: mailmatch rules add <name> <rule>"]

/-- The verdicts of the rules of a set on messages, or just the first of them that is true. -/
def labels (ctx : Context) (first : Bool) :
    List Message → Classifier → CallLog → Except CommandTemplate.Fault (List (List Nat))
  | [], _, _ => .ok []
  | m :: rest, c, log => do
    let (places, c, log) ←
      if first then do
        let (place, c, log) ← Classifier.first ctx m c log
        pure (place.toList, c, log)
      else do
        let (verdicts, c, log) ← Classifier.all ctx m c log
        pure (selected (List.range verdicts.length) verdicts, c, log)
    return places :: (← labels ctx first rest c log)

/-- The messages of a source with the names of the stored rules that take them, if there are stored
rules. A rule that has no name is shown as a hyphen. -/
def labelled (s : Session) (first : Bool) (source : MessageSource) :
    Procedure (Option (List (Message × List String))) := do
  let rules ← query .store (s.ruleFile.ruleSet [])
  if rules.isEmpty then return none
  else
    let messages ← load source
    let ctx ← reading (s.context (s.surroundings.clock 0))
    let places ← result .command (labels ctx first messages (.ofRules rules) [])
    return some (messages.zip (places.map fun ps =>
      ps.map fun i => (rules[i]?.bind (·.name)).getD "-"))

/-- Prints the messages that stored rules take, with the names of the rules. -/
def classify (s : Session) (first : Bool) (source : MessageSource) : Procedure Unit := do
  match ← s.labelled first source with
  | none => s.noRules
  | some labelled =>
    let matched := labelled.filter fun (_, names) => !names.isEmpty
    printLines (matched.map fun (m, names) =>
      s.messageLine m ++ "  [" ++ ", ".intercalate names ++ "]")
    if !s.quiet then
      printLine ""
      let count := Text.natural matched.length
      let total := plural labelled.length "message"
      printLine s!"{count} of {total} matched a rule"

/-- The messages that a quick search finds. A query that is no rule is noted. -/
def found (s : Session) (query : String) (mode : Option QuickSearch.Mode)
    (source : MessageSource) : Procedure Selection := do
  let search := QuickSearch.Search.prepare query (mode.getD s.settings.searchMode)
  let messages ← load source
  if !search.isActive && Text.trimmed query != "" && !s.quiet then
    note (s!"note: '{query}' is not a valid {search.mode.name} query, " ++
      "showing all messages")
  let ctx ← reading (s.context (s.surroundings.clock 0))
  let (verdicts, _, _) ← result .command (QuickSearch.Search.runAll ctx messages search [])
  return ⟨messages, selected messages verdicts⟩

/-- Prints the messages that a quick search finds. -/
def search (s : Session) (query : String) (mode : Option QuickSearch.Mode)
    (source : MessageSource) : Procedure Unit := do
  let selection ← s.found query mode source
  printLines (selection.taken.map s.messageLine)
  s.summarize selection.taken.length selection.messages.length "found"

end Session

end MailFilter.Program
