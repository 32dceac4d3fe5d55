import MailFilter.Matching.Matcher
import MailFilter.RuleSet.RuleSet

/-!
# Classifying Messages

Which rules of a set a message matches: the first one, where the search ends, or all of them.
-/

namespace MailFilter

open CommandTemplate (Fault)

/-- The rules of a set in use. -/
abbrev Classifier := List Matcher

namespace Classifier

/-- The rules of a set, none of which has been used. -/
def ofRules (rules : RuleSet) : Classifier := rules.map fun r => .ofRule r.rule

/-- The place of the first rule that a message matches. No rule behind it is looked at. -/
def first (ctx : Context) (m : Message) :
    Classifier → CallLog → Except Fault (Option Nat × Classifier × CallLog)
  | [], log => .ok (none, [], log)
  | r :: rest, log =>
    match r.run ctx m log with
    | .error e => .error e
    | .ok (true, r, log) => .ok (some 0, r :: rest, log)
    | .ok (false, r, log) =>
      match first ctx m rest log with
      | .error e => .error e
      | .ok (place, rest, log) => .ok (place.map (· + 1), r :: rest, log)

/-- The verdict of every rule on a message. -/
def all (ctx : Context) (m : Message) :
    Classifier → CallLog → Except Fault (List Bool × Classifier × CallLog)
  | [], log => .ok ([], [], log)
  | r :: rest, log =>
    match r.run ctx m log with
    | .error e => .error e
    | .ok (verdict, r, log) =>
      match all ctx m rest log with
      | .error e => .error e
      | .ok (verdicts, rest, log) => .ok (verdict :: verdicts, r :: rest, log)

end Classifier

end MailFilter
