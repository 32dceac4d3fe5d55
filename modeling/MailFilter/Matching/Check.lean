import MailFilter.Matching.Runner
import MailFilter.Message.CommandTemplate
import MailFilter.Regex.Parser
import MailFilter.Rule.Condition
import MailFilter.Text.Substring
import MailFilter.Unicode.Lowercase

/-!
# Checking a Test

Whether a single test holds of a message, before a negation is applied. Texts are compared by
occurrence or by a pattern; ages count whole days; a size is compared as the largest signed number
where it is greater than that. Only a command that ends with code zero holds.

## Main results

* `occurs_of_sensitive`: with regard to case an operand is found exactly where it occurs.
-/

namespace MailFilter

open Calendar (Instant)
open CommandTemplate (Fault)
open Regex (Pattern)

/-- Whether a text contains the operand, with or without regard to case. -/
def Comparison.occurs (how : Comparison) (operand text : String) : Bool :=
  if how.caseSensitive then Text.occursIn operand.toList text.toList
  else Text.occursIn (Unicode.lowercase operand.toList) (Unicode.lowercase text.toList)

/-- With regard to case an operand is found exactly where it occurs. -/
theorem Comparison.occurs_of_sensitive {how : Comparison} (h : how.caseSensitive = true)
    (operand text : String) : how.occurs operand text = true ↔ operand.toList <:+: text.toList := by
  rw [Comparison.occurs, if_pos h, Text.occursIn_iff]

/-- The pattern of a test, for the tests that have one. A text that is no pattern gives `none`. -/
def Test.pattern? : Test → Option (Option Pattern)
  | .text _ how operand =>
    if how.isPattern then some (Pattern.ofText? (!how.caseSensitive) operand.toList) else none
  | _ => none

/-- The age of a message in whole days. A message without a date has no age, which is zero. -/
def Message.age (m : Message) (now : Instant) : Int :=
  match m.date with
  | some date => now.daysSince date
  | none => 0

/-- The size of a message as a signed number: the largest one for the sizes beyond it. -/
def Message.clampedSize (m : Message) : Int := min m.size.toNat Int64.maxValue.toInt

/-- Whether a measure of a message is as asked. -/
def Message.measures (m : Message) (now : Instant) (bound : Int64) : Measure → Bool
  | .olderThan => bound.toInt < m.age now
  | .youngerThan => m.age now < bound.toInt
  | .score relation => compare m.score.toInt bound.toInt == relation
  | .size relation => compare m.clampedSize bound.toInt == relation

namespace Test

/-- Whether a test holds of a message, and the calls with those that it made. `pattern` is what
became of the pattern of the test. -/
def check (ctx : Context) (m : Message) (pattern : Option Pattern) (log : CallLog) :
    Test → Except Fault (Bool × CallLog)
  | .status s => .ok (m.hasStatus s, log)
  | .measure k bound => .ok (m.measures ctx.now bound k, log)
  | .text f how operand =>
    if how.isPattern then
      match pattern with
      | some p => .ok ((m.texts f).any fun t => p.matchesIn t.toList, log)
      | none => .ok (false, log)
    else .ok ((m.texts f).any (how.occurs operand), log)
  | .command template =>
    match CommandTemplate.command template m with
    | .error e => .error e
    | .ok filled =>
      let call : Call := ⟨filled, ctx.timeout⟩
      .ok (ctx.runner log call == .exited 0, log ++ [call])

end Test

end MailFilter
