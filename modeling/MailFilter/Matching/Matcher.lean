import MailFilter.Matching.Check

/-!
# Matching Messages

A matcher is a rule that is being used. It remembers for every condition what became of its
pattern, once the condition has been looked at, so that a fault in a pattern can be reported. Such a
condition never holds, negated or not.

Conditions are looked at in order up to the first one that decides the verdict, and no command
behind that one is run.
-/

namespace MailFilter

open CommandTemplate (Fault)
open Regex (Pattern)

/-- A condition in use. `tried` is empty until the pattern of the condition has been read. -/
structure Probe where
  condition : Condition
  tried : Option (Option Pattern)
  tried_eq : ∀ r, tried = some r → condition.test.pattern? = some r

namespace Probe

/-- A condition that has not been looked at. -/
def ofCondition (c : Condition) : Probe := ⟨c, none, by simp⟩

/-- Reads the pattern of the condition, if it has one and has not been read. -/
def prepare (p : Probe) : Probe :=
  match p.tried with
  | some _ => p
  | none => ⟨p.condition, p.condition.test.pattern?, fun _ h => h⟩

/-- Whether the condition turned out to have a text for a pattern that is none. -/
def isFaulty (p : Probe) : Bool :=
  match p.tried with
  | some none => true
  | _ => false

/-- Whether the condition turned out to have a pattern. -/
def isReady (p : Probe) : Bool :=
  match p.tried with
  | some (some _) => true
  | _ => false

/-- The verdict of one condition on a message, the condition afterwards, and the calls with those
that it made. -/
def run (ctx : Context) (m : Message) (p : Probe) (log : CallLog) :
    Except Fault (Bool × Probe × CallLog) :=
  let p := p.prepare
  match p.condition.test.check ctx m (p.tried.getD none) log with
  | .error e => .error e
  | .ok (verdict, log) => .ok (!p.isFaulty && verdict != p.condition.negated, p, log)

/-- Looks at conditions in order up to the first one whose verdict is `stop`. -/
def runUntil (ctx : Context) (m : Message) (stop : Bool) :
    List Probe → CallLog → Except Fault (Bool × List Probe × CallLog)
  | [], log => .ok (!stop, [], log)
  | p :: rest, log =>
    match p.run ctx m log with
    | .error e => .error e
    | .ok (verdict, p, log) =>
      if verdict = stop then .ok (stop, p :: rest, log)
      else
        match runUntil ctx m stop rest log with
        | .error e => .error e
        | .ok (verdict, rest, log) => .ok (verdict, p :: rest, log)

end Probe

/-- The verdict that settles a combination: one condition that fails settles a conjunction, one
that holds a disjunction. -/
def Combinator.decisive : Combinator → Bool
  | .all => false
  | .any => true

/-- A rule in use. -/
structure Matcher where
  probes : List Probe
  combinator : Combinator

namespace Matcher

/-- A rule that has not been used. -/
def ofRule (r : Rule) : Matcher := ⟨r.conditions.map .ofCondition, r.combinator⟩

/-- Whether a pattern of the rule turned out to be none. -/
def hasFault (r : Matcher) : Bool := r.probes.any Probe.isFaulty

/-- The verdict of the rule on a message. -/
def run (ctx : Context) (m : Message) (r : Matcher) (log : CallLog) :
    Except Fault (Bool × Matcher × CallLog) :=
  match Probe.runUntil ctx m r.combinator.decisive r.probes log with
  | .error e => .error e
  | .ok (verdict, probes, log) => .ok (verdict, { r with probes := probes }, log)

/-- The verdicts of the rule on several messages in order. -/
def runAll (ctx : Context) :
    List Message → Matcher → CallLog → Except Fault (List Bool × Matcher × CallLog)
  | [], r, log => .ok ([], r, log)
  | m :: rest, r, log =>
    match r.run ctx m log with
    | .error e => .error e
    | .ok (verdict, r, log) =>
      match runAll ctx rest r log with
      | .error e => .error e
      | .ok (verdicts, r, log) => .ok (verdict :: verdicts, r, log)

/-- The verdicts of every single condition on a message, none of them left out. -/
def runEach (ctx : Context) (m : Message) :
    List Probe → CallLog → Except Fault (List Bool × List Probe × CallLog)
  | [], log => .ok ([], [], log)
  | p :: rest, log =>
    match p.run ctx m log with
    | .error e => .error e
    | .ok (verdict, p, log) =>
      match runEach ctx m rest log with
      | .error e => .error e
      | .ok (verdicts, rest, log) => .ok (verdict :: verdicts, p :: rest, log)

end Matcher

/-- The elements whose verdict is true, in order. -/
def selected {α : Type} (items : List α) (verdicts : List Bool) : List α :=
  ((items.zip verdicts).filter (·.2)).map (·.1)

end MailFilter
