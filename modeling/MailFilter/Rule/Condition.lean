import MailFilter.Rule.Criterion
import MailFilter.Rule.SyntaxError

/-!
# Conditions and Rules

A condition is one test of a message, possibly negated. A rule is a non-empty list of conditions of
which all or any must hold. The constructors of `Test` allow each criterion exactly the operand it
asks for, so a condition with a wrong operand cannot be written down; `Condition.make` is where a
criterion, a comparison and an operand that were chosen separately are put together.

## Main results

* `make_test`: every test is put together from its own criterion, comparison and operand.
-/

namespace MailFilter

/-- How a text operand is compared: as a pattern or literally, with or without regard to case. -/
structure Comparison where
  isPattern : Bool
  caseSensitive : Bool
deriving DecidableEq, Repr

/-- Literal and without regard to case, the comparison of a plain operand. -/
def Comparison.plain : Comparison := ⟨false, false⟩

/-- What stands after the criterion of a condition. -/
inductive Operand where
  | none
  | text (text : String)
  | number (value : Int64)
deriving DecidableEq

/-- The kind of an operand. -/
def Operand.arity : Operand → Arity
  | .none => .none
  | .text _ => .text
  | .number _ => .number

/-- One test of a message. -/
inductive Test where
  | status (status : Status)
  | measure (measure : Measure) (bound : Int64)
  | text (field : Field) (comparison : Comparison) (operand : String)
  | command (template : String)
deriving DecidableEq

namespace Test

/-- What the test looks at. -/
def criterion : Test → Criterion
  | status s => .status s
  | measure m _ => .measure m
  | text f _ _ => .text f
  | command _ => .command

/-- How the test compares; a test that compares no text has the plain comparison. -/
def comparison : Test → Comparison
  | text _ how _ => how
  | _ => .plain

/-- The operand of the test. -/
def operand : Test → Operand
  | status _ => .none
  | measure _ n => .number n
  | text _ _ s => .text s
  | command s => .text s

end Test

/-- One condition of a rule. -/
structure Condition where
  negated : Bool
  test : Test
deriving DecidableEq

namespace Condition

/-- Puts a condition together. The operand must be of the kind that the criterion asks for, and a
criterion that compares no text takes no comparison but the plain one. -/
def make (criterion : Criterion) (how : Comparison) (operand : Operand) (negated : Bool) :
    Except SyntaxError Condition :=
  match criterion, operand with
  | .text f, .text s => .ok ⟨negated, .text f how s⟩
  | .status s, .none =>
    if how = .plain then .ok ⟨negated, .status s⟩
    else .error (.unexpectedModifier criterion.code 0)
  | .measure m, .number n =>
    if how = .plain then .ok ⟨negated, .measure m n⟩
    else .error (.unexpectedModifier criterion.code 0)
  | .command, .text s =>
    if how = .plain then .ok ⟨negated, .command s⟩
    else .error (.unexpectedModifier criterion.code 0)
  | _, _ => .error (.missingOperand criterion.code 0)

/-- Every test is put together from its own criterion, comparison and operand. -/
theorem make_test (c : Condition) :
    make c.test.criterion c.test.comparison c.test.operand c.negated = .ok c := by
  rcases c with ⟨n, t⟩
  cases t <;> rfl

/-- A condition that was put together has the operand it was put together from. -/
theorem operand_of_make {k : Criterion} {how : Comparison} {o : Operand} {n : Bool}
    {c : Condition} (h : make k how o n = .ok c) :
    c.negated = n ∧ c.test.criterion = k ∧ c.test.comparison = how ∧ c.test.operand = o := by
  unfold make at h
  split at h
  · cases h
    exact ⟨rfl, rfl, rfl, rfl⟩
  all_goals
    first
    | (split at h
       · next hp =>
         cases h
         exact ⟨rfl, rfl, hp.symm, rfl⟩
       · cases h)
    | cases h

/-- The condition with the opposite verdict. -/
def negate (c : Condition) : Condition := { c with negated := !c.negated }

end Condition

/-- Whether all conditions of a rule must hold, or any one of them. -/
inductive Combinator where
  | all
  | any
deriving DecidableEq, Repr

/-- A rule: at least one condition, and how the conditions are combined. -/
structure Rule where
  conditions : List Condition
  combinator : Combinator
  conditions_ne_nil : conditions ≠ []
deriving DecidableEq

/-- Puts a rule together; a rule without conditions is empty. -/
def Rule.make (conditions : List Condition) (combinator : Combinator) : Except SyntaxError Rule :=
  if h : conditions = [] then .error .empty else .ok ⟨conditions, combinator, h⟩

end MailFilter
