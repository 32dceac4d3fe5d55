import MailFilter.Calendar.Timestamp
import MailFilter.Store.StoreFault

/-!
# Stored Rules

A rule that is kept under a name, with a description and with what is known of its use. The rule
itself is kept as a text, which need not be a rule when it was typed into the file by hand.

## Main results

* `useCount_used`: a use counts one, where the word for the count has room.
* `validate_ok_iff`: the rules that are accepted.
-/

namespace MailFilter

open Calendar (Instant)

/-- A rule that is kept under a name. -/
structure StoredRule where
  name : String
  description : String
  created : Instant
  lastUsed : Instant
  useCount : UInt32
  rule : String
deriving DecidableEq

namespace StoredRule

/-- A rule that has just been made. -/
def make (now : Instant) (name description rule : String) : StoredRule :=
  ⟨name, description, now, now, 0, rule⟩

/-- Whether the word for the count of uses has room for one more. -/
def CanCount (r : StoredRule) : Prop := r.useCount.toNat + 1 < UInt32.size

instance (r : StoredRule) : Decidable r.CanCount := inferInstanceAs (Decidable (_ < _))

/-- A rule that has just been made can be used. -/
theorem canCount_make (now : Instant) (name description rule : String) :
    (make now name description rule).CanCount := show 0 + 1 < UInt32.size by decide

/-- The rule after one more use, for which there must be room in the count. -/
def used (now : Instant) (r : StoredRule) : StoredRule :=
  { r with useCount := r.useCount + 1, lastUsed := now }

/-- A use counts one, where the word for the count has room. -/
theorem useCount_used (now : Instant) {r : StoredRule} (h : r.CanCount) :
    (r.used now).useCount.toNat = r.useCount.toNat + 1 :=
  (UInt32.toNat_add _ _).trans (Nat.mod_eq_of_lt h)

/-- The rule that the text stands for. -/
def parsed (r : StoredRule) : Except StoreFault Rule :=
  match Rule.parse r.rule with
  | .ok rule => .ok rule
  | .error e => .error (.invalidRule e)

/-- Checks the name of a rule. -/
def checkRuleName (name : String) : Except StoreFault Unit :=
  match checkName name with
  | .ok () => .ok ()
  | .error e => .error (.invalidName name e)

/-- Checks the name and the text. -/
def validate (r : StoredRule) : Except StoreFault Unit :=
  match checkRuleName r.name with
  | .error e => .error e
  | .ok () =>
    match r.parsed with
    | .error e => .error e
    | .ok _ => .ok ()

/-- The rules that are accepted: those with a valid name and a text that is a rule. -/
theorem validate_ok_iff {r : StoredRule} :
    r.validate = .ok () ↔ checkName r.name = .ok () ∧ ∃ rule, Rule.parse r.rule = .ok rule := by
  unfold validate checkRuleName parsed
  cases checkName r.name <;> cases Rule.parse r.rule <;> simp

/-- The lines that show a rule to a person. -/
def display (r : StoredRule) : String :=
  s!"Rule: {r.name}\n" ++
    (if r.description = "" then "" else s!"Description: {r.description}\n") ++
    s!"\n  {r.rule}\n\nCreated: {r.created.display}\nLast Used: {r.lastUsed.display}\n" ++
    s!"Use Count: {Text.natural r.useCount.toNat}\n"

end StoredRule

end MailFilter
