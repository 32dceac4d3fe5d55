import MailFilter.Rule.Printer
import MailFilter.Store.StoredRule

/-!
# The Rule Store

The rules that are kept, in order. A name stands for the first rule that has it; the operations
here never add a second one, but a file that was written by hand may hold several.

## Main results

* `get?_add`: what is found after a rule has been added.
* `names_onRule`: a change to one rule that keeps its name keeps all names.
-/

namespace MailFilter

open Calendar (Instant)

/-- The rules that are kept, in order. -/
abbrev RuleStore := List StoredRule

namespace RuleStore

/-- The names of the rules. -/
def names (s : RuleStore) : List String := s.map (·.name)

/-- The rule of a name. -/
def get? (s : RuleStore) (name : String) : Option StoredRule := s.find? (·.name == name)

/-- Whether there is a rule of a name. -/
def contains (s : RuleStore) (name : String) : Bool := s.any (·.name == name)

/-- A rule is found exactly under the names that there are. -/
theorem contains_iff {s : RuleStore} {name : String} : s.contains name = true ↔ name ∈ s.names := by
  simp only [contains, names, List.any_eq_true, List.mem_map, beq_iff_eq]

/-- Changes the first rule of a name. -/
def onRule (name : String) (f : StoredRule → StoredRule) : RuleStore → RuleStore
  | [] => []
  | r :: s => if r.name = name then f r :: s else r :: onRule name f s

/-- A change to one rule that keeps its name keeps all names. -/
theorem names_onRule {name : String} {f : StoredRule → StoredRule} {s : RuleStore}
    (h : ∀ r, r.name = name → (f r).name = name) : (onRule name f s).names = s.names := by
  induction s with
  | nil => rfl
  | cons r s ih =>
    rw [onRule]
    split
    · next hr => simp [names, h r hr, hr]
    · simpa [names] using ih

/-! ### Requests -/

/-- Adds a rule at the end. -/
def add (s : RuleStore) (r : StoredRule) : Except StoreFault RuleStore :=
  if s.contains r.name then .error (.alreadyExists r.name)
  else
    match r.validate with
    | .error e => .error e
    | .ok () => .ok (s ++ [r])

/-- What is found after a rule has been added. -/
theorem get?_add {s t : RuleStore} {r : StoredRule} {name : String} (h : s.add r = .ok t) :
    t.get? name = if name = r.name then some r else s.get? name := by
  unfold add at h
  split at h
  · cases h
  · next hc =>
    split at h
    · cases h
    · cases h
      by_cases hn : name = r.name
      · subst hn
        have : s.find? (·.name == r.name) = none := by
          simpa [contains, List.find?_eq_none] using hc
        simp [get?, List.find?_append, this]
      · simp [get?, List.find?_append, hn, beq_false_of_ne (Ne.symm hn)]

/-- Replaces the rule of the same name. -/
def update (s : RuleStore) (r : StoredRule) : Except StoreFault RuleStore :=
  match r.validate with
  | .error e => .error e
  | .ok () =>
    if s.contains r.name then .ok (s.onRule r.name fun _ => r) else .error (.notFound r.name)

/-- The rule of a name, which must be there. -/
def get (s : RuleStore) (name : String) : Except StoreFault StoredRule :=
  match s.get? name with
  | some r => .ok r
  | none => .error (.notFound name)

/-- Takes the rule of a name out. -/
def remove? (s : RuleStore) (name : String) : Option (StoredRule × RuleStore) :=
  (s.get? name).map fun r => (r, s.eraseP (·.name == name))

/-- Takes the rule of a name out, which must be there. -/
def remove (s : RuleStore) (name : String) : Except StoreFault (StoredRule × RuleStore) :=
  match s.remove? name with
  | some (r, s) => .ok (r, s)
  | none => .error (.notFound name)

/-- Adds a rule that has just been made, with its text in canonical form. -/
def create (s : RuleStore) (now : Instant) (name description text : String) :
    Except StoreFault (StoredRule × RuleStore) :=
  match StoredRule.checkRuleName name with
  | .error e => .error e
  | .ok () =>
    match Rule.parse text with
    | .error e => .error (.invalidRule e)
    | .ok rule =>
      let r := StoredRule.make now name description rule.text
      (s.add r).map fun s => (r, s)

/-- Gives a rule another name. -/
def rename (s : RuleStore) (old new : String) : Except StoreFault RuleStore :=
  match StoredRule.checkRuleName new with
  | .error e => .error e
  | .ok () =>
    if s.contains new then .error (.alreadyExists new)
    else if s.contains old then .ok (s.onRule old fun r => { r with name := new })
    else .error (.notFound old)

/-- Counts a use of a rule, if its count has room for one more. -/
def recordUse (s : RuleStore) (now : Instant) (name : String) : Except StoreFault RuleStore :=
  match s.get? name with
  | none => .error (.notFound name)
  | some r =>
    if r.CanCount then .ok (s.onRule name (·.used now)) else .error (.countFull name)

/-! ### Views -/

/-- The rules by their count of uses, the highest first. -/
def mostUsed (s : RuleStore) : RuleStore := s.mergeSort fun a b => b.useCount ≤ a.useCount

/-- The rules by their last use, the latest first. -/
def recentlyUsed (s : RuleStore) : RuleStore :=
  s.mergeSort fun a b => !a.lastUsed.isBefore b.lastUsed

/-- The rules of several names in the order of the names; all rules if there are no names. -/
def select (s : RuleStore) (names : List String) : Except StoreFault RuleStore :=
  if names.isEmpty then .ok s else names.mapM s.get

/-- The rules of several names as a rule set. -/
def ruleSet (s : RuleStore) (names : List String) : Except StoreFault RuleSet :=
  match s.select names with
  | .error e => .error e
  | .ok rules =>
    rules.mapM fun r => r.parsed.map fun rule => ⟨some r.name, r.description, rule⟩

/-! ### Importing -/

/-- What becomes of a rule whose name is taken. -/
inductive Collision where
  | refuse
  | skip
  | overwrite
deriving DecidableEq, Repr

/-- The name of a rule that came without one. -/
def generatedName (number : Nat) : String := "rule-" ++ Text.natural number

/-- The first number behind `last` whose name is free. One of the first numbers, one more than there
are rules, is free. There is no largest number here: the next one is never greater than the number
of rules and one, so that a word of 32 bits holds it unless there are over `2 ^ 31 - 2` rules. -/
def freeNumber (s : RuleStore) (last : Nat) : Nat :=
  let offsets := List.range (s.length + 1)
  last + 1 + (offsets.find? fun i => !s.contains (generatedName (last + 1 + i))).getD s.length

/-- How far an import has come. -/
structure Import where
  store : RuleStore
  imported : Nat
  skipped : Nat
  lastNumber : Nat

/-- Takes over one rule of a set. -/
def Import.step (now : Instant) (collision : Collision) (i : Import) (r : ListedRule) :
    Except StoreFault Import :=
  let (name, lastNumber) :=
    match r.name with
    | some name => (name, i.lastNumber)
    | none =>
      let number := i.store.freeNumber i.lastNumber
      (generatedName number, number)
  let stored := StoredRule.make now name r.description r.rule.text
  if i.store.contains name then
    match collision with
    | .refuse => .error (.alreadyExists name)
    | .skip => .ok { i with skipped := i.skipped + 1, lastNumber := lastNumber }
    | .overwrite =>
      (i.store.update stored).map fun s => ⟨s, i.imported + 1, i.skipped, lastNumber⟩
  else (i.store.add stored).map fun s => ⟨s, i.imported + 1, i.skipped, lastNumber⟩

/-- Takes over the rules of a set in order. The clock is read once for each rule. -/
def Import.run (collision : Collision) :
    (clock : Nat → Instant) → Import → RuleSet → Except StoreFault Import
  | _, i, [] => .ok i
  | clock, i, r :: rules =>
    match i.step (clock 0) collision r with
    | .error e => .error e
    | .ok i => run collision (fun n => clock (n + 1)) i rules

/-- Takes over the rules of a set; the result also counts the rules that were taken over and those
that were left out. -/
def importRules (s : RuleStore) (clock : Nat → Instant) (collision : Collision) (rules : RuleSet) :
    Except StoreFault Import :=
  Import.run collision clock ⟨s, 0, 0, 0⟩ rules

end RuleStore

end MailFilter
