import MailFilter.QuickSearch.Search
import MailFilter.RuleSet.Classifier
import Mathlib.Data.List.Forall2

/-!
# Verdicts

A matcher carries two things from one message to the next: what became of its patterns, and the log
of the calls. Neither decides a verdict. A pattern that is remembered is the pattern that would be
read again, and a runner that answers by the call alone (`Context.AnswersByCall`) gives the same
answer whatever was run before. So a rule has a verdict of its own on every message
(`Rule.verdict`), and a matcher, a quick search and a classifier all give that one.

## Main results

* `Matcher.run_eq`, `Matcher.runAll_eq`: a matcher in use gives the verdicts of its rule.
* `QuickSearch.Search.runAll_eq`: a search for a rule gives the verdicts of that rule.
* `Classifier.all_eq`: a classifier gives the verdict of every rule.
-/

namespace MailFilter

open CommandTemplate (Fault)

/-! ### Results of lists -/

section
variable {α β ε : Type} {f : α → Except ε β}

/-- A list is gone through with success exactly if each of its elements is. -/
theorem mapM_ok_iff {l : List α} {bs : List β} :
    l.mapM f = .ok bs ↔ List.Forall₂ (fun a b => f a = .ok b) l bs := by
  induction l generalizing bs with
  | nil => simp [pure, Except.pure, eq_comm]
  | cons a l ih =>
    rw [List.mapM_cons, List.forall₂_cons_left_iff]
    constructor
    · intro h
      cases ha : f a with
      | error e =>
        rw [ha] at h
        cases h
      | ok b =>
        cases hl : l.mapM f with
        | error e =>
          rw [ha, hl] at h
          cases h
        | ok bs' =>
          rw [ha, hl] at h
          cases h
          exact ⟨b, bs', rfl, ih.1 hl, rfl⟩
    · rintro ⟨b, bs', ha, hl, rfl⟩
      rw [ha, ih.2 hl]
      rfl

/-- What comes out of a list comes out of one of its elements. -/
theorem exists_of_mem_mapM {l : List α} {bs : List β} {b : β} (h : l.mapM f = .ok bs)
    (hb : b ∈ bs) : ∃ a ∈ l, f a = .ok b := by
  rw [mapM_ok_iff] at h
  induction h with
  | nil => cases hb
  | @cons a b' l bs hab _ ih =>
    rcases List.mem_cons.1 hb with rfl | hb
    · exact ⟨a, List.mem_cons_self, hab⟩
    · obtain ⟨a', ha', hab'⟩ := ih hb
      exact ⟨a', List.mem_cons_of_mem a ha', hab'⟩

/-- What goes with a list that has one more element at its end. -/
theorem forall₂_concat_left_iff {R : α → β → Prop} {l : List α} {a : α} {bs : List β} :
    List.Forall₂ R (l ++ [a]) bs ↔ ∃ bs' b, List.Forall₂ R l bs' ∧ R a b ∧ bs = bs' ++ [b] := by
  constructor
  · intro h
    induction l generalizing bs with
    | nil =>
      obtain ⟨b, bs', hb, hbs, rfl⟩ := List.forall₂_cons_left_iff.1 h
      obtain rfl := List.forall₂_nil_left_iff.1 hbs
      exact ⟨[], b, .nil, hb, rfl⟩
    | cons a' l ih =>
      obtain ⟨b', bs', hb', hbs, rfl⟩ := List.forall₂_cons_left_iff.1 h
      obtain ⟨bs₀, b, hbs₀, hb, rfl⟩ := ih hbs
      exact ⟨b' :: bs₀, b, .cons hb' hbs₀, hb, rfl⟩
  · rintro ⟨bs', b, hbs', hb, rfl⟩
    exact List.rel_append hbs' (.cons hb .nil)

/-- A list is gone through with success if every element of it can be. -/
theorem exists_mapM_ok_iff {l : List α} :
    (∃ bs, l.mapM f = .ok bs) ↔ ∀ a ∈ l, ∃ b, f a = .ok b := by
  induction l with
  | nil => exact ⟨fun _ => by simp, fun _ => ⟨[], rfl⟩⟩
  | cons a l ih =>
    rw [List.forall_mem_cons, ← ih]
    constructor
    · rintro ⟨bs, h⟩
      obtain ⟨b, bs', hb, hbs, -⟩ := List.forall₂_cons_left_iff.1 (mapM_ok_iff.1 h)
      exact ⟨⟨b, hb⟩, bs', mapM_ok_iff.2 hbs⟩
    · rintro ⟨⟨b, hb⟩, bs, hbs⟩
      exact ⟨b :: bs, mapM_ok_iff.2 (.cons hb (mapM_ok_iff.1 hbs))⟩

end

/-! ### Verdicts without a history -/

/-- The runner of a context answers every call by the call alone. -/
def Context.AnswersByCall (ctx : Context) (answer : Call → Outcome) : Prop :=
  ∀ log call, ctx.runner log call = answer call

/-- The verdict of a condition that is looked at for the first time, with nothing run before. -/
def Condition.verdict (ctx : Context) (m : Message) (c : Condition) : Except Fault Bool :=
  ((Probe.ofCondition c).run ctx m []).map (·.1)

/-- The verdict of conditions up to the first one whose verdict is `stop`. -/
def Condition.verdictUntil (ctx : Context) (m : Message) (stop : Bool) :
    List Condition → Except Fault Bool
  | [] => .ok !stop
  | c :: cs =>
    match c.verdict ctx m with
    | .error e => .error e
    | .ok verdict => if verdict = stop then .ok stop else verdictUntil ctx m stop cs

/-- The verdict of a rule on a message. -/
def Rule.verdict (ctx : Context) (m : Message) (r : Rule) : Except Fault Bool :=
  Condition.verdictUntil ctx m r.combinator.decisive r.conditions

variable {ctx : Context} {answer : Call → Outcome}

/-! ### Conditions in use -/

/-- The calls before a test do not change whether it holds. -/
theorem Test.check_eq (h : ctx.AnswersByCall answer) (m : Message)
    (pattern : Option Regex.Pattern) (log : CallLog) (t : Test) :
    ∃ log', t.check ctx m pattern log =
      ((t.check ctx m pattern []).map (·.1)).map fun holds => (holds, log') := by
  cases t with
  | status s => exact ⟨log, rfl⟩
  | measure k bound => exact ⟨log, rfl⟩
  | text f how operand =>
    refine ⟨log, ?_⟩
    simp only [Test.check]
    split
    · cases pattern <;> rfl
    · rfl
  | command template =>
    simp only [Test.check]
    cases CommandTemplate.command template m with
    | error e => exact ⟨log, rfl⟩
    | ok filled =>
      refine ⟨log ++ [⟨filled, ctx.timeout⟩], ?_⟩
      have hcall : ctx.runner log ⟨filled, ctx.timeout⟩ = ctx.runner [] ⟨filled, ctx.timeout⟩ :=
        (h _ _).trans (h _ _).symm
      simp only [hcall]
      rfl

namespace Probe

/-- A condition is prepared alike whether its pattern was read before or not. -/
theorem prepare_ofCondition (p : Probe) : p.prepare = (ofCondition p.condition).prepare := by
  obtain ⟨c, tried, htried⟩ := p
  cases tried with
  | none => rfl
  | some r =>
    have hp := htried r rfl
    simp [prepare, ofCondition, hp]

/-- Preparing a condition keeps it. -/
theorem condition_prepare (p : Probe) : p.prepare.condition = p.condition := by
  rw [prepare_ofCondition]
  rfl

/-- A condition in use has the verdict that it would have if it were not. -/
theorem run_eq (h : ctx.AnswersByCall answer) (m : Message) (p : Probe) (log : CallLog) :
    ∃ log', p.run ctx m log =
      (p.condition.verdict ctx m).map fun verdict => (verdict, p.prepare, log') := by
  obtain ⟨log', hlog⟩ :=
    Test.check_eq h m (p.prepare.tried.getD none) log p.prepare.condition.test
  refine ⟨log', ?_⟩
  simp only [run, Condition.verdict, ← prepare_ofCondition, hlog]
  cases p.prepare.condition.test.check ctx m (p.prepare.tried.getD none) [] <;> rfl

/-- Conditions in use give the verdict of the conditions, and stay in use. -/
theorem runUntil_eq (h : ctx.AnswersByCall answer) (m : Message) (stop : Bool) (ps : List Probe)
    (log : CallLog) :
    ∃ ps' log', runUntil ctx m stop ps log =
        (Condition.verdictUntil ctx m stop (ps.map condition)).map
          (fun verdict => (verdict, ps', log')) ∧
      ps'.map condition = ps.map condition := by
  induction ps generalizing log with
  | nil => exact ⟨[], log, rfl, rfl⟩
  | cons p ps ih =>
    obtain ⟨log₁, hp⟩ := run_eq h m p log
    simp only [runUntil, hp, List.map_cons, Condition.verdictUntil]
    cases p.condition.verdict ctx m with
    | error e => exact ⟨p :: ps, log, rfl, rfl⟩
    | ok verdict =>
      by_cases hstop : verdict = stop
      · refine ⟨p.prepare :: ps, log₁, ?_, by simp [condition_prepare]⟩
        simp [hstop, Except.map]
      · obtain ⟨ps', log', hrest, hkept⟩ := ih log₁
        refine ⟨p.prepare :: ps', log', ?_, by simp [condition_prepare, hkept]⟩
        simp only [Except.map, hstop, if_false, hrest]
        cases Condition.verdictUntil ctx m stop (ps.map condition) <;> rfl

end Probe

/-! ### Rules in use -/

/-- A matcher is a rule in use. -/
structure Matcher.Uses (x : Matcher) (r : Rule) : Prop where
  conditions : x.probes.map Probe.condition = r.conditions
  combinator : x.combinator = r.combinator

namespace Matcher

/-- A rule that has not been used. -/
theorem uses_ofRule (r : Rule) : (ofRule r).Uses r :=
  ⟨by simp [ofRule, Probe.ofCondition, Function.comp_def], rfl⟩

/-- A rule in use gives the verdict of the rule, and stays in use. -/
theorem run_eq (h : ctx.AnswersByCall answer) (m : Message) {x : Matcher} {r : Rule}
    (hx : x.Uses r) (log : CallLog) :
    ∃ x' log', x.run ctx m log = (r.verdict ctx m).map (fun verdict => (verdict, x', log')) ∧
      x'.Uses r := by
  obtain ⟨ps', log', hrun, hkept⟩ :=
    Probe.runUntil_eq h m x.combinator.decisive x.probes log
  refine ⟨{ x with probes := ps' }, log', ?_, hkept.trans hx.conditions, hx.combinator⟩
  rw [hx.conditions, hx.combinator] at hrun
  simp only [run, Rule.verdict, hx.combinator, hrun]
  cases Condition.verdictUntil ctx m r.combinator.decisive r.conditions <;> rfl

/-- A rule in use gives the verdicts of the rule on all messages. -/
theorem runAll_eq (h : ctx.AnswersByCall answer) (ms : List Message) {x : Matcher} {r : Rule}
    (hx : x.Uses r) (log : CallLog) :
    ∃ x' log', runAll ctx ms x log =
      (ms.mapM (r.verdict ctx)).map fun verdicts => (verdicts, x', log') := by
  induction ms generalizing x log with
  | nil => exact ⟨x, log, rfl⟩
  | cons m ms ih =>
    obtain ⟨x₁, log₁, hrun, hx₁⟩ := run_eq h m hx log
    simp only [runAll, hrun, List.mapM_cons]
    cases r.verdict ctx m with
    | error e => exact ⟨x, log, rfl⟩
    | ok verdict =>
      obtain ⟨x', log', hrest⟩ := ih hx₁ log₁
      refine ⟨x', log', ?_⟩
      simp only [Except.map, hrest]
      cases ms.mapM (r.verdict ctx) <;> rfl

end Matcher

/-! ### Searches and classifiers -/

/-- A search for a rule gives the verdicts of the rule on all messages. -/
theorem QuickSearch.Search.runAll_eq (h : ctx.AnswersByCall answer) (ms : List Message)
    {s : Search} {x : Matcher} {r : Rule} (hs : s.query = some (.rule x)) (hx : x.Uses r)
    (log : CallLog) :
    ∃ s' log', runAll ctx ms s log =
      (ms.mapM (r.verdict ctx)).map fun verdicts => (verdicts, s', log') := by
  induction ms generalizing s x log with
  | nil => exact ⟨s, log, rfl⟩
  | cons m ms ih =>
    obtain ⟨x₁, log₁, hrun, hx₁⟩ := Matcher.run_eq h m hx log
    simp only [runAll, run, hs, hrun, List.mapM_cons]
    cases r.verdict ctx m with
    | error e => exact ⟨s, log, rfl⟩
    | ok verdict =>
      obtain ⟨s', log', hrest⟩ := ih (s := { s with query := some (.rule x₁) }) rfl hx₁ log₁
      refine ⟨s', log', ?_⟩
      simp only [Except.map, hrest]
      cases ms.mapM (r.verdict ctx) <;> rfl

namespace Classifier

/-- The rules of a set, none of which has been used. -/
theorem uses_ofRules (rules : RuleSet) :
    List.Forall₂ Matcher.Uses (ofRules rules) (rules.map (·.rule)) := by
  induction rules with
  | nil => exact .nil
  | cons r rules ih => exact .cons (Matcher.uses_ofRule r.rule) ih

/-- A classifier gives the verdict of every rule, and stays in use. -/
theorem all_eq (h : ctx.AnswersByCall answer) (m : Message) {c : Classifier} {rs : List Rule}
    (hc : List.Forall₂ Matcher.Uses c rs) (log : CallLog) :
    ∃ c' log', all ctx m c log =
        (rs.mapM (Rule.verdict ctx m)).map (fun verdicts => (verdicts, c', log')) ∧
      List.Forall₂ Matcher.Uses c' rs := by
  induction hc generalizing log with
  | nil => exact ⟨[], log, rfl, .nil⟩
  | @cons x r c rs hx hc ih =>
    obtain ⟨x₁, log₁, hrun, hx₁⟩ := Matcher.run_eq h m hx log
    simp only [all, hrun, List.mapM_cons]
    cases r.verdict ctx m with
    | error e => exact ⟨x :: c, log, rfl, .cons hx hc⟩
    | ok verdict =>
      obtain ⟨c', log', hrest, hkept⟩ := ih log₁
      refine ⟨x₁ :: c', log', ?_, .cons hx₁ hkept⟩
      simp only [Except.map, hrest]
      cases rs.mapM (Rule.verdict ctx m) <;> rfl

end Classifier

end MailFilter
