import MailFilter.Proofs.Duality
import MailFilter.Proofs.SideBySide

/-!
# The First Rule That Matches

A classifier can be asked for the first rule that a message matches, or for the verdicts of all of
them. If the runner looks at the call alone, a rule is evaluated alike in both (`Rule.evaluation`),
whatever has been called before and whatever is remembered of its patterns. So the search for the
first rule makes the same calls as the other one does, up to the rule that it finds.

The search looks at no rule behind the one that it finds. So it has an answer also where one of the
rules behind has no verdict, and then the verdicts of all rules are not to be had
(`Classifier.first_beside_error`).

## Main results

* `Matcher.run_eq_evaluation`: a rule in use is evaluated as it would be alone.
* `Classifier.all_eq_evaluations`, `Classifier.first_eq_evaluations`: what both ask of the rules.
* `Classifier.exists_first_iff`: when there is an answer to the search for the first rule.
* `Classifier.first_of_all`: the first rule among all that match, and the calls up to it.
-/

namespace MailFilter

open CommandTemplate (Fault)

variable {ctx : Context} {answer : Call → Outcome} {m : Message}

/-! ### Single rules -/

/-- The verdict of a rule that is asked alone, and the calls that it makes. -/
def Rule.evaluation (ctx : Context) (m : Message) (r : Rule) : Except Fault (Bool × CallLog) :=
  observed ((Matcher.ofRule r).run ctx m [])

/-- Whether a rule holds of a message. -/
def Rule.holds (ctx : Context) (m : Message) (r : Rule) : Bool :=
  (r.evaluation ctx m).toOption.any (·.1)

/-- The calls of a rule that has a verdict on a message. -/
def Rule.callsFor (ctx : Context) (m : Message) (r : Rule) : CallLog :=
  (r.evaluation ctx m).toOption.elim [] (·.2)

/-- A rule whose evaluation is known. -/
theorem Rule.holds_of_evaluation {r : Rule} {e : Bool × CallLog}
    (h : r.evaluation ctx m = .ok e) : r.holds ctx m = e.1 ∧ r.callsFor ctx m = e.2 := by
  rw [holds, callsFor, h]
  exact ⟨rfl, rfl⟩

namespace Matcher

/-- A rule in use is evaluated as it would be alone, and stays in use. -/
theorem run_eq_evaluation (h : ctx.AnswersByCall answer) (m : Message) {x : Matcher} {r : Rule}
    (hx : x.Uses r) (log : CallLog) :
    ∃ x', x.run ctx m log = (r.evaluation ctx m).map (fun e => (e.1, x', log ++ e.2)) ∧
      x'.Uses r := by
  have hrun : ∀ (y : Matcher) log, y.run ctx m log =
      if y.decides ctx m then
        .ok (y.verdictOn ctx m, y.prepareFront (max 0 (y.visits ctx m)), log ++ y.callsFor ctx m)
      else .error .unwritableDate := fun y log => by
    simpa only [prepareFront_zero] using run_eq_decides (x := y) h m 0 log
  have hconditions : x.conditions = (ofRule r).conditions :=
    hx.conditions.trans (uses_ofRule r).conditions.symm
  have hcombinator : x.combinator = (ofRule r).combinator := hx.combinator
  -- what a rule is asked for goes by its conditions and its combinator alone
  have hvisited : x.visited ctx m [] = (ofRule r).visited ctx m [] := by
    rw [visited, visited, hconditions, hcombinator]
  have hdecides : x.decides ctx m = (ofRule r).decides ctx m := by rw [decides, decides, hvisited]
  have hverdict : x.verdictOn ctx m = (ofRule r).verdictOn ctx m := by
    rw [verdictOn, verdictOn, hconditions, hcombinator]
  have hcalls : x.callsFor ctx m = (ofRule r).callsFor ctx m := by
    rw [callsFor, callsFor, hvisited]
  refine ⟨x.prepareFront (max 0 (x.visits ctx m)), ?_,
    (conditions_prepareFront _).trans hx.conditions, hx.combinator⟩
  rw [Rule.evaluation, hrun, hrun, hdecides, hverdict, hcalls]
  cases (ofRule r).decides ctx m <;> rfl

end Matcher

/-! ### Rules of a set -/

/-- What is selected by the verdicts of a test passes it. -/
theorem selected_map_eq_filter {α : Type} (p : α → Bool) (l : List α) :
    selected l (l.map p) = l.filter p := by
  induction l with
  | nil => rfl
  | cons a l ih =>
    cases hp : p a <;> simp_all [selected]

namespace Classifier

variable {c d : Classifier} {rs : List Rule} {log : CallLog}

/-- The verdicts of all rules are those of their evaluations, and so are the calls. -/
theorem all_eq_evaluations (h : ctx.AnswersByCall answer) (m : Message)
    (hc : List.Forall₂ Matcher.Uses c rs) (log : CallLog) :
    ∃ c', all ctx m c log = (rs.mapM (Rule.evaluation ctx m)).map
        fun es => (es.map (·.1), c', log ++ es.flatMap (·.2)) := by
  induction hc generalizing log with
  | nil => exact ⟨[], by simp [all, Except.map, pure, Except.pure]⟩
  | @cons x r c rs hx hc ih =>
    obtain ⟨x', hrun, -⟩ := Matcher.run_eq_evaluation h m hx log
    simp only [all, hrun, List.mapM_cons]
    cases r.evaluation ctx m with
    | error e => exact ⟨[], rfl⟩
    | ok e =>
      obtain ⟨c', hrest⟩ := ih (log ++ e.2)
      refine ⟨x' :: c', ?_⟩
      simp only [Except.map, hrest]
      cases rs.mapM (Rule.evaluation ctx m) with
      | error e => rfl
      | ok es => simp [bind, Except.bind, pure, Except.pure]

/-- The first rule that holds is found by the evaluations up to it. -/
theorem first_eq_evaluations (h : ctx.AnswersByCall answer)
    (hc : List.Forall₂ Matcher.Uses c rs) {es : List (Bool × CallLog)}
    (hes : List.Forall₂ (fun r e => r.evaluation ctx m = .ok e) rs es) (log : CallLog) :
    ∃ c', first ctx m c log = .ok (es.findIdx? (·.1), c',
      log ++ (es.take (es.findIdx (·.1) + 1)).flatMap (·.2)) := by
  induction hc generalizing es log with
  | nil =>
    obtain rfl := List.forall₂_nil_left_iff.1 hes
    exact ⟨[], by simp [first]⟩
  | @cons x r c rs hx hc ih =>
    obtain ⟨e, es, he, hrest, rfl⟩ := List.forall₂_cons_left_iff.1 hes
    obtain ⟨x', hrun, -⟩ := Matcher.run_eq_evaluation h m hx log
    rw [he] at hrun
    obtain ⟨verdict, calls⟩ := e
    cases verdict with
    | true => exact ⟨x' :: c, by
        simp [first, hrun, Except.map, List.findIdx_cons, List.findIdx?_cons]⟩
    | false =>
      obtain ⟨c', hfirst⟩ := ih hrest (log ++ calls)
      exact ⟨x' :: c', by
        simp [first, hrun, Except.map, hfirst, List.findIdx_cons, List.findIdx?_cons]⟩

/-- There is an answer to the search for the first rule exactly if every rule has a verdict that
has no rule in front of it that holds. -/
theorem exists_first_iff (h : ctx.AnswersByCall answer) (m : Message)
    (hc : List.Forall₂ Matcher.Uses c rs) (log : CallLog) :
    (∃ found, first ctx m c log = .ok found) ↔
      ∀ i r, rs[i]? = some r → (∀ r' ∈ rs.take i, r'.holds ctx m = false) →
        ∃ e, r.evaluation ctx m = .ok e := by
  induction hc generalizing log with
  | nil => simp [first]
  | @cons x r c rs hx hc ih =>
    obtain ⟨x', hrun, -⟩ := Matcher.run_eq_evaluation h m hx log
    cases he : r.evaluation ctx m with
    | error fault =>
      refine iff_of_false ?_ fun hall => ?_
      · rintro ⟨found, hfirst⟩
        rw [first, hrun, he] at hfirst
        cases hfirst
      · obtain ⟨e, he'⟩ := hall 0 r rfl (by simp)
        rw [he] at he'
        cases he'
    | ok e =>
      obtain ⟨verdict, calls⟩ := e
      have hholds : r.holds ctx m = verdict := (Rule.holds_of_evaluation he).1
      rw [he] at hrun
      cases verdict with
      | true =>
        refine iff_of_true ⟨_, by rw [first, hrun]; rfl⟩ fun i r' hr' hfront => ?_
        cases i with
        | zero =>
          obtain rfl : r = r' := by simpa using hr'
          exact ⟨_, he⟩
        | succ i =>
          rw [hfront r (by simp)] at hholds
          cases hholds
      | false =>
        have hgoes : (∃ found, first ctx m (x :: c) log = .ok found) ↔
            ∃ found, first ctx m c (log ++ calls) = .ok found := by
          rw [first, hrun]
          simp only [Except.map]
          cases first ctx m c (log ++ calls) <;> simp
        rw [hgoes, ih]
        constructor
        · intro hall i r' hr' hfront
          cases i with
          | zero =>
            obtain rfl : r = r' := by simpa using hr'
            exact ⟨_, he⟩
          | succ i =>
            exact hall i r' hr' fun r'' hr'' => hfront r'' (List.mem_cons_of_mem _ hr'')
        · intro hall i r' hr' hfront
          exact hall (i + 1) r' hr' (List.forall_mem_cons.2 ⟨hholds, hfront⟩)

/-- There is an answer about all rules exactly if every rule has a verdict. -/
theorem exists_all_iff (h : ctx.AnswersByCall answer) (m : Message)
    (hc : List.Forall₂ Matcher.Uses c rs) (log : CallLog) :
    (∃ found, all ctx m c log = .ok found) ↔ ∀ r ∈ rs, ∃ e, r.evaluation ctx m = .ok e := by
  obtain ⟨c', hall⟩ := all_eq_evaluations h m hc log
  rw [hall, ← exists_mapM_ok_iff]
  cases rs.mapM (Rule.evaluation ctx m) <;> simp [Except.map]

/-- The verdicts and calls of rules whose evaluations are known. -/
theorem holds_of_evaluations {es : List (Bool × CallLog)}
    (hes : List.Forall₂ (fun r e => r.evaluation ctx m = .ok e) rs es) :
    es.map (·.1) = rs.map (Rule.holds ctx m) ∧ es.map (·.2) = rs.map (Rule.callsFor ctx m) := by
  induction hes with
  | nil => exact ⟨rfl, rfl⟩
  | @cons r e rs es he _ ih =>
    obtain ⟨hverdict, hcalls⟩ := Rule.holds_of_evaluation he
    exact ⟨by simp [hverdict, ih.1], by simp [hcalls, ih.2]⟩

/-- If there is an answer about all rules, the search for the first one gives the place of the first
rule that holds, and makes the calls of the rules up to that one. -/
theorem first_eq_of_all (h : ctx.AnswersByCall answer) (hc : List.Forall₂ Matcher.Uses c rs)
    (hd : List.Forall₂ Matcher.Uses d rs) {log' after : CallLog} {verdicts : List Bool}
    {d' : Classifier} (hall : all ctx m d log' = .ok (verdicts, d', after)) (log : CallLog) :
    verdicts = rs.map (Rule.holds ctx m) ∧ after = log' ++ rs.flatMap (Rule.callsFor ctx m) ∧
      ∃ c', first ctx m c log = .ok (rs.findIdx? (Rule.holds ctx m), c',
        log ++ (rs.take (rs.findIdx (Rule.holds ctx m) + 1)).flatMap (Rule.callsFor ctx m)) := by
  obtain ⟨_, heq⟩ := all_eq_evaluations h m hd log'
  rw [heq, map_ok_iff] at hall
  obtain ⟨es, hmapM, hes⟩ := hall
  have hevaluations := mapM_ok_iff.1 hmapM
  obtain ⟨hverdicts, hcalls⟩ := holds_of_evaluations hevaluations
  have hplace? : es.findIdx? (·.1) = rs.findIdx? (Rule.holds ctx m) := by
    have hmap := congrArg (List.findIdx? id) hverdicts
    rwa [List.findIdx?_map, List.findIdx?_map] at hmap
  have hplace : es.findIdx (·.1) = rs.findIdx (Rule.holds ctx m) := by
    have hmap := congrArg (List.findIdx id) hverdicts
    rwa [List.findIdx_map, List.findIdx_map] at hmap
  have hfront : ∀ n, (es.take n).flatMap (·.2) = (rs.take n).flatMap (Rule.callsFor ctx m) :=
    fun n => by rw [List.flatMap_def, List.flatMap_def, List.map_take, List.map_take, hcalls]
  obtain ⟨c', hfirst⟩ := first_eq_evaluations h hc hevaluations log
  cases hes
  refine ⟨hverdicts, ?_, c', by rw [hfirst, hplace?, hplace, hfront]⟩
  rw [List.flatMap_def, hcalls, ← List.flatMap_def]

/-- The rules of a set are asked in order. If there is an answer about all of them, then the rules
that match are those whose evaluation alone gives true, and the search for the first rule finds the
first of these, or nothing if there are none. Its calls are a front part of the calls for all rules,
and end with those of the rule that it finds. There is an answer about all rules exactly if each of
them has a verdict, and to the search exactly if each of them has that is not behind one that
holds. -/
theorem first_of_all (h : ctx.AnswersByCall answer) (m : Message) {rules : RuleSet}
    (hc : List.Forall₂ Matcher.Uses c (rules.map (·.rule)))
    (hd : List.Forall₂ Matcher.Uses d (rules.map (·.rule))) (log log' : CallLog) :
    (∀ r ∈ rules, ∀ x : Matcher, x.Uses r.rule → ∀ before, observed (x.run ctx m before) =
      (r.rule.evaluation ctx m).map fun e => (e.1, before ++ e.2)) ∧
    ((∃ found, all ctx m d log' = .ok found) ↔
      ∀ r ∈ rules, ∃ e, r.rule.evaluation ctx m = .ok e) ∧
    ((∃ found, first ctx m c log = .ok found) ↔
      ∀ i r, rules[i]? = some r → (∀ r' ∈ rules.take i, r'.rule.holds ctx m = false) →
        ∃ e, r.rule.evaluation ctx m = .ok e) ∧
    ∀ verdicts d' after, all ctx m d log' = .ok (verdicts, d', after) →
      selected rules verdicts = rules.filter (·.rule.holds ctx m) ∧
      ∃ place c' calls behind, first ctx m c log = .ok (place, c', log ++ calls) ∧
        place.bind (rules[·]?) = (selected rules verdicts).head? ∧
        (place = none ↔ selected rules verdicts = []) ∧
        after = log' ++ (calls ++ behind) ∧
        ∀ i, place = some i → ∃ r, rules[i]? = some r ∧
          calls = (rules.take i).flatMap (·.rule.callsFor ctx m) ++ r.rule.callsFor ctx m := by
  refine ⟨fun r _ x hx before => ?_, ?_, ?_, fun verdicts d' after hall => ?_⟩
  · obtain ⟨x', hrun, -⟩ := Matcher.run_eq_evaluation h m hx before
    rw [hrun]
    cases r.rule.evaluation ctx m <;> rfl
  · rw [exists_all_iff h m hd, List.forall_mem_map]
  · rw [exists_first_iff h m hc]
    simp only [List.getElem?_map, ← List.map_take, List.forall_mem_map]
    refine forall_congr' fun i => ?_
    cases rules[i]? <;> simp
  · obtain ⟨rfl, hafter, c', hfirst⟩ := first_eq_of_all h hc hd hall log
    let p := fun r : ListedRule => r.rule.holds ctx m
    have hselected : selected rules ((rules.map (·.rule)).map (Rule.holds ctx m)) =
        rules.filter p := by
      rw [List.map_map]
      exact selected_map_eq_filter p rules
    have hplace : (rules.map (·.rule)).findIdx? (Rule.holds ctx m) = rules.findIdx? p :=
      List.findIdx?_map
    have hcount : (rules.map (·.rule)).findIdx (Rule.holds ctx m) = rules.findIdx p :=
      List.findIdx_map _ _ _
    rw [hplace, hcount, ← List.map_take, List.flatMap_map] at hfirst
    rw [List.flatMap_map] at hafter
    rw [hselected]
    refine ⟨rfl, rules.findIdx? p, c', _,
      (rules.drop (rules.findIdx p + 1)).flatMap fun r => r.rule.callsFor ctx m, hfirst, ?_, ?_,
      ?_, fun i hi => ?_⟩
    · rw [← List.find?_eq_bind_findIdx?_getElem?, List.head?_filter]
    · rw [List.findIdx?_eq_none_iff, List.filter_eq_nil_iff]
      simp
    · rw [hafter, ← List.flatMap_append, List.take_append_drop]
    · obtain ⟨hlt, rfl⟩ := List.findIdx?_eq_some_iff_findIdx_eq.1 hi
      refine ⟨rules[rules.findIdx p], List.getElem?_eq_getElem hlt, ?_⟩
      rw [List.take_succ_eq_append_getElem hlt, List.flatMap_append, List.flatMap_singleton]

/-- A chain of three commands of which the second one takes the message, as the third one would. -/
theorem first_of_all_chain :
    let answer : Call → Outcome := fun call => .exited (if call.command = "ham 17" then 1 else 0)
    let ctx : Context := ⟨⟨0, 0, 0⟩, fun _ => answer, none⟩
    let m : Message := { file := some "17" }
    let rules : RuleSet := [⟨none, "", ⟨[⟨false, .command "ham %F"⟩], .all, by simp⟩⟩,
      ⟨none, "", ⟨[⟨true, .status .unread⟩, ⟨false, .command "spam %F"⟩], .all, by simp⟩⟩,
      ⟨none, "", ⟨[⟨false, .command "rest %F"⟩], .all, by simp⟩⟩]
    let log := [⟨"ham 17", none⟩, ⟨"spam 17", none⟩, ⟨"rest 17", none⟩]
    ctx.AnswersByCall answer ∧
      (∃ d', all ctx m (ofRules rules) [] = .ok ([false, true, true], d', log)) ∧
      ∃ place c' calls, first ctx m (ofRules rules) [] = .ok (place, c', calls) ∧
        place.bind (rules[·]?) = rules[1]? ∧ calls <+: log := by
  intro answer ctx m rules log
  have hanswers : ctx.AnswersByCall answer := fun _ _ => rfl
  have hobserved : (all ctx m (ofRules rules) []).map (fun z => (z.1, z.2.2)) =
      .ok ([false, true, true], log) := by decide +kernel
  obtain ⟨⟨verdicts, d', after⟩, hall, heq⟩ := map_ok_iff.1 hobserved
  obtain ⟨rfl, rfl⟩ := Prod.mk.inj heq
  obtain ⟨-, -, -, hfirst⟩ :=
    first_of_all hanswers m (uses_ofRules rules) (uses_ofRules rules) [] []
  obtain ⟨-, place, c', calls, behind, hfound, hplace, -, hlog, -⟩ := hfirst _ _ _ hall
  exact ⟨hanswers, ⟨d', hall⟩, place, c', calls, hfound, hplace, behind, hlog.symm⟩

/-- The first rule holds of every message, and the one behind it gives the date of the message to a
command. That date has no form in mail headers. So the search for the first rule finds one, but
there is no answer about both rules. -/
theorem first_beside_error :
    let remote : Message := { subject := some "far", date := some ⟨2932897, 0, 0⟩ }
    let rules : RuleSet := [⟨some "every", "", ⟨[⟨false, .status .everything⟩], .all, by simp⟩⟩,
      ⟨some "dated", "", ⟨[Matcher.dated, ⟨false, .status .new⟩], .all, by simp⟩⟩]
    RuleSet.ofDocument "every: a\ndated: X \"true %d\" & N\n" = .ok rules ∧
      ∀ ctx log, (∃ c', first ctx remote (ofRules rules) log = .ok (some 0, c', log)) ∧
        all ctx remote (ofRules rules) log = .error .unwritableDate := by
  intro remote rules
  let every : Matcher := .ofRule ⟨[⟨false, .status .everything⟩], .all, by simp⟩
  let dated : Matcher := .ofRule ⟨[Matcher.dated, ⟨false, .status .new⟩], .all, by simp⟩
  have hrules : ofRules rules = [every, dated] := rfl
  refine ⟨by decide +kernel, fun ctx log => ?_⟩
  obtain ⟨x, hevery⟩ : ∃ x, every.run ctx remote log = .ok (true, x, log) := ⟨_, rfl⟩
  have hdated : dated.run ctx remote log = .error .unwritableDate :=
    Matcher.run_dated rfl (Matcher.not_hasMailDate rfl) ctx log
  rw [hrules]
  exact ⟨⟨[x, dated], by simp only [first, hevery]⟩, by simp only [all, hevery, hdated]⟩

end Classifier

end MailFilter
