import MailFilter.Proofs.PatternFaults

/-!
# Opposite Rules

The dual of a rule has all its conditions negated, and asks for any of them where the rule asks for
all. What settles the verdict of one settles that of the other, so the two can be followed step by
step together: the same conditions, the same commands, and opposite replies. What the two remember
of their patterns may differ, and a command may be answered in view of all calls before it.

Two things break the symmetry. A condition whose text is no pattern does not hold, negated or not.
And neither a condition nor its negation has a verdict where its command asks for a date that has no
form in mail headers (`Matcher.run_error_of_both`).

## Main results

* `Probe.run_negate`: a condition and its negation make the same calls and reply the opposite.
* `Probe.runUntil_negate`: the same for conditions up to the one that settles the verdict.
* `Matcher.run_dual`: a rule and its dual make the same calls and have opposite verdicts.
-/

namespace MailFilter

open CommandTemplate (Fault)

/-! ### Duals -/

/-- The other way to combine conditions. -/
def Combinator.dual : Combinator → Combinator
  | .all => .any
  | .any => .all

/-- The rule with all its conditions negated and combined in the other way. -/
def Rule.dual (r : Rule) : Rule :=
  ⟨r.conditions.map .negate, r.combinator.dual, by simpa using r.conditions_ne_nil⟩

/-- What settles a conjunction leaves a disjunction open, and the other way round. -/
theorem Combinator.decisive_dual (k : Combinator) : k.dual.decisive = !k.decisive := by
  cases k <;> rfl

/-- The verdict of an evaluation and the calls afterwards, without what is remembered. -/
def observed {α : Type} (run : Except Fault (Bool × α × CallLog)) : Except Fault (Bool × CallLog) :=
  run.map fun z => (z.1, z.2.2)

/-- The opposite verdict with the same calls. -/
def opposed (run : Except Fault (Bool × CallLog)) : Except Fault (Bool × CallLog) :=
  run.map fun z => (!z.1, z.2)

variable {ctx : Context} {m : Message}

/-! ### Conditions -/

/-- There is something to be asked of a test that has no broken pattern and whose command can be
made. -/
theorem Test.exists_holds? {t : Test} (hpattern : t.pattern? ≠ some none)
    (hfill : t.isFillable m = true) (log : CallLog) : ∃ holds, t.holds? ctx m log = some holds := by
  cases t with
  | status s => exact ⟨_, rfl⟩
  | measure k bound => exact ⟨_, rfl⟩
  | text f how operand =>
    cases hhow : how.isPattern with
    | false => exact ⟨_, by rw [holds?, if_neg (by simp [hhow])]⟩
    | true =>
      rw [pattern?, if_pos hhow] at hpattern
      obtain ⟨p, hp⟩ := Option.ne_none_iff_exists'.1 fun hnone => hpattern (congrArg some hnone)
      exact ⟨_, by rw [holds?, if_pos hhow, hp, Option.map_some]⟩
  | command template =>
    rw [isFillable] at hfill
    cases hcommand : CommandTemplate.command template m with
    | ok filled => exact ⟨_, by rw [holds?, hcommand]; rfl⟩
    | error fault =>
      rw [hcommand] at hfill
      cases hfill

/-- Of a condition and its negation one holds, if there is something to be asked. -/
theorem Condition.reply_negate {c : Condition} (hpattern : ¬ c.IsBroken)
    (hfill : c.test.isFillable m = true) (log : CallLog) :
    c.negate.reply ctx m log = !c.reply ctx m log := by
  obtain ⟨holds, hholds⟩ : ∃ holds, c.test.holds? ctx m log = some holds :=
    Test.exists_holds? hpattern hfill log
  have htest : c.negate.test = c.test := rfl
  have hnegated : c.negate.negated = !c.negated := rfl
  rw [reply, reply, htest, hnegated, hholds]
  cases holds <;> cases c.negated <;> rfl

namespace Probe

/-- A condition and its negation make the same calls and reply the opposite. Neither has a verdict
if the command cannot be made. -/
theorem run_negate {p q : Probe} (hq : q.condition = p.condition.negate)
    (hpattern : ¬ p.condition.IsBroken) (log : CallLog) :
    observed (q.run ctx m log) = opposed (observed (p.run ctx m log)) := by
  have htest : p.condition.negate.test = p.condition.test := rfl
  have hcalls : p.condition.negate.calls ctx m = p.condition.calls ctx m := rfl
  rw [run_eq_reply, run_eq_reply, hq, htest, hcalls]
  by_cases hfill : p.condition.test.isFillable m = true
  · rw [if_pos hfill, if_pos hfill, Condition.reply_negate hpattern hfill]
    rfl
  · rw [if_neg hfill, if_neg hfill]
    rfl

/-- What is observed of conditions up to the one that settles the verdict. -/
theorem observed_runUntil_cons (stop : Bool) (p : Probe) (ps : List Probe) (log : CallLog) :
    observed (runUntil ctx m stop (p :: ps) log) =
      match observed (p.run ctx m log) with
      | .error e => .error e
      | .ok (verdict, log') =>
        if verdict = stop then .ok (stop, log') else observed (runUntil ctx m stop ps log') := by
  rw [runUntil]
  cases p.run ctx m log with
  | error e => rfl
  | ok z =>
    obtain ⟨verdict, p', log'⟩ := z
    by_cases hstop : verdict = stop
    · simp [observed, Except.map, hstop]
    · simp only [observed, Except.map, if_neg hstop]
      cases runUntil ctx m stop ps log' <;> rfl

/-- Conditions and their negations make the same calls up to the one that settles the verdict, and
give the opposite verdict, if what settles it is the opposite as well. -/
theorem runUntil_negate {ps qs : List Probe}
    (hqs : qs.map condition = ps.map fun p => p.condition.negate)
    (hpatterns : ∀ p ∈ ps, ¬ p.condition.IsBroken) (stop : Bool) (log : CallLog) :
    observed (runUntil ctx m (!stop) qs log) = opposed (observed (runUntil ctx m stop ps log)) := by
  -- the log grows alike on both sides
  induction ps generalizing qs log with
  | nil =>
    obtain rfl := List.map_eq_nil_iff.1 hqs
    rfl
  | cons p ps ih =>
    obtain ⟨q, qs, rfl, hq, hqs⟩ := List.map_eq_cons_iff.1 hqs
    obtain ⟨hp, hps⟩ := List.forall_mem_cons.1 hpatterns
    rw [observed_runUntil_cons, observed_runUntil_cons, run_negate hq hp]
    cases observed (p.run ctx m log) with
    | error e => rfl
    | ok z =>
      obtain ⟨verdict, log'⟩ := z
      by_cases hstop : verdict = stop
      · simp [opposed, Except.map, hstop]
      · simpa [opposed, Except.map, hstop] using ih hqs hps log'

end Probe

/-! ### Rules -/

namespace Matcher

/-- What is observed of a rule is what is observed of its conditions. -/
theorem observed_run (x : Matcher) (log : CallLog) :
    observed (x.run ctx m log) =
      observed (Probe.runUntil ctx m x.combinator.decisive x.probes log) := by
  rw [run]
  cases Probe.runUntil ctx m x.combinator.decisive x.probes log <;> rfl

/-- A rule whose patterns can all be read and its dual make the same calls in the same order and
have opposite verdicts. Either has a verdict exactly if every command can be made that the
evaluation comes to. Of a single condition and its negation exactly one holds, if its command can be
made, and neither if it has a text for a pattern that is none. -/
theorem run_dual {r : Rule} {x y : Matcher} (hx : x.Uses r) (hy : y.Uses r.dual)
    (hpatterns : ∀ c ∈ r.conditions, ¬ c.IsBroken) (ctx : Context) (m : Message) (log : CallLog) :
    observed (y.run ctx m log) = opposed (observed (x.run ctx m log)) ∧
    ((∃ z, x.run ctx m log = .ok z) ↔ ∀ c ∈ x.visited ctx m log, c.test.isFillable m = true) ∧
    ∀ p q : Probe, q.condition = p.condition.negate →
      (p.condition.IsBroken → observed (p.run ctx m log) = .ok (false, log) ∧
        observed (q.run ctx m log) = .ok (false, log)) ∧
      (¬ p.condition.IsBroken → p.condition.test.isFillable m = true → ∃ holds,
        observed (p.run ctx m log) = .ok (holds, log ++ p.condition.calls ctx m) ∧
        observed (q.run ctx m log) = .ok (!holds, log ++ p.condition.calls ctx m)) ∧
      (p.condition.test.isFillable m = false → observed (p.run ctx m log) = .error .unwritableDate ∧
        observed (q.run ctx m log) = .error .unwritableDate) := by
  refine ⟨?_, ?_, fun p q hq => ⟨fun hbroken => ?_, fun hpattern hfill => ?_, fun hfill => ?_⟩⟩
  · have hconditions : y.probes.map Probe.condition = x.probes.map fun p => p.condition.negate := by
      have hdual : r.dual.conditions = r.conditions.map Condition.negate := rfl
      rw [hy.conditions, hdual, ← hx.conditions, List.map_map]
      rfl
    have hdecisive : y.combinator.decisive = !x.combinator.decisive := by
      rw [hy.combinator, hx.combinator]
      exact r.combinator.decisive_dual
    rw [observed_run, observed_run, hdecisive]
    exact Probe.runUntil_negate hconditions
      (fun p hp => hpatterns _ (hx.conditions ▸ List.mem_map_of_mem hp)) _ log
  · have hall := List.all_eq_true (l := x.visited ctx m log) (p := (·.test.isFillable m))
    rw [← hall, run_eq_ite, Condition.areFillable]
    split <;> simp_all
  · have hbroken' : q.condition.IsBroken := by rw [hq]; exact hbroken
    rw [Probe.run_of_isBroken hbroken, Probe.run_of_isBroken hbroken']
    exact ⟨rfl, rfl⟩
  · refine ⟨p.condition.reply ctx m log, ?_⟩
    rw [Probe.run_negate hq hpattern, Probe.run_eq_reply, if_pos hfill]
    exact ⟨rfl, rfl⟩
  · have hfill' : q.condition.test.isFillable m = false := by rw [hq]; exact hfill
    rw [Probe.run_eq_reply, Probe.run_eq_reply, hfill, hfill']
    exact ⟨rfl, rfl⟩

/-- A conjunction that has to run a command on its way, and its dual. -/
theorem run_dual_spam :
    let spam : Condition := ⟨false, .command "grep -q spam %F"⟩
    let r : Rule := ⟨[spam, ⟨true, .text .subject ⟨true, false⟩ "a+b"⟩], .all, by simp⟩
    let ctx : Context := ⟨⟨0, 0, 0⟩, fun log _ => .exited log.length, none⟩
    let m : Message := { subject := some "AAB", file := some "17" }
    r.dual.text = "~X \"grep -q spam %F\" | s /a+b/" ∧ (∀ c ∈ r.conditions, ¬ c.IsBroken) ∧
      observed ((ofRule r).run ctx m []) = .ok (false, [⟨"grep -q spam 17", none⟩]) ∧
      observed ((ofRule r.dual).run ctx m []) = .ok (true, [⟨"grep -q spam 17", none⟩]) := by
  intro spam r ctx m
  have hpatterns : ∀ c ∈ r.conditions, ¬ c.IsBroken := by
    have hread : ∀ c ∈ r.conditions, c.test.pattern?.all Option.isSome = true := by decide +kernel
    intro c hc hbroken
    have hsome := hread c hc
    rw [hbroken] at hsome
    cases hsome
  have hrun : observed ((ofRule r).run ctx m []) = .ok (false, [⟨"grep -q spam 17", none⟩]) := by
    decide +kernel
  refine ⟨by decide +kernel, hpatterns, hrun, ?_⟩
  rw [(run_dual (uses_ofRule r) (uses_ofRule r.dual) hpatterns ctx m []).1, hrun]
  rfl

/-- Neither a condition nor its negation has a verdict on a message whose date has no form in mail
headers, and so the two together have none. -/
theorem run_error_of_both :
    let remote : Message := { date := some ⟨2932897, 0, 0⟩ }
    let rule : Rule := ⟨[dated, dated.negate], .any, by simp⟩
    Rule.parse "X \"true %d\" | ~X \"true %d\"" = .ok rule ∧ ¬ dated.IsBroken ∧
      (∀ p : Probe, p.condition = dated ∨ p.condition = dated.negate →
        ∀ ctx log, p.run ctx remote log = .error .unwritableDate) ∧
      ∀ ctx log, (ofRule rule).run ctx remote log = .error .unwritableDate := by
  intro remote rule
  have hdate : ¬ CommandTemplate.HasMailDate remote := not_hasMailDate rfl
  have hpattern : ¬ dated.IsBroken := by rintro ⟨⟩
  refine ⟨by decide +kernel, hpattern, fun p hp ctx log => ?_, run_dated rfl hdate⟩
  have htest : p.condition.test = dated.test := by
    rcases hp with hp | hp
    · rw [hp]
    · rw [hp, Condition.negate]
  have hfill : ¬ p.condition.test.isFillable remote = true := fun hfill =>
    hdate (Test.isFillable_iff.1 hfill "true %d" htest (by decide))
  rw [Probe.run_eq_reply, if_neg hfill]

end Matcher

end MailFilter
