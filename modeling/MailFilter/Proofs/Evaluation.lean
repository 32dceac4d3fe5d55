import MailFilter.Message.Source
import MailFilter.Proofs.Verdict

/-!
# What an Evaluation Looks At

An evaluation looks at conditions in order, up to the first one that settles the verdict. What a
condition replies may depend on the calls before it, since a runner may answer by all of them; so
the conditions of a rule are followed together with the log (`Condition.replies`). The conditions
that are looked at (`Condition.visited`) are the shortest front part of the rule that settles it,
and only their commands are run.

A command can be made of every template but one that asks for the date of a message whose date has
no written form. An evaluation that comes to such a command has no verdict, also where another
condition would settle the rule (`Matcher.run_error_beside_everything`).

## Main results

* `Probe.run_eq_reply`: one condition, with what it remembers and the calls that it makes.
* `Matcher.run_visited`: an evaluation is settled by the conditions that it looks at.
* `Matcher.exists_run_iff`: which evaluations have a verdict.
-/

namespace MailFilter

open CommandTemplate (Fault)
open Regex (Pattern)

/-! ### Commands that can be made -/

/-- What succeeds still does when its answer is changed. -/
theorem isOk_map {α β ε : Type} (f : α → β) (x : Except ε α) : (x.map f).isOk = x.isOk := by
  cases x <;> rfl

namespace CommandTemplate

/-- The letters that stand for a part of the message behind a percent sign. -/
def letters : List Char := ['%', 's', 'f', 't', 'c', 'd', 'i', 'n', 'r', 'F']

/-- The letters of the placeholders in a template, in order. -/
def placeholders : List Char → List Char
  | [] => []
  | '%' :: c :: s => if c ∈ letters then c :: placeholders s else placeholders (c :: s)
  | _ :: s => placeholders s

/-- Whether the date of a message, if it has one, has a form in mail headers. -/
def HasMailDate (m : Message) : Prop :=
  ∀ date, m.date = some date → 0 ≤ date.date.year ∧ date.date.year ≤ 9999

/-- A letter stands for a text, unless it asks for a date that has no form in mail headers. -/
theorem value?_cases (m : Message) (c : Char) :
    c ∉ letters ∧ value? m c = none ∨
    c ∈ letters ∧ (c = 'd' → HasMailDate m) ∧ (∃ text, value? m c = some (.ok text)) ∨
    c = 'd' ∧ ¬ HasMailDate m ∧ value? m c = some (.error .unwritableDate) := by
  by_cases hc : c = 'd'
  · subst hc
    have hletter : 'd' ∈ letters := by decide
    cases hdate : m.date with
    | none =>
      refine .inr (.inl ⟨hletter, fun _ date h => ?_, "", ?_⟩)
      · rw [hdate] at h
        cases h
      · simp [value?, hdate]
    | some date =>
      have hiff := date.mailDate?_isSome_iff
      cases hmail : date.mailDate? with
      | none =>
        refine .inr (.inr ⟨rfl, fun h => ?_, by simp [value?, hdate, hmail]⟩)
        have hsome := hiff.2 (h date hdate)
        simp [hmail] at hsome
      | some text =>
        refine .inr (.inl ⟨hletter, fun _ date' h => ?_, text, by simp [value?, hdate, hmail]⟩)
        obtain rfl := Option.some.inj (hdate.symm.trans h)
        exact hiff.1 (by simp [hmail])
  · unfold value?
    split
    case h_6 => exact absurd rfl hc
    case h_11 => exact .inl ⟨by simp_all [letters], rfl⟩
    all_goals exact .inr (.inl ⟨by decide, fun h => absurd h hc, _, rfl⟩)

/-- A template can be filled in, unless it asks for a date that has no form in mail headers. -/
theorem isOk_fill (m : Message) (s : List Char) :
    (fill m s).isOk = true ↔ ('d' ∈ placeholders s → HasMailDate m) := by
  fun_induction placeholders s with
  | case1 => simp [fill, Except.isOk, Except.toBool]
  | case2 c s hc ih =>
    rcases value?_cases m c with ⟨hno, -⟩ | ⟨-, hdate, text, hvalue⟩ | ⟨rfl, hdate, hvalue⟩
    · exact absurd hc hno
    · rw [fill]
      simp only [hvalue, isOk_map, ih, List.mem_cons]
      grind
    · rw [fill]
      simp only [hvalue]
      simp [Except.isOk, Except.toBool, hdate]
  | case3 c s hc ih =>
    rcases value?_cases m c with ⟨-, hvalue⟩ | ⟨hletter, -⟩ | ⟨rfl, -⟩
    · rw [fill]
      simp only [hvalue, isOk_map, ih]
    · exact absurd hletter hc
    · exact absurd (by decide) hc
  | case4 c s hc ih =>
    rw [fill, isOk_map, ih]
    exact hc

end CommandTemplate

/-! ### Single conditions -/

namespace Test

/-- Whether a test holds of a message where the calls in `log` have been made. A text that is no
pattern leaves nothing to be asked, and neither does a command that cannot be made. -/
def holds? (ctx : Context) (m : Message) (log : CallLog) : Test → Option Bool
  | .status s => some (m.hasStatus s)
  | .measure k bound => some (m.measures ctx.now bound k)
  | .text f how operand =>
    if how.isPattern then
      (Pattern.ofText? (!how.caseSensitive) operand.toList).map fun p =>
        (m.texts f).any fun t => p.matchesIn t.toList
    else some ((m.texts f).any (how.occurs operand))
  | .command template =>
    (CommandTemplate.command template m).toOption.map fun filled =>
      ctx.runner log ⟨filled, ctx.timeout⟩ == .exited 0

/-- The calls that a test makes for a message. -/
def calls (ctx : Context) (m : Message) : Test → CallLog
  | .command template =>
    ((CommandTemplate.command template m).toOption.map fun filled => ⟨filled, ctx.timeout⟩).toList
  | _ => []

/-- Whether the command of a test, if it has one, can be made for a message. -/
def isFillable (m : Message) : Test → Bool
  | .command template => (CommandTemplate.command template m).isOk
  | _ => true

end Test

namespace Condition

/-- What a condition replies for a message where the calls in `log` have been made. A condition
whose test leaves nothing to be asked does not hold, negated or not. -/
def reply (ctx : Context) (m : Message) (log : CallLog) (c : Condition) : Bool :=
  match c.test.holds? ctx m log with
  | some holds => holds != c.negated
  | none => false

/-- The calls that a condition makes for a message. -/
def calls (ctx : Context) (m : Message) (c : Condition) : CallLog := c.test.calls ctx m

/-- Whether the commands of conditions can be made for a message. -/
def areFillable (m : Message) (cs : List Condition) : Bool := cs.all (·.test.isFillable m)

/-- What conditions reply one after the other, each after the calls of those before it. -/
def replies (ctx : Context) (m : Message) : CallLog → List Condition → List Bool
  | _, [] => []
  | log, c :: cs => c.reply ctx m log :: replies ctx m (log ++ c.calls ctx m) cs

/-- `stop` if one of the verdicts is, and else the other one. -/
def settle (stop : Bool) (verdicts : List Bool) : Bool := if stop ∈ verdicts then stop else !stop

/-- The conditions up to the first one that replies `stop`, or all of them. -/
def visited (ctx : Context) (m : Message) (stop : Bool) (log : CallLog) (cs : List Condition) :
    List Condition := cs.take ((replies ctx m log cs).idxOf stop + 1)

end Condition

variable {ctx : Context} {m : Message}

/-- The command of a test can be made unless it asks for a date that has no form in mail headers. -/
theorem Test.isFillable_iff {t : Test} :
    t.isFillable m = true ↔ ∀ template, t = .command template →
      'd' ∈ CommandTemplate.placeholders template.toList → CommandTemplate.HasMailDate m := by
  cases t with
  | command template =>
    rw [isFillable, CommandTemplate.command, isOk_map, CommandTemplate.isOk_fill]
    simp
  | status => simp [isFillable]
  | measure => simp [isFillable]
  | text => simp [isFillable]

namespace Condition

/-- A condition without a command makes no calls. -/
theorem calls_of_not_command {c : Condition} (h : ∀ template, c.test ≠ .command template) :
    c.calls ctx m = [] := by
  rw [calls]
  cases htest : c.test with
  | command template => exact absurd htest (h template)
  | status => rfl
  | measure => rfl
  | text => rfl

/-- A condition with a command makes one call. -/
theorem calls_of_command {c : Condition} {template filled : String}
    (htest : c.test = .command template)
    (hfilled : CommandTemplate.command template m = .ok filled) :
    c.calls ctx m = [⟨filled, ctx.timeout⟩] := by
  rw [calls, htest, Test.calls, hfilled]
  rfl

/-- A condition with a command goes by whether the command ends with code zero. -/
theorem reply_of_command {c : Condition} {template filled : String}
    (htest : c.test = .command template)
    (hfilled : CommandTemplate.command template m = .ok filled) (before : CallLog) :
    c.reply ctx m before =
      ((ctx.runner before ⟨filled, ctx.timeout⟩ == .exited 0) != c.negated) := by
  rw [reply, htest, Test.holds?, hfilled]
  rfl

end Condition

namespace Probe

/-- Once a condition is prepared, it remembers its pattern, if it has one. -/
theorem tried_prepare (p : Probe) : p.prepare.tried = p.condition.test.pattern? := by
  obtain ⟨c, tried, htried⟩ := p
  cases tried with
  | none => rfl
  | some r => exact (htried r rfl).symm

/-- A condition in use replies what it does whether its pattern was read before or not. It makes its
calls; a command that cannot be made ends the evaluation. -/
theorem run_eq_reply (p : Probe) (log : CallLog) :
    p.run ctx m log =
      if p.condition.test.isFillable m then
        .ok (p.condition.reply ctx m log, p.prepare, log ++ p.condition.calls ctx m)
      else .error .unwritableDate := by
  have htried := p.tried_prepare
  have hcondition := p.condition_prepare
  rw [run]
  simp only [isFaulty, htried, hcondition, Condition.reply, Condition.calls]
  cases htest : p.condition.test with
  | status s =>
    simp [Test.check, Test.pattern?, Test.holds?, Test.calls, Test.isFillable]
  | measure k bound =>
    simp [Test.check, Test.pattern?, Test.holds?, Test.calls, Test.isFillable]
  | text f how operand =>
    cases hpattern : how.isPattern with
    | false => simp [Test.check, Test.pattern?, Test.holds?, Test.calls, Test.isFillable, hpattern]
    | true =>
      cases hread : Pattern.ofText? (!how.caseSensitive) operand.toList <;>
        simp [Test.check, Test.pattern?, Test.holds?, Test.calls, Test.isFillable, hpattern, hread]
  | command template =>
    cases hfilled : CommandTemplate.command template m with
    | error e =>
      cases e
      simp [Test.check, Test.isFillable, hfilled, Except.isOk, Except.toBool]
    | ok filled =>
      simp [Test.check, Test.pattern?, Test.holds?, Test.calls, Test.isFillable, hfilled,
        Except.isOk, Except.toBool, Except.toOption]

/-- Conditions of which the first `n` have been looked at. -/
def prepareFront (n : Nat) (ps : List Probe) : List Probe := (ps.take n).map prepare ++ ps.drop n

@[simp]
theorem prepareFront_succ (n : Nat) (p : Probe) (ps : List Probe) :
    prepareFront (n + 1) (p :: ps) = p.prepare :: prepareFront n ps := rfl

end Probe

/-! ### Up to the condition that settles the verdict -/

namespace Condition

variable {stop : Bool} {log : CallLog} {c : Condition} {cs : List Condition}

@[simp]
theorem areFillable_nil : areFillable m [] = true := rfl

@[simp]
theorem areFillable_cons :
    areFillable m (c :: cs) = (c.test.isFillable m && areFillable m cs) := List.all_cons

/-- A verdict that is not `stop` settles nothing. -/
theorem settle_cons_of_ne {v : Bool} (h : v ≠ stop) (verdicts : List Bool) :
    settle stop (v :: verdicts) = settle stop verdicts := by
  simp [settle, Ne.symm h]

/-- The first condition is looked at, and the others if it does not reply `stop`. -/
theorem visited_cons : visited ctx m stop log (c :: cs) =
    c :: if c.reply ctx m log = stop then [] else visited ctx m stop (log ++ c.calls ctx m) cs := by
  rw [visited, replies, List.idxOf_cons]
  by_cases hstop : c.reply ctx m log = stop
  · simp [hstop]
  · rw [beq_false_of_ne hstop, if_neg hstop]
    rfl

/-- The conditions that are looked at are a front part of all of them. None of them replies `stop`
but the last one, which does if there are others behind it. -/
theorem visited_spec (stop : Bool) (log : CallLog) (cs : List Condition) :
    visited ctx m stop log cs <+: cs ∧
      stop ∉ (replies ctx m log (visited ctx m stop log cs)).dropLast ∧
      (visited ctx m stop log cs ≠ cs →
        (replies ctx m log (visited ctx m stop log cs)).getLast? = some stop) := by
  refine ⟨List.take_prefix _ _, ?_⟩
  -- the log grows by the calls of the conditions in front, so it is not fixed
  induction cs generalizing log with
  | nil => simp [visited, replies]
  | cons c cs ih =>
    obtain ⟨hbefore, hlast⟩ := ih (log ++ c.calls ctx m)
    rw [visited_cons]
    by_cases hstop : c.reply ctx m log = stop
    · simp [hstop, replies]
    · rw [if_neg hstop, replies]
      cases hseen : replies ctx m (log ++ c.calls ctx m)
          (visited ctx m stop (log ++ c.calls ctx m) cs) with
      | nil =>
        -- nothing behind the first condition is looked at only if nothing stands there
        have hall : visited ctx m stop (log ++ c.calls ctx m) cs = cs := by
          rw [hseen] at hlast
          simpa using hlast
        simp [hall]
      | cons r rs =>
        rw [hseen] at hbefore hlast
        rw [List.dropLast_cons_cons, List.getLast?_cons_cons, List.mem_cons, not_or]
        exact ⟨⟨Ne.symm hstop, hbefore⟩, fun hne => hlast fun heq => hne (by rw [heq])⟩

end Condition

namespace Probe

/-- Conditions in use are looked at up to the one that replies `stop`. -/
theorem runUntil_visited (stop : Bool) (ps : List Probe) (log : CallLog) :
    runUntil ctx m stop ps log =
      let seen := Condition.visited ctx m stop log (ps.map condition)
      if Condition.areFillable m seen then
        .ok (Condition.settle stop (Condition.replies ctx m log (ps.map condition)),
          prepareFront seen.length ps, log ++ seen.flatMap (Condition.calls ctx m))
      else .error .unwritableDate := by
  induction ps generalizing log with
  | nil => simp [runUntil, Condition.visited, Condition.replies, Condition.settle, prepareFront]
  | cons p ps ih =>
    rw [runUntil, run_eq_reply, List.map_cons, Condition.visited_cons, Condition.replies]
    cases hfill : p.condition.test.isFillable m with
    | false => simp [hfill]
    | true =>
      by_cases hstop : p.condition.reply ctx m log = stop
      · simp [hfill, hstop, Condition.settle, prepareFront]
      · simp only [if_true, hstop, if_false, ih, Condition.areFillable_cons, hfill, Bool.true_and,
          Condition.settle_cons_of_ne hstop, List.length_cons, prepareFront_succ, List.flatMap_cons,
          List.append_assoc]
        cases Condition.areFillable m
          (Condition.visited ctx m stop (log ++ p.condition.calls ctx m) (ps.map condition)) <;> rfl

end Probe

/-! ### Whole rules -/

/-- The verdict of a combination of conditions. -/
def Combinator.combine : Combinator → List Bool → Bool
  | .all, verdicts => verdicts.all id
  | .any, verdicts => verdicts.any id

/-- One decisive verdict settles a combination. -/
theorem Combinator.combine_eq (k : Combinator) (verdicts : List Bool) :
    k.combine verdicts = Condition.settle k.decisive verdicts := by
  induction verdicts with
  | nil => cases k <;> rfl
  | cons v verdicts ih =>
    cases k <;> cases v <;> simp_all [combine, decisive, Condition.settle]

namespace Matcher

/-- The conditions of a rule in use. -/
def conditions (x : Matcher) : List Condition := x.probes.map Probe.condition

/-- The conditions that are looked at for a message. -/
def visited (ctx : Context) (m : Message) (log : CallLog) (x : Matcher) : List Condition :=
  Condition.visited ctx m x.combinator.decisive log x.conditions

/-- A rule in use of which the first `n` conditions have been looked at. -/
def prepareFront (n : Nat) (x : Matcher) : Matcher :=
  { x with probes := Probe.prepareFront n x.probes }

/-- An evaluation gives the combination of what the conditions reply, and makes the calls of those
that it looks at. It ends without a verdict if it comes to a command that cannot be made. -/
theorem run_eq_ite (x : Matcher) (log : CallLog) :
    x.run ctx m log =
      if Condition.areFillable m (x.visited ctx m log) then
        .ok (x.combinator.combine (Condition.replies ctx m log x.conditions),
          x.prepareFront (x.visited ctx m log).length,
          log ++ (x.visited ctx m log).flatMap (Condition.calls ctx m))
      else .error .unwritableDate := by
  have hrun : Probe.runUntil ctx m x.combinator.decisive x.probes log = _ :=
    Probe.runUntil_visited _ _ _
  have hseen : Condition.visited ctx m x.combinator.decisive log (x.probes.map Probe.condition) =
      x.visited ctx m log := rfl
  simp only [hseen] at hrun
  rw [Combinator.combine_eq]
  by_cases hfill : Condition.areFillable m (x.visited ctx m log) = true
  · rw [if_pos hfill] at hrun ⊢
    rw [run, hrun]
    rfl
  · rw [if_neg hfill] at hrun ⊢
    rw [run, hrun]

/-- An evaluation looks at a front part of the conditions, of which only the last one may settle the
verdict, and does if there are others behind it. The verdict is the combination of what the
conditions reply, which is what each of them gives alone after the calls before it. The calls are
those of the conditions that are looked at, and only a command that ends with code zero makes its
condition hold. There is no verdict if the evaluation comes to a command that cannot be made. -/
theorem run_visited (ctx : Context) (m : Message) (x : Matcher) (log : CallLog) :
    let seen := x.visited ctx m log
    (seen <+: x.conditions ∧
      x.combinator.decisive ∉ (Condition.replies ctx m log seen).dropLast ∧
      (seen ≠ x.conditions →
        (Condition.replies ctx m log seen).getLast? = some x.combinator.decisive)) ∧
    x.run ctx m log =
      (if Condition.areFillable m seen then
        .ok (x.combinator.combine (Condition.replies ctx m log x.conditions),
          x.prepareFront seen.length, log ++ seen.flatMap (Condition.calls ctx m))
      else .error .unwritableDate) ∧
    (∀ (p : Probe) before, p.condition.test.isFillable m = true →
      p.run ctx m before =
        .ok (p.condition.reply ctx m before, p.prepare, before ++ p.condition.calls ctx m)) ∧
    ∀ c ∈ seen,
      ((∀ template, c.test ≠ .command template) → c.calls ctx m = []) ∧
      ∀ template filled, c.test = .command template →
        CommandTemplate.command template m = .ok filled →
        c.calls ctx m = [⟨filled, ctx.timeout⟩] ∧
        ∀ before, c.reply ctx m before =
          ((ctx.runner before ⟨filled, ctx.timeout⟩ == .exited 0) != c.negated) := by
  intro seen
  refine ⟨Condition.visited_spec _ log x.conditions, x.run_eq_ite log, fun p before hfill => ?_,
    fun c _ => ⟨?_, ?_⟩⟩
  · rw [Probe.run_eq_reply, if_pos hfill]
  · exact Condition.calls_of_not_command
  · intro template filled htest hfilled
    exact ⟨Condition.calls_of_command htest hfilled, Condition.reply_of_command htest hfilled⟩

/-- An evaluation has a verdict exactly if no condition that it looks at asks for the date of the
message in a command, or that date has a form in mail headers. -/
theorem exists_run_iff (ctx : Context) (m : Message) (x : Matcher) (log : CallLog) :
    (∃ result, x.run ctx m log = .ok result) ↔
      ∀ c ∈ x.visited ctx m log, ∀ template, c.test = .command template →
        'd' ∈ CommandTemplate.placeholders template.toList →
        ∀ date, m.date = some date → 0 ≤ date.date.year ∧ date.date.year ≤ 9999 := by
  have hfill : (∃ result, x.run ctx m log = .ok result) ↔
      Condition.areFillable m (x.visited ctx m log) = true := by
    rw [run_eq_ite]
    split <;> simp_all
  rw [hfill, Condition.areFillable, List.all_eq_true]
  refine forall₂_congr fun c _ => ?_
  exact Test.isFillable_iff

/-! ### A date without a form in mail headers -/

/-- A condition that gives the date of a message to a command. -/
def dated : Condition := ⟨false, .command "true %d"⟩

/-- A rule that has to run a command on the date of a message before anything else gives no verdict
if the date has no form in mail headers. -/
theorem run_dated {x : Matcher} {cs : List Condition} (h : x.conditions = dated :: cs)
    (hdate : ¬ CommandTemplate.HasMailDate m) (ctx : Context) (log : CallLog) :
    x.run ctx m log = .error .unwritableDate := by
  have hfill : ¬ dated.test.isFillable m = true := fun hfill =>
    hdate (Test.isFillable_iff.1 hfill "true %d" rfl (by decide))
  rw [Bool.not_eq_true] at hfill
  rw [run_eq_ite, visited, h, Condition.visited_cons, Condition.areFillable_cons, hfill]
  rfl

/-- The year 10000 has no form in mail headers. -/
theorem not_hasMailDate (h : m.date = some ⟨2932897, 0, 0⟩) : ¬ CommandTemplate.HasMailDate m :=
  fun hdate => absurd (hdate _ h).2 (by decide +kernel)

/-- A date of the year 10000 stands in a message as it is written, and the rule is accepted, but
there is no verdict on the message. -/
theorem run_error_of_remote :
    let remote : Message := { date := some ⟨2932897, 0, 0⟩ }
    let rule : Rule := ⟨[dated], .all, by simp⟩
    Message.listOfText .json "[\x7b\"date\":\"+10000-01-01T00:00:00Z\"\x7d]" = .ok [remote] ∧
      Rule.parse "X \"true %d\"" = .ok rule ∧
      ∀ ctx log, (ofRule rule).run ctx remote log = .error .unwritableDate :=
  ⟨by decide +kernel, by decide +kernel, run_dated rfl (not_hasMailDate rfl)⟩

/-- There is no verdict either where the other condition of a disjunction holds of every message. -/
theorem run_error_beside_everything :
    let remote : Message := { date := some ⟨2932897, 0, 0⟩ }
    let everything : Condition := ⟨false, .status .everything⟩
    let rule : Rule := ⟨[dated, everything], .any, by simp⟩
    Rule.parse "X \"true %d\" | a" = .ok rule ∧
      (∀ ctx m log, everything.reply ctx m log = true) ∧
      ∀ ctx log, (ofRule rule).run ctx remote log = .error .unwritableDate :=
  ⟨by decide +kernel, fun _ _ _ => rfl, run_dated rfl (not_hasMailDate rfl)⟩

end Matcher

end MailFilter
