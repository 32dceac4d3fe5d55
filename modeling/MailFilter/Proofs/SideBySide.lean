import MailFilter.Proofs.Evaluation

/-!
# Messages Side by Side

Several messages can be looked at side by side by one rule or one search. They share what the rule
remembers of its patterns and the log of the calls; each message has its own place in the rule
(`Look`), and a schedule says which message goes on to its next condition (`Pool.run`).

A pattern that is remembered is the pattern of its condition, so a message does not see whether
another one has read it first. If the runner looks at the call alone, each message ends up with its
own verdict and its own calls, whatever the schedule is. What is remembered in the end is what the
message that got furthest has read, and that is the same for every order.

## Main results

* `Matcher.runAll_eq_ite`: messages one after the other, each with its own verdict and calls.
* `Pool.Follows.step`: what a step of one message preserves.
* `Pool.run_ahead`: every turn brings a message further.
* `Pool.agrees_with_order`: side by side the same is found, called and remembered as in order.
-/

namespace MailFilter

open CommandTemplate (Fault)
open QuickSearch (Query Search)

variable {ctx : Context} {answer : Call → Outcome}

/-! ### A runner that looks at the call alone -/

namespace Condition

/-- The calls before a condition do not change what it replies. -/
theorem reply_eq (h : ctx.AnswersByCall answer) (m : Message) (log : CallLog) (c : Condition) :
    c.reply ctx m log = c.reply ctx m [] := by
  have hholds : c.test.holds? ctx m log = c.test.holds? ctx m [] := by
    cases c.test with
    | command template => simp only [Test.holds?, h log, h []]
    | status => rfl
    | measure => rfl
    | text => rfl
  rw [reply, reply, hholds]

/-- Conditions reply what each of them would reply alone. -/
theorem replies_eq (h : ctx.AnswersByCall answer) (m : Message) (log : CallLog)
    (cs : List Condition) : replies ctx m log cs = cs.map (reply ctx m []) := by
  induction cs generalizing log with
  | nil => rfl
  | cons c cs ih => rw [replies, ih, reply_eq h, List.map_cons]

/-- The calls before the conditions do not change which of them are looked at. -/
theorem visited_eq (h : ctx.AnswersByCall answer) (m : Message) (stop : Bool) (log : CallLog)
    (cs : List Condition) : visited ctx m stop log cs = visited ctx m stop [] cs := by
  rw [visited, visited, replies_eq h, replies_eq h]

/-- Conditions that do not settle the verdict are looked at, and then those behind them. -/
theorem visited_append (h : ctx.AnswersByCall answer) {m : Message} {stop : Bool}
    {front : List Condition} (hfront : ∀ c ∈ front, c.reply ctx m [] ≠ stop)
    (cs : List Condition) :
    visited ctx m stop [] (front ++ cs) = front ++ visited ctx m stop [] cs := by
  induction front with
  | nil => rfl
  | cons c front ih =>
    obtain ⟨hc, hfront⟩ := List.forall_mem_cons.1 hfront
    rw [List.cons_append, visited_cons, if_neg hc, visited_eq h, ih hfront, List.cons_append]

end Condition

/-! ### What is remembered -/

namespace Probe

/-- A condition that is prepared stays as it is. -/
theorem prepare_prepare (p : Probe) : p.prepare.prepare = p.prepare := by
  rw [prepare_ofCondition p.prepare, condition_prepare, ← prepare_ofCondition]

/-- The conditions of which the first `n` have been looked at, one by one. -/
theorem getElem?_prepareFront (n : Nat) (ps : List Probe) (i : Nat) :
    (prepareFront n ps)[i]? = if i < n then ps[i]?.map prepare else ps[i]? := by
  induction ps generalizing n i with
  | nil => simp [prepareFront]
  | cons p ps ih =>
    cases n with
    | zero => simp [prepareFront]
    | succ n =>
      cases i with
      | zero => simp
      | succ i => simpa using ih n i

/-- What was looked at twice was looked at. -/
theorem prepareFront_prepareFront (n k : Nat) (ps : List Probe) :
    prepareFront k (prepareFront n ps) = prepareFront (max n k) ps := by
  refine List.ext_getElem? fun i => ?_
  have hmax : i < max n k ↔ i < n ∨ i < k := by omega
  simp only [getElem?_prepareFront, hmax]
  cases ps[i]? with
  | none => simp
  | some p => by_cases hn : i < n <;> by_cases hk : i < k <;> simp [hn, hk, prepare_prepare]

/-- One more condition is looked at, behind a front part that reaches up to it. -/
theorem set_prepareFront {n i : Nat} {ps : List Probe} {p : Probe} (hi : i ≤ n)
    (hp : (prepareFront n ps)[i]? = some p) :
    (prepareFront n ps).set i p.prepare = prepareFront (max n (i + 1)) ps := by
  refine List.ext_getElem? fun j => ?_
  rw [List.getElem?_set]
  by_cases hj : i = j
  · subst hj
    have hlen : i < (prepareFront n ps).length := (List.getElem?_eq_some_iff.1 hp).1
    rw [getElem?_prepareFront] at hp
    rw [if_pos rfl, if_pos hlen, getElem?_prepareFront, if_pos (by omega)]
    split at hp
    · obtain ⟨q, hq, rfl⟩ := Option.map_eq_some_iff.1 hp
      rw [hq, prepare_prepare]
      rfl
    · rw [hp]
      rfl
  · have hmax : j < max n (i + 1) ↔ j < n := by omega
    rw [if_neg hj, getElem?_prepareFront, getElem?_prepareFront]
    simp only [hmax]

/-- Looking at conditions keeps them. -/
theorem map_condition_prepareFront (n : Nat) (ps : List Probe) :
    (prepareFront n ps).map condition = ps.map condition := by
  refine List.ext_getElem? fun i => ?_
  rw [List.getElem?_map, List.getElem?_map, getElem?_prepareFront]
  cases ps[i]? <;> by_cases hi : i < n <;> simp [hi, condition_prepare]

end Probe

namespace Matcher

/-- How many conditions are looked at for a message. -/
def visits (ctx : Context) (m : Message) (x : Matcher) : Nat := (x.visited ctx m []).length

/-- The verdict on a message, if it has one. -/
def verdictOn (ctx : Context) (m : Message) (x : Matcher) : Bool :=
  x.combinator.combine (Condition.replies ctx m [] x.conditions)

/-- The calls that are made for a message. -/
def callsFor (ctx : Context) (m : Message) (x : Matcher) : CallLog :=
  (x.visited ctx m []).flatMap (Condition.calls ctx m)

/-- Whether there is a verdict on a message. -/
def decides (ctx : Context) (m : Message) (x : Matcher) : Bool :=
  Condition.areFillable m (x.visited ctx m [])

variable {x : Matcher}

/-- Looking at conditions keeps them. -/
@[simp]
theorem conditions_prepareFront (n : Nat) : (x.prepareFront n).conditions = x.conditions :=
  Probe.map_condition_prepareFront n x.probes

@[simp]
theorem combinator_prepareFront (n : Nat) : (x.prepareFront n).combinator = x.combinator := rfl

@[simp]
theorem prepareFront_zero : x.prepareFront 0 = x := by simp [prepareFront, Probe.prepareFront]

/-- What was looked at twice was looked at. -/
theorem prepareFront_prepareFront (n k : Nat) :
    (x.prepareFront n).prepareFront k = x.prepareFront (max n k) := by
  simp only [prepareFront, Probe.prepareFront_prepareFront]

/-- What has been looked at does not decide what will be. -/
@[simp]
theorem visited_prepareFront (n : Nat) (m : Message) (log : CallLog) :
    (x.prepareFront n).visited ctx m log = x.visited ctx m log := by
  simp [visited]

/-- One message, if the runner looks at the call alone. -/
theorem run_eq_decides (h : ctx.AnswersByCall answer) (m : Message) (n : Nat) (log : CallLog) :
    (x.prepareFront n).run ctx m log =
      if x.decides ctx m then
        .ok (x.verdictOn ctx m, x.prepareFront (max n (x.visits ctx m)), log ++ x.callsFor ctx m)
      else .error .unwritableDate := by
  have hvisited : x.visited ctx m log = x.visited ctx m [] := Condition.visited_eq h m _ log _
  rw [run_eq_ite]
  simp [hvisited, prepareFront_prepareFront, Condition.replies_eq h, decides, verdictOn, visits,
    callsFor]

/-- A condition that replies what settles the verdict. -/
theorem verdictOn_of_settles (h : ctx.AnswersByCall answer) {m : Message} {c : Condition}
    (hc : c ∈ x.conditions) (hreply : c.reply ctx m [] = x.combinator.decisive) :
    x.verdictOn ctx m = x.combinator.decisive := by
  rw [verdictOn, Combinator.combine_eq, Condition.replies_eq h, Condition.settle,
    if_pos (List.mem_map.2 ⟨c, hc, hreply⟩)]

/-- A verdict that no condition settles. -/
theorem verdictOn_of_unsettled (h : ctx.AnswersByCall answer) {m : Message}
    (hreply : ∀ c ∈ x.conditions, c.reply ctx m [] ≠ x.combinator.decisive) :
    x.verdictOn ctx m = !x.combinator.decisive := by
  rw [verdictOn, Combinator.combine_eq, Condition.replies_eq h, Condition.settle, if_neg]
  rw [List.mem_map]
  rintro ⟨c, hc, heq⟩
  exact hreply c hc heq

/-- No more conditions are looked at than there are. -/
theorem visits_le (ctx : Context) (m : Message) (x : Matcher) :
    x.visits ctx m ≤ x.conditions.length :=
  (Condition.visited_spec x.combinator.decisive [] x.conditions).1.length_le

/-- What is looked at behind conditions that do not settle the verdict. -/
theorem visited_of_getElem? (h : ctx.AnswersByCall answer) {m : Message} {k : Nat} {c : Condition}
    (hfront : ∀ c ∈ x.conditions.take k, c.reply ctx m [] ≠ x.combinator.decisive)
    (hc : x.conditions[k]? = some c) :
    ∃ behind, x.visited ctx m [] = x.conditions.take k ++ c :: behind ∧
      (c.reply ctx m [] = x.combinator.decisive → behind = []) := by
  obtain ⟨hk, hget⟩ := List.getElem?_eq_some_iff.1 hc
  have hsplit : x.conditions = x.conditions.take k ++ c :: x.conditions.drop (k + 1) := by
    rw [← hget, ← List.drop_eq_getElem_cons hk, List.take_append_drop]
  have hvisited := Condition.visited_append h hfront (c :: x.conditions.drop (k + 1))
  rw [← hsplit, Condition.visited_cons] at hvisited
  exact ⟨_, hvisited, fun hreply => if_pos hreply⟩

/-- The most that any of the numbers is. -/
def furthest (ns : List Nat) : Nat := ns.foldr max 0

/-- Messages one after the other, if the runner looks at the call alone. What is remembered in the
end is what the message that got furthest has read. -/
theorem runAll_eq_ite (h : ctx.AnswersByCall answer) (ms : List Message) (n : Nat)
    (log : CallLog) :
    runAll ctx ms (x.prepareFront n) log =
      if ms.all (x.decides ctx) then
        .ok (ms.map fun m => x.verdictOn ctx m,
          x.prepareFront (max n (furthest (ms.map fun m => x.visits ctx m))),
          log ++ ms.flatMap fun m => x.callsFor ctx m)
      else .error .unwritableDate := by
  induction ms generalizing n log with
  | nil => simp [runAll, furthest]
  | cons m ms ih =>
    rw [runAll, run_eq_decides h]
    cases hm : x.decides ctx m with
    | false => simp [hm]
    | true =>
      simp only [if_true, ih, List.all_cons, hm, Bool.true_and]
      cases ms.all (x.decides ctx) with
      | false => rfl
      | true =>
        simp [furthest, Nat.max_assoc]

end Matcher

/-! ### Single messages -/

/-- A message that is being looked at: how many conditions it is past, and its verdict, once that is
settled. -/
structure Look where
  message : Message
  past : Nat := 0
  verdict : Option Bool := none

namespace Look

/-- A message goes on to its next condition of a rule, or finds that there are no more. -/
def next (ctx : Context) (x : Matcher) (log : CallLog) (l : Look) :
    Except Fault (Look × Matcher × CallLog) :=
  match x.probes[l.past]? with
  | none => .ok ({ l with verdict := some !x.combinator.decisive }, x, log)
  | some p =>
    match p.run ctx l.message log with
    | .error e => .error e
    | .ok (verdict, p, log) =>
      .ok ({ l with
          past := l.past + 1
          verdict := if verdict = x.combinator.decisive then some verdict else none },
        { x with probes := x.probes.set l.past p }, log)

/-- One step of a message. Where no rule is asked, that settles its verdict. -/
def step (ctx : Context) (query : Option Query) (log : CallLog) (l : Look) :
    Except Fault (Look × Option Query × CallLog) :=
  match query with
  | none => .ok ({ l with verdict := some true }, query, log)
  | some (.contains field needle) =>
    .ok ({ l with verdict := some ((l.message.texts field).any (Comparison.plain.occurs needle)) },
      query, log)
  | some (.rule x) => (l.next ctx x log).map fun (l, x, log) => (l, some (.rule x), log)

/-- Whether a message has come by its own way to where it is: it is past conditions that it had to
look at, and its verdict is settled once it is past all of these. -/
structure Follows (ctx : Context) (x : Matcher) (l : Look) : Prop where
  past_le : l.past ≤ x.visits ctx l.message
  fillable : Condition.areFillable l.message (x.conditions.take l.past) = true
  unsettled : l.verdict = none →
    ∀ c ∈ x.conditions.take l.past, c.reply ctx l.message [] ≠ x.combinator.decisive
  settled : ∀ v, l.verdict = some v →
    l.past = x.visits ctx l.message ∧ v = x.verdictOn ctx l.message

/-- The calls that have been made for a message. -/
def calls (ctx : Context) (x : Matcher) (l : Look) : CallLog :=
  (x.conditions.take l.past).flatMap (Condition.calls ctx l.message)

variable {x : Matcher} {l : Look}

/-- A message that has not been looked at. -/
theorem follows_start (m : Message) : Follows ctx x { message := m } where
  past_le := Nat.zero_le _
  fillable := rfl
  unsettled _ c hc := by simp at hc
  settled v hv := by cases hv

/-- A message that is past all conditions without a settled verdict. -/
theorem Follows.close (h : ctx.AnswersByCall answer) (hl : l.Follows ctx x)
    (hopen : l.verdict = none) (hall : x.conditions.length ≤ l.past) :
    Follows ctx x { l with verdict := some !x.combinator.decisive } where
  past_le := hl.past_le
  fillable := hl.fillable
  unsettled hnone := by cases hnone
  settled v hv := by
    have hreplies := hl.unsettled hopen
    rw [List.take_of_length_le hall] at hreplies
    obtain rfl := Option.some.inj hv
    exact ⟨Nat.le_antisymm hl.past_le (Nat.le_trans (x.visits_le ctx l.message) hall),
      (Matcher.verdictOn_of_unsettled h hreplies).symm⟩

/-- A message that goes past a condition. -/
theorem Follows.advance (h : ctx.AnswersByCall answer) (hl : l.Follows ctx x)
    (hopen : l.verdict = none) {c : Condition} (hc : x.conditions[l.past]? = some c)
    (hfill : c.test.isFillable l.message = true) :
    Follows ctx x { l with
      past := l.past + 1
      verdict := if c.reply ctx l.message [] = x.combinator.decisive then
        some (c.reply ctx l.message []) else none } := by
  -- the message is past all that it has to look at exactly if the condition settles the verdict
  obtain ⟨behind, hvisited, hlast⟩ := Matcher.visited_of_getElem? h (hl.unsettled hopen) hc
  have htake : x.conditions.take (l.past + 1) = x.conditions.take l.past ++ [c] := by
    rw [List.take_add_one, hc, Option.toList_some]
  have hvisits : x.visits ctx l.message = l.past + 1 + behind.length := by
    have hk := (List.getElem?_eq_some_iff.1 hc).1
    rw [Matcher.visits, hvisited, List.length_append, List.length_take, List.length_cons]
    omega
  refine ⟨by simp only; omega, ?_, ?_, ?_⟩
  · have hfillable := hl.fillable
    simp only [htake, Condition.areFillable, List.all_append, List.all_cons, List.all_nil, hfill,
      Bool.and_true] at hfillable ⊢
    exact hfillable
  · intro hnone
    have hreply : c.reply ctx l.message [] ≠ x.combinator.decisive := fun heq => by
      simp [heq] at hnone
    simp only [htake, List.forall_mem_append, List.forall_mem_singleton]
    exact ⟨hl.unsettled hopen, hreply⟩
  · intro v hv
    simp only at hv
    split at hv
    · next hreply =>
      obtain rfl := Option.some.inj hv
      rw [hlast hreply] at hvisits
      exact ⟨hvisits.symm,
        hreply.trans (Matcher.verdictOn_of_settles h (List.mem_of_getElem? hc) hreply).symm⟩
    · cases hv

/-- A command that cannot be made, on the way of a message. -/
theorem Follows.not_decides (h : ctx.AnswersByCall answer) (hl : l.Follows ctx x)
    (hopen : l.verdict = none) {c : Condition} (hc : x.conditions[l.past]? = some c)
    (hfill : c.test.isFillable l.message = false) : x.decides ctx l.message = false := by
  obtain ⟨behind, hvisited, -⟩ := Matcher.visited_of_getElem? h (hl.unsettled hopen) hc
  rw [Matcher.decides, hvisited, Condition.areFillable, List.all_append, List.all_cons, hfill,
    Bool.false_and, Bool.and_false]

/-- A step of a message by a rule: it brings the message further on its way, or it comes to a
command that cannot be made. -/
theorem Follows.next (h : ctx.AnswersByCall answer) (hl : l.Follows ctx x)
    (hopen : l.verdict = none) {n : Nat} (hn : l.past ≤ n) (log : CallLog) :
    (∃ l' calls, l.next ctx (x.prepareFront n) log =
        .ok (l', x.prepareFront (max n l'.past), log ++ calls) ∧
      l'.message = l.message ∧ l'.Follows ctx x ∧ l.past ≤ l'.past ∧
      l'.calls ctx x = l.calls ctx x ++ calls) ∨
    l.next ctx (x.prepareFront n) log = .error .unwritableDate ∧
      x.decides ctx l.message = false := by
  have hconditions : (x.prepareFront n).conditions = x.conditions := x.conditions_prepareFront n
  rw [Look.next, Matcher.combinator_prepareFront]
  cases hp : (x.prepareFront n).probes[l.past]? with
  | none =>
    have hall : x.conditions.length ≤ l.past := by
      rw [← hconditions, Matcher.conditions, List.length_map]
      exact List.getElem?_eq_none_iff.1 hp
    exact .inl ⟨{ l with verdict := some !x.combinator.decisive }, [],
      by simp [Nat.max_eq_left hn], rfl, hl.close h hopen hall, Nat.le_refl _, by simp [calls]⟩
  | some p =>
    have hc : x.conditions[l.past]? = some p.condition := by
      rw [← hconditions, Matcher.conditions, List.getElem?_map, hp, Option.map_some]
    simp only [Probe.run_eq_reply, Condition.reply_eq h l.message log]
    cases hfill : p.condition.test.isFillable l.message with
    | false => exact .inr ⟨by simp, hl.not_decides h hopen hc hfill⟩
    | true =>
      have hset : (x.prepareFront n).probes.set l.past p.prepare =
          (x.prepareFront (max n (l.past + 1))).probes := Probe.set_prepareFront hn hp
      refine .inl ⟨_, p.condition.calls ctx l.message, ?_, ?_, hl.advance h hopen hc hfill,
        Nat.le_succ _, ?_⟩
      · simp only [if_true, hset]
        rfl
      · rfl
      · rw [calls, List.take_add_one, hc, List.flatMap_append, Option.toList_some,
          List.flatMap_singleton]
        rfl

end Look

/-! ### Several messages -/

/-- Messages that are looked at side by side: what they share, where each of them is, and the calls
that have been made. -/
structure Pool where
  query : Option Query
  looks : List Look
  log : CallLog

namespace Pool

/-- Messages that have not been looked at. -/
def start (query : Option Query) (ms : List Message) (log : CallLog) : Pool :=
  ⟨query, ms.map ({ message := · }), log⟩

/-- The message at a place takes its next step, if its verdict is not settled yet. -/
def step (ctx : Context) (p : Pool) (i : Nat) : Except Fault Pool :=
  match p.looks[i]? with
  | none => .ok p
  | some l =>
    if l.verdict.isSome then .ok p
    else (l.step ctx p.query p.log).map fun (l, query, log) => ⟨query, p.looks.set i l, log⟩

/-- The steps of a schedule, which names the place of a message for each step. -/
def run (ctx : Context) : List Nat → Pool → Except Fault Pool
  | [], p => .ok p
  | i :: schedule, p =>
    match p.step ctx i with
    | .error e => .error e
    | .ok p => run ctx schedule p

/-- Whether the verdicts on all messages are settled. -/
def isFinished (p : Pool) : Bool := p.looks.all (·.verdict.isSome)

/-- The messages that have been found, in order. -/
def found (p : Pool) : List Message := (p.looks.filter (·.verdict == some true)).map (·.message)

/-- What every step keeps, unless it fails for some reason, a whole schedule keeps. -/
theorem run_of_step {Inv : Pool → Prop} {reason : Prop}
    (hstep : ∀ {p}, Inv p → ∀ i, (∃ p', p.step ctx i = .ok p' ∧ Inv p') ∨
      p.step ctx i = .error .unwritableDate ∧ reason)
    {p : Pool} (hp : Inv p) (schedule : List Nat) :
    (∃ p', p.run ctx schedule = .ok p' ∧ Inv p') ∨
      p.run ctx schedule = .error .unwritableDate ∧ reason := by
  induction schedule generalizing p with
  | nil => exact .inl ⟨p, rfl, hp⟩
  | cons i schedule ih =>
    rw [run]
    rcases hstep hp i with ⟨p', hnext, hp'⟩ | ⟨hnext, hreason⟩
    · rw [hnext]
      exact ih hp'
    · rw [hnext]
      exact .inr ⟨rfl, hreason⟩

/-- Whether all messages have come by their own ways to where they are. The rule remembers what the
message that got furthest has read, and the calls are those of all messages in some order. -/
structure Follows (ctx : Context) (x : Matcher) (ms : List Message) (log : CallLog) (p : Pool) :
    Prop where
  messages : p.looks.map (·.message) = ms
  looks : ∀ l ∈ p.looks, l.Follows ctx x
  query : p.query = some (.rule (x.prepareFront (Matcher.furthest (p.looks.map (·.past)))))
  log : p.log.Perm (log ++ p.looks.flatMap (Look.calls ctx x))

section
variable {x : Matcher} {ms : List Message} {log : CallLog} {p : Pool}

/-- None of the numbers is more than the furthest. -/
theorem le_furthest {ns : List Nat} {n : Nat} (h : n ∈ ns) : n ≤ Matcher.furthest ns := by
  induction ns with
  | nil => cases h
  | cons k ns ih =>
    rw [Matcher.furthest, List.foldr_cons]
    rcases List.mem_cons.1 h with rfl | h
    · exact Nat.le_max_left _ _
    · exact Nat.le_trans (ih h) (Nat.le_max_right _ _)

/-- The furthest after one of the numbers has grown. -/
theorem furthest_set {ns : List Nat} {i n k : Nat} (h : ns[i]? = some n) (hk : n ≤ k) :
    Matcher.furthest (ns.set i k) = max (Matcher.furthest ns) k := by
  induction ns generalizing i with
  | nil => cases h
  | cons a ns ih =>
    cases i with
    | zero =>
      obtain rfl := Option.some.inj h
      simp only [List.set_cons_zero, Matcher.furthest, List.foldr_cons]
      omega
    | succ i =>
      have hrest := ih h
      simp only [Matcher.furthest, List.set_cons_succ, List.foldr_cons] at hrest ⊢
      omega

/-- A step of one message keeps the messages. -/
theorem map_message_set {looks : List Look} {i : Nat} {l l' : Look} (h : looks[i]? = some l)
    (hmessage : l'.message = l.message) :
    (looks.set i l').map (·.message) = looks.map (·.message) := by
  obtain ⟨hi, rfl⟩ := List.getElem?_eq_some_iff.1 h
  rw [List.map_set, hmessage, ← List.map_set, List.set_getElem_self]

/-- What is put together from elements one of which has got more. -/
theorem flatMap_set_perm {α β : Type} {f : α → List β} {as : List α} {i : Nat} {a b : α}
    {more : List β} (h : as[i]? = some a) (hb : f b = f a ++ more) :
    ((as.set i b).flatMap f).Perm (as.flatMap f ++ more) := by
  induction as generalizing i with
  | nil => cases h
  | cons c as ih =>
    cases i with
    | zero =>
      obtain rfl := Option.some.inj h
      simp only [List.set_cons_zero, List.flatMap_cons, hb, List.append_assoc]
      exact List.perm_append_comm.append_left _
    | succ i =>
      simp only [List.set_cons_succ, List.flatMap_cons, List.append_assoc]
      exact (ih h).append_left _

/-- Messages that have not been looked at are where they should be. -/
theorem follows_start (ctx : Context) (x : Matcher) (ms : List Message) (log : CallLog) :
    (start (some (.rule x)) ms log).Follows ctx x ms log where
  messages := by simp [start, Function.comp_def]
  looks l hl := by
    obtain ⟨m, -, rfl⟩ := List.mem_map.1 hl
    exact Look.follows_start m
  query := by
    have hnone : Matcher.furthest (ms.map fun _ => 0) = 0 := by
      induction ms with
      | nil => rfl
      | cons m ms ih =>
        rw [Matcher.furthest, List.map_cons, List.foldr_cons]
        exact (Nat.max_eq_right (Nat.zero_le _)).trans ih
    have hpast : (start (some (.rule x)) ms log).looks.map (·.past) = ms.map fun _ => 0 :=
      List.map_map
    rw [hpast, hnone, Matcher.prepareFront_zero]
    rfl
  log := by
    have hcalls : (start (some (.rule x)) ms log).looks.flatMap (Look.calls ctx x) = [] := by
      rw [List.flatMap_eq_nil_iff]
      intro l hl
      obtain ⟨m, -, rfl⟩ := List.mem_map.1 hl
      rfl
    rw [hcalls, List.append_nil]
    exact .refl _

/-- A step of one message leaves all messages where they should be, or comes to a command that
cannot be made. -/
theorem Follows.step (h : ctx.AnswersByCall answer) (hp : p.Follows ctx x ms log) (i : Nat) :
    (∃ p', p.step ctx i = .ok p' ∧ p'.Follows ctx x ms log) ∨
      p.step ctx i = .error .unwritableDate ∧ ∃ m ∈ ms, x.decides ctx m = false := by
  rw [Pool.step]
  cases hl : p.looks[i]? with
  | none => exact .inl ⟨p, rfl, hp⟩
  | some l =>
    have hmem : l ∈ p.looks := List.mem_of_getElem? hl
    cases hverdict : l.verdict with
    | some v => exact .inl ⟨p, by simp [hverdict], hp⟩
    | none =>
      have hpast : l.past ≤ Matcher.furthest (p.looks.map (·.past)) :=
        le_furthest (List.mem_map_of_mem hmem)
      simp only [hverdict, Option.isSome_none, Bool.false_eq_true, if_false, hp.query, Look.step]
      rcases (hp.looks l hmem).next h hverdict hpast p.log with
        ⟨l', calls, hnext, hmessage, hfollows, hle, hcalls⟩ | ⟨hnext, hdecides⟩
      · rw [hnext]
        -- only this message moves; the rule keeps what the furthest one has read
        refine .inl ⟨_, rfl, ?_, fun k hk => ?_, ?_, ?_⟩
        · exact (map_message_set hl hmessage).trans hp.messages
        · rcases List.mem_or_eq_of_mem_set hk with hk | rfl
          · exact hp.looks k hk
          · exact hfollows
        · have hplace : (p.looks.map (·.past))[i]? = some l.past := by
            rw [List.getElem?_map, hl, Option.map_some]
          rw [List.map_set, furthest_set hplace hle]
        · have hall := hp.log.append_right calls
          rw [List.append_assoc] at hall
          exact hall.trans ((flatMap_set_perm hl hcalls).symm.append_left log)
      · rw [hnext]
        refine .inr ⟨rfl, l.message, ?_, hdecides⟩
        rw [← hp.messages]
        exact List.mem_map_of_mem hmem

/-- Whatever the schedule is, all messages are where they should be, or one of them comes to a
command that cannot be made. -/
theorem Follows.run (h : ctx.AnswersByCall answer) (hp : p.Follows ctx x ms log)
    (schedule : List Nat) :
    (∃ p', p.run ctx schedule = .ok p' ∧ p'.Follows ctx x ms log) ∨
      p.run ctx schedule = .error .unwritableDate ∧ ∃ m ∈ ms, x.decides ctx m = false :=
  run_of_step (fun hp => hp.step h) hp schedule

/-- Where all verdicts are settled, every message has got as far as it does alone. -/
theorem Follows.past_eq (hp : p.Follows ctx x ms log) (hfinished : p.isFinished = true) {l : Look}
    (hl : l ∈ p.looks) :
    l.past = x.visits ctx l.message ∧ l.verdict = some (x.verdictOn ctx l.message) ∧
      x.decides ctx l.message = true ∧ l.calls ctx x = x.callsFor ctx l.message := by
  obtain ⟨v, hv⟩ := Option.isSome_iff_exists.1 (List.all_eq_true.1 hfinished l hl)
  obtain ⟨hpast, rfl⟩ := (hp.looks l hl).settled v hv
  have hvisited : x.conditions.take l.past = x.visited ctx l.message [] := by
    rw [hpast]
    exact (List.prefix_iff_eq_take.1
      (Condition.visited_spec x.combinator.decisive [] x.conditions).1).symm
  refine ⟨hpast, hv, ?_, ?_⟩
  · rw [Matcher.decides, ← hvisited]
    exact (hp.looks l hl).fillable
  · rw [Look.calls, hvisited]
    rfl

/-- The messages that have been found are selected by the verdicts, once these are settled. -/
theorem found_eq {f : Message → Bool} (hp : ∀ l ∈ p.looks, l.verdict = some (f l.message)) :
    p.found = selected (p.looks.map (·.message)) ((p.looks.map (·.message)).map f) := by
  obtain ⟨query, looks, log⟩ := p
  induction looks with
  | nil => rfl
  | cons l looks ih =>
    obtain ⟨hl, hlooks⟩ := List.forall_mem_cons.1 hp
    have hrest := ih hlooks
    simp only [found, selected] at hrest ⊢
    cases hf : f l.message <;> simp [hl, hf, hrest]

/-- Where all verdicts are settled, they are those of the messages one after the other, and so are
the calls and what the rule remembers. -/
theorem Follows.finished (h : ctx.AnswersByCall answer) (hp : p.Follows ctx x ms log)
    (hfinished : p.isFinished = true) :
    ∃ verdicts x' log', Matcher.runAll ctx ms x log = .ok (verdicts, x', log') ∧
      p.query = some (.rule x') ∧ p.found = selected ms verdicts ∧ p.log.Perm log' := by
  have hlooks := fun l hl => hp.past_eq hfinished (l := l) hl
  have hdecides : ms.all (x.decides ctx) = true := by
    rw [← hp.messages, List.all_map, List.all_eq_true]
    exact fun l hl => (hlooks l hl).2.2.1
  have hpast : p.looks.map (·.past) = ms.map fun m => x.visits ctx m := by
    rw [← hp.messages, List.map_map]
    exact List.map_congr_left fun l hl => (hlooks l hl).1
  have hcalls : p.looks.flatMap (Look.calls ctx x) = ms.flatMap fun m => x.callsFor ctx m := by
    rw [← hp.messages, List.flatMap_map]
    exact List.flatMap_congr fun l hl => (hlooks l hl).2.2.2
  have hrun := Matcher.runAll_eq_ite (x := x) h ms 0 log
  rw [if_pos hdecides, Matcher.prepareFront_zero, Nat.zero_max] at hrun
  refine ⟨_, _, _, hrun, ?_, ?_, ?_⟩
  · rw [hp.query, hpast]
  · rw [← hp.messages]
    exact found_eq fun l hl => (hlooks l hl).2.1
  · rw [← hcalls]
    exact hp.log

end

/-! ### Where no rule is asked -/

section
variable {query : Option Query} {passes : Message → Bool} {ms : List Message} {log : CallLog}
  {p : Pool}

/-- Whether a query is settled by a message alone, with one step and no calls. -/
def IsPlain (ctx : Context) (query : Option Query) (passes : Message → Bool) : Prop :=
  ∀ log l, Look.step ctx query log l =
    .ok ({ l with verdict := some (passes l.message) }, query, log)

/-- Whether all verdicts that are settled are right, and nothing else has happened. -/
structure Passes (query : Option Query) (passes : Message → Bool) (ms : List Message)
    (log : CallLog) (p : Pool) : Prop where
  messages : p.looks.map (·.message) = ms
  looks : ∀ l ∈ p.looks, l.past = 0 ∧ ∀ v, l.verdict = some v → v = passes l.message
  query : p.query = query
  log : p.log = log

/-- Nothing has happened to messages that have not been looked at. -/
theorem passes_start (query : Option Query) (passes : Message → Bool) (ms : List Message)
    (log : CallLog) : (start query ms log).Passes query passes ms log where
  messages := by simp [start, Function.comp_def]
  looks l hl := by
    obtain ⟨m, -, rfl⟩ := List.mem_map.1 hl
    exact ⟨rfl, fun v hv => by cases hv⟩
  query := rfl
  log := rfl

/-- A step of one message settles its verdict. -/
theorem Passes.step (hplain : IsPlain ctx query passes) (hp : p.Passes query passes ms log)
    (i : Nat) : ∃ p', p.step ctx i = .ok p' ∧ p'.Passes query passes ms log := by
  rw [Pool.step]
  cases hl : p.looks[i]? with
  | none => exact ⟨p, rfl, hp⟩
  | some l =>
    cases hverdict : l.verdict with
    | some v => exact ⟨p, by simp [hverdict], hp⟩
    | none =>
      simp only [hverdict, Option.isSome_none, Bool.false_eq_true, if_false, hp.query,
        hplain p.log l]
      have hmessage : ({ l with verdict := some (passes l.message) } : Look).message = l.message :=
        rfl
      refine ⟨_, rfl, (map_message_set hl hmessage).trans hp.messages, fun k hk => ?_, rfl, hp.log⟩
      rcases List.mem_or_eq_of_mem_set hk with hk | rfl
      · exact hp.looks k hk
      · exact ⟨(hp.looks l (List.mem_of_getElem? hl)).1, fun v hv => (Option.some.inj hv).symm⟩

/-- Whatever the schedule is, all verdicts that are settled are right. -/
theorem Passes.run (hplain : IsPlain ctx query passes) (hp : p.Passes query passes ms log)
    (schedule : List Nat) :
    ∃ p', p.run ctx schedule = .ok p' ∧ p'.Passes query passes ms log :=
  (run_of_step (fun hp i => .inl (hp.step hplain i)) hp schedule).resolve_right
    fun hfailed => hfailed.2

end

/-! ### Schedules that come to an end -/

section
variable {query query' : Option Query} {log log' : CallLog} {p p' : Pool}

/-- A step of a message settles its verdict or brings it past one more condition. -/
theorem look_ahead {l l' : Look} (h : l.step ctx query log = .ok (l', query', log')) :
    l'.verdict.isSome = true ∨ l'.past = l.past + 1 := by
  match query, h with
  | none, h => cases h; exact .inl rfl
  | some (.contains field needle), h => cases h; exact .inl rfl
  | some (.rule x), h =>
    obtain ⟨⟨l₁, x₁, log₁⟩, hnext, heq⟩ := map_ok_iff.1 h
    cases heq
    rw [Look.next] at hnext
    split at hnext
    · cases hnext
      exact .inl rfl
    · split at hnext
      · cases hnext
      · cases hnext
        exact .inr rfl

/-- What becomes of a message in one step of some message: its verdict is settled, or it is past
one more condition if the step was its own. -/
theorem step_ahead {i : Nat} (h : p.step ctx i = .ok p') {j : Nat} {l : Look}
    (hl : p.looks[j]? = some l) :
    ∃ l', p'.looks[j]? = some l' ∧ (l'.verdict.isSome = true ∨
      l.verdict = none ∧ l.past + [i].count j ≤ l'.past) := by
  have hsettled : l.verdict.isSome = true ∨ l.verdict = none := by
    cases l.verdict <;> simp
  rw [step] at h
  by_cases hij : i = j
  · subst hij
    rcases hsettled with hsome | hnone
    · rw [hl] at h
      simp only [hsome, if_true] at h
      cases h
      exact ⟨l, hl, .inl hsome⟩
    · rw [hl] at h
      simp only [hnone, Option.isSome_none, Bool.false_eq_true, if_false] at h
      obtain ⟨⟨l', query', log'⟩, hstep, rfl⟩ := map_ok_iff.1 h
      refine ⟨l', by simp [(List.getElem?_eq_some_iff.1 hl).1], ?_⟩
      rcases look_ahead hstep with hsome | hpast
      · exact .inl hsome
      · exact .inr ⟨hnone, by simp [hpast]⟩
  · -- the step of another message
    have hcount : [i].count j = 0 := by simp [hij]
    have hkept : p'.looks[j]? = some l := by
      split at h
      · cases h
        exact hl
      · split at h
        · cases h
          exact hl
        · obtain ⟨⟨l', query', log'⟩, -, rfl⟩ := map_ok_iff.1 h
          rw [List.getElem?_set_ne hij]
          exact hl
    refine ⟨l, hkept, hsettled.imp_right fun hnone => ⟨hnone, ?_⟩⟩
    rw [hcount]
    exact Nat.le_refl _

/-- What becomes of a message in the steps of a schedule: its verdict is settled, or it is past one
more condition for every turn that it had. -/
theorem run_ahead {schedule : List Nat} (h : p.run ctx schedule = .ok p') {j : Nat} {l : Look}
    (hl : p.looks[j]? = some l) :
    ∃ l', p'.looks[j]? = some l' ∧ (l'.verdict.isSome = true ∨
      l.verdict = none ∧ l.past + schedule.count j ≤ l'.past) := by
  induction schedule generalizing p l with
  | nil =>
    cases h
    refine ⟨l, hl, ?_⟩
    cases l.verdict <;> simp
  | cons i schedule ih =>
    rw [run] at h
    split at h
    · cases h
    · next p₁ hstep =>
      obtain ⟨l₁, hl₁, hfirst⟩ := step_ahead hstep hl
      obtain ⟨l', hl', hrest⟩ := ih h hl₁
      refine ⟨l', hl', hrest.imp_right fun ⟨hnone, hpast⟩ => ?_⟩
      rcases hfirst with hsome | ⟨hopen, hmore⟩
      · simp [hnone] at hsome
      · have hcount : (i :: schedule).count j = [i].count j + schedule.count j :=
          @List.count_append _ _ j [i] schedule
        exact ⟨hopen, by omega⟩

/-- A schedule that gives every message more turns than conditions settles all verdicts, if no
message can be past more conditions than that. -/
theorem isFinished_of_turns {ms : List Message} {schedule : List Nat} {turns : Nat}
    (hfair : ∀ i < ms.length, turns < schedule.count i)
    (h : (start query ms log).run ctx schedule = .ok p)
    (hmessages : p.looks.map (·.message) = ms) (hpast : ∀ l ∈ p.looks, l.past ≤ turns) :
    p.isFinished = true := by
  refine List.all_eq_true.2 fun l hl => ?_
  obtain ⟨i, hi, rfl⟩ := List.mem_iff_getElem.1 hl
  have hlen : i < ms.length := by simpa [← hmessages] using hi
  obtain ⟨l', hl', hahead⟩ := run_ahead h (j := i) (l := { message := ms[i] })
    (by simp [start, hlen])
  obtain rfl := Option.some.inj ((List.getElem?_eq_getElem hi).symm.trans hl')
  -- an open verdict would leave the message past more conditions than it can be
  refine hahead.resolve_right fun ⟨_, hmore⟩ => ?_
  have hle := hpast _ hl
  have hturns := hfair i hlen
  simp only at hmore
  omega

end

/-! ### Side by side and in order -/

/-- How many steps a message has to take before the one that settles its verdict, at most. -/
def turns : Option Query → Nat
  | some (.rule x) => x.conditions.length
  | _ => 0

/-- What messages side by side have to do with `one`, which comes out when they are looked at in
order: the same is found and remembered, and the same calls are made, but in another order. -/
structure Agrees (ctx : Context) (query : Option Query) (ms : List Message) (log : CallLog)
    (one : Except Fault (List Bool × Option Query × CallLog)) (schedule : List Nat) : Prop where
  finished : ∀ p, (start query ms log).run ctx schedule = .ok p → p.isFinished = true →
    ∃ verdicts log', one = .ok (verdicts, p.query, log') ∧ p.found = selected ms verdicts ∧
      p.log.Perm log'
  failed : ∀ e, (start query ms log).run ctx schedule = .error e → one = .error e
  ends : (∀ i < ms.length, turns query < schedule.count i) →
    ∀ p, (start query ms log).run ctx schedule = .ok p → p.isFinished = true

section
variable {ms : List Message} {log : CallLog} {schedule : List Nat}

/-- Messages side by side agree with those in order about a rule. -/
theorem agrees_of_rule (h : ctx.AnswersByCall answer) (x : Matcher) :
    Agrees ctx (some (.rule x)) ms log
      ((Matcher.runAll ctx ms x log).map fun (verdicts, x, log) => (verdicts, some (.rule x), log))
      schedule := by
  have hrun := (follows_start ctx x ms log).run h schedule
  refine ⟨fun p hp hfinished => ?_, fun e he => ?_, fun hfair p hp => ?_⟩
  · rcases hrun with ⟨p', hp', hfollows⟩ | ⟨hfailed, -⟩
    · obtain rfl := Except.ok.inj (hp'.symm.trans hp)
      obtain ⟨verdicts, x', log', hall, hquery, hfound, hlog⟩ := hfollows.finished h hfinished
      exact ⟨verdicts, log', by rw [hall, hquery]; rfl, hfound, hlog⟩
    · rw [hfailed] at hp
      cases hp
  · rcases hrun with ⟨p', hp', -⟩ | ⟨hfailed, m, hm, hdecides⟩
    · rw [hp'] at he
      cases he
    · have hall := Matcher.runAll_eq_ite (x := x) h ms 0 log
      have hnot : ¬ ms.all (x.decides ctx) = true := fun hyes => by
        rw [List.all_eq_true.1 hyes m hm] at hdecides
        cases hdecides
      obtain rfl := Except.error.inj (hfailed.symm.trans he)
      rw [if_neg hnot, Matcher.prepareFront_zero] at hall
      rw [hall]
      rfl
  · rcases hrun with ⟨p', hp', hfollows⟩ | ⟨hfailed, -⟩
    · obtain rfl := Except.ok.inj (hp'.symm.trans hp)
      exact isFinished_of_turns hfair hp hfollows.messages fun l hl =>
        Nat.le_trans (hfollows.looks l hl).past_le (x.visits_le ctx l.message)
    · rw [hfailed] at hp
      cases hp

/-- Messages side by side agree with those in order about a query that a message alone settles. -/
theorem agrees_of_isPlain {query : Option Query} {passes : Message → Bool}
    (hplain : IsPlain ctx query passes) :
    Agrees ctx query ms log (.ok (ms.map passes, query, log)) schedule := by
  obtain ⟨p', hp', hpasses⟩ := (passes_start query passes ms log).run hplain schedule
  refine ⟨fun p hp hfinished => ?_, fun e he => ?_, fun hfair p hp => ?_⟩
  · obtain rfl := Except.ok.inj (hp'.symm.trans hp)
    have hverdicts : ∀ l ∈ p'.looks, l.verdict = some (passes l.message) := fun l hl => by
      obtain ⟨v, hv⟩ := Option.isSome_iff_exists.1 (List.all_eq_true.1 hfinished l hl)
      rw [hv, (hpasses.looks l hl).2 v hv]
    refine ⟨ms.map passes, log, by rw [hpasses.query], ?_, ?_⟩
    · rw [← hpasses.messages]
      exact found_eq hverdicts
    · rw [hpasses.log]
  · rw [hp'] at he
    cases he
  · obtain rfl := Except.ok.inj (hp'.symm.trans hp)
    exact isFinished_of_turns hfair hp hpasses.messages fun l hl => by
      rw [(hpasses.looks l hl).1]
      exact Nat.zero_le _

end

end Pool

namespace Matcher

/-- What has been read of the patterns of a rule does not change its verdicts. -/
theorem map_runAll_congr (h : ctx.AnswersByCall answer) (ms : List Message) (log : CallLog)
    {x y : Matcher} (hconditions : y.conditions = x.conditions)
    (hcombinator : y.combinator = x.combinator) :
    (runAll ctx ms y log).map (·.1) = (runAll ctx ms x log).map (·.1) := by
  have hvisited : ∀ m, y.visited ctx m [] = x.visited ctx m [] := fun m => by
    rw [visited, visited, hconditions, hcombinator]
  have hdecides : y.decides ctx = x.decides ctx := funext fun m => by
    rw [decides, decides, hvisited]
  have hverdict : ∀ m, y.verdictOn ctx m = x.verdictOn ctx m := fun m => by
    rw [verdictOn, verdictOn, hconditions, hcombinator]
  have hx := runAll_eq_ite (x := x) h ms 0 log
  have hy := runAll_eq_ite (x := y) h ms 0 log
  rw [prepareFront_zero] at hx hy
  rw [hx, hy, hdecides]
  split
  · simp only [Except.map, hverdict]
  · rfl

end Matcher

namespace QuickSearch.Search

/-- A search that asks a rule looks at messages as the rule does. -/
theorem runAll_of_rule (ms : List Message) {s : Search} {x : Matcher}
    (h : s.query = some (.rule x)) (log : CallLog) :
    (s.runAll ctx ms log).map (fun (verdicts, s, log) => (verdicts, s.query, log)) =
      (Matcher.runAll ctx ms x log).map fun (verdicts, x, log) =>
        (verdicts, some (.rule x), log) := by
  induction ms generalizing s x log with
  | nil => simp [runAll, Matcher.runAll, h, Except.map]
  | cons m ms ih =>
    rw [runAll, run, h, Matcher.runAll]
    cases hrun : x.run ctx m log with
    | error e =>
      simp only [hrun]
      rfl
    | ok result =>
      obtain ⟨verdict, x', log'⟩ := result
      have hrest := ih (s := { s with query := some (.rule x') }) rfl log'
      simp only [hrun]
      cases hs : runAll ctx ms { s with query := some (.rule x') } log' <;>
        cases hx : Matcher.runAll ctx ms x' log' <;>
        simp_all [Except.map]

/-- A search that a message alone settles looks at the messages one by one. -/
theorem runAll_of_isPlain (ms : List Message) (log : CallLog) {s : Search}
    (passes : Message → Bool) (h : ∀ m log, s.run ctx m log = .ok (passes m, s, log)) :
    s.runAll ctx ms log = .ok (ms.map passes, s, log) := by
  induction ms with
  | nil => rfl
  | cons m ms ih =>
    rw [runAll, h]
    simp only [ih, List.map_cons]

end QuickSearch.Search

namespace Pool

/-- Messages side by side agree with those in order about a search. -/
theorem agrees_of_search (h : ctx.AnswersByCall answer) (ms : List Message) (log : CallLog)
    (schedule : List Nat) (s : Search) :
    Agrees ctx s.query ms log
      ((s.runAll ctx ms log).map fun (verdicts, s, log) => (verdicts, s.query, log)) schedule := by
  obtain ⟨raw, mode, query⟩ := s
  match query with
  | none =>
    rw [Search.runAll_of_isPlain ms log (fun _ => true) fun _ _ => rfl]
    exact agrees_of_isPlain fun _ _ => rfl
  | some (.contains field needle) =>
    rw [Search.runAll_of_isPlain ms log
      (fun m => (m.texts field).any (Comparison.plain.occurs needle)) fun _ _ => rfl]
    exact agrees_of_isPlain fun _ _ => rfl
  | some (.rule x) =>
    rw [Search.runAll_of_rule ms rfl]
    exact agrees_of_rule h x

/-- Messages side by side give what messages in order do, whatever the schedule is and whatever has
been read of the patterns before: the same messages are found, the same calls are made, and the same
is remembered of the patterns, if the runner answers by the call alone. Where one of them has no
verdict, the others have none either, and every schedule with enough turns comes to an end. -/
theorem agrees_with_order (h : ctx.AnswersByCall answer) (ms : List Message) (log : CallLog)
    (schedule : List Nat) :
    (∀ x : Matcher,
      Agrees ctx (some (.rule x)) ms log
        ((Matcher.runAll ctx ms x log).map fun (verdicts, x, log) =>
          (verdicts, some (.rule x), log)) schedule ∧
      ∀ y : Matcher, y.conditions = x.conditions → y.combinator = x.combinator →
        (Matcher.runAll ctx ms y log).map (·.1) = (Matcher.runAll ctx ms x log).map (·.1)) ∧
    ∀ s : Search,
      Agrees ctx s.query ms log
        ((s.runAll ctx ms log).map fun (verdicts, s, log) => (verdicts, s.query, log)) schedule :=
  ⟨fun x => ⟨agrees_of_rule h x, fun _ => Matcher.map_runAll_congr h ms log⟩,
    agrees_of_search h ms log schedule⟩

/-- Two messages take turns with one pattern, and the second one gets to its command first. -/
theorem agrees_with_order_crossed :
    let ctx : Context := ⟨⟨0, 0, 0⟩, fun _ _ => .exited 0, none⟩
    let patterned : Condition := ⟨false, .text .subject ⟨true, false⟩ "a"⟩
    let x : Matcher := ⟨[.ofCondition patterned, .ofCondition ⟨false, .command "log %s"⟩], .all⟩
    let ms : List Message := [{ subject := some "ab" }, { subject := some "ba" }]
    let schedule := [0, 1, 1, 0, 0, 1]
    ctx.AnswersByCall (fun _ => .exited 0) ∧
      (∀ i < ms.length, turns (some (.rule x)) < schedule.count i) ∧
      ((start (some (.rule x)) ms []).run ctx schedule).map
        (fun p => (p.found, p.log.map (·.command))) = .ok (ms, ["log ba", "log ab"]) ∧
      (Matcher.runAll ctx ms x []).map
        (fun (verdicts, _, log) => (verdicts, log.map (·.command))) =
        .ok ([true, true], ["log ab", "log ba"]) ∧
      Agrees ctx (some (.rule x)) ms []
        ((Matcher.runAll ctx ms x []).map fun (verdicts, x, log) =>
          (verdicts, some (.rule x), log)) schedule ∧
      (Matcher.runAll ctx ms (x.prepareFront 1) []).map (·.1) =
        (Matcher.runAll ctx ms x []).map (·.1) := by
  intro ctx patterned x ms schedule
  have hanswers : ctx.AnswersByCall fun _ => .exited 0 := fun _ _ => rfl
  obtain ⟨hagrees, hread⟩ := (agrees_with_order hanswers ms [] schedule).1 x
  exact ⟨hanswers, by decide, by decide +kernel, by decide +kernel, hagrees,
    hread _ (Matcher.conditions_prepareFront 1) rfl⟩

end Pool

end MailFilter
