import MailFilter.Proofs.SideBySide
import Mathlib.Logic.Relation

/-!
# Faults of Patterns

A condition can have a text for a pattern that is none (`Condition.IsBroken`). It never holds, and
the rule reports the fault once the condition has been looked at. Conditions behind one that settles
the verdict are not looked at, so whether the fault is reported depends on the messages and on the
conditions in front.

What conditions reply is followed here message by message: `Matcher.repliesInOrder` for messages one
after the other, and `Pool.repliesTo` for messages side by side. The replies may depend on all calls
before them. In both cases they go on until one of them settles the verdict (`IsSettled`), so a
condition is looked at exactly if none of those in front settles it.

## Main results

* `Condition.reply_of_isBroken`: a condition with a broken pattern does not hold, negated or not.
* `Matcher.runAll_eq_prepareFront`: what is remembered after messages one after the other.
* `Pool.isSettled_of_run`: what is remembered after messages side by side.
* `Matcher.hasFault_of_looks`: a fault that is reported stays reported.
* `Matcher.looks_of_runAll`, `Pool.looks_of_run`: in both cases conditions are looked at one after
  the other.
* `Rule.hasFault_iff_meets`: a fault is reported exactly if a message meets a broken pattern.
-/

namespace MailFilter

open CommandTemplate (Fault)
open QuickSearch (Query)
open Relation (ReflTransGen)

variable {ctx : Context} {m : Message}

/-! ### Broken patterns -/

/-- Whether a condition has a text for a pattern that is none. -/
def Condition.IsBroken (c : Condition) : Prop := c.test.pattern? = some none

/-- A condition with a broken pattern does not hold, negated or not. -/
theorem Condition.reply_of_isBroken {c : Condition} (h : c.IsBroken) (ctx : Context) (m : Message)
    (log : CallLog) : c.reply ctx m log = false := by
  rw [IsBroken] at h
  cases htest : c.test with
  | text f how operand =>
    rw [htest, Test.pattern?] at h
    split at h
    · next hpattern =>
      rw [reply, htest, Test.holds?, if_pos hpattern, Option.some.inj h]
      rfl
    · cases h
  | status => rw [htest] at h; cases h
  | measure => rw [htest] at h; cases h
  | command => rw [htest] at h; cases h

namespace Probe

/-- A condition with a broken pattern can always be looked at, and does not hold. -/
theorem run_of_isBroken {p : Probe} (h : p.condition.IsBroken) (ctx : Context) (m : Message)
    (log : CallLog) : p.run ctx m log = .ok (false, p.prepare, log) := by
  have hnot : ∀ template, p.condition.test ≠ .command template := fun template htest => by
    rw [Condition.IsBroken, htest] at h
    cases h
  rw [run_eq_reply, Condition.reply_of_isBroken h, Condition.calls_of_not_command hnot,
    List.append_nil, if_pos (Test.isFillable_iff.2 fun template htest => absurd htest (hnot _))]

/-- Once a condition is prepared, a fault is reported exactly if its pattern is broken. -/
theorem isFaulty_prepare {p : Probe} : p.prepare.isFaulty = true ↔ p.condition.IsBroken := by
  rw [isFaulty, tried_prepare, Condition.IsBroken]
  cases p.condition.test.pattern? with
  | none => simp
  | some pattern => cases pattern <;> simp

/-- A condition that is prepared once more still reports its fault. -/
theorem isFaulty_prepare_of_isFaulty {p : Probe} (h : p.isFaulty = true) :
    p.prepare.isFaulty = true := by
  rw [isFaulty_prepare, Condition.IsBroken]
  rw [isFaulty] at h
  split at h
  · next htried => exact p.tried_eq none htried
  · cases h

end Probe

namespace Matcher

/-- Which faults are reported once the first conditions of a rule have been looked at. -/
theorem hasFault_prepareFront (r : Rule) (n : Nat) :
    ((ofRule r).prepareFront n).hasFault = true ↔
      ∃ j c, j < n ∧ r.conditions[j]? = some c ∧ c.IsBroken := by
  rw [hasFault, prepareFront, List.any_eq_true]
  simp only [List.mem_iff_getElem?, Probe.getElem?_prepareFront]
  have hplace : ∀ j, (ofRule r).probes[j]? = r.conditions[j]?.map Probe.ofCondition :=
    fun j => by
    rw [ofRule, List.getElem?_map]
  constructor
  · rintro ⟨p, ⟨j, hp⟩, hfaulty⟩
    rw [hplace] at hp
    split at hp
    · next hj =>
      rw [Option.map_map] at hp
      obtain ⟨c, hc, rfl⟩ := Option.map_eq_some_iff.1 hp
      exact ⟨j, c, hj, hc, Probe.isFaulty_prepare.1 hfaulty⟩
    · -- nothing is reported of a condition that has not been looked at
      obtain ⟨c, -, rfl⟩ := Option.map_eq_some_iff.1 hp
      cases hfaulty
  · rintro ⟨j, c, hj, hc, hbroken⟩
    refine ⟨(Probe.ofCondition c).prepare, ⟨j, ?_⟩, Probe.isFaulty_prepare.2 hbroken⟩
    rw [if_pos hj, hplace, hc]
    rfl

end Matcher

/-! ### Replies up to the one that settles the verdict -/

/-- Replies of the first of `n` conditions, up to the first one that is `stop`. -/
structure IsSettled (stop : Bool) (n : Nat) (replies : List Bool) : Prop where
  undecided : stop ∉ replies.dropLast
  settled : replies.length < n → replies.getLast? = some stop

/-- A condition has replied exactly if none of those in front has settled the verdict. -/
theorem IsSettled.lt_length_iff {stop : Bool} {n j : Nat} {replies : List Bool}
    (h : IsSettled stop n replies) (hj : j < n) :
    j < replies.length ↔ ∀ k < j, replies[k]? = some !stop := by
  constructor
  · intro hlt k hk
    have hk' : k < replies.dropLast.length := by rw [List.length_dropLast]; omega
    have hne : replies.dropLast[k] ≠ stop := fun heq => h.undecided (heq ▸ List.getElem_mem hk')
    rw [List.getElem_dropLast] at hne
    rw [List.getElem?_eq_getElem (by omega), Option.some.injEq]
    exact Bool.eq_not_of_ne hne
  · intro hall
    by_contra hle
    have hlast := h.settled (by omega)
    rw [List.getLast?_eq_getElem?] at hlast
    have hnonempty : replies ≠ [] := by
      rintro rfl
      cases hlast
    have hlength := List.length_pos_iff.2 hnonempty
    rw [hall _ (by omega)] at hlast
    exact absurd (Option.some.inj hlast) (by simp)

/-- A number is below the furthest of some numbers exactly if it is below one of them. -/
theorem Matcher.lt_furthest_iff {ns : List Nat} {j : Nat} :
    j < furthest ns ↔ ∃ n ∈ ns, j < n := by
  induction ns with
  | nil => simp [furthest]
  | cons n ns ih =>
    have hmax : j < furthest (n :: ns) ↔ j < n ∨ j < furthest ns := by
      simp only [furthest, List.foldr_cons]
      omega
    rw [hmax, ih]
    simp

/-- Whether one of the messages whose conditions gave these replies has met a condition with a
broken pattern: all conditions in front of that one have replied what settles nothing. -/
def Rule.Meets (r : Rule) (replies : List (List Bool)) : Prop :=
  ∃ given ∈ replies, ∃ (j : Nat) (c : Condition), r.conditions[j]? = some c ∧ c.IsBroken ∧
    ∀ k < j, given[k]? = some !r.combinator.decisive

/-- What a rule reports that remembers what the message that got furthest has read. -/
theorem Rule.hasFault_iff_of_isSettled {r : Rule} {replies : List (List Bool)}
    (h : ∀ given ∈ replies, IsSettled r.combinator.decisive r.conditions.length given) :
    ((Matcher.ofRule r).prepareFront (Matcher.furthest (replies.map List.length))).hasFault = true ↔
      r.Meets replies := by
  rw [Matcher.hasFault_prepareFront, Meets]
  simp only [Matcher.lt_furthest_iff, List.mem_map]
  constructor
  · rintro ⟨j, c, ⟨_, ⟨given, hgiven, rfl⟩, hlt⟩, hc, hbroken⟩
    have hj := (List.getElem?_eq_some_iff.1 hc).1
    exact ⟨given, hgiven, j, c, hc, hbroken, ((h given hgiven).lt_length_iff hj).1 hlt⟩
  · rintro ⟨given, hgiven, j, c, hc, hbroken, hfront⟩
    have hj := (List.getElem?_eq_some_iff.1 hc).1
    exact ⟨j, c, ⟨_, ⟨given, hgiven, rfl⟩, ((h given hgiven).lt_length_iff hj).2 hfront⟩, hc,
      hbroken⟩

/-! ### Messages one after the other -/

namespace Condition

/-- Every condition replies. -/
theorem length_replies (ctx : Context) (m : Message) (log : CallLog) (cs : List Condition) :
    (replies ctx m log cs).length = cs.length := by
  induction cs generalizing log with
  | nil => rfl
  | cons c cs ih => rw [replies, List.length_cons, List.length_cons, ih]

/-- The conditions that are looked at for a message reply up to the one that settles the verdict. -/
theorem isSettled_replies (ctx : Context) (m : Message) (stop : Bool) (log : CallLog)
    (cs : List Condition) :
    IsSettled stop cs.length (replies ctx m log (visited ctx m stop log cs)) := by
  refine ⟨(visited_spec stop log cs).2.1, fun hlt => (visited_spec stop log cs).2.2 fun hall => ?_⟩
  rw [hall, length_replies] at hlt
  exact Nat.lt_irrefl _ hlt

end Condition

namespace Matcher

/-- What the conditions reply that are looked at, for each of the messages one after the other. -/
def repliesInOrder (ctx : Context) (x : Matcher) : CallLog → List Message → List (List Bool)
  | _, [] => []
  | log, m :: ms =>
    let seen := x.visited ctx m log
    Condition.replies ctx m log seen ::
      repliesInOrder ctx x (log ++ seen.flatMap (Condition.calls ctx m)) ms

/-- For every message the conditions reply up to the one that settles the verdict. -/
theorem isSettled_of_mem_repliesInOrder {x : Matcher} {log : CallLog} {ms : List Message}
    {given : List Bool} (h : given ∈ x.repliesInOrder ctx log ms) :
    IsSettled x.combinator.decisive x.conditions.length given := by
  induction ms generalizing log with
  | nil => cases h
  | cons m ms ih =>
    rcases List.mem_cons.1 h with rfl | h
    · exact Condition.isSettled_replies ctx m _ log _
    · exact ih h

/-- Messages one after the other leave behind what the one that got furthest has read. -/
theorem runAll_eq_prepareFront {x x' : Matcher} {n : Nat} {ms : List Message}
    {verdicts : List Bool} {log log' : CallLog}
    (h : runAll ctx ms (x.prepareFront n) log = .ok (verdicts, x', log')) :
    x' = x.prepareFront (max n (furthest ((x.repliesInOrder ctx log ms).map List.length))) := by
  induction ms generalizing n verdicts log with
  | nil =>
    cases h
    simp [repliesInOrder, furthest]
  | cons m ms ih =>
    rw [runAll, run_eq_ite, visited_prepareFront] at h
    split at h
    · cases h
    · next hrun =>
      split at hrun
      · cases hrun
        split at h
        · cases h
        · next hrest =>
          cases h
          rw [prepareFront_prepareFront] at hrest
          rw [ih hrest, repliesInOrder, List.map_cons, Condition.length_replies, furthest,
            furthest, List.foldr_cons, Nat.max_assoc]
      · cases hrun

end Matcher

/-! ### Messages side by side -/

/-- How a message has gone on from `l` to `l'` while conditions gave these replies for it. -/
structure Look.Goes (x : Matcher) (l l' : Look) (given : List Bool) : Prop where
  past : l'.past = l.past + given.length
  still : l.verdict.isSome = true → given = [] ∧ l'.verdict.isSome = true
  undecided : x.combinator.decisive ∉ given.dropLast
  unsettled : l'.verdict = none → x.combinator.decisive ∉ given
  settled : l.verdict = none → l'.verdict.isSome = true →
    given.getLast? = some x.combinator.decisive ∨ x.conditions.length ≤ l'.past

namespace Look

variable {x : Matcher} {l l₁ l' : Look} {given given' : List Bool}

/-- A message that stays where it is. -/
theorem Goes.refl (x : Matcher) (l : Look) : Goes x l l [] where
  past := rfl
  still hsome := ⟨rfl, hsome⟩
  undecided := by simp
  unsettled _ := by simp
  settled hnone hsome := by simp [hnone] at hsome

/-- A message goes on, and then further on. -/
theorem Goes.trans (h : Goes x l l₁ given) (h' : Goes x l₁ l' given') :
    Goes x l l' (given ++ given') := by
  have hopen : l₁.verdict.isSome = true ∨ l₁.verdict = none := by cases l₁.verdict <;> simp
  rcases hopen with hsome | hnone
  · -- once its verdict is settled, nothing is asked about it any more
    obtain ⟨rfl, hsome'⟩ := h'.still hsome
    have hpast : l'.past = l₁.past := h'.past
    rw [List.append_nil]
    exact ⟨hpast.trans h.past, fun hl => ⟨(h.still hl).1, hsome'⟩, h.undecided,
      fun hopen => by simp [hopen] at hsome', fun hl _ => hpast ▸ h.settled hl hsome⟩
  · have hfront := h.unsettled hnone
    refine ⟨by rw [h'.past, h.past, List.length_append, Nat.add_assoc], fun hl => ?_, ?_,
      fun hopen => ?_, fun hl hsome => ?_⟩
    · have hsome := (h.still hl).2
      simp [hnone] at hsome
    · cases hgiven : given' with
      | nil => exact fun hmem => hfront (List.dropLast_subset _ (by simpa using hmem))
      | cons v vs =>
        rw [List.dropLast_append_of_ne_nil (by simp), List.mem_append, not_or]
        exact ⟨hfront, hgiven ▸ h'.undecided⟩
    · rw [List.mem_append, not_or]
      exact ⟨hfront, h'.unsettled hopen⟩
    · refine (h'.settled hnone hsome).imp_left fun hlast => ?_
      rw [List.getLast?_append, hlast]
      rfl

/-- The replies for a message that had not been looked at before, once its verdict is settled. -/
theorem Goes.isSettled (h : Goes x { message := m } l' given) (hsome : l'.verdict.isSome = true) :
    IsSettled x.combinator.decisive x.conditions.length given := by
  refine ⟨h.undecided, fun hlt => (h.settled rfl hsome).resolve_right fun hall => ?_⟩
  have hpast := h.past
  simp only [Nat.zero_add] at hpast
  omega

/-- A message finds that there are no more conditions, or looks at its next one. The rule remembers
what has been read of it. -/
theorem next_cases {x' : Matcher} {n : Nat} {log log' : CallLog} (hn : l.past ≤ n)
    (h : l.next ctx (x.prepareFront n) log = .ok (l', x', log')) :
    x.conditions.length ≤ l.past ∧ l' = { l with verdict := some !x.combinator.decisive } ∧
        x' = x.prepareFront n ∨
      ∃ c, x.conditions[l.past]? = some c ∧ x' = x.prepareFront (max n (l.past + 1)) ∧
        l' = { l with
          past := l.past + 1
          verdict := if c.reply ctx l.message log = x.combinator.decisive then
            some (c.reply ctx l.message log) else none } := by
  have hconditions := x.conditions_prepareFront n
  rw [next, Matcher.combinator_prepareFront] at h
  split at h
  · next hprobe =>
    cases h
    refine .inl ⟨?_, rfl, rfl⟩
    rw [← hconditions, Matcher.conditions, List.length_map]
    exact List.getElem?_eq_none_iff.1 hprobe
  · next q hprobe =>
    have hc : x.conditions[l.past]? = some q.condition := by
      rw [← hconditions, Matcher.conditions, List.getElem?_map, hprobe, Option.map_some]
    have hset : (x.prepareFront n).probes.set l.past q.prepare = _ :=
      Probe.set_prepareFront hn hprobe
    rw [Probe.run_eq_reply] at h
    split at h
    · cases h
    · next hrun =>
      split at hrun
      · cases hrun
        cases h
        exact .inr ⟨q.condition, hc, by rw [hset]; rfl, rfl⟩
      · cases hrun

end Look

namespace Pool

variable {x : Matcher} {p p' : Pool}

/-- What the condition replies that the message at a place looks at next, if it looks at one. -/
def reply? (ctx : Context) (x : Matcher) (p : Pool) (i : Nat) : Option Bool :=
  p.looks[i]?.bind fun l =>
    if l.verdict.isSome then none
    else x.conditions[l.past]?.map fun c => c.reply ctx l.message p.log

/-- What the conditions reply, in the steps of a schedule, that are looked at for the message at a
place. -/
def repliesTo (ctx : Context) (x : Matcher) (i : Nat) : List Nat → Pool → List Bool
  | [], _ => []
  | k :: schedule, p =>
    match p.step ctx k with
    | .error _ => []
    | .ok p' => (if k = i then (p.reply? ctx x i).toList else []) ++ repliesTo ctx x i schedule p'

/-- A pool that asks a rule, which remembers what the message that got furthest has read. -/
def Asks (x : Matcher) (p : Pool) : Prop :=
  p.query = some (.rule (x.prepareFront (Matcher.furthest (p.looks.map (·.past)))))

/-- What a step does to a message: nothing, or it finds that there are no more conditions, or it
looks at its next one. -/
theorem step_cases {i : Nat} (hp : p.Asks x) (h : p.step ctx i = .ok p') :
    p' = p ∧ p.reply? ctx x i = none ∧ (∀ l, p.looks[i]? = some l → l.verdict.isSome = true) ∨
    ∃ l, p.looks[i]? = some l ∧ l.verdict = none ∧
      ((x.conditions.length ≤ l.past ∧ p.reply? ctx x i = none ∧
        p'.looks = p.looks.set i { l with verdict := some !x.combinator.decisive } ∧
        p'.query = p.query) ∨
      ∃ v, p.reply? ctx x i = some v ∧ l.past < x.conditions.length ∧
        p'.looks = p.looks.set i { l with
          past := l.past + 1
          verdict := if v = x.combinator.decisive then some v else none } ∧
        p'.query = some (.rule (x.prepareFront
          (max (Matcher.furthest (p.looks.map (·.past))) (l.past + 1))))) := by
  rw [step] at h
  rw [reply?]
  cases hl : p.looks[i]? with
  | none =>
    rw [hl] at h
    cases h
    exact .inl ⟨rfl, rfl, by simp⟩
  | some l =>
    rw [hl] at h
    cases hverdict : l.verdict with
    | some v =>
      simp only [hverdict, Option.isSome_some, if_true] at h
      cases h
      exact .inl ⟨rfl, by simp [hverdict], by simp [hverdict]⟩
    | none =>
      simp only [hverdict, Option.isSome_none, Bool.false_eq_true, if_false] at h
      obtain ⟨⟨l', query', log'⟩, hstep, rfl⟩ := map_ok_iff.1 h
      rw [show p.query = _ from hp, Look.step] at hstep
      obtain ⟨⟨l₁, x₁, log₁⟩, hnext, heq⟩ := map_ok_iff.1 hstep
      cases heq
      refine .inr ⟨l, rfl, hverdict, ?_⟩
      simp only [Option.bind_some, hverdict, Option.isSome_none, Bool.false_eq_true, if_false]
      have hpast : l.past ≤ Matcher.furthest (p.looks.map (·.past)) :=
        le_furthest (List.mem_map_of_mem (List.mem_of_getElem? hl))
      rcases Look.next_cases hpast hnext with ⟨hall, rfl, rfl⟩ | ⟨c, hc, rfl, rfl⟩
      · exact .inl ⟨hall, by rw [List.getElem?_eq_none_iff.2 hall]; rfl, rfl, hp.symm⟩
      · exact .inr ⟨_, by rw [hc]; rfl, (List.getElem?_eq_some_iff.1 hc).1, rfl, rfl⟩

/-- Whatever the schedule is, the rule remembers what the message that got furthest has read. -/
theorem Asks.step {i : Nat} (hp : p.Asks x) (h : p.step ctx i = .ok p') : p'.Asks x := by
  rcases step_cases hp h with ⟨rfl, -, -⟩ | ⟨l, hl, -, ⟨-, -, hlooks, hquery⟩ |
    ⟨v, -, -, hlooks, hquery⟩⟩
  · exact hp
  · have hplace : (p.looks.map (·.past))[i]? = some l.past := by rw [List.getElem?_map, hl]; rfl
    rw [Asks, hquery, hp, hlooks, List.map_set, furthest_set hplace (Nat.le_refl _),
      Nat.max_eq_left (le_furthest (List.mem_of_getElem? hplace))]
  · have hplace : (p.looks.map (·.past))[i]? = some l.past := by rw [List.getElem?_map, hl]; rfl
    rw [Asks, hquery, hlooks, List.map_set, furthest_set hplace (Nat.le_succ _)]

/-- A step of some message keeps the number of messages. -/
theorem Asks.length_looks {i : Nat} (hp : p.Asks x) (h : p.step ctx i = .ok p') :
    p'.looks.length = p.looks.length := by
  rcases step_cases hp h with ⟨rfl, -, -⟩ | ⟨l, -, -, ⟨-, -, hlooks, -⟩ | ⟨v, -, -, hlooks, -⟩⟩
  · rfl
  · rw [hlooks, List.length_set]
  · rw [hlooks, List.length_set]

/-- Where a message is after a step of some message. -/
theorem Asks.goes {i j : Nat} {l : Look} (hp : p.Asks x) (h : p.step ctx i = .ok p')
    (hl : p.looks[j]? = some l) :
    ∃ l', p'.looks[j]? = some l' ∧
      l.Goes x l' (if i = j then (p.reply? ctx x j).toList else []) := by
  by_cases hij : i = j
  · subst hij
    have hi := (List.getElem?_eq_some_iff.1 hl).1
    rw [if_pos rfl]
    rcases step_cases hp h with ⟨rfl, hreply, -⟩ | ⟨l₁, hl₁, hnone, ⟨hall, hreply, hlooks, -⟩ |
      ⟨v, hreply, hlt, hlooks, -⟩⟩
    · exact ⟨l, hl, by rw [hreply]; exact .refl x l⟩
    · obtain rfl := Option.some.inj (hl.symm.trans hl₁)
      refine ⟨_, by rw [hlooks, List.getElem?_set_self hi], ?_⟩
      rw [hreply]
      exact ⟨rfl, fun hsome => by simp [hnone] at hsome, by simp, by simp, fun _ _ => .inr hall⟩
    · obtain rfl := Option.some.inj (hl.symm.trans hl₁)
      refine ⟨_, by rw [hlooks, List.getElem?_set_self hi], ?_⟩
      rw [hreply]
      refine ⟨rfl, fun hsome => by simp [hnone] at hsome, by simp, fun hopen => ?_,
        fun _ hsome => .inl ?_⟩
      · by_cases hv : v = x.combinator.decisive
        · simp [hv] at hopen
        · simpa using Ne.symm hv
      · by_cases hv : v = x.combinator.decisive
        · simp [hv]
        · simp [hv] at hsome
  · rw [if_neg hij]
    rcases step_cases hp h with ⟨rfl, -, -⟩ | ⟨l₁, hl₁, -, ⟨-, -, hlooks, -⟩ | ⟨v, -, -, hlooks, -⟩⟩
    · exact ⟨l, hl, .refl x l⟩
    · exact ⟨l, by rw [hlooks, List.getElem?_set_ne hij, hl], .refl x l⟩
    · exact ⟨l, by rw [hlooks, List.getElem?_set_ne hij, hl], .refl x l⟩

/-- Where all messages are after the steps of a schedule, and what the rule remembers then. -/
theorem Asks.run {schedule : List Nat} (hp : p.Asks x) (h : p.run ctx schedule = .ok p') :
    p'.Asks x ∧ p'.looks.length = p.looks.length ∧
      ∀ (j : Nat) (l : Look), p.looks[j]? = some l → ∃ l', p'.looks[j]? = some l' ∧
        l.Goes x l' (p.repliesTo ctx x j schedule) := by
  induction schedule generalizing p with
  | nil =>
    cases h
    exact ⟨hp, rfl, fun j l hl => ⟨l, hl, .refl x l⟩⟩
  | cons i schedule ih =>
    rw [Pool.run] at h
    split at h
    · cases h
    · next p₁ hstep =>
      obtain ⟨hasks, hlength, hrest⟩ := ih (hp.step hstep) h
      refine ⟨hasks, hlength.trans (hp.length_looks hstep), fun j l hl => ?_⟩
      obtain ⟨l₁, hl₁, hgoes⟩ := hp.goes hstep hl
      obtain ⟨l', hl', hgoes'⟩ := hrest j l₁ hl₁
      refine ⟨l', hl', ?_⟩
      rw [repliesTo, hstep]
      exact hgoes.trans hgoes'

/-- The replies for each of several messages in the steps of a schedule. -/
def repliesToAll (ctx : Context) (x : Matcher) (ms : List Message) (log : CallLog)
    (schedule : List Nat) : List (List Bool) :=
  (List.range ms.length).map fun i =>
    (start (some (.rule x)) ms log).repliesTo ctx x i schedule

/-- Once the verdicts on all messages are settled, the conditions have replied up to the one that
settles the verdict, for every message, and the rule remembers what the one that got furthest has
read. -/
theorem isSettled_of_run {ms : List Message} {log : CallLog} {schedule : List Nat}
    (h : (start (some (.rule x)) ms log).run ctx schedule = .ok p)
    (hfinished : p.isFinished = true) :
    (∀ given ∈ repliesToAll ctx x ms log schedule,
      IsSettled x.combinator.decisive x.conditions.length given) ∧
    p.query = some (.rule (x.prepareFront
      (Matcher.furthest ((repliesToAll ctx x ms log schedule).map List.length)))) := by
  obtain ⟨hasks, hlength, hgoes⟩ := Asks.run (follows_start ctx x ms log).query h
  have hlook : ∀ i, i < ms.length → ∃ m l, p.looks[i]? = some l ∧
      Look.Goes x { message := m } l ((start (some (.rule x)) ms log).repliesTo ctx x i schedule) :=
    fun i hi => by
      obtain ⟨l, hl, hgoes⟩ := hgoes i { message := ms[i] } (by simp [start, hi])
      exact ⟨ms[i], l, hl, hgoes⟩
  constructor
  · intro given hgiven
    obtain ⟨i, hi, rfl⟩ := List.mem_map.1 hgiven
    obtain ⟨m, l, hl, hgoes⟩ := hlook i (List.mem_range.1 hi)
    exact hgoes.isSettled (List.all_eq_true.1 hfinished l (List.mem_of_getElem? hl))
  · have hlength : p.looks.length = ms.length := hlength.trans (by simp [start])
    have hpast : p.looks.map (·.past) = (repliesToAll ctx x ms log schedule).map List.length := by
      refine List.ext_getElem? fun i => ?_
      by_cases hi : i < ms.length
      · obtain ⟨m, l, hl, hgoes⟩ := hlook i hi
        have hlast := hgoes.past
        simp only [Nat.zero_add] at hlast
        simp [hl, repliesToAll, hi, hlast]
      · simp [repliesToAll, hi, hlength]
    rw [← hpast]
    exact hasks

end Pool

/-! ### Faults that are reported -/

namespace Matcher

/-- One condition of a rule in use is looked at once more, for some message and after some calls. -/
inductive Looks : Matcher → Matcher → Prop
  | look {x : Matcher} {i : Nat} {p p' : Probe} {ctx : Context} {m : Message}
      {log log' : CallLog} {verdict : Bool} : x.probes[i]? = some p →
      p.run ctx m log = .ok (verdict, p', log') → Looks x { x with probes := x.probes.set i p' }

/-- A fault that is reported stays reported, whatever conditions are looked at. -/
theorem hasFault_of_looks {x y : Matcher} (h : ReflTransGen Looks x y) (hx : x.hasFault = true) :
    y.hasFault = true := by
  induction h with
  | refl => exact hx
  | tail _ hlook ih =>
    obtain ⟨hp, hrun⟩ := hlook
    rename_i z i p p' ctx m log log' verdict
    rw [Probe.run_eq_reply] at hrun
    split at hrun
    · cases hrun
      rw [hasFault, List.any_eq_true] at ih ⊢
      obtain ⟨q, hq, hfaulty⟩ := ih
      obtain ⟨j, hj⟩ := List.mem_iff_getElem?.1 hq
      by_cases hij : i = j
      · subst hij
        obtain rfl := Option.some.inj (hp.symm.trans hj)
        exact ⟨p.prepare, List.mem_iff_getElem?.2 ⟨i, by
          rw [List.getElem?_set_self (List.getElem?_eq_some_iff.1 hp).1]⟩,
          Probe.isFaulty_prepare_of_isFaulty hfaulty⟩
      · exact ⟨q, List.mem_iff_getElem?.2 ⟨j, by rw [List.getElem?_set_ne hij, hj]⟩, hfaulty⟩
    · cases hrun

/-- Conditions behind others are looked at one after the other. -/
theorem looks_of_runUntil {combinator : Combinator} {stop verdict : Bool} {ps ps' : List Probe}
    {log log' : CallLog} (front : List Probe)
    (h : Probe.runUntil ctx m stop ps log = .ok (verdict, ps', log')) :
    ReflTransGen Looks ⟨front ++ ps, combinator⟩ ⟨front ++ ps', combinator⟩ := by
  induction ps generalizing front verdict ps' log with
  | nil =>
    cases h
    exact .refl
  | cons p ps ih =>
    rw [Probe.runUntil] at h
    split at h
    · cases h
    · next v p' log₁ hp =>
      have hlook : Looks ⟨front ++ p :: ps, combinator⟩ ⟨front ++ p' :: ps, combinator⟩ := by
        have hplace : (front ++ p :: ps)[front.length]? = some p := by simp
        have hset : (front ++ p :: ps).set front.length p' = front ++ p' :: ps := by simp
        have hlook := Looks.look (x := ⟨front ++ p :: ps, combinator⟩) hplace hp
        rwa [hset] at hlook
      split at h
      · cases h
        exact .single hlook
      · split at h
        · cases h
        · next hrest =>
          cases h
          have hlooks := ih (front ++ [p']) hrest
          rw [List.append_assoc, List.append_assoc] at hlooks
          exact .head hlook hlooks

/-- An evaluation looks at conditions one after the other. -/
theorem looks_of_run {x y : Matcher} {log log' : CallLog} {verdict : Bool}
    (h : x.run ctx m log = .ok (verdict, y, log')) : ReflTransGen Looks x y := by
  rw [run] at h
  split at h
  · cases h
  · next hrun =>
    cases h
    exact looks_of_runUntil [] hrun

/-- Messages one after the other look at conditions one after the other. -/
theorem looks_of_runAll {x y : Matcher} {ms : List Message} {log log' : CallLog}
    {verdicts : List Bool} (h : runAll ctx ms x log = .ok (verdicts, y, log')) :
    ReflTransGen Looks x y := by
  induction ms generalizing x log verdicts with
  | nil =>
    cases h
    exact .refl
  | cons m ms ih =>
    rw [runAll] at h
    split at h
    · cases h
    · next hrun =>
      split at h
      · cases h
      · next hrest =>
        cases h
        exact (looks_of_run hrun).trans (ih hrest)

end Matcher

/-- Messages side by side look at conditions one after the other, too. -/
theorem Pool.looks_of_run {p p' : Pool} {x : Matcher} {schedule : List Nat}
    (h : p.run ctx schedule = .ok p') (hx : p.query = some (.rule x)) :
    ∃ y, p'.query = some (.rule y) ∧ ReflTransGen Matcher.Looks x y := by
  induction schedule generalizing p x with
  | nil =>
    cases h
    exact ⟨x, hx, .refl⟩
  | cons i schedule ih =>
    rw [Pool.run] at h
    split at h
    · cases h
    · next p₁ hstep =>
      obtain ⟨x₁, hx₁, hlooks⟩ :
          ∃ y, p₁.query = some (.rule y) ∧ ReflTransGen Matcher.Looks x y := by
        rw [step] at hstep
        split at hstep
        · cases hstep
          exact ⟨x, hx, .refl⟩
        · split at hstep
          · cases hstep
            exact ⟨x, hx, .refl⟩
          · obtain ⟨⟨l', query', log'⟩, hlook, rfl⟩ := map_ok_iff.1 hstep
            rw [hx, Look.step] at hlook
            obtain ⟨⟨l₁, x₁, log₁⟩, hnext, heq⟩ := map_ok_iff.1 hlook
            cases heq
            rw [Look.next] at hnext
            split at hnext
            · cases hnext
              exact ⟨x, rfl, .refl⟩
            · next q hplace =>
              split at hnext
              · cases hnext
              · next hrun =>
                cases hnext
                exact ⟨_, rfl, .single (.look hplace hrun)⟩
      obtain ⟨y, hy, hrest⟩ := ih h hx₁
      exact ⟨y, hy, hlooks.trans hrest⟩

/-! ### A runner that looks at the call alone -/

variable {answer : Call → Outcome}

/-- A condition is looked at exactly if none of those in front settles the verdict. -/
theorem Matcher.lt_visits_iff (h : ctx.AnswersByCall answer) {x : Matcher} {j : Nat} {c : Condition}
    (hc : x.conditions[j]? = some c) :
    j < x.visits ctx m ↔
      ∀ c' ∈ x.conditions.take j, c'.reply ctx m [] = !x.combinator.decisive := by
  constructor
  · intro hlt c' hc'
    obtain ⟨k, hk⟩ := List.mem_iff_getElem?.1 hc'
    rw [List.getElem?_take] at hk
    split at hk
    · next hkj =>
      have hsettled := Condition.isSettled_replies ctx m x.combinator.decisive [] x.conditions
      rw [Condition.replies_eq h] at hsettled
      have hreply := (hsettled.lt_length_iff (List.getElem?_eq_some_iff.1 hc).1).1
        (by rwa [List.length_map]) k hkj
      obtain ⟨behind, hbehind⟩ : Condition.visited ctx m x.combinator.decisive [] x.conditions <+:
        x.conditions := (Condition.visited_spec x.combinator.decisive [] x.conditions).1
      have hseen : k < (Condition.visited ctx m x.combinator.decisive [] x.conditions).length :=
        Nat.lt_trans hkj hlt
      rw [← hbehind, List.getElem?_append_left hseen] at hk
      rw [List.getElem?_map, hk] at hreply
      exact Option.some.inj hreply
    · cases hk
  · intro hall
    have hopen : ∀ c' ∈ x.conditions.take j, c'.reply ctx m [] ≠ x.combinator.decisive :=
      fun c' hc' => by simp [hall c' hc']
    obtain ⟨behind, hvisited, -⟩ := x.visited_of_getElem? h hopen hc
    have hj := (List.getElem?_eq_some_iff.1 hc).1
    rw [visits, hvisited, List.length_append, List.length_take, List.length_cons]
    omega

/-- Whether one of the messages meets a condition with a broken pattern, where the calls do not
change what conditions reply. -/
def Rule.MeetsAmong (ctx : Context) (ms : List Message) (r : Rule) : Prop :=
  ∃ m ∈ ms, ∃ (j : Nat) (c : Condition), r.conditions[j]? = some c ∧ c.IsBroken ∧
    ∀ c' ∈ r.conditions.take j, c'.reply ctx m [] = !r.combinator.decisive

/-- What a rule reports that remembers what the message that got furthest reads alone. -/
theorem Rule.hasFault_iff_meetsAmong (h : ctx.AnswersByCall answer) (ms : List Message) (r : Rule) :
    ((Matcher.ofRule r).prepareFront
      (Matcher.furthest (ms.map fun m => (Matcher.ofRule r).visits ctx m))).hasFault = true ↔
      r.MeetsAmong ctx ms := by
  have hconditions : (Matcher.ofRule r).conditions = r.conditions :=
    (Matcher.uses_ofRule r).conditions
  rw [Matcher.hasFault_prepareFront, MeetsAmong]
  simp only [Matcher.lt_furthest_iff, List.mem_map]
  constructor
  · rintro ⟨j, c, ⟨_, ⟨m, hm, rfl⟩, hlt⟩, hc, hbroken⟩
    rw [Matcher.lt_visits_iff h (by rwa [hconditions]), hconditions] at hlt
    exact ⟨m, hm, j, c, hc, hbroken, hlt⟩
  · rintro ⟨m, hm, j, c, hc, hbroken, hfront⟩
    refine ⟨j, c, ⟨_, ⟨m, hm, rfl⟩, ?_⟩, hc, hbroken⟩
    rwa [Matcher.lt_visits_iff h (by rwa [hconditions]), hconditions]

/-! ### What a rule reports -/

/-- After messages one after the other, and after messages side by side whatever the schedule was, a
rule that had not been used reports a fault exactly if one of the messages has met a condition with
a broken pattern, none of the conditions in front of which had settled the verdict. If the runner
looks at the call alone, what the conditions in front reply is what they reply alone. A fault that
is reported stays reported whatever conditions are looked at, and that is all that messages do, one
after the other or side by side. A condition with a broken pattern does not hold, negated or not. -/
theorem Rule.hasFault_iff_meets (r : Rule) (ctx : Context) (ms : List Message) (log : CallLog) :
    (∀ verdicts x log', Matcher.runAll ctx ms (.ofRule r) log = .ok (verdicts, x, log') →
      (x.hasFault = true ↔ r.Meets ((Matcher.ofRule r).repliesInOrder ctx log ms)) ∧
      ∀ answer, ctx.AnswersByCall answer → (x.hasFault = true ↔ r.MeetsAmong ctx ms)) ∧
    (∀ schedule p x, (Pool.start (some (.rule (.ofRule r))) ms log).run ctx schedule = .ok p →
      p.isFinished = true → p.query = some (.rule x) →
      (x.hasFault = true ↔ r.Meets (Pool.repliesToAll ctx (.ofRule r) ms log schedule)) ∧
      ∀ answer, ctx.AnswersByCall answer → (x.hasFault = true ↔ r.MeetsAmong ctx ms)) ∧
    (∀ x y, ReflTransGen Matcher.Looks x y → x.hasFault = true → y.hasFault = true) ∧
    (∀ ctx ms log verdicts log' x y, Matcher.runAll ctx ms x log = .ok (verdicts, y, log') →
      ReflTransGen Matcher.Looks x y) ∧
    (∀ ctx schedule (p p' : Pool) x, p.run ctx schedule = .ok p' → p.query = some (.rule x) →
      ∃ y, p'.query = some (.rule y) ∧ ReflTransGen Matcher.Looks x y) ∧
    ∀ p : Probe, p.condition.IsBroken → ∀ ctx m log,
      p.run ctx m log = .ok (false, p.prepare, log) := by
  have hconditions : (Matcher.ofRule r).conditions = r.conditions :=
    (Matcher.uses_ofRule r).conditions
  -- a runner that looks at the call alone leaves behind what `runAll_eq_ite` says
  have hamong : ∀ verdicts x log' answer,
      Matcher.runAll ctx ms (.ofRule r) log = .ok (verdicts, x, log') →
      ctx.AnswersByCall answer → (x.hasFault = true ↔ r.MeetsAmong ctx ms) := by
    intro verdicts x log' answer hrun hanswer
    have hall := Matcher.runAll_eq_ite (x := .ofRule r) hanswer ms 0 log
    rw [Matcher.prepareFront_zero, hrun] at hall
    split at hall
    · cases hall
      rw [Nat.zero_max]
      exact Rule.hasFault_iff_meetsAmong hanswer ms r
    · cases hall
  refine ⟨fun verdicts x log' hrun => ⟨?_, fun answer => hamong verdicts x log' answer hrun⟩,
    fun schedule p x hrun hfinished hquery => ⟨?_, fun answer hanswer => ?_⟩,
    fun _ _ => Matcher.hasFault_of_looks, fun _ _ _ _ _ _ _ => Matcher.looks_of_runAll,
    fun _ _ _ _ _ => Pool.looks_of_run, fun p hbroken => Probe.run_of_isBroken hbroken⟩
  · have hread := Matcher.runAll_eq_prepareFront (x := .ofRule r) (n := 0)
      (by rwa [Matcher.prepareFront_zero])
    rw [Nat.zero_max] at hread
    rw [hread]
    exact Rule.hasFault_iff_of_isSettled fun given hgiven =>
      hconditions ▸ Matcher.isSettled_of_mem_repliesInOrder hgiven
  · obtain ⟨hsettled, hread⟩ := Pool.isSettled_of_run hrun hfinished
    rw [hquery, Option.some.injEq, Query.rule.injEq] at hread
    rw [hread]
    exact Rule.hasFault_iff_of_isSettled fun given hgiven => hconditions ▸ hsettled given hgiven
  · obtain ⟨verdicts, log', hone, -, -⟩ :=
      (Pool.agrees_of_rule hanswer (.ofRule r)).finished p hrun hfinished
    obtain ⟨⟨verdicts', x', log''⟩, hall, heq⟩ := map_ok_iff.1 hone
    rw [hquery] at heq
    cases heq
    exact hamong _ _ _ answer hall hanswer

/-- A broken pattern behind another condition is reported once a message has got past that one. -/
theorem Rule.hasFault_iff_meets_behind :
    let r : Rule :=
      ⟨[⟨false, .status .new⟩, ⟨true, .text .subject ⟨true, false⟩ "("⟩], .all, by simp⟩
    let ctx : Context := ⟨⟨0, 0, 0⟩, fun _ _ => .exited 0, none⟩
    let old : Message := {}
    let new : Message := { flags := { new := true } }
    (∃ x log, Matcher.runAll ctx [old, new] (.ofRule r) [] = .ok ([false, false], x, log) ∧
      x.hasFault = true ∧ r.Meets ((Matcher.ofRule r).repliesInOrder ctx [] [old, new])) ∧
    ∃ x log, Matcher.runAll ctx [old] (.ofRule r) [] = .ok ([false], x, log) ∧
      x.hasFault = false ∧ ¬ r.Meets ((Matcher.ofRule r).repliesInOrder ctx [] [old]) := by
  intro r ctx old new
  have hboth : (Matcher.runAll ctx [old, new] (.ofRule r) []).map
      (fun y => (y.1, y.2.1.hasFault)) = .ok ([false, false], true) := by decide +kernel
  have hold : (Matcher.runAll ctx [old] (.ofRule r) []).map
      (fun y => (y.1, y.2.1.hasFault)) = .ok ([false], false) := by decide +kernel
  constructor
  · obtain ⟨⟨verdicts, x, log⟩, hrun, heq⟩ := map_ok_iff.1 hboth
    obtain ⟨rfl, hfault⟩ := Prod.mk.inj heq
    exact ⟨x, log, hrun, hfault,
      ((Rule.hasFault_iff_meets r ctx [old, new] []).1 _ _ _ hrun).1.1 hfault⟩
  · obtain ⟨⟨verdicts, x, log⟩, hrun, heq⟩ := map_ok_iff.1 hold
    obtain ⟨rfl, hfault⟩ := Prod.mk.inj heq
    refine ⟨x, log, hrun, hfault, fun hmeets => ?_⟩
    have hreported := ((Rule.hasFault_iff_meets r ctx [old] []).1 _ _ _ hrun).1.2 hmeets
    rw [hfault] at hreported
    cases hreported

end MailFilter
