import MailFilter.Proofs.Evaluation
import MailFilter.Proofs.RoundTrip
import MailFilter.Proofs.Timestamps
import MailFilter.Proofs.Verdict

/-!
# Conditions on Measures

A condition on a measure compares a number of the message with its bound. It has a verdict on every
message, whatever the matcher remembers and whatever was run before (`Message.gets_measure`).

A size has more values than a bound, and is compared as the largest bound if it is greater than
that. All comparisons are exact but for one place: beside the largest bound itself, a greater size
passes for an equal one.

Ages grow. The whole days from an instant to another one are settled by the days of the two and by
which of them comes first in its day (`since_lt_iff`, `lt_since_iff`), and a leap second between
them changes nothing about that, although the difference itself may shrink when the day is over. The
exception is the leap second at the end of a day: it counts up to the end of that day and not
afterwards, so that a whole day can be seen in it that is not seen a moment later. This is to be
seen at midnight alone, and only for what happened at midnight (`LosesDay`, `IsAtMidnight`).

## Main results

* `Message.gets_size`: what is found of a size.
* `Calendar.Instant.daysSince_eq_seconds`: whole days can be counted in whole seconds.
* `Calendar.Instant.daysSince_mono`: the days since an instant do not become fewer, but at midnight.
* `Calendar.Instant.exists_daysSince_lt`: at midnight they do.
* `Message.gets_age_later`: what is old stays old, and what is not young stays so.
-/

namespace MailFilter

open Calendar (Instant)

/-! ### Rules of one measure -/

/-- The rule that asks for a measure and nothing else. -/
def Rule.ofMeasure (k : Measure) (bound : Int64) : Rule :=
  ⟨[⟨false, .measure k bound⟩], .all, List.cons_ne_nil _ _⟩

/-- The text of the rule that asks for a measure: its code, a blank and the bound. -/
def Measure.text (k : Measure) (bound : Int64) : String :=
  k.code ++ " " ++ String.ofList (Text.writeInt bound.toInt)

/-- A message gets a verdict from a text: the text is a rule, and every matcher that uses this rule
gives the verdict and calls nothing, whatever it remembers and whatever was called before. -/
def Message.Gets (m : Message) (ctx : Context) (text : String) (verdict : Bool) : Prop :=
  ∃ r, Rule.parse text = .ok r ∧ ∀ x : Matcher, x.Uses r → ∀ log,
    ∃ x', x.run ctx m log = .ok (verdict, x', log) ∧ x'.Uses r

/-- The text of a measure is read as its rule. -/
theorem Rule.parse_measure (k : Measure) (bound : Int64) :
    parse (k.text bound) = .ok (ofMeasure k bound) := by
  have htext : (ofMeasure k bound).text = k.text bound := by
    rw [text, Measure.text, ← String.toList_inj]
    simp [write, ofMeasure, Condition.write, Test.write, List.intercalate]
  have hwritable : (ofMeasure k bound).IsWritable :=
    isWritable_iff.2 ⟨by simp [ofMeasure, Test.IsWritable], .inr rfl⟩
  rw [← htext]
  exact parse_text_of_isWritable hwritable

section
variable {ctx : Context} {m : Message} {k : Measure} {bound : Int64}

/-- A matcher for a measure compares the measure. -/
theorem Matcher.run_measure (ctx : Context) (m : Message) {x : Matcher}
    (hx : x.Uses (.ofMeasure k bound)) (log : CallLog) :
    ∃ x', x.run ctx m log = .ok (m.measures ctx.now bound k, x', log) ∧
      x'.Uses (.ofMeasure k bound) := by
  obtain ⟨p, hprobes, hp⟩ := List.map_eq_singleton_iff.1 hx.conditions
  have hrun : p.run ctx m log = .ok (m.measures ctx.now bound k, p.prepare, log) := by
    rw [Probe.run_eq_reply, hp]
    simp [Test.isFillable, Condition.reply, Test.holds?, Condition.calls, Test.calls]
  refine ⟨{ x with probes := [p.prepare] }, ?_, ?_, hx.combinator⟩
  · rw [run, hprobes, hx.combinator, Probe.runUntil, hrun]
    cases m.measures ctx.now bound k <;> rfl
  · rw [List.map_singleton, Probe.condition_prepare, hp]
    rfl

/-- A message gets one verdict from a measure: whether the measure is as asked. -/
theorem Message.gets_measure {verdict : Bool} :
    m.Gets ctx (k.text bound) verdict ↔ m.measures ctx.now bound k = verdict := by
  constructor
  · rintro ⟨r, hparse, hr⟩
    obtain rfl : Rule.ofMeasure k bound = r :=
      Except.ok.inj ((Rule.parse_measure k bound).symm.trans hparse)
    obtain ⟨x, hrun, -⟩ := hr _ (Matcher.uses_ofRule _) []
    obtain ⟨x', hrun', -⟩ :=
      Matcher.run_measure ctx m (Matcher.uses_ofRule (.ofMeasure k bound)) []
    rw [hrun] at hrun'
    exact (Prod.mk.inj (Except.ok.inj hrun')).1.symm
  · rintro rfl
    exact ⟨_, Rule.parse_measure k bound, fun x hx log => Matcher.run_measure ctx m hx log⟩

end

/-! ### Sizes -/

namespace Message

/-- A size that passes for the largest bound although it is greater. -/
def IsBeyond (m : Message) (bound : Int64) : Prop :=
  bound = Int64.maxValue ∧ bound.toInt < m.size.toNat

instance (m : Message) (bound : Int64) : Decidable (m.IsBeyond bound) :=
  inferInstanceAs (Decidable (_ ∧ _))

/-- A size compares with a bound as it is, and beyond the largest bound as that bound. -/
theorem compare_clampedSize (m : Message) (bound : Int64) :
    compare m.clampedSize bound.toInt =
      if m.IsBeyond bound then .eq else compare (m.size.toNat : Int) bound.toInt := by
  have hbound : bound.toInt ≤ Int64.maxValue.toInt := bound.toInt_le
  split
  · next h =>
    obtain ⟨rfl, hlt⟩ := h
    rw [Int.compare_eq_eq, clampedSize]
    omega
  · next h =>
    by_cases hfits : (m.size.toNat : Int) ≤ Int64.maxValue.toInt
    · have hclamped : m.clampedSize = m.size.toNat := by
        rw [clampedSize]
        omega
      rw [hclamped]
    · -- the size is cut off, but what is left of it is still greater than the bound
      have hne : bound.toInt ≠ Int64.maxValue.toInt := by
        intro heq
        exact h ⟨Int64.toInt_inj.1 heq, by omega⟩
      have hcut : compare m.clampedSize bound.toInt = .gt := by
        rw [Int.compare_eq_gt, clampedSize]
        omega
      have hwhole : compare (m.size.toNat : Int) bound.toInt = .gt :=
        Int.compare_eq_gt.2 (by omega)
      rw [hcut, hwhole]

/-- What is found of a size, for every size and every bound. The condition for smaller sizes holds
exactly of the smaller ones. Those for greater and for equal sizes do so up to the sizes beyond the
largest bound, which pass for equal to it. -/
theorem gets_size (m : Message) (ctx : Context) (bound : Int64) :
    m.Gets ctx ((Measure.size .lt).text bound) (decide ((m.size.toNat : Int) < bound.toInt)) ∧
      m.Gets ctx ((Measure.size .gt).text bound)
        (decide (bound.toInt < m.size.toNat ∧ ¬ m.IsBeyond bound)) ∧
      m.Gets ctx ((Measure.size .eq).text bound)
        (decide ((m.size.toNat : Int) = bound.toInt ∨ m.IsBeyond bound)) := by
  refine ⟨gets_measure.2 ?_, gets_measure.2 ?_, gets_measure.2 ?_⟩ <;>
    rw [measures, compare_clampedSize, Bool.eq_iff_iff, beq_iff_eq, decide_eq_true_iff]
  · split
    · next h => simpa using Int.le_of_lt h.2
    · next h => exact Int.compare_eq_lt
  · split
    · next h => simp [h]
    · next h => rw [Int.compare_eq_gt, and_iff_left h]
  · split
    · next h => simp [h]
    · next h => rw [Int.compare_eq_eq, or_iff_left h]

/-- A size that is greater than the largest bound is not found to be greater, and it is found to be
equal. -/
theorem gets_size_beyond :
    let m : Message := { size := 9223372036854775808 }
    9223372036854775807 < m.size.toNat ∧ ∀ ctx,
      ¬ m.Gets ctx "Sg 9223372036854775807" true ∧ m.Gets ctx "Se 9223372036854775807" true := by
  have hgreater : (Measure.size .gt).text Int64.maxValue = "Sg 9223372036854775807" := by
    decide +kernel
  have hequal : (Measure.size .eq).text Int64.maxValue = "Se 9223372036854775807" := by
    decide +kernel
  refine ⟨by decide +kernel, fun ctx => ?_⟩
  rw [← hgreater, ← hequal, gets_measure, gets_measure, measures, measures]
  exact ⟨by decide +kernel, by decide +kernel⟩

end Message

/-! ### Rounding toward zero -/

namespace Calendar

/-- To round toward zero in two stages is to round once. -/
theorem tdiv_mul (x : Int) (m n : Nat) : x.tdiv (n * m) = (x.tdiv m).tdiv n := by
  have hnat : ∀ y : Nat, (y : Int).tdiv (n * m) = ((y : Int).tdiv m).tdiv n := by
    intro y
    rw [← Int.natCast_mul, ← Int.ofNat_tdiv, ← Int.ofNat_tdiv, ← Int.ofNat_tdiv,
      Nat.div_div_eq_div_mul, Nat.mul_comm]
  obtain ⟨y, rfl | rfl⟩ := Int.eq_nat_or_neg x
  · exact hnat y
  · rw [Int.neg_tdiv, Int.neg_tdiv, Int.neg_tdiv, hnat]

section
variable {k x y d : Int}

/-- A quotient is at most `k` if the dividend has not reached the next multiple. -/
theorem tdiv_le_of_lt (hk : 0 ≤ k) (hd : 0 < d) (h : x < (k + 1) * d) : x.tdiv d ≤ k := by
  rcases Int.le_total 0 x with hx | hx
  · rw [Int.tdiv_eq_ediv_of_nonneg hx]
    exact Int.le_of_lt_add_one (Int.ediv_lt_of_lt_mul hd h)
  · have hneg : 0 ≤ (-x).tdiv d := Int.tdiv_nonneg (by omega) (Int.le_of_lt hd)
    rw [Int.neg_tdiv] at hneg
    omega

/-- Strictly between two multiples all quotients are the same, and on from there they grow. -/
theorem tdiv_le_tdiv_of_between (hd : 0 < d) (hx : x < (k + 1) * d) (hy : k * d < y) :
    x.tdiv d ≤ y.tdiv d := by
  rcases Int.lt_or_le k 0 with hk | hk
  · -- negative numbers are rounded as positive ones are, the other way round
    have hx' : -(k + 1) ≤ (-x).tdiv d :=
      Int.le_tdiv_of_mul_le hd (by rw [Int.neg_mul]; omega)
    have hy' : (-y).tdiv d ≤ -(k + 1) :=
      tdiv_le_of_lt (by omega) hd (by rw [show -(k + 1) + 1 = -k by omega, Int.neg_mul]; omega)
    rw [Int.neg_tdiv] at hx' hy'
    omega
  · calc
      x.tdiv d ≤ k := tdiv_le_of_lt hk hd hx
      _ ≤ y.tdiv d := Int.le_tdiv_of_mul_le hd (Int.le_of_lt hy)

end

end Calendar

/-! ### Whole days -/

namespace Calendar.Instant

variable {a b c : Instant}

/-- The nanoseconds of a day without leap seconds. -/
def nanosPerDay : Int := secondsPerDay * nanosPerSecond

/-- The place of an instant in its day. Behind every second there is room for a leap second. -/
def placeInDay (t : Instant) : Nat := t.second.val * 2000000000 + t.nano.val

/-- The leap second at the end of a day. -/
def EndsDay (t : Instant) : Prop :=
  t.second.val + 1 = secondsPerDay ∧ nanosPerSecond ≤ t.nano.val

/-- The leap second at the start of a day, which no clock gives. -/
def StartsDay (t : Instant) : Prop := t.second.val = 0 ∧ nanosPerSecond ≤ t.nano.val

/-- The first second of a day, or the leap second at the end of one. -/
def IsAtMidnight (t : Instant) : Prop := t.second.val = 0 ∨ t.EndsDay

/-- Whether a whole day that is seen at `a` may not be seen at `b`. Then `b` is in the first second
of a day: either `a` is in the leap second right before it and has more nanoseconds, or `b` is in a
leap second at the start of a day and `a` is in the same second, not in its leap second and less
than a second earlier. -/
def LosesDay (a b : Instant) : Prop :=
  b.second.val = 0 ∧
    (a.EndsDay ∧ b.day = a.day + 1 ∧ b.nano < a.nano ∨
      b.StartsDay ∧ ¬ a.StartsDay ∧ a.day = b.day ∧ a.second = b.second ∧
        b.nano.val < a.nano.val + nanosPerSecond)

instance (t : Instant) : Decidable t.EndsDay := inferInstanceAs (Decidable (_ ∧ _))

instance (t : Instant) : Decidable t.StartsDay := inferInstanceAs (Decidable (_ ∧ _))

instance (t : Instant) : Decidable t.IsAtMidnight := inferInstanceAs (Decidable (_ ∨ _))

instance (a b : Instant) : Decidable (a.LosesDay b) := inferInstanceAs (Decidable (_ ∧ _))

/-- Instants are ordered by their days, and within a day by their places. -/
theorem isBefore_iff :
    a.isBefore b = true ↔ a.day < b.day ∨ a.day = b.day ∧ a.placeInDay < b.placeInDay := by
  have ha := a.nano.isLt
  have hb := b.nano.isLt
  simp only [isBefore, placeInDay, Bool.or_eq_true, Bool.and_eq_true, decide_eq_true_iff,
    beq_iff_eq, Fin.lt_def, Fin.ext_iff]
  omega

/-- The last day is not a whole one exactly if the place that is reached in it comes first. -/
theorem since_lt_iff :
    a.since c < (a.day - c.day) * nanosPerDay ↔ a.placeInDay < c.placeInDay := by
  simp only [placeInDay, since, nanosPerDay, secondsPerDay, nanosPerSecond, Fin.lt_def]
  have ha := a.nano.isLt
  have hc := c.nano.isLt
  split_ifs <;> omega

/-- There is more than whole days exactly if the place that is reached in the last one comes
later. -/
theorem lt_since_iff :
    (a.day - c.day) * nanosPerDay < a.since c ↔ c.placeInDay < a.placeInDay := by
  simp only [placeInDay, since, nanosPerDay, secondsPerDay, nanosPerSecond, Fin.lt_def]
  have ha := a.nano.isLt
  have hc := c.nano.isLt
  split_ifs <;> omega

/-- There is less than one day more, but for the leap second at the end of a day seen from the first
second of one. -/
theorem since_lt_succ (h : ¬ (a.EndsDay ∧ c.second.val = 0)) :
    a.since c < (a.day - c.day + 1) * nanosPerDay := by
  simp only [EndsDay, since, nanosPerDay, secondsPerDay, nanosPerSecond, Fin.lt_def] at h ⊢
  have hn := a.nano.isLt
  have hs := a.second.isLt
  have hc := c.second.isLt
  split_ifs <;> omega

/-- There is less than one day less, but for the first second of a day seen from a leap second at
the end of one. -/
theorem pred_lt_since (h : ¬ (c.EndsDay ∧ a.second.val = 0)) :
    (a.day - c.day - 1) * nanosPerDay < a.since c := by
  simp only [EndsDay, since, nanosPerDay, secondsPerDay, nanosPerSecond, Fin.lt_def] at h ⊢
  have hn := c.nano.isLt
  have hs := a.second.isLt
  have hs' := c.second.isLt
  split_ifs <;> omega

/-- The leap second at the end of a day, seen from the first second of one. -/
theorem since_le_or_between_of_endsDay (ha : a.EndsDay) (hc : c.second.val = 0)
    (hab : a.day < b.day ∨ a.day = b.day ∧ a.placeInDay ≤ b.placeInDay)
    (hkeeps : ¬ a.LosesDay b) :
    a.since c ≤ b.since c ∨
      ∃ k, a.since c < (k + 1) * nanosPerDay ∧ k * nanosPerDay < b.since c := by
  simp only [LosesDay, EndsDay, StartsDay, placeInDay, since, nanosPerDay, secondsPerDay,
    nanosPerSecond, Fin.lt_def, Fin.ext_iff] at ha hab hkeeps ⊢
  have hs := b.second.isLt
  have hna := a.nano.isLt
  have hnb := b.nano.isLt
  have hnc := c.nano.isLt
  by_cases hfar : a.day + 2 ≤ b.day
  · refine .inr ⟨a.day - c.day + 1, ?_, ?_⟩ <;> split_ifs <;> omega
  · refine .inl ?_
    split_ifs <;> omega

/-- The first second of a day, seen from a leap second at the end of one. -/
theorem since_le_or_between_of_firstSecond (hb : b.second.val = 0) (hc : c.EndsDay)
    (hab : a.day < b.day ∨ a.day = b.day ∧ a.placeInDay ≤ b.placeInDay)
    (hkeeps : ¬ a.LosesDay b) :
    a.since c ≤ b.since c ∨
      ∃ k, a.since c < (k + 1) * nanosPerDay ∧ k * nanosPerDay < b.since c := by
  simp only [LosesDay, EndsDay, StartsDay, placeInDay, since, nanosPerDay, secondsPerDay,
    nanosPerSecond, Fin.lt_def, Fin.ext_iff] at hc hab hkeeps ⊢
  have hs := a.second.isLt
  have hna := a.nano.isLt
  have hnb := b.nano.isLt
  have hnc := c.nano.isLt
  -- on the days before, what counts is whether `a` has come as far into its day as `c`
  by_cases hearly : a.day < b.day ∧ a.placeInDay < c.placeInDay
  · simp only [placeInDay] at hearly
    refine .inr ⟨a.day - c.day - 1, ?_, ?_⟩ <;> split_ifs <;> omega
  · simp only [placeInDay] at hearly
    refine .inl ?_
    split_ifs <;> omega

/-- Where the time since an instant shrinks, it stays strictly between two numbers of whole days,
but at midnight. -/
theorem since_le_or_between (h : b.isBefore a = false)
    (hkeeps : ¬ (a.LosesDay b ∧ c.IsAtMidnight)) :
    a.since c ≤ b.since c ∨
      ∃ k, a.since c < (k + 1) * nanosPerDay ∧ k * nanosPerDay < b.since c := by
  have hab : a.day < b.day ∨ a.day = b.day ∧ a.placeInDay ≤ b.placeInDay := by
    rw [← Bool.not_eq_true, isBefore_iff] at h
    omega
  -- seen across midnight, a leap second there can be more than a day away
  by_cases hends : a.EndsDay ∧ c.second.val = 0
  · exact since_le_or_between_of_endsDay hends.1 hends.2 hab fun hloses =>
      hkeeps ⟨hloses, .inl hends.2⟩
  by_cases hfirst : c.EndsDay ∧ b.second.val = 0
  · exact since_le_or_between_of_firstSecond hfirst.2 hfirst.1 hab fun hloses =>
      hkeeps ⟨hloses, .inr hfirst.1⟩
  have hup : a.since c < (a.day - c.day + 1) * nanosPerDay := since_lt_succ hends
  have hdown : (b.day - c.day - 1) * nanosPerDay < b.since c := pred_lt_since hfirst
  rcases hab with hday | ⟨hday, hplace⟩
  · refine .inr ⟨a.day - c.day, hup, Int.lt_of_le_of_lt ?_ hdown⟩
    exact Int.mul_le_mul_of_nonneg_right (by omega) (by decide)
  · -- on the same day it is the place of `c` that counts
    rcases Nat.lt_trichotomy b.placeInDay c.placeInDay with hc | hc | hc
    · refine .inr ⟨b.day - c.day - 1, ?_, hdown⟩
      rw [Int.sub_add_cancel, ← hday]
      exact since_lt_iff.2 (Nat.lt_of_le_of_lt hplace hc)
    · have hup : a.since c ≤ (a.day - c.day) * nanosPerDay :=
        Int.not_lt.1 fun h => absurd (lt_since_iff.1 h) (by omega)
      have hdown : (b.day - c.day) * nanosPerDay ≤ b.since c :=
        Int.not_lt.1 fun h => absurd (since_lt_iff.1 h) (by omega)
      rw [← hday] at hdown
      exact .inl (Int.le_trans hup hdown)
    · rw [hday] at hup
      exact .inr ⟨b.day - c.day, hup, lt_since_iff.2 hc⟩

/-- Whole days can be counted in whole seconds. -/
theorem daysSince_eq_seconds (a b : Instant) :
    a.daysSince b = ((a.since b).tdiv nanosPerSecond).tdiv secondsPerDay :=
  tdiv_mul _ _ _

/-- The whole days since an instant do not become fewer, but at midnight. -/
theorem daysSince_mono (h : b.isBefore a = false) (hkeeps : ¬ (a.LosesDay b ∧ c.IsAtMidnight)) :
    a.daysSince c ≤ b.daysSince c := by
  have hpos : 0 < nanosPerDay := by decide
  rcases since_le_or_between h hkeeps with hle | ⟨k, hlt, hlt'⟩
  · exact Int.tdiv_le_tdiv hpos hle
  · exact tdiv_le_tdiv_of_between hpos hlt hlt'

/-- Where less than a day is left of a whole one, it is lost. -/
theorem daysSince_lt_of_since (ha : a.since c = nanosPerDay) (hb : 0 ≤ b.since c)
    (hlt : b.since c < nanosPerDay) : b.daysSince c < a.daysSince c := by
  have hone : a.daysSince c = 1 := by
    rw [daysSince, ha]
    rfl
  have hzero : b.daysSince c = 0 := Int.tdiv_eq_zero_of_lt hb hlt
  omega

/-- A day that may be lost is lost by some instant. -/
theorem exists_daysSince_lt (h : a.LosesDay b) : ∃ c, b.daysSince c < a.daysSince c := by
  obtain ⟨hfirst, ⟨hends, hday, hnano⟩ | ⟨hstarts, hbefore, hday, hsecond, hnano⟩⟩ := h
  · -- a leap second at the start of the day that ends in `a`
    refine ⟨⟨a.day, b.second, a.nano⟩, daysSince_lt_of_since ?_ ?_ ?_⟩ <;>
      simp only [EndsDay, since, nanosPerDay, secondsPerDay, nanosPerSecond, Fin.lt_def]
        at hends hnano ⊢ <;>
      split_ifs <;> omega
  · -- the leap second at the end of the day before the last one, as far into it as `a`
    have hnow : a.nano.val < nanosPerSecond :=
      Nat.lt_of_not_le fun hle => hbefore ⟨hsecond ▸ hfirst, hle⟩
    have hlater := hstarts.2
    simp only [nanosPerSecond] at hnow hnano hlater
    refine ⟨⟨a.day - 2, ⟨86399, by decide⟩, ⟨a.nano.val + 1000000000, by omega⟩⟩,
      daysSince_lt_of_since ?_ ?_ ?_⟩ <;>
      simp only [since, hsecond, hfirst, nanosPerDay, secondsPerDay, nanosPerSecond, Fin.lt_def] <;>
      split_ifs <;> omega

end Calendar.Instant

/-! ### Ages -/

namespace Message

variable {now later : Instant} {m : Message}

/-- Whether a message is dated in the first second of a day or in the leap second at the end of
one. -/
def IsDatedAtMidnight (m : Message) : Prop := ∃ date, m.date = some date ∧ date.IsAtMidnight

/-- A message does not become younger, but at midnight. -/
theorem age_mono (h : later.isBefore now = false)
    (hkeeps : ¬ (now.LosesDay later ∧ m.IsDatedAtMidnight)) : m.age now ≤ m.age later := by
  rw [age, age]
  split
  · next date hdate =>
    exact Instant.daysSince_mono h fun hloses => hkeeps ⟨hloses.1, date, hdate, hloses.2⟩
  · exact Int.le_refl 0

/-- No message becomes younger exactly if no day may be lost. -/
theorem forall_age_mono_iff (h : later.isBefore now = false) :
    (∀ m : Message, m.age now ≤ m.age later) ↔ ¬ now.LosesDay later := by
  refine ⟨fun hall hloses => ?_, fun hkeeps m => age_mono h fun hloses => hkeeps hloses.1⟩
  obtain ⟨date, hlt⟩ := Instant.exists_daysSince_lt hloses
  exact Int.not_le.2 hlt (hall { date := some date })

/-- Later on, a message is as old as before or older, unless it is dated at midnight and a day may
be lost between the two times; and where a day may be lost, some message becomes younger. So what
was older than a bound stays so, and what was not younger does not become so. No message is older
and younger than a bound at once. -/
theorem gets_age_later {ctx later : Context} (h : later.now.isBefore ctx.now = false)
    (bound : Int64) :
    ((∀ m : Message, m.age ctx.now ≤ m.age later.now) ↔ ¬ ctx.now.LosesDay later.now) ∧
      (∀ m : Message, ¬ (ctx.now.LosesDay later.now ∧ m.IsDatedAtMidnight) →
        m.age ctx.now ≤ m.age later.now ∧
          (m.Gets ctx (Measure.olderThan.text bound) true →
            m.Gets later (Measure.olderThan.text bound) true) ∧
          (m.Gets ctx (Measure.youngerThan.text bound) false →
            m.Gets later (Measure.youngerThan.text bound) false)) ∧
      ∀ (m : Message) (any : Context), ¬ (m.Gets any (Measure.olderThan.text bound) true ∧
        m.Gets any (Measure.youngerThan.text bound) true) := by
  simp only [gets_measure, measures, decide_eq_true_iff, decide_eq_false_iff_not]
  refine ⟨forall_age_mono_iff h, fun m hkeeps => ?_, fun m any => ?_⟩
  · have hage : m.age ctx.now ≤ m.age later.now := age_mono h hkeeps
    refine ⟨hage, fun hold => ?_, fun hyoung => ?_⟩
    · omega
    · omega
  · rintro ⟨hold, hyoung⟩
    omega

/-- A message from a leap second, seen at the end of a day and right after it. The time since then
shrinks by half a second, and the age does not. -/
theorem gets_age_later_shrunk :
    let date : Instant := ⟨0, 59, 1500000000⟩
    let now : Instant := ⟨30, 86399, 500000000⟩
    let later : Instant := ⟨31, 0, 0⟩
    let m : Message := { date := some date }
    let seenAt (t : Instant) : Context := ⟨t, fun _ _ => .failed, none⟩
    later.isBefore now = false ∧ later.since date < now.since date ∧ ¬ now.LosesDay later ∧
      m.Gets (seenAt now) "ag 29" true ∧ m.Gets (seenAt later) "ag 29" true := by
  intro date now later m seenAt
  have hle : (seenAt later).now.isBefore (seenAt now).now = false := by decide +kernel
  have hkeeps : ¬ (seenAt now).now.LosesDay (seenAt later).now := by decide +kernel
  have htext : Measure.olderThan.text 29 = "ag 29" := by decide +kernel
  have hgets : m.Gets (seenAt now) (Measure.olderThan.text 29) true :=
    gets_measure.2 (by decide +kernel)
  obtain ⟨-, hmono, -⟩ := gets_age_later hle 29
  obtain ⟨-, holder, -⟩ := hmono m fun hloses => hkeeps hloses.1
  rw [← htext]
  exact ⟨hle, by decide +kernel, hkeeps, hgets, holder hgets⟩

/-- A message from the start of a day, seen in the leap second at the end of that day and right
after it. A whole day has passed at first, and then it has not. -/
theorem gets_age_later_lost :
    let date : Instant := ⟨0, 0, 300000000⟩
    let now : Instant := ⟨0, 86399, 1500000000⟩
    let later : Instant := ⟨1, 0, 0⟩
    let m : Message := { date := some date }
    let seenAt (t : Instant) : Context := ⟨t, fun _ _ => .failed, none⟩
    date.IsRegular ∧ now.IsRegular ∧ later.IsRegular ∧ later.isBefore now = false ∧
      m.age later < m.age now ∧
      m.Gets (seenAt now) "ag 0" true ∧ ¬ m.Gets (seenAt later) "ag 0" true ∧
      m.Gets (seenAt now) "al 1" false ∧ ¬ m.Gets (seenAt later) "al 1" false := by
  intro date now later m seenAt
  have hregular : date.IsRegular ∧ now.IsRegular ∧ later.IsRegular :=
    ⟨⟨by decide +kernel, by decide +kernel⟩, ⟨by decide +kernel, by decide +kernel⟩,
      ⟨by decide +kernel, by decide +kernel⟩⟩
  have hold : Measure.olderThan.text 0 = "ag 0" := by decide +kernel
  have hyoung : Measure.youngerThan.text 1 = "al 1" := by decide +kernel
  rw [← hold, ← hyoung]
  simp only [gets_measure]
  exact ⟨hregular.1, hregular.2.1, hregular.2.2, by decide +kernel, by decide +kernel,
    by decide +kernel, by decide +kernel, by decide +kernel, by decide +kernel⟩

end Message

end MailFilter
