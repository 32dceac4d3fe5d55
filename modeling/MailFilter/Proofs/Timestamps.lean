import MailFilter.Calendar.Timestamp
import MailFilter.Proofs.Reading
import Mathlib.Tactic.SplitIfs

/-!
# Timestamps Are Read Back

The day with a number has that number, and it is a day of the calendar. So the timestamp of an
instant that a clock or a text can give (`Instant.IsRegular`) is read back as that instant, in every
year and with every fraction of a second, leap seconds included.

## Main results

* `Date.number_ofNumber`, `Date.isValid_ofNumber`: days and their numbers.
* `Instant.ofLenientTimestamp?_timestamp`: an instant is read back.
* `Instant.isRegular_of_ofLenientTimestamp?`: only such instants are read.
-/

namespace MailFilter.Calendar

/-! ### Days of an era -/

section
variable {a y : Int}

/-- The number of full centuries before a day of an era. The last day of an era is the leap day of
its last century. -/
theorem century_eq (h₀ : 0 ≤ a) (h₁ : a < 146097)
    (hy : y = (a - a / 1460 + a / 36524 - a / 146096) / 365) :
    y / 100 = a / 36524 - a / 146096 := by
  have hd : a / 36524 = 0 ∨ a / 36524 = 1 ∨ a / 36524 = 2 ∨ a / 36524 = 3 ∨ a / 36524 = 4 := by
    omega
  rcases hd with hd | hd | hd | hd | hd <;> omega

/-- The number of leap days before a day of an era is nearly one in 1460 days. -/
theorem leapDays_near (h₀ : 0 ≤ a) (h₁ : a < 146097)
    (hy : y = (a - a / 1460 + a / 36524 - a / 146096) / 365) :
    y / 4 ≤ a / 1460 ∧ a / 1460 ≤ y / 4 + 1 := by
  omega

/-- A day lies in its year. -/
theorem dayOfYear_bounds (h₀ : 0 ≤ a) (h₁ : a < 146097)
    (hy : y = (a - a / 1460 + a / 36524 - a / 146096) / 365) :
    0 ≤ y ∧ y ≤ 399 ∧ 0 ≤ a - (365 * y + y / 4 - y / 100) ∧
      a - (365 * y + y / 4 - y / 100) ≤ 365 := by
  have hcentury := century_eq h₀ h₁ hy
  have hleap := leapDays_near h₀ h₁ hy
  refine ⟨by omega, by omega, ?_, ?_⟩
  · omega
  · omega

/-- Only a leap year has a day behind its 365th. -/
theorem isLeapYear_of_dayOfYear (h₀ : 0 ≤ a) (h₁ : a < 146097)
    (hy : y = (a - a / 1460 + a / 36524 - a / 146096) / 365)
    (hday : a - (365 * y + y / 4 - y / 100) = 365) (era : Int) :
    isLeapYear (era * 400 + y + 1) = true := by
  have hcentury := century_eq h₀ h₁ hy
  have hleap := leapDays_near h₀ h₁ hy
  obtain ⟨hy₀, hy₁, -⟩ := dayOfYear_bounds h₀ h₁ hy
  have hstep : 1460 * (y / 4 + 1) ≤ a := by omega
  have hfour : (y + 1) % 4 = 0 := by
    clear hy hcentury
    have hr : y % 4 = 0 ∨ y % 4 = 1 ∨ y % 4 = 2 ∨ y % 4 = 3 := by omega
    rcases hr with hr | hr | hr | hr <;> omega
  have hhundred : (y + 1) % 100 = 0 → (y + 1) % 400 = 0 := by
    intro hc
    have hends : y = 99 ∨ y = 199 ∨ y = 299 ∨ y = 399 := by omega
    rcases hends with rfl | rfl | rfl | rfl <;> omega
  have hfour' : (era * 400 + y + 1) % 4 = 0 := by omega
  have hhundred' : (era * 400 + y + 1) % 100 ≠ 0 ∨ (era * 400 + y + 1) % 400 = 0 := by omega
  simpa [isLeapYear, hfour'] using hhundred'

end

namespace Date

/-- The day of a month in a year of an era. Years begin in March here, and months are counted from
zero. -/
def ofMonth (era y : Int) (m day : Nat) : Date where
  year := if m < 10 then era * 400 + y else era * 400 + y + 1
  month := if m < 10 then m + 3 else m - 9
  day := day

/-- The number of the day of a month. -/
theorem number_ofMonth {era y : Int} {m day : Nat} (hy₀ : 0 ≤ y) (hy₁ : y ≤ 399) (hm : m ≤ 11) :
    (ofMonth era y m day).number =
      era * 146097 + (365 * y + y / 4 - y / 100) + ((153 * m + 2) / 5 : Nat) + day - 1 -
        719468 := by
  by_cases h : m < 10
  · have hmonth : ¬m + 3 ≤ 2 := by omega
    simp only [number, ofMonth, h, if_true, hmonth, if_false]
    omega
  · have hmonth : m - 9 ≤ 2 := by omega
    simp only [number, ofMonth, h, if_false, hmonth, if_true]
    omega

/-- The year, the month and the day of a number. -/
theorem exists_ofNumber (n : Int) :
    ∃ (era y : Int) (d m : Nat), ofNumber n = ofMonth era y m (d - (153 * m + 2) / 5 + 1) ∧
      m = (5 * d + 2) / 153 ∧ 0 ≤ y ∧ y ≤ 399 ∧ d ≤ 365 ∧
      n + 719468 = era * 146097 + (365 * y + y / 4 - y / 100) + d ∧
      (d = 365 → isLeapYear (era * 400 + y + 1) = true) := by
  have h₀ : 0 ≤ (n + 719468) % 146097 := by omega
  have h₁ : (n + 719468) % 146097 < 146097 := by omega
  obtain ⟨hy₀, hy₁, hd₀, hd₁⟩ := dayOfYear_bounds h₀ h₁ rfl
  refine ⟨_, _, _, _, rfl, rfl, hy₀, hy₁, ?_, ?_,
    fun hd => isLeapYear_of_dayOfYear h₀ h₁ rfl ?_ _⟩
  · omega
  · omega
  · omega

/-- The day with a number has that number. -/
theorem number_ofNumber (n : Int) : (ofNumber n).number = n := by
  obtain ⟨era, y, d, m, heq, hm, hy₀, hy₁, hd, hn, -⟩ := exists_ofNumber n
  have hm₁ : m ≤ 11 := by omega
  have hday : (153 * m + 2) / 5 ≤ d := by omega
  rw [heq, number_ofMonth hy₀ hy₁ hm₁]
  omega

/-- The lengths of the months from March to January. -/
theorem daysInMonth_ofMonth {era y : Int} {m day : Nat} (hm : m ≤ 10) :
    daysInMonth (ofMonth era y m day).year (ofMonth era y m day).month =
      (153 * (m + 1) + 2) / 5 - (153 * m + 2) / 5 := by
  have hcases : m = 0 ∨ m = 1 ∨ m = 2 ∨ m = 3 ∨ m = 4 ∨ m = 5 ∨ m = 6 ∨ m = 7 ∨ m = 8 ∨ m = 9 ∨
      m = 10 := by omega
  rcases hcases with rfl | rfl | rfl | rfl | rfl | rfl | rfl | rfl | rfl | rfl | rfl <;> rfl

/-- The day with a number is a day of the calendar. -/
theorem isValid_ofNumber (n : Int) : (ofNumber n).isValid = true := by
  obtain ⟨era, y, d, m, heq, hm, -, -, hd, -, hleap⟩ := exists_ofNumber n
  have hm₁ : m ≤ 11 := by omega
  have hday : 1 ≤ d - (153 * m + 2) / 5 + 1 := by omega
  have hlength : d - (153 * m + 2) / 5 + 1 ≤
      daysInMonth (ofNumber n).year (ofNumber n).month := by
    rw [heq]
    by_cases h : m = 11
    · subst h
      show _ ≤ if isLeapYear (era * 400 + y + 1) then 29 else 28
      split
      · omega
      · next hl =>
        have hd₁ : d ≠ 365 := fun h => hl (hleap h)
        omega
    · rw [daysInMonth_ofMonth (by omega)]
      omega
  simp only [isValid, Bool.and_eq_true, decide_eq_true_eq]
  refine ⟨?_, ?_⟩
  · rw [heq]
    exact hday
  · rw [heq] at hlength ⊢
    exact hlength

/-- The month and the day of a number have two digits. -/
theorem bounds_ofNumber (n : Int) :
    (ofNumber n).month < 100 ∧ (ofNumber n).day < 100 := by
  obtain ⟨era, y, d, m, heq, hm, -, -, hd, -, -⟩ := exists_ofNumber n
  rw [heq]
  refine ⟨?_, ?_⟩
  · show (if m < 10 then m + 3 else m - 9) < 100
    split <;> omega
  · show d - (153 * m + 2) / 5 + 1 < 100
    omega

end Date

/-! ### Fields -/

namespace Timestamp

open Text (Reader isDigit isBlank paddedDecimal)
open Text.Reader (Takes)

/-- A number of a few digits fits a signed word. -/
theorem le_maxValue {n : Nat} (h : n < 1000000000) : n ≤ Int64.maxValue.toInt := by
  have hmax : (1000000000 : Int) ≤ Int64.maxValue.toInt := by decide
  omega

/-- A field of two digits. -/
theorem takes_field {n : Nat} (h : n < 100) (rest : List Char) :
    Takes readLenientField (paddedDecimal 2 n) rest n := by
  have hnumber : Takes (Reader.number 1 2) (paddedDecimal 2 n) rest n :=
    Reader.takes_paddedDecimal h (by decide) (by decide) (le_maxValue (by omega)) rest
  obtain ⟨d, hd, hdigit⟩ := Text.head_paddedDecimal 2 n rest
  refine (Reader.takes_blanks_nil fun c hc => ?_).bind_left hnumber
  obtain rfl := Option.some.inj (hd.symm.trans hc)
  exact Text.isBlank_of_isDigit hdigit

/-- A year in four digits, or with a sign in front of its digits. -/
theorem takes_year {year : Int} (h : year.natAbs < 1000000000) {c : Char} (hc : isDigit c = false)
    (rest : List Char) : Takes readLenientYear (writeYear year) (c :: rest) year := by
  have hfit := le_maxValue h
  have hsigned : Takes (Reader.number 1 (paddedDecimal 4 year.natAbs ++ c :: rest).length)
      (paddedDecimal 4 year.natAbs) (c :: rest) year.natAbs := by
    have hlen : 1 ≤ (paddedDecimal 4 year.natAbs).length := by
      obtain ⟨d, hd, -⟩ := Text.head_paddedDecimal 4 year.natAbs []
      rw [List.append_nil] at hd
      exact List.length_pos_iff.2 fun h => by simp [h] at hd
    refine Reader.takes_number (fun d hd => Text.isDigit_of_mem_paddedDecimal hd) hlen (by simp)
      (Text.readNatural?_paddedDecimal 4 _) hfit (.inr fun d hd => ?_)
    obtain rfl := Option.some.inj hd
    exact hc
  have hblanks : ∀ {d : Char} {s : List Char}, isBlank d = false →
      Takes Reader.blanks [] (d :: s) () := fun hd =>
    Reader.takes_blanks_nil fun e he => Option.some.inj he ▸ hd
  have hpure : ∀ {y : Int}, y = year → Takes (pure y) [] (c :: rest) year := by
    rintro y rfl
    exact Reader.takes_pure y _
  rw [writeYear]
  split
  · next hyear =>
    have hnumber : Takes (Reader.number 1 4) (paddedDecimal 4 year.natAbs) (c :: rest)
        year.natAbs := Reader.takes_paddedDecimal (by omega) (by decide) (by decide) hfit _
    obtain ⟨d, hd, hdigit⟩ := Text.head_paddedDecimal 4 year.natAbs (c :: rest)
    refine (Reader.takes_blanks_nil fun e he => ?_).bind_left ((Reader.takes_peek? _).bind_left ?_)
    · obtain rfl := Option.some.inj (hd.symm.trans he)
      exact Text.isBlank_of_isDigit hdigit
    -- a digit in front is neither of the signs
    rw [hd]
    split
    · next heq =>
      obtain rfl := Option.some.inj heq
      cases hdigit
    · next heq =>
      obtain rfl := Option.some.inj heq
      cases hdigit
    · exact hnumber.bind_right (hpure (by omega))
  · next hyear =>
    split
    · next hneg =>
      exact (hblanks rfl).bind_left ((Reader.takes_peek? _).bind_left
        ((Reader.takes_char '-' _).bind ((Reader.takes_rest _).bind_left
          (hsigned.bind_right (hpure (by omega))))))
    · next hpos =>
      exact (hblanks rfl).bind_left ((Reader.takes_peek? _).bind_left
        ((Reader.takes_char '+' _).bind ((Reader.takes_rest _).bind_left
          (hsigned.bind_right (hpure (by omega))))))

/-- A separator. -/
theorem takes_separator {c : Char} (h : isBlank c = false) (rest : List Char) :
    Takes (readLenientSeparator c) [c] rest () := by
  have hblanks : Takes Reader.blanks [] ([c] ++ rest) () :=
    Reader.takes_blanks_nil fun d hd => Option.some.inj hd ▸ h
  exact hblanks.bind_left (Reader.takes_char c rest)

/-- The name of universal time. -/
theorem takes_offset : Takes readLenientOffset ['Z'] [] 0 := by
  have hblanks : Takes Reader.blanks [] ['Z'] () :=
    Reader.takes_blanks_nil fun d hd => by
      obtain rfl := Option.some.inj hd
      decide
  have hname : readUtcName.run ['Z'] = none := by decide
  refine hblanks.bind_left ((Reader.takes_optional_none hname).bind_left ?_)
  exact (Reader.takes_peek? _).bind_left
    ((Reader.takes_char 'Z' []).bind_right (Reader.takes_pure _ _))

/-- Digits with zeros behind them are read as a billionth part. -/
theorem takes_fraction {width n : Nat} (h : n < 10 ^ width) (hw : 0 < width) (hw₉ : width ≤ 9) :
    Takes readOptionalFraction ('.' :: paddedDecimal width n) ['Z'] (n * 10 ^ (9 - width)) := by
  have hlen := Text.length_paddedDecimal h hw
  have htake : Takes (Reader.takeWhile isDigit) (paddedDecimal width n) ['Z']
      (paddedDecimal width n) :=
    Reader.takes_takeWhile (fun c hc => Text.isDigit_of_mem_paddedDecimal hc) fun c hc => by
      obtain rfl := Option.some.inj hc
      decide
  have hne : paddedDecimal width n ≠ [] := fun hnil => by
    rw [hnil] at hlen
    simp at hlen
    omega
  have hempty : (paddedDecimal width n).isEmpty = false := by simpa using hne
  have hread : Text.readNatural? ((paddedDecimal width n ++ List.replicate 9 '0').take 9) =
      some (n * 10 ^ (9 - width)) := by
    rw [List.take_append, List.take_of_length_le (by omega), hlen, List.take_replicate,
      Nat.min_eq_left (by omega), Text.readNatural?_eq (by simp [hne]),
      Text.readDigits?_append (Text.readDigits?_paddedDecimal width n), Text.readDigits?_zeros]
  have hfraction : Takes readFraction (paddedDecimal width n) ['Z'] (n * 10 ^ (9 - width)) := by
    refine htake.bind_right ?_
    simp only [hempty, hread]
    exact Reader.takes_pure _ _
  refine (Reader.takes_peek? _).bind_left ?_
  exact (Reader.takes_char '.' _).bind hfraction

/-- The decimals of a second. -/
theorem takes_writeFraction {nano : Nat} (h : nano < 1000000000) :
    Takes readOptionalFraction (writeFraction nano) ['Z'] nano := by
  rw [writeFraction]
  split
  · next h₀ =>
    rw [h₀]
    exact (Reader.takes_peek? _).bind_left (Reader.takes_pure _ _)
  split
  · next h₃ =>
    have htakes : Takes readOptionalFraction ('.' :: paddedDecimal 3 (nano / 1000000)) ['Z']
        (nano / 1000000 * 10 ^ (9 - 3)) := takes_fraction (by omega) (by decide) (by decide)
    rwa [show nano / 1000000 * 10 ^ (9 - 3) = nano by omega] at htakes
  split
  · next h₆ =>
    have htakes : Takes readOptionalFraction ('.' :: paddedDecimal 6 (nano / 1000)) ['Z']
        (nano / 1000 * 10 ^ (9 - 6)) := takes_fraction (by omega) (by decide) (by decide)
    rwa [show nano / 1000 * 10 ^ (9 - 6) = nano by omega] at htakes
  · have htakes : Takes readOptionalFraction ('.' :: paddedDecimal 9 nano) ['Z']
        (nano * 10 ^ (9 - 9)) := takes_fraction h (by decide) (by decide)
    rwa [show nano * 10 ^ (9 - 9) = nano by omega] at htakes

end Timestamp

/-! ### Instants -/

namespace Instant

open Text (Reader paddedDecimal)
open Text.Reader (Takes)

/-- The instants that clocks and timestamps give: on a day that can be handled, and with a leap
second only at the end of a minute. -/
structure IsRegular (t : Instant) : Prop where
  day : isDayInRange t.day = true
  leap : nanosPerSecond ≤ t.nano.val → t.second.val % 60 = 59

/-- The years of the days that can be handled. -/
theorem natAbs_year_lt {n : Int} (h : isDayInRange n = true) :
    (Date.ofNumber n).year.natAbs < 1000000000 := by
  obtain ⟨era, y, d, m, heq, -, hy₀, hy₁, hd, hn, -⟩ := Date.exists_ofNumber n
  have hfirst : -100000000 ≤ (Date.mk (-262143) 1 1).number := by decide
  have hlast : (Date.mk 262142 12 31).number ≤ 100000000 := by decide
  simp only [isDayInRange, Bool.and_eq_true, decide_eq_true_eq] at h
  have hyear : (Date.ofMonth era y m (d - (153 * m + 2) / 5 + 1)).year = era * 400 + y ∨
      (Date.ofMonth era y m (d - (153 * m + 2) / 5 + 1)).year = era * 400 + y + 1 := by
    show (if m < 10 then _ else _) = _ ∨ (if m < 10 then _ else _) = _
    split
    · exact .inl rfl
    · exact .inr rfl
  rw [heq]
  omega

/-- The instant at a date and a time of day. -/
theorem ofFields?_eq_some {t : Instant} {date : Date} {hour minute second nano : Nat}
    (hdate : (date.isValid && isDayInRange date.number) = true)
    (htime : hour < 24 ∧ minute < 60 ∧ second ≤ 60 ∧ nano < 1000000000)
    (hday : t.day = date.number)
    (hsecond : t.second.val = hour * 3600 + minute * 60 + min second 59)
    (hnano : t.nano.val = if second = 60 then nano + 1000000000 else nano) :
    ofFields? date hour minute second nano = some t := by
  obtain ⟨day, ⟨s, hs⟩, ⟨n, hn⟩⟩ := t
  simp only at hday hsecond hnano
  subst hday hsecond hnano
  rw [ofFields?, dif_pos htime, if_pos hdate]
  split
  · next h60 =>
    subst h60
    rfl
  · rfl

/-- The instant of its own fields. -/
theorem ofFields?_fields {t : Instant} (h : t.IsRegular) :
    ofFields? t.date t.hour t.minute t.secondOfMinute t.nanoOfSecond = some t := by
  have hs := t.second.isLt
  have hn := t.nano.isLt
  have hleap := h.leap
  have hdate : (t.date.isValid && isDayInRange t.date.number) = true := by
    rw [date, Date.isValid_ofNumber, Date.number_ofNumber, h.day]
    rfl
  simp only [nanosPerSecond] at hleap
  refine ofFields?_eq_some hdate ?_ (Date.number_ofNumber t.day).symm ?_ ?_
  · simp only [hour, minute, secondOfMinute, nanoOfSecond, nanosPerSecond]
    omega
  · simp only [hour, minute, secondOfMinute, nanosPerSecond]
    omega
  · have hlong : t.secondOfMinute = 60 ↔ 1000000000 ≤ t.nano.val := by
      simp only [secondOfMinute, nanosPerSecond]
      omega
    split
    · simp only [nanoOfSecond, nanosPerSecond]
      omega
    · simp only [nanoOfSecond, nanosPerSecond]
      omega

/-- The instant at a local time of no offset. -/
theorem earlier?_zero {t : Instant} (h : isDayInRange t.day = true) : t.earlier? 0 = some t := by
  obtain ⟨day, ⟨second, hsecond⟩, nano⟩ := t
  have hday : (day * 86400 + (second : Int) - 0) / 86400 = day := by omega
  have hrest : ((day * 86400 + (second : Int) - 0) % 86400).toNat = second := by omega
  simp only [earlier?, hday, hrest]
  rw [if_pos h]

/-- A regular instant is found at its own fields. -/
theorem takes_resolve {t : Instant} (h : t.IsRegular) :
    Takes (Timestamp.resolve t.date t.hour t.minute t.secondOfMinute t.nanoOfSecond 0) [] [] t := by
  have hfields : (ofFields? t.date t.hour t.minute t.secondOfMinute t.nanoOfSecond).bind
      (·.earlier? 0) = some t := by
    rw [ofFields?_fields h, Option.bind_some, earlier?_zero h.day]
  have hnear : ¬((0 : Int) ≤ -86400 ∨ (86400 : Int) ≤ 0) := by decide
  simp only [Timestamp.resolve, hfields, hnear, if_false]
  rfl

/-- A regular instant is read back from its timestamp. -/
theorem ofLenientTimestamp?_timestamp {t : Instant} (h : t.IsRegular) :
    ofLenientTimestamp? t.timestamp.toList = some t := by
  have hyear := natAbs_year_lt h.day
  obtain ⟨hmonth, hday⟩ := Date.bounds_ofNumber t.day
  have hs := t.second.isLt
  have hn := t.nano.isLt
  have hhour : t.hour < 100 := by simp only [hour]; omega
  have hminute : t.minute < 100 := by simp only [minute]; omega
  have hsecond : t.secondOfMinute < 100 := by simp only [secondOfMinute, nanosPerSecond]; omega
  have hnano : t.nanoOfSecond < 1000000000 := by simp only [nanoOfSecond, nanosPerSecond]; omega
  have hseparator : ∀ rest, Takes Timestamp.readSeparator ['T'] rest () := fun rest =>
    (Reader.takes_satisfying (by decide) rest).bind_right (Reader.takes_pure _ rest)
  have hblanks : Takes Reader.blanks [] [] () := Reader.takes_blanks_nil (by simp)
  have hparts : t.timestamp.toList = Timestamp.writeYear t.date.year ++ (['-'] ++
      (paddedDecimal 2 t.date.month ++ (['-'] ++ (paddedDecimal 2 t.date.day ++ (['T'] ++
        (paddedDecimal 2 t.hour ++ ([':'] ++ (paddedDecimal 2 t.minute ++ ([':'] ++
          (paddedDecimal 2 t.secondOfMinute ++
            (Timestamp.writeFraction t.nanoOfSecond ++ ['Z']))))))))))) := by
    simp [timestamp, Timestamp.writeDate, Timestamp.writeTime]
  have htakes : Takes Timestamp.readLenient t.timestamp.toList [] t := by
    rw [hparts]
    refine (Timestamp.takes_year hyear (by decide) _).bind ((Timestamp.takes_separator rfl _).bind
      ((Timestamp.takes_field hmonth _).bind ((Timestamp.takes_separator rfl _).bind
        ((Timestamp.takes_field hday _).bind ((hseparator _).bind ?_)))))
    refine (Timestamp.takes_field hhour _).bind ((Timestamp.takes_separator rfl _).bind
      ((Timestamp.takes_field hminute _).bind ((Timestamp.takes_separator rfl _).bind
        ((Timestamp.takes_field hsecond _).bind ?_))))
    exact (Timestamp.takes_writeFraction hnano).bind
      (Timestamp.takes_offset.bind_right (hblanks.bind_left (takes_resolve h)))
  have hrun : Timestamp.readLenient.run t.timestamp.toList = some (t, []) := by
    rw [← List.append_nil t.timestamp.toList]
    exact htakes
  simp only [ofLenientTimestamp?, Reader.readAll?, hrun]

/-- The instants at the times of a day. -/
theorem isRegular_of_ofFields? {t : Instant} {date : Date} {hour minute second nano : Nat}
    (h : ofFields? date hour minute second nano = some t) : t.IsRegular := by
  rw [ofFields?] at h
  split at h
  · next htime =>
    split at h
    · next hdate =>
      rw [Bool.and_eq_true] at hdate
      split at h
      · cases h
        refine ⟨hdate.2, fun _ => ?_⟩
        show (hour * 3600 + minute * 60 + 59) % 60 = 59
        omega
      · cases h
        refine ⟨hdate.2, fun hleap => ?_⟩
        have hleap : 1000000000 ≤ nano := hleap
        omega
    · cases h
  · cases h

/-- An offset of whole minutes keeps leap seconds at the end of minutes. -/
theorem IsRegular.earlier? {t t' : Instant} (h : t.IsRegular) {offset : Int} (ho : offset % 60 = 0)
    (he : t.earlier? offset = some t') : t'.IsRegular := by
  unfold Instant.earlier? at he
  simp only at he
  split at he
  · next hday =>
    cases he
    refine ⟨hday, fun hleap => ?_⟩
    have hsecond := h.leap hleap
    show ((t.day * 86400 + t.second.val - offset) % 86400).toNat % 60 = 59
    omega
  · cases he

/-- Every offset is one of whole minutes. -/
theorem answers_readLenientOffset :
    Reader.Answers Timestamp.readLenientOffset fun offset => offset % 60 = 0 := by
  have hname : Reader.Answers Timestamp.readUtcName fun offset => offset % 60 = 0 :=
    Reader.answers_bind fun _ => Reader.answers_pure rfl
  have hnumeric : ∀ signs separator, Reader.Answers (Timestamp.readNumericOffset signs separator)
      fun offset => offset % 60 = 0 := by
    intro signs separator
    refine Reader.answers_bind fun sign => Reader.answers_bind fun hours =>
      Reader.answers_bind fun _ => Reader.answers_bind fun minutes => ?_
    have hpure : Reader.Answers (pure
        (if sign = '+' then ((hours * 3600 + minutes * 60 : Nat) : Int)
        else -((hours * 3600 + minutes * 60 : Nat) : Int))) fun offset => offset % 60 = 0 :=
      Reader.answers_pure (by split <;> omega)
    by_cases h60 : 60 ≤ minutes
    · simp only [h60, if_true]
      exact Reader.answers_bind fun _ => hpure
    · simp only [h60, if_false]
      exact hpure
  have hoffset : ∀ separator, Reader.Answers (Timestamp.readOffset separator)
      fun offset => offset % 60 = 0 := by
    intro separator
    refine Reader.answers_bind fun c => ?_
    split
    · exact Reader.answers_bind fun _ => Reader.answers_pure rfl
    · exact Reader.answers_bind fun _ => Reader.answers_pure rfl
    · exact hnumeric _ separator
  refine Reader.answers_bind fun _ => hname.optional.bind fun o ho => ?_
  cases o with
  | none => exact hoffset _
  | some offset => exact Reader.answers_pure (ho offset rfl)

/-- Every instant that is read is regular. -/
theorem isRegular_of_ofLenientTimestamp? {s : List Char} {t : Instant}
    (h : ofLenientTimestamp? s = some t) : t.IsRegular := by
  have hresolve : ∀ date hour minute second nano offset, offset % 60 = 0 → Reader.Answers
      (Timestamp.resolve date hour minute second nano offset) IsRegular := by
    intro date hour minute second nano offset ho
    have hgiven : ∀ t ∈ (ofFields? date hour minute second nano).bind (·.earlier? offset),
        t.IsRegular := by
      intro t ht
      obtain ⟨t₀, hfields, hearlier⟩ := Option.bind_eq_some_iff.1 ht
      exact (isRegular_of_ofFields? hfields).earlier? ho hearlier
    rw [Timestamp.resolve]
    split
    · exact (Reader.answers_failure fun _ => False).bind fun _ h => h.elim
    · split
      · next t heq => exact Reader.answers_pure (hgiven t heq)
      · exact Reader.answers_failure _
  have hread : Reader.Answers Timestamp.readLenient IsRegular := by
    refine Reader.answers_bind fun year => Reader.answers_bind fun _ =>
      Reader.answers_bind fun month => Reader.answers_bind fun _ =>
      Reader.answers_bind fun day => Reader.answers_bind fun _ =>
      Reader.answers_bind fun hour => Reader.answers_bind fun _ =>
      Reader.answers_bind fun minute => Reader.answers_bind fun _ =>
      Reader.answers_bind fun second => Reader.answers_bind fun nano => ?_
    exact answers_readLenientOffset.bind fun offset ho =>
      Reader.answers_bind fun _ => hresolve _ _ _ _ _ offset ho
  rw [ofLenientTimestamp?, Reader.readAll?] at h
  split at h
  · next hrun =>
    cases h
    exact hread s t [] hrun
  · cases h

end Instant

end MailFilter.Calendar
