import MailFilter.Text.Reader
import Mathlib.Algebra.Group.Nat.Defs

/-!
# Reading Piece by Piece

What a reader takes from the front of a text does not depend on what the text is made of behind it,
except for the few characters that end a piece. `Takes r s rest a` says that `r` takes `s` in front
of `rest` and answers `a`; readers that follow each other take pieces that follow each other.

## Main results

* `Takes.bind`: two readers take two pieces.
* `takes_many_cons`: a repeated reader takes one piece after the other.
* `takes_number`: a number is read from its digits.
-/

namespace MailFilter.Text.Reader

/-- A reader takes a text in front of another one. -/
def Takes {α : Type} (r : Reader α) (s rest : List Char) (a : α) : Prop :=
  r.run (s ++ rest) = some (a, rest)

section
variable {α β : Type} {a b : Reader α} {next : α → Reader β} {s t rest : List Char} {x : α} {y : β}
  {c : Char} {p : Char → Bool}

/-! ### One reader after another -/

/-- Behind a reader that takes a piece, the next one goes on. -/
theorem Takes.run_bind (h : Takes a s rest x) :
    (a >>= next).run (s ++ rest) = (next x).run rest := by
  have h : a (s ++ rest) = some (x, rest) := h
  show (a (s ++ rest) >>= fun p => next p.1 p.2) = (next x).run rest
  rw [h]
  rfl

/-- Two readers take two pieces. -/
theorem Takes.bind (h : Takes a s (t ++ rest) x) (hnext : Takes (next x) t rest y) :
    Takes (a >>= next) (s ++ t) rest y := by
  have hrun : (a >>= next).run (s ++ (t ++ rest)) = (next x).run (t ++ rest) := h.run_bind
  rw [← List.append_assoc] at hrun
  exact hrun.trans hnext

/-- A reader that takes nothing and another one. -/
theorem Takes.bind_left (h : Takes a [] (t ++ rest) x) (hnext : Takes (next x) t rest y) :
    Takes (a >>= next) t rest y := h.bind hnext

/-- A reader and another one that takes nothing. -/
theorem Takes.bind_right (h : Takes a s rest x) (hnext : Takes (next x) [] rest y) :
    Takes (a >>= next) s rest y := by
  have h := Takes.bind (t := []) h hnext
  rwa [List.append_nil] at h

/-- A reader whose answer is changed. -/
theorem Takes.map (h : Takes a s rest x) (f : α → β) : Takes (f <$> a) s rest (f x) := by
  have h : a (s ++ rest) = some (x, rest) := h
  show (f <$> a) (s ++ rest) = some (f x, rest)
  show (a (s ++ rest) >>= fun p => some (f p.1, p.2)) = some (f x, rest)
  rw [h]
  rfl

/-- An answer without reading. -/
theorem takes_pure (x : α) (rest : List Char) : Takes (pure x) [] rest x := rfl

/-- A reader that looks at the text first. -/
theorem run_get_bind (f : List Char → Reader α) (s : List Char) :
    (get >>= f : Reader α).run s = (f s).run s := rfl

/-- A reader that goes on with another text. -/
theorem run_set_bind (f : PUnit → Reader α) (s t : List Char) :
    (set t >>= f : Reader α).run s = (f ⟨⟩).run t := rfl

/-- What has not been taken is not taken. -/
theorem takes_rest (rest : List Char) : Takes Reader.rest [] rest rest := rfl

/-- The next character is not taken. -/
theorem takes_peek? (rest : List Char) : Takes peek? [] rest rest.head? := rfl

/-! ### Characters -/

/-- The next character is taken. -/
theorem takes_any (c : Char) (rest : List Char) : Takes any [c] rest c := rfl

/-- A character that satisfies a test is taken. -/
theorem takes_satisfying (h : p c = true) (rest : List Char) :
    Takes (satisfying p) [c] rest c := by
  show (if p c = true then pure c else failure : Reader Char) rest = some (c, rest)
  rw [if_pos h]
  rfl

/-- Any other character, and the end of a text, is not. -/
theorem satisfying_none (h : ∀ c, s.head? = some c → p c = false) :
    (satisfying p).run s = none := by
  cases s with
  | nil => rfl
  | cons c s =>
    show (if p c = true then pure c else failure : Reader Char) s = none
    rw [h c rfl]
    rfl

/-- A certain character is taken. -/
theorem takes_char (c : Char) (rest : List Char) : Takes (char c) [c] rest () :=
  Takes.bind_right (takes_satisfying (p := (· == c)) (by simp) rest) (takes_pure () rest)

/-- A reader that fails ends a reader that starts with it. -/
theorem bind_none (h : a.run s = none) : (a >>= next).run s = none := by
  show (a s >>= fun p => next p.1 p.2) = none
  rw [show a s = none from h]
  rfl

/-- A reader that fails has no answer to be changed. -/
theorem map_none (h : a.run s = none) (f : α → β) : (f <$> a).run s = none := by
  show (a s >>= fun p => some (f p.1, p.2)) = none
  rw [show a s = none from h]
  rfl

/-- Another character in its place is not. -/
theorem char_none (h : s.head? ≠ some c) : (char c).run s = none := by
  refine bind_none (satisfying_none fun d hd => ?_)
  rw [hd] at h
  simpa using h

/-- The characters up to the first one that fails a test are taken. -/
theorem takes_takeWhile (hs : ∀ c ∈ s, p c = true)
    (hrest : ∀ c, rest.head? = some c → p c = false) : Takes (takeWhile p) s rest s := by
  have htake : (s ++ rest).takeWhile p = s ∧ (s ++ rest).dropWhile p = rest := by
    induction s with
    | nil =>
      cases rest with
      | nil => exact ⟨rfl, rfl⟩
      | cons c rest => simp [hrest c rfl]
    | cons c s ih =>
      obtain ⟨htake, hdrop⟩ := ih fun d hd => hs d (List.mem_cons_of_mem c hd)
      have hc := hs c List.mem_cons_self
      rw [List.cons_append, List.takeWhile_cons_of_pos hc, List.dropWhile_cons_of_pos hc, htake]
      exact ⟨rfl, hdrop⟩
  show some ((s ++ rest).takeWhile p, (s ++ rest).dropWhile p) = some (s, rest)
  rw [htake.1, htake.2]

/-- A text is taken where it stands. -/
theorem takes_literal (s rest : List Char) : Takes (literal s) s rest () := by
  induction s with
  | nil => exact takes_pure () rest
  | cons c s ih => exact (takes_char c (s ++ rest)).bind ih

/-! ### Choices and repetitions -/

/-- What a reader takes is also taken if it may be missing. -/
theorem Takes.optional (h : Takes a s rest x) : Takes (Reader.optional a) s rest (some x) := by
  simp only [Takes, Reader.optional, StateT.run] at h ⊢
  rw [h]

/-- What is missing is not taken. -/
theorem takes_optional_none (h : a.run rest = none) : Takes (Reader.optional a) [] rest none := by
  simp only [Takes, Reader.optional, StateT.run, List.nil_append] at h ⊢
  rw [h]

/-- The first alternative takes what it takes. -/
theorem Takes.orElse (h : Takes a s rest x) : Takes (.orElse a b) s rest x := by
  simp only [Takes, Reader.orElse, StateT.run] at h ⊢
  rw [h]

/-- Behind an alternative that fails comes the next one. -/
theorem orElse_of_none (h : a.run s = none) : (Reader.orElse a b).run s = b.run s := by
  simp only [Reader.orElse, StateT.run] at h ⊢
  rw [h]

/-- The second alternative takes what it takes where the first one fails. -/
theorem takes_orElse (ha : a.run (s ++ rest) = none) (hb : Takes b s rest x) :
    Takes (.orElse a b) s rest x := (orElse_of_none ha).trans hb

/-- A repeated reader ends where the reader fails. -/
theorem takes_many_nil (h : a.run rest = none) : Takes (many a) [] rest [] := by
  show some (takeMany a rest) = some ([], rest)
  rw [takeMany, h]

/-- A repeated reader takes one piece after the other. -/
theorem takes_many_cons {xs : List α} (h : Takes a s (t ++ rest) x) (hs : s ≠ [])
    (hmore : Takes (many a) t rest xs) : Takes (many a) (s ++ t) rest (x :: xs) := by
  have h : a.run (s ++ (t ++ rest)) = some (x, t ++ rest) := h
  have hmore : takeMany a (t ++ rest) = (xs, rest) := Option.some.inj hmore
  have hlen : (t ++ rest).length < (s ++ (t ++ rest)).length := by
    have := List.length_pos_iff.2 hs
    simp only [List.length_append]
    omega
  show some (takeMany a (s ++ t ++ rest)) = some (x :: xs, rest)
  rw [List.append_assoc, takeMany, h]
  simp only [hlen, if_true, hmore]

/-! ### What is answered -/

/-- Every answer of a reader has a property. -/
def Answers (a : Reader α) (P : α → Prop) : Prop :=
  ∀ s x t, a.run s = some (x, t) → P x

/-- An answer without reading. -/
theorem answers_pure {P : α → Prop} (h : P x) : Answers (pure x) P := by
  intro s y t hrun
  cases hrun
  exact h

/-- No answer. -/
theorem answers_failure (P : α → Prop) : Answers failure P := by
  intro s y t hrun
  cases hrun

/-- What is answered in the end depends on the answers before. -/
theorem Answers.bind {P : α → Prop} {Q : β → Prop} (ha : Answers a P)
    (h : ∀ x, P x → Answers (next x) Q) : Answers (a >>= next) Q := by
  intro s y t hrun
  have hrun : (a s >>= fun p => next p.1 p.2) = some (y, t) := hrun
  cases hs : a s with
  | none =>
    rw [hs] at hrun
    cases hrun
  | some p =>
    rw [hs] at hrun
    exact h p.1 (ha s p.1 p.2 hs) p.2 y t hrun

/-- What is answered in the end whatever the answers before are. -/
theorem answers_bind {Q : β → Prop} (h : ∀ x, Answers (next x) Q) : Answers (a >>= next) Q :=
  Answers.bind (P := fun _ => True) (fun _ _ _ _ => trivial) fun x _ => h x

/-- What is answered if nothing is missing. -/
theorem Answers.optional {P : α → Prop} (h : Answers a P) :
    Answers (Reader.optional a) fun o => ∀ x ∈ o, P x := by
  intro s o t hrun x hx
  obtain rfl : o = some x := hx
  simp only [Reader.optional, StateT.run] at hrun
  cases hs : a s with
  | none =>
    rw [hs] at hrun
    cases hrun
  | some p =>
    rw [hs] at hrun
    cases hrun
    exact h s _ _ hs

/-! ### Blanks and numbers -/

/-- Blanks that are missing. -/
theorem takes_blanks_nil (h : ∀ c, rest.head? = some c → isBlank c = false) :
    Takes blanks [] rest () := by
  have htrim : trimStart rest = rest := by
    cases rest with
    | nil => rfl
    | cons c rest => simp [trimStart, h c rfl]
  show some ((), trimStart rest) = some ((), rest)
  rw [htrim]

/-- A number is read from its digits: as many as may be taken, or all up to another character. -/
theorem takes_number {least most n : Nat} {ds : List Char} (hds : ∀ c ∈ ds, isDigit c = true)
    (hleast : least ≤ ds.length) (hmost : ds.length ≤ most) (hn : readNatural? ds = some n)
    (hfit : n ≤ Int64.maxValue.toInt)
    (hrest : ds.length = most ∨ ∀ c, rest.head? = some c → isDigit c = false) :
    Takes (number least most) ds rest n := by
  have htake : ((ds ++ rest).take most).takeWhile isDigit = ds := by
    rw [List.take_append, List.take_of_length_le hmost, List.takeWhile_append_of_pos hds]
    have hnone : (rest.take (most - ds.length)).takeWhile isDigit = [] := by
      rcases hrest with hlen | hrest
      · simp [hlen]
      · cases rest with
        | nil => simp
        | cons c rest =>
          cases most - ds.length with
          | zero => rfl
          | succ k => simp [hrest c rfl]
    rw [hnone, List.append_nil]
  simp only [Takes, number, run_get_bind, run_set_bind, htake, List.drop_left, hn, hleast, hfit,
    and_self, if_true]
  rfl

end

end MailFilter.Text.Reader

namespace MailFilter.Text

/-! ### Digits -/

/-- The length of a written number. -/
theorem length_decimal_le {n width : Nat} (h : n < 10 ^ width) (hw : 0 < width) :
    (decimal n).length ≤ width := by
  induction n using decimal.induct generalizing width with
  | case1 n hn =>
    rw [decimal, if_pos hn]
    exact hw
  | case2 n hn ih =>
    cases width with
    | zero => exact absurd hw (by decide)
    | succ width =>
      have hwidth : 0 < width := by
        rcases Nat.eq_zero_or_pos width with rfl | hpos
        · simp at h
          omega
        · exact hpos
      have hdiv : n / 10 < 10 ^ width := by
        rw [Nat.pow_succ] at h
        omega
      have hlen := ih hdiv hwidth
      rw [decimal, if_neg hn, List.length_append, List.length_singleton]
      omega

/-- A padded number has its width. -/
theorem length_paddedDecimal {n width : Nat} (h : n < 10 ^ width) (hw : 0 < width) :
    (paddedDecimal width n).length = width := by
  have hlen := length_decimal_le h hw
  rw [paddedDecimal, List.length_append, List.length_replicate]
  omega

/-- A padded number is made of digits. -/
theorem isDigit_of_mem_paddedDecimal {width n : Nat} {c : Char} (h : c ∈ paddedDecimal width n) :
    isDigit c = true := by
  rw [paddedDecimal, List.mem_append] at h
  rcases h with h | h
  · rw [List.eq_of_mem_replicate h]
    rfl
  · exact isDigit_of_mem_decimal h

/-- A digit is not blank. -/
theorem isBlank_of_isDigit {c : Char} (h : isDigit c = true) : isBlank c = false := by
  simp only [isDigit, Bool.and_eq_true, decide_eq_true_eq] at h
  have hlow : 48 ≤ c.toNat := h.1
  have hhigh : c.toNat ≤ 57 := h.2
  simp only [isBlank, Bool.or_eq_false_iff, Bool.and_eq_false_iff, decide_eq_false_iff_not,
    beq_eq_false_iff_ne]
  omega

/-- A padded number starts with a digit. -/
theorem head_paddedDecimal (width n : Nat) (rest : List Char) :
    ∃ c, (paddedDecimal width n ++ rest).head? = some c ∧ isDigit c = true := by
  cases hw : paddedDecimal width n with
  | nil => simp [paddedDecimal, decimal_ne_nil] at hw
  | cons c s => exact ⟨c, rfl, isDigit_of_mem_paddedDecimal (hw ▸ List.mem_cons_self)⟩

/-- Zeros behind digits multiply by ten. -/
theorem readDigits?_zeros (n k : Nat) :
    readDigits? n (List.replicate k '0') = some (n * 10 ^ k) := by
  induction k generalizing n with
  | zero => simp [readDigits?]
  | succ k ih =>
    have hdigit : isDigit '0' = true ∧ digitValue '0' = 0 := by decide
    rw [List.replicate_succ, readDigits?, if_pos hdigit.1, hdigit.2, ih, Nat.pow_succ]
    congr 1
    simp only [Nat.add_zero]
    rw [Nat.mul_comm 10 n, Nat.mul_assoc, Nat.mul_comm 10]

/-- Reading the digits of a padded number gives the number. -/
theorem readDigits?_paddedDecimal (width n : Nat) :
    readDigits? 0 (paddedDecimal width n) = some n := by
  have hzeros : readDigits? 0 (List.replicate (width - (decimal n).length) '0') = some 0 := by
    rw [readDigits?_zeros, Nat.zero_mul]
  rw [paddedDecimal, readDigits?_append hzeros]
  exact readDigits?_decimal n

/-- Numbers are read from digits that are not missing. -/
theorem readNatural?_eq {s : List Char} (h : s ≠ []) : readNatural? s = readDigits? 0 s := by
  cases s with
  | nil => exact absurd rfl h
  | cons c s => rfl

/-- Reading gives back every padded number. -/
theorem readNatural?_paddedDecimal (width n : Nat) :
    readNatural? (paddedDecimal width n) = some n := by
  have hne : paddedDecimal width n ≠ [] := by simp [paddedDecimal, decimal_ne_nil]
  rw [readNatural?_eq hne, readDigits?_paddedDecimal]

/-- A number of a fixed width is read whatever stands behind it. -/
theorem Reader.takes_paddedDecimal {least width n : Nat} (h : n < 10 ^ width)
    (hw : 0 < width) (hleast : least ≤ width) (hfit : n ≤ Int64.maxValue.toInt)
    (rest : List Char) : Reader.Takes (number least width) (paddedDecimal width n) rest n := by
  have hlen := length_paddedDecimal h hw
  exact takes_number (fun c hc => isDigit_of_mem_paddedDecimal hc) (by omega) (by omega)
    (readNatural?_paddedDecimal width n) hfit (.inl hlen)

end MailFilter.Text
