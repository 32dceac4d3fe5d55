import MailFilter.Proofs.Reading
import MailFilter.Toml.Lexical
import MailFilter.Toml.Printer
import Mathlib.Tactic.SplitIfs

/-!
# Texts in TOML

A text that is written as a TOML string is read back, whatever it holds. There is one lemma for each
of the four forms. In the two forms for several lines, what is written is related to the text part
by part (`Body`): a run of quotes is one part, since it is read as one.

## Main results

* `takes_basicString`, `takes_literalString`: strings in one line.
* `Body.takes_parts`: the parts of a string in several lines.
* `takes_string`: every text is read back from the string it is written as.
-/

namespace MailFilter.Toml

open Text (Reader)
open Text.Reader (Takes)

/-! ### Characters -/

/-- The number of a character that has to be escaped is read back from its four digits. -/
theorem readHex?_writeCodePoint {n : Nat} (h : n < 128) :
    readHex? 0 ((writeCodePoint n).drop 2) = some n ∧ (writeCodePoint n).length = 6 := by
  have hall : ∀ n : Fin 128, readHex? 0 ((writeCodePoint n).drop 2) = some n.val ∧
      (writeCodePoint n).length = 6 := by decide
  exact hall ⟨n, h⟩

/-- A control character has a small number. -/
theorem toNat_lt_of_isControl {c : Char} (h : isControl c = true) : c.toNat < 128 := by
  simp only [isControl, Bool.or_eq_true, Bool.and_eq_true, decide_eq_true_eq, beq_iff_eq] at h
  omega

/-- Every character but the control characters and the line end can stand in a string. -/
theorem isPrintable_of_not_isControl {c : Char} (h : isControl c = false) (hc : c ≠ '\n') :
    isPrintable c = true := by
  simp only [isControl, Bool.or_eq_false_iff, Bool.and_eq_false_iff, decide_eq_false_iff_not,
    bne_eq_false_iff_eq, beq_eq_false_iff_ne] at h
  obtain ⟨(hsmall | htab) | hline, hdel⟩ := h
  · simp only [isPrintable, Bool.or_eq_true, Bool.and_eq_true, decide_eq_true_eq, bne_iff_ne]
    exact .inr ⟨by omega, hdel⟩
  · simp [isPrintable, htab]
  · exact absurd hline hc

/-- An escape of one letter. -/
theorem takes_escape {letter c : Char} (h : simpleEscape? letter = some c) (rest : List Char) :
    Takes escape ['\\', letter] rest c := by
  have hu : letter ≠ 'u' := by
    rintro rfl
    cases h
  have hU : letter ≠ 'U' := by
    rintro rfl
    cases h
  refine (Reader.takes_char '\\' _).bind ((Reader.takes_any letter rest).bind_right ?_)
  rw [if_neg hu, if_neg hU, h]
  exact Reader.takes_pure c rest

/-- The digits of the number of a character. -/
theorem takes_codePoint {digits : List Char} {n : Nat} (h : readHex? 0 digits = some n)
    (hn : n.isValidChar) (rest : List Char) :
    Takes (codePoint digits.length) digits rest (Char.ofNat n) := by
  simp only [Takes, codePoint, Reader.run_get_bind, Reader.run_set_bind, List.take_left,
    List.drop_left, h, hn, and_self, if_true]
  rfl

/-- An escape of a number. -/
theorem takes_writeCodePoint {c : Char} (h : c.toNat < 128) (rest : List Char) :
    Takes escape (writeCodePoint c.toNat) rest c := by
  obtain ⟨hread, hlen⟩ := readHex?_writeCodePoint h
  have htake := takes_codePoint hread c.valid rest
  rw [Char.ofNat_toNat] at htake
  exact (Reader.takes_char '\\' _).bind ((Reader.takes_any 'u' _).bind htake)

/-- A character of a basic string that is not a quote is read back. A line end inside a string of
several lines is not written as a character. -/
theorem takes_writeChar (long : Bool) {c : Char} (hquote : c ≠ '"')
    (hline : c = '\n' → long = false) (rest : List Char) :
    Takes basicChar (writeChar long c) rest c := by
  rw [writeChar]
  split
  · next hc => exact (takes_escape (by simp [simpleEscape?, hc]) rest).orElse
  split
  · next hc => exact (takes_escape (by simp [simpleEscape?, hc]) rest).orElse
  split
  · next hc => exact (takes_escape (by simp [simpleEscape?, hc]) rest).orElse
  split
  · next hc => exact (takes_escape (by simp [simpleEscape?, hc]) rest).orElse
  split
  · next hc =>
    rw [hline hc]
    exact (takes_escape (by simp [simpleEscape?, hc]) rest).orElse
  split
  · next hc => exact (takes_escape (by simp [simpleEscape?, hc]) rest).orElse
  split
  · next hc => exact (takes_writeCodePoint (toNat_lt_of_isControl hc) rest).orElse
  · next hbackslash _ _ _ hnewline _ hcontrol =>
    have hnone : escape.run ([c] ++ rest) = none :=
      Reader.bind_none (Reader.char_none (by simpa using hbackslash))
    refine Reader.takes_orElse hnone (Reader.takes_satisfying ?_ rest)
    have hprintable := isPrintable_of_not_isControl (by simpa using hcontrol) hnewline
    simp [hprintable, hquote, hbackslash]

/-- A character that is not a quote is written as itself, or as an escape. -/
theorem writeChar_cases (long : Bool) {c : Char} (hline : c = '\n' → long = false) :
    writeChar long c = [c] ∧ c ≠ '\\' ∧ c ≠ '\n' ∧ c ≠ '\r' ∧ isControl c = false ∨
      ∃ d s, writeChar long c = '\\' :: d :: s ∧ d ∉ [' ', '\t', '\n', '\r'] := by
  rw [writeChar]
  split
  · exact .inr ⟨_, _, rfl, by decide⟩
  split
  · exact .inr ⟨_, _, rfl, by decide⟩
  split
  · exact .inr ⟨_, _, rfl, by decide⟩
  split
  · exact .inr ⟨_, _, rfl, by decide⟩
  split
  · next hc =>
    rw [hline hc]
    exact .inr ⟨_, _, rfl, by decide⟩
  split
  · exact .inr ⟨_, _, rfl, by decide⟩
  split
  · exact .inr ⟨_, _, rfl, by decide⟩
  · next hbackslash _ _ hreturn hnewline _ hcontrol =>
    exact .inl ⟨rfl, hbackslash, hnewline, hreturn, by simpa using hcontrol⟩

/-- What a character is written as starts neither with a quote nor with a line end. -/
theorem head_writeChar (long : Bool) {c : Char} (hquote : c ≠ '"')
    (hline : c = '\n' → long = false) :
    ∃ d s, writeChar long c = d :: s ∧ d ≠ '"' ∧ d ≠ '\n' ∧ d ≠ '\r' := by
  rcases writeChar_cases _ hline with ⟨hw, -, hnewline, hreturn, -⟩ | ⟨d, s, hw, -⟩
  · exact ⟨c, [], hw, hquote, hnewline, hreturn⟩
  · exact ⟨'\\', d :: s, hw, by decide⟩

/-- A quote ends a basic string. -/
theorem basicChar_quote (s : List Char) : basicChar.run ('"' :: s) = none := by
  have hnone : escape.run ('"' :: s) = none := Reader.bind_none (Reader.char_none (by simp))
  refine (Reader.orElse_of_none hnone).trans (Reader.satisfying_none fun c hc => ?_)
  cases hc
  decide

/-! ### Strings in one line -/

/-- A basic string in one line is read back. -/
theorem takes_basicString (s rest : List Char) :
    Takes basicString ('"' :: writeBasic s ++ ['"']) rest s := by
  have hmany : Takes (Reader.many basicChar) (writeBasic s) ('"' :: rest) s := by
    induction s with
    | nil => exact Reader.takes_many_nil (basicChar_quote rest)
    | cons c s ih =>
      by_cases hc : c = '"'
      · subst hc
        exact Reader.takes_many_cons ((takes_escape rfl _).orElse (b := _)) (by simp) ih
      · obtain ⟨d, s', hd, -⟩ := head_writeChar false hc fun _ => rfl
        have hpiece := takes_writeChar false hc (fun _ => rfl) (writeBasic s ++ '"' :: rest)
        have hmore := Reader.takes_many_cons hpiece (by simp [hd]) ih
        simpa [writeBasic, hc] using hmore
  refine (Reader.takes_char '"' _).bind (hmany.bind ?_)
  exact (Reader.takes_char '"' rest).bind_right (Reader.takes_pure s rest)

/-- A literal string in one line is read back. -/
theorem takes_literalString {s : List Char} (h : ∀ c ∈ s, isPrintable c = true ∧ c ≠ '\'')
    (rest : List Char) : Takes literalString ('\'' :: s ++ ['\'']) rest s := by
  have htake : Takes (Reader.takeWhile fun c => isPrintable c && c != '\'') s ('\'' :: rest) s :=
    Reader.takes_takeWhile (fun c hc => by simp [h c hc]) fun c hc => by
      cases hc
      decide
  refine (Reader.takes_char '\'' _).bind (htake.bind ?_)
  exact (Reader.takes_char '\'' rest).bind_right (Reader.takes_pure s rest)

/-! ### Line ends and quotes -/

/-- A line feed is a line end. -/
theorem takes_newline (rest : List Char) : Takes newline ['\n'] rest () :=
  (Reader.takes_char '\n' rest).orElse

/-- Other characters, save one, do not start a line end. -/
theorem newline_none {s : List Char} (hline : s.head? ≠ some '\n') (hreturn : s.head? ≠ some '\r') :
    newline.run s = none :=
  (Reader.orElse_of_none (Reader.char_none hline)).trans
    (Reader.bind_none (Reader.char_none hreturn))

variable {quote : Char}

/-- All quotes in front of a text are taken together. -/
theorem takes_quotes (k : Nat) {rest : List Char} (h : rest.head? ≠ some quote) :
    Takes (Reader.takeWhile (· == quote)) (List.replicate k quote) rest (List.replicate k quote) :=
  Reader.takes_takeWhile (fun c hc => by simp [List.eq_of_mem_replicate hc]) fun c hc => by
    rw [hc] at h
    simpa using h

/-- One or two quotes are part of a string. -/
theorem takes_innerQuotes {k : Nat} (hk : k = 1 ∨ k = 2) {rest : List Char}
    (h : rest.head? ≠ some quote) :
    Takes (innerQuotes quote) (List.replicate k quote) rest (List.replicate k quote) := by
  refine (takes_quotes k h).bind_right ?_
  rw [List.length_replicate, if_pos hk]
  exact Reader.takes_pure _ rest

/-- Any other number of quotes is not. -/
theorem innerQuotes_none {k : Nat} (hk : ¬(k = 1 ∨ k = 2)) {rest : List Char}
    (h : rest.head? ≠ some quote) :
    (innerQuotes quote).run (List.replicate k quote ++ rest) = none := by
  have htake : (Reader.takeWhile (· == quote)) (List.replicate k quote ++ rest) =
      some (List.replicate k quote, rest) := takes_quotes k h
  show ((Reader.takeWhile (· == quote)) (List.replicate k quote ++ rest) >>= fun p => _) = none
  rw [htake]
  show (if (List.replicate k quote).length = 1 ∨ (List.replicate k quote).length = 2 then
    pure (List.replicate k quote) else failure : Reader (List Char)) rest = none
  rw [List.length_replicate, if_neg hk]
  rfl

/-- The quotes that end a string, with up to two quotes that belong to it. -/
theorem takes_closingQuotes {k : Nat} (hk : k ≤ 2) {rest : List Char}
    (h : rest.head? ≠ some quote) :
    Takes (closingQuotes quote) (List.replicate (k + 3) quote) rest (List.replicate k quote) := by
  refine (takes_quotes (k + 3) h).bind_right ?_
  have hlen : 3 ≤ k + 3 ∧ k + 3 ≤ 5 := by omega
  rw [List.length_replicate, if_pos hlen, List.drop_replicate]
  exact Reader.takes_pure _ rest

/-! ### Strings in several lines -/

/-- How a text is written between the quotes of a string in several lines, where `piece` takes what
a character is written as. A run of one or two quotes stands for itself. -/
inductive Body (quote : Char) (piece : Reader (List Char)) : List Char → List Char → Prop
  | last {k : Nat} : k ≤ 2 → Body quote piece (List.replicate k quote) (List.replicate k quote)
  | quotes {k : Nat} {written text : List Char} : k = 1 ∨ k = 2 → written ≠ [] →
      written.head? ≠ some quote → Body quote piece written text →
      Body quote piece (List.replicate k quote ++ written) (List.replicate k quote ++ text)
  | newline {written text : List Char} : Body quote piece written text →
      Body quote piece ('\n' :: written) ('\n' :: text)
  | char {d c : Char} {s written text : List Char} : d ≠ quote → d ≠ '\n' → d ≠ '\r' →
      (∀ rest, Takes piece (d :: s) rest [c]) → Body quote piece written text →
      Body quote piece (d :: s ++ written) (c :: text)

variable {piece : Reader (List Char)} {written text : List Char}

/-- The parts of a string in several lines. The quotes at its end are left for the reader that takes
the closing ones. -/
theorem Body.takes_parts (h : Body quote piece written text)
    (hquote : quote ≠ '\n' ∧ quote ≠ '\r') (hpiece : ∀ s, piece.run (quote :: s) = none)
    {rest : List Char} (hrest : rest.head? ≠ some quote) :
    ∃ front parts k, written = front ++ List.replicate k quote ∧
      text = parts.flatten ++ List.replicate k quote ∧ k ≤ 2 ∧
      Takes (Reader.many (.orElse (innerQuotes quote) (.orElse innerNewline piece))) front
        (List.replicate (k + 3) quote ++ rest) parts := by
  induction h with
  | @last k hk =>
    refine ⟨[], [], k, rfl, rfl, hk, Reader.takes_many_nil ?_⟩
    rw [Reader.orElse_of_none (innerQuotes_none (by omega) hrest), List.replicate_succ,
      List.cons_append]
    have hnone : innerNewline.run (quote :: (List.replicate (k + 2) quote ++ rest)) = none :=
      Reader.bind_none (newline_none (by simpa using hquote.1) (by simpa using hquote.2))
    rw [Reader.orElse_of_none hnone]
    exact hpiece _
  | @quotes k written text hk hne hhead _ ih =>
    obtain ⟨front, parts, k', rfl, rfl, hk', htakes⟩ := ih
    have hfront : ∃ d front', front = d :: front' ∧ d ≠ quote := by
      cases front with
      | nil =>
        cases k' with
        | zero => exact absurd rfl hne
        | succ k' => exact absurd rfl hhead
      | cons d front' => exact ⟨d, front', rfl, by simpa using hhead⟩
    obtain ⟨d, front', rfl, hd⟩ := hfront
    refine ⟨List.replicate k quote ++ d :: front', List.replicate k quote :: parts, k', by simp,
      by simp, hk', ?_⟩
    have hnext : (d :: front' ++ (List.replicate (k' + 3) quote ++ rest)).head? ≠ some quote := by
      simpa using hd
    have hpart := takes_innerQuotes hk hnext
    refine Reader.takes_many_cons hpart.orElse ?_ htakes
    rcases hk with rfl | rfl <;> simp
  | @newline written text _ ih =>
    obtain ⟨front, parts, k, rfl, rfl, hk, htakes⟩ := ih
    refine ⟨'\n' :: front, ['\n'] :: parts, k, rfl, rfl, hk, ?_⟩
    have hnext :
        ('\n' :: (front ++ (List.replicate (k + 3) quote ++ rest))).head? ≠ some quote := by
      simpa using hquote.1.symm
    have hnone := innerQuotes_none (k := 0) (by decide) hnext
    have hline :
        Takes innerNewline ['\n'] (front ++ (List.replicate (k + 3) quote ++ rest)) ['\n'] :=
      (takes_newline _).bind_right (Reader.takes_pure _ _)
    exact Reader.takes_many_cons (Reader.takes_orElse hnone hline.orElse) (by simp) htakes
  | @char d c s written text hd hline hreturn htake _ ih =>
    obtain ⟨front, parts, k, rfl, rfl, hk, htakes⟩ := ih
    refine ⟨d :: s ++ front, [c] :: parts, k, by simp, rfl, hk, ?_⟩
    have hnext : (d :: s ++ (front ++ (List.replicate (k + 3) quote ++ rest))).head? ≠
        some quote := by simpa using hd
    have hnone := innerQuotes_none (k := 0) (by decide) hnext
    have hnone' : innerNewline.run (d :: s ++ (front ++ (List.replicate (k + 3) quote ++ rest))) =
        none := Reader.bind_none (newline_none (by simpa using hline) (by simpa using hreturn))
    exact Reader.takes_many_cons
      (Reader.takes_orElse hnone (Reader.takes_orElse hnone' (htake _))) (by simp) htakes

/-- A string in several lines is read back. A line end behind the opening quotes is left out. -/
theorem Body.takes_longString (h : Body quote piece written text)
    (hquote : quote ≠ '\n' ∧ quote ≠ '\r') (hpiece : ∀ s, piece.run (quote :: s) = none)
    {opens : Bool} (hopen : opens = false →
      written.head? ≠ some '\n' ∧ written.head? ≠ some '\r')
    {rest : List Char} (hrest : rest.head? ≠ some quote) :
    Takes (longString quote piece) ([quote, quote, quote] ++
      ((if opens then ['\n'] else []) ++ (written ++ [quote, quote, quote]))) rest text := by
  obtain ⟨front, parts, k, rfl, rfl, hk, htakes⟩ := h.takes_parts hquote hpiece hrest
  have hclose := takes_closingQuotes hk hrest
  have hbody : Takes (do
      let pieces ← Reader.many (.orElse (innerQuotes quote) (.orElse innerNewline piece))
      let quotes ← closingQuotes quote
      return pieces.flatten ++ quotes)
      (front ++ List.replicate k quote ++ [quote, quote, quote]) rest
      (parts.flatten ++ List.replicate k quote) := by
    rw [List.append_assoc, show List.replicate k quote ++ [quote, quote, quote] =
      List.replicate (k + 3) quote from List.replicate_append_replicate.symm ▸ rfl]
    exact htakes.bind (hclose.bind_right (Reader.takes_pure _ rest))
  refine (Reader.takes_literal [quote, quote, quote] _).bind ?_
  cases opens with
  | true => exact (takes_newline _).optional.bind hbody
  | false =>
    obtain ⟨hline, hreturn⟩ := hopen rfl
    have hhead : ∀ c, c ≠ quote → (front ++ List.replicate k quote).head? ≠ some c →
        (front ++ List.replicate k quote ++ [quote, quote, quote] ++ rest).head? ≠ some c := by
      intro c hc hw
      cases hl : front ++ List.replicate k quote with
      | nil => simpa using hc.symm
      | cons d l => simpa [hl] using hw
    exact (Reader.takes_optional_none (newline_none (hhead _ hquote.1.symm hline)
      (hhead _ hquote.2.symm hreturn))).bind_left hbody

/-- Quotes in front of what does not start with one. -/
theorem Body.prepend {k : Nat} (hk : k ≤ 2) {d : Char} {s : List Char} (hd : d ≠ quote)
    (h : Body quote piece (d :: s) text) :
    Body quote piece (List.replicate k quote ++ d :: s) (List.replicate k quote ++ text) := by
  by_cases h0 : k = 0
  · subst h0
    exact h
  · exact .quotes (by omega) (by simp) (by simpa using hd) h

/-! ### Texts in several lines -/

/-- What takes a character of a basic string in several lines. -/
def basicPiece : Reader (List Char) := .orElse continuation ((fun c => [c]) <$> basicChar)

/-- What takes a character of a literal string in several lines. -/
def literalPiece : Reader (List Char) :=
  (fun c => [c]) <$> .satisfying fun c => isPrintable c && c != '\''

/-- A backslash in front of anything but blanks and line ends does not continue a line. -/
theorem continuation_none {d : Char} (hd : d ∉ [' ', '\t', '\n', '\r']) (s : List Char) :
    continuation.run ('\\' :: d :: s) = none := by
  simp only [List.mem_cons, List.not_mem_nil, or_false, not_or] at hd
  obtain ⟨hspace, htab, hline, hreturn⟩ := hd
  have hblanks : Takes blanks [] (d :: s) () := by
    refine Takes.bind_left (t := []) (Reader.takes_takeWhile (by simp) fun c hc => ?_)
      (Reader.takes_pure () _)
    cases hc
    simp [hspace, htab]
  refine (Reader.takes_char '\\' (d :: s)).run_bind.trans (hblanks.run_bind.trans ?_)
  exact Reader.bind_none (newline_none (by simpa using hline) (by simpa using hreturn))

/-- A character of a basic string in several lines that is neither a quote nor a line end. -/
theorem takes_basicPiece {c : Char} (hquote : c ≠ '"') (hline : c ≠ '\n') (rest : List Char) :
    Takes basicPiece (writeChar true c) rest [c] := by
  have hline : c = '\n' → true = false := fun hc => absurd hc hline
  have hnone : continuation.run (writeChar true c ++ rest) = none := by
    rcases writeChar_cases _ hline with ⟨hw, hbackslash, -⟩ | ⟨d, s, hw, hd⟩
    · rw [hw]
      exact Reader.bind_none (Reader.char_none (by simpa using hbackslash))
    · rw [hw]
      exact continuation_none hd (s ++ rest)
  exact Reader.takes_orElse hnone ((takes_writeChar true hquote hline rest).map fun c => [c])

/-- The characters of a basic string in several lines, behind up to two quotes. -/
theorem body_writeLong {q : Nat} (hq : q ≤ 2) (s : List Char) :
    Body '"' basicPiece (List.replicate q '"' ++ writeLong q s) (List.replicate q '"' ++ s) := by
  induction s generalizing q with
  | nil => simpa [writeLong] using Body.last hq
  | cons c s ih =>
    by_cases hc : c = '"'
    · subst hc
      rw [writeLong, if_pos rfl]
      split
      · next hq2 =>
        subst hq2
        refine .prepend hq (by decide) (.char (s := ['"']) (by decide) (by decide) (by decide)
          (fun rest => ?_) (ih (q := 0) (by decide)))
        exact Reader.takes_orElse (continuation_none (by decide) rest)
          ((takes_escape rfl rest).orElse.map fun c => [c])
      · next hq2 =>
        have hmore := ih (q := q + 1) (by omega)
        rwa [List.replicate_succ', List.append_assoc, List.append_assoc] at hmore
    · rw [writeLong, if_neg hc]
      by_cases hline : c = '\n'
      · subst hline
        exact .prepend hq (by decide) (.newline (ih (q := 0) (by decide)))
      · obtain ⟨d, s', hw, hd, hdline, hdreturn⟩ :=
          head_writeChar true hc fun h => absurd h hline
        have hpiece := takes_basicPiece hc hline
        rw [hw] at hpiece ⊢
        exact .prepend hq hd (.char hd hdline hdreturn hpiece (ih (q := 0) (by decide)))

/-- A run that is under way counts. -/
theorem le_longestRun (quote : Char) (here : Nat) (s : List Char) :
    here ≤ longestRun quote here s := by
  induction s generalizing here with
  | nil => exact Nat.le_refl here
  | cons c s ih =>
    rw [longestRun]
    split
    · exact Nat.le_of_succ_le (ih (here + 1))
    · exact Nat.le_max_left _ _

/-- Where no run is longer than nothing, there is no quote. -/
theorem not_mem_of_longestRun {s : List Char} (h : longestRun quote 0 s = 0) : quote ∉ s := by
  induction s with
  | nil => exact List.not_mem_nil
  | cons c s ih =>
    rw [longestRun] at h
    split at h
    · have hle := le_longestRun quote (0 + 1) s
      omega
    · next hc =>
      rw [List.mem_cons, not_or]
      exact ⟨fun heq => hc heq.symm, ih (by omega)⟩

/-- The characters of a literal string in several lines, behind up to two quotes. -/
theorem body_literal {q : Nat} {s : List Char} (hq : q ≤ 2) (hrun : longestRun '\'' q s ≤ 2)
    (hs : ∀ c ∈ s, c = '\n' ∨ isPrintable c = true) :
    Body '\'' literalPiece (List.replicate q '\'' ++ s) (List.replicate q '\'' ++ s) := by
  induction s generalizing q with
  | nil => simpa using Body.last hq
  | cons c s ih =>
    obtain ⟨hc, hmore⟩ := List.forall_mem_cons.1 hs
    rw [longestRun] at hrun
    split at hrun
    · next hquote =>
      subst hquote
      have hle := le_longestRun '\'' (q + 1) s
      have hbody := ih (q := q + 1) (by omega) hrun hmore
      rwa [List.replicate_succ', List.append_assoc] at hbody
    · next hquote =>
      have hbody := ih (q := 0) (by decide) (by omega) hmore
      rcases hc with rfl | hc
      · exact .prepend hq (by decide) (.newline hbody)
      · have hline : c ≠ '\n' ∧ c ≠ '\r' := by
          constructor <;> rintro rfl <;> revert hc <;> decide
        refine .prepend hq hquote (.char (s := []) hquote hline.1 hline.2 (fun rest => ?_) hbody)
        exact (Reader.takes_satisfying (by simp [hc, hquote]) rest).map fun c => [c]

/-! ### Strings of any form -/

section
variable {s w rest : List Char}

/-- A basic string in one line is told by its quote. -/
theorem takes_string_of_basic (h : Takes basicString ('"' :: w) rest s)
    (hw : ∀ tail, w ++ rest ≠ '"' :: '"' :: tail) :
    Takes string ('"' :: w) rest (String.ofList s) := by
  refine (Reader.takes_rest _).bind_left ?_
  -- no more than one quote is in front, which leaves one branch
  simp only [List.cons_append]
  exact h.bind_right (Reader.takes_pure _ rest)

/-- A literal string in one line is told by its quote. -/
theorem takes_string_of_literal (h : Takes literalString ('\'' :: w) rest s)
    (hw : ∀ tail, w ++ rest ≠ '\'' :: '\'' :: tail) :
    Takes string ('\'' :: w) rest (String.ofList s) := by
  refine (Reader.takes_rest _).bind_left ?_
  simp only [List.cons_append]
  split
  · next heq => cases (List.cons.inj heq).1
  · next tail heq => exact absurd (List.cons.inj heq).2 (hw tail)
  · next heq => cases (List.cons.inj heq).1
  · exact h.bind_right (Reader.takes_pure _ rest)

/-- A basic string in several lines is told by its three quotes. -/
theorem takes_string_of_longBasic
    (h : Takes (longString '"' basicPiece) ('"' :: '"' :: '"' :: w) rest s) :
    Takes string ('"' :: '"' :: '"' :: w) rest (String.ofList s) :=
  (Reader.takes_rest _).bind_left (h.bind_right (Reader.takes_pure _ rest))

/-- A literal string in several lines is told by its three quotes. -/
theorem takes_string_of_longLiteral
    (h : Takes (longString '\'' literalPiece) ('\'' :: '\'' :: '\'' :: w) rest s) :
    Takes string ('\'' :: '\'' :: '\'' :: w) rest (String.ofList s) :=
  (Reader.takes_rest _).bind_left (h.bind_right (Reader.takes_pure _ rest))

end

/-- What stands in a text without control characters. -/
theorem printable_of_hasControl {s : List Char} (h : (Contents.ofText s).hasControl = false) :
    ∀ c ∈ s, c = '\n' ∨ isPrintable c = true := by
  intro c hc
  have hcontrol : isControl c = false := by
    have := List.any_eq_false.1 h c hc
    simpa using this
  by_cases hline : c = '\n'
  · exact .inl hline
  · exact .inr (isPrintable_of_not_isControl hcontrol hline)

/-- A text without line ends. -/
theorem not_mem_of_hasNewline {s : List Char} (h : (Contents.ofText s).hasNewline = false) :
    '\n' ∉ s := by
  intro hmem
  have hne := List.any_eq_false.1 h '\n' hmem
  simp at hne

/-- When a text is written as a literal string. -/
theorem ofContents_literal {c : Contents} (h : Form.ofContents c = .literal) :
    c.hasControl = false ∧ c.singleQuotes = 0 ∧ c.hasNewline = false := by
  simp only [Form.ofContents] at h
  split_ifs at h with h₁ h₂ h₃ h₄ h₅
  simpa [and_assoc] using h₂

/-- When a text is written as a literal string in several lines. -/
theorem ofContents_longLiteral {c : Contents} (h : Form.ofContents c = .longLiteral) :
    c.hasControl = false ∧ c.singleQuotes ≤ 2 := by
  simp only [Form.ofContents] at h
  split_ifs at h with h₁ h₂ h₃ h₄ h₅
  simpa using h₄

/-- A quote does not stand directly behind the opening quote of a basic string that is not empty. -/
theorem head_writeBasic (c : Char) (s : List Char) :
    ∃ d w, writeBasic (c :: s) = d :: w ∧ d ≠ '"' := by
  by_cases hc : c = '"'
  · exact ⟨'\\', '"' :: writeBasic s, by simp [writeBasic, hc], by decide⟩
  · obtain ⟨d, w, hw, hd, -⟩ := head_writeChar false hc fun _ => rfl
    exact ⟨d, w ++ writeBasic s, by simp [writeBasic, hc, hw], hd⟩

/-- A text without line ends does not start with one when it is written in several lines. -/
theorem head_writeLong {s : List Char} (h : '\n' ∉ s) :
    (writeLong 0 s).head? ≠ some '\n' ∧ (writeLong 0 s).head? ≠ some '\r' := by
  cases s with
  | nil => simp [writeLong]
  | cons c s =>
    rw [List.mem_cons, not_or] at h
    rw [writeLong]
    split
    · simp
    · next hc =>
      obtain ⟨d, w, hw, -, hline, hreturn⟩ :=
        head_writeChar true hc fun heq => absurd heq.symm h.1
      simp [hw, hline, hreturn]

/-- Every text is read back from the string it is written as. -/
theorem takes_string (s : List Char) {rest : List Char}
    (hrest : rest.head? ≠ some '"' ∧ rest.head? ≠ some '\'') :
    Takes string (writeString s) rest (String.ofList s) := by
  obtain ⟨hbasic, hliteral⟩ := hrest
  unfold writeString
  simp only
  cases hform : Form.ofContents (Contents.ofText s) with
  | basic =>
    refine takes_string_of_basic (takes_basicString s rest) fun tail heq => ?_
    cases s with
    | nil =>
      obtain rfl := (List.cons.inj heq).2
      exact hbasic rfl
    | cons c s =>
      obtain ⟨d, w, hw, hd⟩ := head_writeBasic c s
      rw [hw] at heq
      exact hd (List.cons.inj heq).1
  | literal =>
    obtain ⟨hcontrol, hquotes, hnewline⟩ := ofContents_literal hform
    have hquote := not_mem_of_longestRun hquotes
    refine takes_string_of_literal (takes_literalString (fun c hc => ⟨?_, ?_⟩) rest)
      fun tail heq => ?_
    · rcases printable_of_hasControl hcontrol c hc with rfl | hc
      · exact absurd hc (not_mem_of_hasNewline hnewline)
      · exact hc
    · rintro rfl
      exact hquote hc
    · cases s with
      | nil =>
        obtain rfl := (List.cons.inj heq).2
        exact hliteral rfl
      | cons c s => exact hquote ((List.cons.inj heq).1 ▸ List.mem_cons_self)
  | longBasic =>
    have hpiece : ∀ s, basicPiece.run ('"' :: s) = none := fun s =>
      (Reader.orElse_of_none (Reader.bind_none (Reader.char_none (by simp)))).trans
        (Reader.map_none (basicChar_quote s) _)
    have hopen : (Contents.ofText s).hasNewline = false → _ := fun hline =>
      head_writeLong (not_mem_of_hasNewline hline)
    have hlong := (body_writeLong (q := 0) (by decide) s).takes_longString (by decide) hpiece
      hopen hbasic
    simpa using takes_string_of_longBasic hlong
  | longLiteral =>
    obtain ⟨hcontrol, hquotes⟩ := ofContents_longLiteral hform
    have hprintable := printable_of_hasControl hcontrol
    have hpiece : ∀ s, literalPiece.run ('\'' :: s) = none := fun s =>
      Reader.map_none (Reader.satisfying_none fun c hc => by cases hc; decide) _
    have hopen : (Contents.ofText s).hasNewline = false →
        s.head? ≠ some '\n' ∧ s.head? ≠ some '\r' := by
      intro hline
      have hmem := not_mem_of_hasNewline hline
      constructor <;> intro hhead <;> have hc := List.mem_of_head? hhead
      · exact hmem hc
      · rcases hprintable _ hc with heq | hreturn
        · cases heq
        · revert hreturn
          decide
    have hlong := (body_literal (q := 0) (by decide) hquotes hprintable).takes_longString
      (by decide) hpiece hopen hliteral
    simpa using takes_string_of_longLiteral hlong

end MailFilter.Toml
