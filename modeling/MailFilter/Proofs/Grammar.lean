import MailFilter.Proofs.Spelling
import MailFilter.Rule.Parser

/-!
# The Grammar of Rules

The grammar as a relation between lists of tokens and what they denote, apart from the reader:

    rule      := condition ( "&" condition )*  |  condition ( "|" condition )*
    condition := ( "!" | "~" | "%" )* keyword name operand
    name      := a word or a quoted text behind the keyword of a header, else nothing
    operand   := nothing  |  number  |  "%"* ( word | number | quoted | pattern )

The words in keyword position are those of a `Vocabulary`. The vocabulary of rules are the codes.

## Main results

* `Condition.read_prepend`, `Condition.prepend_of_read`: the tokens of a condition are read as it,
  and nothing else is.
* `Rule.ofTokens_prepend`: the tokens of a rule are read as its conditions, whatever follows them.
* `Rule.ofTokens_ok_iff`: a stream is read as the rule that its tokens denote, if it reaches the end
  of its text.
* `Rule.parse_ok_iff_denotes`: the same for texts.
-/

namespace MailFilter

/-! ### The grammar -/

/-- What a word in keyword position stands for: a criterion, and whether the word negates it. -/
abbrev Vocabulary := String → Option (Bool × Criterion)

/-- The vocabulary of rules: the codes, none of which negates. -/
def Vocabulary.codes : Vocabulary := fun word => (Criterion.ofCode? word).map (false, ·)

/-- Whether a token may stand in front of a keyword. -/
def Token.isMarker : Token → Bool
  | negation => true
  | exactCase => true
  | _ => false

/-- Whether the number of negations among tokens is odd. -/
def negates (ls : List Spelled) : Bool := ls.countP (·.token == .negation) % 2 == 1

/-- Whether there is a marker for case among tokens. -/
def asksCase (ls : List Spelled) : Bool := ls.any (·.token == .exactCase)

namespace Spelled

/-- The name of a header that a token is. -/
def headerName? (x : Spelled) : Option String :=
  match x.token with
  | .word name => if name = "" then none else some name
  | .quoted name => if name = "" then none else some name
  | _ => none

/-- The operand that a token is, and whether it is a pattern. A number is taken as it is spelled. -/
def operand? (x : Spelled) : Option (Bool × String) :=
  match x.token with
  | .word text => some (false, text)
  | .quoted text => some (false, text)
  | .number _ => some (false, String.ofList x.spelling)
  | .pattern text => some (true, text)
  | _ => none

end Spelled

/-- What stands between a keyword and the operand: the name of a header, else nothing. -/
inductive Criterion.Named : Criterion → List Spelled → Criterion → Prop
  | header {blank name : String} {x : Spelled} :
      x.headerName? = some name → Named (.text (.header blank)) [x] (.text (.header name))
  | other {k : Criterion} : (∀ name, k ≠ .text (.header name)) → Named k [] k

/-- The operand that a criterion asks for. `exact` says whether a marker for case stands in front of
the keyword; it is refused where no text is compared. -/
inductive Test.Asked (exact : Bool) : Criterion → List Spelled → Test → Prop
  | status {s : Status} : exact = false → Asked exact (.status s) [] (.status s)
  | measure {m : Measure} {n : Int64} {x : Spelled} :
      exact = false → x.token = .number n → Asked exact (.measure m) [x] (.measure m n)
  | text {f : Field} {ps : List Spelled} {x : Spelled} {isPattern : Bool} {text : String} :
      (∀ p ∈ ps, p.token = .exactCase) → x.operand? = some (isPattern, text) →
      Asked exact (.text f) (ps ++ [x]) (.text f ⟨isPattern, exact || !ps.isEmpty⟩ text)
  | command {x : Spelled} {text : String} :
      exact = false → x.operand? = some (false, text) → Asked exact .command [x] (.command text)

/-- The tokens of a condition, and the condition that they denote. -/
inductive Condition.Denotes (v : Vocabulary) : List Spelled → Condition → Prop
  | intro {ms hs os : List Spelled} {w : Spelled} {word : String} {n : Bool} {base k : Criterion}
      {test : Test} (markers : ∀ m ∈ ms, m.token.isMarker = true) (keyword : w.token = .word word)
      (meaning : v word = some (n, base)) (name : base.Named hs k)
      (operand : Test.Asked (asksCase ms) k os test) :
      Denotes v (ms ++ w :: (hs ++ os)) ⟨n ^^ negates ms, test⟩

/-- The tokens of the conditions behind the first one, each behind the operator `o`. -/
inductive Condition.DenotesMore (v : Vocabulary) (o : Combinator) :
    List Spelled → List Condition → Prop
  | nil : DenotesMore v o [] []
  | cons {x : Spelled} {ls rest : List Spelled} {c : Condition} {cs : List Condition} :
      x.token = .operator o → Denotes v ls c → DenotesMore v o rest cs →
      DenotesMore v o (x :: (ls ++ rest)) (c :: cs)

/-- The tokens of a rule, and the rule that they denote. All conditions of a rule must hold, unless
they are joined by `|`. -/
inductive Rule.Denotes (v : Vocabulary) : List Spelled → Rule → Prop
  | intro {ls rest : List Spelled} {c : Condition} {cs : List Condition} {o : Combinator} :
      Condition.Denotes v ls c → Condition.DenotesMore v o rest cs →
      Denotes v (ls ++ rest) ⟨c :: cs, if cs = [] then .all else o, by simp⟩

/-! ### Markers -/

@[simp]
theorem negates_nil : negates [] = false := rfl

theorem negates_cons (x : Spelled) (ls : List Spelled) :
    negates (x :: ls) = ((x.token == .negation) ^^ negates ls) := by
  by_cases hx : (x.token == .negation) = true
  · have h := Nat.mod_two_eq_zero_or_one (ls.countP (·.token == .negation))
    simp only [negates, List.countP_cons, hx, if_true, Bool.true_xor]
    rcases h with h | h <;> simp [h, Nat.add_mod]
  · simp [negates, hx]

theorem negates_append (ls ls' : List Spelled) :
    negates (ls ++ ls') = (negates ls ^^ negates ls') := by
  induction ls with
  | nil => simp
  | cons x ls ih => rw [List.cons_append, negates_cons, negates_cons, ih, Bool.xor_assoc]

@[simp]
theorem asksCase_nil : asksCase [] = false := rfl

theorem asksCase_cons (x : Spelled) (ls : List Spelled) :
    asksCase (x :: ls) = (x.token == .exactCase || asksCase ls) := rfl

theorem asksCase_append (ls ls' : List Spelled) :
    asksCase (ls ++ ls') = (asksCase ls || asksCase ls') := List.any_append

/-! ### What each step reads

Each reading step has two lemmas: it reads the tokens of the grammar in front of every stream, and a
stream from which it reads starts with such tokens. -/

namespace Condition

open TokenStream (finished broken lexeme prepend prepend_append prepend_cons prepend_nil)

/-- A word behind markers is read as a keyword. -/
theorem readKeyword_prepend {ms : List Lexeme} {w : Lexeme} {word : String}
    (hm : ∀ m ∈ ms.map Lexeme.spelled, m.token.isMarker = true) (hw : w.token = .word word)
    (n e : Bool) (tail : TokenStream) :
    readKeyword n e (prepend ms (lexeme w tail)) =
      (.ok ⟨n ^^ negates (ms.map Lexeme.spelled), e || asksCase (ms.map Lexeme.spelled), word,
        w.start⟩, ⟨w.stop, tail⟩) := by
  induction ms generalizing n e with
  | nil => simp [readKeyword, hw]
  | cons m ms ih =>
    rw [List.map_cons, List.forall_mem_cons] at hm
    have h := ih hm.2
    have hmark := hm.1
    rw [prepend_cons, readKeyword, List.map_cons, negates_cons, asksCase_cons]
    simp only [Lexeme.spelled, Token.isMarker] at hmark ⊢
    split at hmark
    · next ht =>
      have hne : (Token.negation == Token.exactCase) = false := rfl
      simp [ht, h, hne]
    · next ht =>
      have hne : (Token.exactCase == Token.negation) = false := rfl
      simp [ht, h, hne]
    · cases hmark

/-- A keyword that is read is a word behind markers. -/
theorem prepend_of_readKeyword {n e : Bool} {s : TokenStream} {k : Keyword} {c : Cursor}
    (h : readKeyword n e s = (.ok k, c)) :
    ∃ ms w word tail, s = prepend ms (lexeme w tail) ∧
      (∀ m ∈ ms.map Lexeme.spelled, m.token.isMarker = true) ∧ w.token = .word word := by
  induction s generalizing n e with
  | finished p => cases h
  | broken kind p => cases h
  | lexeme x tail ih =>
    rw [readKeyword] at h
    split at h
    · next ht =>
      obtain ⟨ms, w, word, rest, rfl, hm, hw⟩ := ih h
      exact ⟨x :: ms, w, word, rest, rfl,
        List.forall_mem_cons.2 ⟨by simp [Lexeme.spelled, ht, Token.isMarker], hm⟩, hw⟩
    · next ht =>
      obtain ⟨ms, w, word, rest, rfl, hm, hw⟩ := ih h
      exact ⟨x :: ms, w, word, rest, rfl,
        List.forall_mem_cons.2 ⟨by simp [Lexeme.spelled, ht, Token.isMarker], hm⟩, hw⟩
    · next word ht => exact ⟨[], x, word, tail, rfl, by simp, ht⟩
    · cases h

/-- The name of a header is read from a token that is one. -/
theorem readHeaderName_lexeme (k : Keyword) {p : Nat} {x : Lexeme} {name : String}
    (hx : x.spelled.headerName? = some name) (tail : TokenStream) :
    readHeaderName k ⟨p, lexeme x tail⟩ = (.ok name, ⟨x.stop, tail⟩) := by
  simp only [readHeaderName, Cursor.next]
  simp only [Spelled.headerName?, Lexeme.spelled] at hx
  split at hx
  · split at hx
    · cases hx
    · next hn => cases hx; simp [*]
  · split at hx
    · cases hx
    · next hn => cases hx; simp [*]
  · cases hx

/-- A token from which the name of a header is read is one. -/
theorem lexeme_of_readHeaderName {k : Keyword} {c c' : Cursor} {name : String}
    (h : readHeaderName k c = (.ok name, c')) :
    ∃ x, c.stream = lexeme x c'.stream ∧ x.spelled.headerName? = some name := by
  rcases c with ⟨p, _ | _ | ⟨x, tail⟩⟩
  · cases h
  · cases h
  · simp only [readHeaderName, Cursor.next] at h
    refine ⟨x, ?_⟩
    simp only [Spelled.headerName?, Lexeme.spelled]
    split at h
    · next ht =>
      split at h
      · cases h
      · next hn => cases h; simp [*]
    · next ht =>
      split at h
      · cases h
      · next hn => cases h; simp [*]
    · cases h

/-- The criterion of a keyword is read with the name that it asks for. -/
theorem readCriterion_prepend {k : Keyword} {base criterion : Criterion} {xs : List Lexeme}
    (hk : Criterion.ofCode? k.text = some base)
    (hx : base.Named (xs.map Lexeme.spelled) criterion) (p : Nat) (tail : TokenStream) :
    ∃ q, readCriterion k ⟨p, prepend xs tail⟩ = (.ok criterion, ⟨q, tail⟩) := by
  generalize hls : xs.map Lexeme.spelled = ls at hx
  cases hx with
  | header hx =>
    obtain ⟨x, rfl, rfl⟩ := List.map_eq_singleton_iff.1 hls
    refine ⟨x.stop, ?_⟩
    rw [prepend_cons, prepend_nil]
    simp only [readCriterion, hk, readHeaderName_lexeme k hx]
  | other hne =>
    obtain rfl := List.map_eq_nil_iff.1 hls
    refine ⟨p, ?_⟩
    rw [prepend_nil]
    rw [readCriterion]
    split
    · next h => simp [hk] at h
    · next blank h =>
      rw [hk, Option.some.injEq] at h
      exact absurd h (hne blank)
    · next h => rw [hk] at h; cases h; rfl

/-- A criterion that is read is that of the keyword with the name that it asks for. -/
theorem prepend_of_readCriterion {k : Keyword} {c c' : Cursor} {criterion : Criterion}
    (h : readCriterion k c = (.ok criterion, c')) :
    ∃ base xs, Criterion.ofCode? k.text = some base ∧ c.stream = prepend xs c'.stream ∧
      base.Named (xs.map Lexeme.spelled) criterion := by
  rw [readCriterion] at h
  split at h
  · cases h
  · next blank hk =>
    split at h
    · cases h
    · next name c₁ hn =>
      cases h
      obtain ⟨x, hs, hx⟩ := lexeme_of_readHeaderName hn
      exact ⟨_, [x], hk, hs, .header hx⟩
  · next base hne hk =>
    cases h
    refine ⟨_, [], hk, rfl, .other fun name hb => ?_⟩
    exact hne name hb

/-- A text operand is read behind markers for case. -/
theorem readText_prepend (k : Keyword) {ps : List Lexeme} {x : Lexeme} {isPattern : Bool}
    {text : String} (hp : ∀ p ∈ ps.map Lexeme.spelled, p.token = .exactCase)
    (hx : x.spelled.operand? = some (isPattern, text)) (e : Bool) (tail : TokenStream) :
    readText k e (prepend ps (lexeme x tail)) =
      (.ok (⟨isPattern, e || !ps.isEmpty⟩, text), ⟨x.stop, tail⟩) := by
  induction ps generalizing e with
  | nil =>
    rw [prepend_nil, readText]
    simp only [Spelled.operand?, Lexeme.spelled] at hx
    split at hx <;> cases hx <;> simp [*]
  | cons p ps ih =>
    rw [List.map_cons, List.forall_mem_cons] at hp
    have ht : p.token = .exactCase := hp.1
    rw [prepend_cons, readText]
    simp [ht, ih hp.2]

/-- A text operand that is read stands behind markers for case. -/
theorem prepend_of_readText {k : Keyword} {e : Bool} {s : TokenStream} {o : TextOperand}
    {c : Cursor} (h : readText k e s = (.ok o, c)) :
    ∃ ps x isPattern text tail, s = prepend ps (lexeme x tail) ∧
      (∀ p ∈ ps.map Lexeme.spelled, p.token = .exactCase) ∧
      x.spelled.operand? = some (isPattern, text) := by
  induction s generalizing e with
  | finished p => cases h
  | broken kind p => cases h
  | lexeme x tail ih =>
    rw [readText] at h
    split at h
    · next ht =>
      obtain ⟨ps, y, isPattern, text, rest, rfl, hp, hy⟩ := ih h
      exact ⟨x :: ps, y, isPattern, text, rest, rfl, List.forall_mem_cons.2 ⟨ht, hp⟩, hy⟩
    case h_6 => cases h
    all_goals
      next ht =>
        have hx : ∃ isPattern text, x.spelled.operand? = some (isPattern, text) := by
          simp [Spelled.operand?, Lexeme.spelled, ht]
        obtain ⟨isPattern, text, hx⟩ := hx
        exact ⟨[], x, isPattern, text, tail, rfl, by simp, hx⟩

/-- A number is read from a token that is one. -/
theorem readNumber_ok_iff {k : Keyword} {c c' : Cursor} {n : Int64} :
    readNumber k c = (.ok n, c') ↔
      ∃ x, c.stream = lexeme x c'.stream ∧ x.token = .number n ∧ c'.position = x.stop := by
  rcases c with ⟨p, _ | _ | ⟨x, tail⟩⟩
  · simp [readNumber, Cursor.next]
  · simp [readNumber, Cursor.next]
  · rcases c' with ⟨q, rest⟩
    simp only [readNumber, Cursor.next]
    split <;> simp_all
    constructor <;> (rintro ⟨rfl, rfl, rfl⟩; simp)

/-- The operand that a criterion asks for is read. -/
theorem readTest_prepend {k : Keyword} {criterion : Criterion} {test : Test} {xs : List Lexeme}
    (h : Test.Asked k.exactCase criterion (xs.map Lexeme.spelled) test) (p : Nat)
    (tail : TokenStream) :
    ∃ q, readTest k criterion ⟨p, prepend xs tail⟩ = (.ok test, ⟨q, tail⟩) := by
  generalize hls : xs.map Lexeme.spelled = ls at h
  cases h with
  | status he =>
    obtain rfl := List.map_eq_nil_iff.1 hls
    exact ⟨p, by simp [readTest, he]⟩
  | @measure m n x he ht =>
    obtain ⟨x, rfl, rfl⟩ := List.map_eq_singleton_iff.1 hls
    have hn : readNumber k ⟨p, lexeme x tail⟩ = (.ok n, ⟨x.stop, tail⟩) :=
      readNumber_ok_iff.2 ⟨x, rfl, ht, rfl⟩
    exact ⟨x.stop, by simp [readTest, he, hn]⟩
  | text hp hx =>
    obtain ⟨ps, l, rfl, rfl, hl⟩ := List.map_eq_append_iff.1 hls
    obtain ⟨x, rfl, rfl⟩ := List.map_eq_singleton_iff.1 hl
    have hr := readText_prepend k hp hx k.exactCase tail
    refine ⟨x.stop, ?_⟩
    rw [prepend_append, prepend_cons, prepend_nil]
    simp [readTest, hr]
  | command he hx =>
    obtain ⟨x, rfl, rfl⟩ := List.map_eq_singleton_iff.1 hls
    have hps : ∀ p ∈ ([] : List Lexeme).map Lexeme.spelled, p.token = .exactCase := by simp
    have hr := readText_prepend k hps hx k.exactCase tail
    refine ⟨x.stop, ?_⟩
    rw [prepend_nil, he] at hr
    rw [prepend_cons, prepend_nil]
    simp [readTest, hr, he, Comparison.plain]

/-- What is read as the operand of a criterion is what it asks for. -/
theorem prepend_of_readTest {k : Keyword} {criterion : Criterion} {test : Test} {c c' : Cursor}
    (h : readTest k criterion c = (.ok test, c')) :
    ∃ xs, c.stream = prepend xs c'.stream ∧
      Test.Asked k.exactCase criterion (xs.map Lexeme.spelled) test := by
  unfold readTest at h
  split at h
  · split at h
    · cases h
    · next he =>
      cases h
      exact ⟨[], rfl, .status (by simpa using he)⟩
  · split at h
    · cases h
    · next he =>
      split at h
      · cases h
      · next n c₁ hn =>
        cases h
        obtain ⟨x, hs, ht, -⟩ := readNumber_ok_iff.1 hn
        exact ⟨[x], hs, .measure (by simpa using he) ht⟩
  · split at h
    · cases h
    · next how text c₁ hr =>
      cases h
      obtain ⟨ps, x, isPattern, text', tail, hs, hp, hx⟩ := prepend_of_readText hr
      rw [hs, readText_prepend k hp hx] at hr
      cases hr
      refine ⟨ps ++ [x], by rw [hs, prepend_append]; rfl, ?_⟩
      rw [List.map_append, List.isEmpty_map.symm]
      exact .text hp hx
  · split at h
    · cases h
    · next how text c₁ hr =>
      obtain ⟨ps, x, isPattern, text', tail, hs, hp, hx⟩ := prepend_of_readText hr
      rw [hs, readText_prepend k hp hx] at hr
      cases hr
      split at h
      · next hplain =>
        cases h
        -- a plain comparison has no marker for case in front of its operand
        simp only [Comparison.plain, Comparison.mk.injEq, Bool.or_eq_false_iff,
          Bool.not_eq_false', List.isEmpty_iff] at hplain
        obtain ⟨rfl, he, rfl⟩ := hplain
        exact ⟨[x], hs, .command he hx⟩
      · cases h

/-! ### Conditions -/

/-- The tokens of a condition are read as it, whatever follows them. -/
theorem read_prepend {xs : List Lexeme} {c : Condition}
    (h : Denotes .codes (xs.map Lexeme.spelled) c) (tail : TokenStream) :
    ∃ q, read (prepend xs tail) = (.ok c, ⟨q, tail⟩) := by
  generalize hls : xs.map Lexeme.spelled = ls at h
  cases h with
  | @intro _ _ _ _ word _ _ _ _ markers keyword meaning name operand =>
    obtain ⟨ms, l, rfl, rfl, hl⟩ := List.map_eq_append_iff.1 hls
    obtain ⟨w, l', rfl, rfl, hl'⟩ := List.map_eq_cons_iff.1 hl
    obtain ⟨hs, os, rfl, rfl, rfl⟩ := List.map_eq_append_iff.1 hl'
    obtain ⟨base, hbase, hb⟩ := Option.map_eq_some_iff.1 meaning
    cases hb
    let k : Keyword :=
      ⟨negates (ms.map Lexeme.spelled), asksCase (ms.map Lexeme.spelled), word, w.start⟩
    have hk : readKeyword false false (prepend ms (lexeme w (prepend (hs ++ os) tail))) =
        (.ok k, ⟨w.stop, prepend (hs ++ os) tail⟩) := by
      simpa using readKeyword_prepend markers keyword false false (prepend (hs ++ os) tail)
    obtain ⟨p, hc⟩ := readCriterion_prepend (k := k) hbase name w.stop (prepend os tail)
    obtain ⟨q, ht⟩ := readTest_prepend (k := k) operand p tail
    refine ⟨q, ?_⟩
    rw [prepend_append, prepend_cons]
    rw [read]
    rw [hk, prepend_append]
    simp only [hc, ht, Bool.false_xor, k]

/-- What is read as a condition are tokens of it. -/
theorem prepend_of_read {s : TokenStream} {c : Condition} {cursor : Cursor}
    (h : read s = (.ok c, cursor)) :
    ∃ xs, s = prepend xs cursor.stream ∧ Denotes .codes (xs.map Lexeme.spelled) c := by
  rw [read] at h
  split at h
  · cases h
  · next k c₁ hk =>
    obtain ⟨ms, w, word, tail, rfl, hm, hw⟩ := prepend_of_readKeyword hk
    rw [readKeyword_prepend hm hw] at hk
    cases hk
    split at h
    · cases h
    · next criterion c₂ hc =>
      obtain ⟨base, hs, hbase, hstream, hname⟩ := prepend_of_readCriterion hc
      split at h
      · cases h
      · next test c₃ ht =>
        cases h
        obtain ⟨os, hstream', hop⟩ := prepend_of_readTest ht
        rw [hstream'] at hstream
        refine ⟨ms ++ w :: (hs ++ os), ?_, ?_⟩
        · rw [prepend_append, prepend_cons, prepend_append, ← hstream]
        · rw [List.map_append, List.map_cons, List.map_append, Bool.false_xor]
          have hmeaning : Vocabulary.codes word = some (false, base) := by
            rw [Vocabulary.codes, hbase, Option.map_some]
          have h := Denotes.intro (w := w.spelled) hm hw hmeaning hname hop
          rwa [Bool.false_xor] at h

/-- A condition has at least one token. -/
theorem Denotes.ne_nil {v : Vocabulary} {ls : List Spelled} {c : Condition} (h : Denotes v ls c) :
    ls ≠ [] := by
  cases h
  simp

end Condition

/-! ### Rules -/

namespace Rule

open TokenStream (finished broken lexeme prepend prepend_append prepend_cons)

/-- The tokens of a condition are not the end of a text. -/
theorem isFinished_prepend {xs : List Lexeme} (h : xs.map Lexeme.spelled ≠ [])
    (tail : TokenStream) : (prepend xs tail).isFinished = false := by
  cases xs with
  | nil => exact absurd rfl h
  | cons x xs => rfl

/-- An operator is taken unless another one has been seen. -/
theorem fits_iff {seen : Option Combinator} {o : Combinator} :
    ¬ seen.any (· ≠ o) = true ↔ ∀ p ∈ seen, p = o := by
  cases seen <;> simp

/-- Behind an operator that fits a condition is read, and reading goes on behind it. -/
theorem readMore_operator {seen : Option Combinator} {o : Combinator} {x : Lexeme}
    (hx : x.token = .operator o) (hseen : ∀ p ∈ seen, p = o) {s : TokenStream}
    (hs : s.isFinished = false) :
    readMore seen (lexeme x s) =
      match Condition.read s with
      | (.error e, _) => .error e
      | (.ok c, cursor) =>
        (readMore (some o) cursor.stream).map fun (k, cs) => (k, c :: cs) := by
  rw [readMore, hx]
  simp only [if_neg (fits_iff.2 hseen), hs, Bool.false_eq_true, if_false]
  split
  · next he => rw [he]
  · next he => rw [he]

/-- An operator that does not fit is refused. -/
theorem readMore_mixed {seen : Option Combinator} {o : Combinator} {x : Lexeme}
    (hx : x.token = .operator o) (hseen : ¬ ∀ p ∈ seen, p = o) (s : TokenStream) :
    readMore seen (lexeme x s) = .error (.mixedOperators x.start) := by
  rw [readMore, hx]
  exact if_pos (not_not.1 (mt fits_iff.1 hseen))

/-- The conditions behind an operator that fits are read and the operator is kept, whatever follows
them. -/
theorem readMore_prepend {o : Combinator} {ls : List Spelled} {cs : List Condition}
    (h : Condition.DenotesMore .codes o ls cs) {xs : List Lexeme} (hxs : xs.map Lexeme.spelled = ls)
    {seen : Option Combinator} (hseen : ∀ p ∈ seen, p = o) (tail : TokenStream) :
    readMore seen (prepend xs tail) =
      (readMore (if cs = [] then seen else some o) tail).map fun (k, ds) => (k, cs ++ ds) := by
  induction h generalizing xs seen with
  | nil =>
    obtain rfl := List.map_eq_nil_iff.1 hxs
    rw [TokenStream.prepend_nil, if_pos rfl]
    cases readMore seen tail <;> rfl
  | @cons x ls rest c cs hx hc hcs ih =>
    obtain ⟨x, l, rfl, rfl, hl⟩ := List.map_eq_cons_iff.1 hxs
    obtain ⟨ys, zs, rfl, rfl, rfl⟩ := List.map_eq_append_iff.1 hl
    obtain ⟨q, hr⟩ := Condition.read_prepend hc (prepend zs tail)
    have hfin := isFinished_prepend hc.ne_nil (prepend zs tail)
    have hkept : ∀ p ∈ some o, p = o := by simp
    rw [prepend_cons, prepend_append, readMore_operator hx hseen hfin, hr]
    simp only [ih rfl hkept, ite_self, if_neg (List.cons_ne_nil c cs)]
    cases readMore (some o) tail <;> rfl

/-- The operator that is known behind the conditions of a rule: none behind a single one. -/
def joint? (r : Rule) : Option Combinator :=
  if r.conditions.tail = [] then none else some r.combinator

/-- A rule with the conditions behind its own, and with the operator that is known then. -/
def extend (r : Rule) (more : Option Combinator × List Condition) : Rule :=
  ⟨r.conditions ++ more.2, more.1.getD .all, by simp [r.conditions_ne_nil]⟩

/-- The tokens of a rule are read as its conditions, whatever follows them. -/
theorem ofTokens_prepend {xs : List Lexeme} {r : Rule}
    (h : Denotes .codes (xs.map Lexeme.spelled) r) (tail : TokenStream) :
    ofTokens (prepend xs tail) = (readMore r.joint? tail).map r.extend := by
  generalize hls : xs.map Lexeme.spelled = ls at h
  cases h with
  | @intro ls rest c cs o hc hcs =>
    obtain ⟨ys, zs, rfl, rfl, rfl⟩ := List.map_eq_append_iff.1 hls
    obtain ⟨q, hr⟩ := Condition.read_prepend hc (prepend zs tail)
    have hnone : ∀ p ∈ (none : Option Combinator), p = o := by simp
    have hm := readMore_prepend hcs rfl hnone tail
    have hfin := isFinished_prepend hc.ne_nil (prepend zs tail)
    have hjoint : joint? ⟨c :: cs, if cs = [] then .all else o, by simp⟩ =
        if cs = [] then none else some o := by
      unfold joint?
      split_ifs <;> simp_all
    rw [prepend_append, hjoint]
    unfold ofTokens
    split
    · next hs =>
      rw [hs] at hfin
      cases hfin
    · rw [hr]
      simp only [hm]
      cases readMore (if cs = [] then none else some o) tail <;> rfl

/-- A rule is what its tokens are read as where nothing follows. -/
theorem Denotes.extend_nil {v : Vocabulary} {ls : List Spelled} {r : Rule} (h : Denotes v ls r) :
    r.extend (r.joint?, []) = r := by
  cases h with
  | @intro ls rest c cs o hc hcs =>
    simp only [extend, joint?, List.append_nil, mk.injEq, true_and, List.tail_cons]
    split_ifs <;> rfl

/-- What is read behind a condition are conditions behind operators that fit. -/
theorem denotes_of_readMore {seen last : Option Combinator} {s : TokenStream}
    {cs : List Condition} (h : readMore seen s = .ok (last, cs)) :
    ∃ o ls, s.spelled? = some ls ∧ Condition.DenotesMore .codes o ls cs ∧ (∀ p ∈ seen, p = o) ∧
      last = if cs = [] then seen else some o := by
  fun_induction readMore seen s generalizing last cs with
  | case1 seen p =>
    cases h
    refine ⟨seen.getD .all, [], rfl, .nil, ?_, rfl⟩
    rintro p rfl
    rfl
  | case6 seen x tail o ht hany hfin c cursor hr ih =>
    cases hm : readMore (some o) cursor.stream with
    | error e =>
      rw [hm] at h
      cases h
    | ok more =>
      obtain ⟨last', cs'⟩ := more
      rw [hm] at h
      cases h
      obtain ⟨o', rest, hrest, hmore, hfit, hlast⟩ := ih hm
      obtain rfl : o = o' := hfit o rfl
      obtain ⟨ys, hs, hden⟩ := Condition.prepend_of_read hr
      obtain ⟨zs, p, hz, rfl⟩ := TokenStream.spelled?_eq_some_iff.1 hrest
      refine ⟨o, x.spelled :: (ys.map Lexeme.spelled ++ zs.map Lexeme.spelled), ?_,
        .cons ht hden hmore, fits_iff.1 hany, ?_⟩
      · rw [hs, hz, ← prepend_append]
        exact TokenStream.spelled?_eq_some_iff.2 ⟨x :: (ys ++ zs), p, rfl, by simp⟩
      · rw [hlast]
        simp
  | case2 | case3 | case4 | case5 | case7 => cases h

/-- A stream is read as a rule exactly if it reaches the end of its text and its tokens denote the
rule. -/
theorem ofTokens_ok_iff {s : TokenStream} {r : Rule} :
    ofTokens s = .ok r ↔ ∃ ls, s.spelled? = some ls ∧ Denotes .codes ls r := by
  constructor
  · intro h
    unfold ofTokens at h
    split at h
    · cases h
    · split at h
      · cases h
      · next c cursor hr =>
        split at h
        · cases h
        · next last cs hm =>
          cases h
          obtain ⟨ys, hs, hden⟩ := Condition.prepend_of_read hr
          obtain ⟨o, ls, hls, hmore, -, rfl⟩ := denotes_of_readMore hm
          obtain ⟨zs, p, hz, rfl⟩ := TokenStream.spelled?_eq_some_iff.1 hls
          refine ⟨ys.map Lexeme.spelled ++ zs.map Lexeme.spelled, ?_, ?_⟩
          · rw [hs, hz, ← prepend_append, ← List.map_append]
            exact TokenStream.spelled?_eq_some_iff.2 ⟨ys ++ zs, p, rfl, rfl⟩
          · have h := Denotes.intro hden hmore
            convert h using 2
            split <;> rfl
  · rintro ⟨ls, hs, h⟩
    obtain ⟨xs, p, rfl, rfl⟩ := TokenStream.spelled?_eq_some_iff.1 hs
    rw [ofTokens_prepend h, readMore, Except.map, h.extend_nil]

/-- A text is accepted exactly if it is a list of tokens in the grammar, as the rule that the
grammar gives. -/
theorem parse_ok_iff_denotes (text : String) (r : Rule) :
    Rule.parse text = .ok r ↔ ∃ ls, spelled? text.toList = some ls ∧ Denotes .codes ls r :=
  ofTokens_ok_iff

end Rule

end MailFilter
