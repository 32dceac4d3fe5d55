import MailFilter.Proofs.Grammar

/-!
# Viable Prefixes of Rules

A rule is refused at a place: what stands there is what the fault is about (`SyntaxError.At`,
`Rule.StopsAt`), and the tokens in front of it could still have become a rule (`Rule.IsViable`).

There is one exception. A command takes no marker for case, but it is refused for one only once its
operand has been read. Where that operand is a delimiter that is not closed, the fault is reported
there, and no rule starts with the tokens in front of it (`Rule.IsExactCommand`).

## Main results

* `Condition.stopsAt_of_read`: where the reading of a condition fails, and what stands in front.
* `Rule.stopsAt_of_ofTokens`: the same for rules.
* `Rule.IsExactCommand.ofTokens`: the exception is refused whatever follows.
-/

namespace MailFilter

open TokenStream (finished broken lexeme prepend prepend_nil prepend_cons prepend_append)

/-- A fault that is about the front of a stream: the token there, the delimiter that is not closed,
or the end. -/
inductive SyntaxError.At : TokenStream → SyntaxError → Prop
  | unknownKeyword {x : Lexeme} {rest : TokenStream} {word : String} :
      x.token = .word word → At (lexeme x rest) (.unknownKeyword word x.start)
  | missingOperand {x : Lexeme} {rest : TokenStream} {word : String} :
      x.token = .word word → At (lexeme x rest) (.missingOperand word x.start)
  | unexpectedModifier {x : Lexeme} {rest : TokenStream} {word : String} :
      x.token = .word word → At (lexeme x rest) (.unexpectedModifier word x.start)
  | unexpectedToken {x : Lexeme} {rest : TokenStream} :
      (∀ word, x.token ≠ .word word) → x.token.isMarker = false →
      At (lexeme x rest) (.unexpectedToken (String.ofList x.spelling) x.start)
  | invalidNumber {x : Lexeme} {rest : TokenStream} {value : String} :
      x.token = .word value ∨ x.token = .quoted value →
      At (lexeme x rest) (.invalidNumber value x.start)
  | unterminated {kind : Delimited} {p : Nat} : At (broken kind p) (.unterminated kind p)
  | missingCondition {p : Nat} : At (finished p) (.missingCondition p)
  | trailingInput {x : Lexeme} {rest : TokenStream} :
      (∀ o, x.token ≠ .operator o) → At (lexeme x rest) (.trailingInput x.start)

/-- Whether a fault is a delimiter that is not closed. -/
def SyntaxError.isUnterminated : SyntaxError → Bool
  | unterminated _ _ => true
  | _ => false

/-! ### Conditions that can be completed -/

/-- Tokens behind which the operand of a criterion can be completed. -/
def Test.IsViable (exact : Bool) (k : Criterion) (ps : List Spelled) : Prop :=
  ∃ cont ls test, spelled? cont = some ls ∧ Test.Asked exact k (ps ++ ls) test

/-- Tokens behind which a condition can be completed. -/
def Condition.IsViable (ls : List Spelled) : Prop :=
  ∃ cont ls' c, spelled? cont = some ls' ∧ Condition.Denotes .codes (ls ++ ls') c

/-- The tokens of a command with a marker for case, up to the operand. -/
inductive Condition.IsExactCommand : List Spelled → Prop
  | intro {ms ps : List Spelled} {w : Spelled} (markers : ∀ m ∈ ms, m.token.isMarker = true)
      (keyword : w.token = .word Criterion.command.code)
      (between : ∀ p ∈ ps, p.token = .exactCase) (exact : asksCase (ms ++ ps) = true) :
      IsExactCommand (ms ++ w :: ps)

/-- Markers for case ask for case, if there are any. -/
theorem asksCase_of_forall {ps : List Spelled} (h : ∀ p ∈ ps, p.token = .exactCase) :
    asksCase ps = !ps.isEmpty := by
  cases ps with
  | nil => rfl
  | cons p ps => simp [asksCase_cons, h p List.mem_cons_self]

namespace Test.IsViable

/-- A number can follow the keyword of a measure. -/
theorem measure (m : Measure) : IsViable false (.measure m) [] :=
  ⟨['0'], [⟨.number 0, ['0']⟩], .measure m 0, by decide +kernel, .measure rfl rfl⟩

/-- A word can follow the keyword of a text and markers for case. -/
theorem text (exact : Bool) (f : Field) {ps : List Spelled}
    (hp : ∀ p ∈ ps, p.token = .exactCase) : IsViable exact (.text f) ps :=
  ⟨['x'], [⟨.word "x", ['x']⟩], _, by decide +kernel, .text hp rfl⟩

/-- A word can follow the keyword of a command. -/
theorem command : IsViable false .command [] :=
  ⟨['x'], [⟨.word "x", ['x']⟩], .command "x", by decide +kernel, .command rfl rfl⟩

end Test.IsViable

namespace Condition

section
variable {ms hs ps : List Spelled} {w : Spelled} {word : String} {base k : Criterion}

/-- A condition can be completed where the operand can. -/
theorem IsViable.operand (hm : ∀ m ∈ ms, m.token.isMarker = true) (hw : w.token = .word word)
    (hword : Criterion.ofCode? word = some base) (hname : base.Named hs k)
    (h : Test.IsViable (asksCase ms) k ps) : IsViable (ms ++ w :: (hs ++ ps)) := by
  obtain ⟨cont, ls, test, hcont, htest⟩ := h
  have hcodes : Vocabulary.codes word = some (false, base) := by
    rw [Vocabulary.codes, hword, Option.map_some]
  have hden := Denotes.intro hm hw hcodes hname htest
  rw [← List.append_assoc, ← List.cons_append, ← List.append_assoc] at hden
  exact ⟨cont, ls, _, hcont, hden⟩

/-- A keyword and an operand can follow markers. -/
theorem IsViable.markers (hm : ∀ m ∈ ms, m.token.isMarker = true) : IsViable ms := by
  have hspelled : spelled? "s x".toList =
      some [⟨.word "s", ['s']⟩, ⟨.word "x", ['x']⟩] := by decide +kernel
  have hcodes : Vocabulary.codes "s" = some (false, .text .subject) := rfl
  have hname : (Criterion.text .subject).Named [] (.text .subject) := .other (by simp)
  have hoperand : Test.Asked (asksCase ms) (.text .subject) ([] ++ [⟨.word "x", ['x']⟩]) _ :=
    .text (by simp) rfl
  exact ⟨_, _, _, hspelled, .intro hm rfl hcodes hname hoperand⟩

/-- A name and an operand can follow the keyword of a header. -/
theorem IsViable.header {blank : String} (hm : ∀ m ∈ ms, m.token.isMarker = true)
    (hw : w.token = .word word) (hword : Criterion.ofCode? word = some (.text (.header blank))) :
    IsViable (ms ++ [w]) := by
  have hspelled : spelled? "x y".toList =
      some [⟨.word "x", ['x']⟩, ⟨.word "y", ['y']⟩] := by decide +kernel
  have hcodes : Vocabulary.codes word = some (false, .text (.header blank)) := by
    rw [Vocabulary.codes, hword, Option.map_some]
  have hname : (Criterion.text (.header blank)).Named [⟨.word "x", ['x']⟩]
      (.text (.header "x")) := .header rfl
  have hoperand : Test.Asked (asksCase ms) (.text (.header "x")) ([] ++ [⟨.word "y", ['y']⟩]) _ :=
    .text (by simp) rfl
  have hden := Denotes.intro hm hw hcodes hname hoperand
  rw [← List.singleton_append, ← List.append_assoc] at hden
  exact ⟨_, _, _, hspelled, hden⟩

end

/-! ### What each step stops at -/

/-- The faults that are about a keyword. -/
inductive Keyword.Blames (k : Keyword) : SyntaxError → Prop
  | unknown : Blames k (.unknownKeyword k.text k.position)
  | missing : Blames k k.missingOperand
  | modifier : Blames k k.unexpectedModifier

/-- Before a keyword is read there are markers. -/
theorem stopsAt_of_readKeyword {n exact : Bool} {s : TokenStream} {e : SyntaxError} {c : Cursor}
    (h : readKeyword n exact s = (.error e, c)) :
    ∃ ms tail, s = prepend ms tail ∧ (∀ m ∈ ms.map Lexeme.spelled, m.token.isMarker = true) ∧
      e.At tail := by
  induction s generalizing n exact with
  | finished p =>
    cases h
    exact ⟨[], _, rfl, by simp, .missingCondition⟩
  | broken kind p =>
    cases h
    exact ⟨[], _, rfl, by simp, .unterminated⟩
  | lexeme x tail ih =>
    rw [readKeyword] at h
    split at h
    · next ht =>
      obtain ⟨ms, rest, rfl, hm, hat⟩ := ih h
      exact ⟨x :: ms, rest, rfl,
        List.forall_mem_cons.2 ⟨by simp [Lexeme.spelled, ht, Token.isMarker], hm⟩, hat⟩
    · next ht =>
      obtain ⟨ms, rest, rfl, hm, hat⟩ := ih h
      exact ⟨x :: ms, rest, rfl,
        List.forall_mem_cons.2 ⟨by simp [Lexeme.spelled, ht, Token.isMarker], hm⟩, hat⟩
    · cases h
    · next hnegation hexact hword =>
      cases h
      have hmarker : x.token.isMarker = false := by
        unfold Token.isMarker
        split <;> simp_all
      exact ⟨[], _, rfl, by simp, .unexpectedToken hword hmarker⟩

/-- A criterion fails at its keyword, or at a delimiter in place of the name of a header. -/
theorem stopsAt_of_readCriterion {k : Keyword} {c c' : Cursor} {e : SyntaxError}
    (h : readCriterion k c = (.error e, c')) :
    k.Blames e ∨
      (∃ name, Criterion.ofCode? k.text = some (.text (.header name))) ∧ e.At c.stream := by
  rw [readCriterion] at h
  split at h
  · cases h
    exact .inl .unknown
  · next name hk =>
    rcases c with ⟨p, _ | _ | ⟨x, tail⟩⟩
    · cases h
      exact .inl .missing
    · cases h
      exact .inr ⟨⟨name, hk⟩, .unterminated⟩
    · left
      simp only [readHeaderName, Cursor.next] at h
      split at h
      · next hn =>
        -- a token that is no name is the lack of one
        cases h
        split at hn
        · split at hn <;> cases hn
          exact .missing
        · split at hn <;> cases hn
          exact .missing
        · cases hn
          exact .missing
      · cases h
  · cases h

/-- A number fails at its keyword, or where it should stand. -/
theorem stopsAt_of_readNumber {k : Keyword} {c c' : Cursor} {e : SyntaxError}
    (h : readNumber k c = (.error e, c')) : k.Blames e ∨ e.At c.stream := by
  rcases c with ⟨p, _ | _ | ⟨x, tail⟩⟩
  · cases h
    exact .inl .missing
  · cases h
    exact .inr .unterminated
  · simp only [readNumber, Cursor.next] at h
    split at h
    · cases h
    · next ht =>
      cases h
      exact .inr (.invalidNumber (.inl ht))
    · next ht =>
      cases h
      exact .inr (.invalidNumber (.inr ht))
    · cases h
      exact .inl .missing

/-- A text operand fails at its keyword, or at a delimiter behind markers for case. -/
theorem stopsAt_of_readText {k : Keyword} {exact : Bool} {s : TokenStream} {e : SyntaxError}
    {c : Cursor} (h : readText k exact s = (.error e, c)) :
    k.Blames e ∨ ∃ ps tail, s = prepend ps tail ∧
      (∀ p ∈ ps.map Lexeme.spelled, p.token = .exactCase) ∧ e.At tail ∧
      e.isUnterminated = true := by
  induction s generalizing exact with
  | finished p =>
    cases h
    exact .inl .missing
  | broken kind p =>
    cases h
    exact .inr ⟨[], _, rfl, by simp, .unterminated, rfl⟩
  | lexeme x tail ih =>
    rw [readText] at h
    split at h
    · next ht =>
      refine (ih h).imp_right ?_
      rintro ⟨ps, rest, rfl, hp, hat⟩
      exact ⟨x :: ps, rest, rfl, List.forall_mem_cons.2 ⟨ht, hp⟩, hat⟩
    case h_6 =>
      cases h
      exact .inl .missing
    all_goals cases h

/-- An operand fails at its keyword, or where what stands behind the keyword can be completed. The
operand of a command with a marker for case cannot. -/
theorem stopsAt_of_readTest {k : Keyword} {criterion : Criterion} {c c' : Cursor}
    {e : SyntaxError} (h : readTest k criterion c = (.error e, c')) :
    k.Blames e ∨ ∃ ps tail, c.stream = prepend ps tail ∧ e.At tail ∧
      (Test.IsViable k.exactCase criterion (ps.map Lexeme.spelled) ∨
        criterion = .command ∧ (∀ p ∈ ps.map Lexeme.spelled, p.token = .exactCase) ∧
          (k.exactCase || !ps.isEmpty) = true ∧ e.isUnterminated = true) := by
  unfold readTest at h
  split at h
  · split at h <;> cases h
    exact .inl .modifier
  · next m =>
    split at h
    · cases h
      exact .inl .modifier
    · next hexact =>
      split at h
      · next c₁ hn =>
        cases h
        rw [Bool.not_eq_true] at hexact
        exact (stopsAt_of_readNumber hn).imp_right fun hat =>
          ⟨[], c.stream, rfl, hat, .inl (hexact ▸ .measure m)⟩
      · cases h
  · next f =>
    split at h
    · next c₁ hr =>
      cases h
      refine (stopsAt_of_readText hr).imp_right ?_
      rintro ⟨ps, tail, hs, hp, hat, -⟩
      exact ⟨ps, tail, hs, hat, .inl (.text k.exactCase f hp)⟩
    · cases h
  · split at h
    · next c₁ hr =>
      cases h
      refine (stopsAt_of_readText hr).imp_right ?_
      rintro ⟨ps, tail, hs, hp, hat, hopen⟩
      refine ⟨ps, tail, hs, hat, ?_⟩
      cases hasks : k.exactCase || !ps.isEmpty with
      | true => exact .inr ⟨rfl, hp, rfl, hopen⟩
      | false =>
        simp only [Bool.or_eq_false_iff, Bool.not_eq_false', List.isEmpty_iff] at hasks
        obtain ⟨hexact, rfl⟩ := hasks
        exact .inl (hexact ▸ .command)
    · split at h <;> cases h
      exact .inl .modifier

/-- A fault about a keyword is about the word that was read as the keyword. -/
theorem Keyword.Blames.at_lexeme {w : Lexeme} {word : String} {n exact : Bool} {e : SyntaxError}
    (h : Keyword.Blames ⟨n, exact, word, w.start⟩ e) (hw : w.token = .word word)
    (tail : TokenStream) : e.At (lexeme w tail) := by
  cases h with
  | unknown => exact .unknownKeyword hw
  | missing => exact .missingOperand hw
  | modifier => exact .unexpectedModifier hw

/-- A condition is refused where the tokens in front can be completed, or at the operand of a
command with a marker for case. -/
theorem stopsAt_of_read {s : TokenStream} {e : SyntaxError} {c : Cursor}
    (h : read s = (.error e, c)) :
    ∃ xs tail, s = prepend xs tail ∧ e.At tail ∧
      (IsViable (xs.map Lexeme.spelled) ∨
        IsExactCommand (xs.map Lexeme.spelled) ∧ e.isUnterminated = true) := by
  rw [read] at h
  split at h
  · next hk =>
    cases h
    obtain ⟨ms, tail, rfl, hm, hat⟩ := stopsAt_of_readKeyword hk
    exact ⟨ms, tail, rfl, hat, .inl (.markers hm)⟩
  · next k c₁ hk =>
    obtain ⟨ms, w, word, rest, rfl, hm, hw⟩ := prepend_of_readKeyword hk
    rw [readKeyword_prepend hm hw] at hk
    cases hk
    split at h
    · next hc =>
      cases h
      rcases stopsAt_of_readCriterion hc with hblame | ⟨⟨name, hword⟩, hat⟩
      · exact ⟨ms, _, rfl, hblame.at_lexeme hw rest, .inl (.markers hm)⟩
      · refine ⟨ms ++ [w], rest, (prepend_append ms [w] rest).symm, hat, .inl ?_⟩
        rw [List.map_append]
        exact .header hm hw hword
    · next criterion c₂ hc =>
      obtain ⟨base, hs, hword, hstream, hname⟩ := prepend_of_readCriterion hc
      split at h
      · next ht =>
        cases h
        rcases stopsAt_of_readTest ht with hblame | ⟨ps, tail, hstream', hat, hfront⟩
        · exact ⟨ms, _, rfl, hblame.at_lexeme hw rest, .inl (.markers hm)⟩
        · refine ⟨ms ++ w :: (hs ++ ps), tail, ?_, hat, ?_⟩
          · rw [prepend_append, prepend_cons, prepend_append, ← hstream', ← hstream]
          · rw [List.map_append, List.map_cons, List.map_append]
            refine hfront.imp (fun hviable => .operand hm hw hword hname hviable) ?_
            rintro ⟨rfl, hp, hexact, hopen⟩
            generalize hls : hs.map Lexeme.spelled = ls at hname
            cases hname with
            | other =>
              have hcode : word = Criterion.command.code := (Criterion.code_of_ofCode? hword).symm
              have hasks : asksCase (ms.map Lexeme.spelled ++ ps.map Lexeme.spelled) = true := by
                rw [asksCase_append, asksCase_of_forall hp, List.isEmpty_map]
                exact hexact
              exact ⟨.intro hm (hw.trans (congrArg _ hcode)) hp hasks, hopen⟩
      · cases h

/-- A command that waits for its operand has a keyword. -/
theorem IsExactCommand.ne_nil {ls : List Spelled} (h : IsExactCommand ls) : ls ≠ [] := by
  cases h
  simp

/-- Markers for case in front of an operand count like those in front of the keyword. -/
theorem readText_markers (k : Keyword) {ps : List Lexeme}
    (hp : ∀ p ∈ ps.map Lexeme.spelled, p.token = .exactCase) (exact : Bool) (s : TokenStream) :
    readText k exact (prepend ps s) =
      readText k (exact || asksCase (ps.map Lexeme.spelled)) s := by
  induction ps generalizing exact with
  | nil => simp
  | cons p ps ih =>
    rw [List.map_cons, List.forall_mem_cons] at hp
    have ht : p.token = .exactCase := hp.1
    rw [prepend_cons, readText]
    simp [ht, ih hp.2, asksCase_cons, Lexeme.spelled]

/-- A command with a marker for case is refused whatever follows it. -/
theorem IsExactCommand.read {ys : List Lexeme} (h : IsExactCommand (ys.map Lexeme.spelled))
    (tail : TokenStream) : ∃ e c, Condition.read (prepend ys tail) = (.error e, c) := by
  generalize hls : ys.map Lexeme.spelled = ls at h
  cases h with
  | intro hm hw hp hasks =>
    obtain ⟨ms, l, rfl, rfl, hl⟩ := List.map_eq_append_iff.1 hls
    obtain ⟨w, ps, rfl, rfl, rfl⟩ := List.map_eq_cons_iff.1 hl
    rw [asksCase_append] at hasks
    let k : Keyword := ⟨negates (ms.map Lexeme.spelled), asksCase (ms.map Lexeme.spelled),
      Criterion.command.code, w.start⟩
    have hk : readKeyword false false (prepend ms (lexeme w (prepend ps tail))) =
        (.ok k, ⟨w.stop, prepend ps tail⟩) := by
      simpa using readKeyword_prepend hm hw false false (prepend ps tail)
    have hc : readCriterion k ⟨w.stop, prepend ps tail⟩ =
        (.ok .command, ⟨w.stop, prepend ps tail⟩) := rfl
    have ht : readText k k.exactCase (prepend ps tail) = readText k true tail := by
      rw [readText_markers k hp]
      exact congrArg (readText k · tail) hasks
    rw [prepend_append, prepend_cons, Condition.read, hk]
    simp only [hc, readTest, ht]
    cases hr : readText k true tail with
    | mk result c =>
      cases result with
      | error e => exact ⟨_, _, rfl⟩
      | ok o =>
        obtain ⟨how, text⟩ := o
        -- whatever the operand is, it is compared with case
        obtain ⟨qs, x, isPattern, text', rest, rfl, hq, hx⟩ := prepend_of_readText hr
        rw [readText_prepend k hq hx] at hr
        cases hr
        have hplain : (⟨isPattern, true || !qs.isEmpty⟩ : Comparison) ≠ .plain := by
          simp [Comparison.plain]
        exact ⟨k.unexpectedModifier, ⟨x.stop, rest⟩, by simp only [if_neg hplain]⟩

end Condition

/-! ### Rules that can be completed -/

namespace Rule

/-- Tokens behind which a rule can be completed. What completes it ends the word in front of it, if
there is one. -/
def IsViable (ls : List Spelled) : Prop :=
  ∃ cont ls' r, EndsWord cont ∧ spelled? cont = some ls' ∧ Denotes .codes (ls ++ ls') r

/-- The tokens in front of a condition of a rule: none, or those of a rule and an operator that
fits. -/
inductive Begun : List Spelled → Prop
  | nil : Begun []
  | joined {ls : List Spelled} {r : Rule} {x : Spelled} {o : Combinator} :
      Denotes .codes ls r → x.token = .operator o → (∀ p ∈ r.joint?, p = o) → Begun (ls ++ [x])

/-- The tokens of a rule up to the operand of a command with a marker for case. -/
def IsExactCommand (ls : List Spelled) : Prop :=
  ∃ bs ys, ls = bs ++ ys ∧ Begun bs ∧ Condition.IsExactCommand ys

/-- A condition behind other ones. -/
theorem denotesMore_append {v : Vocabulary} {o : Combinator} {ls ls' : List Spelled}
    {cs cs' : List Condition} (h : Condition.DenotesMore v o ls cs)
    (h' : Condition.DenotesMore v o ls' cs') :
    Condition.DenotesMore v o (ls ++ ls') (cs ++ cs') := by
  induction h with
  | nil => exact h'
  | cons hx hc _ ih =>
    rw [List.cons_append, List.append_assoc]
    exact .cons hx hc ih

/-- A rule of one condition. -/
theorem Denotes.single {v : Vocabulary} {ls : List Spelled} {c : Condition}
    (h : Condition.Denotes v ls c) : Denotes v ls ⟨[c], .all, by simp⟩ := by
  have hr := Denotes.intro h (.nil (o := .all))
  rwa [List.append_nil] at hr

/-- The first condition of a rule, and the others behind an operator that fits. -/
theorem Denotes.exists_more {v : Vocabulary} {ls : List Spelled} {r : Rule} {o : Combinator}
    (h : Denotes v ls r) (hfit : ∀ p ∈ r.joint?, p = o) :
    ∃ ys rest c cs, ls = ys ++ rest ∧ r.conditions = c :: cs ∧ Condition.Denotes v ys c ∧
      Condition.DenotesMore v o rest cs := by
  cases h with
  | @intro ys rest c cs o₀ hc hcs =>
    refine ⟨ys, rest, c, cs, rfl, rfl, hc, ?_⟩
    by_cases hnil : cs = []
    · subst hnil
      cases hcs
      exact .nil
    · have ho : o₀ = o := hfit o₀ (by simp [joint?, hnil])
      exact ho ▸ hcs

/-- Two rules with an operator between them that fits both. -/
theorem Denotes.join {v : Vocabulary} {ls ls' : List Spelled} {r r' : Rule} {x : Spelled}
    {o : Combinator} (h : Denotes v ls r) (hfit : ∀ p ∈ r.joint?, p = o)
    (hx : x.token = .operator o) (h' : Denotes v ls' r') (hfit' : ∀ p ∈ r'.joint?, p = o) :
    Denotes v (ls ++ x :: ls')
      ⟨r.conditions ++ r'.conditions, o, by simp [r.conditions_ne_nil]⟩ := by
  obtain ⟨ys, rest, c, cs, rfl, hr, hc, hcs⟩ := h.exists_more hfit
  obtain ⟨ys', rest', c', cs', rfl, hr', hc', hcs'⟩ := h'.exists_more hfit'
  have hjoined := Denotes.intro hc (denotesMore_append hcs (.cons hx hc' hcs'))
  rw [← List.append_assoc] at hjoined
  simpa [hr, hr'] using hjoined

/-- A rule with one more condition behind an operator that fits. -/
theorem Denotes.append {v : Vocabulary} {ls ys : List Spelled} {r : Rule} {x : Spelled}
    {o : Combinator} {c : Condition} (h : Denotes v ls r) (hx : x.token = .operator o)
    (hfit : ∀ p ∈ r.joint?, p = o) (hc : Condition.Denotes v ys c) :
    Denotes v (ls ++ x :: ys) ⟨r.conditions ++ [c], o, by simp⟩ :=
  h.join hfit hx (.single hc) (by simp [joint?])

/-- The operator in front of a further condition is known. -/
theorem joint?_append (r : Rule) (c : Condition) (o : Combinator) :
    joint? ⟨r.conditions ++ [c], o, by simp⟩ = some o := by
  obtain ⟨c₀, cs, hcs⟩ := List.exists_cons_of_ne_nil r.conditions_ne_nil
  simp [joint?, hcs]

/-- A condition that follows what is begun makes a rule. -/
theorem Begun.denotes {bs ys : List Spelled} {c : Condition} (h : Begun bs)
    (hc : Condition.Denotes .codes ys c) : ∃ r, Denotes .codes (bs ++ ys) r := by
  cases h with
  | nil => exact ⟨_, .single hc⟩
  | joined hr hx hfit =>
    rw [List.append_assoc]
    exact ⟨_, hr.append hx hfit hc⟩

/-- A rule can be completed where its last condition can. -/
theorem Begun.isViable {bs ys : List Spelled} (h : Begun bs) (hy : Condition.IsViable ys) :
    IsViable (bs ++ ys) := by
  obtain ⟨cont, ls, c, hcont, hc⟩ := hy
  obtain ⟨r, hr⟩ := h.denotes hc
  rw [← List.append_assoc] at hr
  exact ⟨' ' :: cont, ls, r, endsWord_cons (by decide) cont,
    (spelled?_blank (by decide) cont).trans hcont, hr⟩

/-- A rule is complete as it is. -/
theorem Denotes.isViable {ls : List Spelled} {r : Rule} (h : Denotes .codes ls r) :
    IsViable ls :=
  ⟨[], [], r, endsWord_nil, spelled?_nil, (List.append_nil ls).symm ▸ h⟩

/-! ### Where a rule stops -/

/-- The faults of rules, with the tokens in front. Two of them are about those as well: that the
operator at the front of the stream is not the one before, and that nothing follows an operator. -/
inductive StopsAt (xs : List Lexeme) : TokenStream → SyntaxError → Prop
  | ahead {tail : TokenStream} {e : SyntaxError} : e.At tail → StopsAt xs tail e
  | mixedOperators {x : Lexeme} {rest : TokenStream} {r : Rule} {o p : Combinator} :
      Denotes .codes (xs.map Lexeme.spelled) r → r.joint? = some p → x.token = .operator o →
      p ≠ o → StopsAt xs (lexeme x rest) (.mixedOperators x.start)
  | missingCondition {front : List Lexeme} {x : Lexeme} {q : Nat} :
      xs = front ++ [x] → StopsAt xs (finished q) (.missingCondition x.stop)

/-- Behind the conditions of a rule, reading stops where the tokens in front can be completed, or at
the operand of a command with a marker for case. -/
theorem stopsAt_of_readMore {seen : Option Combinator} {s : TokenStream} {e : SyntaxError}
    (h : readMore seen s = .error e) {front : List Lexeme} {r : Rule}
    (hr : Denotes .codes (front.map Lexeme.spelled) r) (hseen : r.joint? = seen) :
    ∃ xs tail, prepend front s = prepend xs tail ∧ StopsAt xs tail e ∧
      (IsViable (xs.map Lexeme.spelled) ∨
        IsExactCommand (xs.map Lexeme.spelled) ∧ e.isUnterminated = true) := by
  -- along the calls of the reader, which has read `r` so far
  fun_induction readMore seen s generalizing front r with
  | case1 seen p => cases h
  | case2 seen kind p =>
    cases h
    exact ⟨front, _, rfl, .ahead .unterminated, .inl hr.isViable⟩
  | case3 seen x tail o ht hany =>
    cases h
    cases seen with
    | none => cases hany
    | some p =>
      have hne : p ≠ o := by simpa using hany
      exact ⟨front, _, rfl, .mixedOperators hr hseen ht hne, .inl hr.isViable⟩
  | case4 seen x tail o ht hany hfin =>
    cases h
    obtain ⟨q, rfl⟩ : ∃ q, tail = finished q := by
      cases tail with
      | finished q => exact ⟨q, rfl⟩
      | broken | lexeme => cases hfin
    have hbegun : Begun (front.map Lexeme.spelled ++ [x.spelled]) :=
      .joined hr ht (hseen ▸ fits_iff.1 hany)
    have hnext : Condition.IsViable [] := .markers (by simp)
    have hviable := hbegun.isViable hnext
    rw [List.append_nil] at hviable
    refine ⟨front ++ [x], finished q, (prepend_append front [x] _).symm, .missingCondition rfl,
      .inl ?_⟩
    rw [List.map_append]
    exact hviable
  | case5 seen x tail o ht hany hfin e' c' hread =>
    cases h
    obtain ⟨ys, rest, rfl, hat, hfront⟩ := Condition.stopsAt_of_read hread
    have hbegun : Begun (front.map Lexeme.spelled ++ [x.spelled]) :=
      .joined hr ht (hseen ▸ fits_iff.1 hany)
    refine ⟨front ++ x :: ys, rest, (prepend_append front (x :: ys) rest).symm, .ahead hat, ?_⟩
    rw [List.map_append, List.map_cons, List.append_cons]
    exact hfront.imp hbegun.isViable (And.imp_left fun hcommand => ⟨_, _, rfl, hbegun, hcommand⟩)
  | case6 seen x tail o ht hany hfin c cursor hread ih =>
    cases hm : readMore (some o) cursor.stream with
    | ok more =>
      rw [hm] at h
      cases h
    | error e' =>
      rw [hm] at h
      cases h
      obtain ⟨ys, hs, hden⟩ := Condition.prepend_of_read hread
      have hr' := hr.append (x := x.spelled) ht (hseen ▸ fits_iff.1 hany) hden
      rw [← List.map_cons, ← List.map_append] at hr'
      rw [hs]
      obtain ⟨xs, rest, hsplit, hstop, hfront⟩ := ih hm hr' (joint?_append r c o)
      exact ⟨xs, rest, (prepend_append front (x :: ys) _).symm.trans hsplit, hstop, hfront⟩
  | case7 seen x tail ht =>
    cases h
    exact ⟨front, _, rfl, .ahead (.trailingInput ht), .inl hr.isViable⟩

/-- A text that is not empty is refused where the tokens in front can be completed, or at the
operand of a command with a marker for case. -/
theorem stopsAt_of_ofTokens {s : TokenStream} {e : SyntaxError} (h : ofTokens s = .error e)
    (hne : e ≠ .empty) :
    ∃ xs tail, s = prepend xs tail ∧ StopsAt xs tail e ∧
      (IsViable (xs.map Lexeme.spelled) ∨
        IsExactCommand (xs.map Lexeme.spelled) ∧ e.isUnterminated = true) := by
  unfold ofTokens at h
  split at h
  · cases h
    exact absurd rfl hne
  · split at h
    · next hread =>
      cases h
      obtain ⟨xs, tail, hs, hat, hfront⟩ := Condition.stopsAt_of_read hread
      exact ⟨xs, tail, hs, .ahead hat,
        hfront.imp Begun.nil.isViable (And.imp_left fun hcommand => ⟨[], _, rfl, .nil, hcommand⟩)⟩
    · next c cursor hread =>
      obtain ⟨ys, hs, hden⟩ := Condition.prepend_of_read hread
      split at h
      · next hmore =>
        cases h
        rw [hs]
        exact stopsAt_of_readMore hmore (.single hden) rfl
      · cases h

/-- Where a condition is refused whatever follows, so is the rule that it belongs to. -/
theorem Begun.ofTokens {bs ys : List Lexeme} (h : Begun (bs.map Lexeme.spelled))
    {tail : TokenStream} (hne : (prepend ys tail).isFinished = false)
    (hread : ∃ e c, Condition.read (prepend ys tail) = (.error e, c)) :
    ∃ e, Rule.ofTokens (prepend (bs ++ ys) tail) = .error e := by
  obtain ⟨e, c, hread⟩ := hread
  generalize hls : bs.map Lexeme.spelled = ls at h
  cases h with
  | nil =>
    obtain rfl := List.map_eq_nil_iff.1 hls
    refine ⟨e, ?_⟩
    rw [List.nil_append]
    unfold Rule.ofTokens
    split
    · next hs =>
      rw [hs] at hne
      cases hne
    · rw [hread]
  | @joined _ r _ o hr hx hfit =>
    obtain ⟨front, l, rfl, rfl, hl⟩ := List.map_eq_append_iff.1 hls
    obtain ⟨x, rfl, rfl⟩ := List.map_eq_singleton_iff.1 hl
    have hop : x.token = .operator o := hx
    refine ⟨e, ?_⟩
    rw [List.append_assoc, prepend_append, ofTokens_prepend hr, List.singleton_append, prepend_cons,
      readMore_operator hop hfit hne, hread]
    rfl

/-- A command with a marker for case is refused whatever follows it. -/
theorem IsExactCommand.ofTokens {xs : List Lexeme} (h : IsExactCommand (xs.map Lexeme.spelled))
    (tail : TokenStream) : ∃ e, Rule.ofTokens (prepend xs tail) = .error e := by
  obtain ⟨bs, ys, hls, hbegun, hcommand⟩ := h
  obtain ⟨bs, ys, rfl, rfl, rfl⟩ := List.map_eq_append_iff.1 hls
  exact hbegun.ofTokens (isFinished_prepend hcommand.ne_nil tail) (hcommand.read tail)

end Rule

end MailFilter
