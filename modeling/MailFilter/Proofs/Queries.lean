import MailFilter.Proofs.AliasGrammar
import MailFilter.Proofs.Evaluation

/-!
# What Queries Ask For

A query in one of the plain modes is no rule, but asks what a rule asks: whether one header contains
it. The rule can be written down for every query (`Mode.plainText`), because every text can stand
between quotes. A blank query switches the search off, and the rule holds of every message then,
since an empty text occurs everywhere.

A query in the extended mode is a text in which aliases are replaced by codes. What is written for
an alias is read as the code that it is, and everything else is read as before, so a text that was
expanded once has settled.

## Main results

* `Search.run_plain`: a plain search has the verdicts of the rule for its query.
* `expandFrom_of_expanded`: expanding an expanded text changes nothing.
* `expand_settles`: the text of a rule is copied, and so is every expanded text.
-/

namespace MailFilter

/-! ### Plain queries -/

/-- The rule that a header contains a text, without regard to case. -/
def Rule.finding (f : Field) (needle : String) : Rule :=
  ⟨[⟨false, .text f .plain needle⟩], .all, by simp⟩

/-- A rule that a header contains a text has no calls to make, and holds if the text occurs. -/
theorem Matcher.run_finding {f : Field} {needle : String} {x : Matcher}
    (hx : x.Uses (.finding f needle)) (ctx : Context) (m : Message) (log : CallLog) :
    ∃ x', x.run ctx m log =
      .ok ((m.texts f).any (Comparison.plain.occurs needle), x', log) := by
  have hconditions : x.conditions = [⟨false, .text f .plain needle⟩] := hx.conditions
  have hcombinator : x.combinator = .all := hx.combinator
  have hseen : x.visited ctx m log = [⟨false, .text f .plain needle⟩] := by
    rw [visited, hconditions, Condition.visited_cons]
    split <;> rfl
  refine ⟨x.prepareFront 1, ?_⟩
  rw [run_eq_ite, hseen, hconditions, hcombinator]
  simp [Test.isFillable, Combinator.combine, Condition.replies, Condition.reply, Test.holds?,
    Comparison.plain, Condition.calls, Test.calls]

namespace QuickSearch

open Text (trim trimStart leadingBlanks)

/-- Where a plain mode looks. -/
def Mode.field? : Mode → Option Field
  | subject => some .subject
  | sender => some .sender
  | recipient => some .recipient
  | extended => none

/-- The text of the rule for a query in a plain mode: the code of the header, a blank, and the query
between quotes without the blanks around it. -/
def plainText (f : Field) (raw : String) : String :=
  String.ofList (f.code.toList ++ ' ' :: Quoting.quote (trim raw.toList))

/-- That text is read as the rule that the header contains the query. -/
theorem parse_plainText {mode : Mode} {f : Field} (hmode : mode.field? = some f) (raw : String) :
    Rule.parse (plainText f raw) = .ok (.finding f (Text.trimmed raw)) := by
  have hwritable : (Rule.finding f (Text.trimmed raw)).IsWritable := by
    refine ⟨fun c hc => ?_, .inr rfl⟩
    obtain rfl := List.mem_singleton.1 hc
    refine ⟨?_, fun hpattern => by cases hpattern⟩
    cases mode <;> cases hmode <;> simp
  have htext : (Rule.finding f (Text.trimmed raw)).text = plainText f raw := by
    rw [plainText, Rule.text]
    cases mode <;> cases hmode <;>
      simp [Rule.write, Rule.finding, Condition.write, Test.write, Field.writeName,
        Comparison.writeOperand, Comparison.plain, Text.trimmed]
  rw [← htext]
  exact Rule.parse_text_of_isWritable hwritable

namespace Search

/-- What a plain search asks of a message. -/
theorem run_prepare_plain {mode : Mode} {f : Field} (hmode : mode.field? = some f) (raw : String)
    (ctx : Context) (m : Message) (log : CallLog) :
    (prepare raw mode).run ctx m log =
      .ok ((m.texts f).any (Comparison.plain.occurs (Text.trimmed raw)), prepare raw mode,
        log) := by
  by_cases hblank : Text.trimmed raw = ""
  · -- the search is off, and the empty text occurs in the header
    have hoff : (prepare raw mode).isActive = false := by simp [prepare, isActive, hblank]
    have hoccurs : ∀ text, Comparison.plain.occurs "" text = true := fun text => by
      rw [Comparison.occurs, if_neg (by decide)]
      exact Text.occursIn_nil _
    rw [run_inactive hoff, hblank]
    cases mode <;> cases hmode <;> simp [Message.texts, hoccurs]
  · cases mode <;> cases hmode <;> simp [prepare, run, hblank]

/-- A search in a plain mode gives the verdict of the rule that is written for its query, whether
the query is blank or not, and neither runs a command or changes the search. -/
theorem run_plain {mode : Mode} {f : Field} (hmode : mode.field? = some f) (raw : String) :
    ∃ r, Rule.parse (plainText f raw) = .ok r ∧
      ∀ x : Matcher, x.Uses r → ∀ ctx m log, ∃ verdict x',
        (prepare raw mode).run ctx m log = .ok (verdict, prepare raw mode, log) ∧
        x.run ctx m log = .ok (verdict, x', log) := by
  refine ⟨_, parse_plainText hmode raw, fun x hx ctx m log => ?_⟩
  obtain ⟨x', hrun⟩ := Matcher.run_finding hx ctx m log
  exact ⟨_, x', run_prepare_plain hmode raw ctx m log, hrun⟩

/-- A query with a quote in it, and blanks around it. -/
theorem run_plain_quote :
    Mode.field? .sender = some .sender ∧ plainText .sender " \"Ann " = "f \"\\\"Ann\"" ∧
      ∃ r, Rule.parse (plainText .sender " \"Ann ") = .ok r ∧
        ∀ x : Matcher, x.Uses r → ∀ ctx m log, ∃ verdict x',
          (prepare " \"Ann " .sender).run ctx m log =
            .ok (verdict, prepare " \"Ann " .sender, log) ∧
          x.run ctx m log = .ok (verdict, x', log) :=
  ⟨rfl, by decide +kernel, run_plain rfl " \"Ann "⟩

end Search

/-! ### Expanded queries -/

/-- A code behind blanks is copied, if the text behind it is. -/
theorem expandFrom_code {blanks out : List Char} {k : Criterion}
    (hblanks : ∀ b ∈ blanks, Text.isBlank b = true) (hout : EndsWord out)
    (hcopied : ∀ q, expandFrom (.behind k.withoutHeaderName) q out = .ok out) (p : Nat) :
    expandFrom .keyword p (blanks ++ (k.code.toList ++ out)) =
      .ok (blanks ++ (k.code.toList ++ out)) := by
  obtain ⟨hne, hchars, hword⟩ := k.plain_code
  have hscan := Scan.ofText_plain hne hchars hout
  rw [hword] at hscan
  obtain ⟨c, u, hcode⟩ := List.exists_cons_of_ne_nil hne
  have hc := (plain_of_isNameChar (hchars c (by rw [hcode]; exact List.mem_cons_self))).1
  obtain ⟨hgap, htrim⟩ := leadingBlanks_append_cons hblanks hc (u ++ out)
  rw [← List.cons_append, ← hcode] at hgap htrim
  obtain ⟨q, hq⟩ := expandFrom_of_code (by rw [htrim]; exact hscan) (Criterion.ofCode?_code k) p
  rw [hq, Expected.afterCode_of_code (Criterion.ofCode?_code k), hcopied q, hgap,
    ← List.append_assoc]
  rfl

/-- What is written for a word behind blanks is copied, if the text behind it is. -/
theorem expandFrom_replacement {blanks out : List Char} (n : Bool) {k : Criterion}
    (hblanks : ∀ b ∈ blanks, Text.isBlank b = true) (hk : k.withoutHeaderName = k)
    (hout : EndsWord out) (hcopied : ∀ q, expandFrom (.behind k) q out = .ok out) (p : Nat) :
    expandFrom .keyword p (blanks ++ replacement n k ++ out) =
      .ok (blanks ++ replacement n k ++ out) := by
  have hcode : ∀ b : List Char, (∀ c ∈ b, Text.isBlank c = true) → ∀ q,
      expandFrom .keyword q (b ++ (k.code.toList ++ out)) = .ok (b ++ (k.code.toList ++ out)) :=
    fun b hb q => expandFrom_code hb hout (hk.symm ▸ hcopied) q
  rw [List.append_assoc]
  cases n with
  | false => exact hcode blanks hblanks p
  | true =>
    -- the negation stands in keyword position, and leaves the code there
    obtain ⟨hgap, htrim⟩ :=
      leadingBlanks_append_cons (c := '~') hblanks (by decide) (k.code.toList ++ out)
    have hscan : Scan.ofText (trimStart (blanks ++ '~' :: (k.code.toList ++ out))) =
        .lexeme .negation ['~'] (k.code.toList ++ out) := by rw [htrim]; rfl
    obtain ⟨q, hq⟩ := expandFrom_of_next hscan (e := .keyword) rfl p
    have hrest := hcode [] (by simp) q
    rw [List.nil_append] at hrest
    have hsplit : replacement true k ++ out = '~' :: (k.code.toList ++ out) := rfl
    rw [hsplit, hq, hrest, hgap, Except.map, List.append_assoc]
    rfl

/-- Expanding an expanded text changes nothing. -/
theorem expandFrom_of_expanded {e : Expected} {p : Nat} {s out : List Char}
    (h : expandFrom e p s = .ok out) (q : Nat) : expandFrom e q out = .ok out := by
  induction s using Scan.induction generalizing e p q out with
  | finished s hs =>
    rw [expandFrom_of_finished hs] at h
    cases h
    exact expandFrom_of_finished hs e q
  | broken s kind hs =>
    obtain ⟨fault, hfault⟩ := expandFrom_of_broken hs e p
    rw [hfault] at h
    cases h
  | lexeme s token spelling rest hs ih =>
    rcases Expected.token_cases e token with ⟨word, rfl, rfl⟩ | ⟨e', hn⟩ | ⟨hn, hword⟩
    · obtain ⟨p', fault, hp⟩ := expandFrom_of_word hs p
      rw [hp, resolve?_eq] at h
      cases hmeaning : Vocabulary.queries word with
      | none =>
        rw [hmeaning] at h
        cases h
      | some m =>
        obtain ⟨n, k⟩ := m
        simp only [hmeaning, Option.map_some, Expected.afterCode_replacement,
          String.toList_ofList] at h
        obtain ⟨out', hout, rfl⟩ := map_ok_iff.1 h
        exact expandFrom_replacement n (fun _ hb => List.mem_takeWhile_imp hb)
          (withoutHeaderName_of_queries hmeaning) (endsWord_expandFrom hout (word_of_scan hs).2)
          (fun q => ih hout q) q
    · obtain ⟨p', hp⟩ := expandFrom_of_next hs hn p
      rw [hp] at h
      obtain ⟨out', hout, rfl⟩ := map_ok_iff.1 h
      obtain ⟨hgap, hscan⟩ := Scan.ofText_trimStart_append hs (endsWord_expandFrom hout)
      obtain ⟨q', hq⟩ := expandFrom_of_next hscan hn q
      rw [hq, ih hout q', hgap]
      rfl
    · rw [expandFrom_of_stop hs hn hword] at h
      cases h
      exact expandFrom_of_stop hs hn hword q

/-- The text of a rule is copied, and so is every text that was expanded. -/
theorem expand_settles (text : String) :
    (∀ r, Rule.parse text = .ok r → expand text = .ok text) ∧
      ∀ expanded, expand text = .ok expanded → expand expanded = .ok expanded := by
  refine ⟨fun r h => expand_of_parse h, fun expanded h => ?_⟩
  obtain ⟨out, hout, rfl⟩ := map_ok_iff.1 h
  rw [expand, String.toList_ofList, expandFrom_of_expanded hout 0]
  rfl

/-- A rule whose operands spell aliases, and a query that stops looking like a rule behind one. -/
theorem expand_settles_old :
    Rule.parse "s old & %H Read R" =
        .ok ⟨[⟨false, .text .subject .plain "old"⟩,
          ⟨false, .text (.header "Read") ⟨false, true⟩ "R"⟩], .all, by simp⟩ ∧
      expand "s old & %H Read R" = .ok "s old & %H Read R" ∧
      expand "~old |Header 5 read) old" = .ok "~~N |H 5 read) old" ∧
      expand "~~N |H 5 read) old" = .ok "~~N |H 5 read) old" := by
  have hrule : Rule.parse "s old & %H Read R" =
      .ok ⟨[⟨false, .text .subject .plain "old"⟩,
        ⟨false, .text (.header "Read") ⟨false, true⟩ "R"⟩], .all, by simp⟩ := by decide +kernel
  have hquery : expand "~old |Header 5 read) old" = .ok "~~N |H 5 read) old" := by decide +kernel
  exact ⟨hrule, (expand_settles _).1 _ hrule, hquery, (expand_settles _).2 _ hquery⟩

end QuickSearch

end MailFilter
