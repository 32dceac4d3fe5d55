import MailFilter.Proofs.Expansion
import MailFilter.Proofs.RoundTrip
import Mathlib.Data.List.Find

/-!
# Queries in the Grammar of Rules

The grammar of extended queries is that of rules with a larger vocabulary (`Vocabulary.queries`): a
word in keyword position may also be an alias, which may negate. Names of headers and operands are
no keywords, so the vocabulary does not matter to them.

Replacing the aliases of a text is a step on its tokens (`Expected.rewrite`), because what is
written for a word is lexed on its own wherever a word is. The two grammars then meet token by
token: behind a keyword the rewriting copies what the reader of the rule takes (`Expected.Walk`),
and where the query stops looking like a rule the copied rest makes the reader fail too.

## Main results

* `resolve?_eq`: the table of aliases gives the words of the vocabulary their meaning.
* `spelled?_expandFrom`: expanding a text rewrites its tokens.
* `Rule.denotes_queries_iff`: tokens denote a rule as a query exactly if what they are rewritten to
  denotes it as a rule.
* `Search.rule_ok_iff`, `Search.prepare_extended_iff`: an extended search asks for the rule that its
  query denotes, and is switched off where there is none.
-/

namespace MailFilter

/-! ### The vocabulary of queries -/

/-- What the long aliases stand for, in small letters. -/
def Vocabulary.longAlias? (name : String) : Option (Bool × Criterion) :=
  match name with
  | "all" => some (false, .status .everything)
  | "subject" => some (false, .text .subject)
  | "from" => some (false, .text .sender)
  | "to" => some (false, .text .recipient)
  | "cc" => some (false, .text .cc)
  | "tocc" => some (false, .text .recipientOrCc)
  | "newsgroup" => some (false, .text .newsgroups)
  | "header" => some (false, .text (.header ""))
  | "headers" => some (false, .text .headerBlock)
  | "body" => some (false, .text .body)
  | "message" => some (false, .text .whole)
  | "unread" => some (false, .status .unread)
  | "read" => some (true, .status .unread)
  | "new" => some (false, .status .new)
  | "old" => some (true, .status .new)
  | "marked" => some (false, .status .marked)
  | "deleted" => some (false, .status .deleted)
  | "replied" => some (false, .status .replied)
  | "forwarded" => some (false, .status .forwarded)
  | "locked" => some (false, .status .locked)
  | _ => none

/-- The vocabulary of queries: the codes, two capital letters that negate, and the long aliases
without regard to case. -/
def Vocabulary.queries : Vocabulary := fun word =>
  match Criterion.ofCode? word with
  | some k => some (false, k)
  | none =>
    if word = "O" then some (true, .status .new)
    else if word = "R" then some (true, .status .unread)
    else longAlias? (Text.lowered word)

namespace QuickSearch

open Text (trimStart leadingBlanks)

/-- What is written for a word: the code of its criterion, behind a negation if it negates. -/
def replacement (negates : Bool) (k : Criterion) : List Char :=
  (if negates then ['~'] else []) ++ k.code.toList

/-- The tokens of what is written for a word. -/
def replacementTokens (negates : Bool) (k : Criterion) : List Spelled :=
  (if negates then [⟨.negation, ['~']⟩] else []) ++ [⟨.word k.code, k.code.toList⟩]

/-- What is written for a word is lexed on its own. -/
theorem lexes_replacement (n : Bool) (k : Criterion) :
    Lexes (replacement n k) (replacementTokens n k) := by
  cases n with
  | false => exact Lexes.code k
  | true => exact (Lexes.code k).negation

/-- Only the long aliases are found without regard to case. -/
theorem isAlias_of_long {known word : String} (hlong : known.length ≠ 1)
    (hlower : Text.lowered known = known) : isAlias known word = (known == Text.lowered word) := by
  have hsame : Text.equalsIgnoringCase known word = (known == Text.lowered word) := by
    rw [Bool.eq_iff_iff, Text.equalsIgnoringCase_iff, beq_iff_eq]
    constructor
    · intro h
      rw [← hlower, Text.lowered, Text.lowered, h]
    · intro h
      have h := congrArg String.toList (hlower.trans h)
      rwa [Text.lowered, Text.lowered, String.toList_ofList, String.toList_ofList] at h
  have hself : known == word → known == Text.lowered word := by
    simp only [beq_iff_eq]
    rintro rfl
    exact hlower.symm
  rw [isAlias, hsame]
  have hne : (known.length != 1) = true := by simpa using hlong
  rw [hne, Bool.true_and]
  cases hk : (known == word) with
  | false => rfl
  | true => rw [hself hk, Bool.true_or]

/-- The long aliases are in the table behind the two short ones, in small letters. -/
theorem find?_long (name : String) :
    ((aliases.drop 2).find? fun a => a.1 == name).map (·.2) =
      (Vocabulary.longAlias? name).map fun m => String.ofList (replacement m.1 m.2) := by
  cases hname : Vocabulary.longAlias? name with
  | none =>
    have hknown : ∀ a ∈ aliases.drop 2, Vocabulary.longAlias? a.1 ≠ none := by decide
    rw [Option.map_none, Option.map_eq_none_iff, List.find?_eq_none]
    intro a ha hn
    rw [beq_iff_eq] at hn
    exact hknown a ha (hn ▸ hname)
  | some m =>
    unfold Vocabulary.longAlias? at hname
    split at hname <;> cases hname <;> rfl

/-- The table of aliases gives the words of the vocabulary their meaning. -/
theorem resolve?_eq (word : String) :
    resolve? word = (Vocabulary.queries word).map fun m => String.ofList (replacement m.1 m.2) := by
  rw [resolve?, Vocabulary.queries]
  cases hk : Criterion.ofCode? word with
  | some k => simp [replacement, Criterion.code_of_ofCode? hk]
  | none =>
    by_cases hO : word = "O"
    · subst hO
      decide
    by_cases hR : word = "R"
    · subst hR
      decide
    have hlong : ∀ a ∈ aliases.drop 2, a.1.length ≠ 1 ∧ Text.lowered a.1 = a.1 := by decide
    have hfind : (aliases.find? fun a => isAlias a.1 word) =
        (aliases.drop 2).find? fun a => a.1 == Text.lowered word := by
      have hlength : "O".length = 1 ∧ "R".length = 1 := by decide
      have hshort : isAlias "O" word = false ∧ isAlias "R" word = false := by
        simp [isAlias, Ne.symm hO, Ne.symm hR, hlength]
      have hcongr : ((aliases.drop 2).find? fun a => isAlias a.1 word) =
          (aliases.drop 2).find? fun a => a.1 == Text.lowered word :=
        List.find?_congr fun a ha => isAlias_of_long (hlong a ha).1 (hlong a ha).2
      rw [← hcongr]
      simp [aliases, hshort]
    simp only [hfind, find?_long, if_neg hO, if_neg hR]

/-- What a word of the vocabulary stands for is found under its code. -/
theorem withoutHeaderName_of_queries {word : String} {n : Bool} {k : Criterion}
    (h : Vocabulary.queries word = some (n, k)) : k.withoutHeaderName = k := by
  rw [Vocabulary.queries] at h
  split at h
  · next base hk =>
    cases h
    have hcode := Criterion.ofCode?_code k
    rw [Criterion.code_of_ofCode? hk, hk, Option.some.injEq] at hcode
    exact hcode.symm
  · split at h
    · cases h
      rfl
    · split at h
      · cases h
        rfl
      · unfold Vocabulary.longAlias? at h
        split at h <;> cases h <;> rfl

/-! ### Rewriting tokens -/

namespace Expected

/-- What is expected behind a word is what its criterion asks for. -/
theorem afterCode_replacement (n : Bool) (k : Criterion) :
    afterCode (String.ofList (replacement n k)) = behind k := by
  have hdrop : afterCode (String.ofList (replacement n k)) = afterCode k.code := by
    rw [afterCode, afterCode, String.toList_ofList]
    cases n <;> rfl
  rw [hdrop, afterCode_of_code (Criterion.ofCode?_code k)]
  rcases k with s | m | f | _
  · rfl
  · rfl
  · cases f <;> rfl
  · rfl

/-- Replaces the words in keyword position, up to where the tokens stop looking like a rule. A word
that the vocabulary does not have is a fault. -/
def rewrite : Expected → List Spelled → Option (List Spelled)
  | _, [] => some []
  | e, x :: ls =>
    match e, x.token with
    | keyword, .word word =>
      (Vocabulary.queries word).bind fun m =>
        (rewrite (behind m.2) ls).map (replacementTokens m.1 m.2 ++ ·)
    | e, token =>
      match e.next? token with
      | none => some (x :: ls)
      | some next => (rewrite next ls).map (x :: ·)

@[simp]
theorem rewrite_nil (e : Expected) : rewrite e [] = some [] := by
  cases e <;> rfl

variable {e e' : Expected} {x : Spelled} {ls ls' rest : List Spelled}

/-- A word in keyword position is replaced. -/
theorem rewrite_of_word {word : String} (h : x.token = .word word) (ls : List Spelled) :
    rewrite keyword (x :: ls) = (Vocabulary.queries word).bind fun m =>
      (rewrite (behind m.2) ls).map (replacementTokens m.1 m.2 ++ ·) := by
  rw [rewrite]
  exact h

/-- A token that fits is kept. -/
theorem rewrite_of_next (h : e.next? x.token = some e') (ls : List Spelled) :
    rewrite e (x :: ls) = (rewrite e' ls).map (x :: ·) := by
  have hword : ∀ word, e = keyword → x.token = .word word → False := by
    rintro word rfl hw
    rw [hw] at h
    cases h
  rw [rewrite]
  · rw [h]
  · exact hword

/-- From a token that does not fit everything is kept. -/
theorem rewrite_of_stop (h : e.next? x.token = none)
    (hword : ∀ word, ¬ (e = keyword ∧ x.token = .word word)) (ls : List Spelled) :
    rewrite e (x :: ls) = some (x :: ls) := by
  rw [rewrite]
  · rw [h]
  · exact fun word he hw => hword word ⟨he, hw⟩

/-- What a token can be where something is expected: a word in keyword position, a token that fits,
or one that does not. -/
theorem token_cases (e : Expected) (token : Token) :
    (∃ word, e = keyword ∧ token = .word word) ∨ (∃ e', e.next? token = some e') ∨
      (e.next? token = none ∧ ∀ word, ¬ (e = keyword ∧ token = .word word)) := by
  by_cases hword : ∃ word, e = keyword ∧ token = .word word
  · exact .inl hword
  · cases hn : e.next? token with
    | some e' => exact .inr (.inl ⟨e', rfl⟩)
    | none => exact .inr (.inr ⟨rfl, fun word h => hword ⟨word, h⟩⟩)

/-- A walk is kept. -/
theorem Along.rewrite_append (h : Walk e ls e') (rest : List Spelled) :
    rewrite e (ls ++ rest) = (rewrite e' rest).map (ls ++ ·) := by
  induction h with
  | nil e => simp
  | cons hx _ ih =>
    rw [List.cons_append, rewrite_of_next hx.2, ih, Option.map_map]
    rfl

/-- Only no tokens are rewritten to none. -/
theorem eq_nil_of_rewrite (h : rewrite e ls = some []) : ls = [] := by
  cases ls with
  | nil => rfl
  | cons x ls =>
    exfalso
    rcases token_cases e x.token with ⟨word, rfl, hw⟩ | ⟨e', hn⟩ | ⟨hn, hword⟩
    · rw [rewrite_of_word hw, Option.bind_eq_some_iff] at h
      obtain ⟨m, -, h⟩ := h
      obtain ⟨ts, -, h⟩ := Option.map_eq_some_iff.1 h
      simp [replacementTokens] at h
    · rw [rewrite_of_next hn] at h
      obtain ⟨ts, -, h⟩ := Option.map_eq_some_iff.1 h
      cases h
    · rw [rewrite_of_stop hn hword] at h
      cases h

/-- A token outside keyword position is what it is rewritten to. -/
theorem exists_of_rewrite_cons (hk : e ≠ keyword) (hn : e.next? x.token = some e')
    (h : rewrite e ls = some (x :: ls')) : ∃ ts, ls = x :: ts ∧ rewrite e' ts = some ls' := by
  cases ls with
  | nil =>
    rw [rewrite_nil] at h
    cases h
  | cons y ts =>
    refine ⟨ts, ?_⟩
    rcases token_cases e y.token with ⟨word, rfl, -⟩ | ⟨e'', hn'⟩ | ⟨hn', hword⟩
    · exact absurd rfl hk
    · rw [rewrite_of_next hn'] at h
      obtain ⟨ts', ht, h⟩ := Option.map_eq_some_iff.1 h
      cases h
      rw [hn, Option.some.injEq] at hn'
      exact ⟨rfl, hn' ▸ ht⟩
    · rw [rewrite_of_stop hn' hword] at h
      cases h
      rw [hn] at hn'
      cases hn'

/-- What is rewritten to a walk is that walk. -/
theorem Along.exists_of_rewrite (hwalk : Walk e ls' e') (h : rewrite e ls = some (ls' ++ rest)) :
    ∃ ts, ls = ls' ++ ts ∧ rewrite e' ts = some rest := by
  induction hwalk generalizing ls with
  | nil e => exact ⟨ls, rfl, h⟩
  | cons hx _ ih =>
    obtain ⟨ts, rfl, ht⟩ := exists_of_rewrite_cons hx.1 hx.2 h
    obtain ⟨ts', rfl, ht'⟩ := ih ht
    exact ⟨ts', rfl, ht'⟩

end Expected

/-! ### Expanding a text rewrites its tokens -/

/-- A text that starts with a word does not end a word. -/
theorem not_endsWord_of_word {s spelling rest : List Char} {word : String} (htrim : trimStart s = s)
    (h : Scan.ofText s = .lexeme (.word word) spelling rest) : ¬ EndsWord s := by
  cases s with
  | nil => cases h
  | cons c s =>
    intro hends
    have hc := hends c rfl
    have hblank : Text.isBlank c = false := Text.head_trimStart_not_blank htrim
    simp only [Token.isWordChar, hblank, Bool.not_false, Bool.true_and, Bool.and_eq_false_iff,
      bne_eq_false_iff_eq] at hc
    rcases hc with rfl | rfl <;> cases h

/-- Where a text ends a word, the expanded text does. -/
theorem endsWord_expandFrom {e : Expected} {p : Nat} {s out : List Char}
    (h : expandFrom e p s = .ok out) (hs : EndsWord s) : EndsWord out := by
  cases hscan : Scan.ofText (trimStart s) with
  | finished =>
    rw [expandFrom_of_finished hscan] at h
    cases h
    exact hs
  | broken kind =>
    obtain ⟨fault, hfault⟩ := expandFrom_of_broken hscan e p
    rw [hfault] at h
    cases h
  | lexeme token spelling rest =>
    obtain ⟨hsplit, hne⟩ := Scan.ofText_lexeme hscan
    have hs' : s = leadingBlanks s ++ (spelling ++ rest) := by
      rw [← hsplit, Text.leadingBlanks_append_trimStart]
    rcases Expected.token_cases e token with ⟨word, rfl, rfl⟩ | ⟨e', hn⟩ | ⟨hn, hword⟩
    · obtain ⟨q, fault, hq⟩ := expandFrom_of_word hscan p
      rw [hq] at h
      -- a word does not stand at the front, so a blank does
      have hblanks : leadingBlanks s ≠ [] := by
        intro hnil
        have htrim : trimStart s = s := by rw [hsplit, hs', hnil, List.nil_append]
        rw [htrim] at hscan
        exact not_endsWord_of_word htrim hscan hs
      split at h
      · cases h
      · obtain ⟨out', -, rfl⟩ := map_ok_iff.1 h
        rw [hs'] at hs
        rw [List.append_assoc]
        exact hs.of_append hblanks
    · obtain ⟨q, hq⟩ := expandFrom_of_next hscan hn p
      rw [hq] at h
      obtain ⟨out', -, rfl⟩ := map_ok_iff.1 h
      have hne : leadingBlanks s ++ spelling ≠ [] := by simp [hne]
      rw [hs', ← List.append_assoc] at hs
      exact hs.of_append hne
    · rw [expandFrom_of_stop hscan hn hword] at h
      cases h
      exact hs

open Expected (rewrite)

/-- What is written in front of an expanded text adds its tokens to those of that text, if it is
lexed on its own. -/
theorem spelled?_map_expandFrom {e : Expected} {p : Nat} {rest w : List Char} {ts : List Spelled}
    (h : (expandFrom e p rest).toOption.bind spelled? = (spelled? rest).bind (rewrite e))
    (hw : ∀ out, expandFrom e p rest = .ok out →
      spelled? (w ++ out) = (spelled? out).map (ts ++ ·)) :
    ((expandFrom e p rest).map (w ++ ·)).toOption.bind spelled? =
      (spelled? rest).bind fun ls => (rewrite e ls).map (ts ++ ·) := by
  have hmap := congrArg (Option.map (ts ++ ·)) h
  rw [Option.map_bind, Option.map_bind] at hmap
  refine Eq.trans ?_ hmap
  cases hout : expandFrom e p rest with
  | error fault => rfl
  | ok out => exact hw out hout

/-- Expanding a text rewrites its tokens. -/
theorem spelled?_expandFrom (e : Expected) (p : Nat) (s : List Char) :
    (expandFrom e p s).toOption.bind spelled? = (spelled? s).bind (rewrite e) := by
  induction s using Scan.induction generalizing e p with
  | finished s hs =>
    rw [expandFrom_of_finished hs, spelled?_of_finished hs]
    simp [Except.toOption, spelled?_of_finished hs]
  | broken s kind hs =>
    obtain ⟨fault, hfault⟩ := expandFrom_of_broken hs e p
    rw [hfault, spelled?_of_broken hs]
    rfl
  | lexeme s token spelling rest hs ih =>
    have hs' := spelled?_of_lexeme hs
    rcases Expected.token_cases e token with ⟨word, rfl, rfl⟩ | ⟨e', hn⟩ | ⟨hn, hword⟩
    · obtain ⟨q, fault, hq⟩ := expandFrom_of_word hs p
      have hrewrite : rewrite .keyword ∘ (⟨.word word, spelling⟩ :: ·) = fun ls =>
          (Vocabulary.queries word).bind fun m =>
            (rewrite (.behind m.2) ls).map (replacementTokens m.1 m.2 ++ ·) := by
        funext ls
        exact Expected.rewrite_of_word rfl ls
      rw [hq, hs', Option.bind_map, hrewrite, resolve?_eq]
      cases hm : Vocabulary.queries word with
      | none => simp [Except.toOption]
      | some m =>
        obtain ⟨n, k⟩ := m
        simp only [Option.map_some, Option.bind_some, Expected.afterCode_replacement,
          String.toList_ofList]
        have hrest : EndsWord rest := (word_of_scan hs).2
        refine spelled?_map_expandFrom (ih _ q) fun out hout => ?_
        have hblanks : ∀ b ∈ leadingBlanks s, Text.isBlank b = true :=
          fun _ hb => List.mem_takeWhile_imp hb
        rw [List.append_assoc, spelled?_blanks hblanks]
        exact lexes_replacement n k out (endsWord_expandFrom hout hrest)
    · obtain ⟨q, hq⟩ := expandFrom_of_next hs hn p
      have hrewrite : rewrite e ∘ (⟨token, spelling⟩ :: ·) = fun ls =>
          (rewrite e' ls).map ([⟨token, spelling⟩] ++ ·) := by
        funext ls
        exact Expected.rewrite_of_next hn ls
      rw [hq, hs', Option.bind_map, hrewrite]
      refine spelled?_map_expandFrom (ih e' q) fun out hout => ?_
      exact spelled?_append hs (endsWord_expandFrom hout)
    · have hrewrite : rewrite e ∘ (⟨token, spelling⟩ :: ·) = fun ls =>
          some (⟨token, spelling⟩ :: ls) := by
        funext ls
        exact Expected.rewrite_of_stop hn hword ls
      rw [expandFrom_of_stop hs hn hword, hs', Option.bind_map, hrewrite]
      simpa [Except.toOption, Option.map_eq_bind, Function.comp_def] using hs'

/-! ### Conditions

The tokens of a condition stay together when they are rewritten: its markers, with one more where
the keyword negates, the code, and what the criterion asks for. -/

namespace Expected

variable {e : Expected} {ms ls rest : List Spelled}

/-- Markers are kept. -/
theorem rewrite_markers (h : ∀ m ∈ ms, m.token.isMarker = true) (rest : List Spelled) :
    rewrite keyword (ms ++ rest) = (rewrite keyword rest).map (ms ++ ·) := by
  induction ms with
  | nil => simp
  | cons m ms ih =>
    rw [List.forall_mem_cons] at h
    rw [List.cons_append, rewrite_of_next (next?_of_marker h.1), ih h.2, Option.map_map]
    rfl

/-- Markers in front of a word, among what is written for another word: they are its negation. -/
theorem markers_of_replacementTokens {n : Bool} {k : Criterion} {w : Spelled} {ts : List Spelled}
    (hm : ∀ m ∈ ms, m.token.isMarker = true) {code : String} (hw : w.token = .word code)
    (h : replacementTokens n k ++ ts = ms ++ w :: rest) :
    code = k.code ∧ negates ms = n ∧ asksCase ms = false ∧ ts = rest := by
  cases n with
  | false =>
    cases ms with
    | nil =>
      cases h
      cases hw
      exact ⟨rfl, rfl, rfl, rfl⟩
    | cons m ms =>
      cases h
      cases hm _ List.mem_cons_self
  | true =>
    cases ms with
    | nil =>
      cases h
      cases hw
    | cons m ms =>
      cases ms with
      | nil =>
        cases h
        cases hw
        exact ⟨rfl, rfl, rfl, rfl⟩
      | cons m' ms =>
        cases h
        cases hm _ (List.mem_cons_of_mem _ List.mem_cons_self)

/-- What is rewritten to a word behind markers is a word of the vocabulary behind markers. -/
theorem exists_of_rewrite_markers {w : Spelled} {code : String}
    (hm : ∀ m ∈ ms, m.token.isMarker = true) (hw : w.token = .word code)
    (h : rewrite keyword ls = some (ms ++ w :: rest)) :
    ∃ ms' x ts word n k, ls = ms' ++ x :: ts ∧ (∀ m ∈ ms', m.token.isMarker = true) ∧
      x.token = .word word ∧ Vocabulary.queries word = some (n, k) ∧
      rewrite (behind k) ts = some rest ∧ code = k.code ∧ negates ms = (n ^^ negates ms') ∧
      asksCase ms = asksCase ms' := by
  induction ls generalizing ms with
  | nil =>
    rw [rewrite_nil] at h
    cases ms <;> cases h
  | cons y ts ih =>
    rcases token_cases keyword y.token with ⟨word, -, hy⟩ | ⟨e', hn⟩ | ⟨hn, hword⟩
    · rw [rewrite_of_word hy, Option.bind_eq_some_iff] at h
      obtain ⟨⟨n, k⟩, hmeaning, h⟩ := h
      obtain ⟨ts', hts, h⟩ := Option.map_eq_some_iff.1 h
      obtain ⟨hcode, hneg, hcase, rfl⟩ := markers_of_replacementTokens hm hw h
      have hnone : ∀ m ∈ ([] : List Spelled), m.token.isMarker = true := by simp
      exact ⟨[], y, ts, word, n, k, rfl, hnone, hy, hmeaning, hts, hcode, by simpa using hneg,
        hcase⟩
    · rw [rewrite_of_next hn] at h
      obtain ⟨ts', hts, h⟩ := Option.map_eq_some_iff.1 h
      cases ms with
      | nil =>
        cases h
        rw [hw] at hn
        cases hn
      | cons m ms =>
        obtain ⟨rfl, rfl⟩ := List.cons.inj h
        rw [List.forall_mem_cons] at hm
        rw [next?_of_marker hm.1, Option.some.injEq] at hn
        subst hn
        obtain ⟨ms', x, ts, word, n, k, rfl, hms, hx, hmeaning, hts, hcode, hneg, hcase⟩ :=
          ih hm.2 hts
        refine ⟨y :: ms', x, ts, word, n, k, rfl, List.forall_mem_cons.2 ⟨hm.1, hms⟩, hx, hmeaning,
          hts, hcode, ?_, ?_⟩
        · rw [negates_cons, negates_cons, hneg, Bool.xor_left_comm]
        · rw [asksCase_cons, asksCase_cons, hcase]
    · rw [rewrite_of_stop hn hword, Option.some.injEq] at h
      cases ms with
      | nil =>
        cases h
        exact absurd ⟨rfl, hw⟩ (hword code)
      | cons m ms =>
        obtain ⟨rfl, -⟩ := List.cons.inj h
        rw [next?_of_marker (hm _ List.mem_cons_self)] at hn
        cases hn

end Expected

end QuickSearch

open QuickSearch (replacementTokens withoutHeaderName_of_queries)
open QuickSearch.Expected (rewrite keyword operator rewrite_nil rewrite_of_word rewrite_of_next
  rewrite_markers eq_nil_of_rewrite exists_of_rewrite_cons exists_of_rewrite_markers walk_of_named)

/-- The tokens of a condition in the vocabulary of queries are rewritten to ones that denote it. -/
theorem Condition.exists_rewrite {cs : List Spelled} {c : Condition} (h : Denotes .queries cs c) :
    ∃ cs', Denotes .codes cs' c ∧
      ∀ rest, rewrite keyword (cs ++ rest) = (rewrite operator rest).map (cs' ++ ·) := by
  cases h with
  | @intro ms hs os w word n base k test markers hword meaning name operand =>
    have hwalk := walk_of_named name operand
    have hcode := Vocabulary.codes_code base
    rw [withoutHeaderName_of_queries meaning] at hcode
    let ns : List Spelled := if n then [⟨.negation, ['~']⟩] else []
    have hns : (∀ m ∈ ns, m.token.isMarker = true) ∧ negates ns = n ∧ asksCase ns = false := by
      cases n
      · simp [ns]
      · simp [ns, Token.isMarker, negates, asksCase]
    have hmarkers : ∀ m ∈ ms ++ ns, m.token.isMarker = true :=
      List.forall_mem_append.2 ⟨markers, hns.1⟩
    have hnegates : negates (ms ++ ns) = (n ^^ negates ms) := by
      rw [negates_append, hns.2.1, Bool.xor_comm]
    have hcase : asksCase (ms ++ ns) = asksCase ms := by
      rw [asksCase_append, hns.2.2, Bool.or_false]
    refine ⟨(ms ++ ns) ++ ⟨.word base.code, base.code.toList⟩ :: (hs ++ os), ?_, fun rest => ?_⟩
    · have hden := Denotes.intro (w := ⟨.word base.code, base.code.toList⟩) hmarkers rfl hcode name
        (hcase ▸ operand)
      rwa [hnegates, Bool.false_xor] at hden
    · rw [List.append_assoc, rewrite_markers markers, List.cons_append,
        rewrite_of_word hword, meaning, Option.bind_some,
        hwalk.rewrite_append, Option.map_map, Option.map_map]
      congr 1
      funext ts
      simp [replacementTokens, ns]

/-- Tokens that are rewritten to those of a condition start with tokens of it. -/
theorem Condition.exists_of_rewrite {cs ls rest : List Spelled} {c : Condition}
    (h : Denotes .codes cs c) (hls : rewrite keyword ls = some (cs ++ rest)) :
    ∃ cs' ts, ls = cs' ++ ts ∧ Denotes .queries cs' c ∧ rewrite operator ts = some rest := by
  cases h with
  | @intro ms hs os w code n base k test markers hword meaning name operand =>
    rw [List.append_assoc, List.cons_append] at hls
    obtain ⟨ms', x, ts, word, n', k', rfl, hms, hx, hmeaning, hts, rfl, hneg, hcase⟩ :=
      exists_of_rewrite_markers markers hword hls
    rw [Vocabulary.codes_code, withoutHeaderName_of_queries hmeaning] at meaning
    cases meaning
    have hwalk := walk_of_named name operand
    obtain ⟨ts', rfl, hrest⟩ := hwalk.exists_of_rewrite hts
    refine ⟨ms' ++ x :: (hs ++ os), ts', by simp, ?_, hrest⟩
    have hden := Denotes.intro hms hx hmeaning name (hcase ▸ operand)
    rwa [hneg, Bool.false_xor]

/-- The same for the conditions behind the first one. -/
theorem Condition.exists_rewrite_more {o : Combinator} {ls : List Spelled} {cs : List Condition}
    (h : DenotesMore .queries o ls cs) :
    ∃ ls', DenotesMore .codes o ls' cs ∧ rewrite operator ls = some ls' := by
  induction h with
  | nil => exact ⟨[], .nil, rewrite_nil operator⟩
  | @cons x ls rest c cs hx hc _ ih =>
    obtain ⟨rest', hmore, hrest⟩ := ih
    obtain ⟨ls', hden, hrewrite⟩ := exists_rewrite hc
    refine ⟨x :: (ls' ++ rest'), .cons hx hden hmore, ?_⟩
    have hnext : operator.next? x.token = some keyword := by rw [hx]; rfl
    rw [rewrite_of_next hnext, hrewrite, hrest]
    rfl

/-- Tokens that are rewritten to those of conditions denote these. -/
theorem Condition.denotesMore_of_rewrite {o : Combinator} {ls ls' : List Spelled}
    {cs : List Condition} (h : DenotesMore .codes o ls' cs) (hls : rewrite operator ls = some ls') :
    DenotesMore .queries o ls cs := by
  induction h generalizing ls with
  | nil =>
    obtain rfl := eq_nil_of_rewrite hls
    exact .nil
  | @cons x ls' rest c cs hx hc _ ih =>
    have hnext : operator.next? x.token = some keyword := by rw [hx]; rfl
    obtain ⟨ts, rfl, hts⟩ :=
      exists_of_rewrite_cons (by decide) hnext hls
    obtain ⟨cs', ts', rfl, hden, hrest⟩ := exists_of_rewrite hc hts
    exact .cons hx hden (ih hrest)

/-! ### Rules -/

/-- Tokens denote a rule as a query exactly if what they are rewritten to denotes it as a rule. -/
theorem Rule.denotes_queries_iff {ls : List Spelled} {r : Rule} :
    Denotes .queries ls r ↔ ∃ ls', rewrite keyword ls = some ls' ∧ Denotes .codes ls' r := by
  constructor
  · intro h
    cases h with
    | intro hc hcs =>
      obtain ⟨rest', hmore, hrest⟩ := Condition.exists_rewrite_more hcs
      obtain ⟨cs', hden, hrewrite⟩ := Condition.exists_rewrite hc
      refine ⟨cs' ++ rest', ?_, .intro hden hmore⟩
      rw [hrewrite, hrest]
      rfl
  · rintro ⟨ls', hls, h⟩
    cases h with
    | intro hc hcs =>
      obtain ⟨cs', ts, rfl, hden, hts⟩ := Condition.exists_of_rewrite hc hls
      exact .intro hden (Condition.denotesMore_of_rewrite hcs hts)

/-- A rule is known from the matcher that has not been used. -/
theorem Matcher.ofRule_injective : Function.Injective Matcher.ofRule := by
  intro r r' h
  obtain ⟨hprobes, hcombinator⟩ := Matcher.mk.inj h
  have hconditions := congrArg (List.map Probe.condition) hprobes
  rw [List.map_map, List.map_map] at hconditions
  have hid : Probe.condition ∘ Probe.ofCondition = id := rfl
  rw [hid, List.map_id, List.map_id] at hconditions
  cases r
  cases r'
  simp_all

namespace QuickSearch.Search

/-- A text stands for the rule that its tokens denote as a query. -/
theorem rule_ok_iff {text : String} {r : Rule} :
    rule text = .ok r ↔ ∃ ls, spelled? text.toList = some ls ∧ Rule.Denotes .queries ls r := by
  have hexpand := spelled?_expandFrom .keyword 0 text.toList
  constructor
  · intro h
    rw [rule, expand] at h
    split at h
    · cases h
    · next expanded he =>
      obtain ⟨out, hout, rfl⟩ := map_ok_iff.1 he
      obtain ⟨ls', hls', hden⟩ := (Rule.parse_ok_iff_denotes _ r).1 h
      rw [String.toList_ofList] at hls'
      rw [hout, Except.toOption, Option.bind_some, hls'] at hexpand
      obtain ⟨ls, hls, hrewrite⟩ := Option.bind_eq_some_iff.1 hexpand.symm
      exact ⟨ls, hls, Rule.denotes_queries_iff.2 ⟨ls', hrewrite, hden⟩⟩
  · rintro ⟨ls, hls, h⟩
    obtain ⟨ls', hrewrite, hden⟩ := Rule.denotes_queries_iff.1 h
    rw [hls, Option.bind_some, hrewrite] at hexpand
    obtain ⟨out, hout, hls'⟩ := Option.bind_eq_some_iff.1 hexpand
    cases he : expandFrom .keyword 0 text.toList with
    | error fault =>
      rw [he] at hout
      cases hout
    | ok out' =>
      rw [he] at hout
      cases hout
      rw [rule, expand, he]
      have hparse := (Rule.parse_ok_iff_denotes (String.ofList out) r).2
        ⟨ls', by rw [String.toList_ofList, hls'], hden⟩
      exact hparse

/-- An alias that negates behind a negation, and an operand that spells an alias. -/
example : (rule "!OLD & %Subject from").map Rule.text = .ok "N & %s \"from\"" := by
  decide +kernel

/-- An empty text stands for no rule. -/
theorem rule_empty (r : Rule) : rule "" ≠ .ok r := by
  intro h
  obtain ⟨ls, hls, hden⟩ := rule_ok_iff.1 h
  rw [String.toList_empty, spelled?_nil] at hls
  cases hls
  generalize hnil : ([] : List Spelled) = ls at hden
  cases hden with
  | intro hc hcs => exact hc.ne_nil (List.append_eq_nil_iff.1 hnil.symm).1

/-- What an extended search asks for. -/
theorem query_prepare_extended (text : String) :
    (prepare text .extended).query =
      match rule (Text.trimmed text) with
      | .ok r => some (.rule (.ofRule r))
      | .error _ => none := by
  simp only [prepare]
  split
  · next hempty =>
    rw [hempty]
    cases h : rule "" with
    | ok r => exact absurd h (rule_empty r)
    | error fault => rfl
  · rfl

/-- Whether a query stands for a rule: its tokens, without the blanks around the text, denote it. -/
def Means (text : String) (r : Rule) : Prop :=
  ∃ ls, spelled? (Text.trim text.toList) = some ls ∧ Rule.Denotes .queries ls r

/-- An extended search is switched on exactly if its query stands for a rule, and asks for exactly
that rule. -/
theorem prepare_extended_iff (text : String) (r : Rule) :
    ((prepare text .extended).isActive = true ↔ ∃ r', Means text r') ∧
      ((prepare text .extended).query = some (.rule (.ofRule r)) ↔ Means text r) := by
  have hmeans : ∀ r', rule (Text.trimmed text) = .ok r' ↔ Means text r' := fun r' => by
    rw [rule_ok_iff, Text.trimmed, String.toList_ofList]
    rfl
  simp only [← hmeans, isActive, query_prepare_extended]
  cases rule (Text.trimmed text) with
  | error fault => simp
  | ok r' =>
    constructor
    · simp
    · simp only [Option.some.injEq, Query.rule.injEq, Except.ok.injEq]
      exact Matcher.ofRule_injective.eq_iff

end QuickSearch.Search

end MailFilter
