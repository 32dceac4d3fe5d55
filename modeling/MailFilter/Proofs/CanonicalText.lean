import MailFilter.Proofs.RoundTrip

/-!
# Characters of Canonical Texts

A canonical text adds nothing to the texts that its rule holds but letters, digits and a few marks
(`isMark`), and what a rule holds was taken from the text it was read from. So a character that is
no mark, such as a line feed, stands in a canonical text only if the rule was read from a text with
that character in it.

A canonical text also keeps its shape when it stands as a line of its own (`IsRuleLine`): it has no
blanks around it, it does not start with `#`, and no colon in it stands outside quotes and slashes.

## Main results

* `Rule.mem_of_mem_write`: a character of a canonical text that is no mark was read.
* `Rule.isRuleLine_write`: a canonical text can stand as a line.
-/

namespace MailFilter

open Text (isBlank)

/-! ### Characters of tokens -/

/-- The characters that a token stands for: none for a marker, an operator or a number. -/
def Token.content : Token → List Char
  | word text => text.toList
  | quoted text => text.toList
  | pattern text => text.toList
  | _ => []

/-- What is enclosed stands in its spelling. -/
theorem Token.content_subset_of_close {kind : Delimited} {s : List Char} {e : Enclosed}
    (h : close kind s = some e) : e.content ⊆ e.spelling := by
  fun_induction close kind s generalizing e with
  | case1 => cases h
  | case2 d s ih =>
    obtain ⟨e, he, rfl⟩ := Option.map_eq_some_iff.1 h
    have hd : (if kind.escapes d then [d] else ['\\', d]) ⊆ ['\\', d] := by
      split <;> simp
    exact List.append_subset.2 ⟨List.subset_append_of_subset_left _ hd,
      List.subset_append_of_subset_right _ (ih he)⟩
  | case3 s =>
    cases h
    simp
  | case4 c s _ _ ih =>
    obtain ⟨e, he, rfl⟩ := Option.map_eq_some_iff.1 h
    exact List.append_subset.2 ⟨List.subset_append_left _ _,
      List.subset_append_of_subset_right _ (ih he)⟩

/-- What a first token stands for stands in its spelling. -/
theorem Scan.content_subset {s spelling rest : List Char} {token : Token}
    (h : Scan.ofText s = .lexeme token spelling rest) : token.content ⊆ spelling := by
  unfold Scan.ofText at h
  split at h
  · cases h
  · next c s =>
    split at h
    case h_6 | h_7 =>
      split at h
      · next e he =>
        cases h
        rw [Token.content, String.toList_ofList]
        exact List.subset_cons_of_subset _ (Token.content_subset_of_close he)
      · cases h
    case h_8 =>
      cases h
      rcases ofWord_cases (c :: s.takeWhile Token.isWordChar) with ⟨n, hn⟩ | hn
      · simp [hn, Token.content]
      · simp [hn, Token.content]
    all_goals
      cases h
      exact List.nil_subset _

/-- What the tokens of a text stand for stands in their spellings, and these in the text. -/
theorem subset_of_spelled? {s : List Char} {ls : List Spelled} (h : spelled? s = some ls) :
    ∀ x ∈ ls, x.token.content ⊆ x.spelling ∧ x.spelling ⊆ s := by
  induction s using Scan.induction generalizing ls with
  | finished s hs =>
    rw [spelled?_of_finished hs] at h
    cases h
    simp
  | broken s kind hs =>
    rw [spelled?_of_broken hs] at h
    cases h
  | lexeme s token spelling rest hs ih =>
    rw [spelled?_of_lexeme hs] at h
    obtain ⟨ts, ht, rfl⟩ := Option.map_eq_some_iff.1 h
    obtain ⟨hsplit, -⟩ := Scan.ofText_lexeme hs
    have htrim : spelling ++ rest ⊆ s := hsplit ▸ (List.dropWhile_sublist isBlank).subset
    obtain ⟨hspelling, hrest⟩ := List.append_subset.1 htrim
    refine List.forall_mem_cons.2 ⟨⟨Scan.content_subset hs, hspelling⟩, fun x hx => ?_⟩
    exact ⟨(ih ht x hx).1, List.Subset.trans (ih ht x hx).2 hrest⟩

/-! ### Characters of rules -/

/-- The characters that a canonical text may add to the texts of its rule. -/
def isMark (c : Char) : Bool := isNameChar c || " ~%&|\"/\\".toList.contains c

/-- The texts that a test holds: the name of its header and its operand. -/
def Test.texts : Test → List Char
  | .text (.header name) _ operand => name.toList ++ operand.toList
  | .text _ _ operand => operand.toList
  | .command template => template.toList
  | _ => []

/-- The texts that a rule holds. -/
def Rule.texts (r : Rule) : List Char := r.conditions.flatMap (·.test.texts)

section
variable {c : Char}

/-- Between quotes a text gets only quotes and backslashes. -/
theorem Quoting.mem_of_mem_quote {s : List Char} (h : c ∈ quote s) (hc : isMark c = false) :
    c ∈ s := by
  have hmark : c ≠ '"' ∧ c ≠ '\\' := by
    constructor <;>
    · rintro rfl
      cases hc
  have hescaped : ∀ {s : List Char}, c ∈ escapeQuoted s → c ∈ s := by
    intro s hs
    induction s with
    | nil => exact hs
    | cons d s ih =>
      rw [escapeQuoted] at hs
      split at hs <;> simp only [List.mem_cons, hmark.2, false_or] at hs <;>
        exact List.mem_cons.2 (hs.imp_right ih)
  simp only [quote, List.mem_append, List.mem_cons, List.not_mem_nil, or_false, hmark.1,
    false_or] at h
  exact hescaped h

/-- Between slashes a pattern gets only slashes and backslashes. -/
theorem Quoting.mem_of_mem_delimit {s : List Char} (h : c ∈ delimit s) (hc : isMark c = false) :
    c ∈ s := by
  have hmark : c ≠ '/' ∧ c ≠ '\\' := by
    constructor <;>
    · rintro rfl
      cases hc
  have hescaped : ∀ {s : List Char}, c ∈ escapePattern s → c ∈ s := by
    intro s hs
    fun_induction escapePattern s with
    | case1 => exact hs
    | case2 d s ih =>
      simp only [List.mem_cons] at hs ⊢
      exact hs.imp_right (Or.imp_right ih)
    | case3 s ih =>
      simp only [List.mem_cons, hmark, false_or] at hs
      exact List.mem_cons_of_mem _ (ih hs)
    | case4 d s _ _ ih => exact List.mem_cons.2 ((List.mem_cons.1 hs).imp_right ih)
  simp only [delimit, List.mem_append, List.mem_cons, List.not_mem_nil, or_false, hmark.1,
    false_or] at h
  exact hescaped h

/-- A character of a name is a mark. -/
theorem isMark_of_isNameChar (h : isNameChar c = true) : isMark c = true := by
  rw [isMark, h, Bool.true_or]

/-- A code holds only marks. -/
theorem isMark_of_mem_code {k : Criterion} (h : c ∈ k.code.toList) : isMark c = true :=
  isMark_of_isNameChar (k.plain_code.2.1 c h)

/-- The canonical text of a test adds only marks to the texts of the test. -/
theorem Test.mem_texts_of_mem_write {t : Test} (h : c ∈ t.write) (hc : isMark c = false) :
    c ∈ t.texts := by
  have hcode : ∀ {k : Criterion}, c ∉ k.code.toList := fun hk => by
    rw [isMark_of_mem_code hk] at hc
    cases hc
  have hblank : c ≠ ' ' := by
    rintro rfl
    cases hc
  cases t with
  | status s => exact absurd h (hcode (k := .status s))
  | measure m n =>
    simp only [Test.write, List.mem_append, List.mem_cons, hblank, false_or] at h
    rcases h with h | h
    · exact absurd h (hcode (k := .measure m))
    · rw [isMark_of_isNameChar ((plain_writeInt n.toInt).2.1 c h)] at hc
      cases hc
  | text f how operand =>
    have hoperand : c ∈ how.writeOperand operand → c ∈ operand.toList := by
      intro h
      rw [Comparison.writeOperand] at h
      split at h
      · exact Quoting.mem_of_mem_delimit h hc
      · exact Quoting.mem_of_mem_quote h hc
    have hname : c ∈ f.writeName → ∃ name, f = .header name ∧ c ∈ name.toList := by
      intro h
      cases f with
      | header name =>
        simp only [Field.writeName, List.mem_cons, hblank, false_or] at h
        split at h
        · exact ⟨name, rfl, h⟩
        · exact ⟨name, rfl, Quoting.mem_of_mem_quote h hc⟩
      | _ => cases h
    have hcase : c ∉ if how.caseSensitive then ['%'] else [] := by
      split
      · rw [List.mem_singleton]
        rintro rfl
        cases hc
      · simp
    simp only [Test.write, List.mem_append, List.mem_cons, hblank, hcase, false_or] at h
    rcases h with (h | h) | h
    · exact absurd h (hcode (k := .text f))
    · obtain ⟨name, rfl, hn⟩ := hname h
      exact List.mem_append_left _ hn
    · cases f
      case header name => exact List.mem_append_right _ (hoperand h)
      all_goals exact hoperand h
  | command template =>
    simp only [Test.write, List.mem_cons, hblank, false_or] at h
    rcases h with rfl | h
    · cases hc
    · exact Quoting.mem_of_mem_quote h hc

/-- The canonical text of a rule adds only marks to the texts of the rule. -/
theorem Rule.mem_texts_of_mem_write {r : Rule} (h : c ∈ r.write) (hc : isMark c = false) :
    c ∈ r.texts := by
  have hcondition : ∀ d : Condition, c ∈ d.write → c ∈ d.test.texts := by
    intro d hd
    rw [Condition.write, List.mem_append] at hd
    rcases hd with hd | hd
    · split at hd
      · rw [List.mem_singleton] at hd
        subst hd
        cases hc
      · cases hd
    · exact Test.mem_texts_of_mem_write hd hc
  have hoperator : c ∉ r.combinator.write := by
    intro ho
    have hmarks : ∀ o : Combinator, o.write.all isMark = true := by
      rintro (_ | _) <;> decide
    rw [List.all_eq_true.1 (hmarks _) c ho] at hc
    cases hc
  rw [Rule.write] at h
  rw [Rule.texts]
  generalize r.conditions = cs at h ⊢
  induction cs with
  | nil => cases h
  | cons d ds ih =>
    cases ds with
    | nil => simpa using hcondition d (by simpa using h)
    | cons e es =>
      simp only [List.map_cons, List.intercalate_cons_cons, List.mem_append, hoperator,
        or_false] at h
      rw [List.flatMap_cons, List.mem_append]
      exact h.imp (hcondition d) ih

end

/-! ### Characters that were read -/

section
variable {s : List Char} {v : Vocabulary} {ls : List Spelled}

/-- Tokens whose characters stand in a text denote a condition whose texts do. -/
theorem Condition.Denotes.texts_subset {c : Condition} (h : Denotes v ls c)
    (hls : ∀ x ∈ ls, x.token.content ⊆ x.spelling ∧ x.spelling ⊆ s) : c.test.texts ⊆ s := by
  have hoperand : ∀ {x : Spelled} {isPattern : Bool} {text : String}, x ∈ ls →
      x.operand? = some (isPattern, text) → text.toList ⊆ s := by
    intro x isPattern text hx ho
    obtain ⟨hcontent, hspelling⟩ := hls x hx
    rw [Spelled.operand?] at ho
    split at ho
    case h_3 =>
      cases ho
      rwa [String.toList_ofList]
    case h_5 => cases ho
    all_goals
      next ht =>
        cases ho
        rw [ht] at hcontent
        exact List.Subset.trans hcontent hspelling
  have hname : ∀ {x : Spelled} {name : String}, x ∈ ls → x.headerName? = some name →
      name.toList ⊆ s := by
    intro x name hx hn
    obtain ⟨hcontent, hspelling⟩ := hls x hx
    rw [Spelled.headerName?] at hn
    split at hn
    case h_3 => cases hn
    all_goals
      next ht =>
        split at hn
        · cases hn
        · cases hn
          rw [ht] at hcontent
          exact List.Subset.trans hcontent hspelling
  cases h with
  | intro markers keyword meaning name operand =>
    cases operand with
    | status => exact List.nil_subset _
    | measure => exact List.nil_subset _
    | command he hx => exact hoperand (by simp) hx
    | @text f ps x isPattern text hps hx =>
      have ho : text.toList ⊆ s := hoperand (by simp) hx
      cases f with
      | header header =>
        cases name with
        | header hn => exact List.append_subset.2 ⟨hname (by simp) hn, ho⟩
        | other hne => exact absurd rfl (hne header)
      | _ => exact ho

/-- The same for the conditions behind the first one. -/
theorem Condition.DenotesMore.texts_subset {o : Combinator} {cs : List Condition}
    (h : DenotesMore v o ls cs)
    (hls : ∀ x ∈ ls, x.token.content ⊆ x.spelling ∧ x.spelling ⊆ s) :
    ∀ c ∈ cs, c.test.texts ⊆ s := by
  induction h with
  | nil => simp
  | cons hx hc hcs ih =>
    rw [List.forall_mem_cons, List.forall_mem_append] at hls
    exact List.forall_mem_cons.2 ⟨hc.texts_subset hls.2.1, ih hls.2.2⟩

/-- The texts of a rule stand in the text it was read from. -/
theorem Rule.texts_subset_of_ofTokens {r : Rule} (h : Rule.ofTokens (.ofText 0 s) = .ok r) :
    r.texts ⊆ s := by
  obtain ⟨ls, hs, hden⟩ := ofTokens_ok_iff.1 h
  have hls := subset_of_spelled? hs
  cases hden with
  | @intro ls rest c cs o hc hcs =>
    rw [List.forall_mem_append] at hls
    have hall : ∀ d ∈ c :: cs, d.test.texts ⊆ s :=
      List.forall_mem_cons.2 ⟨hc.texts_subset hls.1, hcs.texts_subset hls.2⟩
    intro d hd
    obtain ⟨e, he, hde⟩ := List.mem_flatMap.1 hd
    exact hall e he hde

/-- A character of a canonical text that is no mark stands in the text that the rule was read
from. -/
theorem Rule.mem_of_mem_write {r : Rule} {c : Char} (hr : Rule.ofTokens (.ofText 0 s) = .ok r)
    (h : c ∈ r.write) (hc : isMark c = false) : c ∈ s :=
  Rule.texts_subset_of_ofTokens hr (Rule.mem_texts_of_mem_write h hc)

end

/-! ### Rules as lines -/

/-- The front of a text, up to its first quote or slash. -/
def frontOf (w : List Char) : List Char := w.takeWhile fun c => c != '"' && c != '/'

/-- The front of two texts is that of the first one, or goes on into the second one. -/
theorem notMem_frontOf_append {u v : List Char} {c : Char} (hu : c ∉ frontOf u)
    (hv : c ∉ frontOf v) : c ∉ frontOf (u ++ v) := by
  rw [frontOf, List.takeWhile_append]
  split
  · next h =>
    have hself : frontOf u = u := (List.takeWhile_prefix _).eq_of_length h
    rw [List.mem_append]
    exact not_or.2 ⟨hself ▸ hu, hv⟩
  · exact hu

/-- A text that a reader of lines takes as a rule without a name: there are no blanks around it, it
does not start as comments do, and no colon stands before the first quote or slash. -/
structure IsRuleLine (w : List Char) : Prop where
  ne_nil : w ≠ []
  head : ∀ c ∈ w.head?, isBlank c = false ∧ c ≠ '#'
  last : ∀ c ∈ w.getLast?, isBlank c = false
  colon : ':' ∉ frontOf w

namespace IsRuleLine

variable {u v : List Char}

/-- Two such texts, with a text between them that has no colon. -/
theorem join (hu : IsRuleLine u) (hv : IsRuleLine v) {sep : List Char} (hsep : ':' ∉ sep) :
    IsRuleLine (u ++ sep ++ v) := by
  refine ⟨by simp [hu.ne_nil], ?_, ?_, ?_⟩
  · rw [List.append_assoc, List.head?_append_of_ne_nil _ hu.ne_nil]
    exact hu.head
  · rw [List.getLast?_append_of_ne_nil _ hv.ne_nil]
    exact hv.last
  · have hfront : ':' ∉ frontOf sep := fun h => hsep ((List.takeWhile_prefix _).subset h)
    exact notMem_frontOf_append (notMem_frontOf_append hu.colon hfront) hv.colon

/-- A marker in front of such a text. -/
theorem cons {c : Char} (hc : isBlank c = false ∧ c ≠ '#') (hcolon : c ≠ ':')
    (hu : IsRuleLine u) : IsRuleLine (c :: u) := by
  refine ⟨List.cons_ne_nil c u, ?_, ?_, ?_⟩
  · rintro _ ⟨⟩
    exact hc
  · rw [← List.singleton_append, List.getLast?_append_of_ne_nil _ hu.ne_nil]
    exact hu.last
  · have hfront : ':' ∉ frontOf [c] := fun h =>
      hcolon (List.mem_singleton.1 ((List.takeWhile_prefix _).subset h)).symm
    exact notMem_frontOf_append hfront hu.colon

/-- A word of letters, digits, hyphens and underscores. -/
theorem plain (hu : u ≠ []) (hc : ∀ c ∈ u, isNameChar c = true) : IsRuleLine u := by
  have hname : ∀ c ∈ u, isBlank c = false ∧ c ≠ '#' ∧ c ≠ ':' := by
    intro c hcu
    refine ⟨(plain_of_isNameChar (hc c hcu)).1, ?_, ?_⟩ <;>
    · rintro rfl
      exact absurd (hc _ hcu) (by decide)
  refine ⟨hu, fun c h => ?_, fun c h => ?_, fun h => ?_⟩
  · have := hname c (List.mem_of_mem_head? h)
    exact ⟨this.1, this.2.1⟩
  · exact (hname c (List.mem_of_mem_getLast? h)).1
  · exact (hname ':' ((List.takeWhile_prefix _).subset h)).2.2 rfl

/-- What stands between two quotes or two slashes. -/
theorem enclosed {d : Char} (hd : d = '"' ∨ d = '/') (s : List Char) :
    IsRuleLine (d :: s ++ [d]) := by
  have hplain : isBlank d = false ∧ d ≠ '#' := by
    rcases hd with rfl | rfl <;> decide
  refine ⟨List.cons_ne_nil _ _, ?_, ?_, ?_⟩
  · rintro _ ⟨⟩
    exact hplain
  · rw [List.getLast?_concat]
    rintro _ ⟨⟩
    exact hplain.1
  · rcases hd with rfl | rfl <;> simp [frontOf]

/-- A text between quotes. -/
theorem quote (s : List Char) : IsRuleLine (Quoting.quote s) := enclosed (.inl rfl) _

/-- A pattern between slashes. -/
theorem delimit (s : List Char) : IsRuleLine (Quoting.delimit s) := enclosed (.inr rfl) _

/-- A code. -/
theorem code (k : Criterion) : IsRuleLine k.code.toList := plain k.plain_code.1 k.plain_code.2.1

/-- The canonical text of a test can stand as a line. -/
theorem writeTest (t : Test) : IsRuleLine t.write := by
  have hblank : ':' ∉ [' '] := by decide
  cases t with
  | status s => exact code (.status s)
  | measure m n =>
    obtain ⟨hne, hchars, -⟩ := plain_writeInt n.toInt
    simpa [Test.write, Criterion.code] using (code (.measure m)).join (plain hne hchars) hblank
  | text f how operand =>
    have hoperand : IsRuleLine (how.writeOperand operand) := by
      rw [Comparison.writeOperand]
      split
      · exact delimit _
      · exact quote _
    have hfield : IsRuleLine (f.code.toList ++ f.writeName) := by
      have hcode : IsRuleLine f.code.toList := code (.text f)
      cases f with
      | header name =>
        have hname : IsRuleLine
            (if Field.isBareName name.toList then name.toList else Quoting.quote name.toList) := by
          split
          · next hb =>
            obtain ⟨hne, hchars, -⟩ := Field.plain_of_isBareName hb
            exact plain hne hchars
          · exact quote _
        simpa [Field.writeName] using hcode.join hname hblank
      | _ => simpa [Field.writeName] using hcode
    have hboth := hfield.join hoperand hblank
    simp only [Test.write]
    split
    · simpa using hboth.cons (c := '%') (by decide) (by decide)
    · simpa using hboth
  | command template =>
    simpa [Test.write, Criterion.code] using (code .command).join (quote template.toList) hblank

end IsRuleLine

/-- The canonical text of a rule can stand as a line. -/
theorem Rule.isRuleLine_write (r : Rule) : IsRuleLine r.write := by
  have hcondition : ∀ c : Condition, IsRuleLine c.write := by
    intro c
    rw [Condition.write]
    split
    · exact (IsRuleLine.writeTest c.test).cons (by decide) (by decide)
    · exact IsRuleLine.writeTest c.test
  have hoperator : ':' ∉ r.combinator.write := by
    cases r.combinator <;> decide
  have hjoined : ∀ (c : Condition) (cs : List Condition),
      IsRuleLine (r.combinator.write.intercalate ((c :: cs).map Condition.write)) := by
    intro c cs
    induction cs generalizing c with
    | nil => simpa using hcondition c
    | cons d ds ih =>
      rw [List.map_cons, List.map_cons, List.intercalate_cons_cons, ← List.map_cons]
      exact (hcondition c).join (ih d) hoperator
  obtain ⟨c, cs, h⟩ := List.exists_cons_of_ne_nil r.conditions_ne_nil
  rw [Rule.write, h]
  exact hjoined c cs

end MailFilter
