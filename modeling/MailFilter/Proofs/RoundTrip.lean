import MailFilter.Proofs.Grammar
import MailFilter.Rule.Printer

/-!
# Reading Back What Is Written

The canonical text of a rule is lexed piece by piece: each piece is a list of tokens in front of
every text that ends a word (`Lexes`), and the tokens of the pieces make up tokens that denote the
rule.

Two kinds of rules can be built and not written down. The name of a header may be empty, and a
pattern may have a backslash that takes a slash or the closing delimiter with it. A single condition
under `any` is written as a single condition, which is read under `all`. Every other rule is
writable (`Rule.IsWritable`), and every rule that was read is.

## Main results

* `Rule.parse_text_of_isWritable`: a writable rule is read back from its canonical text.
* `Rule.isWritable_of_parse`: a rule that was read is writable.
* `Rule.parse_text_ok_iff`: exactly the writable rules are read back.
* `Rule.parse_text_of_parse`: the canonical text of a rule that was read is read as that rule.
-/

namespace MailFilter

open Text (isBlank isDigit)
open Quoting (isDelimitable)

/-! ### Rules that can be written -/

/-- Whether a test can be written down: a header has a name, and a pattern can stand between
slashes. -/
def Test.IsWritable : Test → Prop
  | .text f how operand =>
    f ≠ .header "" ∧ (how.isPattern = true → isDelimitable operand.toList = true)
  | _ => True

instance (t : Test) : Decidable t.IsWritable := by
  cases t <;> unfold Test.IsWritable <;> infer_instance

/-- Whether a rule can be written down: each of its tests can, and a single condition stands under
`all`. -/
structure Rule.IsWritable (r : Rule) : Prop where
  tests : ∀ c ∈ r.conditions, c.test.IsWritable
  combined : 2 ≤ r.conditions.length ∨ r.combinator = .all

theorem Rule.isWritable_iff {r : Rule} :
    r.IsWritable ↔ (∀ c ∈ r.conditions, c.test.IsWritable) ∧
      (2 ≤ r.conditions.length ∨ r.combinator = .all) :=
  ⟨fun h => ⟨h.tests, h.combined⟩, fun h => ⟨h.1, h.2⟩⟩

instance (r : Rule) : Decidable r.IsWritable := decidable_of_iff' _ Rule.isWritable_iff

/-! ### Pieces of canonical text -/

/-- A written number is a word that starts as numbers do. -/
theorem plain_writeInt (n : Int) :
    Text.writeInt n ≠ [] ∧ (∀ c ∈ Text.writeInt n, isNameChar c = true) ∧
      Token.startsNumber (Text.writeInt n) = true := by
  have hdigits : ∀ c ∈ Text.decimal n.natAbs, isDigit c = true :=
    fun c hc => Text.isDigit_of_mem_decimal hc
  have hname : ∀ c ∈ Text.decimal n.natAbs, isNameChar c = true := fun c hc => by
    simp [isNameChar, Text.isAlphanumeric, hdigits c hc]
  obtain ⟨d, ds, hd⟩ := List.exists_cons_of_ne_nil (Text.decimal_ne_nil n.natAbs)
  have hfirst : isDigit d = true := hdigits d (by simp [hd])
  rw [Text.writeInt]
  split
  · refine ⟨List.cons_ne_nil _ _, List.forall_mem_cons.2 ⟨by decide, hname⟩, ?_⟩
    rw [hd, Token.startsNumber, hfirst]
  · refine ⟨Text.decimal_ne_nil _, hname, ?_⟩
    rw [hd]
    unfold Token.startsNumber
    split
    · next c _ hc =>
      rw [(List.cons.inj hc).1] at hfirst
      exact absurd hfirst (by decide)
    · next hc => rw [← (List.cons.inj hc).1, hfirst]
    · next hc => cases hc

/-- A code is a word of letters. -/
theorem Criterion.plain_code (k : Criterion) :
    k.code.toList ≠ [] ∧ (∀ c ∈ k.code.toList, isNameChar c = true) ∧
      Token.ofWord k.code.toList = .word k.code := by
  have hk : k.code.toList ≠ [] ∧ k.code.toList.all isNameChar = true ∧
      Token.ofWord k.code.toList = .word k.code := by
    rcases k with s | m | f | _
    · cases s <;> decide
    · rcases m with _ | _ | o | o
      · decide
      · decide
      · cases o <;> decide
      · cases o <;> decide
    · cases f
      case header name =>
        exact (by decide : "H".toList ≠ [] ∧ "H".toList.all isNameChar = true ∧
          Token.ofWord "H".toList = .word "H")
      all_goals decide
    · decide
  obtain ⟨hne, hall, hword⟩ := hk
  exact ⟨hne, List.all_eq_true.1 hall, hword⟩

/-- A name that can stand without quotes is a word that does not start as numbers do. -/
theorem Field.plain_of_isBareName {name : List Char} (h : isBareName name = true) :
    name ≠ [] ∧ (∀ c ∈ name, isNameChar c = true) ∧ Token.startsNumber name = false := by
  obtain _ | ⟨c, s⟩ := name
  · cases h
  · simp only [isBareName, Bool.and_eq_true, Bool.not_eq_true', bne_iff_ne] at h
    obtain ⟨⟨hall, hdigit⟩, hminus⟩ := h
    refine ⟨List.cons_ne_nil c s, List.all_eq_true.1 hall, ?_⟩
    unfold Token.startsNumber
    split
    · next hc => exact absurd (List.cons.inj hc).1 hminus
    · next hc => rw [← (List.cons.inj hc).1, hdigit]
    · rfl

/-- A piece of text is read as a list of tokens in front of every text that ends a word. -/
def Lexes (w : List Char) (ls : List Spelled) : Prop :=
  ∀ rest, EndsWord rest → spelled? (w ++ rest) = (spelled? rest).map (ls ++ ·)

namespace Lexes

variable {w w' : List Char} {ls ls' : List Spelled}

/-- A piece that stands alone is a text of its tokens. -/
theorem spelled?_eq (h : Lexes w ls) : spelled? w = some ls := by
  simpa using h [] endsWord_nil

/-- A blank separates two pieces. -/
theorem blank (h : Lexes w ls) (h' : Lexes w' ls') : Lexes (w ++ ' ' :: w') (ls ++ ls') := by
  intro rest hr
  have hb : EndsWord (' ' :: (w' ++ rest)) := endsWord_cons (by decide) _
  rw [List.append_assoc, List.cons_append, h _ hb, spelled?_blank (by decide), h' rest hr]
  simp [Option.map_map, Function.comp_def]

/-- A negation stands in front of a piece. -/
theorem negation (h : Lexes w ls) : Lexes ('~' :: w) (⟨.negation, ['~']⟩ :: ls) := by
  intro rest hr
  rw [List.cons_append, spelled?_negation, h rest hr]
  simp [Option.map_map, Function.comp_def]

/-- A marker for case stands in front of a piece. -/
theorem exactCase (h : Lexes w ls) : Lexes ('%' :: w) (⟨.exactCase, ['%']⟩ :: ls) := by
  intro rest hr
  rw [List.cons_append, spelled?_exactCase, h rest hr]
  simp [Option.map_map, Function.comp_def]

/-- An operator stands between two pieces. -/
theorem operator (o : Combinator) (h : Lexes w ls) (h' : Lexes w' ls') :
    ∃ x : Spelled, x.token = .operator o ∧ Lexes (w ++ o.write ++ w') (ls ++ x :: ls') := by
  have hop : ∃ x : Spelled, x.token = .operator o ∧
      ∀ s, spelled? (o.write ++ s) = (spelled? s).map (x :: ·) ∧ EndsWord (o.write ++ s) := by
    cases o with
    | all =>
      refine ⟨⟨.operator .all, ['&']⟩, rfl, fun s => ⟨?_, endsWord_cons (by decide) _⟩⟩
      have hs : Combinator.all.write ++ s = ' ' :: '&' :: ' ' :: s := rfl
      rw [hs, spelled?_blank (by decide), spelled?_cons (by decide) rfl,
        spelled?_blank (by decide)]
    | any =>
      refine ⟨⟨.operator .any, ['|']⟩, rfl, fun s => ⟨?_, endsWord_cons (by decide) _⟩⟩
      have hs : Combinator.any.write ++ s = ' ' :: '|' :: ' ' :: s := rfl
      rw [hs, spelled?_blank (by decide), spelled?_cons (by decide) rfl,
        spelled?_blank (by decide)]
  obtain ⟨x, hx, hs⟩ := hop
  refine ⟨x, hx, fun rest hr => ?_⟩
  obtain ⟨hspelled, hends⟩ := hs (w' ++ rest)
  rw [List.append_assoc, List.append_assoc, h _ hends, hspelled, h' rest hr]
  simp [Option.map_map, Function.comp_def]

/-- A text between quotes. -/
theorem quote (s : List Char) :
    Lexes (Quoting.quote s) [⟨.quoted (String.ofList s), Quoting.quote s⟩] :=
  fun rest _ => spelled?_quote s rest

/-- A pattern between slashes. -/
theorem delimit {s : List Char} (h : isDelimitable s = true) :
    Lexes (Quoting.delimit s) [⟨.pattern (String.ofList s), Quoting.delimit s⟩] :=
  fun rest _ => spelled?_delimit h rest

/-- A code. -/
theorem code (k : Criterion) : Lexes k.code.toList [⟨.word k.code, k.code.toList⟩] := by
  obtain ⟨hne, hchars, hword⟩ := k.plain_code
  intro rest hr
  rw [spelled?_plain hne hchars hr, hword]
  rfl

/-- A name that can stand without quotes. -/
theorem bareName {name : List Char} (h : Field.isBareName name = true) :
    Lexes name [⟨.word (String.ofList name), name⟩] := by
  obtain ⟨hne, hchars, hstart⟩ := Field.plain_of_isBareName h
  have hword : Token.ofWord name = .word (String.ofList name) := by
    simp [Token.ofWord, hstart]
  intro rest hr
  rw [spelled?_plain hne hchars hr, hword]
  rfl

/-- A number. -/
theorem writeInt (n : Int64) :
    Lexes (Text.writeInt n.toInt) [⟨.number n, Text.writeInt n.toInt⟩] := by
  obtain ⟨hne, hchars, hstart⟩ := plain_writeInt n.toInt
  have hword : Token.ofWord (Text.writeInt n.toInt) = .number n := by
    simp [Token.ofWord, hstart, Text.readInt64?_writeInt]
  intro rest hr
  rw [spelled?_plain hne hchars hr, hword]
  rfl

end Lexes

/-! ### Rules that can be written are read back -/

/-- A negation in front of a condition turns its verdict around. -/
theorem Condition.Denotes.negation {v : Vocabulary} {ls : List Spelled} {c : Condition}
    (h : Denotes v ls c) (spelling : List Char) :
    Denotes v (⟨.negation, spelling⟩ :: ls) c.negate := by
  cases h with
  | @intro ms hs os w word n base k test markers keyword meaning name operand =>
    have hmarkers : ∀ m ∈ (⟨.negation, spelling⟩ : Spelled) :: ms, m.token.isMarker = true :=
      List.forall_mem_cons.2 ⟨rfl, markers⟩
    have h := Denotes.intro hmarkers keyword meaning name operand
    rw [negates_cons] at h
    simpa [Condition.negate] using h

/-- What a code means. -/
theorem Vocabulary.codes_code (k : Criterion) :
    Vocabulary.codes k.code = some (false, k.withoutHeaderName) := by
  rw [Vocabulary.codes, Criterion.ofCode?_code, Option.map_some]

/-- A code without markers denotes the condition of its operand. -/
theorem Condition.Denotes.ofCode {k : Criterion} {hs os : List Spelled} {t : Test}
    (name : k.withoutHeaderName.Named hs k) (operand : Test.Asked false k os t) :
    Denotes .codes (⟨.word k.code, k.code.toList⟩ :: (hs ++ os)) ⟨false, t⟩ := by
  have hmarkers : ∀ m ∈ ([] : List Spelled), m.token.isMarker = true := by simp
  exact .intro hmarkers rfl (Vocabulary.codes_code k) name operand

/-- The code of a text, and its name where it is a header. -/
theorem Lexes.field {f : Field} (hf : f ≠ .header "") :
    ∃ hs, Lexes (f.code.toList ++ f.writeName) (⟨.word f.code, f.code.toList⟩ :: hs) ∧
      (Criterion.text f).withoutHeaderName.Named hs (.text f) := by
  by_cases hname : ∃ name, f = .header name
  · obtain ⟨name, rfl⟩ := hname
    have hne : name ≠ "" := fun h => hf (by rw [h])
    have hcode : Lexes (Field.header name).code.toList
        [⟨.word (Field.header name).code, (Field.header name).code.toList⟩] :=
      Lexes.code (.text (.header name))
    by_cases hb : Field.isBareName name.toList = true
    · have hlex := hcode.blank (Lexes.bareName hb)
      refine ⟨_, ?_, .header (x := ⟨.word name, name.toList⟩) (by simp [Spelled.headerName?, hne])⟩
      simpa [Field.writeName, hb, String.ofList_toList] using hlex
    · have hlex := hcode.blank (Lexes.quote name.toList)
      refine ⟨_, ?_, .header (x := ⟨.quoted name, Quoting.quote name.toList⟩)
        (by simp [Spelled.headerName?, hne])⟩
      simpa [Field.writeName, hb, String.ofList_toList] using hlex
  · have hw : f.writeName = [] := by
      cases f
      case header name => exact absurd ⟨name, rfl⟩ hname
      all_goals rfl
    have hk : (Criterion.text f).withoutHeaderName = .text f := by
      cases f
      case header name => exact absurd ⟨name, rfl⟩ hname
      all_goals rfl
    refine ⟨[], ?_, ?_⟩
    · rw [hw, List.append_nil]
      exact Lexes.code (.text f)
    · rw [hk]
      exact .other fun name h => hname ⟨name, by simpa using h⟩

/-- A text operand that can be written is read as it is. -/
theorem Lexes.operand {how : Comparison} {operand : String}
    (h : how.isPattern = true → isDelimitable operand.toList = true) :
    ∃ x : Spelled, x.operand? = some (how.isPattern, operand) ∧
      Lexes (how.writeOperand operand) [x] := by
  by_cases hp : how.isPattern = true
  · refine ⟨⟨.pattern operand, Quoting.delimit operand.toList⟩, by simp [Spelled.operand?, hp], ?_⟩
    simpa [Comparison.writeOperand, hp, String.ofList_toList] using Lexes.delimit (h hp)
  · refine ⟨⟨.quoted operand, Quoting.quote operand.toList⟩, by simp [Spelled.operand?, hp], ?_⟩
    simpa [Comparison.writeOperand, hp, String.ofList_toList] using Lexes.quote operand.toList

/-- A test that can be written is denoted by the tokens of its canonical text. -/
theorem Test.lexes_write {t : Test} (ht : t.IsWritable) :
    ∃ ls, Lexes t.write ls ∧ Condition.Denotes .codes ls ⟨false, t⟩ := by
  cases t with
  | status s =>
    refine ⟨_, Lexes.code (.status s), ?_⟩
    have hname : (Criterion.status s).withoutHeaderName.Named [] (.status s) :=
      .other (by simp [Criterion.withoutHeaderName])
    exact .ofCode hname (.status rfl)
  | measure m n =>
    refine ⟨_, (Lexes.code (.measure m)).blank (Lexes.writeInt n), ?_⟩
    have hname : (Criterion.measure m).withoutHeaderName.Named [] (.measure m) :=
      .other (by simp [Criterion.withoutHeaderName])
    exact .ofCode hname (.measure rfl rfl)
  | text f how operand =>
    obtain ⟨hf, hpattern⟩ := ht
    obtain ⟨hs, hlex, hnamed⟩ := Lexes.field hf
    obtain ⟨x, hx, hoperand⟩ := Lexes.operand hpattern
    have hboth := hlex.blank hoperand
    have hden : ∀ ms : List Spelled, (∀ m ∈ ms, m.token.isMarker = true) → negates ms = false →
        asksCase ms = how.caseSensitive →
        Condition.Denotes .codes (ms ++ ⟨.word f.code, f.code.toList⟩ :: (hs ++ [x]))
          ⟨false, .text f how operand⟩ := by
      intro ms hms hn hcase
      have htest : Test.Asked (asksCase ms) (.text f) [x] (.text f how operand) := by
        have hps : ∀ p ∈ ([] : List Spelled), p.token = .exactCase := by simp
        have h : Test.Asked (asksCase ms) (.text f) ([] ++ [x])
            (.text f ⟨how.isPattern, asksCase ms || false⟩ operand) := .text hps hx
        rw [hcase] at h ⊢
        simpa using h
      have h := Condition.Denotes.intro (w := ⟨.word f.code, f.code.toList⟩) hms rfl
        (Vocabulary.codes_code (.text f)) hnamed htest
      rwa [hn] at h
    by_cases hcase : how.caseSensitive = true
    · refine ⟨_, ?_, hden [⟨.exactCase, ['%']⟩] (by simp [Token.isMarker]) rfl hcase.symm⟩
      simpa [Test.write, hcase] using hboth.exactCase
    · rw [Bool.not_eq_true] at hcase
      refine ⟨_, ?_, hden [] (by simp) rfl hcase.symm⟩
      simpa [Test.write, hcase] using hboth
  | command template =>
    refine ⟨_, (Lexes.code .command).blank (Lexes.quote template.toList), ?_⟩
    have hname : Criterion.command.withoutHeaderName.Named [] .command :=
      .other (by simp [Criterion.withoutHeaderName])
    exact .ofCode hname
      (.command rfl (by simp [Spelled.operand?, String.ofList_toList]))

/-- A condition that can be written is denoted by the tokens of its canonical text. -/
theorem Condition.lexes_write {c : Condition} (hc : c.test.IsWritable) :
    ∃ ls, Lexes c.write ls ∧ Denotes .codes ls c := by
  obtain ⟨ls, hlex, hden⟩ := Test.lexes_write hc
  obtain ⟨negated, t⟩ := c
  cases negated with
  | false => exact ⟨ls, hlex, hden⟩
  | true => exact ⟨_, hlex.negation, hden.negation ['~']⟩

/-- Conditions that can be written are denoted by the tokens of their canonical text. -/
theorem Condition.lexes_intercalate (o : Combinator) {c : Condition} {cs : List Condition}
    (hc : ∀ d ∈ c :: cs, d.test.IsWritable) :
    ∃ ls rest, Lexes (o.write.intercalate ((c :: cs).map write)) (ls ++ rest) ∧
      Denotes .codes ls c ∧ DenotesMore .codes o rest cs := by
  induction cs generalizing c with
  | nil =>
    obtain ⟨ls, hlex, hden⟩ := lexes_write (hc c (by simp))
    exact ⟨ls, [], by simpa using hlex, hden, .nil⟩
  | cons d ds ih =>
    obtain ⟨ls, hlex, hden⟩ := lexes_write (hc c (by simp))
    obtain ⟨ls', rest', hlex', hden', hmore⟩ := ih fun e he => hc e (List.mem_cons_of_mem c he)
    obtain ⟨x, hx, hboth⟩ := hlex.operator o hlex'
    refine ⟨ls, x :: (ls' ++ rest'), ?_, hden, .cons hx hden' hmore⟩
    rw [List.map_cons, List.map_cons, List.intercalate_cons_cons, ← List.map_cons]
    exact hboth

namespace Rule

/-- A rule that can be written is denoted by the tokens of its canonical text. -/
theorem spelled?_write {r : Rule} (h : r.IsWritable) :
    ∃ ls, spelled? r.write = some ls ∧ Denotes .codes ls r := by
  obtain ⟨conditions, o, hne⟩ := r
  obtain ⟨c, cs, rfl⟩ := List.exists_cons_of_ne_nil hne
  obtain ⟨ls, rest, hlex, hden, hmore⟩ := Condition.lexes_intercalate o h.tests
  refine ⟨ls ++ rest, hlex.spelled?_eq, ?_⟩
  -- a single condition stands under `all`, whatever is asked of more of them
  have ho : (if cs = [] then Combinator.all else o) = o := by
    split
    · next hcs =>
      rcases h.combined with hlen | hall
      · simp [hcs] at hlen
      · exact hall.symm
    · rfl
  have hr := Denotes.intro hden hmore
  simpa only [ho] using hr

/-- A rule that can be written is read back from its canonical text. -/
theorem parse_text_of_isWritable {r : Rule} (h : r.IsWritable) : Rule.parse r.text = .ok r := by
  obtain ⟨ls, hs, hden⟩ := spelled?_write h
  refine ofTokens_ok_iff.2 ⟨ls, ?_, hden⟩
  rw [text, String.toList_ofList]
  exact hs

end Rule

/-! ### Rules that were read can be written -/

/-- An operand that is a pattern is the token of that pattern. -/
theorem Spelled.token_of_operand? {x : Spelled} {text : String}
    (h : x.operand? = some (true, text)) : x.token = .pattern text := by
  rw [operand?] at h
  split at h <;> simp_all

/-- The name of a header is not empty. -/
theorem Spelled.ne_empty_of_headerName? {x : Spelled} {name : String}
    (h : x.headerName? = some name) : name ≠ "" := by
  rw [headerName?] at h
  split at h
  · split at h
    · cases h
    · next hne =>
      cases h
      exact hne
  · split at h
    · cases h
    · next hne =>
      cases h
      exact hne
  · cases h

/-- Tokens whose patterns can be written denote conditions that can be written. -/
theorem Condition.Denotes.isWritable {v : Vocabulary} {ls : List Spelled} {c : Condition}
    (h : Denotes v ls c)
    (hls : ∀ x ∈ ls, ∀ s, x.token = .pattern s → isDelimitable s.toList = true) :
    c.test.IsWritable := by
  cases h with
  | intro markers keyword meaning name operand =>
    cases operand with
    | status => trivial
    | measure => trivial
    | command => trivial
    | @text f ps x isPattern text hps hx =>
      refine ⟨?_, fun hp => ?_⟩
      · rintro rfl
        cases name with
        | header hname => exact Spelled.ne_empty_of_headerName? hname rfl
        | other hne => exact hne "" rfl
      · obtain rfl : isPattern = true := hp
        exact hls x (by simp) text (Spelled.token_of_operand? hx)

/-- The same for the conditions behind the first one. -/
theorem Condition.DenotesMore.isWritable {v : Vocabulary} {o : Combinator} {ls : List Spelled}
    {cs : List Condition} (h : DenotesMore v o ls cs)
    (hls : ∀ x ∈ ls, ∀ s, x.token = .pattern s → isDelimitable s.toList = true) :
    ∀ c ∈ cs, c.test.IsWritable := by
  induction h with
  | nil => simp
  | cons hx hc hcs ih =>
    rw [List.forall_mem_cons, List.forall_mem_append] at hls
    exact List.forall_mem_cons.2 ⟨hc.isWritable hls.2.1, ih hls.2.2⟩

namespace Rule

/-- A rule that was read can be written. -/
theorem isWritable_of_parse {text : String} {r : Rule} (h : Rule.parse text = .ok r) :
    r.IsWritable := by
  obtain ⟨ls, hs, hden⟩ := ofTokens_ok_iff.1 h
  have hls : ∀ x ∈ ls, ∀ s, x.token = .pattern s → isDelimitable s.toList = true := by
    refine forall_mem_of_spelled? ?_ hs
    rintro s token spelling rest hscan pattern rfl
    exact isDelimitable_of_scan hscan
  cases hden with
  | @intro ls rest c cs o hc hcs =>
    rw [List.forall_mem_append] at hls
    refine ⟨List.forall_mem_cons.2 ⟨hc.isWritable hls.1, hcs.isWritable hls.2⟩, ?_⟩
    cases cs with
    | nil => exact .inr rfl
    | cons d ds => exact .inl (by simp)

/-- Exactly the rules that can be written are read back from their canonical text. -/
theorem parse_text_ok_iff (r : Rule) : Rule.parse r.text = .ok r ↔ r.IsWritable :=
  ⟨isWritable_of_parse, parse_text_of_isWritable⟩

/-- The canonical text of a rule that was read is read as that rule, and is its own canonical
text. -/
theorem parse_text_of_parse {text : String} {r : Rule} (h : Rule.parse text = .ok r) :
    Rule.parse r.text = .ok r ∧ (Rule.parse r.text).map Rule.text = .ok r.text := by
  have hr := parse_text_of_isWritable (isWritable_of_parse h)
  refine ⟨hr, ?_⟩
  rw [hr]
  rfl

/-- A case with redundant markers, a quoted name that needs no quotes and an escaped slash. -/
theorem parse_text_of_parse_header :
    Rule.parse "!%H \"List-Id\" x&s /a\\/b/" =
        .ok ⟨[⟨true, .text (.header "List-Id") ⟨false, true⟩ "x"⟩,
          ⟨false, .text .subject ⟨true, false⟩ "a/b"⟩], .all, by simp⟩ ∧
      (Rule.parse "~%H List-Id \"x\" & s /a\\/b/").map Rule.text =
        .ok "~%H List-Id \"x\" & s /a\\/b/" := by
  have h : Rule.parse "!%H \"List-Id\" x&s /a\\/b/" =
      .ok ⟨[⟨true, .text (.header "List-Id") ⟨false, true⟩ "x"⟩,
        ⟨false, .text .subject ⟨true, false⟩ "a/b"⟩], .all, by simp⟩ := by decide +kernel
  exact ⟨h, (parse_text_of_parse h).2⟩

end Rule

end MailFilter
