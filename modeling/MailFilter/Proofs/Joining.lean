import MailFilter.Proofs.FaultPlaces

/-!
# Rules Behind One Another

Two texts that are rules make a rule with an operator between them, if both can be joined by it: a
rule of one condition can be joined by either operator, any other one only by its own
(`Rule.JoinsBy`). The conditions are those of the first text and then those of the second one.
Otherwise the first operator that is not the one before is refused.

An operator ends a word. So the tokens of the first text are read in front of an operator as they
are read at the end of a text, and the second text starts behind it like any other one.

## Main results

* `TokenStream.ofText_joined`: the tokens of two texts with an operator between them.
* `Rule.readMore_refused`: a rule behind an operator by which it cannot be joined is refused.
* `Rule.parse_joined`: what two rules with an operator between them are read as.
-/

namespace MailFilter

open Text (isBlank byteLength)

/-! ### Texts with an operator between them -/

namespace TokenStream

/-- An operator at the front of a text. -/
theorem ofText_mark (o : Combinator) (p : Nat) (s : List Char) :
    ofText p (o.mark :: s) = lexeme ⟨.operator o, p, [o.mark]⟩ (ofText (p + 1) s) := by
  cases o with
  | all => exact ofText_of_lexeme (s := '&' :: s) rfl p
  | any => exact ofText_of_lexeme (s := '|' :: s) rfl p

/-- The tokens of a text are read in front of an operator as they are alone. -/
theorem ofText_joined {s : List Char} {xs : List Lexeme} {q : Nat}
    (h : ofText 0 s = prepend xs (finished q)) (o : Combinator) (t : List Char) :
    ofText 0 (s ++ o.mark :: t) =
      prepend xs (lexeme ⟨.operator o, byteLength s, [o.mark]⟩ (ofText (byteLength s + 1) t)) := by
  obtain ⟨before, after, rfl, hrest, hfronts, -⟩ := exists_fronts h
  have hblank : ∀ c ∈ after, isBlank c = true :=
    List.dropWhile_eq_nil_iff.1 (blanks_of_ofText hrest.symm).1
  rw [← List.append_nil after] at hfronts
  have hmark : EndsWord (o.mark :: t) := endsWord_cons (by cases o <;> decide) t
  rw [hfronts.blanks hblank _ fun _ => hmark, ofText_mark, Nat.zero_add]

end TokenStream

/-! ### Joining rules -/

namespace Rule

open TokenStream (finished lexeme prepend prepend_append prepend_cons ofText_joined)

/-- Whether a rule can be joined by an operator: it has one condition, or its conditions are joined
by that operator. -/
def JoinsBy (r : Rule) (o : Combinator) : Prop := r.conditions.length = 1 ∨ r.combinator = o

/-- A rule can be joined by the operators that fit what is known behind it. -/
theorem joinsBy_iff {r : Rule} {o : Combinator} : r.JoinsBy o ↔ ∀ p ∈ r.joint?, p = o := by
  obtain ⟨c, cs, hcs⟩ := List.exists_cons_of_ne_nil r.conditions_ne_nil
  cases cs <;> simp [JoinsBy, joint?, hcs]

/-- A rule behind an operator by which it cannot be joined is refused at its first operator. -/
theorem readMore_refused {seen : Option Combinator} {o : Combinator} {x : Lexeme}
    (hx : x.token = .operator o) (hseen : ∀ p ∈ seen, p = o) {ys : List Lexeme} {r : Rule}
    (hr : Denotes .codes (ys.map Lexeme.spelled) r) (hjoin : ¬ r.JoinsBy o) (tail : TokenStream) :
    ∃ p, readMore seen (lexeme x (prepend ys tail)) = .error (.mixedOperators p) := by
  rw [joinsBy_iff] at hjoin
  generalize hls : ys.map Lexeme.spelled = ls at hr
  cases hr with
  | @intro _ _ c cs o' hc hcs =>
    obtain ⟨us, vs, rfl, rfl, hvs⟩ := List.map_eq_append_iff.1 hls
    obtain ⟨q, hread⟩ := Condition.read_prepend hc (prepend vs tail)
    cases hcs with
    | nil => exact absurd (by simp [joint?]) hjoin
    | cons hy _ _ =>
      obtain ⟨y, vs, rfl, rfl, -⟩ := List.map_eq_cons_iff.1 hvs
      have hmixed : ¬ ∀ p ∈ some o, p = o' := by
        simpa [joint?, eq_comm] using hjoin
      have hfin := isFinished_prepend hc.ne_nil (prepend (y :: vs) tail)
      refine ⟨y.start, ?_⟩
      rw [prepend_append, readMore_operator hx hseen hfin, hread]
      simp only [prepend_cons, readMore_mixed hy hmixed]
      rfl

/-- Two rules with an operator between them are a rule with the conditions of both, if both can be
joined by the operator; else the text mixes operators. -/
theorem parse_joined {a b : String} {r r' : Rule} (ha : Rule.parse a = .ok r)
    (hb : Rule.parse b = .ok r') (o : Combinator) :
    (r.JoinsBy o ∧ r'.JoinsBy o →
      Rule.parse (a ++ String.singleton o.mark ++ b) =
        .ok ⟨r.conditions ++ r'.conditions, o, by simp [r.conditions_ne_nil]⟩) ∧
    (¬ (r.JoinsBy o ∧ r'.JoinsBy o) →
      ∃ p, Rule.parse (a ++ String.singleton o.mark ++ b) = .error (.mixedOperators p)) := by
  obtain ⟨ls, hls, hden⟩ := ofTokens_ok_iff.1 ha
  obtain ⟨xs, q, hxs, rfl⟩ := TokenStream.spelled?_eq_some_iff.1 hls
  obtain ⟨ls', hls', hden'⟩ := ofTokens_ok_iff.1 hb
  rw [← spelled?, ← spelled?_ofText (byteLength a.toList + 1)] at hls'
  obtain ⟨ys, q', hys, rfl⟩ := TokenStream.spelled?_eq_some_iff.1 hls'
  let x : Lexeme := ⟨.operator o, byteLength a.toList, [o.mark]⟩
  have hx : x.token = .operator o := rfl
  have htokens : TokenStream.ofText 0 (a ++ String.singleton o.mark ++ b).toList =
      prepend xs (lexeme x (prepend ys (finished q'))) := by
    rw [String.toList_append, String.toList_append, String.toList_singleton, List.append_assoc,
      List.singleton_append, ofText_joined hxs, hys]
  rw [Rule.parse, htokens]
  constructor
  · rintro ⟨hr, hr'⟩
    refine ofTokens_ok_iff.2 ⟨_, TokenStream.spelled?_eq_some_iff.2
      ⟨xs ++ x :: ys, q', by rw [prepend_append, prepend_cons], rfl⟩, ?_⟩
    rw [List.map_append, List.map_cons]
    exact hden.join (joinsBy_iff.1 hr) hx hden' (joinsBy_iff.1 hr')
  · intro hjoin
    rw [ofTokens_prepend hden]
    by_cases hr : r.JoinsBy o
    · obtain ⟨p, hp⟩ := readMore_refused hx (joinsBy_iff.1 hr) hden' (fun hr' => hjoin ⟨hr, hr'⟩)
        (finished q')
      exact ⟨p, by rw [hp]; rfl⟩
    · exact ⟨x.start, by rw [readMore_mixed hx (mt joinsBy_iff.2 hr)]; rfl⟩

/-- A number in front of an operator and a pattern with an operator in it behind, joined by the
operator of the second text and by the other one. -/
theorem parse_joined_pattern :
    let age : Condition := ⟨false, .measure .olderThan 5⟩
    let subject : Condition := ⟨true, .text .subject ⟨true, true⟩ "a|b"⟩
    let new : Condition := ⟨false, .status .new⟩
    Rule.parse "ag 5" = .ok ⟨[age], .all, by simp⟩ ∧
      Rule.parse "~%s /a|b/|N" = .ok ⟨[subject, new], .any, by simp⟩ ∧
      Rule.parse ("ag 5" ++ "|" ++ "~%s /a|b/|N") = .ok ⟨[age, subject, new], .any, by simp⟩ ∧
      ∃ p, Rule.parse ("ag 5" ++ "&" ++ "~%s /a|b/|N") = .error (.mixedOperators p) := by
  intro age subject new
  have ha : Rule.parse "ag 5" = .ok ⟨[age], .all, by simp⟩ := by decide +kernel
  have hb : Rule.parse "~%s /a|b/|N" = .ok ⟨[subject, new], .any, by simp⟩ := by decide +kernel
  refine ⟨ha, hb, (parse_joined ha hb .any).1 ⟨.inl rfl, .inr rfl⟩, (parse_joined ha hb .all).2 ?_⟩
  rintro ⟨-, hlength | hoperator⟩
  · cases hlength
  · cases hoperator

end Rule

end MailFilter
