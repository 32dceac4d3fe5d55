import MailFilter.Proofs.ViablePrefixes
import MailFilter.Report.Lines

/-!
# The Places of Faults

A fault in the text of a rule has a place in bytes. It lies between two characters, what the fault
reports stands behind it (`SyntaxError.StandsAt`), and what stands in front of it can be continued
to a rule, unless it ends in a command with a marker for case that waits for its operand. The mark
under the text stands behind as many blanks as there are characters in front of the place.

## Main results

* `TokenStream.exists_fronts`: a text can be cut behind any of its tokens.
* `Rule.place_of_parse_error`: what is in front of the place of a fault, and what behind it.
-/

namespace MailFilter

open Text (isBlank byteLength leadingBlanks trimStart)
open TokenStream (finished broken lexeme prepend prepend_nil prepend_cons prepend_append)

/-! ### Cutting a text between tokens -/

/-- An element of two lists behind one another is in one of them. -/
theorem append_eq_append_cons {α : Type} {xs ys pre post : List α} {a : α}
    (h : xs ++ ys = pre ++ a :: post) :
    (∃ mid, xs = pre ++ a :: mid ∧ post = mid ++ ys) ∨
      ∃ mid, pre = xs ++ mid ∧ ys = mid ++ a :: post := by
  rcases List.append_eq_append_iff.1 h with ⟨mid, rfl, rfl⟩ | ⟨mid, rfl, hmid⟩
  · exact .inr ⟨mid, rfl, rfl⟩
  · cases mid with
    | nil => exact .inr ⟨[], by simp, by simpa using hmid.symm⟩
    | cons b mid =>
      obtain ⟨rfl, rfl⟩ := List.cons_eq_cons.1 hmid
      exact .inl ⟨mid, rfl, rfl⟩

/-- Texts with the same front end a word alike, if what follows does. -/
theorem EndsWord.append_congr {front rest rest' : List Char} (hr : EndsWord rest → EndsWord rest')
    (h : EndsWord (front ++ rest)) : EndsWord (front ++ rest') := by
  cases front with
  | nil => exact hr h
  | cons c front => exact h.of_append (List.cons_ne_nil c front)

/-- Blanks are skipped wherever a text is read from. -/
theorem TokenStream.ofText_blanks {blanks : List Char} (h : ∀ c ∈ blanks, isBlank c = true)
    (p : Nat) (s : List Char) : ofText p (blanks ++ s) = ofText (p + byteLength blanks) s := by
  have hgap : leadingBlanks (blanks ++ s) = blanks ++ leadingBlanks s :=
    List.takeWhile_append_of_pos h
  have htrim : trimStart (blanks ++ s) = trimStart s := List.dropWhile_append_of_pos h
  have hplace : p + byteLength (leadingBlanks (blanks ++ s)) =
      p + byteLength blanks + byteLength (leadingBlanks s) := by
    rw [hgap, Text.byteLength_append, Nat.add_assoc]
  cases hs : Scan.ofText (trimStart s) with
  | finished => rw [ofText_of_finished (htrim ▸ hs), ofText_of_finished hs, hplace]
  | broken kind => rw [ofText_of_broken (htrim ▸ hs), ofText_of_broken hs, hplace]
  | lexeme token spelling rest =>
    rw [ofText_of_lexeme (htrim ▸ hs), ofText_of_lexeme hs, hplace]

namespace TokenStream

/-- The tokens of a text that ends where another one follows. They are read in front of every text
that ends a word where that one does. -/
def Fronts (p : Nat) (before after : List Char) (xs : List Lexeme) : Prop :=
  ∀ after', (EndsWord after → EndsWord after') →
    ofText p (before ++ after') = prepend xs (ofText (p + byteLength before) after')

/-- The place that is reached behind tokens. -/
def reached (p : Nat) (xs : List Lexeme) : Nat := xs.foldl (fun _ x => x.stop) p

/-- A text can be cut behind any of its tokens. -/
theorem exists_fronts {p : Nat} {s : List Char} {xs : List Lexeme} {tail : TokenStream}
    (h : ofText p s = prepend xs tail) :
    ∃ before after, s = before ++ after ∧ tail = ofText (p + byteLength before) after ∧
      Fronts p before after xs ∧ reached p xs = p + byteLength before := by
  induction xs generalizing p s with
  | nil => exact ⟨[], s, rfl, h.symm, fun _ _ => rfl, rfl⟩
  | cons x xs ih =>
    cases hs : Scan.ofText (trimStart s) with
    | finished =>
      rw [ofText_of_finished hs] at h
      cases h
    | broken kind =>
      rw [ofText_of_broken hs] at h
      cases h
    | lexeme token spelling rest =>
      rw [ofText_of_lexeme hs, prepend_cons, lexeme.injEq] at h
      obtain ⟨rfl, htail⟩ := h
      obtain ⟨before, after, rfl, rfl, hfronts, hstop⟩ := ih htail
      obtain ⟨hsplit, -⟩ := Scan.ofText_lexeme hs
      have hplace : p + byteLength (leadingBlanks s) + byteLength spelling + byteLength before =
          p + byteLength (leadingBlanks s ++ spelling ++ before) := by
        simp only [Text.byteLength_append, Nat.add_assoc]
      refine ⟨leadingBlanks s ++ spelling ++ before, after, ?_, by rw [hplace], ?_,
        hstop.trans hplace⟩
      · rw [List.append_assoc, List.append_assoc, ← hsplit, Text.leadingBlanks_append_trimStart]
      · intro after' hafter
        obtain ⟨hgap, hscan⟩ := Scan.ofText_trimStart_append hs (EndsWord.append_congr hafter)
        rw [List.append_assoc, ofText_of_lexeme hscan, hgap, hfronts after' hafter, hplace]
        rfl

namespace Fronts

variable {p : Nat} {before after : List Char} {xs : List Lexeme}

/-- Blanks can be counted among what is in front. -/
theorem blanks {gap : List Char} (h : Fronts p before (gap ++ after) xs)
    (hgap : ∀ c ∈ gap, isBlank c = true) : Fronts p (before ++ gap) after xs := by
  intro after' hafter
  rw [List.append_assoc, h _ (EndsWord.append_congr hafter), ofText_blanks hgap,
    Text.byteLength_append, Nat.add_assoc]

/-- The tokens in front of a text that has tokens. -/
theorem spelled? {cont : List Char} {ls : List Spelled} (h : Fronts 0 before after xs)
    (hend : EndsWord after → EndsWord cont) (hcont : MailFilter.spelled? cont = some ls) :
    MailFilter.spelled? (before ++ cont) = some (xs.map Lexeme.spelled ++ ls) := by
  rw [← spelled?_ofText (0 + byteLength before)] at hcont
  obtain ⟨ys, q, hys, rfl⟩ := spelled?_eq_some_iff.1 hcont
  rw [MailFilter.spelled?, h cont hend, hys, ← prepend_append]
  exact spelled?_eq_some_iff.2 ⟨xs ++ ys, q, rfl, List.map_append⟩

/-- The tokens in front are those of the text in front. -/
theorem spelled?_before (h : Fronts 0 before after xs) :
    MailFilter.spelled? before = some (xs.map Lexeme.spelled) := by
  have h := h.spelled? (fun _ => endsWord_nil) spelled?_nil
  rwa [List.append_nil, List.append_nil] at h

end Fronts

end TokenStream

/-! ### What stands at a place -/

/-- A token stands at the front of a text, spelled as given. -/
def Token.Heads (token : Token) (spelling s : List Char) : Prop :=
  ∃ rest, s = spelling ++ rest ∧ Scan.ofText s = .lexeme token spelling rest

/-- The character of an operator. -/
def Combinator.mark : Combinator → Char
  | .all => '&'
  | .any => '|'

/-- What a fault reports stands at its place: the keyword, the token, the bad number or the opening
delimiter; an operator that is not the one of the rule in front; the end of the text, with nothing
but blanks before it; or a token that is no operator. -/
def SyntaxError.StandsAt (before after : List Char) : SyntaxError → Prop
  | .empty => False
  | .unknownKeyword word _ => Token.Heads (.word word) word.toList after
  | .missingOperand word _ => Token.Heads (.word word) word.toList after
  | .unexpectedModifier word _ => Token.Heads (.word word) word.toList after
  | .unexpectedToken spelling _ =>
    ∃ token : Token, token.Heads spelling.toList after ∧ token.isMarker = false ∧
      ∀ word, token ≠ .word word
  | .invalidNumber value _ =>
    Token.Heads (.word value) value.toList after ∨
      ∃ s, Token.Heads (.quoted value) ('"' :: s) after
  | .unterminated kind _ => ∃ s, after = kind.mark :: s ∧ Token.close kind s = none
  | .mixedOperators _ =>
    ∃ r o, Rule.parse (String.ofList before) = .ok r ∧ 2 ≤ r.conditions.length ∧
      r.combinator ≠ o ∧ Token.Heads (.operator o) [o.mark] after
  | .missingCondition _ => ∀ c ∈ after, isBlank c = true
  | .trailingInput _ =>
    ∃ (token : Token) (spelling : List Char), token.Heads spelling after ∧
      ∀ o, token ≠ .operator o

/-- A word heads a text as it is. -/
theorem Token.Heads.word {word : String} {spelling s : List Char}
    (h : Heads (.word word) spelling s) : Heads (.word word) word.toList s := by
  obtain ⟨rest, rfl, hscan⟩ := h
  obtain ⟨rfl, -⟩ := word_of_scan hscan
  exact ⟨rest, rfl, hscan⟩

/-- A quoted text starts with a quote, and an operator is its character. -/
theorem Scan.spelling_of_ofText {s spelling rest : List Char} {token : Token}
    (h : Scan.ofText s = .lexeme token spelling rest) :
    (∀ value, token = .quoted value → ∃ t, spelling = '"' :: t) ∧
      ∀ o, token = .operator o → spelling = [o.mark] := by
  unfold Scan.ofText at h
  split at h
  · cases h
  · next c s =>
    split at h
    case h_6 | h_7 =>
      split at h <;> cases h
      simp
    case h_8 =>
      cases h
      rcases ofWord_cases (c :: s.takeWhile Token.isWordChar) with ⟨n, hn⟩ | hn <;> simp [hn]
    all_goals
      cases h
      simp [Combinator.mark]

/-- A text that starts with a delimiter that is not closed. -/
theorem Scan.mark_of_broken {s : List Char} {kind : Delimited} (h : Scan.ofText s = .broken kind) :
    ∃ rest, s = kind.mark :: rest ∧ Token.close kind rest = none := by
  unfold Scan.ofText at h
  split at h
  · cases h
  · next c s =>
    split at h
    case h_6 | h_7 =>
      split at h
      · cases h
      · next hclose =>
        cases h
        exact ⟨s, rfl, hclose⟩
    all_goals cases h

namespace TokenStream

variable {p q : Nat} {s : List Char}

/-- The first token of a stream heads the text behind the blanks. -/
theorem heads_of_ofText {x : Lexeme} {rest : TokenStream} (h : ofText p s = lexeme x rest) :
    x.token.Heads x.spelling (trimStart s) ∧ x.start = p + byteLength (leadingBlanks s) := by
  rw [ofText] at h
  split at h <;> cases h
  next hs => exact ⟨⟨_, (Scan.ofText_lexeme hs).1, hs⟩, rfl⟩

/-- A stream without tokens is that of a text of blanks. -/
theorem blanks_of_ofText (h : ofText p s = finished q) :
    trimStart s = [] ∧ q = p + byteLength (leadingBlanks s) := by
  rw [ofText] at h
  split at h <;> cases h
  next hs => exact ⟨Scan.eq_nil_of_finished hs, rfl⟩

/-- A stream breaks at a delimiter that is not closed. -/
theorem mark_of_ofText {kind : Delimited} (h : ofText p s = broken kind q) :
    (∃ rest, trimStart s = kind.mark :: rest ∧ Token.close kind rest = none) ∧
      q = p + byteLength (leadingBlanks s) := by
  rw [ofText] at h
  split at h <;> cases h
  next hs => exact ⟨Scan.mark_of_broken hs, rfl⟩

end TokenStream

/-- What a fault is about stands behind the blanks at the front of the text. -/
theorem SyntaxError.At.standsAt {e : SyntaxError} {p : Nat} {s : List Char}
    (h : e.At (.ofText p s)) (before : List Char) :
    e.position? = some (p + byteLength (leadingBlanks s)) ∧ e.StandsAt before (trimStart s) := by
  generalize htail : TokenStream.ofText p s = tail at h
  cases h with
  | unterminated =>
    obtain ⟨hmark, rfl⟩ := TokenStream.mark_of_ofText htail
    exact ⟨rfl, hmark⟩
  | missingCondition =>
    obtain ⟨hnil, rfl⟩ := TokenStream.blanks_of_ofText htail
    exact ⟨rfl, by simp [StandsAt, hnil]⟩
  | unknownKeyword hword | missingOperand hword | unexpectedModifier hword =>
    obtain ⟨hheads, hstart⟩ := TokenStream.heads_of_ofText htail
    rw [hword] at hheads
    exact ⟨congrArg some hstart, hheads.word⟩
  | unexpectedToken hword hmarker =>
    obtain ⟨hheads, hstart⟩ := TokenStream.heads_of_ofText htail
    refine ⟨congrArg some hstart, _, ?_, hmarker, hword⟩
    rw [String.toList_ofList]
    exact hheads
  | invalidNumber hvalue =>
    obtain ⟨hheads, hstart⟩ := TokenStream.heads_of_ofText htail
    refine ⟨congrArg some hstart, hvalue.imp (fun hword => ?_) fun hquoted => ?_⟩
    · rw [hword] at hheads
      exact hheads.word
    · obtain ⟨rest, hsplit, hscan⟩ := hheads
      obtain ⟨t, ht⟩ := (Scan.spelling_of_ofText hscan).1 _ hquoted
      rw [hquoted, ht] at hscan
      exact ⟨t, rest, ht ▸ hsplit, hscan⟩
  | trailingInput hoperator =>
    obtain ⟨hheads, hstart⟩ := TokenStream.heads_of_ofText htail
    exact ⟨congrArg some hstart, _, _, hheads, hoperator⟩

/-- A delimiter that is not closed ends no word in front of it. -/
theorem SyntaxError.StandsAt.not_endsWord {e : SyntaxError} {before after : List Char}
    (h : e.StandsAt before after) (hopen : e.isUnterminated = true) : ¬ EndsWord after := by
  cases e with
  | unterminated kind p =>
    obtain ⟨s, rfl, -⟩ := h
    intro hend
    have hmark := hend kind.mark rfl
    cases kind <;> cases hmark
  | _ => cases hopen

namespace Rule

/-- An operator is known behind two conditions or more. -/
theorem joint?_eq_some_iff {r : Rule} {o : Combinator} :
    r.joint? = some o ↔ 2 ≤ r.conditions.length ∧ r.combinator = o := by
  obtain ⟨c, cs, hcs⟩ := List.exists_cons_of_ne_nil r.conditions_ne_nil
  cases cs <;> simp [joint?, hcs]

/-- What a fault of a rule is about stands at its place, behind the tokens in front. -/
theorem StopsAt.standsAt {xs : List Lexeme} {e : SyntaxError} {before after : List Char}
    (h : StopsAt xs (.ofText (0 + byteLength before) after) e)
    (hfronts : TokenStream.Fronts 0 before after xs)
    (hreached : TokenStream.reached 0 xs = 0 + byteLength before) :
    ∃ gap after', after = gap ++ after' ∧ (∀ c ∈ gap, isBlank c = true) ∧
      e.position? = some (byteLength (before ++ gap)) ∧ e.StandsAt (before ++ gap) after' := by
  have hsplit := (Text.leadingBlanks_append_trimStart after).symm
  have hblanks : ∀ c ∈ leadingBlanks after, isBlank c = true :=
    fun _ hc => List.mem_takeWhile_imp hc
  have hplace : byteLength (before ++ leadingBlanks after) =
      0 + byteLength before + byteLength (leadingBlanks after) := by
    rw [Text.byteLength_append, Nat.zero_add]
  generalize htail : TokenStream.ofText (0 + byteLength before) after = tail at h
  cases h with
  | ahead hat =>
    rw [← htail] at hat
    refine ⟨_, _, hsplit, hblanks, ?_⟩
    rw [hplace]
    exact hat.standsAt _
  | @mixedOperators x rest r o p hr hseen hop hne =>
    obtain ⟨hheads, hstart⟩ := TokenStream.heads_of_ofText htail
    obtain ⟨htwo, rfl⟩ := joint?_eq_some_iff.1 hseen
    have hread : Rule.parse (String.ofList (before ++ leadingBlanks after)) = .ok r := by
      rw [parse_ok_iff_denotes, String.toList_ofList]
      rw [hsplit] at hfronts
      exact ⟨_, (hfronts.blanks hblanks).spelled?_before, hr⟩
    have hspelling : x.spelling = [o.mark] := by
      obtain ⟨_, -, hscan⟩ := hheads
      exact (Scan.spelling_of_ofText hscan).2 o hop
    rw [hop, hspelling] at hheads
    refine ⟨_, _, hsplit, hblanks, ?_, r, o, hread, htwo, hne, hheads⟩
    rw [hplace]
    exact congrArg some hstart
  | @missingCondition front x q hxs =>
    -- the place is behind the operator, in front of the blanks
    obtain ⟨hnil, -⟩ := TokenStream.blanks_of_ofText htail
    have hstop : x.stop = byteLength before := by
      rw [hxs, TokenStream.reached, List.foldl_append, Nat.zero_add] at hreached
      exact hreached
    rw [hnil, List.append_nil] at hsplit
    refine ⟨[], after, rfl, by simp, ?_, ?_⟩
    · rw [List.append_nil]
      exact congrArg some hstop
    · exact hsplit ▸ hblanks

/-- A text that ends in a command with a marker for case, where its operand should follow. -/
def StopsInExactCommand (before : List Char) : Prop :=
  ∃ ls, spelled? before = some ls ∧ IsExactCommand ls

/-- The place of a fault, between what is in front of it and what is behind it. What the fault
reports stands there. What is in front can be continued to a rule, unless a delimiter is not closed
where the operand of a command with a marker for case should stand; then it cannot. The mark in the
report of the fault stands behind as many blanks as there are characters in front. -/
structure IsPlace (text : String) (e : SyntaxError) (before after : List Char) : Prop where
  text_eq : text.toList = before ++ after
  position : e.position? = some (byteLength before)
  stands : e.StandsAt before after
  continues : (∃ cont r, Rule.parse (String.ofList (before ++ cont)) = .ok r) ↔
    ¬ (e.isUnterminated = true ∧ StopsInExactCommand before)
  report : ∀ colours, Report.syntaxFault colours text e =
    Report.paint colours .boldRed "error:" ++ " " ++ e.message ++
      ("\n  " ++ text ++ "\n  " ++ String.ofList (List.replicate before.length ' ') ++
        Report.paint colours .red "^")

/-- A text that is refused, with a fault other than that it is empty, has the place of the fault. -/
theorem place_of_parse_error {text : String} {e : SyntaxError} (h : Rule.parse text = .error e)
    (hne : e ≠ .empty) : ∃ before after, IsPlace text e before after := by
  obtain ⟨xs, tail, hstream, hstop, hfront⟩ := stopsAt_of_ofTokens h hne
  obtain ⟨before, rest, hsplit, rfl, hfronts, hreached⟩ := TokenStream.exists_fronts hstream
  obtain ⟨gap, after, rfl, hgap, hplace, hstands⟩ := hstop.standsAt hfronts hreached
  have hfronts' := hfronts.blanks hgap
  rw [← List.append_assoc] at hsplit
  refine ⟨before ++ gap, after, hsplit, hplace, hstands, ⟨?_, fun hno => ?_⟩, fun colours => ?_⟩
  · rintro ⟨cont, r, hr⟩ ⟨hopen, ls, hls, hcommand⟩
    obtain rfl : xs.map Lexeme.spelled = ls := by
      simpa [hfronts'.spelled?_before] using hls
    obtain ⟨e', he'⟩ := hcommand.ofTokens (.ofText (0 + byteLength (before ++ gap)) cont)
    rw [Rule.parse, String.toList_ofList,
      hfronts' cont fun hend => absurd hend (hstands.not_endsWord hopen), he'] at hr
    cases hr
  · have hviable := hfront.resolve_right fun h =>
      hno ⟨h.2, _, hfronts'.spelled?_before, h.1⟩
    obtain ⟨cont, ls, r, hend, hcont, hr⟩ := hviable
    refine ⟨cont, r, ?_⟩
    rw [parse_ok_iff_denotes, String.toList_ofList]
    exact ⟨_, hfronts'.spelled? (fun _ => hend) hcont, hr⟩
  · have hcolumn : Report.column (byteLength (before ++ gap)) text.toList =
        (before ++ gap).length := by
      rw [hsplit, Report.column, Report.charactersTo?_byteLength, Option.getD_some]
    simp only [Report.syntaxFault, hplace, hcolumn]

/-- A keyword behind characters of two bytes, and a command with a marker for case whose operand is
not closed. -/
theorem place_of_parse_error_wide :
    (Rule.parse "s \"grüße\" & zz" = .error (.unknownKeyword "zz" 14) ∧
      ∃ before after, IsPlace "s \"grüße\" & zz" (.unknownKeyword "zz" 14) before after) ∧
      Rule.parse "%X \"ham" = .error (.unterminated .quoted 3) ∧
      IsPlace "%X \"ham" (.unterminated .quoted 3) "%X ".toList "\"ham".toList ∧
      StopsInExactCommand "%X ".toList := by
  have hwide : Rule.parse "s \"grüße\" & zz" = .error (.unknownKeyword "zz" 14) := by
    decide +kernel
  have hopen : Rule.parse "%X \"ham" = .error (.unterminated .quoted 3) := by decide +kernel
  have hspelled : spelled? "%X ".toList =
      some [⟨.exactCase, ['%']⟩, ⟨.word "X", ['X']⟩] := by decide +kernel
  have hcommand : Condition.IsExactCommand ([⟨.exactCase, ['%']⟩] ++ ⟨.word "X", ['X']⟩ :: []) :=
    .intro (by simp [Token.isMarker]) rfl (by simp) rfl
  obtain ⟨before, after, hplace⟩ := place_of_parse_error hopen (by simp)
  have hsplit : "%X ".toList ++ "\"ham".toList = before ++ after := hplace.text_eq
  obtain ⟨rfl, rfl⟩ :=
    Text.append_inj_of_byteLength hsplit (Option.some.inj hplace.position)
  exact ⟨⟨hwide, place_of_parse_error hwide (by simp)⟩, hopen, hplace, _, hspelled, [], _, rfl,
    .nil, hcommand⟩

end Rule

end MailFilter
