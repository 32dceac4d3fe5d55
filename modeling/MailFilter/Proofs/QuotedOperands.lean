import MailFilter.Proofs.FaultPlaces

/-!
# Quoted Texts in Rules

A text between quotes is one token wherever a token starts, and what follows it is read as if it
stood alone, only further behind (`TokenStream.ofText_quoted`). So the tokens on both sides do not
depend on the text.

A quoted text can stand in a rule in two places, as an operand and as the name of a header. If a
text is a rule with one quoted text in it, then it is one with any other text quoted in its place,
and only this place of the rule changes: by cases on what a condition denotes, and along the
conditions of the rule. The name of a header is not empty, so a place where the empty text can stand
is an operand.

## Main results

* `TokenStream.ofText_shift`: the tokens of a text that stands further behind.
* `Test.Asked.quoted`, `Criterion.Named.quoted`: what a quoted token is in a condition.
* `Rule.Denotes.quoted`: the same for the tokens of a rule.
* `Rule.parse_quoted`: quoted texts, as tokens and in rules.
-/

namespace MailFilter

open Text (byteLength)

/-! ### Tokens further behind -/

/-- A text between quotes, as a token that starts at a byte. -/
def Lexeme.quoted (p : Nat) (text : String) : Lexeme :=
  ⟨.quoted text, p, Quoting.quote text.toList⟩

namespace TokenStream

/-- The same tokens and the same end, `k` bytes further behind. -/
def shift (k : Nat) : TokenStream → TokenStream
  | finished p => finished (p + k)
  | broken kind p => broken kind (p + k)
  | lexeme x tail => lexeme { x with start := x.start + k } (tail.shift k)

/-- The tokens of a text that stands further behind. -/
theorem ofText_shift (p k : Nat) (s : List Char) : ofText (p + k) s = (ofText p s).shift k := by
  induction s using Scan.induction generalizing p with
  | finished s h =>
    rw [ofText_of_finished h, ofText_of_finished h, shift, Nat.add_right_comm]
  | broken s kind h =>
    rw [ofText_of_broken h, ofText_of_broken h, shift, Nat.add_right_comm]
  | lexeme s token spelling rest h ih =>
    rw [ofText_of_lexeme h, ofText_of_lexeme h, shift, ← ih]
    simp only [Nat.add_right_comm]

/-- A text between quotes is read as that text, and what follows it as if it stood alone. -/
theorem ofText_quoted (p : Nat) (text : String) (rest : List Char) :
    ofText p (Quoting.quote text.toList ++ rest) =
      lexeme (.quoted p text) ((ofText 0 rest).shift (Lexeme.quoted p text).stop) := by
  have hscan := Quoting.ofText_quote text.toList rest
  have htrim : Text.trimStart (Quoting.quote text.toList ++ rest) =
      Quoting.quote text.toList ++ rest := rfl
  have hgap : Text.leadingBlanks (Quoting.quote text.toList ++ rest) = [] := rfl
  rw [← htrim] at hscan
  rw [ofText_of_lexeme hscan, hgap, ← ofText_shift, Nat.zero_add, String.ofList_toList]
  rfl

/-- The tokens of a stream with tokens in front of it. -/
theorem spelled?_prepend (xs : List Lexeme) (tail : TokenStream) :
    (prepend xs tail).spelled? = tail.spelled?.map (xs.map Lexeme.spelled ++ ·) := by
  induction xs with
  | nil => simp
  | cons x xs ih =>
    rw [prepend_cons, spelled?, ih, Option.map_map]
    rfl

/-- The bytes where the tokens of a stream start. -/
def starts : TokenStream → List Nat
  | finished _ => []
  | broken _ _ => []
  | lexeme x tail => x.start :: tail.starts

/-- Where a token starts, the stream can be cut in front of it. -/
theorem exists_prepend_of_mem_starts {s : TokenStream} {p : Nat} (h : p ∈ s.starts) :
    ∃ xs x tail, s = prepend xs (lexeme x tail) ∧ x.start = p := by
  induction s with
  | finished => cases h
  | broken => cases h
  | lexeme x tail ih =>
    rcases List.mem_cons.1 h with rfl | h
    · exact ⟨[], x, tail, rfl, rfl⟩
    · obtain ⟨xs, y, rest, rfl, hstart⟩ := ih h
      exact ⟨x :: xs, y, rest, rfl, hstart⟩

/-- Where a token starts with a quote, what is in front of it is read alike whatever follows. -/
theorem exists_front_of_mem_starts {front s : List Char}
    (h : byteLength front ∈ (ofText 0 (front ++ '"' :: s)).starts) :
    ∃ xs, ∀ s', ofText 0 (front ++ s') = prepend xs (ofText (byteLength front) s') := by
  obtain ⟨xs, x, tail, hstream, hstart⟩ := exists_prepend_of_mem_starts h
  obtain ⟨before, after, hsplit, htail, hfronts, -⟩ := exists_fronts hstream
  obtain ⟨-, hplace⟩ := heads_of_ofText htail.symm
  have hcut := (Text.leadingBlanks_append_trimStart after).symm
  rw [hcut] at hsplit hfronts
  have hlength : byteLength front = byteLength (before ++ Text.leadingBlanks after) := by
    rw [Text.byteLength_append, ← hstart, hplace, Nat.zero_add]
  rw [← List.append_assoc] at hsplit
  obtain ⟨hfront, hquote⟩ := Text.append_inj_of_byteLength hsplit hlength
  have hread := hfronts.blanks fun _ hc => List.mem_takeWhile_imp hc
  rw [← hfront, ← hquote] at hread
  refine ⟨xs, fun s' => ?_⟩
  -- a quote does not end a word, so nothing is asked of what follows
  rw [hread s' fun hend => absurd (hend '"' rfl) (by decide), Nat.zero_add]

end TokenStream

/-! ### Quoted tokens in conditions -/

/-- The places of a condition where a quoted text can stand. -/
inductive Slot where
  | operand
  | headerName

namespace Slot

/-- The text that a test has in a slot. -/
def text? : Slot → Test → Option String
  | operand, .text _ _ value => some value
  | operand, .command template => some template
  | headerName, .text (.header name) _ _ => some name
  | _, _ => none

/-- A test with another text in a slot and everything else as it is. -/
def put (text : String) : Slot → Test → Test
  | operand, .text f how _ => .text f how text
  | operand, .command _ => .command text
  | headerName, .text (.header _) how value => .text (.header text) how value
  | _, test => test

/-- Whether a text can stand in a slot. The name of a header is not empty. -/
def Accepts (text : String) : Slot → Prop
  | operand => True
  | headerName => text ≠ ""

/-- A text that is put into a slot stands there. -/
theorem text?_put {slot : Slot} {test : Test} {old : String} (h : slot.text? test = some old)
    (text : String) : slot.text? (slot.put text test) = some text := by
  unfold text? at h
  split at h <;> first | rfl | cases h

end Slot

/-- A condition with another text in a slot. -/
def Condition.put (slot : Slot) (text : String) (c : Condition) : Condition :=
  { c with test := slot.put text c.test }

/-- A quoted text with its spelling. -/
def Spelled.quoted (text : String) : Spelled := ⟨.quoted text, Quoting.quote text.toList⟩

variable {pre post : List Spelled} {text : String}

/-- A list of one element is that element with nothing on either side. -/
theorem append_cons_eq_singleton {α : Type} {pre post : List α} {a b : α}
    (h : pre ++ a :: post = [b]) : pre = [] ∧ a = b ∧ post = [] := by
  simpa [List.append_eq_singleton_iff] using h

theorem Spelled.headerName?_quoted {name : String} :
    (quoted text).headerName? = some name ↔ text ≠ "" ∧ name = text := by
  simp only [headerName?, quoted]
  split_ifs with h <;> simp [h, eq_comm]

/-- A quoted token between the keyword and the operand is the name of a header. -/
theorem Criterion.Named.quoted {base k : Criterion}
    (h : Named base (pre ++ .quoted text :: post) k) :
    text ≠ "" ∧ k = .text (.header text) ∧
      ∀ u ≠ "", Named base (pre ++ .quoted u :: post) (.text (.header u)) := by
  generalize hls : pre ++ Spelled.quoted text :: post = ls at h
  cases h with
  | header hx =>
    obtain ⟨rfl, rfl, rfl⟩ := append_cons_eq_singleton hls
    obtain ⟨hne, rfl⟩ := Spelled.headerName?_quoted.1 hx
    exact ⟨hne, rfl, fun u hu => .header (Spelled.headerName?_quoted.2 ⟨hu, rfl⟩)⟩
  | other => simp at hls

/-- A quoted token behind the keyword and the name of a header is the operand. -/
theorem Test.Asked.quoted {exact : Bool} {k : Criterion} {test : Test}
    (h : Asked exact k (pre ++ .quoted text :: post) test) :
    Slot.operand.text? test = some text ∧
      ∀ u, Asked exact k (pre ++ .quoted u :: post) (Slot.operand.put u test) := by
  generalize hls : pre ++ Spelled.quoted text :: post = ls at h
  cases h with
  | status => simp at hls
  | measure hexact hx =>
    obtain ⟨rfl, rfl, rfl⟩ := append_cons_eq_singleton hls
    cases hx
  | text hps hx =>
    rcases append_eq_append_cons hls.symm with ⟨mid, rfl, -⟩ | ⟨mid, rfl, hlast⟩
    · cases hps (.quoted text) (by simp)
    · obtain ⟨rfl, rfl, rfl⟩ := append_cons_eq_singleton hlast.symm
      cases hx
      rw [List.append_nil]
      exact ⟨rfl, fun u => .text hps rfl⟩
  | command hexact hx =>
    obtain ⟨rfl, rfl, rfl⟩ := append_cons_eq_singleton hls
    cases hx
    exact ⟨rfl, fun u => .command hexact rfl⟩

/-- The operand behind the name of a header does not depend on the name. -/
theorem Test.Asked.rename {exact : Bool} {name : String} {os : List Spelled} {test : Test}
    (h : Asked exact (.text (.header name)) os test) :
    Slot.headerName.text? test = some name ∧
      ∀ u, Asked exact (.text (.header u)) os (Slot.headerName.put u test) := by
  cases h with
  | text hps hx => exact ⟨rfl, fun u => .text hps hx⟩

/-- A quoted token of a condition stands in one of its slots. Every text that the slot accepts can
stand there, and the rest of the condition stays as it is. -/
theorem Condition.Denotes.quoted {v : Vocabulary} {c : Condition}
    (h : Denotes v (pre ++ .quoted text :: post) c) :
    ∃ slot : Slot, slot.text? c.test = some text ∧ slot.Accepts text ∧
      ∀ u, slot.Accepts u → Denotes v (pre ++ .quoted u :: post) (c.put slot u) := by
  generalize hls : pre ++ Spelled.quoted text :: post = ls at h
  cases h with
  | @intro ms hs os w word n base k test markers keyword meaning name operand =>
    rcases append_eq_append_cons hls.symm with ⟨mid, rfl, -⟩ | ⟨mid, rfl, hbehind⟩
    · cases markers (.quoted text) (by simp)
    cases mid with
    | nil =>
      obtain ⟨rfl, -⟩ := List.cons_eq_cons.1 hbehind
      cases keyword
    | cons y mid =>
      obtain ⟨rfl, hrest⟩ := List.cons_eq_cons.1 hbehind
      rcases append_eq_append_cons hrest with ⟨mid', rfl, rfl⟩ | ⟨mid', rfl, rfl⟩
      · obtain ⟨hne, rfl, hname⟩ := name.quoted
        obtain ⟨htext, hrename⟩ := operand.rename
        refine ⟨.headerName, htext, hne, fun u hu => ?_⟩
        have hu := intro markers keyword meaning (hname u hu) (hrename u)
        simpa [put] using hu
      · obtain ⟨htext, hoperand⟩ := operand.quoted
        refine ⟨.operand, htext, trivial, fun u _ => ?_⟩
        have hu := intro markers keyword meaning name (hoperand u)
        simpa [put] using hu

/-- A quoted token of conditions stands in a slot of one of them. -/
theorem Condition.DenotesMore.quoted {v : Vocabulary} {o : Combinator} {cs : List Condition}
    (h : DenotesMore v o (pre ++ .quoted text :: post) cs) :
    ∃ (slot : Slot) (before : List Condition) (c : Condition) (behind : List Condition),
      cs = before ++ c :: behind ∧ slot.text? c.test = some text ∧ slot.Accepts text ∧
      ∀ u, slot.Accepts u →
        DenotesMore v o (pre ++ .quoted u :: post) (before ++ c.put slot u :: behind) := by
  generalize hls : pre ++ Spelled.quoted text :: post = ls at h
  induction h generalizing pre with
  | nil => simp at hls
  | @cons x ls rest c cs hx hc hcs ih =>
    cases pre with
    | nil =>
      obtain ⟨rfl, -⟩ := List.cons_eq_cons.1 hls
      cases hx
    | cons y pre =>
      obtain ⟨rfl, hrest⟩ := List.cons_eq_cons.1 hls
      rcases append_eq_append_cons hrest.symm with ⟨mid, rfl, rfl⟩ | ⟨mid, rfl, rfl⟩
      · obtain ⟨slot, htext, haccepts, hput⟩ := hc.quoted
        refine ⟨slot, [], c, cs, rfl, htext, haccepts, fun u hu => ?_⟩
        have hu := cons hx (hput u hu) hcs
        simpa using hu
      · obtain ⟨slot, before, d, behind, rfl, htext, haccepts, hput⟩ := ih rfl
        refine ⟨slot, c :: before, d, behind, rfl, htext, haccepts, fun u hu => ?_⟩
        have hu := cons hx hc (hput u hu)
        simpa using hu

/-! ### Quoted texts in rules -/

namespace Rule

/-- A quoted token of a rule stands in a slot of one of its conditions. Every text that the slot
accepts can stand there, and the rest of the rule stays as it is. -/
theorem Denotes.quoted {v : Vocabulary} {r : Rule}
    (h : Denotes v (pre ++ .quoted text :: post) r) :
    ∃ (slot : Slot) (before : List Condition) (c : Condition) (behind : List Condition),
      r.conditions = before ++ c :: behind ∧ slot.text? c.test = some text ∧ slot.Accepts text ∧
      ∀ u, slot.Accepts u → Denotes v (pre ++ .quoted u :: post)
        ⟨before ++ c.put slot u :: behind, r.combinator, by simp⟩ := by
  generalize hls : pre ++ Spelled.quoted text :: post = ls at h
  cases h with
  | @intro ls rest c cs o hc hcs =>
    rcases append_eq_append_cons hls.symm with ⟨mid, rfl, rfl⟩ | ⟨mid, rfl, rfl⟩
    · obtain ⟨slot, htext, haccepts, hput⟩ := hc.quoted
      refine ⟨slot, [], c, cs, rfl, htext, haccepts, fun u hu => ?_⟩
      have hu := intro (hput u hu) hcs
      simpa using hu
    · obtain ⟨slot, before, d, behind, rfl, htext, haccepts, hput⟩ := hcs.quoted
      refine ⟨slot, c :: before, d, behind, rfl, htext, haccepts, fun u hu => ?_⟩
      have hu := intro hc (hput u hu)
      simpa using hu

/-- The text of a rule with a text quoted in it. -/
def embed (front text back : String) : String :=
  front ++ String.ofList (Quoting.quote text.toList) ++ back

theorem toList_embed (front text back : String) :
    (embed front text back).toList =
      front.toList ++ (Quoting.quote text.toList ++ back.toList) := by
  simp [embed]

open TokenStream (lexeme ofText prepend)

/-- A text between quotes is one token, which ends behind the closing quote, and what follows is
read as if it stood alone, only further behind. Where a token starts in front of a quoted text, the
tokens on both sides are the same for every other text. And if this is a rule, then the quoted text
stands in a slot of one of its conditions, and with any text that the slot accepts in its place it
is the rule with that text in the slot. -/
theorem parse_quoted :
    (∀ (p : Nat) (text : String) (rest : List Char),
      ofText p (Quoting.quote text.toList ++ rest) =
          lexeme (.quoted p text) ((ofText 0 rest).shift (Lexeme.quoted p text).stop) ∧
        (Lexeme.quoted p text).stop = p + byteLength (Quoting.quote text.toList)) ∧
    ∀ front old back : String,
      byteLength front.toList ∈ (ofText 0 (embed front old back).toList).starts →
      (∃ xs, ∀ text,
        let x := Lexeme.quoted (byteLength front.toList) text
        ofText 0 (embed front text back).toList =
          prepend xs (lexeme x ((ofText 0 back.toList).shift x.stop))) ∧
      ∀ r, Rule.parse (embed front old back) = .ok r →
        ∃ (slot : Slot) (before : List Condition) (c : Condition) (behind : List Condition),
          r.conditions = before ++ c :: behind ∧ slot.text? c.test = some old ∧ slot.Accepts old ∧
          ∀ text, slot.Accepts text →
            slot.text? (c.put slot text).test = some text ∧
            Rule.parse (embed front text back) =
              .ok ⟨before ++ c.put slot text :: behind, r.combinator, by simp⟩ := by
  refine ⟨fun p text rest => ⟨TokenStream.ofText_quoted p text rest, rfl⟩,
    fun front old back hstart => ?_⟩
  have hquote : (embed front old back).toList =
      front.toList ++ '"' :: (Quoting.escapeQuoted old.toList ++ '"' :: back.toList) := by
    rw [toList_embed]
    simp [Quoting.quote]
  rw [hquote] at hstart
  obtain ⟨xs, hxs⟩ := TokenStream.exists_front_of_mem_starts hstart
  have htokens : ∀ text, ofText 0 (embed front text back).toList =
      prepend xs (lexeme (.quoted (byteLength front.toList) text)
        ((ofText 0 back.toList).shift (Lexeme.quoted (byteLength front.toList) text).stop)) :=
    fun text => by rw [toList_embed, hxs, TokenStream.ofText_quoted]
  -- the tokens of the whole text, without their places
  have hspelled : ∀ text, spelled? (embed front text back).toList =
      (spelled? back.toList).map (xs.map Lexeme.spelled ++ .quoted text :: ·) := by
    intro text
    rw [spelled?, toList_embed, hxs, TokenStream.spelled?_prepend, spelled?_ofText, spelled?_quote,
      Option.map_map, String.ofList_toList]
    rfl
  refine ⟨⟨xs, htokens⟩, fun r hr => ?_⟩
  obtain ⟨ls, hls, hdenotes⟩ := ofTokens_ok_iff.1 hr
  rw [← spelled?, hspelled] at hls
  obtain ⟨post, hpost, rfl⟩ := Option.map_eq_some_iff.1 hls
  obtain ⟨slot, before, c, behind, hconditions, hold, haccepts, hput⟩ := hdenotes.quoted
  refine ⟨slot, before, c, behind, hconditions, hold, haccepts, fun text htext =>
    ⟨Slot.text?_put hold text, ofTokens_ok_iff.2 ⟨_, ?_, hput text htext⟩⟩⟩
  rw [← spelled?, hspelled, hpost]
  rfl

/-- The empty text as the operand behind characters of two bytes, and in its place a text with a
quote and an operator, and with backslashes in front of the closing quote. -/
theorem parse_quoted_backslashes :
    let old : Condition := ⟨true, .text (.header "Größe") ⟨false, true⟩ ""⟩
    let new : Condition := ⟨false, .status .new⟩
    let text := "ü\" | U \\\\"
    byteLength "~H Größe %".toList ∈
        (ofText 0 (embed "~H Größe %" "" "|N").toList).starts ∧
      Rule.parse (embed "~H Größe %" "" "|N") = .ok ⟨[old, new], .any, by simp⟩ ∧
      Rule.parse (embed "~H Größe %" text "|N") =
        .ok ⟨[old.put .operand text, new], .any, by simp⟩ := by
  intro old new text
  have hstart : byteLength "~H Größe %".toList ∈
      (ofText 0 (embed "~H Größe %" "" "|N").toList).starts := by decide +kernel
  have hold : Rule.parse (embed "~H Größe %" "" "|N") = .ok ⟨[old, new], .any, by simp⟩ := by
    decide +kernel
  refine ⟨hstart, hold, ?_⟩
  obtain ⟨slot, before, c, behind, hconditions, htext, haccepts, hput⟩ :=
    (parse_quoted.2 _ _ _ hstart).2 _ hold
  cases slot with
  | headerName => exact absurd rfl haccepts
  | operand =>
    -- the second condition has no text
    match before, hconditions with
    | [], hconditions =>
      obtain ⟨rfl, rfl⟩ := List.cons_eq_cons.1 hconditions
      exact (hput text trivial).2
    | [d], hconditions =>
      obtain ⟨-, hconditions⟩ := List.cons_eq_cons.1 hconditions
      obtain ⟨rfl, -⟩ := List.cons_eq_cons.1 hconditions
      cases htext
    | d :: e :: before, hconditions => simp at hconditions

end Rule

end MailFilter
