import MailFilter.Proofs.Lookahead

/-!
# The Spans of Tokens

Every token is given with the bytes where it starts and where it stops. Reading one token after the
other comes to an end (`Cursor.Reads`), and the spans that were read then divide the text: each of
them is a piece of the text between two characters, none is empty, each starts where the one before
it stops or later, and what lies between them is blank. The invariant is `Tiled`: what has been read
so far is made up of the tokens read so far, with blanks in front of each. One reading keeps it
(`Cursor.next_of_isAt`), and so does reading to the end (`Cursor.IsAt.exists_reads`).

A delimiter that is not closed ends the reading as well. The fault has its place at the delimiter,
behind the last token and blanks.

## Main results

* `Cursor.Reads.unique`: reading to the end has one outcome.
* `Tiled.covers`: every character that is no blank lies in a span.
* `Cursor.reads_partition`: reading a text to the end divides it.
-/

namespace MailFilter

open Text (isBlank byteLength leadingBlanks trimStart)

/-! ### Reading to the end -/

/-- What becomes of reading one token after the other: the tokens, and the fault that ended it if it
was not the end of the text. -/
inductive Cursor.Reads : Cursor → List Lexeme → Option SyntaxError → Prop
  | finished {c : Cursor} (h : c.next.1 = .ok none) : Reads c [] none
  | broken {c : Cursor} {e : SyntaxError} (h : c.next.1 = .error e) : Reads c [] (some e)
  | token {c : Cursor} {x : Lexeme} {xs : List Lexeme} {ending : Option SyntaxError}
    (h : c.next.1 = .ok (some x)) (rest : Reads c.next.2 xs ending) : Reads c (x :: xs) ending

/-- Reading to the end has one outcome. -/
theorem Cursor.Reads.unique {c : Cursor} {xs ys : List Lexeme} {ending ending' : Option SyntaxError}
    (h : Reads c xs ending) (h' : Reads c ys ending') : xs = ys ∧ ending = ending' := by
  induction h generalizing ys with
  | finished hnext =>
    cases h' with
    | finished => exact ⟨rfl, rfl⟩
    | broken hnext' | token hnext' =>
      rw [hnext] at hnext'
      cases hnext'
  | broken hnext =>
    cases h' with
    | broken hnext' =>
      rw [hnext] at hnext'
      cases hnext'
      exact ⟨rfl, rfl⟩
    | finished hnext' | token hnext' =>
      rw [hnext] at hnext'
      cases hnext'
  | token hnext _ ih =>
    cases h' with
    | token hnext' rest' =>
      rw [hnext] at hnext'
      cases hnext'
      obtain ⟨rfl, rfl⟩ := ih rest'
      exact ⟨rfl, rfl⟩
    | finished hnext' | broken hnext' =>
      rw [hnext] at hnext'
      cases hnext'

/-! ### Texts made up of tokens -/

/-- A text that is made up of tokens at their places, with nothing but blanks in front of each. -/
inductive Tiled : List Char → List Lexeme → Prop
  | nil : Tiled [] []
  | snoc {before gap : List Char} {xs : List Lexeme} {x : Lexeme} (init : Tiled before xs)
    (blank : ∀ c ∈ gap, isBlank c = true) (nonempty : x.spelling ≠ [])
    (start : x.start = byteLength (before ++ gap)) :
    Tiled (before ++ gap ++ x.spelling) (xs ++ [x])

/-- The span of a token is the piece of a text between two characters that the token is spelled
with. -/
def Lexeme.Spans (x : Lexeme) (s : List Char) : Prop :=
  ∃ before after, s = before ++ x.spelling ++ after ∧ x.start = byteLength before ∧
    x.stop = byteLength (before ++ x.spelling)

/-- The byte of a text lies in the span of a token. -/
def Lexeme.Holds (x : Lexeme) (place : Nat) : Prop := x.start ≤ place ∧ place < x.stop

/-- The span of a token stays where it is when the text goes on. -/
theorem Lexeme.Spans.append {x : Lexeme} {s : List Char} (h : x.Spans s) (s' : List Char) :
    x.Spans (s ++ s') := by
  obtain ⟨before, after, rfl, hstart, hstop⟩ := h
  exact ⟨before, after ++ s', by simp only [List.append_assoc], hstart, hstop⟩

namespace Tiled

variable {s : List Char} {xs : List Lexeme}

/-- The byte after a token, in the text that ends with it. -/
theorem stop_eq {before gap : List Char} {x : Lexeme} (h : x.start = byteLength (before ++ gap)) :
    x.stop = byteLength (before ++ gap ++ x.spelling) := by
  rw [Lexeme.stop, h, ← Text.byteLength_append]

/-- Every token spans a piece of the text that is not empty. -/
theorem spans (h : Tiled s xs) : ∀ x ∈ xs, x.start < x.stop ∧ x.Spans s := by
  induction h with
  | nil => simp
  | @snoc before gap xs x _ _ hne hstart ih =>
    intro y hy
    rcases List.mem_append.1 hy with hy | hy
    · obtain ⟨hlt, hspans⟩ := ih y hy
      refine ⟨hlt, ?_⟩
      rw [List.append_assoc]
      exact hspans.append _
    · obtain rfl : y = x := List.mem_singleton.1 hy
      have hpos : 0 < byteLength y.spelling := Text.byteLength_pos hne
      refine ⟨by rw [Lexeme.stop]; omega, before ++ gap, [], ?_, hstart, stop_eq hstart⟩
      rw [List.append_nil]

/-- No token goes beyond the text. -/
theorem stop_le (h : Tiled s xs) : ∀ x ∈ xs, x.stop ≤ byteLength s := by
  intro x hx
  obtain ⟨-, before, after, rfl, -, hstop⟩ := h.spans x hx
  rw [hstop, Text.byteLength_append _ after]
  exact Nat.le_add_right _ _

/-- Every token starts where the one before it stops, or later. -/
theorem pairwise (h : Tiled s xs) : xs.Pairwise fun x y => x.stop ≤ y.start := by
  induction h with
  | nil => exact .nil
  | @snoc before gap xs x hinit _ _ hstart ih =>
    refine List.pairwise_append.2 ⟨ih, List.pairwise_singleton _ _, fun y hy z hz => ?_⟩
    obtain rfl : z = x := List.mem_singleton.1 hz
    have hle : y.stop ≤ byteLength before := hinit.stop_le y hy
    rw [hstart, Text.byteLength_append]
    omega

/-- The last token ends the text. -/
theorem reached_eq (h : Tiled s xs) : TokenStream.reached 0 xs = byteLength s := by
  cases h with
  | nil => rfl
  | snoc _ _ _ hstart =>
    rw [TokenStream.reached, List.foldl_append]
    exact stop_eq hstart

/-- Every character that is no blank lies in a span. -/
theorem covers (h : Tiled s xs) {front back : List Char} {c : Char} (hs : s = front ++ c :: back)
    (hc : isBlank c = false) : ∃ x ∈ xs, x.Holds (byteLength front) := by
  induction h generalizing back with
  | nil => simp at hs
  | @snoc before gap xs x _ hblank _ hstart ih =>
    have hgap : c ∉ gap := by
      intro hmem
      rw [hblank c hmem] at hc
      cases hc
    rcases append_eq_append_cons hs with ⟨s', hs, -⟩ | ⟨t', rfl, ht⟩
    · rcases append_eq_append_cons hs with ⟨s'', hs, -⟩ | ⟨t', -, ht⟩
      · obtain ⟨y, hy, hholds⟩ := ih hs
        exact ⟨y, List.mem_append_left _ hy, hholds⟩
      · exact absurd (by simp [ht]) hgap
    · -- the character is one of the last token
      have hlt : byteLength t' < byteLength x.spelling := by
        have hpos := Text.byteLength_pos (List.cons_ne_nil c back)
        rw [ht, Text.byteLength_append]
        omega
      refine ⟨x, by simp, ?_, ?_⟩
      · rw [hstart, Text.byteLength_append _ t']
        exact Nat.le_add_right _ _
      · rw [Lexeme.stop, hstart, Text.byteLength_append _ t']
        omega

end Tiled

/-! ### One reading and all of them -/

/-- How a text goes on behind blanks where no token can be read: it ends, or it has a delimiter that
is not closed. -/
inductive EndsAt (before : List Char) : List Char → Option SyntaxError → Prop
  | finished : EndsAt before [] none
  | broken {kind : Delimited} {rest : List Char} (opened : Token.close kind rest = none) :
    EndsAt before (kind.mark :: rest) (some (.unterminated kind (byteLength before)))

namespace Cursor

/-- A cursor between two parts of a text. -/
def IsAt (c : Cursor) (before after : List Char) : Prop :=
  c.stream = .ofText (byteLength before) after

/-- The start of a text. -/
theorem isAt_ofText (s : List Char) : (ofText s).IsAt [] s := rfl

/-- One reading skips blanks. Then it gives the token that follows and goes behind it, or ends. -/
theorem next_of_isAt {c : Cursor} {before after : List Char} (h : c.IsAt before after) :
    ∃ gap rest, after = gap ++ rest ∧ (∀ d ∈ gap, isBlank d = true) ∧
      ((c.next.1 = .ok none ∧ EndsAt (before ++ gap) rest none) ∨
        (∃ e, c.next.1 = .error e ∧ EndsAt (before ++ gap) rest (some e)) ∨
        ∃ x rest', c.next.1 = .ok (some x) ∧ rest = x.spelling ++ rest' ∧ x.spelling ≠ [] ∧
          x.start = byteLength (before ++ gap) ∧
          c.next.2.IsAt (before ++ gap ++ x.spelling) rest') := by
  have hnext : c.next = (between before after).next := by
    rw [next, next, h, between]
  rw [hnext]
  refine ⟨leadingBlanks after, trimStart after, (Text.leadingBlanks_append_trimStart after).symm,
    fun d hd => List.mem_takeWhile_imp hd, ?_⟩
  cases hs : Scan.ofText (trimStart after) with
  | finished =>
    rw [next_of_finished hs, Scan.eq_nil_of_finished hs]
    exact .inl ⟨rfl, .finished⟩
  | broken kind =>
    obtain ⟨rest, hrest, hopen⟩ := Scan.mark_of_broken hs
    rw [next_of_broken hs, hrest]
    exact .inr (.inl ⟨_, rfl, .broken hopen⟩)
  | lexeme token spelling rest =>
    obtain ⟨hsplit, hne⟩ := Scan.ofText_lexeme hs
    rw [next_of_lexeme hs]
    exact .inr (.inr ⟨_, rest, rfl, hsplit, hne, rfl, rfl⟩)

/-- Reading goes on to the end, and what has been read stays made up of tokens. -/
theorem IsAt.exists_reads {c : Cursor} {before after : List Char} {read : List Lexeme}
    (h : c.IsAt before after) (hread : Tiled before read) :
    ∃ xs ending, c.Reads xs ending ∧ ∃ front gap back, before ++ after = front ++ gap ++ back ∧
      Tiled front (read ++ xs) ∧ (∀ d ∈ gap, isBlank d = true) ∧
      EndsAt (front ++ gap) back ending := by
  induction hlength : after.length using Nat.strong_induction_on
    generalizing c before after read with
  | _ n ih =>
    obtain ⟨gap, rest, rfl, hgap, ⟨hnext, hend⟩ | ⟨e, hnext, hend⟩ | hnext⟩ :=
      next_of_isAt h
    · exact ⟨[], none, .finished hnext, before, gap, rest, (List.append_assoc _ _ _).symm,
        by rwa [List.append_nil], hgap, hend⟩
    · exact ⟨[], some e, .broken hnext, before, gap, rest, (List.append_assoc _ _ _).symm,
        by rwa [List.append_nil], hgap, hend⟩
    · obtain ⟨x, rest', hnext, rfl, hne, hstart, hat⟩ := hnext
      have hshorter : rest'.length < n := by
        have hpos := List.length_pos_iff.2 hne
        simp only [List.length_append] at hlength
        omega
      obtain ⟨xs, ending, hreads, front, gap', back, hsplit, htiled, hgap', hend⟩ :=
        ih _ hshorter hat (hread.snoc hgap hne hstart) rfl
      refine ⟨x :: xs, ending, .token hnext hreads, front, gap', back, ?_, ?_, hgap', hend⟩
      · rw [← hsplit]
        simp only [List.append_assoc]
      · rwa [List.append_assoc] at htiled

end Cursor

/-- How tokens and the fault behind them, if there is one, divide the text that they were read from.
The text is made up of the tokens, blanks, and nothing more or a delimiter that is not closed. -/
structure Partition (s : List Char) (xs : List Lexeme) (ending : Option SyntaxError) : Prop where
  spans : ∀ x ∈ xs, x.start < x.stop ∧ x.Spans s
  ordered : xs.Pairwise fun x y => x.stop ≤ y.start
  ends : ∃ before gap after, s = before ++ gap ++ after ∧ Tiled before xs ∧
    TokenStream.reached 0 xs = byteLength before ∧ (∀ c ∈ gap, isBlank c = true) ∧
    EndsAt (before ++ gap) after ending
  covers : ∀ front c back, s = front ++ c :: back → isBlank c = false →
    (∃ x ∈ xs, x.Holds (byteLength front)) ∨
      ∃ e place, ending = some e ∧ e.position? = some place ∧ place ≤ byteLength front

/-- Tokens with blanks behind them, up to where no token can be read, divide a text. -/
theorem Tiled.partition {before gap after : List Char} {xs : List Lexeme}
    {ending : Option SyntaxError} (h : Tiled before xs) (hgap : ∀ c ∈ gap, isBlank c = true)
    (hend : EndsAt (before ++ gap) after ending) :
    Partition (before ++ gap ++ after) xs ending where
  spans := by
    intro x hx
    obtain ⟨hlt, hspans⟩ := h.spans x hx
    refine ⟨hlt, ?_⟩
    rw [List.append_assoc]
    exact hspans.append _
  ordered := h.pairwise
  ends := ⟨before, gap, after, rfl, h, h.reached_eq, hgap, hend⟩
  covers := by
    intro front c back hs hc
    rcases append_eq_append_cons hs with ⟨s', hs, -⟩ | ⟨t', rfl, rfl⟩
    · rcases append_eq_append_cons hs with ⟨s'', hs, -⟩ | ⟨t', -, rfl⟩
      · exact .inl (h.covers hs hc)
      · have hblank : isBlank c = true := hgap c (by simp)
        rw [hblank] at hc
        cases hc
    · generalize hafter : t' ++ c :: back = after at hend
      cases hend with
      | finished => simp at hafter
      | broken =>
        refine .inr ⟨_, _, rfl, rfl, ?_⟩
        rw [Text.byteLength_append _ t']
        exact Nat.le_add_right _ _

/-- Reading one token of a text after the other has one outcome, and divides the text. -/
theorem Cursor.reads_partition (s : List Char) :
    ∃ xs ending, (∀ ys ending', (ofText s).Reads ys ending' ↔ ys = xs ∧ ending' = ending) ∧
      Partition s xs ending := by
  obtain ⟨xs, ending, hreads, before, gap, after, hsplit, htiled, hgap, hend⟩ :=
    (isAt_ofText s).exists_reads .nil
  refine ⟨xs, ending, fun ys ending' => ⟨fun h => h.unique hreads, ?_⟩, ?_⟩
  · rintro ⟨rfl, rfl⟩
    exact hreads
  · rw [← List.nil_append s, hsplit]
    exact htiled.partition hgap hend

end MailFilter
