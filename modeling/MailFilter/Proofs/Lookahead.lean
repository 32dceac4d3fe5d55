import MailFilter.Proofs.FaultPlaces

/-!
# Looking Ahead

A reader of tokens takes two kinds of calls: one shows the next token, one takes it. They may follow
one another in every order, also behind the end of the text and behind a delimiter that is not
closed. Calls that only show a token move the place that has been reached, over blanks, but change
nothing of what the other calls give.

A `Cursor` has the tokens of the whole text in front of it. A `Scanner` has nothing but the text: it
reads a token when it is asked for one, from the byte that it has reached, and holds a token that it
has shown until the token is taken. It fails where that byte does not lie between two characters.
Both give the same answers, and the scanner never fails.

The invariant is that a cursor stands between two parts of its text (`Cursor.between`). A call that
shows a token moves it over the blanks in front of the token (`Cursor.peek_between`), one that takes
the token over the token as well (`Cursor.next_of_lexeme`). A scanner that holds a token is already
behind the token (`Scanner.Follows`).

## Main results

* `Cursor.filter_answers`: calls that show tokens can be left out.
* `Cursor.pairwise_position`: no call moves backwards.
* `Cursor.pairwise_result`: where there is no token there will not be one.
* `Scanner.Follows.answers?_eq`: a scanner answers as a cursor does.
* `Cursor.answers_consistent`: all of this for every text and all calls.
-/

namespace MailFilter

open Text (byteLength leadingBlanks trimStart)

/-! ### Calls and answers -/

namespace Cursor

/-- A call on a reader of tokens: to show the next token, or to take it. -/
inductive Call where
  | peek
  | next
deriving DecidableEq

/-- What a call gave, and the place that was reached then. -/
structure Answer where
  call : Call
  result : Except SyntaxError (Option Lexeme)
  position : Nat

/-- Whether a call gave no token. -/
def Answer.IsEnd (a : Answer) : Prop := ∀ x, a.result ≠ .ok (some x)

/-- Makes a call. -/
def perform (c : Cursor) : Call → Result (Option Lexeme)
  | .peek => c.peek
  | .next => c.next

/-- The answers to calls that are made one after the other. -/
def answers (c : Cursor) : List Call → List Answer
  | [] => []
  | call :: calls =>
    ⟨call, (c.perform call).1, (c.perform call).2.position⟩ :: answers (c.perform call).2 calls

/-! ### Calls that show tokens -/

/-- Both kinds of calls give the next token. -/
theorem perform_fst (c : Cursor) (call : Call) : (c.perform call).1 = c.next.1 := by
  cases call with
  | peek => exact c.peek_fst
  | next => rfl

/-- Calls that take tokens are answered alike before and after a token is shown. -/
theorem answers_peek (c : Cursor) {calls : List Call} (h : ∀ call ∈ calls, call = .next) :
    c.peek.2.answers calls = c.answers calls := by
  cases calls with
  | nil => rfl
  | cons call calls =>
    obtain rfl : call = .next := h call List.mem_cons_self
    rw [answers, answers, perform, perform, c.next_peek]

/-- The answers to calls that take tokens, the places that they reach among them, are the same
without the calls that show tokens. -/
theorem filter_answers (c : Cursor) (calls : List Call) :
    (c.answers calls).filter (·.call = .next) = c.answers (calls.filter (· = .next)) := by
  induction calls generalizing c with
  | nil => rfl
  | cons call calls ih =>
    rw [answers]
    cases call with
    | peek =>
      rw [List.filter_cons_of_neg (by simp), List.filter_cons_of_neg (by simp), ih]
      exact c.answers_peek fun call hcall => by simpa using (List.mem_filter.1 hcall).2
    | next =>
      rw [List.filter_cons_of_pos (by simp), List.filter_cons_of_pos (by simp), ih, answers]

/-- The first call that takes a token gives the next one. -/
theorem result_of_find? {c : Cursor} {calls : List Call} {a : Answer}
    (h : (c.answers calls).find? (·.call = .next) = some a) : a.result = c.next.1 := by
  induction calls generalizing c with
  | nil => cases h
  | cons call calls ih =>
    rw [answers] at h
    cases call with
    | peek =>
      rw [List.find?_cons_of_neg (by simp)] at h
      rw [ih h]
      exact congrArg Prod.fst c.next_peek
    | next =>
      rw [List.find?_cons_of_pos (by simp)] at h
      cases h
      rfl

/-- The last answers to calls are those to the last calls, on the cursor that there was then. -/
theorem exists_of_suffix {c : Cursor} {calls : List Call} {last : List Answer}
    (h : last <:+ c.answers calls) : ∃ (c' : Cursor) (calls' : List Call),
      last = c'.answers calls' := by
  induction calls generalizing c with
  | nil => exact ⟨c, [], List.suffix_nil.1 h⟩
  | cons call calls ih =>
    rcases List.suffix_cons_iff.1 h with rfl | h
    · exact ⟨c, call :: calls, rfl⟩
    · exact ih h

/-- A call that shows a token gives what the next call gives that takes one. -/
theorem result_of_peek {c : Cursor} {calls : List Call} {a b : Answer} {later : List Answer}
    (h : a :: later <:+ c.answers calls) (hb : later.find? (·.call = .next) = some b)
    (ha : a.call = .peek) : b.result = a.result := by
  obtain ⟨c', calls', hcalls⟩ := exists_of_suffix h
  cases calls' with
  | nil => cases hcalls
  | cons call calls' =>
    obtain ⟨rfl, rfl⟩ := List.cons_eq_cons.1 hcalls
    obtain rfl : call = .peek := ha
    rw [result_of_find? hb]
    exact (congrArg Prod.fst c'.next_peek).trans c'.peek_fst.symm

/-! ### Behind the last token -/

/-- Where there is no token, all calls do the same, and leave the cursor where it has come to. -/
theorem perform_of_end {c : Cursor} (h : ∀ x, c.next.1 ≠ .ok (some x)) (call : Call) :
    c.perform call = c.next ∧ c.next.2.next = c.next := by
  rcases c with ⟨p, _ | _ | ⟨x, tail⟩⟩
  · cases call <;> exact ⟨rfl, rfl⟩
  · cases call <;> exact ⟨rfl, rfl⟩
  · exact absurd rfl (h x)

/-- Where there is no token, all calls give the same. -/
theorem result_of_end {c : Cursor} {calls : List Call} (h : ∀ x, c.next.1 ≠ .ok (some x)) :
    ∀ a ∈ c.answers calls, a.result = c.next.1 := by
  induction calls generalizing c with
  | nil => simp [answers]
  | cons call calls ih =>
    obtain ⟨hperform, hnext⟩ := perform_of_end h call
    rw [answers, hperform]
    refine List.forall_mem_cons.2 ⟨rfl, fun a ha => ?_⟩
    rw [ih (by rwa [hnext]) a ha, hnext]

/-- A call that gives no token is followed by calls that give the same. -/
theorem pairwise_result (c : Cursor) (calls : List Call) :
    (c.answers calls).Pairwise fun a b => a.IsEnd → b.result = a.result := by
  induction calls generalizing c with
  | nil => exact .nil
  | cons call calls ih =>
    refine List.pairwise_cons.2 ⟨fun b hb hend => ?_, ih _⟩
    have hc : ∀ x, c.next.1 ≠ .ok (some x) := by
      intro x
      rw [← c.perform_fst call]
      exact hend x
    obtain ⟨hperform, hnext⟩ := perform_of_end hc call
    rw [hperform] at hb ⊢
    rw [result_of_end (by rwa [hnext]) b hb, hnext]

/-- The only fault is a delimiter that is not closed. -/
theorem unterminated_of_next {c : Cursor} {e : SyntaxError} (h : c.next.1 = .error e) :
    ∃ kind place, e = .unterminated kind place := by
  rcases c with ⟨p, _ | ⟨kind, q⟩ | ⟨x, tail⟩⟩
  · cases h
  · cases h
    exact ⟨kind, q, rfl⟩
  · cases h

/-- No call has another fault. -/
theorem unterminated_of_mem {c : Cursor} {calls : List Call} {a : Answer} {e : SyntaxError}
    (h : a ∈ c.answers calls) (he : a.result = .error e) :
    ∃ kind place, e = .unterminated kind place := by
  induction calls generalizing c with
  | nil => cases h
  | cons call calls ih =>
    rcases List.mem_cons.1 h with rfl | h
    · exact unterminated_of_next ((c.perform_fst call).symm.trans he)
    · exact ih h

/-! ### Places -/

/-- The cursor between two parts of a text. -/
def between (before after : List Char) : Cursor :=
  ⟨byteLength before, .ofText (byteLength before) after⟩

section
variable {before after : List Char}

/-- The place behind the blanks that follow. -/
theorem place_blanks : byteLength before + byteLength (leadingBlanks after) =
    byteLength (before ++ leadingBlanks after) :=
  (Text.byteLength_append _ _).symm

/-- The tokens of a text do not depend on the blanks in front, but for their places. -/
theorem ofText_trimStart : TokenStream.ofText (byteLength before) after =
    .ofText (byteLength (before ++ leadingBlanks after)) (trimStart after) := by
  have hblanks : ∀ c ∈ leadingBlanks after, Text.isBlank c = true :=
    fun _ hc => List.mem_takeWhile_imp hc
  rw [← place_blanks, ← TokenStream.ofText_blanks hblanks, Text.leadingBlanks_append_trimStart]

/-- A call at the end of a text moves over the blanks. -/
theorem next_of_finished (h : Scan.ofText (trimStart after) = .finished) :
    (between before after).next =
      (.ok none, between (before ++ leadingBlanks after) (trimStart after)) := by
  have hstream := TokenStream.ofText_of_finished h (byteLength before)
  rw [between, between, ← ofText_trimStart, next, hstream, place_blanks]

/-- A call at a delimiter that is not closed moves over the blanks in front of it. -/
theorem next_of_broken {kind : Delimited} (h : Scan.ofText (trimStart after) = .broken kind) :
    (between before after).next =
      (.error (.unterminated kind (byteLength (before ++ leadingBlanks after))),
        between (before ++ leadingBlanks after) (trimStart after)) := by
  have hstream := TokenStream.ofText_of_broken h (byteLength before)
  rw [between, between, ← ofText_trimStart, next, hstream, place_blanks]

/-- A call that takes a token moves over the blanks in front of it and over the token. -/
theorem next_of_lexeme {token : Token} {spelling rest : List Char}
    (h : Scan.ofText (trimStart after) = .lexeme token spelling rest) :
    (between before after).next =
      (.ok (some ⟨token, byteLength (before ++ leadingBlanks after), spelling⟩),
        between (before ++ leadingBlanks after ++ spelling) rest) := by
  have hstream := TokenStream.ofText_of_lexeme h (byteLength before)
  rw [between, between, next, hstream, place_blanks, Text.byteLength_append _ spelling]
  rfl

/-- A call that shows a token moves over the blanks in front of it, also where no token follows. -/
theorem peek_between : (between before after).peek.2 =
    between (before ++ leadingBlanks after) (trimStart after) := by
  rw [between, between, ← ofText_trimStart]
  cases h : Scan.ofText (trimStart after) with
  | finished => rw [peek, TokenStream.ofText_of_finished h, place_blanks]
  | broken kind => rw [peek, TokenStream.ofText_of_broken h, place_blanks]
  | lexeme token spelling rest => rw [peek, TokenStream.ofText_of_lexeme h, place_blanks]

/-- The token that is shown still follows. -/
theorem peek_of_lexeme {token : Token} {spelling rest : List Char}
    (h : Scan.ofText (trimStart after) = .lexeme token spelling rest) :
    let x : Lexeme := ⟨token, byteLength (before ++ leadingBlanks after), spelling⟩
    (between before after).peek.2 = ⟨x.start, .lexeme x (.ofText x.stop rest)⟩ := by
  rw [between, peek, TokenStream.ofText_of_lexeme h, place_blanks]
  rfl

end

/-- A call moves the cursor over a part of the text, which may be empty. -/
theorem exists_perform_between (before after : List Char) (call : Call) :
    ∃ passed rest, after = passed ++ rest ∧
      ((between before after).perform call).2 = between (before ++ passed) rest := by
  have hsplit := (Text.leadingBlanks_append_trimStart after).symm
  cases call with
  | peek => exact ⟨_, _, hsplit, peek_between⟩
  | next =>
    cases h : Scan.ofText (trimStart after) with
    | finished => exact ⟨_, _, hsplit, congrArg Prod.snd (next_of_finished h)⟩
    | broken kind => exact ⟨_, _, hsplit, congrArg Prod.snd (next_of_broken h)⟩
    | lexeme token spelling rest =>
      refine ⟨leadingBlanks after ++ spelling, rest, ?_, ?_⟩
      · rw [List.append_assoc, ← (Scan.ofText_lexeme h).1]
        exact hsplit
      · rw [← List.append_assoc]
        exact congrArg Prod.snd (next_of_lexeme h)

/-- Calls reach places that lie neither in front of the cursor nor behind the text. -/
theorem position_of_mem (before after : List Char) {calls : List Call} {a : Answer}
    (h : a ∈ (between before after).answers calls) :
    byteLength before ≤ a.position ∧ a.position ≤ byteLength (before ++ after) := by
  induction calls generalizing before after with
  | nil => cases h
  | cons call calls ih =>
    obtain ⟨passed, rest, rfl, hmoved⟩ := exists_perform_between before after call
    rw [answers, hmoved] at h
    rcases List.mem_cons.1 h with rfl | h
    · simp only [between, Text.byteLength_append]
      omega
    -- what this call has passed is in front of the later ones
    · have hlater := ih _ _ h
      simp only [Text.byteLength_append] at hlater ⊢
      omega

/-- No call moves the cursor backwards. -/
theorem pairwise_position (before after : List Char) (calls : List Call) :
    ((between before after).answers calls).Pairwise (·.position ≤ ·.position) := by
  induction calls generalizing before after with
  | nil => exact .nil
  | cons call calls ih =>
    obtain ⟨passed, rest, -, hmoved⟩ := exists_perform_between before after call
    rw [answers, hmoved]
    exact List.pairwise_cons.2 ⟨fun a ha => (position_of_mem _ _ ha).1, ih _ _⟩

end Cursor

/-! ### Reading when asked -/

/-- A reader that has the text, the byte that it has reached in it, and the token that it has read
and not yet given away. -/
structure Scanner where
  text : List Char
  place : Nat
  held : Option Lexeme

namespace Scanner

/-- The start of a text. -/
def ofText (s : List Char) : Scanner := ⟨s, 0, none⟩

/-- What a call on a scanner gives: a value or a fault, and the scanner after it. -/
abbrev Result := Except SyntaxError (Option Lexeme) × Scanner

/-- What follows in the text, if the byte that has been reached lies between two characters. -/
def rest? (r : Scanner) : Option (List Char) :=
  (Report.charactersTo? r.place r.text).map r.text.drop

/-- Skips blanks and reads the token behind them. A fault stops at its place. -/
def scan? (r : Scanner) : Option Result :=
  r.rest?.map fun rest =>
    let start := r.place + byteLength (leadingBlanks rest)
    match Scan.ofText (trimStart rest) with
    | .finished => (.ok none, { r with place := start })
    | .broken kind => (.error (.unterminated kind start), { r with place := start })
    | .lexeme token spelling _ =>
      (.ok (some ⟨token, start, spelling⟩), { r with place := start + byteLength spelling })

/-- Shows the next token, which is read and held unless one is held already. -/
def peek? (r : Scanner) : Option Result :=
  match r.held with
  | some x => some (.ok (some x), r)
  | none => r.scan?.map fun
    | (.ok x, r) => (.ok x, { r with held := x })
    | (.error e, r) => (.error e, r)

/-- Takes the token that is held, or reads one. -/
def next? (r : Scanner) : Option Result :=
  match r.held with
  | some x => some (.ok (some x), { r with held := none })
  | none => r.scan?

/-- Makes a call. -/
def perform? (r : Scanner) : Cursor.Call → Option Result
  | .peek => r.peek?
  | .next => r.next?

/-- The place that has been reached: a token that is held has not been passed. -/
def position (r : Scanner) : Nat := r.held.elim r.place Lexeme.start

/-- The answers to calls that are made one after the other. -/
def answers? (r : Scanner) : List Cursor.Call → Option (List Cursor.Answer)
  | [] => some []
  | call :: calls => do
    let (result, r) ← r.perform? call
    let later ← answers? r calls
    return ⟨call, result, r.position⟩ :: later

/-- The scanner between two parts of a text that holds no token. -/
def between (before after : List Char) : Scanner := ⟨before ++ after, byteLength before, none⟩

/-- A scanner and a cursor at one place of a text. The scanner may hold the token that comes next
for the cursor, and then it has read on to the end of the token. -/
inductive Follows : Scanner → Cursor → Prop
  | idle (before after : List Char) : Follows (between before after) (.between before after)
  | holding (before rest : List Char) (x : Lexeme) (start : x.start = byteLength before) :
    Follows ⟨before ++ x.spelling ++ rest, x.stop, some x⟩
      ⟨x.start, .lexeme x (.ofText x.stop rest)⟩

/-- What follows between two parts of a text is the second part. -/
theorem rest?_between (before after : List Char) : (between before after).rest? = some after := by
  rw [rest?, between, Report.charactersTo?_byteLength, Option.map_some, List.drop_left]

section
variable {before after : List Char}

/-- The text stays the same when blanks are skipped. -/
theorem text_blanks : before ++ leadingBlanks after ++ trimStart after = before ++ after := by
  rw [List.append_assoc, Text.leadingBlanks_append_trimStart]

/-- At the end of a text a scanner skips the blanks. -/
theorem scan?_of_finished (h : Scan.ofText (trimStart after) = .finished) :
    (between before after).scan? =
      some (.ok none, between (before ++ leadingBlanks after) (trimStart after)) := by
  rw [scan?, rest?_between, Option.map_some]
  simp only [h, between, text_blanks, Text.byteLength_append]

/-- At a delimiter that is not closed a scanner skips the blanks in front of it. -/
theorem scan?_of_broken {kind : Delimited} (h : Scan.ofText (trimStart after) = .broken kind) :
    (between before after).scan? =
      some (.error (.unterminated kind (byteLength (before ++ leadingBlanks after))),
        between (before ++ leadingBlanks after) (trimStart after)) := by
  rw [scan?, rest?_between, Option.map_some]
  simp only [h, between, text_blanks, Text.byteLength_append]

/-- A scanner reads a token to its end. -/
theorem scan?_of_lexeme {token : Token} {spelling rest : List Char}
    (h : Scan.ofText (trimStart after) = .lexeme token spelling rest) :
    (between before after).scan? =
      some (.ok (some ⟨token, byteLength (before ++ leadingBlanks after), spelling⟩),
        between (before ++ leadingBlanks after ++ spelling) rest) := by
  have htext : before ++ leadingBlanks after ++ spelling ++ rest = before ++ after := by
    rw [List.append_assoc, ← (Scan.ofText_lexeme h).1, text_blanks]
  rw [scan?, rest?_between, Option.map_some]
  simp only [h, between, htext, Text.byteLength_append]

end

namespace Follows

variable {r : Scanner} {c : Cursor}

/-- A scanner and a cursor at one place say that they are there. -/
theorem position_eq (h : Follows r c) : r.position = c.position := by
  cases h <;> rfl

/-- A scanner takes the token that the cursor takes. -/
theorem next (h : Follows r c) :
    ∃ r', r.next? = some (c.next.1, r') ∧ Follows r' c.next.2 := by
  cases h with
  | idle before after =>
    cases hs : Scan.ofText (trimStart after) with
    | finished =>
      rw [Cursor.next_of_finished hs]
      exact ⟨_, scan?_of_finished hs, .idle _ _⟩
    | broken kind =>
      rw [Cursor.next_of_broken hs]
      exact ⟨_, scan?_of_broken hs, .idle _ _⟩
    | lexeme token spelling rest =>
      rw [Cursor.next_of_lexeme hs]
      exact ⟨_, scan?_of_lexeme hs, .idle _ _⟩
  | holding before rest x start =>
    have hstop : x.stop = byteLength (before ++ x.spelling) := by
      rw [Lexeme.stop, start, Text.byteLength_append]
    refine ⟨_, rfl, ?_⟩
    have hidle := idle (before ++ x.spelling) rest
    rwa [between, Cursor.between, ← hstop] at hidle

/-- A scanner shows the token that the cursor shows. -/
theorem peek (h : Follows r c) :
    ∃ r', r.peek? = some (c.peek.1, r') ∧ Follows r' c.peek.2 := by
  cases h with
  | holding before rest x start => exact ⟨_, rfl, .holding before rest x start⟩
  | idle before after =>
    rw [Cursor.peek_fst, peek?]
    cases hs : Scan.ofText (trimStart after) with
    | finished =>
      rw [Cursor.next_of_finished hs, scan?_of_finished hs, Cursor.peek_between]
      exact ⟨_, rfl, .idle _ _⟩
    | broken kind =>
      rw [Cursor.next_of_broken hs, scan?_of_broken hs, Cursor.peek_between]
      exact ⟨_, rfl, .idle _ _⟩
    | lexeme token spelling rest =>
      -- only here the scanner has read on, and holds what it has read
      rw [Cursor.next_of_lexeme hs, scan?_of_lexeme hs, Cursor.peek_of_lexeme hs]
      refine ⟨_, rfl, ?_⟩
      rw [between, Text.byteLength_append _ spelling]
      exact .holding (before ++ leadingBlanks after) rest ⟨token, _, spelling⟩ rfl

/-- A call is answered alike, and the scanner and the cursor stay at one place. -/
theorem perform (h : Follows r c) (call : Cursor.Call) :
    ∃ r', r.perform? call = some ((c.perform call).1, r') ∧ Follows r' (c.perform call).2 := by
  cases call with
  | peek => exact h.peek
  | next => exact h.next

/-- A scanner answers all calls as the cursor at its place does. -/
theorem answers?_eq (h : Follows r c) (calls : List Cursor.Call) :
    r.answers? calls = some (c.answers calls) := by
  induction calls generalizing r c with
  | nil => rfl
  | cons call calls ih =>
    obtain ⟨r', hperform, hfollows⟩ := h.perform call
    rw [answers?, hperform, Option.bind_eq_bind, Option.bind_some]
    simp only [ih hfollows, hfollows.position_eq]
    rfl

end Follows

end Scanner

/-! ### All calls -/

namespace Cursor

/-- What all answers to calls on a text of some length have in common: a call that shows a token
gives what the first later call gives that takes one, no call goes backwards or behind the text, the
only fault is a delimiter that is not closed, and where a call gives no token all later calls give
the same. -/
structure Consistent (length : Nat) (answers : List Answer) : Prop where
  shown : ∀ a later, a :: later <:+ answers → a.call = .peek →
    ∀ b, later.find? (·.call = .next) = some b → b.result = a.result
  ordered : answers.Pairwise (·.position ≤ ·.position)
  bounded : ∀ a ∈ answers, a.position ≤ length
  unterminated : ∀ a ∈ answers, ∀ e, a.result = .error e →
    ∃ kind place, e = .unterminated kind place
  settled : answers.Pairwise fun a b => a.IsEnd → b.result = a.result

/-- Whatever calls are made on a text, they are answered as if each token were read when it is asked
for; the answers of the calls that take tokens are those that they have without the other calls; and
all answers are consistent. -/
theorem answers_consistent (s : List Char) (calls : List Call) :
    (Scanner.ofText s).answers? calls = some ((ofText s).answers calls) ∧
      ((ofText s).answers calls).filter (·.call = .next) =
        (ofText s).answers (calls.filter (· = .next)) ∧
      Consistent (byteLength s) ((ofText s).answers calls) := by
  have hfollows : Scanner.Follows (.ofText s) (ofText s) := .idle [] s
  refine ⟨hfollows.answers?_eq calls, filter_answers _ calls, ?_⟩
  exact
    { shown := fun a later h ha b hb => result_of_peek h hb ha
      ordered := pairwise_position [] s calls
      bounded := fun a ha => (position_of_mem [] s ha).2
      unterminated := fun a ha e he => unterminated_of_mem ha he
      settled := pairwise_result _ calls }

/-- The place moves over the blank when the call for the delimiter behind it fails. -/
example : ((ofText "ü \"ham".toList).answers [.peek, .next, .peek, .next, .peek]).map
    (·.position) = [0, 2, 3, 3, 3] := by
  decide +kernel

end Cursor

end MailFilter
