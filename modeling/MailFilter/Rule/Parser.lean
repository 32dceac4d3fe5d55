import MailFilter.Rule.TokenStream

/-!
# Reading Rules

A rule is a list of conditions with one and the same operator between them:

    rule      := condition ( "&" condition )*  |  condition ( "|" condition )*
    condition := ( "!" | "~" | "%" )* code operand
    operand   := nothing  |  number  |  "%"* ( word | number | quoted | pattern )

The code decides which operand must follow, and the code of a header takes the name of the header
before it. Every reading step gives the place that it reached, also when it fails.

## Main results

* `length_read_lt`: a condition takes at least one token.
-/

namespace MailFilter

namespace Condition

open TokenStream (finished broken lexeme)

/-- What stands in front of an operand: the negations and case markers, and the keyword with its
place. -/
structure Keyword where
  negated : Bool
  exactCase : Bool
  text : String
  position : Nat

/-- The fault that the operand of a keyword is missing. -/
def Keyword.missingOperand (k : Keyword) : SyntaxError := .missingOperand k.text k.position

/-- The fault that a keyword does not take a modifier. -/
def Keyword.unexpectedModifier (k : Keyword) : SyntaxError := .unexpectedModifier k.text k.position

/-- Reads the markers and the keyword of a condition. -/
def readKeyword (negated exactCase : Bool) : TokenStream → Cursor.Result Keyword
  | finished p => (.error (.missingCondition p), ⟨p, finished p⟩)
  | broken kind p => (.error (.unterminated kind p), ⟨p, broken kind p⟩)
  | lexeme x tail =>
    match x.token with
    | .negation => readKeyword (!negated) exactCase tail
    | .exactCase => readKeyword negated true tail
    | .word w => (.ok ⟨negated, exactCase, w, x.start⟩, ⟨x.stop, tail⟩)
    | _ => (.error (.unexpectedToken (String.ofList x.spelling) x.start), ⟨x.stop, tail⟩)

/-- Reads the name of a header, which is a word or a quoted text and not empty. -/
def readHeaderName (k : Keyword) (c : Cursor) : Cursor.Result String :=
  match c.next with
  | (.error e, c) => (.error e, c)
  | (.ok none, c) => (.error k.missingOperand, c)
  | (.ok (some x), c) =>
    match x.token with
    | .word name => (if name = "" then .error k.missingOperand else .ok name, c)
    | .quoted name => (if name = "" then .error k.missingOperand else .ok name, c)
    | _ => (.error k.missingOperand, c)

/-- Finds the criterion of a keyword, with the name of the header where there is one. -/
def readCriterion (k : Keyword) (c : Cursor) : Cursor.Result Criterion :=
  match Criterion.ofCode? k.text with
  | none => (.error (.unknownKeyword k.text k.position), c)
  | some (.text (.header _)) =>
    match readHeaderName k c with
    | (.error e, c) => (.error e, c)
    | (.ok name, c) => (.ok (.text (.header name)), c)
  | some criterion => (.ok criterion, c)

/-- Reads a number as the operand. -/
def readNumber (k : Keyword) (c : Cursor) : Cursor.Result Int64 :=
  match c.next with
  | (.error e, c) => (.error e, c)
  | (.ok none, c) => (.error k.missingOperand, c)
  | (.ok (some x), c) =>
    match x.token with
    | .number n => (.ok n, c)
    | .word value => (.error (.invalidNumber value x.start), c)
    | .quoted value => (.error (.invalidNumber value x.start), c)
    | _ => (.error k.missingOperand, c)

/-- A text operand and how it is compared. -/
abbrev TextOperand := Comparison × String

/-- Reads a text as the operand. Case markers may stand in front of it; a number is taken as it is
spelled. -/
def readText (k : Keyword) (exactCase : Bool) : TokenStream → Cursor.Result TextOperand
  | finished p => (.error k.missingOperand, ⟨p, finished p⟩)
  | broken kind p => (.error (.unterminated kind p), ⟨p, broken kind p⟩)
  | lexeme x tail =>
    match x.token with
    | .exactCase => readText k true tail
    | .word text => (.ok (⟨false, exactCase⟩, text), ⟨x.stop, tail⟩)
    | .quoted text => (.ok (⟨false, exactCase⟩, text), ⟨x.stop, tail⟩)
    | .number _ => (.ok (⟨false, exactCase⟩, String.ofList x.spelling), ⟨x.stop, tail⟩)
    | .pattern text => (.ok (⟨true, exactCase⟩, text), ⟨x.stop, tail⟩)
    | _ => (.error k.missingOperand, ⟨x.stop, tail⟩)

/-- Reads the operand that a criterion asks for. -/
def readTest (k : Keyword) (criterion : Criterion) (c : Cursor) : Cursor.Result Test :=
  match criterion with
  | .status s => (if k.exactCase then .error k.unexpectedModifier else .ok (.status s), c)
  | .measure m =>
    if k.exactCase then (.error k.unexpectedModifier, c)
    else
      match readNumber k c with
      | (.error e, c) => (.error e, c)
      | (.ok n, c) => (.ok (.measure m n), c)
  | .text f =>
    match readText k k.exactCase c.stream with
    | (.error e, c) => (.error e, c)
    | (.ok (how, text), c) => (.ok (.text f how text), c)
  | .command =>
    match readText k k.exactCase c.stream with
    | (.error e, c) => (.error e, c)
    | (.ok (how, text), c) =>
      (if how = .plain then .ok (.command text) else .error k.unexpectedModifier, c)

/-- Reads one condition. -/
def read (stream : TokenStream) : Cursor.Result Condition :=
  match readKeyword false false stream with
  | (.error e, c) => (.error e, c)
  | (.ok k, c) =>
    match readCriterion k c with
    | (.error e, c) => (.error e, c)
    | (.ok criterion, c) =>
      match readTest k criterion c with
      | (.error e, c) => (.error e, c)
      | (.ok test, c) => (.ok ⟨k.negated, test⟩, c)

/-! ### Conditions take tokens -/

/-- A keyword takes at least one token. -/
theorem length_readKeyword_lt {n e : Bool} {s : TokenStream} {k : Keyword} {c : Cursor}
    (h : readKeyword n e s = (.ok k, c)) : c.stream.length < s.length := by
  induction s generalizing n e with
  | finished => simp [readKeyword] at h
  | broken => simp [readKeyword] at h
  | lexeme x tail ih =>
    rw [readKeyword] at h
    split at h
    · exact Nat.lt_succ_of_lt (ih h)
    · exact Nat.lt_succ_of_lt (ih h)
    · cases h
      exact Nat.lt_succ_self _
    · cases h

/-- A criterion leaves no more tokens than there were. -/
theorem length_readCriterion_le (k : Keyword) (c : Cursor) :
    (readCriterion k c).2.stream.length ≤ c.stream.length := by
  have hn := c.length_next_le
  unfold readCriterion readHeaderName
  grind

/-- A text operand leaves no more tokens than there were. -/
theorem length_readText_le (k : Keyword) (e : Bool) (s : TokenStream) :
    (readText k e s).2.stream.length ≤ s.length := by
  induction s generalizing e with
  | finished => simp [readText]
  | broken => simp [readText]
  | lexeme x tail ih =>
    rw [readText, TokenStream.length]
    split
    · exact Nat.le_succ_of_le (ih true)
    all_goals exact Nat.le_succ _

/-- An operand leaves no more tokens than there were. -/
theorem length_readTest_le (k : Keyword) (criterion : Criterion) (c : Cursor) :
    (readTest k criterion c).2.stream.length ≤ c.stream.length := by
  have hn := c.length_next_le
  have ht := length_readText_le k k.exactCase c.stream
  unfold readTest readNumber
  grind

/-- A condition takes at least one token. -/
theorem length_read_lt {s : TokenStream} {x : Condition} {c : Cursor}
    (h : read s = (.ok x, c)) : c.stream.length < s.length := by
  unfold read at h
  split at h
  · cases h
  · next k c1 h1 =>
    have l1 := length_readKeyword_lt h1
    have l2 := length_readCriterion_le k c1
    split at h
    · cases h
    · next criterion c2 h2 =>
      rw [h2] at l2
      have l3 := length_readTest_le k criterion c2
      split at h
      · cases h
      · next h3 =>
        rw [h3] at l3
        cases h
        exact Nat.lt_of_le_of_lt (Nat.le_trans l3 l2) l1

end Condition

/-! ### Rules -/

namespace Rule

open TokenStream (finished broken lexeme)

/-- Reads the conditions after the first one, each behind an operator, and the operator that all of
them share. Once an operator has been read, every further one must equal it. -/
def readMore (seen : Option Combinator) (stream : TokenStream) :
    Except SyntaxError (Option Combinator × List Condition) :=
  match stream with
  | finished _ => .ok (seen, [])
  | broken kind p => .error (.unterminated kind p)
  | lexeme x tail =>
    match x.token with
    | .operator o =>
      if seen.any (· ≠ o) then .error (.mixedOperators x.start)
      else if tail.isFinished then .error (.missingCondition x.stop)
      else
        match _ : Condition.read tail with
        | (.error e, _) => .error e
        | (.ok c, cursor) =>
          (readMore (some o) cursor.stream).map fun (k, cs) => (k, c :: cs)
    | _ => .error (.trailingInput x.start)
termination_by stream.length
decreasing_by
  rename_i h
  exact Nat.lt_trans (Condition.length_read_lt h) (Nat.lt_succ_self _)

/-- Reads a rule from its tokens. A rule of one condition asks that all of its conditions hold. -/
def ofTokens (stream : TokenStream) : Except SyntaxError Rule :=
  match stream with
  | finished _ => .error .empty
  | _ =>
    match Condition.read stream with
    | (.error e, _) => .error e
    | (.ok c, cursor) =>
      match readMore none cursor.stream with
      | .error e => .error e
      | .ok (combinator, cs) => .ok ⟨c :: cs, combinator.getD .all, by simp⟩

/-- Reads a rule from its text. -/
def parse (text : String) : Except SyntaxError Rule := ofTokens (.ofText 0 text.toList)

end Rule

end MailFilter
