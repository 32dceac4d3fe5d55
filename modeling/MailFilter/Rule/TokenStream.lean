import MailFilter.Rule.Token

/-!
# The Tokens of a Text

`TokenStream.ofText` lists the tokens of a text with the bytes where they stand, up to the end or
up to a delimiter that is not closed. A `Cursor` is a place in that list, and can be looked at
before it is moved.

## Main results

* `length_next_le`: reading a token leaves no more tokens than there were.
* `peek_fst`: looking at a token shows what is read next.
* `next_peek`: looking at a token does not change what is read next.
-/

namespace MailFilter

/-- A token at its place in a text. -/
structure Lexeme where
  token : Token
  start : Nat
  spelling : List Char

/-- The byte after the token. -/
def Lexeme.stop (x : Lexeme) : Nat := x.start + Text.byteLength x.spelling

/-- The tokens of a text in order. The list ends with the text, or at a quoted text or pattern that
is not closed; either end has its place. -/
inductive TokenStream where
  | finished (position : Nat)
  | broken (kind : Delimited) (position : Nat)
  | lexeme (head : Lexeme) (tail : TokenStream)

namespace TokenStream

/-- The tokens of a text that starts at the byte `position`. -/
def ofText (position : Nat) (s : List Char) : TokenStream :=
  let start := position + Text.byteLength (Text.leadingBlanks s)
  match _ : Scan.ofText (Text.trimStart s) with
  | .finished => .finished start
  | .broken kind => .broken kind start
  | .lexeme token spelling rest =>
    .lexeme ⟨token, start, spelling⟩ (ofText (start + Text.byteLength spelling) rest)
termination_by s.length
decreasing_by
  rename_i h
  exact Nat.lt_of_lt_of_le (Scan.length_rest_lt h) (Text.length_trimStart_le s)

/-- Whether nothing but blanks follows. -/
def isFinished : TokenStream → Bool
  | finished _ => true
  | _ => false

/-- The number of tokens. -/
def length : TokenStream → Nat
  | finished _ => 0
  | broken _ _ => 0
  | lexeme _ tail => tail.length + 1

end TokenStream

/-- A place in a list of tokens: the byte that has been reached, and what follows. -/
structure Cursor where
  position : Nat
  stream : TokenStream

namespace Cursor

/-- The start of a text. -/
def ofText (s : List Char) : Cursor := ⟨0, .ofText 0 s⟩

/-- The result of reading at a cursor: a value or a fault, and the place that was reached. -/
abbrev Result (α : Type) := Except SyntaxError α × Cursor

/-- Reads the next token, if there is one. -/
def next (c : Cursor) : Result (Option Lexeme) :=
  match c.stream with
  | .finished p => (.ok none, ⟨p, .finished p⟩)
  | .broken kind p => (.error (.unterminated kind p), ⟨p, .broken kind p⟩)
  | .lexeme x tail => (.ok (some x), ⟨x.stop, tail⟩)

/-- Looks at the next token, which remains to be read. -/
def peek (c : Cursor) : Result (Option Lexeme) :=
  match c.stream with
  | .finished p => (.ok none, ⟨p, .finished p⟩)
  | .broken kind p => (.error (.unterminated kind p), ⟨p, .broken kind p⟩)
  | .lexeme x tail => (.ok (some x), ⟨x.start, .lexeme x tail⟩)

/-- Reading a token leaves no more tokens than there were. -/
theorem length_next_le (c : Cursor) : c.next.2.stream.length ≤ c.stream.length := by
  rcases c with ⟨p, _ | _ | _⟩ <;> simp [next, TokenStream.length]

/-- Looking at a token shows what is read next. -/
theorem peek_fst (c : Cursor) : c.peek.1 = c.next.1 := by
  rcases c with ⟨p, _ | _ | _⟩ <;> rfl

/-- Looking at a token does not change what is read next. -/
theorem next_peek (c : Cursor) : c.peek.2.next = c.next := by
  rcases c with ⟨p, _ | _ | _⟩ <;> rfl

end Cursor

end MailFilter
