import MailFilter.Rule.Condition
import MailFilter.Text.Blank
import MailFilter.Text.Decimal
import MailFilter.Text.Utf8

/-!
# Tokens of the Rule Language

`Scan.ofText` reads the token at the front of a text that does not start with a blank. A quoted
text ends at the first quote that no backslash takes with it, a pattern at the first slash, a word
before the next blank or operator; every other token is one character.

## Main results

* `eq_append_of_close`: the spelling of a quoted text or pattern and what follows it make up the
  text.
* `ofText_lexeme`: the same for every token, and no token has an empty spelling.
-/

namespace MailFilter

open Text (isBlank isDigit)

/-- A token of the rule language. -/
inductive Token where
  /-- A run of characters that is not quoted: a code, the name of a header or an operand. -/
  | word (text : String)
  /-- A text between quotes, without its escapes. -/
  | quoted (text : String)
  /-- A pattern between slashes, without the escapes of its slashes. -/
  | pattern (text : String)
  /-- A word that is a number. -/
  | number (value : Int64)
  /-- `&` or `|`. -/
  | operator (combinator : Combinator)
  /-- `!` or `~`. -/
  | negation
  /-- `%`. -/
  | exactCase
deriving DecidableEq

namespace Token

/-! ### Quoted texts and patterns -/

/-- What stands between two delimiters: the content without escapes, its spelling with the closing
delimiter, and the text after it. -/
structure Enclosed where
  content : List Char
  spelling : List Char
  rest : List Char

/-- Puts characters in front of the content and of its spelling. -/
def Enclosed.cons (content spelling : List Char) (e : Enclosed) : Enclosed :=
  ⟨content ++ e.content, spelling ++ e.spelling, e.rest⟩

/-- Reads up to the closing delimiter. A backslash takes the next character with it, and stands for
that character where the delimiter has it escaped. -/
def close (kind : Delimited) : List Char → Option Enclosed
  | [] => none
  | '\\' :: d :: s =>
    (close kind s).map (.cons (if kind.escapes d then [d] else ['\\', d]) ['\\', d])
  | c :: s =>
    if c = kind.mark then some ⟨[], [c], s⟩ else (close kind s).map (.cons [c] [c])

/-- The spelling of what is enclosed and what follows it make up the text. -/
theorem eq_append_of_close {kind : Delimited} {s : List Char} {e : Enclosed}
    (h : close kind s = some e) : s = e.spelling ++ e.rest := by
  fun_induction close kind s generalizing e with
  | case1 => cases h
  | case2 d s ih =>
    obtain ⟨e, he, rfl⟩ := Option.map_eq_some_iff.1 h
    simp [Enclosed.cons, ← ih he]
  | case3 s =>
    cases h
    rfl
  | case4 c s _ _ ih =>
    obtain ⟨e, he, rfl⟩ := Option.map_eq_some_iff.1 h
    simp [Enclosed.cons, ← ih he]

/-! ### Words -/

/-- The characters that a word may hold after its first one. -/
def isWordChar (c : Char) : Bool := !isBlank c && c != '&' && c != '|'

/-- Whether a word starts as numbers do, with a digit or a minus sign and a digit. -/
def startsNumber : List Char → Bool
  | '-' :: c :: _ => isDigit c
  | c :: _ => isDigit c
  | [] => false

/-- The token that a word stands for: a number if it reads as one that fits, else itself. -/
def ofWord (word : List Char) : Token :=
  match startsNumber word, Text.readInt64? word with
  | true, some n => .number n
  | _, _ => .word (String.ofList word)

end Token

/-! ### The front of a text -/

/-- What stands at the front of a text: nothing, a delimiter that is not closed, or a token with
its spelling and the text after it. -/
inductive Scan where
  | finished
  | broken (kind : Delimited)
  | lexeme (token : Token) (spelling rest : List Char)

/-- Reads the token at the front of a text that does not start with a blank. -/
def Scan.ofText : List Char → Scan
  | [] => .finished
  | c :: s =>
    match c with
    | '&' => .lexeme (.operator .all) [c] s
    | '|' => .lexeme (.operator .any) [c] s
    | '!' => .lexeme .negation [c] s
    | '~' => .lexeme .negation [c] s
    | '%' => .lexeme .exactCase [c] s
    | '"' =>
      match Token.close .quoted s with
      | some e => .lexeme (.quoted (String.ofList e.content)) (c :: e.spelling) e.rest
      | none => .broken .quoted
    | '/' =>
      match Token.close .pattern s with
      | some e => .lexeme (.pattern (String.ofList e.content)) (c :: e.spelling) e.rest
      | none => .broken .pattern
    | _ =>
      let word := c :: s.takeWhile Token.isWordChar
      .lexeme (Token.ofWord word) word (s.dropWhile Token.isWordChar)

/-- The spelling of the first token and what follows it make up the text, and the spelling is not
empty. -/
theorem Scan.ofText_lexeme {s spelling rest : List Char} {t : Token}
    (h : Scan.ofText s = .lexeme t spelling rest) : s = spelling ++ rest ∧ spelling ≠ [] := by
  unfold Scan.ofText at h
  split at h
  · cases h
  · split at h <;> try (cases h; simp)
    · split at h
      · next e he =>
        cases h
        simp [← Token.eq_append_of_close he]
      · cases h
    · split at h
      · next e he =>
        cases h
        simp [← Token.eq_append_of_close he]
      · cases h

/-- What follows the first token is shorter than the text. -/
theorem Scan.length_rest_lt {s spelling rest : List Char} {t : Token}
    (h : Scan.ofText s = .lexeme t spelling rest) : rest.length < s.length := by
  obtain ⟨rfl, hne⟩ := Scan.ofText_lexeme h
  have := List.length_pos_iff.2 hne
  simp only [List.length_append]
  omega

end MailFilter
