import MailFilter.QuickSearch.Alias
import MailFilter.Rule.TokenStream

/-!
# Expanding Aliases

A query becomes a rule when every alias in keyword position is replaced by its code. Everything else
is copied as it stands, with its blanks. Where the query stops looking like a rule the rest of it is
copied too, and the reader of the rule finds the fault.
-/

namespace MailFilter.QuickSearch

/-- What is expected next. -/
inductive Expected where
  | keyword
  | headerName
  | operand
  | operator
deriving DecidableEq, Repr

/-- What is expected after a token that is no keyword, if the token fits. -/
def Expected.next? : Expected → Token → Option Expected
  | keyword, .negation => some keyword
  | keyword, .exactCase => some keyword
  | headerName, _ => some operand
  | operand, .exactCase => some operand
  | operand, _ => some operator
  | operator, .operator _ => some keyword
  | _, _ => none

/-- What is expected after a code, which may be negated. -/
def Expected.afterCode (code : String) : Expected :=
  match Criterion.ofCode? (String.ofList (code.toList.dropWhile (· == '~'))) with
  | some (.text (.header _)) => headerName
  | some (.status _) => operator
  | _ => operand

/-- Replaces the aliases of a text that starts at the byte `position`. -/
def expandFrom (expected : Expected) (position : Nat) (s : List Char) :
    Except SyntaxError (List Char) :=
  let gap := Text.leadingBlanks s
  let start := position + Text.byteLength gap
  match _ : Scan.ofText (Text.trimStart s) with
  | .finished => .ok s
  | .broken kind => .error (.unterminated kind start)
  | .lexeme token spelling rest =>
    let stop := start + Text.byteLength spelling
    match expected, token with
    | .keyword, .word word =>
      match resolve? word with
      | none => .error (.unknownKeyword word start)
      | some code =>
        (expandFrom (.afterCode code) stop rest).map fun out => gap ++ code.toList ++ out
    | expected, token =>
      match expected.next? token with
      | none => .ok s
      | some next => (expandFrom next stop rest).map fun out => gap ++ spelling ++ out
termination_by s.length
decreasing_by
  all_goals
    have hScan := ‹Scan.ofText (Text.trimStart s) = _›
    exact Nat.lt_of_lt_of_le (Scan.length_rest_lt hScan) (Text.length_trimStart_le s)

/-- Replaces the aliases of a query. -/
def expand (query : String) : Except SyntaxError String :=
  (expandFrom .keyword 0 query.toList).map String.ofList

end MailFilter.QuickSearch
