import MailFilter.Json.Lexical

/-!
# Skipping Values

A value under a name that nobody asks for is skipped. It must be well written, and may be nested to
any depth.
-/

namespace MailFilter.Json

/-- What is open around a value. -/
inductive Bracket where
  | array
  | object
deriving DecidableEq, Repr

/-- Skips the key of an object and the colon behind it. -/
def skipKey (s : List Char) : Except Fault (Unit × List Char) :=
  match skip s with
  | [] => .error .truncated
  | '"' :: rest =>
    match skipString rest with
    | .error e => .error e
    | .ok (_, rest) =>
      match skip rest with
      | ':' :: rest => .ok ((), rest)
      | [] => .error .truncated
      | _ => .error .malformed
  | _ => .error .malformed

/-- Skips a value without parts. -/
def skipScalar (s : List Char) : Except Fault (Unit × List Char) :=
  match s with
  | [] => .error .truncated
  | 'n' :: s => readWord "ull".toList s
  | 't' :: s => readWord "rue".toList s
  | 'f' :: s => readWord "alse".toList s
  | '"' :: s => skipString s
  | '-' :: s => skipNumber s
  | c :: _ => if Text.isDigit c then skipNumber s else .error .malformed

/-- What comes next inside an array or object: a value, or the end of a value. -/
inductive Expected where
  | value
  | opened
  | closed

/-- Skips a value inside of what is open around it, from the innermost to the outermost. -/
def skipNested (enclosing : List Bracket) (expected : Expected) (s : List Char) :
    Except Fault (Unit × List Char) :=
  let further := fun (enclosing : List Bracket) (expected : Expected) (rest : List Char) =>
    if _ : rest.length < s.length then skipNested enclosing expected rest else .error .malformed
  match expected, enclosing, skip s with
  | .value, _, '[' :: rest => further (.array :: enclosing) .opened rest
  | .value, _, '\x7b' :: rest => further (.object :: enclosing) .opened rest
  | .value, _, text =>
    match skipScalar text with
    | .error e => .error e
    | .ok (_, rest) => if enclosing = [] then .ok ((), rest) else further enclosing .closed rest
  | _, [], rest => .ok ((), rest)
  | _, _ :: _, [] => .error .truncated
  | _, .array :: outer, ']' :: rest =>
    if outer = [] then .ok ((), rest) else further outer .closed rest
  | _, .object :: outer, '\x7d' :: rest =>
    if outer = [] then .ok ((), rest) else further outer .closed rest
  | .closed, .array :: _, ',' :: rest => further enclosing .value rest
  | .closed, .object :: _, ',' :: rest =>
    match skipKey rest with
    | .error e => .error e
    | .ok (_, rest) => further enclosing .value rest
  | .closed, _, _ => .error .malformed
  | .opened, .array :: _, text =>
    match text with
    | '[' :: rest => further (.array :: enclosing) .opened rest
    | '\x7b' :: rest => further (.object :: enclosing) .opened rest
    | text =>
      match skipScalar text with
      | .error e => .error e
      | .ok (_, rest) => further enclosing .closed rest
  | .opened, .object :: _, text =>
    match skipKey text with
    | .error e => .error e
    | .ok (_, rest) => further enclosing .value rest
termination_by s.length

/-- Skips a value. -/
def skipValue : Reader Unit := skipNested [] .value

end MailFilter.Json
