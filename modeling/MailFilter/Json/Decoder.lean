import MailFilter.Json.Skip

/-!
# Decoding Values

Readers for values of a kind that is asked for: strings, words, truth values, values that may be
`null`, arrays, and records. A record is an object whose names are known; names that are not known
are skipped and a name that is given twice is a fault. A record may also be written as an array of
its values in order, from which values may be missing at the end.
-/

namespace MailFilter.Json

/-- The fault at a value that is not of the kind that is asked for. Values without parts are read
first, and their own faults come before it. -/
def refuse (s : List Char) : Fault :=
  let faultOf := fun {α : Type} (r : Except Fault (α × List Char)) =>
    match r with
    | .error e => e
    | .ok _ => .mistyped
  match s with
  | 'n' :: s => faultOf (readWord "ull".toList s)
  | 't' :: s => faultOf (readWord "rue".toList s)
  | 'f' :: s => faultOf (readWord "alse".toList s)
  | '-' :: s => faultOf (readNumber true s)
  | '"' :: s => faultOf (readString s)
  | '[' :: _ => .mistyped
  | '\x7b' :: _ => .mistyped
  | c :: _ => if Text.isDigit c then faultOf (readNumber false s) else .malformed
  | [] => .truncated

/-- Reads a string. -/
def string : Reader String := fun s =>
  match skip s with
  | '"' :: s => (readString s).map fun (text, s) => (String.ofList text, s)
  | s => .error (refuse s)

/-- Reads a number. -/
def number : Reader Number := fun s =>
  match skip s with
  | '-' :: s => readNumber true s
  | c :: s => if Text.isDigit c then readNumber false (c :: s) else .error (refuse (c :: s))
  | [] => .error .truncated

/-- Reads an unsigned word. -/
def uint64 : Reader UInt64 := fun s =>
  match number s with
  | .error e => .error e
  | .ok (.natural n, s) => .ok (n, s)
  | .ok _ => .error .mistyped

/-- Reads a signed word. -/
def int64 : Reader Int64 := fun s =>
  match number s with
  | .error e => .error e
  | .ok (.natural n, s) =>
    if n.toNat ≤ Int64.maxValue.toInt then .ok (Int64.ofNat n.toNat, s) else .error .mistyped
  | .ok (.negative n, s) => .ok (n, s)
  | .ok (.real, _) => .error .mistyped

/-- Reads a truth value. -/
def bool : Reader Bool := fun s =>
  match skip s with
  | 't' :: s => (readWord "rue".toList s).map fun (_, s) => (true, s)
  | 'f' :: s => (readWord "alse".toList s).map fun (_, s) => (false, s)
  | s => .error (refuse s)

/-- Reads `null` or a value. -/
def nullable {α : Type} (r : Reader α) : Reader (Option α) := fun s =>
  match skip s with
  | 'n' :: s => (readWord "ull".toList s).map fun (_, s) => (none, s)
  | s => (r s).map fun (a, s) => (some a, s)

/-! ### Arrays -/

/-- Goes to the next element of an array: the text of the element, or `none` and the text behind
the array. -/
def nextElement (first : Bool) (s : List Char) : Except Fault (Bool × List Char) :=
  match skip s with
  | [] => .error .truncated
  | ']' :: rest => .ok (false, rest)
  | c :: rest =>
    if first then .ok (true, c :: rest)
    else if c = ',' then
      match skip rest with
      | [] => .error .truncated
      | ']' :: _ => .error .malformed
      | rest => .ok (true, rest)
    else .error .malformed

/-- Reads the elements of an array behind its bracket. -/
def elements {α : Type} (r : Reader α) (first : Bool) (s : List Char) :
    Except Fault (List α × List Char) :=
  match nextElement first s with
  | .error e => .error e
  | .ok (false, rest) => .ok ([], rest)
  | .ok (true, rest) =>
    match r rest with
    | .error e => .error e
    | .ok (a, rest) =>
      if rest.length < s.length then
        match elements r false rest with
        | .error e => .error e
        | .ok (as, rest) => .ok (a :: as, rest)
      else .error .malformed
termination_by s.length

/-- Reads an array. -/
def array {α : Type} (r : Reader α) : Reader (List α) := fun s =>
  match skip s with
  | [] => .error .truncated
  | '[' :: s => elements r true s
  | s => .error (refuse s)

/-! ### Objects -/

/-- Goes to the next key of an object: the key and the text behind its colon, or `none` and the
text behind the object. The colon is looked for by `readColon`, after the key has been judged. -/
def nextKey (first : Bool) (s : List Char) : Except Fault (Option String × List Char) :=
  let key := fun (s : List Char) =>
    (readString s).map fun (text, s) => (some (String.ofList text), s)
  match skip s with
  | [] => .error .truncated
  | '\x7d' :: rest => .ok (none, rest)
  | '"' :: rest => if first then key rest else .error .malformed
  | ',' :: rest =>
    if first then .error .malformed
    else
      match skip rest with
      | '"' :: rest => key rest
      | [] => .error .truncated
      | _ => .error .malformed
  | _ => .error .malformed

/-- Reads the colon behind a key. -/
def readColon (s : List Char) : Except Fault (List Char) :=
  match skip s with
  | ':' :: rest => .ok rest
  | [] => .error .truncated
  | _ => .error .malformed

/-- Reads the entries of an object behind its brace, and folds them with `entry`, which judges a
key before its value is read. -/
def entries {σ : Type} (entry : σ → String → Except Fault (Reader σ)) (first : Bool) (state : σ)
    (s : List Char) : Except Fault (σ × List Char) :=
  match nextKey first s with
  | .error e => .error e
  | .ok (none, rest) => .ok (state, rest)
  | .ok (some key, rest) =>
    match entry state key with
    | .error e => .error e
    | .ok value =>
      match readColon rest with
      | .error e => .error e
      | .ok rest =>
        match value rest with
        | .error e => .error e
        | .ok (state, rest) =>
          if rest.length < s.length then entries entry false state rest else .error .malformed
termination_by s.length

/-- Reads an object whose values are all of one kind, and folds its entries. -/
def dictionary {α σ : Type} (r : Reader α) (start : σ) (insert : String → α → σ → σ) : Reader σ :=
  fun s =>
    match skip s with
    | [] => .error .truncated
    | '\x7b' :: s =>
      entries (fun state key => .ok fun s => (r s).map fun (a, s) => (insert key a state, s))
        true start s
    | s => .error (refuse s)

/-! ### Records -/

/-- A field of a record: its name, and how its value is read into the record. -/
structure RecordField (σ : Type) where
  name : String
  read : σ → Reader σ

/-- Reads a record from the names of an object. -/
def namedFields {σ : Type} (fields : List (RecordField σ)) (start : σ) (s : List Char) :
    Except Fault (σ × List Char) :=
  let entry := fun (state : σ × List String) (key : String) =>
    match fields.find? (·.name == key) with
    | some f =>
      if state.2.contains key then .error .mistyped
      else .ok fun s => (f.read state.1 s).map fun (r, s) => ((r, key :: state.2), s)
    | none => .ok fun s => (skipValue s).map fun (_, s) => (state, s)
  (entries entry true (start, []) s).map fun (state, s) => (state.1, s)

/-- Reads a record from the elements of an array. -/
def positionalFields {σ : Type} :
    List (RecordField σ) → (first : Bool) → (state : σ) → List Char → Except Fault (σ × List Char)
  | [], _, state, s =>
    match skip s with
    | ']' :: rest => .ok (state, rest)
    | [] => .error .truncated
    | _ => .error .malformed
  | f :: fields, first, state, s =>
    match nextElement first s with
    | .error e => .error e
    | .ok (false, rest) => .ok (state, rest)
    | .ok (true, rest) =>
      match f.read state rest with
      | .error e => .error e
      | .ok (state, rest) => positionalFields fields false state rest

/-- Reads a record. -/
def record {σ : Type} (fields : List (RecordField σ)) (start : σ) : Reader σ := fun s =>
  match skip s with
  | [] => .error .truncated
  | '[' :: s => positionalFields fields true start s
  | '\x7b' :: s => namedFields fields start s
  | s => .error (refuse s)

/-- Reads a whole text. -/
def document {α : Type} (r : Reader α) (s : List Char) : Except Fault α :=
  match r s with
  | .error e => .error e
  | .ok (a, rest) => if skip rest = [] then .ok a else .error .malformed

end MailFilter.Json
