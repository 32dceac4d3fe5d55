import MailFilter.Toml.Scalar

/-!
# Documents of TOML

A document is a sequence of lines: keys with values, headers of tables, and headers of the rows of
a list of tables. Keys go into the table of the header before them.
-/

namespace MailFilter.Toml

open Entries (within addDotted openTable openRow)
open Text (Reader)

/-! ### Values -/

/-- Takes a list behind its opening bracket, with commas between the items and perhaps one behind
the last. -/
def list (value : Reader Value) : Reader (List Value) := do
  trivia
  match ← Reader.optional value with
  | none => do
    Reader.char ']'
    return []
  | some first => do
    let more ← Reader.many do
      trivia
      Reader.char ','
      trivia
      value
    trivia
    let _ ← Reader.optional (.char ',')
    trivia
    Reader.char ']'
    return first :: more

/-- Takes a key and its value. -/
def keyValue (value : Reader Value) : Reader (List String × String × Value) := do
  let (path, name) ← key
  Reader.char '='
  blanks
  let v ← value
  return (path, name, v)

/-- Adds keys with values to an empty table. -/
def gather? : Entries → List (List String × String × Value) → Option Entries
  | entries, [] => some entries
  | entries, (path, name, v) :: pairs =>
    match addDotted path name v .inline entries with
    | some (_, entries) => gather? entries pairs
    | none => none

/-- Takes a table that is written inside of a line, behind its opening brace. -/
def inlineTable (value : Reader Value) : Reader Entries := do
  let pairs ←
    match ← Reader.optional (keyValue value) with
    | none => pure []
    | some first => do
      let more ← Reader.many do
        blanks
        Reader.char ','
        keyValue value
      pure (first :: more)
  blanks
  Reader.char '\x7d'
  match gather? [] pairs with
  | some entries => return entries
  | none => failure

/-- Takes a value in which lists and tables stand inside each other at most `depth` deep. -/
def valueWithin : (depth : Nat) → Reader Value
  | 0 => do
    match ← Reader.peek? with
    | some '"' | some '\'' => return .scalar (.text (← string))
    | _ => return .scalar (← readScalar)
  | depth + 1 => do
    match ← Reader.peek? with
    | some '[' => do
      Reader.char '['
      return .list (← list (valueWithin depth))
    | some '\x7b' => do
      Reader.char '\x7b'
      return .table .inline (← inlineTable (valueWithin depth))
    | _ => valueWithin 0

/-- Takes a value. -/
def value : Reader Value := valueWithin depthLimit

/-! ### Lines -/

/-- A line that says something. -/
inductive Line where
  | entry (path : List String) (key : String) (value : Value)
  | table (path : List String) (key : String)
  | row (path : List String) (key : String)

/-- Takes a line that says something. -/
def line : Reader Line := do
  match ← Reader.rest with
  | '[' :: '[' :: _ => do
    Reader.literal ['[', '[']
    let (path, name) ← key
    Reader.literal [']', ']']
    return .row path name
  | '[' :: _ => do
    Reader.char '['
    let (path, name) ← key
    Reader.char ']'
    return .table path name
  | _ => do
    let (path, name, v) ← keyValue value
    return .entry path name v

/-- Takes any line: one that says something, a blank one, or a comment. -/
def anyLine : Reader (Option Line) := do
  blanks
  match ← Reader.peek? with
  | some '#' | some '\r' | some '\n' => do
    lineEnd
    return none
  | none => failure
  | some _ => do
    let l ← line
    lineEnd
    return some l

/-- A document that has been read up to some line: its entries, and the path of the table that the
next keys go into. -/
structure State where
  entries : Entries
  current : List String

/-- Changes the entries. -/
def State.change? (s : State) (step : Entries.Step) (current : List String) : Option State :=
  (step .header s.entries).map fun (_, es) => ⟨es, current⟩

/-- Takes a line into account. -/
def State.add? (s : State) : Line → Option State
  | .entry path name v => s.change? (within false s.current (addDotted path name v)) s.current
  | .table path name => s.change? (within false path (openTable name)) (path ++ [name])
  | .row path name => s.change? (within false path (openRow name)) (path ++ [name])

/-- Takes the lines of a document. -/
def lines : Reader (List Line) := do
  let ls ← Reader.many anyLine
  blanks
  Reader.atEnd
  return ls.filterMap id

/-- Reads a document. A byte order mark in front of it is skipped. -/
def read? (text : String) : Option Entries :=
  let s :=
    match text.toList with
    | '\uFEFF' :: s => s
    | s => s
  (lines.readAll? s).bind fun ls => (ls.foldlM State.add? ⟨[], []⟩).map (·.entries)

end MailFilter.Toml
