/-!
# Tables of Code Points

Sets of code points are listed as runs in ascending order of their first code points, in a notation
of hexadecimal numbers: `41-5A` is a run, `AA` a single code point, and `100-136/2` every second
code point of a run. A table has rows of the form `names: runs;`.
-/

namespace MailFilter.Unicode

/-- The code points `first`, `first + step`, ... up to `last`. -/
structure Run where
  first : Nat
  last : Nat
  step : Nat
deriving Repr

/-- Whether the run holds the code point. -/
def Run.contains (r : Run) (n : Nat) : Bool :=
  r.first ≤ n && n ≤ r.last && (n - r.first) % r.step == 0

/-- Whether one of the runs holds the code point. The runs are ordered by their first code points,
so the search ends at the first run behind it. -/
def runsContain : List Run → Nat → Bool
  | [], _ => false
  | r :: rest, n => r.first ≤ n && (r.contains n || runsContain rest n)

/-- The value of a hexadecimal digit written with capitals. -/
def hexValue (c : Char) : Nat := if c.toNat < 58 then c.toNat - 48 else c.toNat - 55

/-- The value of a hexadecimal number written with capitals. -/
def hexNumber (s : String) : Nat := s.toList.foldl (fun n c => 16 * n + hexValue c) 0

/-- Reads one run. -/
def Run.ofText (s : String) : Run :=
  match s.splitOn "/" with
  | [range, step] =>
    match range.splitOn "-" with
    | [a, b] => ⟨hexNumber a, hexNumber b, hexNumber step⟩
    | _ => ⟨hexNumber range, hexNumber range, 1⟩
  | _ =>
    match s.splitOn "-" with
    | [a, b] => ⟨hexNumber a, hexNumber b, 1⟩
    | _ => ⟨hexNumber s, hexNumber s, 1⟩

/-- The words of a text, separated by blanks and line ends. -/
def words (s : String) : List String :=
  ((s.splitOn "\n").flatMap (·.splitOn " ")).filter (· ≠ "")

/-- A row of a table: the names of a set and its runs. -/
structure Row where
  names : List String
  runs : List Run
deriving Repr

/-- Reads a table. -/
def readTable (s : String) : List Row :=
  (s.splitOn ";").filterMap fun row =>
    match row.splitOn ":" with
    | [names, runs] => some ⟨words names, (words runs).map Run.ofText⟩
    | _ => none

/-- The runs under a name, if the table has it. -/
def runsOf? (table : List Row) (name : String) : Option (List Run) :=
  (table.find? (·.names.contains name)).map (·.runs)

end MailFilter.Unicode
