import MailFilter.Numeric.BinaryWord

/-!
# Values of TOML

What a TOML document holds. A table remembers how it came about, since that decides whether a later
line of the document may still add to it.
-/

namespace MailFilter.Toml

open Numeric (Binary64)

/-- A value without parts. Dates and times are kept as texts in their normal form. -/
inductive Scalar where
  | text (text : String)
  | integer (n : Int64)
  | real (x : Binary64)
  | truth (b : Bool)
  | dateTime (text : String)
deriving DecidableEq, Repr

/-- How a table came about. -/
inductive Origin where
  /-- It is written inside of a line. -/
  | inline
  /-- A header names a table below it. -/
  | implied
  /-- A key with dots leads through it. -/
  | dotted
  /-- A header names it. -/
  | header
deriving DecidableEq, Repr

/-- A value. `tables` is a list of tables that have headers of their own. -/
inductive Value where
  | scalar (s : Scalar)
  | list (items : List Value)
  | table (origin : Origin) (entries : List (String × Value))
  | tables (rows : List (List (String × Value)))

/-- Keys with their values. -/
abbrev Entries := List (String × Value)

namespace Entries

/-- Puts a value under a key that is already there. -/
def replace (key : String) (value : Value) : Entries → Entries
  | [] => []
  | (k, v) :: rest =>
    if k = key then (k, value) :: rest else (k, v) :: replace key value rest

/-- What a step does to a table: its origin and its entries afterwards, or none if it is not
allowed. -/
abbrev Step := Origin → Entries → Option (Origin × Entries)

/-- Changes the table that a path leads to. Tables that are missing on the way are made. A path
leads into the last one of a list of tables. The path of a key with dots does not lead through a
table that has a header. -/
def within (dotted : Bool) (path : List String) (step : Step) : Step := fun origin entries =>
  match path with
  | [] => step origin entries
  | key :: path =>
    match entries.lookup key with
    | none => do
      let (o, es) ← within dotted path step (if dotted then .dotted else .implied) []
      return (origin, entries ++ [(key, .table o es)])
    | some (.table o es) => do
      if o = .inline ∨ (dotted ∧ o = .header) then none
      let (o, es) ← within dotted path step o es
      return (origin, replace key (.table o es) entries)
    | some (.tables rows) => do
      let (_, es) ← within dotted path step .header (rows.getLastD [])
      return (origin, replace key (.tables (rows.dropLast ++ [es])) entries)
    | some _ => none

/-- Adds a new key. -/
def addKey (key : String) (value : Value) : Step := fun origin entries =>
  match entries.lookup key with
  | none => some (origin, entries ++ [(key, value)])
  | some _ => none

/-- Adds a key behind the path of a key with dots. Where there is a path, it must end in a table
that such keys have made. -/
def addDotted (path : List String) (key : String) (value : Value) : Step :=
  within true path fun origin entries =>
    if path = [] ∨ origin = .dotted then addKey key value origin entries else none

/-- Makes the table of a header, or takes one that was implied. -/
def openTable (key : String) : Step := fun origin entries =>
  match entries.lookup key with
  | none => some (origin, entries ++ [(key, .table .header [])])
  | some (.table .implied es) => some (origin, replace key (.table .header es) entries)
  | some _ => none

/-- Adds one table to the list of tables that a header names. -/
def openRow (key : String) : Step := fun origin entries =>
  match entries.lookup key with
  | none => some (origin, entries ++ [(key, .tables [[]])])
  | some (.tables rows) => some (origin, replace key (.tables (rows ++ [[]])) entries)
  | some _ => none

end Entries

end MailFilter.Toml
