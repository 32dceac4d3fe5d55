/-!
# Delimited Texts

Records of cells, with a delimiter between the cells and a line end behind each record. A cell in
quotes may hold delimiters, line ends and doubled quotes. Empty lines are no records. Whatever
follows a closing quote belongs to the cell, and a cell whose quote is not closed reaches to the end
of the text.
-/

namespace MailFilter.Text

/-- Where reading stands: in front of a record or of a cell, inside a cell without quotes or with
them, or behind a quote that may close the cell. -/
inductive CellState where
  | recordStart
  | cellStart
  | bare
  | quoted
  | closing
deriving DecidableEq, Repr

/-- The characters that end a record. -/
def isLineEnd (c : Char) : Bool := c == '\n' || c == '\r'

/-- What is being read: the cells of the record so far and the characters of the cell so far, both
from the last to the first. -/
structure OpenRecord where
  cells : List String
  cell : List Char

namespace OpenRecord

/-- Nothing read yet. -/
def empty : OpenRecord := ⟨[], []⟩

/-- Adds a character to the cell. -/
def push (r : OpenRecord) (c : Char) : OpenRecord := { r with cell := c :: r.cell }

/-- Ends the cell. -/
def endCell (r : OpenRecord) : OpenRecord := ⟨String.ofList r.cell.reverse :: r.cells, []⟩

/-- Ends the record. -/
def finish (r : OpenRecord) : List String := r.endCell.cells.reverse

end OpenRecord

/-- Reads the records of a text from a state. -/
def readRecords (delimiter : Char) : CellState → OpenRecord → List Char → List (List String)
  | .recordStart, _, [] => []
  | _, r, [] => [r.finish]
  | .quoted, r, c :: s =>
    if c = '"' then readRecords delimiter .closing r s
    else readRecords delimiter .quoted (r.push c) s
  | state, r, c :: s =>
    if state = .recordStart ∧ isLineEnd c then readRecords delimiter .recordStart r s
    else if c = '"' ∧ state ≠ .bare then
      if state = .closing then readRecords delimiter .quoted (r.push c) s
      else readRecords delimiter .quoted r s
    else if c = delimiter then readRecords delimiter .cellStart r.endCell s
    else if isLineEnd c then r.finish :: readRecords delimiter .recordStart .empty s
    else readRecords delimiter .bare (r.push c) s

/-- The records of a text. A byte order mark in front of the text is skipped. -/
def records (delimiter : Char) (s : List Char) : List (List String) :=
  let s :=
    match s with
    | '\uFEFF' :: s => s
    | s => s
  readRecords delimiter .recordStart .empty s

end MailFilter.Text
