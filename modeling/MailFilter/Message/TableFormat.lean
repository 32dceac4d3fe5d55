import MailFilter.Calendar.MailDate
import MailFilter.Message.Message
import MailFilter.Text.Delimited

/-!
# Messages in Tables

A table of messages is a delimited text whose first record names the columns. Names are compared
without regard to case and blanks, and a hyphen counts as an underscore. A column of no known name
is a header of its own. Empty cells say nothing.
-/

namespace MailFilter.Message

open Text (trimmed lowered)

/-- What is wrong with a cell: the kind of value that was asked for, and the cell. -/
inductive CellFault where
  | size (cell : String)
  | score (cell : String)
  | date (cell : String)
  | flag (cell : String)
deriving DecidableEq, Repr

/-- The text of the message. -/
def CellFault.message : CellFault → String
  | size cell => s!"invalid size '{cell}'"
  | score cell => s!"invalid score '{cell}'"
  | date cell => s!"invalid date '{cell}'"
  | flag cell => s!"invalid flag value '{cell}'"

/-- Reads a truth value. -/
def readFlag (cell : String) : Except CellFault Bool :=
  let word := lowered (trimmed cell)
  if ["true", "1", "yes", "y"].contains word then .ok true
  else if ["false", "0", "no", "n"].contains word then .ok false
  else .error (.flag cell)

/-- Reads a timestamp in the strict form, or the date of a mail header. -/
def readDate (cell : String) : Except CellFault Calendar.Instant :=
  let text := trimmed cell
  match Calendar.Instant.ofTimestamp? text.toList with
  | some t => .ok t
  | none =>
    match Calendar.Instant.ofMailDate? text.toList with
    | some t => .ok t
    | none => .error (.date text)

/-- Reads a size. -/
def readSize (cell : String) : Except CellFault UInt64 :=
  match Text.readUInt64? (trimmed cell).toList with
  | some n => .ok n
  | none => .error (.size cell)

/-- Reads a score. -/
def readScore (cell : String) : Except CellFault Int64 :=
  match Text.readInt64? (trimmed cell).toList with
  | some n => .ok n
  | none => .error (.score cell)

/-- The name that a column is compared by. -/
def columnKey (column : String) : String :=
  String.ofList ((lowered (trimmed column)).toList.map fun c => if c = '-' then '_' else c)

/-- Puts a status flag. -/
def putFlag (m : Message) (cell : String) (put : Flags → Bool → Flags) : Except CellFault Message :=
  (readFlag cell).map fun b => { m with flags := put m.flags b }

/-- Puts a cell into a message. -/
def putValue (m : Message) (column cell : String) : Except CellFault Message :=
  match columnKey column with
  | "subject" => .ok { m with subject := some cell }
  | "from" => .ok { m with sender := some cell }
  | "to" => .ok { m with recipient := some cell }
  | "cc" => .ok { m with cc := some cell }
  | "newsgroups" => .ok { m with newsgroups := some cell }
  | "in_reply_to" => .ok { m with inReplyTo := some cell }
  | "references" => .ok { m with references := some cell }
  | "x_label" => .ok { m with xLabel := some cell }
  | "message_id" => .ok { m with messageId := some cell }
  | "body" => .ok { m with body := some cell }
  | "file" => .ok { m with file := some cell }
  | "size" => (readSize cell).map fun n => { m with size := n }
  | "score" => (readScore cell).map fun n => { m with score := n }
  | "date" => (readDate cell).map fun t => { m with date := some t }
  | "unread" => m.putFlag cell fun f b => { f with unread := b }
  | "new" => m.putFlag cell fun f b => { f with new := b }
  | "marked" => m.putFlag cell fun f b => { f with marked := b }
  | "deleted" => m.putFlag cell fun f b => { f with deleted := b }
  | "replied" => m.putFlag cell fun f b => { f with replied := b }
  | "forwarded" => m.putFlag cell fun f b => { f with forwarded := b }
  | "locked" => m.putFlag cell fun f b => { f with locked := b }
  | _ => .ok { m with headers := m.headers.insert (trimmed column) cell }

/-- Puts a cell into a message, unless it is empty. -/
def putCell (m : Message) (column cell : String) : Except CellFault Message :=
  if cell = "" then .ok m else m.putValue column cell

/-- Puts the cells of a record into a message, from the left. -/
def putCells (m : Message) : List (String × String) → Except CellFault Message
  | [] => .ok m
  | (column, cell) :: rest =>
    match m.putCell column cell with
    | .error e => .error e
    | .ok m => putCells m rest

/-- A record that holds a bad cell: its number, counted from one, and the fault. -/
structure RecordFault where
  record : Nat
  fault : CellFault
deriving DecidableEq, Repr

/-- The messages of records, the first of which has the number `n`. -/
def ofRecords (columns : List String) (n : Nat) :
    List (List String) → Except RecordFault (List Message)
  | [] => .ok []
  | cells :: rest =>
    match putCells {} (columns.zip cells) with
    | .error e => .error ⟨n, e⟩
    | .ok m => (ofRecords columns (n + 1) rest).map (m :: ·)

/-- The messages of a table. -/
def listOfTable (delimiter : Char) (text : String) : Except RecordFault (List Message) :=
  match Text.records delimiter text.toList with
  | [] => .ok []
  | columns :: rows => ofRecords columns 1 rows

end MailFilter.Message
