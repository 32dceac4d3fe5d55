import MailFilter.Files.FileTree
import MailFilter.Message.JsonFormat
import MailFilter.Message.TableFormat

/-!
# Files of Messages

Messages are read from files in JSON or from tables. The format is told by the extension of the
file, and is JSON where the extension says nothing.
-/

namespace MailFilter.Message

/-- The format of a file of messages. -/
inductive Format where
  | json
  | table (delimiter : Char)
deriving DecidableEq, Repr

/-- The format that the extension of a path tells. -/
def Format.ofPath (p : Path) : Format :=
  match p.extension? with
  | some extension =>
    if Text.equalsIgnoringCase extension "csv" then .table ','
    else if Text.equalsIgnoringCase extension "tsv" then .table '\t'
    else .json
  | none => .json

/-- What is wrong with a file of messages. -/
inductive LoadFault where
  | file (fault : FileFault)
  | json (fault : Json.Fault)
  | table (fault : RecordFault)
deriving DecidableEq, Repr

/-- The text of the message. The wording of faults in JSON is not part of the library. -/
def LoadFault.message? : LoadFault → Option String
  | file fault => some ("I/O error: " ++ fault.message)
  | json _ => none
  | table fault =>
    some s!"Invalid CSV at record {Text.natural fault.record}: {fault.fault.message}"

/-- The messages of a text. -/
def listOfText (format : Format) (text : String) : Except LoadFault (List Message) :=
  match format with
  | .json => (listOfJson text).mapError .json
  | .table delimiter => (listOfTable delimiter text).mapError .table

/-- The messages of a file. -/
def load (t : FileTree) (p : Path) (format : Format) : Except LoadFault (List Message) :=
  match t.read p with
  | .error e => .error (.file e)
  | .ok text => listOfText format text

end MailFilter.Message
