import MailFilter.Calendar.MailDate
import MailFilter.Message.Headers
import MailFilter.Rule.Criterion

/-!
# Messages

A message as the conditions of a rule see it. Nine headers have fields of their own; the others are
kept under their names. A header is looked up without regard to the case of ASCII letters, and a
header with a field of its own is looked up nowhere else, also when the message does not have it.
-/

namespace MailFilter

open Text (equalsIgnoringCase)

/-- The status flags of a message. -/
structure Flags where
  unread : Bool := false
  new : Bool := false
  marked : Bool := false
  deleted : Bool := false
  replied : Bool := false
  forwarded : Bool := false
  locked : Bool := false
deriving DecidableEq, Repr

/-- A message. `file` is where it is stored. -/
structure Message where
  subject : Option String := none
  sender : Option String := none
  recipient : Option String := none
  cc : Option String := none
  newsgroups : Option String := none
  inReplyTo : Option String := none
  references : Option String := none
  xLabel : Option String := none
  messageId : Option String := none
  headers : Headers := .empty
  body : Option String := none
  size : UInt64 := 0
  score : Int64 := 0
  date : Option Calendar.Instant := none
  flags : Flags := {}
  file : Option String := none
deriving DecidableEq

namespace Message

/-- The headers that have fields of their own, in the order of the header block. -/
def knownHeaders (m : Message) : List (String × Option String) :=
  [("Subject", m.subject), ("From", m.sender), ("To", m.recipient), ("Cc", m.cc),
    ("Newsgroups", m.newsgroups), ("In-Reply-To", m.inReplyTo), ("References", m.references),
    ("X-Label", m.xLabel), ("Message-ID", m.messageId)]

/-- The value of a header. -/
def header? (m : Message) (name : String) : Option String :=
  match m.knownHeaders.find? fun h => equalsIgnoringCase h.1 name with
  | some (_, value) => value
  | none => (m.headers.entries.find? fun h => equalsIgnoringCase h.1 name).map (·.2)

/-- The entries of the header block: the headers with fields of their own that are there, and then
the others. -/
def headerEntries (m : Message) : List (String × String) :=
  m.knownHeaders.filterMap (fun (name, value?) => value?.map (name, ·)) ++ m.headers.entries

/-- One line of the header block. -/
def headerLine (entry : String × String) : String := entry.1 ++ ": " ++ entry.2 ++ "\n"

/-- The header block: one line for each entry. -/
def headerBlock (m : Message) : String := String.join (m.headerEntries.map headerLine)

/-- The header block, an empty line and the body. -/
def whole (m : Message) : String := m.headerBlock ++ "\n" ++ m.body.getD ""

/-- The texts of a message that a field stands for. A header that is missing has an empty text. -/
def texts (m : Message) : Field → List String
  | .subject => [m.subject.getD ""]
  | .sender => [m.sender.getD ""]
  | .recipient => [m.recipient.getD ""]
  | .cc => [m.cc.getD ""]
  | .recipientOrCc => [m.recipient.getD "", m.cc.getD ""]
  | .newsgroups => [m.newsgroups.getD ""]
  | .inReplyTo => [m.inReplyTo.getD ""]
  | .references => [m.references.getD ""]
  | .messageId => [m.messageId.getD ""]
  | .xLabel => [m.xLabel.getD ""]
  | .header name => [(m.header? name).getD ""]
  | .headerBlock => [m.headerBlock]
  | .body => [m.body.getD ""]
  | .whole => [m.whole]

/-- Whether the message has a status. -/
def hasStatus (m : Message) : Status → Bool
  | .everything => true
  | .unread => m.flags.unread
  | .new => m.flags.new
  | .marked => m.flags.marked
  | .deleted => m.flags.deleted
  | .replied => m.flags.replied
  | .forwarded => m.flags.forwarded
  | .locked => m.flags.locked

/-- The identifier and the subject, with stand-ins for what is missing. -/
def summary (m : Message) : String :=
  m.messageId.getD "-" ++ "  " ++ m.subject.getD "(no subject)"

end Message

end MailFilter
