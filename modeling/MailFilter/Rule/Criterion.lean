/-!
# Criteria

A criterion says what a condition looks at: a status of the message, a measure of it, one of its
texts, or the exit code of a command. Each criterion is written with a code of one or two letters
and asks for one kind of operand.

## Main results

* `ofCode?_code`: a criterion is found again under its code, up to the name of a header.
* `code_of_ofCode?`: a code that is found is the code of what is found.
-/

namespace MailFilter

/-- What is asked about the status of a message. `everything` holds of every message. -/
inductive Status where
  | everything
  | unread
  | new
  | marked
  | deleted
  | replied
  | forwarded
  | locked
deriving DecidableEq, Repr

/-- A measure of a message that is compared with a number: its age in days, its score or its size
in bytes. -/
inductive Measure where
  | olderThan
  | youngerThan
  | score (relation : Ordering)
  | size (relation : Ordering)
deriving DecidableEq, Repr

/-- A text of a message: one of its headers, two of them together, or a larger part of it. -/
inductive Field where
  | subject
  | sender
  | recipient
  | cc
  | recipientOrCc
  | newsgroups
  | inReplyTo
  | references
  | messageId
  | xLabel
  | header (name : String)
  | headerBlock
  | body
  | whole
deriving DecidableEq, Repr

/-- What a condition looks at. -/
inductive Criterion where
  | status (status : Status)
  | measure (measure : Measure)
  | text (field : Field)
  | command
deriving DecidableEq, Repr

/-- The kind of operand that a criterion asks for. -/
inductive Arity where
  | none
  | text
  | number
deriving DecidableEq, Repr

/-! ### Codes -/

/-- The code of a status. -/
def Status.code : Status → String
  | .everything => "a"
  | .unread => "U"
  | .new => "N"
  | .marked => "T"
  | .deleted => "D"
  | .replied => "r"
  | .forwarded => "F"
  | .locked => "L"

/-- The code of a measure. -/
def Measure.code : Measure → String
  | .olderThan => "ag"
  | .youngerThan => "al"
  | .score .gt => "sg"
  | .score .lt => "sl"
  | .score .eq => "se"
  | .size .gt => "Sg"
  | .size .lt => "Ss"
  | .size .eq => "Se"

/-- The code of a text. -/
def Field.code : Field → String
  | .subject => "s"
  | .sender => "f"
  | .recipient => "t"
  | .cc => "c"
  | .recipientOrCc => "C"
  | .newsgroups => "n"
  | .inReplyTo => "I"
  | .references => "x"
  | .messageId => "i"
  | .xLabel => "y"
  | .header _ => "H"
  | .headerBlock => "h"
  | .body => "b"
  | .whole => "B"

/-- The code under which a criterion is written in a rule. -/
def Criterion.code : Criterion → String
  | .status s => s.code
  | .measure m => m.code
  | .text f => f.code
  | .command => "X"

/-- The criterion behind a code. A header comes with an empty name, which the reader of the rule
fills in. -/
def Criterion.ofCode? (code : String) : Option Criterion :=
  match code with
  | "a" => some (.status .everything)
  | "U" => some (.status .unread)
  | "N" => some (.status .new)
  | "T" => some (.status .marked)
  | "D" => some (.status .deleted)
  | "r" => some (.status .replied)
  | "F" => some (.status .forwarded)
  | "L" => some (.status .locked)
  | "ag" => some (.measure .olderThan)
  | "al" => some (.measure .youngerThan)
  | "sg" => some (.measure (.score .gt))
  | "sl" => some (.measure (.score .lt))
  | "se" => some (.measure (.score .eq))
  | "Sg" => some (.measure (.size .gt))
  | "Ss" => some (.measure (.size .lt))
  | "Se" => some (.measure (.size .eq))
  | "s" => some (.text .subject)
  | "f" => some (.text .sender)
  | "t" => some (.text .recipient)
  | "c" => some (.text .cc)
  | "C" => some (.text .recipientOrCc)
  | "n" => some (.text .newsgroups)
  | "I" => some (.text .inReplyTo)
  | "x" => some (.text .references)
  | "i" => some (.text .messageId)
  | "y" => some (.text .xLabel)
  | "H" => some (.text (.header ""))
  | "h" => some (.text .headerBlock)
  | "b" => some (.text .body)
  | "B" => some (.text .whole)
  | "X" => some .command
  | _ => none

/-- A criterion without the name of its header. -/
def Criterion.withoutHeaderName : Criterion → Criterion
  | .text (.header _) => .text (.header "")
  | c => c

/-- A criterion is found again under its code, up to the name of a header. -/
theorem Criterion.ofCode?_code (c : Criterion) :
    Criterion.ofCode? c.code = some c.withoutHeaderName := by
  rcases c with s | m | f | _
  · cases s <;> rfl
  · rcases m with _ | _ | o | o <;> try rfl
    all_goals cases o <;> rfl
  · cases f <;> rfl
  · rfl

/-- A code that is found is the code of what is found. -/
theorem Criterion.code_of_ofCode? {code : String} {c : Criterion}
    (h : Criterion.ofCode? code = some c) : c.code = code := by
  unfold Criterion.ofCode? at h
  split at h <;> first | (cases h; rfl) | (exact absurd h (by simp))

/-! ### Operands and names -/

/-- The kind of operand that a criterion asks for. -/
def Criterion.arity : Criterion → Arity
  | .status _ => .none
  | .measure _ => .number
  | .text _ => .text
  | .command => .text

/-- Whether the operand is compared with a text of the message, so that it makes a difference how
it is compared. -/
def Criterion.comparesText : Criterion → Bool
  | .text _ => true
  | _ => false

/-- The readable name of a status. -/
def Status.name : Status → String
  | .everything => "all"
  | .unread => "unread"
  | .new => "new"
  | .marked => "marked"
  | .deleted => "deleted"
  | .replied => "replied"
  | .forwarded => "forwarded"
  | .locked => "locked"

/-- The readable name of a measure. -/
def Measure.name : Measure → String
  | .olderThan => "age_greater"
  | .youngerThan => "age_lower"
  | .score .gt => "score_greater"
  | .score .lt => "score_lower"
  | .score .eq => "score_equal"
  | .size .gt => "size_greater"
  | .size .lt => "size_smaller"
  | .size .eq => "size_equal"

/-- The readable name of a text. -/
def Field.name : Field → String
  | .subject => "subject"
  | .sender => "from"
  | .recipient => "to"
  | .cc => "cc"
  | .recipientOrCc => "to_or_cc"
  | .newsgroups => "newsgroups"
  | .inReplyTo => "in_reply_to"
  | .references => "references"
  | .messageId => "message_id"
  | .xLabel => "x_label"
  | .header _ => "header"
  | .headerBlock => "headers_part"
  | .body => "body_part"
  | .whole => "message"

/-- The readable name of a criterion. -/
def Criterion.name : Criterion → String
  | .status s => s.name
  | .measure m => m.name
  | .text f => f.name
  | .command => "execute"

end MailFilter
