import MailFilter.Message.Message

/-!
# Command Templates

The command of a condition is a template. A percent sign and a letter stand for a part of the
message, two percent signs for one, and every other percent sign for itself. Inserted texts are not
looked at again. The date is written as in mail headers, which cannot be done for every year.

## Main results

* `fill_double`: a template with every percent sign doubled gives the text back.
-/

namespace MailFilter.CommandTemplate

/-- Why a template could not be filled in: the date has no written form. -/
inductive Fault where
  | unwritableDate
deriving DecidableEq, Repr

/-- What a letter behind a percent sign stands for, if it stands for anything. -/
def value? (m : Message) : Char → Option (Except Fault String)
  | '%' => some (.ok "%")
  | 's' => some (.ok (m.subject.getD ""))
  | 'f' => some (.ok (m.sender.getD ""))
  | 't' => some (.ok (m.recipient.getD ""))
  | 'c' => some (.ok (m.cc.getD ""))
  | 'd' =>
    match m.date with
    | none => some (.ok "")
    | some date =>
      match date.mailDate? with
      | some text => some (.ok text)
      | none => some (.error .unwritableDate)
  | 'i' => some (.ok (m.messageId.getD ""))
  | 'n' => some (.ok (m.newsgroups.getD ""))
  | 'r' => some (.ok (m.references.getD ""))
  | 'F' => some (.ok (m.file.getD ""))
  | _ => none

/-- Fills in a template. -/
def fill (m : Message) : List Char → Except Fault (List Char)
  | [] => .ok []
  | '%' :: c :: s =>
    match value? m c with
    | some (.ok value) => (fill m s).map (value.toList ++ ·)
    | some (.error e) => .error e
    | none => (fill m (c :: s)).map ('%' :: ·)
  | c :: s => (fill m s).map (c :: ·)

/-- A text with every percent sign doubled. -/
def double : List Char → List Char
  | [] => []
  | c :: s => if c = '%' then '%' :: '%' :: double s else c :: double s

/-- A template with every percent sign doubled gives the text back. -/
theorem fill_double (m : Message) (s : List Char) : fill m (double s) = .ok s := by
  induction s with
  | nil => simp [double, fill]
  | cons c s ih =>
    by_cases hc : c = '%'
    · simp [double, hc, fill, value?, ih, Except.map]
    · rw [double, if_neg hc, fill, ih]
      · rfl
      · exact fun _ _ h => absurd h hc

/-- The command for a message. -/
def command (template : String) (m : Message) : Except Fault String :=
  (fill m template.toList).map String.ofList

end MailFilter.CommandTemplate
