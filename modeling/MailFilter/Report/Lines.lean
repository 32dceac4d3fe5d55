import MailFilter.Message.Message
import MailFilter.Report.Style
import MailFilter.Rule.SyntaxError
import MailFilter.Store.StoredRule
import MailFilter.Text.Utf8

/-!
# Lines of a Report

What is printed for a message, for a stored rule, and for a fault in the text of a rule. In quiet
reports there is only what another program would want.

## Main results

* `charactersTo?_byteLength`: the end of a text is as many characters in as the text has, whatever
  follows it.
-/

namespace MailFilter.Report

/-- The line of a message. -/
def messageLine (colours : Bool) (m : Message) (quiet : Bool) : String :=
  if quiet then m.summary
  else
    "  " ++ paint colours .dimmed (m.messageId.getD "-") ++ "  " ++
      paint colours .bold (m.subject.getD "(no subject)") ++
      match m.sender with
      | some sender => "  " ++ paint colours .cyan sender
      | none => ""

/-! ### Faults in rules -/

/-- The number of characters in front of a place in bytes, if it lies between characters. -/
def charactersTo? : (place : Nat) → List Char → Option Nat
  | 0, _ => some 0
  | _ + 1, [] => none
  | place + 1, c :: s =>
    if c.utf8Size ≤ place + 1 then (charactersTo? (place + 1 - c.utf8Size) s).map (· + 1) else none

/-- The end of a text is as many characters in as the text has, whatever follows it. -/
theorem charactersTo?_byteLength (s rest : List Char) :
    charactersTo? (Text.byteLength s) (s ++ rest) = some s.length := by
  induction s with
  | nil => rw [Text.byteLength, charactersTo?, List.length_nil]
  | cons c s ih =>
    have hc := c.utf8Size_pos
    obtain ⟨n, hn⟩ : ∃ n, c.utf8Size + Text.byteLength s = n + 1 :=
      ⟨c.utf8Size + Text.byteLength s - 1, by omega⟩
    have hr : n + 1 - c.utf8Size = Text.byteLength s := by omega
    rw [Text.byteLength, hn, List.cons_append, charactersTo?, if_pos (by omega), hr, ih]
    rfl

/-- The column of a place in bytes. A place that is not between characters stands for itself. -/
def column (place : Nat) (s : List Char) : Nat := (charactersTo? place s).getD place

/-- A fault, and under the text a mark at its place. -/
def syntaxFault (colours : Bool) (shown : String) (e : SyntaxError) : String :=
  paint colours .boldRed "error:" ++ " " ++ e.message ++
    match e.position? with
    | some place =>
      "\n  " ++ shown ++ "\n  " ++ String.ofList (List.replicate (column place shown.toList) ' ') ++
        paint colours .red "^"
    | none => ""

/-! ### Stored rules -/

/-- The first line of a text. -/
def firstLine (text : String) : String :=
  String.ofList ((Text.lines text.toList).headD [])

/-- The lines of a stored rule in a list whose names take `width` characters. -/
def ruleLine (colours : Bool) (r : StoredRule) (width : Nat) (quiet : Bool) : String :=
  if quiet then r.name
  else
    let description :=
      if r.description = "" then paint colours .dimmed "(no description)"
      else firstLine r.description
    "  " ++ paintPadded colours .green width r.name ++ "  " ++ description ++ "\n  " ++
      padded width "" ++ "  " ++ r.rule

/-! ### Counts -/

/-- A count with its noun. -/
def plural (count : Nat) (noun : String) : String :=
  Text.natural count ++ " " ++ noun ++ if count = 1 then "" else "s"

end MailFilter.Report
