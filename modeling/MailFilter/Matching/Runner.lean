import MailFilter.Calendar.Instant

/-!
# Running Commands

Rules can ask for the exit code of a command. What a command does is outside of this library: a
runner answers a call with its outcome, and the answer may depend on every call before it. The calls
are kept in a log, in the order in which they were made.
-/

namespace MailFilter

/-- A command with the milliseconds that it may take, if there is a limit. -/
structure Call where
  command : String
  timeout : Option Nat
deriving DecidableEq, Repr

/-- The calls that were made, in order. -/
abbrev CallLog := List Call

/-- What became of a command: it ended with an exit code, a signal ended it, or it could not be run
to its end. -/
inductive Outcome where
  | exited (code : Int)
  | killed
  | failed
deriving DecidableEq, Repr

/-- Answers a call, in view of the calls before it. -/
abbrev Runner := CallLog → Call → Outcome

/-- What an evaluation depends on besides the message: the time that ages refer to, the runner, and
the limit for each command. -/
structure Context where
  now : Calendar.Instant
  runner : Runner
  timeout : Option Nat

end MailFilter
