import MailFilter.Matching.Runner
import MailFilter.Numeric.BinaryWord
import MailFilter.Shell.Interpreter

/-!
# Running a Command with a Limit

The commands of rules are run by a small shell, as a function of the command and the files. A
command takes as long as the programs in it say they do, and it is stopped if that is not less than
the limit. The files are only read.
-/

namespace MailFilter.Shell

open Numeric (Binary32)

/-- What became of a command. -/
inductive Result where
  | exited (code : Nat)
  | killed
  | timedOut (milliseconds : Nat)
  /-- A NUL character stands in the command. -/
  | notText
deriving DecidableEq, Repr

/-- How deep shells may run inside each other. -/
def depthLimit : Nat := 100

/-- Runs a command. `limit` is the number of milliseconds that it must take less than. -/
def run (t : FileTree) (command : String) (limit : Option Nat) : Result :=
  if command.toList.contains '\x00' then .notText
  else
    let r := Machine.start {} (interpret t depthLimit) command.toList
    match limit.filter (· ≤ r.machine.clock), r.ending with
    | some n, _ => .timedOut n
    | none, .dies _ => .killed
    | none, _ => .exited r.machine.status

/-- A span of time in seconds. The whole seconds and the rest are added as words of thirty-two
bits. -/
def seconds (milliseconds : Nat) : Binary32 :=
  let whole : Binary32 := .ofRatio false ⟨milliseconds / 1000, 1⟩
  let rest : Binary32 := .ofRatio false ⟨milliseconds % 1000, 1000⟩
  .ofRatio false (whole.magnitude.plus rest.magnitude)

/-- The text of the message for a command that was stopped. -/
def timeoutMessage (milliseconds : Nat) : String :=
  "command did not finish within " ++ String.ofList (seconds milliseconds).write ++ "s"

/-- The runner that runs commands in the shell. -/
def runner (t : FileTree) : Runner := fun _ call =>
  match run t call.command call.timeout with
  | .exited code => .exited code
  | .killed => .killed
  | .timedOut _ => .failed
  | .notText => .failed

end MailFilter.Shell
