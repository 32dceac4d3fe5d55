import MailFilter.Shell.Command
import MailFilter.Shell.Programs
import MailFilter.Shell.Sum

/-!
# Shells at Work

What a shell keeps from one command to the next, what a command does, and the texts that words stand
for. Time is not spent but counted.
-/

namespace MailFilter.Shell

/-- What a shell keeps between commands. -/
structure Machine where
  bindings : List (String × String) := []
  /-- The last exit code. -/
  status : Nat := 0
  /-- The exit code of the last command that was run for a word. -/
  wordStatus : Nat := 0
  /-- The milliseconds that have passed. -/
  clock : Nat := 0
  /-- When the last command in the background ends. -/
  background : Nat := 0
  /-- What is still to be read. -/
  input : List Char := []
  /-- The signals that do nothing. -/
  ignored : List Nat := []
  inLoop : Bool := false

/-- The number of the process in which a command runs. -/
def ownProcess : Nat := 1000
/-- How a run ends: the next command follows, a loop is left or goes on with its next pass, the
shell ends, or a signal ends it. -/
inductive Ending where
  | goesOn
  | leavesLoop
  | endsPass
  | exits
  | dies (signal : Nat)
deriving DecidableEq, Repr

/-- What a command did. -/
structure Run where
  machine : Machine
  output : List Char := []
  ending : Ending := .goesOn

/-- Runs a text in a shell. -/
abbrev Nested := List Char → Machine → Run

namespace Machine

/-- A run that only sets the exit code. -/
def exit (m : Machine) (status : Nat) (ending : Ending := .goesOn) : Run :=
  { machine := { m with status := status }, ending := ending }

/-- A run that only writes a text. -/
def writes (m : Machine) (text : List Char) : Run := { machine := m, output := text }

/-- Gives a value to a parameter. -/
def bind (m : Machine) (name value : String) : Machine :=
  { m with bindings := (name, value) :: m.bindings }

/-- The values that parameters have by themselves. -/
def ownBindings : List (String × String) :=
  [("$", Text.natural ownProcess), ("PPID", "1"), ("#", "0"), ("0", "sh"), ("HOME", "/root"),
    ("PATH", "/usr/local/bin:/usr/bin:/bin"), ("PWD", "/"), ("IFS", " \t\n")]

/-- The value of a parameter. -/
def parameter (m : Machine) (name : String) : String :=
  if name = "?" then Text.natural m.status
  else ((m.bindings ++ ownBindings).lookup name).getD ""

end Machine

namespace Run

/-- A run and what comes after it, if the run goes on. -/
def andThen (r : Run) (next : Machine → Run) : Run :=
  match r.ending with
  | .goesOn =>
    let r' := next r.machine
    { r' with output := r.output ++ r'.output }
  | _ => r

/-- A pass of a loop and what comes after it. -/
def afterPass (r : Run) (next : Machine → Run) : Run :=
  match r.ending with
  | .endsPass => { r with ending := .goesOn }.andThen next
  | .leavesLoop => { r with ending := .goesOn }
  | _ => r.andThen next

/-- A run in a part of a shell, which leaves the parameters alone and ends by itself. -/
def within (outer : Machine) (r : Run) : Run :=
  { r with
    machine :=
      { outer with status := r.machine.status, clock := r.machine.clock, input := r.machine.input }
    ending :=
      match r.ending with
      | .dies signal => .dies signal
      | _ => .goesOn }

/-- A run of another process. A signal that ends it is seen in the exit code. -/
def asProcess (outer : Machine) (r : Run) : Run :=
  match r.ending with
  | .dies signal =>
    { r.within outer with
      machine := { (r.within outer).machine with status := 128 + signal }
      ending := .goesOn }
  | _ => r.within outer

end Run

/-! ### Words -/

/-- Fields of a word: those that are finished, and the one under way, if one has begun. -/
structure Fields where
  finished : List (List Char) := []
  current : Option (List Char) := none

namespace Fields

/-- Adds a text to the field under way. -/
def add (f : Fields) (text : List Char) : Fields :=
  { f with current := some (f.current.getD [] ++ text) }

/-- Adds a text that is split at its blanks. -/
def split (f : Fields) : List Char → Fields
  | [] => f
  | c :: s =>
    if c = ' ' ∨ c = '\t' ∨ c = '\n' then split ⟨f.finished ++ f.current.toList, none⟩ s
    else split (f.add [c]) s

/-- The texts of the fields. -/
def texts (f : Fields) : List String :=
  (f.finished ++ f.current.toList).map String.ofList

end Fields

/-- Whether the text of a piece is split at its blanks. -/
def Piece.isSplit : Piece → Bool
  | parameter _ isQuoted => !isQuoted
  | output _ isQuoted => !isQuoted
  | _ => false

/-- Whether a command is run for the text of a piece. -/
def Piece.isOutput : Piece → Bool
  | output _ _ => true
  | _ => false

/-- A text without the line ends behind it. -/
def withoutLineEnds (text : List Char) : List Char :=
  (text.reverse.dropWhile (· == '\n')).reverse

namespace Machine

/-- The text of a piece. -/
def value (m : Machine) (nested : Nested) : Piece → Run
  | .bare c => m.writes [c]
  | .quoted text => m.writes text
  | .parameter name _ => m.writes (m.parameter name).toList
  | .output command _ =>
    let r := (nested command m).within m
    { r with
      machine := { r.machine with status := m.status, wordStatus := r.machine.status }
      output := withoutLineEnds r.output }
  | .number sum =>
    match Sum.evaluate? m.parameter sum with
    | some n => m.writes (Text.writeInt n)
    | none => m.exit 2 .exits

/-- The text that a word stands for where it is not split. -/
def wholeText (m : Machine) (nested : Nested) : Word → Run
  | [] => m.writes []
  | p :: w => (m.value nested p).andThen fun m => wholeText m nested w

/-- The fields of a word behind fields that there are. -/
def fieldsBehind (m : Machine) (nested : Nested) (f : Fields) : Word → Fields × Run
  | [] => (f, m.writes [])
  | p :: w =>
    let r := m.value nested p
    if r.ending = .goesOn then
      fieldsBehind r.machine nested (if p.isSplit then f.split r.output else f.add r.output) w
    else (f, r)

/-- The fields that words stand for. -/
def fields (m : Machine) (nested : Nested) : List Word → List String × Run
  | [] => ([], m.writes [])
  | w :: words =>
    let (f, r) := m.fieldsBehind nested {} w
    if r.ending = .goesOn then
      let (more, r) := fields r.machine nested words
      (f.texts ++ more, r)
    else ([], r)

end Machine

/-! ### Signals -/

/-- The number of a signal. -/
def signal? (name : String) : Option Nat :=
  match ["EXIT", "HUP", "INT", "QUIT", "ILL", "TRAP", "ABRT", "BUS", "FPE", "KILL", "USR1", "SEGV",
      "USR2", "PIPE", "ALRM", "TERM", "STKFLT", "CHLD", "CONT", "STOP", "TSTP",
      "TTIN", "TTOU", "URG", "XCPU", "XFSZ", "VTALRM", "PROF", "WINCH", "POLL", "PWR",
      "SYS"].findIdx? (· == name) with
  | some n => some n
  | none => (Text.readNatural? name.toList).bind fun n => if n < 65 then some n else none

/-- What a signal does to a process. -/
inductive SignalEffect where
  | nothing
  | stops
  | ends

/-- What a signal does to a process that has made no arrangements. -/
def signalEffect (signal : Nat) : SignalEffect :=
  if [0, 17, 18, 23, 28].contains signal then .nothing
  else if [19, 20, 21, 22].contains signal then .stops
  else .ends

namespace Machine

/-- Gets a signal. -/
def receive (m : Machine) (signal : Nat) : Run :=
  match signalEffect signal, m.ignored.contains signal && signal != 9 with
  | .ends, false => m.exit (128 + signal) (.dies signal)
  | .stops, false => { m with clock := m.clock + endless }.exit 0
  | _, _ => m.exit 0

/-- Sends a signal to processes. There is no other process than the one of the shell. -/
def sendEach (m : Machine) (signal : Nat) : List String → Run
  | [] => m.exit 0
  | p :: rest =>
    match Text.readInteger? p.toList with
    | none => m.exit 2
    | some n =>
      let r := if n = ownProcess then m.receive signal else m.exit 1
      r.andThen fun m =>
        let more := m.sendEach signal rest
        if r.machine.status = 0 ∨ more.ending ≠ .goesOn then more
        else { more with machine := { more.machine with status := r.machine.status } }

/-- Sends a signal to processes, of which there must be one. -/
def send (m : Machine) (signal : Nat) (processes : List String) : Run :=
  if processes.isEmpty then m.exit 2 else m.sendEach signal processes

/-- Sends a signal as arguments say. -/
def kill (m : Machine) : List String → Run
  | "-l" :: _ => m.exit 0
  | "-s" :: name :: rest =>
    match signal? name with
    | some n => m.send n rest
    | none => m.exit 2
  | a :: rest =>
    match a.toList with
    | '-' :: name =>
      match signal? (String.ofList name) with
      | some n => m.send n rest
      | none => m.exit 2
    | _ => m.send 15 (a :: rest)
  | [] => m.exit 2

end Machine

end MailFilter.Shell
