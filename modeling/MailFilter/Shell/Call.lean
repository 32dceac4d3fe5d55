import MailFilter.Shell.Machine

/-!
# Calling Commands by Name

A name stands for one of the shell's own commands, which work on the state of the shell, or for a
program, which is another process and leaves that state as it was. Both get their arguments as plain
words.
-/

namespace MailFilter.Shell

namespace Machine

/-- Takes what a program did into account. -/
def report (m : Machine) (r : Report) : Run :=
  { machine :=
      { m with
        status := r.code
        clock := m.clock + r.milliseconds
        input := if r.takesInput then [] else m.input }
    output := r.output }

/-- Ends the shell with an exit code, which is taken modulo 256. -/
def leave (m : Machine) : List String → Run
  | [] => m.exit m.status .exits
  | a :: _ =>
    match Text.readInteger? (Text.trim a.toList) with
    | some n => m.exit (if 0 ≤ n ∧ n < Nat.pow 2 31 then n.toNat % 256 else 2) .exits
    | none => m.exit 2 .exits

/-- Leaves a loop or a pass of it. Outside of loops nothing is done. -/
def skip (m : Machine) (ending : Ending) (arguments : List String) : Run :=
  if arguments.all fun a => (Text.readNatural? a.toList).any (0 < ·) then
    m.exit 0 (if m.inLoop then ending else .goesOn)
  else m.exit 2 .exits

/-- Gives values to parameters, as `name=value` or without one. -/
def assign (m : Machine) (arguments : List String) : Run :=
  (arguments.foldl (fun m a =>
    match Text.splitFirst? '=' a.toList with
    | some (name, value) => m.bind (String.ofList name) (String.ofList value)
    | none => m) m).exit 0

/-- Gives the words of a line to parameters, the last of which gets the rest of the line. -/
def bindWords (m : Machine) (line : List Char) : List String → Machine
  | [] => m
  | [name] => m.bind name (Text.trimmed (String.ofList line))
  | name :: names =>
    let line := Text.trimStart line
    let isBlank := fun c : Char => c == ' ' || c == '\t'
    (m.bind name (String.ofList (line.takeWhile (!isBlank ·)))).bindWords
      (line.dropWhile (!isBlank ·)) names

/-- Whether a text can name a parameter. -/
def isName (text : String) : Bool :=
  text != "" && text.toList.all isNameChar && !text.toList.head?.any Text.isDigit

/-- Reads a line into parameters. It fails where the input ends in the line. -/
def readLine (m : Machine) (names : List String) : Run :=
  if names.isEmpty || !names.all isName then m.exit 2
  else
    let line := m.input.takeWhile (· != '\n')
    let rest := m.input.dropWhile (· != '\n')
    ({ m with input := rest.drop 1 }.bindWords line names).exit (if rest.isEmpty then 1 else 0)

/-- Changes what signals do. Only that they are to do nothing is kept. -/
def trap (m : Machine) : List String → Run
  | "" :: signals => { m with ignored := signals.filterMap signal? ++ m.ignored }.exit 0
  | _ => m.exit 0

/-- Runs the text that a shell is started with. One that starts with a sign is taken for options,
and then the text itself is missing. -/
def start (m : Machine) (nested : Nested) : (text : List Char) → Run
  | '-' :: _ | '+' :: _ => m.exit 2
  | text => nested text m

/-- Runs another shell. -/
def runShell (m : Machine) (t : FileTree) (nested : Nested) (arguments : List String) : Run :=
  let start : Machine := { clock := m.clock, input := m.input, ignored := m.ignored }
  match arguments with
  | "-c" :: text :: _ => start.start nested text.toList
  | ["-c"] => start.exit 2
  | [] => nested m.input { start with input := [] }
  | script :: _ =>
    match (fileAt? t script).bind FileTree.text? with
    | some text => nested text.toList start
    | none => start.exit 2

/-- Runs a program. It is another process, so what it does to itself is not done to the shell. -/
def runProgram (m : Machine) (t : FileTree) (nested : Nested) :
    (name : String) → (arguments : List String) → Run
  | name, arguments =>
    match programName name, arguments with
    | "sh", _ | "dash", _ | "bash", _ => m.runShell t nested arguments
    | "kill", _ => m.kill arguments
    | "env", name :: rest | "nice", name :: rest | "nohup", name :: rest =>
      runProgram m t nested name rest
    | "timeout", limit :: name :: rest =>
      let r := runProgram m t nested name rest
      match milliseconds? limit with
      | some n =>
        if m.clock + n < r.machine.clock then
          { m with clock := m.clock + n }.exit 124
        else r
      | none => m.exit 125
    | _, _ =>
      match program? t name arguments m.input with
      | some r => m.report r
      | none => m.exit (if name.toList.contains '/' && isPresent t name then 126 else 127)
termination_by _ arguments => arguments.length

/-- Runs a command with its fields: one of the shell's own, or a program. -/
def call (m : Machine) (t : FileTree) (nested : Nested) : (fields : List String) → Run
  | [] => m.exit m.status
  | name :: arguments =>
    match name with
    | "exit" | "return" => m.leave arguments
    | "break" => m.skip .leavesLoop arguments
    | "continue" => m.skip .endsPass arguments
    | "." =>
      match arguments with
      | [] => m.exit 0
      | script :: _ =>
        match (fileAt? t script).bind FileTree.text? with
        | some text => nested text.toList m
        | none => m.exit 2 .exits
    | "kill" => m.kill arguments
    | "eval" => if arguments.isEmpty then m.exit 0 else nested (joined arguments) m
    | "exec" =>
      match arguments with
      | [] => m.exit 0
      | name :: rest =>
        let r := m.runProgram t nested name rest
        match r.ending with
        | .dies _ => r
        | _ => { r with ending := .exits }
    | "command" => if arguments.isEmpty then m.exit 0 else call m t nested arguments
    | "export" | "readonly" => m.assign arguments
    | "unset" => (arguments.foldl (fun m a => m.bind a "") m).exit 0
    | "read" => m.readLine arguments
    | "wait" => { m with clock := max m.clock m.background }.exit 0
    | "trap" => m.trap arguments
    | "shift" | "local" => m.exit 2 .exits
    | ":" | "set" | "umask" | "ulimit" | "times" | "alias" | "hash" | "jobs" => m.exit 0
    | "cd" => m.exit (if arguments.all (isDirectory t) then 0 else 2)
    | _ => (m.runProgram t nested name arguments).asProcess m

end Machine

end MailFilter.Shell
