import MailFilter.Shell.Call

/-!
# Running Commands in the Shell

A command of the shell takes the state of a machine to another state, to what the command wrote and
to how it ended. Redirections only say what is read: nothing is written to a file. Shells run inside
each other to a given depth.
-/

namespace MailFilter.Shell

/-! ### Redirections -/

/-- Opens the files of redirections, of which one may be read from. It fails where one cannot be
opened. -/
def Machine.redirect (m : Machine) (t : FileTree) (nested : Nested) : List Redirection → Run
  | [] => m.exit m.status
  | r :: rest =>
    let target := m.wholeText nested r.target
    target.andThen fun m =>
      let path := String.ofList target.output
      if r.operator = "<" then
        match (fileAt? t path).bind FileTree.text? with
        | some text => { m with input := text.toList }.redirect t nested rest
        | none => m.exit 2 .exits
      else if r.operator = ">" ∨ r.operator = ">>" ∨ r.operator = ">|" then
        if isWritable t path then m.redirect t nested rest else m.exit 2 .exits
      else m.redirect t nested rest

/-- Whether the output goes elsewhere. -/
def Redirection.takesOutput (r : Redirection) : Bool :=
  r.operator.toList.head? == some '>' && r.descriptor.getD 1 == 1

/-- The commands that end the shell where their redirections fail. -/
def specialCommands : List String :=
  ["break", ":", "continue", ".", "eval", "exec", "exit", "export", "readonly", "return", "set",
    "shift", "times", "trap", "unset"]

/-- Does something with redirections. Where they fail it is not done. -/
def Machine.redirecting (m : Machine) (t : FileTree) (nested : Nested) (rs : List Redirection)
    (onFault : Ending) (act : Machine → Run) : Run :=
  let opened := m.redirect t nested rs
  if opened.ending = .goesOn then
    let r := act { opened.machine with status := m.status }
    let input := if rs.any (·.operator == "<") then m.input else r.machine.input
    { r with
      machine := { r.machine with input := input }
      output := if rs.any Redirection.takesOutput then [] else r.output }
  else m.exit 2 onFault

/-! ### Simple commands -/

/-- The name and the value of an assignment. -/
def assignment? (name : List Char) : Word → Option (String × Word)
  | .bare '=' :: value =>
    if name.isEmpty || name.head?.any Text.isDigit then none
    else some (String.ofList name, value)
  | .bare c :: rest => if isNameChar c then assignment? (name ++ [c]) rest else none
  | _ => none

/-- The assignments in front of a command, and its other words. -/
def splitAssignments : List Word → List (String × Word) × List Word
  | [] => ([], [])
  | w :: rest =>
    match assignment? [] w with
    | some a =>
      let (as, ws) := splitAssignments rest
      (a :: as, ws)
    | none => ([], w :: rest)

/-- Makes assignments. -/
def Machine.assignAll (m : Machine) (nested : Nested) : List (String × Word) → Run
  | [] => m.writes []
  | (name, value) :: rest =>
    let r := m.wholeText nested value
    { r with output := [] }.andThen fun m =>
      (m.bind name (String.ofList r.output)).assignAll nested rest

/-- Runs a simple command. Without a name it only makes assignments, and its exit code is the one of
the last command that was run for a word. -/
def Machine.simple (m : Machine) (t : FileTree) (nested : Nested) (words : List Word)
    (redirections : List Redirection) : Run :=
  let (assignments, words) := splitAssignments words
  let (fields, expanded) := m.fields nested words
  let onFault := if specialCommands.contains (fields.headD "") then .exits else .goesOn
  { expanded with output := [] }.andThen fun expanded =>
    expanded.redirecting t nested redirections onFault fun m =>
      let assigned := m.assignAll nested assignments
      let expandedWords : List Word := words ++ assignments.map Prod.snd
      if fields.isEmpty then
        assigned.andThen fun m =>
          m.exit (if expandedWords.flatten.any Piece.isOutput then m.wordStatus else 0)
      else assigned.andThen fun assigned =>
        let r := assigned.call t nested fields
        if assignments.isEmpty then r
        else { r with machine := { r.machine with bindings := m.bindings } }

/-! ### Forms of words -/

/-- Whether a text has a form, in which a star stands for any text and a question mark for any
character. -/
def hasForm : (form : List (Char × Bool)) → (text : List Char) → Bool
  | [], text => text.isEmpty
  | ('*', false) :: form, [] => hasForm form []
  | ('*', false) :: form, c :: text =>
    hasForm form (c :: text) || hasForm (('*', false) :: form) text
  | (f, quoted) :: form, c :: text => (f == c || (f == '?' && !quoted)) && hasForm form text
  | _, [] => false
termination_by form text => form.length + text.length

/-- The characters of a form, each with whether it stands for itself. -/
def Machine.form (m : Machine) (nested : Nested) (w : Word) : List (Char × Bool) :=
  w.flatMap fun p => (m.value nested p).output.map fun c =>
    (c, match p with | .bare _ => false | _ => true)

/-! ### Commands -/

/-- How many passes of a loop are made before it counts as one without an end. -/
def passLimit : Nat := 10000

/-- Runs a loop, out of which its body may break. -/
def Machine.looping (m : Machine) (act : Machine → Run) : Run :=
  let r := act { m with inLoop := true }
  { r with machine := { r.machine with inLoop := m.inLoop } }

/-- Makes passes of a loop as long as the test has a verdict. -/
def makePasses (verdict : Bool) (test body : Machine → Run) :
    (passes status : Nat) → Machine → Run
  | 0, _, m => { m with clock := m.clock + endless }.exit 1 .exits
  | passes + 1, status, m =>
    let again := makePasses verdict test body passes
    let tested := test m
    if tested.ending = .endsPass then
      { tested with ending := .goesOn }.andThen (again status)
    else
      tested.afterPass fun m =>
        if (m.status == 0) == verdict then (body m).afterPass fun m => again m.status m
        else m.exit status

/-- Makes a pass of a loop for each of several texts. -/
def loopOver (name : String) (body : Machine → Run) : List String → Machine → Run
  | [], m => m.writes []
  | text :: texts, m => (body (m.bind name text)).afterPass fun m => loopOver name body texts m

/-- Runs a command. -/
def Command.run (t : FileTree) (nested : Nested) : Command → Machine → Run
  | .simple words redirections, m => m.simple t nested words redirections
  | .pipe a b, m =>
    let first := (run t nested a m).within m
    let second := (run t nested b { m with input := first.output }).within m
    { second with
      machine :=
        { second.machine with
          clock := max first.machine.clock second.machine.clock, input := first.machine.input }
      ending := if first.ending = .goesOn then second.ending else first.ending }
  | .negation c, m =>
    (run t nested c m).andThen fun m => m.exit (if m.status = 0 then 1 else 0)
  | .both a b, m =>
    (run t nested a m).andThen fun m => if m.status = 0 then run t nested b m else m.writes []
  | .either a b, m =>
    (run t nested a m).andThen fun m => if m.status = 0 then m.writes [] else run t nested b m
  | .sequence a b, m => (run t nested a m).andThen fun m => run t nested b m
  | .background c, m =>
    let r := run t nested c { m with input := [] }
    { m with background := max m.background r.machine.clock }.exit 0
  | .subshell c, m => (run t nested c m).within m
  | .redirected c redirections, m =>
    m.redirecting t nested redirections .goesOn fun m => run t nested c m
  | .branch test yes no, m =>
    (run t nested test m).andThen fun m =>
      if m.status = 0 then run t nested yes m else run t nested no m
  | .loop verdict test body, m =>
    m.looping fun m =>
      makePasses verdict (fun m => run t nested test m) (fun m => run t nested body m) passLimit 0 m
  | .each name words body, m =>
    let (texts, expanded) := m.fields nested words
    expanded.andThen fun m => m.looping fun m =>
      if texts.isEmpty then m.exit 0 else loopOver name (fun m => run t nested body m) texts m
  | .choice subject forms yes no, m =>
    let text := m.wholeText nested subject
    { text with output := [] }.andThen fun m =>
      if forms.any fun f => hasForm (m.form nested f) text.output then run t nested yes m
      else run t nested no m

/-- Runs a text in a shell. Shells run inside each other at most `depth` deep. A text that is no
command ends the shell. -/
def interpret (t : FileTree) : (depth : Nat) → Nested
  | 0, _, m => m.exit 126 .exits
  | depth + 1, text, m =>
    let script := Script.ofText text
    let r := script.command.run t (interpret t depth) m
    if script.isWhole then r else r.andThen fun m => m.exit 2 .exits

end MailFilter.Shell
