import MailFilter.Message.Source
import MailFilter.Program.Command
import MailFilter.Settings.SettingsFile
import MailFilter.Shell.Run
import MailFilter.Store.RuleFile

/-!
# Sessions

What a command works with, and what comes out of it: texts for the two output streams, the files
afterwards, and how it ended.
-/

namespace MailFilter.Program

open Calendar (Instant)

/-- Why a command fails. -/
inductive Fault where
  | syntax_ (fault : SyntaxError)
  | store (fault : StoreFault)
  | messages (fault : Message.LoadFault)
  | settings (fault : SettingsFault)
  | input (message : String)
  /-- A command cannot be made for a message. -/
  | command (fault : CommandTemplate.Fault)
deriving DecidableEq

/-- The text of the message, if the wording is known. -/
def Fault.message? : Fault → Option String
  | syntax_ fault => some ("Syntax error: " ++ fault.message)
  | store fault => fault.message?.map ("Rule error: " ++ ·)
  | messages fault => fault.message?.map ("Message error: " ++ ·)
  | settings fault => fault.message?.map ("Configuration error: " ++ ·)
  | input message => some ("Invalid input: " ++ message)
  | command _ => none

/-- What surrounds a run of the program: the variables, the directory for the files of settings and
rules, the text to be read from the input, the clock, whether colours are used, and what runs the
commands of rules in view of the files. -/
structure Surroundings where
  environment : Environment
  configDirectory : Path
  input : String
  clock : Nat → Instant
  colours : Bool
  runner : FileTree → Runner := Shell.runner

/-- A file in the program's own directory. -/
def Surroundings.ownFile (s : Surroundings) (name : String) : Path :=
  ⟨s.configDirectory.text ++ "/mailmatch/" ++ name⟩

/-- What a command works with. -/
structure Session where
  surroundings : Surroundings
  settings : Settings
  quiet : Bool

namespace Session

/-- The file of rules: the one in the settings, or the one in the program's own directory. -/
def ruleFile (s : Session) : RuleFile :=
  { path := s.settings.rulesPath.getD (s.surroundings.ownFile "rules.toml") }

/-- What the evaluation of rules depends on. -/
def context (s : Session) (now : Instant) (t : FileTree) : Context :=
  ⟨now, s.surroundings.runner t, s.settings.timeout.map fun n => n.toNat * 1000⟩

end Session

/-! ### Procedures -/

/-- What has come out so far: the texts for the output and for notes, and the files. -/
structure World where
  output : String := ""
  notes : String := ""
  files : FileTree

/-- A part of a command. It may fail; what came out before that stays. -/
def Procedure (α : Type) := World → Except Fault α × World

namespace Procedure

/-- Answers without doing anything. -/
def done {α : Type} (a : α) : Procedure α := fun w => (.ok a, w)

/-- Fails. -/
def fail {α : Type} (f : Fault) : Procedure α := fun w => (.error f, w)

/-- One procedure and then another one. -/
def andThen {α β : Type} (a : Procedure α) (next : α → Procedure β) : Procedure β := fun w =>
  match a w with
  | (.ok x, w) => next x w
  | (.error f, w) => (.error f, w)

instance : Monad Procedure where
  pure := done
  bind := andThen

/-- A result that does not depend on the files. -/
def result {α ε : Type} (fault : ε → Fault) : Except ε α → Procedure α
  | .ok a => done a
  | .error e => fail (fault e)

/-- Reads from the files. -/
def reading {α : Type} (f : FileTree → α) : Procedure α := fun w => (.ok (f w.files), w)

/-- Reads from the files, or fails. -/
def query {α ε : Type} (fault : ε → Fault) (f : FileTree → Except ε α) : Procedure α :=
  andThen (reading f) (result fault)

/-- Changes the files. -/
def change {α ε : Type} (fault : ε → Fault) (f : FileTree → Except ε α × FileTree) : Procedure α :=
  fun w =>
    match f w.files with
    | (.ok a, t) => (.ok a, { w with files := t })
    | (.error e, t) => (.error (fault e), { w with files := t })

/-- Writes a text to the output. -/
def print (text : String) : Procedure Unit := fun w =>
  (.ok (), { w with output := w.output ++ text })

/-- Writes a line to the output. -/
def printLine (text : String) : Procedure Unit := print (text ++ "\n")

/-- Writes a line to the notes. -/
def note (text : String) : Procedure Unit := fun w =>
  (.ok (), { w with notes := w.notes ++ text ++ "\n" })

/-- Writes lines to the output. -/
def printLines : List String → Procedure Unit
  | [] => done ()
  | l :: rest => andThen (printLine l) fun _ => printLines rest

end Procedure

end MailFilter.Program
