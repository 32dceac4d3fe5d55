import MailFilter.Program.Rules

/-!
# Running the Program

A run reads the settings, which are written down first if there are none, and then does what the
command line asks for.
-/

namespace MailFilter.Program

open Procedure (change result printLine)

namespace Session

/-- Changes a setting and writes the settings down. The setting is written as `key=value`. -/
def setSetting (s : Session) (setting : String) : Procedure Unit :=
  match Text.splitFirst? '=' setting.toList with
  | none => Procedure.fail (.input "Invalid format. Use: mailmatch config set key=value")
  | some (key, value) => do
    let key := Text.trimmed (String.ofList key)
    let changed := s.settings.set key (String.ofList value)
    result .settings changed.1
    change .settings (changed.2.save (s.surroundings.ownFile "config.toml"))
    let shown ← result .settings (changed.2.get key)
    s.say s!"Set {key} = {shown}"

/-- Prints a setting. -/
def getSetting (s : Session) (key : String) : Procedure Unit := do
  let value ← result .settings (s.settings.get (Text.trimmed key))
  printLine value

/-- Does what a command asks for. The answer is whether all is well. -/
def perform (s : Session) : Command → Procedure Bool
  | .check rule => s.check rule
  | .filter choice count messages => do
    s.filter choice count messages
    return true
  | .classify first messages => do
    s.classify first messages
    return true
  | .search query mode messages => do
    s.search query mode messages
    return true
  | .rules command => do
    s.rules command
    return true
  | .setSetting setting => do
    s.setSetting setting
    return true
  | .getSetting key => do
    s.getSetting key
    return true

end Session

/-- Reads the settings and does what a request asks for. -/
def Request.perform (r : Request) (surroundings : Surroundings) : Procedure Bool := do
  let settings ←
    change .settings (Settings.load surroundings.environment (surroundings.ownFile "config.toml"))
  Session.perform ⟨surroundings, settings, r.quiet || settings.quiet⟩ r.command

/-- How a run ended. -/
inductive Ending where
  | usage (fault : UsageFault)
  | finished (well : Bool)
  | failed (fault : Fault)

/-- The exit code of a run. -/
def Ending.exitCode : Ending → Nat
  | usage fault => fault.exitCode
  | finished well => if well then 0 else 1
  | failed _ => 1

/-- Runs the program on a command line. -/
def run (surroundings : Surroundings) (arguments : List String) (t : FileTree) : Ending × World :=
  match Request.ofArguments arguments with
  | .error e => (.usage e, { files := t })
  | .ok r =>
    match r.perform surroundings { files := t } with
    | (.ok well, w) => (.finished well, w)
    | (.error e, w) => (.failed e, w)

end MailFilter.Program
