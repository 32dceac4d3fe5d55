import MailFilter.Program.Run
import Std.Time.DateTime.Timestamp

/-!
# The Program

Reads the files that a command line is about, runs the command on them, and writes back those that
have changed. Everything else is decided elsewhere.
-/

namespace MailFilter.Main

open Calendar (Instant)
open Program (Surroundings)

/-- The time of the system, and the nanoseconds after it for later readings. -/
def readClock : IO (Nat → Instant) := do
  let now ← Std.Time.Timestamp.now
  return fun n => .ofEpoch now.val.second.val (now.val.nano.val.toNat + n)

/-- The variables that set something. -/
def readEnvironment : IO Environment := do
  let mut found := []
  for k in [Settings.Key.rulesPath, .timeout, .searchMode, .parallel, .quiet] do
    let name := "MAILMATCH_" ++ k.name.toUpper
    if let some value ← IO.getEnv name then
      found := found ++ [(name, value)]
  return found

/-- The directory for the files of settings and rules. -/
def configDirectory : IO Path := do
  match ← IO.getEnv "XDG_CONFIG_HOME" with
  | some directory => return ⟨directory⟩
  | none => return ⟨((← IO.getEnv "HOME").getD "") ++ "/.config"⟩

/-- Adds the file at a path to a tree, if there is one. -/
def addFile (t : FileTree) (p : Path) : IO FileTree := do
  try
    let bytes ← IO.FS.readBinFile p.text
    let place := FileTree.resolve p.components
    let t := (t.makeParents p).toOption.getD t
    return (t.writeAt place bytes).toOption.getD t
  catch _ => return t

/-- The path of a place. -/
def pathOf : Place → String
  | "/" :: rest => "/" ++ "/".intercalate rest
  | place => "/".intercalate place

/-- Writes the files of a tree that are not in another one. -/
def writeChanges (before after : FileTree) : IO Unit := do
  for (place, node) in after.entries.reverse do
    match node, before.find? place with
    | .directory, none => IO.FS.createDirAll (pathOf place)
    | .file bytes, old =>
      let same :=
        match old with
        | some (.file b) => b.data == bytes.data
        | _ => false
      if !same then IO.FS.writeBinFile (pathOf place) bytes
    | _, _ => pure ()

/-- The files that a command line is about: the program's own ones and those that its words name. -/
def readFiles (s : Surroundings) (arguments : List String) : IO FileTree := do
  let config := s.ownFile "config.toml"
  let t ← addFile .empty config
  let named :=
    match (Settings.load s.environment config t).1 with
    | .ok settings => settings.rulesPath.toList
    | .error _ => []
  let own := s.ownFile "rules.toml"
  (own :: named ++ arguments.map Path.mk).foldlM addFile t

/-- What is printed for a failure whose message is not worded by the library. -/
def unworded : Program.Fault → String
  | .command _ => "a date has no form for mail headers, so a command cannot be made for its message"
  | .store (.countFull name) => s!"the uses of rule '{name}' cannot be counted any further"
  | _ => "a file cannot be read"

/-- What is printed for a command line that is not accepted. -/
def usage : Program.UsageFault → String
  | .versionRequested => "mailmatch 0.3.0"
  | _ => "Usage: mailmatch [OPTIONS] <COMMAND>"

/-- Runs the program on a command line and gives its exit code. -/
def perform (arguments : List String) : IO UInt32 := do
  let stdout ← IO.getStdout
  let stderr ← IO.getStderr
  let mut answer := ""
  if arguments.contains "remove" || arguments.contains "rm" then
    answer ← (← IO.getStdin).getLine
  let surroundings : Surroundings :=
    { environment := ← readEnvironment
      configDirectory := ← configDirectory
      input := answer
      clock := ← readClock
      colours := ← stdout.isTty }
  let files ← readFiles surroundings arguments
  let (ending, world) := Program.run surroundings arguments files
  writeChanges files world.files
  stdout.putStr world.output
  stderr.putStr world.notes
  match ending with
  | .usage fault => (if fault.exitCode = 0 then stdout else stderr).putStrLn (usage fault)
  | .failed fault =>
    stderr.putStrLn (Report.paint surroundings.colours .boldRed "error:" ++ " " ++
      fault.message?.getD (unworded fault))
  | .finished _ => pure ()
  return UInt32.ofNat ending.exitCode

end MailFilter.Main

/-- Runs the program. -/
def main (arguments : List String) : IO UInt32 := MailFilter.Main.perform arguments
